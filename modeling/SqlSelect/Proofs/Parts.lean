import SqlSelect.Proofs.Alias

/-!
Names part by part. A table has its prefix on the last part, and a column of several parts
has it on the first one. What has an alias is written by the parts of its base, with the
label behind them.
-/

namespace SqlSelect

theorem notMem_of_mem_splitOn {a : Char} {cs part : List Char} (h : part ∈ cs.splitOn a) :
    a ∉ part := by
  induction cs generalizing part with
  | nil =>
      cases List.mem_singleton.mp h
      exact List.not_mem_nil
  | cons c cs ih =>
      -- The first character opens a part of its own or goes to the first part behind it.
      rw [List.splitOn_cons_eq_if_modifyHead] at h
      cases hsplit : cs.splitOn a with
      | nil => exact absurd hsplit (List.splitOn_ne_nil a cs)
      | cons first rest =>
          rw [hsplit] at h ih
          by_cases hc : c = a
          · rw [if_pos (by simpa using hc), List.mem_cons] at h
            rcases h with rfl | h
            · exact List.not_mem_nil
            · exact ih h
          · rw [if_neg (by simpa using hc), List.modifyHead_cons, List.mem_cons] at h
            rcases h with rfl | h
            · rw [List.mem_cons, not_or]
              exact ⟨Ne.symm hc, ih List.mem_cons_self⟩
            · exact ih (List.mem_cons_of_mem _ h)

namespace Naming

theorem parts_ne_nil (name : String) : parts name ≠ [] := by
  simp [parts, List.splitOn_ne_nil]

theorem parts_of_notMem {name : String} (h : '.' ∉ name.toList) : parts name = [name] := by
  rw [parts, List.splitOn_eq_singleton h, List.map_singleton, String.ofList_toList]

theorem notMem_of_mem_parts {name part : String} (h : part ∈ parts name) :
    '.' ∉ part.toList := by
  obtain ⟨cs, hcs, rfl⟩ := List.mem_map.mp h
  rw [String.toList_ofList]
  exact notMem_of_mem_splitOn hcs

theorem notMem_of_parts_eq_singleton {name part : String} (h : parts name = [part]) :
    '.' ∉ name.toList := by
  have hname : name = part := by
    rw [← intercalate_parts name, h, String.intercalate_singleton]
  subst hname
  exact notMem_of_mem_parts (h ▸ List.mem_cons_self)

theorem exists_parts_of_mem {name : String} (h : '.' ∈ name.toList) :
    ∃ first rest last, parts name = first :: rest ++ [last] := by
  obtain ⟨first, others, hparts⟩ := List.exists_cons_of_ne_nil (parts_ne_nil name)
  rcases List.eq_nil_or_concat others with rfl | ⟨rest, last, rfl⟩
  · exact absurd h (notMem_of_parts_eq_singleton hparts)
  · exact ⟨first, rest, last, by simpa using hparts⟩

theorem parts_injective : Function.Injective parts := by
  intro s t h
  rw [← intercalate_parts s, h, intercalate_parts]

/-- A name that is written part by part. -/
def dotted (n : Naming) (names : List String) : String := ".".intercalate (names.map n.quote)

/-- A name with these parts and, if it has one, this label. -/
def labelled (n : Naming) (names : List String) : Option String → String
  | none => n.dotted names
  | some label => n.dotted names ++ " as " ++ n.quote label

variable (n : Naming)

/-! ### Tables -/

theorem tableParts_ne_nil (table : String) : n.tableParts table ≠ [] := by
  rw [tableParts]
  split
  · simp
  · simp

theorem tableParts_of_notMem {table : String} (h : '.' ∉ table.toList) :
    n.tableParts table = [n.tablePrefix ++ table] := by
  rw [tableParts, parts_of_notMem h]
  rfl

/-- In a dotted table the prefix goes to the last part. -/
theorem tableParts_of_parts {table last : String} {schema : List String}
    (hparts : parts table = schema ++ [last]) (hschema : schema ≠ []) :
    n.tableParts table = schema ++ parts (n.tablePrefix ++ last) := by
  rw [tableParts, hparts, List.reverse_append, List.reverse_singleton, List.singleton_append]
  cases hreverse : schema.reverse with
  | nil => exact absurd (List.reverse_eq_nil_iff.mp hreverse) hschema
  | cons first rest =>
      have hback : (first :: rest).reverse = schema := by rw [← hreverse, List.reverse_reverse]
      simp only [hback]

theorem table_of_split?_eq_none {table : String} (h : Alias.split? table = none) :
    n.table table = n.dotted (n.tableParts table) := by
  rw [Naming.table, h]
  rfl

theorem table_of_notMem {table : String} (h : Alias.split? table = none)
    (hdot : '.' ∉ table.toList) : n.table table = n.quote (n.tablePrefix ++ table) := by
  rw [table_of_split?_eq_none n h, tableParts_of_notMem n hdot, dotted, List.map_singleton,
    String.intercalate_singleton]

theorem table_of_split?_eq_some {aliased base label : String}
    (h : Alias.split? aliased = some (base, label)) :
    n.table aliased = n.table base ++ " as " ++ n.quote (n.tablePrefix ++ label) := by
  have hbase : n.table base = n.bareTable base := by
    rw [Naming.table, Alias.split?_base h]
  rw [hbase, Naming.table, h]

/-! ### Columns -/

theorem path_cons {qualifier : String} {rest : List String} (hrest : rest ≠ []) :
    n.path (qualifier :: rest) = ".".intercalate (n.table qualifier :: rest.map n.quote) := by
  cases rest with
  | nil => contradiction
  | cons second rest => rfl

/-- The parts of a column name without alias. The prefix belongs to the first of several,
which names the table. -/
def columnParts (n : Naming) (name : String) : List String :=
  match parts name with
  | qualifier :: second :: rest => (n.tablePrefix ++ qualifier) :: second :: rest
  | names => names

theorem columnParts_of_parts {name qualifier : String} {rest : List String}
    (hparts : parts name = qualifier :: rest) (hrest : rest ≠ []) :
    n.columnParts name = (n.tablePrefix ++ qualifier) :: rest := by
  obtain ⟨second, rest, rfl⟩ := List.exists_cons_of_ne_nil hrest
  rw [columnParts, hparts]

theorem columnParts_ne_nil (name : String) : n.columnParts name ≠ [] := by
  rw [columnParts]
  split
  · simp
  · exact parts_ne_nil name

theorem column_of_split?_eq_some {aliased base label : String}
    (h : Alias.split? aliased = some (base, label)) :
    n.column aliased = n.column base ++ " as " ++ n.quote label := by
  have hbase : n.column base = n.path (parts base) := by
    rw [Naming.column, Alias.split?_base h]
  rw [hbase, Naming.column, h]

theorem column_of_split?_eq_none {name : String} (h : Alias.split? name = none) :
    n.column name = n.dotted (n.columnParts name) := by
  obtain ⟨qualifier, rest, hparts⟩ := List.exists_cons_of_ne_nil (parts_ne_nil name)
  rw [Naming.column, h]
  simp only [hparts]
  cases rest with
  | nil => rw [columnParts, hparts, dotted, List.map_singleton, String.intercalate_singleton]; rfl
  | cons second rest =>
      have hpoint : '.' ∉ qualifier.toList := notMem_of_mem_parts (hparts ▸ List.mem_cons_self)
      rw [path_cons n (by simp), table_of_notMem n (Alias.split?_of_parts h hparts) hpoint,
        columnParts_of_parts n hparts (by simp)]
      rfl

/-! ### Both alike -/

/-- Names are written by their parts, and labels with a mark. -/
structure WrittenInParts (write : String → String) (partsOf : String → List String)
    (mark : String → String) : Prop where
  ne_nil : ∀ name, partsOf name ≠ []
  bare : ∀ {name}, Alias.split? name = none → write name = n.labelled (partsOf name) none
  aliased : ∀ {name base label}, Alias.split? name = some (base, label) →
    write name = n.labelled (partsOf base) (some (mark label))

theorem writtenInParts_column : n.WrittenInParts n.column n.columnParts id where
  ne_nil := n.columnParts_ne_nil
  bare := n.column_of_split?_eq_none
  aliased h := by
    rw [column_of_split?_eq_some n h, column_of_split?_eq_none n (Alias.split?_base h), labelled]
    rfl

theorem writtenInParts_table :
    n.WrittenInParts n.table n.tableParts (n.tablePrefix ++ ·) where
  ne_nil := n.tableParts_ne_nil
  bare := n.table_of_split?_eq_none
  aliased h := by
    rw [table_of_split?_eq_some n h, table_of_split?_eq_none n (Alias.split?_base h), labelled]

theorem WrittenInParts.exists_labelled {n : Naming} {write : String → String}
    {partsOf : String → List String} {mark : String → String}
    (h : n.WrittenInParts write partsOf mark) (name : String) :
    ∃ names label?, names ≠ [] ∧ write name = n.labelled names label? := by
  cases hsplit : Alias.split? name with
  | none => exact ⟨_, _, h.ne_nil name, h.bare hsplit⟩
  | some split => exact ⟨_, _, h.ne_nil split.1, h.aliased hsplit⟩

/-! ### Parts that tell names apart -/

theorem prefix_injective (s : String) : Function.Injective (s ++ ·) := by
  intro t u (h : s ++ t = s ++ u)
  have hlist : s.toList ++ t.toList = s.toList ++ u.toList := by
    rw [← String.toList_append, ← String.toList_append, h]
  exact String.toList_inj.mp (List.append_cancel_left hlist)

theorem exists_splitOn_append (cs : List Char) :
    ∃ before last, ∀ ds, '.' ∉ ds → (cs ++ ds).splitOn '.' = before ++ [last ++ ds] := by
  induction cs with
  | nil => exact ⟨[], [], fun ds hds => List.splitOn_eq_singleton hds⟩
  | cons c cs ih =>
      obtain ⟨before, last, hsplit⟩ := ih
      by_cases hc : c = '.'
      · refine ⟨[] :: before, last, fun ds hds => ?_⟩
        rw [List.cons_append, List.splitOn_cons_eq_if_modifyHead, if_pos (by simpa using hc),
          hsplit ds hds, List.cons_append]
      · cases before with
        | nil =>
            refine ⟨[], c :: last, fun ds hds => ?_⟩
            rw [List.cons_append, List.splitOn_cons_eq_if_modifyHead, if_neg (by simpa using hc),
              hsplit ds hds]
            rfl
        | cons first before =>
            refine ⟨(c :: first) :: before, last, fun ds hds => ?_⟩
            rw [List.cons_append, List.splitOn_cons_eq_if_modifyHead, if_neg (by simpa using hc),
              hsplit ds hds]
            rfl

/-- What has no point itself goes to the last part of what it is appended to. -/
theorem exists_parts_append (s : String) :
    ∃ before last, ∀ t : String, '.' ∉ t.toList → parts (s ++ t) = before ++ [last ++ t] := by
  obtain ⟨before, last, hsplit⟩ := exists_splitOn_append s.toList
  refine ⟨before.map String.ofList, String.ofList last, fun t ht => ?_⟩
  rw [parts, String.toList_append, hsplit _ ht, List.map_append, List.map_singleton,
    String.ofList_append, String.ofList_toList]

theorem columnParts_injective : Function.Injective n.columnParts := by
  intro v w h
  apply parts_injective
  obtain ⟨first, rest, hparts⟩ := List.exists_cons_of_ne_nil (parts_ne_nil v)
  obtain ⟨first', rest', hparts'⟩ := List.exists_cons_of_ne_nil (parts_ne_nil w)
  simp only [columnParts, hparts, hparts'] at h ⊢
  -- Both names have one part, or both have the prefix on the first of several.
  cases rest with
  | nil =>
      cases rest' with
      | nil => exact h
      | cons second' rest' => simp at h
  | cons second rest =>
      cases rest' with
      | nil => simp at h
      | cons second' rest' =>
          obtain ⟨hfirst, hrest⟩ := List.cons.inj h
          rw [prefix_injective n.tablePrefix hfirst, hrest]

theorem exists_tableParts_of_mem {table : String} (h : '.' ∈ table.toList) :
    ∃ schema last, schema ≠ [] ∧ '.' ∉ last.toList ∧ parts table = schema ++ [last] ∧
      n.tableParts table = schema ++ parts (n.tablePrefix ++ last) := by
  obtain ⟨first, rest, last, hparts⟩ := exists_parts_of_mem h
  have hmem : last ∈ parts table := by simp [hparts]
  exact ⟨first :: rest, last, by simp, notMem_of_mem_parts hmem, hparts,
    n.tableParts_of_parts hparts (by simp)⟩

/-- A dotted table has more parts than the one of a table without points. -/
theorem tableParts_ne {v w : String} (hv : '.' ∈ v.toList) (hw : '.' ∉ w.toList) :
    n.tableParts v ≠ n.tableParts w := by
  obtain ⟨schema, last, hschema, -, -, htable⟩ := n.exists_tableParts_of_mem hv
  intro h
  rw [htable, n.tableParts_of_notMem hw] at h
  obtain ⟨hnil, -⟩ | ⟨-, hnil⟩ := List.append_eq_singleton_iff.mp h
  · exact hschema hnil
  · exact parts_ne_nil _ hnil

theorem tableParts_injective : Function.Injective n.tableParts := by
  intro v w h
  by_cases hv : '.' ∈ v.toList
  · by_cases hw : '.' ∈ w.toList
    · obtain ⟨schema, last, -, hlast, hparts, htable⟩ := n.exists_tableParts_of_mem hv
      obtain ⟨schema', last', -, hlast', hparts', htable'⟩ := n.exists_tableParts_of_mem hw
      obtain ⟨before, behind, happend⟩ := exists_parts_append n.tablePrefix
      -- The parts of the prefix stand between the schema and the name in both tables.
      rw [htable, htable', happend last hlast, happend last' hlast', ← List.append_assoc,
        ← List.append_assoc] at h
      obtain ⟨hfront, hback⟩ := List.append_inj' h rfl
      have hname : last = last' := prefix_injective behind (List.singleton_inj.mp hback)
      apply parts_injective
      rw [hparts, hparts', List.append_cancel_right hfront, hname]
    · exact absurd h (n.tableParts_ne hv hw)
  · by_cases hw : '.' ∈ w.toList
    · exact absurd h.symm (n.tableParts_ne hw hv)
    · rw [n.tableParts_of_notMem hv, n.tableParts_of_notMem hw, List.singleton_inj] at h
      exact prefix_injective n.tablePrefix h

end Naming

end SqlSelect
