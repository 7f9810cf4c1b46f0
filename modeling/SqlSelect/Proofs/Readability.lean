import SqlSelect.Proofs.Decoding
import SqlSelect.Proofs.Run

/-!
Unique readability of MySQL statements. Two queries that are written as the same
statement have the same names in it, and conditions of the same forms with the same
connectors between them; only the columns of tests against no values do not show.
-/

namespace SqlSelect

open Lexeme

/-- Two conditions that are written alike. A test against no values is a constant,
which does not tell its column. -/
structure SameClause (d : Dialect) (c c' : Condition) : Prop where
  form : c.form = c'.form
  placeholders : c.bindings.length = c'.bindings.length
  column : (∀ negated, c.form ≠ .among 0 negated) → d.column c.column = d.column c'.column

/-- Two queries that are written alike. The connector of a first condition is not written. -/
structure SameStatement (d : Dialect) (q q' : Query) : Prop where
  columns : q.columns.map d.column = q'.columns.map d.column
  table : q.table.map d.table = q'.table.map d.table
  conditions : List.Forall₂ (SameClause d) q.conditions q'.conditions
  connectors : q.conditions.tail.map Condition.connector =
    q'.conditions.tail.map Condition.connector

section MySql

variable {tablePrefix : String}

theorem column_eq_of_ofText {name name' : String}
    (h : ofText ((Dialect.mysql tablePrefix).column name) =
      ofText ((Dialect.mysql tablePrefix).column name')) :
    (Dialect.mysql tablePrefix).column name = (Dialect.mysql tablePrefix).column name' := by
  rw [← String.toList_inj, ← (writtenName_column tablePrefix name).2,
    ← (writtenName_column tablePrefix name').2, h]

theorem table_eq_of_ofText {name name' : String}
    (h : ofText ((Dialect.mysql tablePrefix).table name) =
      ofText ((Dialect.mysql tablePrefix).table name')) :
    (Dialect.mysql tablePrefix).table name = (Dialect.mysql tablePrefix).table name' := by
  rw [← String.toList_inj, ← (writtenName_table tablePrefix name).2,
    ← (writtenName_table tablePrefix name').2, h]

theorem columns_eq_of_columnList {columns columns' : List String}
    (h : columnList tablePrefix columns = columnList tablePrefix columns') :
    columns.map (Dialect.mysql tablePrefix).column =
      columns'.map (Dialect.mysql tablePrefix).column := by
  have hnames (columns : List String) :
      ∀ ls ∈ columns.map fun name => ofText ((Dialect.mysql tablePrefix).column name),
        WrittenName ls := by
    intro ls hls
    obtain ⟨name, -, rfl⟩ := List.mem_map.mp hls
    exact (writtenName_column tablePrefix name).1
  have htexts := intercalate_inj (hnames columns) (hnames columns') h
  rw [← List.forall₂_eq_eq_eq, List.forall₂_map_left_iff, List.forall₂_map_right_iff]
    at htexts ⊢
  exact htexts.imp fun _ _ => column_eq_of_ofText

variable {c c' : Condition} {s t : List (Lexeme (List Char))}

/-- No name begins like a constant clause. -/
theorem constant_append_ne {clause : String} (hclause : c.form.constant? = some clause)
    {ls : List (Lexeme (List Char))} (hls : WrittenName ls) : ofPlain clause ++ s ≠ ls ++ t := by
  obtain ⟨l, rest, rfl, hl⟩ := hls.exists_cons
  obtain ⟨negated, -, rfl⟩ := Form.constant?_eq_some_iff.mp hclause
  intro h
  have hhead : ofPlain (if negated then "1 = 1" else "0 = 1") ++ s = l :: (rest ++ t) := h
  cases negated with
  | false =>
      cases List.head_eq_of_cons_eq hhead
      cases hl.eq_star
  | true =>
      cases List.head_eq_of_cons_eq hhead
      cases hl.eq_star

theorem prefixFree_constant :
    PrefixFree (fun negated => if negated then "1 = 1" else "0 = 1") [false, true] := by
  unfold PrefixFree
  decide

theorem form_eq_of_constant {clause clause' : String} (hclause : c.form.constant? = some clause)
    (hclause' : c'.form.constant? = some clause')
    (h : ofPlain clause ++ s = ofPlain clause' ++ t) : c.form = c'.form ∧ s = t := by
  obtain ⟨negated, hform, rfl⟩ := Form.constant?_eq_some_iff.mp hclause
  obtain ⟨negated', hform', rfl⟩ := Form.constant?_eq_some_iff.mp hclause'
  obtain ⟨rfl, hrest⟩ := prefixFree_constant.append_inj (by simp) (by simp) h
  exact ⟨hform.trans hform'.symm, hrest⟩

/-- Whatever follows them, clauses that read alike are of conditions that are written alike. -/
theorem clauseOf_inj (hc : c.form.Listed (Dialect.mysql tablePrefix).operators)
    (hc' : c'.form.Listed (Dialect.mysql tablePrefix).operators)
    (h : clauseOf tablePrefix c ++ s = clauseOf tablePrefix c' ++ t) :
    SameClause (Dialect.mysql tablePrefix) c c' ∧ s = t := by
  have hsize (hform : c.form = c'.form) : c.bindings.length = c'.bindings.length := by
    rw [Condition.length_bindings, Condition.length_bindings, hform]
  have hname := (writtenName_column tablePrefix c.column).1
  have hname' := (writtenName_column tablePrefix c'.column).1
  rw [clauseOf, clauseOf] at h
  -- A constant begins with a digit, where a column has an identifier or a star.
  cases hclause : c.form.constant? with
  | some clause =>
      rw [hclause] at h
      cases hclause' : c'.form.constant? with
      | some clause' =>
          rw [hclause'] at h
          obtain ⟨hform, hrest⟩ := form_eq_of_constant hclause hclause' h
          obtain ⟨negated, hconstant, -⟩ := Form.constant?_eq_some_iff.mp hclause
          exact ⟨⟨hform, hsize hform, fun hne => absurd hconstant (hne negated)⟩, hrest⟩
      | none =>
          rw [hclause', List.append_assoc] at h
          exact absurd h (constant_append_ne hclause hname')
  | none =>
      rw [hclause, List.append_assoc] at h
      cases hclause' : c'.form.constant? with
      | some clause' =>
          rw [hclause'] at h
          exact absurd h.symm (constant_append_ne hclause' hname)
      | none =>
          rw [hclause', List.append_assoc] at h
          obtain ⟨hcolumn, hform, hrest⟩ := Form.name_phrase_inj hc hc' hname hname' h
          exact ⟨⟨hform, hsize hform, fun _ => column_eq_of_ofText hcolumn⟩, hrest⟩

theorem prefixFree_connector :
    PrefixFree (fun connector : Connector => " " ++ connector.word ++ " ") [.and, .or] := by
  unfold PrefixFree
  decide

theorem connector_mem (connector : Connector) : connector ∈ [Connector.and, .or] := by
  cases connector <;> simp

theorem joined_inj {conditions conditions' : List Condition}
    (hq : ∀ c ∈ conditions, c.form.Listed (Dialect.mysql tablePrefix).operators)
    (hq' : ∀ c ∈ conditions', c.form.Listed (Dialect.mysql tablePrefix).operators)
    (h : joined (conditions.map fun c => (c.connector, clauseOf tablePrefix c)) =
      joined (conditions'.map fun c => (c.connector, clauseOf tablePrefix c))) :
    List.Forall₂ (SameClause (Dialect.mysql tablePrefix)) conditions conditions' ∧
      conditions.map Condition.connector = conditions'.map Condition.connector := by
  induction conditions generalizing conditions' with
  | nil =>
      cases conditions' with
      | nil => exact ⟨.nil, rfl⟩
      | cons c' conditions' => simp [joined, ofPlain] at h
  | cons c conditions ih =>
      cases conditions' with
      | nil => simp [joined, ofPlain] at h
      | cons c' conditions' =>
          rw [List.forall_mem_cons] at hq hq'
          rw [List.map_cons, List.map_cons, joined, joined] at h
          obtain ⟨hconnector, hclause⟩ :=
            prefixFree_connector.append_inj (connector_mem _) (connector_mem _) h
          obtain ⟨hsame, hrest⟩ := clauseOf_inj hq.1 hq'.1 hclause
          obtain ⟨hconditions, hconnectors⟩ := ih hq.2 hq'.2 hrest
          refine ⟨.cons hsame hconditions, ?_⟩
          rw [List.map_cons, List.map_cons, hconnector, hconnectors]

/-- The table ends before the where clause, as no name has a `w` outside of its identifiers. -/
theorem table_filtered_inj {conditions conditions' : List Condition}
    {ls ms : List (Lexeme (List Char))} (hls : WrittenName ls) (hms : WrittenName ms)
    (hq : ∀ c ∈ conditions, c.form.Listed (Dialect.mysql tablePrefix).operators)
    (hq' : ∀ c ∈ conditions', c.form.Listed (Dialect.mysql tablePrefix).operators)
    (h : ls ++ filtered (conditions.map fun c => (c.connector, clauseOf tablePrefix c)) =
      ms ++ filtered (conditions'.map fun c => (c.connector, clauseOf tablePrefix c))) :
    ls = ms ∧ List.Forall₂ (SameClause (Dialect.mysql tablePrefix)) conditions conditions' ∧
      conditions.tail.map Condition.connector = conditions'.tail.map Condition.connector := by
  have hw : plain 'w' ∉ ls := hls.plain_notMem (by decide)
  have hw' : plain 'w' ∉ ms := hms.plain_notMem (by decide)
  cases conditions with
  | nil =>
      cases conditions' with
      | nil => exact ⟨by simpa [filtered] using h, .nil, rfl⟩
      | cons c' conditions' =>
          have hword := (List.append_nil ls).symm.trans h
          exact absurd hword (ne_append_word (by decide) hw)
  | cons c conditions =>
      cases conditions' with
      | nil =>
          have hword := (List.append_nil ms).symm.trans h.symm
          exact absurd hword (ne_append_word (by decide) hw')
      | cons c' conditions' =>
          rw [List.forall_mem_cons] at hq hq'
          obtain ⟨hname, hclauses⟩ :=
            append_word_inj [' '] "here ".toList rfl (by decide) hw hw' h
          obtain ⟨hsame, hrest⟩ := clauseOf_inj hq.1 hq'.1 hclauses
          obtain ⟨hconditions, hconnectors⟩ := joined_inj hq.2 hq'.2 hrest
          exact ⟨hname, .cons hsame hconditions, hconnectors⟩

/-- The columns end before the table, as they have no `f` outside of their identifiers. -/
theorem lexemes_inj {q q' : Query} {table table' : String}
    (hq : ∀ c ∈ q.conditions, c.form.Listed (Dialect.mysql tablePrefix).operators)
    (hq' : ∀ c ∈ q'.conditions, c.form.Listed (Dialect.mysql tablePrefix).operators)
    (htable : q.table = some table) (htable' : q'.table = some table')
    (h : q.lexemes tablePrefix table = q'.lexemes tablePrefix table') :
    SameStatement (Dialect.mysql tablePrefix) q q' := by
  have hf (columns : List String) : plain 'f' ∉ columnList tablePrefix columns :=
    plain_notMem_columnList tablePrefix (by decide)
  have hselected := List.append_cancel_left h
  obtain ⟨hcolumns, hfrom⟩ := append_word_inj [' '] "rom ".toList rfl (by decide)
    (hf q.columns) (hf q'.columns) hselected
  obtain ⟨hname, hconditions, hconnectors⟩ := table_filtered_inj
    (writtenName_table tablePrefix table).1 (writtenName_table tablePrefix table').1 hq hq' hfrom
  refine ⟨columns_eq_of_columnList hcolumns, ?_, hconditions, hconnectors⟩
  rw [htable, htable', Option.map_some, Option.map_some, table_eq_of_ofText hname]

/-- Whatever calls two queries were built by, if they are written as one and the same
statement, then they agree in all that a statement shows of a query. -/
theorem sameStatement_of_compile_eq (tablePrefix : String) (calls calls' : List Call)
    (sql : String)
    (h : ((Dialect.mysql tablePrefix).build calls).compile (Dialect.mysql tablePrefix) =
      .ok sql)
    (h' : ((Dialect.mysql tablePrefix).build calls').compile (Dialect.mysql tablePrefix) =
      .ok sql) :
    SameStatement (Dialect.mysql tablePrefix) ((Dialect.mysql tablePrefix).build calls)
      ((Dialect.mysql tablePrefix).build calls') := by
  have hlisted := Dialect.listed_build (Dialect.mysql tablePrefix)
  obtain ⟨table, htable, hread⟩ := Query.read?_compile tablePrefix (hlisted calls) h
  obtain ⟨table', htable', hread'⟩ := Query.read?_compile tablePrefix (hlisted calls') h'
  rw [hread, Option.some_inj] at hread'
  exact lexemes_inj (hlisted calls) (hlisted calls') htable htable' hread'

end MySql

def plainCalls : List Call :=
  [.table "t AS f", .select ["a as \x60, w"], .among "?" [] false .or,
    .filter (.single "b" (some (.text "is not")) (.text "x")) .or,
    .between "c" .null .null false .and]

/-- The statement of the calls before, with its operator in other letters, with other
values, and with calls that are replaced or refused. -/
def respelledCalls : List Call :=
  [.table "u", .aliasedTable "t" "f", .select ["a as \x60, w"],
    .among "and 1" [.array []] false .and,
    .filter (.group [[.text "b", .text " IS NOT", .array [.bool true]]]) .or,
    .filter (.group [[.text "d", .null], []]) .or, .between "c" (.text "?") (.array []) false .and]

def sharedStatement : String :=
  "select \x60a\x60 as \x60\x60\x60, w\x60 from \x60t\x60 as \x60f\x60 " ++
    "where 0 = 1 or \x60b\x60 is not ? and \x60c\x60 between ? and ?"

theorem sameStatement_respelledCalls :
    ((Dialect.mysql "").build plainCalls).compile (Dialect.mysql "") = .ok sharedStatement ∧
      ((Dialect.mysql "").build respelledCalls).compile (Dialect.mysql "") =
        .ok sharedStatement ∧
      SameStatement (Dialect.mysql "") ((Dialect.mysql "").build plainCalls)
        ((Dialect.mysql "").build respelledCalls) :=
  ⟨rfl, rfl, sameStatement_of_compile_eq "" plainCalls respelledCalls sharedStatement rfl rfl⟩

end SqlSelect
