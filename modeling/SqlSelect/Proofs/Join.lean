import SqlSelect.Proofs.Quoting
import SqlSelect.Proofs.Shape

/-!
Aliased tables that are put together from a table and a label. The text between the two can
meet the end of the table or the beginning of the label, and the table may have a separator of
its own: then the join is taken apart at another place.
-/

namespace SqlSelect

namespace Alias

/-- A blank and the word behind it, with nothing after them but the end of the text. -/
def EndsInWord (cs : List Char) : Prop :=
  ∃ before blank word, Text.isBlank blank = true ∧ IsWord word ∧ cs = before ++ blank :: word

/-- A table and a label between which a separator is the first one and no longer than it was
written. -/
structure Joinable (table label : List Char) : Prop where
  no_separator : ¬ HasSeparator table
  table_end : NotBlank table.getLast?
  no_word : ¬ EndsInWord table
  label_start : NotBlank label.head?

variable {table label : List Char}

theorem toList_join (table label : String) :
    (join table label).toList = table.toList ++ " as ".toList ++ label.toList := by
  rw [join, String.toList_append, String.toList_append]

theorem isRun_space : IsRun [' '] := .cons rfl (by simp)

theorem isSeparator_as : IsSeparator " as ".toList :=
  .mk isRun_space (.mk (.inl rfl) (.inl rfl)) isRun_space

/-! ### Separators that reach over the end of the table -/

theorem HasSeparator.append_left {cs : List Char} (h : HasSeparator cs) (before : List Char) :
    HasSeparator (before ++ cs) := by
  obtain ⟨before', separator, after, hseparator, rfl⟩ := h
  exact ⟨before ++ before', separator, after, hseparator, by simp⟩

theorem EndsInWord.append_left {cs : List Char} (h : EndsInWord cs) (before : List Char) :
    EndsInWord (before ++ cs) := by
  obtain ⟨before', blank, word, hblank, hword, rfl⟩ := h
  exact ⟨before ++ before', blank, word, hblank, hword, by simp⟩

theorem IsRun.exists_concat {run : List Char} (h : IsRun run) :
    ∃ blanks blank, run = blanks ++ [blank] ∧ Text.isBlank blank = true := by
  have hrun := List.dropLast_append_getLast h.ne_nil
  exact ⟨_, _, hrun.symm, h.blank _ (List.getLast_mem h.ne_nil)⟩

theorem IsRun.not_notBlank {run : List Char} (h : IsRun run) : ¬ NotBlank run.getLast? := by
  obtain ⟨blanks, blank, rfl, hblank⟩ := h.exists_concat
  intro hend
  have hlast := hend blank (by simp)
  rw [hblank] at hlast
  cases hlast

/-- A separator begins in the first of two texts and the second one begins with the blank that
a join puts behind the table. Then the first text holds all of it, or only its first blanks, or
these and the word. -/
theorem of_append_eq_separator {cs ds rest separator : List Char} (h : IsSeparator separator)
    (hcs : cs ≠ []) (heq : cs ++ ' ' :: ds = separator ++ rest) :
    HasSeparator cs ∨ ¬ NotBlank cs.getLast? ∨ EndsInWord cs := by
  obtain ⟨hbefore, ⟨ha, hs⟩, hafter⟩ := h
  rename_i before after a s
  rw [List.append_assoc, List.append_assoc] at heq
  rcases List.append_eq_append_iff.mp heq with ⟨more, hmore, -⟩ | ⟨more, rfl, hmore⟩
  · -- The first text ends within the blanks before the word.
    subst hmore
    have hblank : ∀ c ∈ cs, Text.isBlank c = true :=
      fun c hc => hbefore.blank c (List.mem_append_left more hc)
    exact .inr (.inl (IsRun.not_notBlank ⟨hcs, hblank⟩))
  · match more with
    | [] =>
        rw [List.append_nil]
        exact .inr (.inl hbefore.not_notBlank)
    | [_] =>
        -- The second letter of the word would be a blank.
        obtain ⟨-, hspace, -⟩ : a = _ ∧ s = ' ' ∧ _ := by simpa using hmore
        subst hspace
        simp at hs
    | [_, _] =>
        obtain ⟨rfl, rfl, -⟩ : a = _ ∧ s = _ ∧ _ := by simpa using hmore
        obtain ⟨front, blank, rfl, hblank⟩ := hbefore.exists_concat
        exact .inr (.inr ⟨front, blank, [a, s], hblank, .mk ha hs, by simp⟩)
    | _ :: _ :: blank :: more =>
        obtain ⟨b, blanks, rfl⟩ := List.exists_cons_of_ne_nil hafter.ne_nil
        obtain ⟨rfl, rfl, rfl, -⟩ : a = _ ∧ s = _ ∧ b = blank ∧ _ := by simpa using hmore
        have hblank : IsRun [b] := .cons (hafter.blank b List.mem_cons_self) (by simp)
        exact .inl ⟨[], _, more, .mk hbefore (.mk ha hs) hblank, by simp⟩

/-! ### Where a join is taken apart -/

theorem Joinable.isSplit (h : Joinable table label) :
    IsSplit (table ++ " as ".toList ++ label) table label where
  parts := ⟨_, isSeparator_as, rfl⟩
  base_end := h.table_end
  label_start := h.label_start
  shortest := by
    rintro base' label' ⟨⟨separator, hseparator, hname⟩, -, -⟩
    by_contra hlength
    -- A shorter base leaves some of the table to its separator.
    have hbase : base' <+: table ++ " as ".toList ++ label :=
      ⟨separator ++ label', by rw [hname, List.append_assoc]⟩
    have htable : table <+: table ++ " as ".toList ++ label :=
      ⟨" as ".toList ++ label, by rw [List.append_assoc]⟩
    have hprefix : base' <+: table := List.prefix_of_prefix_length_le hbase htable (by omega)
    obtain ⟨cs, rfl⟩ := hprefix
    have hcs : cs ≠ [] := by
      rintro rfl
      simp at hlength
    have heq : cs ++ ' ' :: ('a' :: 's' :: ' ' :: label) = separator ++ label' := by
      simpa using hname
    rcases of_append_eq_separator hseparator hcs heq with hseparator | hend | hword
    · exact h.no_separator (hseparator.append_left base')
    · apply hend
      have htable := h.table_end
      rwa [List.getLast?_append_of_ne_nil _ hcs] at htable
    · exact h.no_word (hword.append_left base')

theorem IsSplit.joinable (h : IsSplit (table ++ " as ".toList ++ label) table label) :
    Joinable table label where
  no_separator := h.not_hasSeparator
  table_end := h.base_end
  label_start := h.label_start
  no_word := by
    rintro ⟨before, blank, word, hblank, hword, rfl⟩
    -- The word at the end of the table and the blank behind it are a separator before the base
    -- ends.
    have hseparator : IsSeparator ([blank] ++ word ++ [' ']) :=
      .mk (.cons hblank (by simp)) hword isRun_space
    obtain ⟨base, rest, hsplit, hlength⟩ :=
      exists_splitChars? before ("as ".toList ++ label) hseparator
    have hname : before ++ ([blank] ++ word ++ [' ']) ++ ("as ".toList ++ label) =
        before ++ blank :: word ++ " as ".toList ++ label := by simp
    rw [hname] at hsplit
    have hshortest := h.shortest _ _ (factors_of_splitChars? hsplit)
    simp only [List.length_append, List.length_cons] at hshortest
    omega

theorem isSplit_join_iff :
    IsSplit (table ++ " as ".toList ++ label) table label ↔ Joinable table label :=
  ⟨IsSplit.joinable, Joinable.isSplit⟩

theorem split?_join_eq_iff {table label : String} :
    split? (join table label) = some (table, label) ↔ Joinable table.toList label.toList := by
  rw [split?_eq_some_iff, toList_join, isSplit_join_iff]

theorem exists_split?_join (table label : String) :
    ∃ base rest, split? (join table label) = some (base, rest) := by
  cases hsplit : split? (join table label) with
  | some split => exact ⟨split.1, split.2, rfl⟩
  | none =>
      rw [split?_eq_none_iff, toList_join] at hsplit
      exact absurd ⟨_, _, _, isSeparator_as, rfl⟩ hsplit

end Alias

namespace Naming

variable {n : Naming} (hn : n.quote = Identifier.backticked)

include hn

/-- A name has no second label. -/
theorem labelled_ne_labelled_append {names names' : List String} {label label' second : String}
    (hne : names ≠ []) (hne' : names' ≠ []) :
    n.labelled names (some label) ≠
      n.labelled names' (some label') ++ " as " ++ n.quote second := by
  intro h
  have hname := Lexeme.writtenName_nameOf hne (some label)
  have hname' := Lexeme.writtenName_nameOf hne' (some label')
  have hsecond : Lexeme.Separated [Lexeme.part second] := (Lexeme.isPart_part second).separated
  have htext : Lexeme.writeAll (Lexeme.nameOf names (some label)) =
      Lexeme.writeAll (Lexeme.nameOf names' (some label') ++
        (Lexeme.ofPlain " as " ++ [Lexeme.part second])) := by
    rw [Lexeme.writeAll_append, Lexeme.writeAll_append, writeAll_nameOf hn, writeAll_nameOf hn, h]
    simp [Lexeme.write_part, hn]
  have hlexemes := Lexeme.writeAll_inj hname.separated
    (hname'.separated.join hsecond (by decide) (by decide)) htext
  -- Behind the first space there is one label on the left and more than that on the right.
  rw [Lexeme.nameOf_some, Lexeme.nameOf_some, List.append_assoc, List.cons_append] at hlexemes
  have hlabels := (append_cons_inj (Lexeme.path_pathOf hne).space_notMem
    (Lexeme.path_pathOf hne').space_notMem hlexemes).2
  have hlength := congrArg List.length hlabels
  simp [Lexeme.ofPlain] at hlength

/-- The text of a table and the label behind it are what a join is written as only where it is
taken apart into these two. -/
theorem table_join_eq_iff (table label : String) :
    n.table (Alias.join table label) =
        n.table table ++ " as " ++ n.quote (n.tablePrefix ++ label) ↔
      Alias.split? (Alias.join table label) = some (table, label) := by
  constructor
  · intro h
    obtain ⟨base, rest, hsplit⟩ := Alias.exists_split?_join table label
    have hwritten := n.writtenInParts_table
    rw [hwritten.aliased hsplit] at h
    cases htable : Alias.split? table with
    | none =>
        rw [hwritten.bare htable] at h
        have hlabelled : n.labelled (n.tableParts base) (some (n.tablePrefix ++ rest)) =
            n.labelled (n.tableParts table) (some (n.tablePrefix ++ label)) := h
        obtain ⟨hparts, hlabel⟩ :=
          labelled_inj hn (hwritten.ne_nil base) (hwritten.ne_nil table) hlabelled
        obtain rfl := n.tableParts_injective hparts
        obtain rfl := prefix_injective _ (Option.some.inj hlabel)
        exact hsplit
    | some split =>
        rw [hwritten.aliased htable] at h
        exact absurd h (labelled_ne_labelled_append hn (hwritten.ne_nil _) (hwritten.ne_nil _))
  · exact n.table_of_split?_eq_some

end Naming

/-- The aliased table of a query is taken apart into some base and some label, and into the
table and the label that it was given just when they are joinable. The from clause has the base
and the label. In the MySQL dialect it has the table and the label that were given just when
these are the ones. -/
theorem split?_join_iff (table label : String) :
    ∃ base rest, Alias.split? (Alias.join table label) = some (base, rest) ∧
      ((base, rest) = (table, label) ↔ Alias.Joinable table.toList label.toList) ∧
      (∀ (d : Dialect) (q : Query), (q.setAliasedTable table label).compile d =
        .ok ("select " ++ d.columns q.columns ++
          " from " ++ (d.table base ++ " as " ++ d.quote (d.tablePrefix ++ rest)) ++
            if q.conditions = [] then "" else " " ++ d.whereClause q.conditions)) ∧
      ∀ tablePrefix : String,
        (Dialect.mysql tablePrefix).table (Alias.join table label) =
            (Dialect.mysql tablePrefix).table table ++ " as " ++
              (Dialect.mysql tablePrefix).quote (tablePrefix ++ label) ↔
          (base, rest) = (table, label) := by
  obtain ⟨base, rest, hsplit⟩ := Alias.exists_split?_join table label
  have hpair : (base, rest) = (table, label) ↔
      Alias.split? (Alias.join table label) = some (table, label) := by
    rw [hsplit, Option.some_inj]
  refine ⟨base, rest, hsplit, ?_, ?_, ?_⟩
  · rw [hpair, Alias.split?_join_eq_iff]
  · intro d q
    have htable : (q.setAliasedTable table label).table = some (Alias.join table label) := rfl
    rw [Query.compile_of_table htable, d.table_of_split?_eq_some hsplit, Dialect.filtered_eq]
    simp only [String.append_assoc]
    rfl
  · intro tablePrefix
    rw [hpair]
    exact Naming.table_join_eq_iff rfl table label

/-- The blank of the join makes a separator with the word at the end of the table. -/
example : Alias.split? (Alias.join "shop as" "u") = some ("shop", "as u") := by decide

end SqlSelect
