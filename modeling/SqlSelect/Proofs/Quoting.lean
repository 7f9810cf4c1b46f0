import SqlSelect.Proofs.Decoding

/-!
Names told apart. In the MySQL dialect two names are written alike only if they are the
same name, or if they are split into the same base and the same label.
-/

namespace SqlSelect

open Lexeme

namespace Lexeme

theorem nameOf_some (names : List String) (label : String) :
    nameOf names (some label) =
      pathOf names ++ plain ' ' :: (ofPlain "as " ++ [part label]) := rfl

/-- The path of a name has no space, so that the first one is in front of its label. -/
theorem nameOf_inj {names names' : List String} {label? label?' : Option String}
    (hne : names ≠ []) (hne' : names' ≠ [])
    (h : nameOf names label? = nameOf names' label?') : names = names' ∧ label? = label?' := by
  have hspace (names : List String) (hne : names ≠ []) : plain ' ' ∉ pathOf names :=
    (path_pathOf hne).space_notMem
  cases label? with
  | none =>
      cases label?' with
      | none => exact ⟨pathOf_inj hne hne' h, rfl⟩
      | some label' =>
          rw [nameOf_some, nameOf] at h
          have hmem := hspace names hne
          simp [h] at hmem
  | some label =>
      cases label?' with
      | none =>
          rw [nameOf_some, nameOf] at h
          have hmem := hspace names' hne'
          simp [← h] at hmem
      | some label' =>
          rw [nameOf_some, nameOf_some] at h
          obtain ⟨hpath, hlabel⟩ := append_cons_inj (hspace names hne) (hspace names' hne') h
          have hpart : part label = part label' := by
            simpa using List.append_cancel_left hlabel
          rw [pathOf_inj hne hne' hpath, part_injective hpart]
          exact ⟨rfl, rfl⟩

end Lexeme

namespace Naming

variable {n : Naming}

/-- A name can be read off its text, part by part. -/
theorem labelled_inj (hn : n.quote = Identifier.backticked) {names names' : List String}
    {label? label?' : Option String} (hne : names ≠ []) (hne' : names' ≠ [])
    (h : n.labelled names label? = n.labelled names' label?') :
    names = names' ∧ label? = label?' := by
  apply nameOf_inj hne hne'
  apply writeAll_inj (writtenName_nameOf hne label?).separated
    (writtenName_nameOf hne' label?').separated
  rw [writeAll_nameOf hn, writeAll_nameOf hn, h]

/-- Names whose parts and whose labels are written without loss can be told apart, up to the
separator between base and label. -/
theorem write_eq_iff (hn : n.quote = Identifier.backticked) {write : String → String}
    {partsOf : String → List String} {mark : String → String}
    (hwrite : n.WrittenInParts write partsOf mark) (hparts : Function.Injective partsOf)
    (hmark : Function.Injective mark) (v w : String) :
    write v = write w ↔
      v = w ∨ ∃ base label,
        Alias.split? v = some (base, label) ∧ Alias.split? w = some (base, label) := by
  constructor
  · intro h
    cases hv : Alias.split? v with
    | none =>
        cases hw : Alias.split? w with
        | none =>
            rw [hwrite.bare hv, hwrite.bare hw] at h
            exact .inl (hparts (labelled_inj hn (hwrite.ne_nil v) (hwrite.ne_nil w) h).1)
        | some split =>
            rw [hwrite.bare hv, hwrite.aliased hw] at h
            cases (labelled_inj hn (hwrite.ne_nil v) (hwrite.ne_nil _) h).2
    | some split =>
        obtain ⟨base, label⟩ := split
        cases hw : Alias.split? w with
        | none =>
            rw [hwrite.aliased hv, hwrite.bare hw] at h
            cases (labelled_inj hn (hwrite.ne_nil _) (hwrite.ne_nil w) h).2
        | some split' =>
            obtain ⟨base', label'⟩ := split'
            rw [hwrite.aliased hv, hwrite.aliased hw] at h
            obtain ⟨hbase, hlabel⟩ := labelled_inj hn (hwrite.ne_nil base) (hwrite.ne_nil base') h
            obtain rfl := hparts hbase
            obtain rfl := hmark (Option.some.inj hlabel)
            exact .inr ⟨base, label, rfl, rfl⟩
  · rintro (rfl | ⟨base, label, hv, hw⟩)
    · rfl
    · rw [hwrite.aliased hv, hwrite.aliased hw]

end Naming

/-- Under one prefix two columns are written alike just when they are the same or have the
same base and the same label, and so are two tables. -/
theorem column_table_eq_iff (tablePrefix v w : String) :
    ((Dialect.mysql tablePrefix).column v = (Dialect.mysql tablePrefix).column w ↔
      v = w ∨ ∃ base label,
        Alias.split? v = some (base, label) ∧ Alias.split? w = some (base, label)) ∧
    ((Dialect.mysql tablePrefix).table v = (Dialect.mysql tablePrefix).table w ↔
      v = w ∨ ∃ base label,
        Alias.split? v = some (base, label) ∧ Alias.split? w = some (base, label)) := by
  constructor
  · exact Naming.write_eq_iff rfl (Naming.writtenInParts_column _)
      (Naming.columnParts_injective _) Function.injective_id v w
  · exact Naming.write_eq_iff rfl (Naming.writtenInParts_table _)
      (Naming.tableParts_injective _) (Naming.prefix_injective tablePrefix) v w

end SqlSelect
