import SqlSelect.Naming
import SqlSelect.Proofs.Separator

/-!
Names without an alias. What precedes the alias of a name has none itself, and
neither has any beginning of a name that has none.
-/

namespace SqlSelect

theorem Naming.intercalate_parts (name : String) : ".".intercalate (parts name) = name := by
  rw [← String.toList_inj, String.toList_intercalate, parts, List.map_map]
  have htexts : String.toList ∘ String.ofList = id := by
    funext cs
    exact String.toList_ofList
  rw [htexts, List.map_id]
  exact List.intercalate_splitOn '.'

namespace Alias

theorem HasSeparator.append {name : List Char} (h : HasSeparator name) (rest : List Char) :
    HasSeparator (name ++ rest) := by
  obtain ⟨before, separator, after, hseparator, rfl⟩ := h
  exact ⟨before, separator, after ++ rest, hseparator, List.append_assoc _ _ _⟩

/-- A separator in the base would have given a shorter one. -/
theorem IsSplit.not_hasSeparator {name base label : List Char} (h : IsSplit name base label) :
    ¬ HasSeparator base := by
  rintro ⟨before, separator, after, hseparator, rfl⟩
  obtain ⟨separator', -, rfl⟩ := h.parts
  obtain ⟨first, rest, hsplit, hlength⟩ :=
    exists_splitChars? before (after ++ separator' ++ label) hseparator
  have hfactors : Factors (before ++ separator ++ after ++ separator' ++ label) first rest :=
    factors_of_splitChars? (by simpa using hsplit)
  have hshortest := h.shortest first rest hfactors
  obtain ⟨c, cs, rfl, -⟩ := hseparator.exists_cons
  simp only [List.length_append, List.length_cons] at hshortest
  omega

theorem split?_base {name base label : String} (h : split? name = some (base, label)) :
    split? base = none :=
  split?_eq_none_iff.mpr (split?_eq_some_iff.mp h).not_hasSeparator

/-- The first part of a name without alias has none. -/
theorem split?_of_parts {name qualifier : String} {rest : List String}
    (h : split? name = none) (hparts : Naming.parts name = qualifier :: rest) :
    split? qualifier = none := by
  rw [split?_eq_none_iff] at h ⊢
  have hname : ∃ after, name = qualifier ++ after := by
    rw [← Naming.intercalate_parts name, hparts]
    cases rest with
    | nil => exact ⟨"", by simp⟩
    | cons second rest =>
        rw [String.intercalate_cons_cons, String.append_assoc]
        exact ⟨_, rfl⟩
  obtain ⟨after, rfl⟩ := hname
  rw [String.toList_append] at h
  exact fun hqualifier => h (hqualifier.append after.toList)

end Alias

end SqlSelect
