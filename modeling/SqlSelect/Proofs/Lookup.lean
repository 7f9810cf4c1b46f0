import SqlSelect.Proofs.Comparison
import SqlSelect.Proofs.Separator
import SqlSelect.Value.Conversion

/-!
Operators as they are looked up. A candidate is known by its letters without their case and
without the blanks around it; the first listed spelling that agrees with it is the answer.
What a dialect adds stands behind the catalog and takes no answer away.
-/

namespace SqlSelect

namespace Text

/-! ### Letters and blanks -/

theorem toLower_cases (c : Char) :
    c.toLower = c ∨ 65 ≤ c.toNat ∧ c.toNat ≤ 90 ∧ c.toLower.toNat = c.toNat + 32 := by
  by_cases h : c.val ≥ 'A'.val ∧ c.val ≤ 'Z'.val
  · have hlow : 65 ≤ c.val.toNat := UInt32.le_iff_toNat_le.mp h.1
    have hhigh : c.val.toNat ≤ 90 := UInt32.le_iff_toNat_le.mp h.2
    have hlower : c.toLower.val = c.val + 32 := congrArg Char.val (dif_pos h)
    have hadd : c.toLower.val.toNat = c.val.toNat + 32 := by
      have hoffset : (32 : UInt32).toNat = 32 := rfl
      rw [hlower, UInt32.toNat_add]
      omega
    exact .inr ⟨hlow, hhigh, hadd⟩
  · exact .inl (dif_neg h)

theorem isBlank_eq_false_of_le_of_le {c : Char} (hlow : 65 ≤ c.toNat) (hhigh : c.toNat ≤ 122) :
    isBlank c = false := by
  simp only [isBlank, Bool.or_eq_false_iff, Bool.and_eq_false_iff, decide_eq_false_iff_not,
    beq_eq_false_iff_ne]
  omega

/-- No blank is a case of a letter. -/
@[simp] theorem isBlank_toLower (c : Char) : isBlank c.toLower = isBlank c := by
  rcases toLower_cases c with h | ⟨hlow, hhigh, hlower⟩
  · rw [h]
  · rw [isBlank_eq_false_of_le_of_le hlow (by omega),
      isBlank_eq_false_of_le_of_le (by omega) (by omega)]

theorem trimStart_map_toLower (cs : List Char) :
    trimStart (cs.map Char.toLower) = (trimStart cs).map Char.toLower := by
  have hblank : isBlank ∘ Char.toLower = isBlank := by
    funext c
    exact isBlank_toLower c
  rw [trimStart, List.dropWhile_map, hblank, ← trimStart]

theorem trimEnd_eq (cs : List Char) : trimEnd cs = (trimStart cs.reverse).reverse := rfl

theorem trimEnd_map_toLower (cs : List Char) :
    trimEnd (cs.map Char.toLower) = (trimEnd cs).map Char.toLower := by
  rw [trimEnd_eq, trimEnd_eq, ← List.map_reverse, trimStart_map_toLower, List.map_reverse]

theorem alike_trim {s t : String} (h : alike s t = true) : alike (trim s) (trim t) = true := by
  rw [alike_iff] at h ⊢
  rw [toList_trim, toList_trim, ← trimEnd_map_toLower, ← trimEnd_map_toLower,
    ← trimStart_map_toLower, ← trimStart_map_toLower, h]

theorem alike_congr_right {s t : String} (h : alike s t = true) (r : String) :
    alike r s = alike r t := by
  rw [alike_iff] at h
  rw [alike, alike, h]

/-- A character in front of the letters is no case of another one. -/
theorem eq_of_toLower_eq {c d : Char} (hc : c.toNat < 65) (h : d.toLower = c.toLower) :
    d = c := by
  rcases toLower_cases c with hlower | ⟨hlow, -, -⟩
  · rw [hlower] at h
    rcases toLower_cases d with hd | ⟨hlow, -, hd⟩
    · rw [← hd, h]
    · rw [h] at hd
      omega
  · omega

/-- A text without letters is like no other one. -/
theorem eq_of_alike {s t : String} (hs : ∀ c ∈ s.toList, c.toNat < 65)
    (h : alike t s = true) : t = s := by
  rw [alike_iff] at h
  rw [← String.toList_inj]
  generalize s.toList = cs at hs h
  generalize t.toList = ds at h
  induction cs generalizing ds with
  | nil => exact List.map_eq_nil_iff.mp h
  | cons c cs ih =>
      cases ds with
      | nil => cases h
      | cons d ds =>
          obtain ⟨hhead, htail⟩ := List.cons.inj h
          obtain ⟨hc, hcs⟩ := List.forall_mem_cons.mp hs
          rw [eq_of_toLower_eq hc hhead, ih hcs ds htail]

/-! ### Texts between blanks -/

/-- A text with nothing but blanks before a word and after it. -/
def Pads (padded word : String) : Prop :=
  ∃ before after : String, (∀ c ∈ before.toList, isBlank c = true) ∧
    (∀ c ∈ after.toList, isBlank c = true) ∧ padded = before ++ word ++ after

theorem trimStart_eq_nil_iff {cs : List Char} :
    trimStart cs = [] ↔ ∀ c ∈ cs, isBlank c = true := List.dropWhile_eq_nil_iff

theorem trimEnd_append_of_blank {run : List Char} (h : ∀ c ∈ run, isBlank c = true)
    (cs : List Char) : trimEnd (cs ++ run) = trimEnd cs := by
  have hreverse : ∀ c ∈ run.reverse, isBlank c = true :=
    fun c hc => h c (List.mem_reverse.mp hc)
  rw [trimEnd_eq, trimEnd_eq, List.reverse_append, Alias.trimStart_append_of_blank hreverse]

theorem trimEnd_trimStart_append {run : List Char} (h : ∀ c ∈ run, isBlank c = true)
    (cs : List Char) : trimEnd (trimStart (cs ++ run)) = trimEnd (trimStart cs) := by
  by_cases hcs : trimStart cs = []
  · have hall := trimStart_eq_nil_iff.mp hcs
    rw [Alias.trimStart_append_of_blank hall, trimStart_eq_nil_iff.mpr h, hcs]
  · have happend : trimStart (cs ++ run) = trimStart cs ++ run := by
      rw [trimStart, List.dropWhile_append, ← trimStart, if_neg (by simpa using hcs)]
    rw [happend, trimEnd_append_of_blank h]

theorem Pads.trim_eq {padded word : String} (h : Pads padded word) : trim padded = trim word := by
  obtain ⟨before, after, hbefore, hafter, rfl⟩ := h
  rw [← String.toList_inj, toList_trim, toList_trim, String.toList_append, String.toList_append,
    List.append_assoc, Alias.trimStart_append_of_blank hbefore, trimEnd_trimStart_append hafter]

theorem pads_trim (s : String) : Pads s (trim s) := by
  obtain ⟨before, hbefore, hs⟩ := Alias.exists_blanks s.toList
  obtain ⟨after, hafter, hrest⟩ := Alias.exists_blanks (trimStart s.toList).reverse
  refine ⟨String.ofList before, String.ofList after.reverse, by simpa using hbefore,
    by simpa using hafter, ?_⟩
  have hend : trimStart s.toList = trimEnd (trimStart s.toList) ++ after.reverse := by
    rw [trimEnd_eq, ← List.reverse_append, ← hrest, List.reverse_reverse]
  rw [← String.toList_inj, String.toList_append, String.toList_append, toList_trim,
    String.toList_ofList, String.toList_ofList, List.append_assoc, ← hend, ← hs]

/-- Trimming leaves nothing to trim. -/
@[simp] theorem trim_trim (s : String) : trim (trim s) = trim s := (pads_trim s).trim_eq.symm

end Text

namespace Operator

variable {candidate candidate' : String} {extra : List String} {op : Operator}

/-! ### The first spelling -/

/-- The bitwise spellings between the catalog and the dialect's are never reached. -/
theorem lookup_eq_find? (candidate : String) (extra : List String) :
    lookup candidate extra =
      ((catalog ++ extra).find? (Text.alike · (Text.trim candidate))).map mk := by
  rw [lookup, List.find?_append, List.find?_append, List.find?_append]
  cases hcatalog : catalog.find? (Text.alike · (Text.trim candidate)) with
  | some spelling => rfl
  | none =>
      have hbitwise : bitwiseCatalog.find? (Text.alike · (Text.trim candidate)) = none := by
        rw [List.find?_eq_none] at hcatalog ⊢
        exact fun spelling hspelling => hcatalog spelling (bitwiseCatalog_subset hspelling)
      rw [hbitwise]
      rfl

theorem lookup_eq_some_iff :
    lookup candidate extra = some op ↔
      ∃ before after, catalog ++ extra = before ++ op.spelling :: after ∧
        Text.alike op.spelling (Text.trim candidate) = true ∧
        ∀ earlier ∈ before, Text.alike earlier (Text.trim candidate) = false := by
  rw [lookup_eq_find?, Option.map_eq_some_iff]
  constructor
  · rintro ⟨spelling, hfind, rfl⟩
    obtain ⟨halike, before, after, hlist, hearlier⟩ := List.find?_eq_some_iff_append.mp hfind
    exact ⟨before, after, hlist, halike, by simpa using hearlier⟩
  · rintro ⟨before, after, hlist, halike, hearlier⟩
    refine ⟨op.spelling, List.find?_eq_some_iff_append.mpr ?_, rfl⟩
    exact ⟨halike, before, after, hlist, by simpa using hearlier⟩

theorem lookup_eq_none_iff :
    lookup candidate extra = none ↔
      ∀ spelling ∈ catalog ++ extra, Text.alike spelling (Text.trim candidate) = false := by
  rw [lookup_eq_find?, Option.map_eq_none_iff, List.find?_eq_none]
  simp only [Bool.not_eq_true]

theorem alike_of_lookup (h : lookup candidate extra = some op) :
    Text.alike op.spelling (Text.trim candidate) = true := by
  obtain ⟨-, -, -, halike, -⟩ := lookup_eq_some_iff.mp h
  exact halike

/-! ### One answer for all spellings of a candidate -/

theorem lookup_congr (h : Text.alike (Text.trim candidate) (Text.trim candidate') = true) :
    lookup candidate extra = lookup candidate' extra := by
  simp only [lookup, Text.alike_congr_right h]

/-- Two candidates that differ only in the case of their letters and in the blanks around
them. -/
def Respelled (candidate candidate' : String) : Prop :=
  ∃ word word', Text.Pads candidate word ∧ Text.Pads candidate' word' ∧
    Text.alike word word' = true

theorem Respelled.lookup_eq (h : Respelled candidate candidate') :
    lookup candidate extra = lookup candidate' extra := by
  obtain ⟨word, word', hword, hword', halike⟩ := h
  apply lookup_congr
  rw [hword.trim_eq, hword'.trim_eq]
  exact Text.alike_trim halike

theorem lookup_spelling (h : lookup candidate extra = some op) :
    lookup op.spelling extra = some op := by
  have halike := Text.alike_trim (alike_of_lookup h)
  rw [Text.trim_trim] at halike
  rw [lookup_congr halike, h]

/-! ### Dialects add answers -/

theorem lookup_append (h : lookup candidate extra = some op) (more : List String) :
    lookup candidate (extra ++ more) = some op := by
  rw [lookup_eq_find?, Option.map_eq_some_iff] at h ⊢
  obtain ⟨spelling, hfind, rfl⟩ := h
  refine ⟨spelling, ?_, rfl⟩
  rw [← List.append_assoc, List.find?_append, hfind, Option.some_or]

/-- A spelling of the catalog is answered without the dialect. -/
theorem lookup_nil_of_mem_catalog (h : lookup candidate extra = some op)
    (hop : op.spelling ∈ catalog) : lookup candidate [] = some op := by
  cases hnil : lookup candidate [] with
  | none =>
      have hnone := lookup_eq_none_iff.mp hnil op.spelling (List.mem_append_left [] hop)
      rw [alike_of_lookup h] at hnone
      cases hnone
  | some op' =>
      have hextra := lookup_append hnil extra
      rw [List.nil_append, h] at hextra
      exact hextra.symm

end Operator

theorem Criterion.resolve_lookup {candidate : String} {operators : List String} {op : Operator}
    (h : Operator.lookup candidate operators = some op) {value : Value}
    (hvalue : value.isNull = false) :
    resolve operators (some (toValue op)) value = .ok (op, value) := by
  rw [resolve_eq_ok_iff]
  have hrefuses : op.refuses value = false := by rw [Operator.refuses, hvalue, Bool.false_and]
  exact .known (Operator.lookup_spelling h) hrefuses

/-- The answer to a candidate is the first spelling of the catalog and of the dialect behind it
that is like the trimmed candidate, and there is none where no spelling is. All candidates that
differ in case and in blanks only have one answer; it is the answer to its own spelling and is
kept as an operator with any value but `NULL`. Further spellings of a dialect leave it as it is,
and none of a dialect's own spellings is answered as a bitwise operator. -/
theorem lookup_first_spelling (candidate : String) (extra : List String) :
    (∀ op, Operator.lookup candidate extra = some op ↔
      ∃ before after, Operator.catalog ++ extra = before ++ op.spelling :: after ∧
        Text.alike op.spelling (Text.trim candidate) = true ∧
        ∀ earlier ∈ before, Text.alike earlier (Text.trim candidate) = false) ∧
    (Operator.lookup candidate extra = none ↔
      ∀ spelling ∈ Operator.catalog ++ extra,
        Text.alike spelling (Text.trim candidate) = false) ∧
    (∀ candidate', Operator.Respelled candidate candidate' →
      Operator.lookup candidate' extra = Operator.lookup candidate extra) ∧
    ∀ op, Operator.lookup candidate extra = some op →
      Operator.lookup op.spelling extra = some op ∧
      (∀ value, value.isNull = false →
        Criterion.resolve extra (some (toValue op)) value = .ok (op, value)) ∧
      (∀ more, Operator.lookup candidate (extra ++ more) = some op) ∧
      (op.isBitwise = true → Operator.lookup candidate [] = some op) := by
  refine ⟨fun op => Operator.lookup_eq_some_iff, Operator.lookup_eq_none_iff, ?_, ?_⟩
  · intro candidate' hrespelled
    exact hrespelled.lookup_eq.symm
  · intro op hop
    refine ⟨Operator.lookup_spelling hop, ?_, Operator.lookup_append hop, ?_⟩
    · intro value hvalue
      exact Criterion.resolve_lookup hop hvalue
    · intro hbitwise
      have hmem := Operator.bitwiseCatalog_subset (Operator.isBitwise_iff.mp hbitwise)
      exact Operator.lookup_nil_of_mem_catalog hop hmem

/-- A dialect that lists a catalog spelling in another case, and one with a blank that no
trimmed candidate has. -/
theorem lookup_first_spelling_notLike :
    Operator.lookup "\u2003Not LIKE\n" ["NOT LIKE"] = some .notLike ∧
      Operator.Respelled "\u2003Not LIKE\n" "nOT like" ∧
      Operator.lookup "nOT like" ["NOT LIKE"] =
        Operator.lookup "\u2003Not LIKE\n" ["NOT LIKE"] ∧
      Operator.lookup "not like" ["NOT LIKE"] = some .notLike ∧
      (Value.bool true).isNull = false ∧
      Criterion.resolve ["NOT LIKE"] (some (toValue Operator.notLike)) (.bool true) =
        .ok (.notLike, .bool true) ∧
      Operator.lookup " &~" ["&~ "] = some .bitAndNot ∧
      Operator.bitAndNot.isBitwise = true ∧
      Operator.lookup " &~" [] = some .bitAndNot := by
  have hnotLike : Operator.lookup "\u2003Not LIKE\n" ["NOT LIKE"] = some .notLike := by decide
  have hbitAndNot : Operator.lookup " &~" ["&~ "] = some .bitAndNot := by decide
  have hrespelled : Operator.Respelled "\u2003Not LIKE\n" "nOT like" :=
    ⟨"Not LIKE", "nOT like", ⟨"\u2003", "\n", by simp [Text.isBlank], by simp [Text.isBlank], rfl⟩,
      ⟨"", "", by simp, by simp, rfl⟩, rfl⟩
  obtain ⟨-, -, hsame, hanswer⟩ := lookup_first_spelling "\u2003Not LIKE\n" ["NOT LIKE"]
  obtain ⟨-, -, -, hbitwise⟩ := lookup_first_spelling " &~" ["&~ "]
  obtain ⟨hspelling, hresolve, -, -⟩ := hanswer _ hnotLike
  obtain ⟨-, -, -, hcatalog⟩ := hbitwise _ hbitAndNot
  exact ⟨hnotLike, hrespelled, hsame _ hrespelled, hspelling, rfl, hresolve _ rfl, hbitAndNot,
    rfl, hcatalog rfl⟩

end SqlSelect
