import Mathlib.Data.List.TakeWhile
import Mathlib.Tactic.ByContra
import SqlSelect.Alias

/-!
The grammar of aliased names. A separator is a run of blanks, the word `as` in any of
its cases and another run of blanks. A name is split at its first separator, whose runs
are taken whole; where there is no separator in a name it has no alias.
-/

namespace SqlSelect.Alias

/-- There may be no character at all. -/
def NotBlank (c? : Option Char) : Prop := ∀ c ∈ c?, Text.isBlank c = false

structure IsRun (cs : List Char) : Prop where
  ne_nil : cs ≠ []
  blank : ∀ c ∈ cs, Text.isBlank c = true

inductive IsWord : List Char → Prop where
  | mk {a s : Char} (ha : a = 'a' ∨ a = 'A') (hs : s = 's' ∨ s = 'S' ∨ s = 'ſ') : IsWord [a, s]

inductive IsSeparator : List Char → Prop where
  | mk {before word after : List Char} (hbefore : IsRun before) (hword : IsWord word)
      (hafter : IsRun after) : IsSeparator (before ++ word ++ after)

def HasSeparator (name : List Char) : Prop :=
  ∃ before separator after, IsSeparator separator ∧ name = before ++ separator ++ after

/-- A base, a separator and a label, with no blanks left around the separator. -/
structure Factors (name base label : List Char) : Prop where
  parts : ∃ separator, IsSeparator separator ∧ name = base ++ separator ++ label
  base_end : NotBlank base.getLast?
  label_start : NotBlank label.head?

/-- The factors of a name with the shortest base. -/
structure IsSplit (name base label : List Char) : Prop extends Factors name base label where
  shortest : ∀ base' label', Factors name base' label' → base.length ≤ base'.length

/-! ### Blanks at the start of a text -/

theorem notBlank_trimStart (cs : List Char) : NotBlank (Text.trimStart cs).head? := by
  intro c hc
  have hhead := List.head?_dropWhile_not Text.isBlank cs
  rw [Text.trimStart, Option.mem_def] at hc
  simpa [hc] using hhead

theorem trimStart_eq_self {cs : List Char} (h : NotBlank cs.head?) : Text.trimStart cs = cs := by
  cases cs with
  | nil => rfl
  | cons c cs =>
      have hc : Text.isBlank c = false := h c rfl
      exact List.dropWhile_cons_of_neg (by simp [hc])

theorem trimStart_cons {c : Char} (h : Text.isBlank c = true) (cs : List Char) :
    Text.trimStart (c :: cs) = Text.trimStart cs :=
  List.dropWhile_cons_of_pos h

theorem trimStart_append_of_blank {run : List Char} (h : ∀ c ∈ run, Text.isBlank c = true)
    (cs : List Char) : Text.trimStart (run ++ cs) = Text.trimStart cs :=
  List.dropWhile_append_of_pos h

/-- The blanks at the start of a text, and what follows them. -/
theorem exists_blanks (cs : List Char) :
    ∃ blanks, (∀ c ∈ blanks, Text.isBlank c = true) ∧ cs = blanks ++ Text.trimStart cs :=
  ⟨cs.takeWhile Text.isBlank, fun _ hc => List.mem_takeWhile_imp hc,
    List.takeWhile_append_dropWhile.symm⟩

theorem IsRun.cons {c : Char} {blanks : List Char} (hc : Text.isBlank c = true)
    (h : ∀ d ∈ blanks, Text.isBlank d = true) : IsRun (c :: blanks) :=
  ⟨List.cons_ne_nil c blanks, List.forall_mem_cons.mpr ⟨hc, h⟩⟩

theorem IsRun.append {run blanks : List Char} (hrun : IsRun run)
    (h : ∀ c ∈ blanks, Text.isBlank c = true) : IsRun (run ++ blanks) :=
  ⟨by simp [hrun.ne_nil], fun c hc => (List.mem_append.mp hc).elim (hrun.blank c) (h c)⟩

/-! ### Separators at the start of a text -/

theorem IsWord.notBlank {word : List Char} (hword : IsWord word) (rest : List Char) :
    NotBlank (word ++ rest).head? := by
  obtain ⟨ha, -⟩ := hword
  intro c hc
  cases hc
  rcases ha with rfl | rfl <;> rfl

theorem isWord_iff {a s : Char} :
    IsWord [a, s] ↔ ((a == 'a' || a == 'A') && isLetterS s) = true := by
  constructor
  · rintro ⟨ha, hs⟩
    simpa [isLetterS, or_assoc] using And.intro ha hs
  · intro h
    simp only [isLetterS, Bool.and_eq_true, Bool.or_eq_true, beq_iff_eq, or_assoc] at h
    exact .mk h.1 h.2

theorem afterKeyword?_eq_some_iff {cs label : List Char} :
    afterKeyword? cs = some label ↔
      ∃ word run, IsWord word ∧ IsRun run ∧ cs = word ++ run ++ label ∧ NotBlank label.head? := by
  constructor
  · intro h
    match cs with
    | [] => cases h
    | [_] => cases h
    | [_, _] => cases h
    | a :: s :: blank :: rest =>
        rw [afterKeyword?, Option.ite_none_right_eq_some, Bool.and_eq_true, ← isWord_iff] at h
        obtain ⟨⟨hword, hblank⟩, hlabel⟩ := h
        cases hlabel
        obtain ⟨blanks, hblanks, hrest⟩ := exists_blanks rest
        refine ⟨[a, s], blank :: blanks, hword, .cons hblank hblanks, ?_, notBlank_trimStart rest⟩
        simp [← hrest]
  · rintro ⟨_, run, @⟨a, s, ha, hs⟩, hrun, rfl, hlabel⟩
    obtain ⟨blank, blanks, rfl⟩ := List.exists_cons_of_ne_nil hrun.ne_nil
    obtain ⟨hblank, hblanks⟩ := List.forall_mem_cons.mp hrun.blank
    have hword := isWord_iff.mp (.mk ha hs)
    have htrim : Text.trimStart (blanks ++ label) = label := by
      rw [trimStart_append_of_blank hblanks, trimStart_eq_self hlabel]
    simp only [List.cons_append, List.nil_append, afterKeyword?]
    rw [hword, hblank, Bool.and_true, if_pos rfl, htrim]

/-- Behind the blanks that begin a name stand the word and its blanks just when the name
begins with a separator. -/
theorem afterKeyword?_trimStart_iff {c : Char} {cs label : List Char}
    (hc : Text.isBlank c = true) :
    afterKeyword? (Text.trimStart cs) = some label ↔
      NotBlank label.head? ∧ ∃ separator, IsSeparator separator ∧ c :: cs = separator ++ label := by
  rw [afterKeyword?_eq_some_iff]
  constructor
  · rintro ⟨word, run, hword, hrun, htrim, hlabel⟩
    obtain ⟨blanks, hblanks, hcs⟩ := exists_blanks cs
    refine ⟨hlabel, _, .mk (.cons hc hblanks) hword hrun, ?_⟩
    rw [hcs, htrim]
    simp
  · rintro ⟨hlabel, _, @⟨before, word, run, hbefore, hword, hrun⟩, hname⟩
    refine ⟨word, run, hword, hrun, ?_, hlabel⟩
    rw [← trimStart_cons hc, hname, List.append_assoc, List.append_assoc,
      trimStart_append_of_blank hbefore.blank, trimStart_eq_self (hword.notBlank _),
      List.append_assoc]

/-- A separator can be made to take the blanks behind it. -/
theorem IsSeparator.exists_append {separator : List Char} (h : IsSeparator separator)
    (rest : List Char) :
    ∃ longer, IsSeparator longer ∧ separator ++ rest = longer ++ Text.trimStart rest := by
  obtain ⟨hbefore, hword, hafter⟩ := h
  obtain ⟨blanks, hblanks, hrest⟩ := exists_blanks rest
  refine ⟨_, .mk hbefore hword (hafter.append hblanks), ?_⟩
  rw [List.append_assoc _ _ (Text.trimStart rest), List.append_assoc _ _ (Text.trimStart rest),
    ← hrest, List.append_assoc]

theorem IsSeparator.exists_cons {separator : List Char} (h : IsSeparator separator) :
    ∃ c cs, separator = c :: cs ∧ Text.isBlank c = true := by
  obtain ⟨hbefore, -, -⟩ := h
  obtain ⟨c, cs, rfl⟩ := List.exists_cons_of_ne_nil hbefore.ne_nil
  exact ⟨c, _, rfl, hbefore.blank c List.mem_cons_self⟩

theorem IsSeparator.afterKeyword?_trimStart {c : Char} {cs label : List Char}
    (h : IsSeparator (c :: cs)) (hlabel : NotBlank label.head?) :
    afterKeyword? (Text.trimStart (cs ++ label)) = some label := by
  obtain ⟨_, _, heq, hc⟩ := h.exists_cons
  cases heq
  exact (afterKeyword?_trimStart_iff hc).mpr ⟨hlabel, _, h, rfl⟩

/-! ### The first separator -/

theorem splitChars?_cons (c : Char) (cs : List Char) :
    splitChars? (c :: cs) =
      match if Text.isBlank c then afterKeyword? (Text.trimStart cs) else none with
      | some label => some ([], label)
      | none => (splitChars? cs).map fun (base, label) => (c :: base, label) := by
  -- The generated equation would unfold `isBlank` down to its code points.
  delta splitChars?
  rfl

theorem splitChars?_cons_word {c : Char} {cs label : List Char} (hc : Text.isBlank c = true)
    (hword : afterKeyword? (Text.trimStart cs) = some label) :
    splitChars? (c :: cs) = some ([], label) := by
  rw [splitChars?_cons, if_pos hc, hword]

theorem splitChars?_cons_other {c : Char} {cs : List Char}
    (hword : Text.isBlank c = true → afterKeyword? (Text.trimStart cs) = none) :
    splitChars? (c :: cs) = (splitChars? cs).map fun (base, label) => (c :: base, label) := by
  rw [splitChars?_cons]
  by_cases hc : Text.isBlank c = true
  · rw [if_pos hc, hword hc]
  · rw [if_neg hc]

theorem splitChars?_cons_eq_none {c : Char} {cs : List Char} :
    splitChars? (c :: cs) = none ↔
      (Text.isBlank c = true → afterKeyword? (Text.trimStart cs) = none) ∧
        splitChars? cs = none := by
  constructor
  · intro h
    have hword : Text.isBlank c = true → afterKeyword? (Text.trimStart cs) = none := by
      intro hc
      by_contra hne
      obtain ⟨label, hlabel⟩ := Option.ne_none_iff_exists'.mp hne
      rw [splitChars?_cons_word hc hlabel] at h
      cases h
    rw [splitChars?_cons_other hword] at h
    exact ⟨hword, Option.map_eq_none_iff.mp h⟩
  · rintro ⟨hword, hcs⟩
    rw [splitChars?_cons_other hword, hcs, Option.map_none]

theorem factors_of_splitChars? {name base label : List Char}
    (h : splitChars? name = some (base, label)) : Factors name base label := by
  induction name generalizing base with
  | nil => cases h
  | cons c cs ih =>
      by_cases hword : Text.isBlank c = true → afterKeyword? (Text.trimStart cs) = none
      · rw [splitChars?_cons_other hword, Option.map_eq_some_iff] at h
        obtain ⟨⟨base', label'⟩, hsplit, heq⟩ := h
        cases heq
        obtain ⟨⟨separator, hseparator, rfl⟩, hend, hstart⟩ := ih hsplit
        refine ⟨⟨separator, hseparator, by simp⟩, ?_, hstart⟩
        cases base' with
        | cons b base' => rwa [List.getLast?_cons_cons]
        | nil =>
            -- A blank in front of a separator would belong to it.
            intro d hd
            cases hd
            by_contra hblank
            rw [Bool.not_eq_false] at hblank
            obtain ⟨b, bs, rfl, hb⟩ := hseparator.exists_cons
            have hnone := hword hblank
            rw [List.nil_append, List.cons_append, trimStart_cons hb,
              hseparator.afterKeyword?_trimStart hstart] at hnone
            cases hnone
      · push Not at hword
        obtain ⟨label', hlabel⟩ := Option.ne_none_iff_exists'.mp hword.2
        rw [splitChars?_cons_word hword.1 hlabel] at h
        cases h
        obtain ⟨hstart, separator, hseparator, hname⟩ :=
          (afterKeyword?_trimStart_iff hword.1).mp hlabel
        refine ⟨⟨separator, hseparator, hname⟩, ?_, hstart⟩
        intro d hd
        cases hd

/-- A name with a separator is split there or before. -/
theorem exists_splitChars? (before after : List Char) {separator : List Char}
    (h : IsSeparator separator) :
    ∃ base label, splitChars? (before ++ separator ++ after) = some (base, label) ∧
      base.length ≤ before.length := by
  induction before with
  | nil =>
      obtain ⟨longer, hlonger, hname⟩ := h.exists_append after
      obtain ⟨c, cs, rfl, hc⟩ := hlonger.exists_cons
      have hlabel := hlonger.afterKeyword?_trimStart (notBlank_trimStart after)
      rw [List.nil_append, hname, List.cons_append]
      exact ⟨[], _, splitChars?_cons_word hc hlabel, Nat.le_refl 0⟩
  | cons b before ih =>
      rw [List.cons_append, List.cons_append]
      by_cases hword :
          Text.isBlank b = true →
            afterKeyword? (Text.trimStart (before ++ separator ++ after)) = none
      · obtain ⟨base, label, hsplit, hlength⟩ := ih
        refine ⟨b :: base, label, ?_, Nat.succ_le_succ hlength⟩
        rw [splitChars?_cons_other hword, hsplit]
        rfl
      · push Not at hword
        obtain ⟨label, hlabel⟩ := Option.ne_none_iff_exists'.mp hword.2
        exact ⟨[], label, splitChars?_cons_word hword.1 hlabel, Nat.zero_le _⟩

/-- What stands behind a base is its separator and its label in one way only. -/
theorem Factors.label_eq {name base label label' : List Char} (h : Factors name base label)
    (h' : Factors name base label') : label = label' := by
  obtain ⟨⟨separator, hseparator, rfl⟩, -, hstart⟩ := h
  obtain ⟨⟨separator', hseparator', hname⟩, -, hstart'⟩ := h'
  rw [List.append_assoc, List.append_assoc, List.append_cancel_left_eq] at hname
  obtain ⟨c, cs, rfl, hc⟩ := hseparator.exists_cons
  have hlabel := hseparator.afterKeyword?_trimStart hstart
  rw [List.cons_append] at hname
  rw [(afterKeyword?_trimStart_iff hc).mpr ⟨hstart', _, hseparator', hname⟩] at hlabel
  exact (Option.some.inj hlabel).symm

theorem Factors.base_prefix {name base label : List Char} (h : Factors name base label) :
    base <+: name := by
  obtain ⟨⟨separator, -, rfl⟩, -, -⟩ := h
  exact ⟨separator ++ label, by simp⟩

theorem splitChars?_eq_some_iff {name base label : List Char} :
    splitChars? name = some (base, label) ↔ IsSplit name base label := by
  constructor
  · intro h
    refine ⟨factors_of_splitChars? h, ?_⟩
    rintro base' label' ⟨⟨separator, hseparator, rfl⟩, -, -⟩
    obtain ⟨first, rest, hsplit, hlength⟩ := exists_splitChars? base' label' hseparator
    rw [h] at hsplit
    cases hsplit
    exact hlength
  · intro h
    obtain ⟨separator, hseparator, hname⟩ := h.parts
    obtain ⟨base', label', hsplit, hlength⟩ := exists_splitChars? base label hseparator
    rw [← hname] at hsplit
    -- The split that is found has factors of its own, whose base can only be the shortest one.
    have hfactors := factors_of_splitChars? hsplit
    have hbase : base = base' :=
      (List.prefix_of_prefix_length_le h.base_prefix hfactors.base_prefix
        (h.shortest _ _ hfactors)).eq_of_length_le hlength
    subst hbase
    rw [hsplit, h.toFactors.label_eq hfactors]

theorem splitChars?_eq_none_iff {name : List Char} :
    splitChars? name = none ↔ ¬ HasSeparator name := by
  constructor
  · rintro h ⟨before, separator, after, hseparator, rfl⟩
    obtain ⟨base, label, hsplit, -⟩ := exists_splitChars? before after hseparator
    rw [h] at hsplit
    cases hsplit
  · intro h
    by_contra hne
    obtain ⟨⟨base, label⟩, hsplit⟩ := Option.ne_none_iff_exists'.mp hne
    obtain ⟨separator, hseparator, hname⟩ := (factors_of_splitChars? hsplit).parts
    exact h ⟨base, separator, label, hseparator, hname⟩

theorem split?_eq_some_iff {name base label : String} :
    split? name = some (base, label) ↔ IsSplit name.toList base.toList label.toList := by
  rw [← splitChars?_eq_some_iff, split?, Option.map_eq_some_iff]
  constructor
  · rintro ⟨⟨base', label'⟩, hsplit, heq⟩
    cases heq
    rw [hsplit, String.toList_ofList, String.toList_ofList]
  · intro h
    exact ⟨_, h, by simp⟩

theorem split?_eq_none_iff {name : String} :
    split? name = none ↔ ¬ HasSeparator name.toList := by
  rw [← splitChars?_eq_none_iff, split?, Option.map_eq_none_iff]

end SqlSelect.Alias
