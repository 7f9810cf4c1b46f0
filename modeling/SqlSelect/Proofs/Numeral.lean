import SqlSelect.Number.Numeral

/-!
Numerals as a grammar. A numeral is read from any of its spellings, as long as no character
follows that would go on with it, and an integer from the numeral that is written for it.
-/

namespace SqlSelect

namespace Digits

/-- Only zero is written with a zero in front. -/
theorem exists_ofNat_eq_cons {n : Nat} (h : 0 < n) :
    ∃ first rest, ofNat n = first :: rest ∧ first ≠ '0' := by
  induction n using Nat.strongRecOn with
  | _ n ih =>
      rw [ofNat, Nat.toDigits_eq_if (by decide)]
      split
      · rename_i hsmall
        have hdigits : ∀ digit < 10, 0 < digit → Nat.digitChar digit ≠ '0' := by decide
        exact ⟨_, [], rfl, hdigits n hsmall h⟩
      · obtain ⟨first, rest, hfirst, hzero⟩ := ih (n / 10) (by omega) (by omega)
        rw [ofNat] at hfirst
        exact ⟨first, _, by rw [hfirst, List.cons_append], hzero⟩

end Digits

namespace Numeral

/-! ### Spellings -/

/-- One or more digits. -/
structure IsDigits (digits : List Char) : Prop where
  ne_nil : digits ≠ []
  isDigit : ∀ c ∈ digits, c.isDigit = true

/-- The digits before the point, a zero alone or digits that do not begin with one. -/
inductive IsWhole : List Char → Prop where
  | zero : IsWhole ['0']
  | digits {first : Char} {rest : List Char} (hfirst : first ≠ '0')
      (h : IsDigits (first :: rest)) : IsWhole (first :: rest)

inductive SpelledFraction : List Char → List Char → Prop where
  | absent : SpelledFraction [] []
  | present {digits : List Char} (h : IsDigits digits) : SpelledFraction digits ('.' :: digits)

inductive SpelledSign : Bool → List Char → Prop where
  | minus : SpelledSign true ['-']
  | plus : SpelledSign false ['+']
  | absent : SpelledSign false []

inductive SpelledExponent : Option (Bool × List Char) → List Char → Prop where
  | absent : SpelledExponent none []
  | present {letter : Char} {negative : Bool} {sign digits : List Char}
      (hletter : letter = 'e' ∨ letter = 'E') (hsign : SpelledSign negative sign)
      (h : IsDigits digits) :
      SpelledExponent (some (negative, digits)) (letter :: (sign ++ digits))

inductive Spelled : Numeral → List Char → Prop where
  | intro (negative : Bool) {whole fraction fs es : List Char}
      {exponent : Option (Bool × List Char)} (hwhole : IsWhole whole)
      (hfraction : SpelledFraction fraction fs) (hexponent : SpelledExponent exponent es) :
      Spelled ⟨negative, whole, fraction, exponent⟩
        ((if negative then ['-'] else []) ++ (whole ++ (fs ++ es)))

/-- No character follows that would go on with a numeral. -/
def Stops (rest : List Char) : Prop :=
  ∀ c ∈ rest.head?, c.isDigit = false ∧ c ≠ '.' ∧ c ≠ 'e' ∧ c ≠ 'E'

/-! ### Reading -/

theorem IsDigits.digits?_append {digits rest : List Char} (h : IsDigits digits)
    (hrest : ∀ c ∈ rest.head?, c.isDigit = false) :
    digits? (digits ++ rest) = some (digits, rest) := by
  rw [digits?, Digits.takeWhile_append h.isDigit hrest, Digits.dropWhile_append h.isDigit hrest,
    if_neg (by simpa using h.ne_nil)]

theorem IsWhole.whole?_append {digits rest : List Char} (h : IsWhole digits)
    (hrest : ∀ c ∈ rest.head?, c.isDigit = false) :
    whole? (digits ++ rest) = some (digits, rest) := by
  cases h with
  | zero => rfl
  | digits hfirst h =>
      rw [List.cons_append, whole?]
      · exact h.digits?_append hrest
      · exact fun _ hzero => hfirst (List.head_eq_of_cons_eq hzero)

theorem SpelledFraction.fraction?_append {fraction fs rest : List Char}
    (h : SpelledFraction fraction fs)
    (hrest : ∀ c ∈ rest.head?, c.isDigit = false ∧ c ≠ '.') :
    fraction? (fs ++ rest) = some (fraction, rest) := by
  cases h with
  | absent =>
      rw [List.nil_append, fraction?]
      rintro _ rfl
      exact (hrest _ rfl).2 rfl
  | present h => exact h.digits?_append fun c hc => (hrest c hc).1

theorem SpelledSign.signedDigits?_append {negative : Bool} {sign digits rest : List Char}
    (hsign : SpelledSign negative sign) (h : IsDigits digits)
    (hrest : ∀ c ∈ rest.head?, c.isDigit = false) :
    signedDigits? (sign ++ digits ++ rest) = some ((negative, digits), rest) := by
  have hdigits := h.digits?_append hrest
  cases hsign with
  | minus => simp [signedDigits?, hdigits]
  | plus => simp [signedDigits?, hdigits]
  | absent =>
      -- The first digit is no sign.
      obtain ⟨first, others, rfl⟩ := List.exists_cons_of_ne_nil h.ne_nil
      have hfirst := h.isDigit first List.mem_cons_self
      rw [List.nil_append, signedDigits?, hdigits, Option.map_some]
      · intro _ hminus
        rw [List.head_eq_of_cons_eq hminus] at hfirst
        cases hfirst
      · intro _ hplus
        rw [List.head_eq_of_cons_eq hplus] at hfirst
        cases hfirst

theorem SpelledExponent.exponent?_append {exponent : Option (Bool × List Char)}
    {es rest : List Char} (h : SpelledExponent exponent es) (hrest : Stops rest) :
    exponent? (es ++ rest) = some (exponent, rest) := by
  cases h with
  | absent =>
      rw [List.nil_append, exponent?]
      · rintro _ rfl
        exact (hrest _ rfl).2.2.1 rfl
      · rintro _ rfl
        exact (hrest _ rfl).2.2.2 rfl
  | present hletter hsign h =>
      have hdigits := hsign.signedDigits?_append h fun c hc => (hrest c hc).1
      rcases hletter with rfl | rfl
      · simp only [List.cons_append, exponent?, hdigits, Option.map_some]
      · simp only [List.cons_append, exponent?, hdigits, Option.map_some]

theorem SpelledExponent.stops_fraction {exponent : Option (Bool × List Char)}
    {es rest : List Char} (h : SpelledExponent exponent es) (hrest : Stops rest) :
    ∀ c ∈ (es ++ rest).head?, c.isDigit = false ∧ c ≠ '.' := by
  cases h with
  | absent => exact fun c hc => ⟨(hrest c hc).1, (hrest c hc).2.1⟩
  | present hletter _ _ =>
      intro c hc
      cases hc
      rcases hletter with rfl | rfl <;> decide

theorem SpelledFraction.stops_whole {fraction fs rest : List Char}
    (h : SpelledFraction fraction fs) (hrest : ∀ c ∈ rest.head?, c.isDigit = false) :
    ∀ c ∈ (fs ++ rest).head?, c.isDigit = false := by
  cases h with
  | absent => exact hrest
  | present _ =>
      intro c hc
      cases hc
      rfl

theorem IsWhole.isDigit {whole : List Char} (h : IsWhole whole) {c : Char} (hc : c ∈ whole) :
    c.isDigit = true := by
  cases h with
  | zero =>
      cases List.mem_singleton.mp hc
      rfl
  | digits _ h => exact h.isDigit c hc

theorem IsWhole.exists_cons {whole : List Char} (h : IsWhole whole) :
    ∃ first rest, whole = first :: rest ∧ first.isDigit = true := by
  cases whole with
  | nil => cases h
  | cons first rest => exact ⟨first, rest, rfl, h.isDigit List.mem_cons_self⟩

/-- A numeral begins with a digit or a sign. -/
theorem Spelled.exists_cons {n : Numeral} {cs : List Char} (h : n.Spelled cs) :
    ∃ first rest, cs = first :: rest ∧ (first.isDigit = true ∨ first = '-') := by
  obtain ⟨negative, hwhole, _, _⟩ := h
  obtain ⟨first, others, rfl, hfirst⟩ := hwhole.exists_cons
  cases negative with
  | true => exact ⟨_, _, rfl, .inr rfl⟩
  | false => exact ⟨_, _, rfl, .inl hfirst⟩

/-- A numeral is read from each of its spellings, up to where it stops. -/
theorem Spelled.read?_append {n : Numeral} {cs rest : List Char} (h : n.Spelled cs)
    (hrest : Stops rest) : read? (cs ++ rest) = some (n, rest) := by
  obtain ⟨negative, hwhole, hfraction, hexponent⟩ := h
  rename_i whole fraction fs es exponent
  have hstops := hexponent.stops_fraction hrest
  have hdigits := hfraction.stops_whole fun c hc => (hstops c hc).1
  have hunsigned : unsigned? negative (whole ++ (fs ++ (es ++ rest))) =
      some (⟨negative, whole, fraction, exponent⟩, rest) := by
    simp [unsigned?, hwhole.whole?_append hdigits, hfraction.fraction?_append hstops,
      hexponent.exponent?_append hrest]
  cases negative with
  | true => simpa [read?] using hunsigned
  | false =>
      obtain ⟨first, others, rfl, hfirst⟩ := hwhole.exists_cons
      simp only [Bool.false_eq_true, if_false, List.nil_append, List.append_assoc]
      rw [read?, hunsigned]
      intro _ hminus
      rw [List.head_eq_of_cons_eq hminus] at hfirst
      cases hfirst

/-! ### Integers -/

theorem isWhole_ofNat (n : Nat) : IsWhole (Digits.ofNat n) := by
  rcases Nat.eq_zero_or_pos n with rfl | hpos
  · exact .zero
  · obtain ⟨first, rest, hdigits, hzero⟩ := Digits.exists_ofNat_eq_cons hpos
    rw [hdigits]
    refine .digits hzero ⟨List.cons_ne_nil _ _, fun c hc => ?_⟩
    rw [← hdigits] at hc
    exact Digits.isDigit_of_mem_ofNat hc

theorem spelled_ofInt (n : Int) (plus : List Char) : (ofInt n).Spelled ((ofInt n).text plus) := by
  have hspelled := Spelled.intro (decide (n < 0)) (isWhole_ofNat n.natAbs) .absent .absent
  simpa [text, ofInt] using hspelled

/-- The numeral of an integer is read as the integer. -/
theorem int?_ofInt (n : Int) : (ofInt n).int? = some n := by
  have hdigits : Digits.toNat (Digits.ofNat n.natAbs) = n.natAbs := Digits.toNat_ofNat _
  rcases Int.lt_or_le n 0 with hneg | hpos
  · obtain ⟨k, hk⟩ : ∃ k, n.natAbs = k + 1 := Nat.exists_eq_succ_of_ne_zero (by omega)
    have hvalue : -((k + 1 : Nat) : Int) = n := by omega
    rw [hk] at hdigits
    simpa [int?, ofInt, hneg, hk, hdigits] using hvalue
  · have hnonneg : ¬ n < 0 := by omega
    have hvalue : (n.natAbs : Int) = n := Int.natAbs_of_nonneg hpos
    simpa [int?, ofInt, hnonneg, hdigits] using hvalue

end Numeral

end SqlSelect
