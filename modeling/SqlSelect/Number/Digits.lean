/-!
Decimal digits of natural numbers, with leading zeros where a width is asked
for, and the number that some digits stand for.
-/

namespace SqlSelect.Digits

def ofNat (n : Nat) : List Char := Nat.toDigits 10 n

def padTo (width : Nat) (digits : List Char) : List Char :=
  List.replicate (width - digits.length) '0' ++ digits

/-- The digits of `n`, at least `width` of them. -/
def padded (width n : Nat) : List Char := padTo width (ofNat n)

def toNat (digits : List Char) : Nat :=
  digits.foldl (fun n c => 10 * n + (c.toNat - '0'.toNat)) 0

theorem toNat_ofNat (n : Nat) : toNat (ofNat n) = n :=
  Nat.ofDigitChars_toDigits (by decide) (by decide)

theorem isDigit_of_mem_ofNat {n : Nat} {c : Char} (h : c ∈ ofNat n) : c.isDigit = true :=
  Nat.isDigit_of_mem_toDigits (by decide) (by decide) h

section Run

variable {digits digits' rest rest' : List Char}

/-- A run of digits goes as far as something else begins. -/
theorem takeWhile_append (hdigits : ∀ c ∈ digits, c.isDigit = true)
    (hrest : ∀ c ∈ rest.head?, c.isDigit = false) :
    (digits ++ rest).takeWhile Char.isDigit = digits := by
  rw [List.takeWhile_append_of_pos hdigits]
  cases rest with
  | nil => simp
  | cons c rest => simp [hrest c rfl]

theorem dropWhile_append (hdigits : ∀ c ∈ digits, c.isDigit = true)
    (hrest : ∀ c ∈ rest.head?, c.isDigit = false) :
    (digits ++ rest).dropWhile Char.isDigit = rest := by
  rw [List.dropWhile_append_of_pos hdigits]
  cases rest with
  | nil => rfl
  | cons c rest => simp [hrest c rfl]

theorem append_inj (hdigits : ∀ c ∈ digits, c.isDigit = true)
    (hrest : ∀ c ∈ rest.head?, c.isDigit = false) (hdigits' : ∀ c ∈ digits', c.isDigit = true)
    (hrest' : ∀ c ∈ rest'.head?, c.isDigit = false) (h : digits ++ rest = digits' ++ rest') :
    digits = digits' ∧ rest = rest' := by
  have htake := congrArg (List.takeWhile Char.isDigit) h
  have hdrop := congrArg (List.dropWhile Char.isDigit) h
  rw [takeWhile_append hdigits hrest, takeWhile_append hdigits' hrest'] at htake
  rw [dropWhile_append hdigits hrest, dropWhile_append hdigits' hrest'] at hdrop
  exact ⟨htake, hdrop⟩

end Run

end SqlSelect.Digits
