import Mathlib.Tactic.SplitIfs
import SqlSelect.Json.Literal
import SqlSelect.Text.Quoted

/-!
Escapes undone. A quoted text is read back character by character, an escape as the character
that it was written for, and it ends at the first quote that no escape belongs to. What is
written behind a quoted text is told apart from it, whatever both are.
-/

namespace SqlSelect.Text

open Json.Literal (hexDigit?)

/-! ### Reading -/

/-- The number that hexadecimal digits up to a closing brace stand for, and what follows the
brace. The digits read so far stand for `n`. -/
def readNumber? (n : Nat) : List Char → Option (Nat × List Char)
  | [] => none
  | '\x7d' :: rest => some (n, rest)
  | c :: rest => (hexDigit? c).bind fun digit => readNumber? (16 * n + digit) rest

/-- The character that one letter behind a backslash stands for. -/
def ofLetter? : Char → Option Char
  | '"' => some '"'
  | '\\' => some '\\'
  | 'n' => some '\n'
  | 'r' => some '\r'
  | 't' => some '\t'
  | '0' => some '\x00'
  | _ => none

/-- The first character inside of a quoted text and what follows it, or nothing where the
closing quote stands. -/
def readEscaped? : List Char → Option (Char × List Char)
  | [] => none
  | '"' :: _ => none
  | '\\' :: 'u' :: '\x7b' :: rest =>
      (readNumber? 0 rest).map fun (n, rest) => (Char.ofNat n, rest)
  | '\\' :: letter :: rest => (ofLetter? letter).map (·, rest)
  | c :: rest => some (c, rest)

theorem readNumber?_digitChar {digit : Nat} (h : digit < 16) (n : Nat) (rest : List Char) :
    readNumber? n (Nat.digitChar digit :: rest) = readNumber? (16 * n + digit) rest := by
  have hbrace : ∀ digit < 16, Nat.digitChar digit ≠ '\x7d' := by decide
  have hvalue : ∀ digit < 16, hexDigit? (Nat.digitChar digit) = some digit := by decide
  rw [readNumber?, hvalue digit h, Option.bind_some]
  exact hbrace digit h

theorem readNumber?_toDigits (n : Nat) (rest : List Char) :
    readNumber? 0 (Nat.toDigits 16 n ++ rest) = readNumber? n rest := by
  induction n using Nat.strongRecOn generalizing rest with
  | _ n ih =>
      rw [Nat.toDigits_eq_if (by decide)]
      split
      · rename_i hsmall
        rw [List.singleton_append, readNumber?_digitChar hsmall, Nat.mul_zero, Nat.zero_add]
      · have hlast : n % 16 < 16 := Nat.mod_lt n (by decide)
        rw [List.append_assoc, List.singleton_append, ih (n / 16) (by omega),
          readNumber?_digitChar hlast, Nat.div_add_mod]

/-- Every character is read back from what is written for it. -/
theorem readEscaped?_escapeQuoted (c : Char) (rest : List Char) :
    readEscaped? (escapeQuoted c ++ rest) = some (c, rest) := by
  unfold escapeQuoted
  split_ifs with hquote hbackslash hline hreturn htab hzero hunprintable
  · subst hquote
    rfl
  · subst hbackslash
    rfl
  · subst hline
    rfl
  · subst hreturn
    rfl
  · subst htab
    rfl
  · obtain rfl : c = '\x00' := by rw [← Char.ofNat_toNat c, hzero]
    rfl
  · simp only [List.cons_append, List.nil_append, List.append_assoc, readEscaped?,
      readNumber?_toDigits]
    simp [readNumber?]
  · simp [readEscaped?, hbackslash]

/-! ### Quoted texts -/

theorem flatMap_escapeQuoted_inj {cs ds s t : List Char}
    (h : cs.flatMap escapeQuoted ++ '"' :: s = ds.flatMap escapeQuoted ++ '"' :: t) :
    cs = ds ∧ s = t := by
  have hread := congrArg readEscaped? h
  induction cs generalizing ds with
  | nil =>
      cases ds with
      | nil => exact ⟨rfl, List.tail_eq_of_cons_eq h⟩
      | cons d ds =>
          -- No character is written with a quote in front.
          rw [List.flatMap_cons, List.append_assoc, readEscaped?_escapeQuoted] at hread
          cases hread
  | cons c cs ih =>
      rw [List.flatMap_cons, List.append_assoc, readEscaped?_escapeQuoted] at hread
      cases ds with
      | nil => cases hread
      | cons d ds =>
          rw [List.flatMap_cons, List.append_assoc, readEscaped?_escapeQuoted, Option.some.injEq,
            Prod.mk.injEq] at hread
          obtain ⟨rfl, hrest⟩ := hread
          obtain ⟨rfl, hst⟩ := ih hrest (congrArg readEscaped? hrest)
          exact ⟨rfl, hst⟩

theorem quoted_append (s : String) (rest : List Char) :
    (quoted s).toList ++ rest = '"' :: (s.toList.flatMap escapeQuoted ++ '"' :: rest) := by
  simp [quoted]

/-- A quoted text and what is written behind it are told apart. -/
theorem quoted_append_inj {s t : String} {rest rest' : List Char}
    (h : (quoted s).toList ++ rest = (quoted t).toList ++ rest') : s = t ∧ rest = rest' := by
  rw [quoted_append, quoted_append] at h
  obtain ⟨htext, hrest⟩ := flatMap_escapeQuoted_inj (List.tail_eq_of_cons_eq h)
  exact ⟨String.toList_inj.mp htext, hrest⟩

theorem quoted_injective : Function.Injective quoted := by
  intro s t h
  have happend : (quoted s).toList ++ [] = (quoted t).toList ++ [] := by rw [h]
  exact (quoted_append_inj happend).1

end SqlSelect.Text
