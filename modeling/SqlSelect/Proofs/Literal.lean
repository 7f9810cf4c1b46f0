import Mathlib.Tactic.SplitIfs
import SqlSelect.Json.Literal

/-!
String literals as a grammar. A literal is written piece by piece, and each text has many
literals. A reader takes from a literal the pieces it was written with, and every text is
named by the literal that is written for it.
-/

namespace SqlSelect.Json.Literal

/-- The ways to write one piece of a literal. -/
inductive Piece.Spelled : Piece → List Char → Prop where
  | plain {c : Char} (hcontrol : 0x20 ≤ c.toNat) (hquote : c ≠ '"') (hbackslash : c ≠ '\\') :
      Spelled (.char c) [c]
  | short {letter c : Char} (h : short? letter = some c) : Spelled (.char c) ['\\', letter]
  | unit {a b c d : Char} {n : Nat} (h : unit? a b c d = some n) :
      Spelled (.unit n) ['\\', 'u', a, b, c, d]

/-- What stands between the quotes of a literal. -/
inductive Body : List Piece → List Char → Prop where
  | nil : Body [] []
  | cons {piece : Piece} {pieces : List Piece} {cs rest : List Char} (hpiece : piece.Spelled cs)
      (hrest : Body pieces rest) : Body (piece :: pieces) (cs ++ rest)

/-- The literals of a text, and those that name no text. -/
inductive Spelled : Option String → List Char → Prop where
  | intro {pieces : List Piece} {cs : List Char} (h : Body pieces cs) :
      Spelled ((join? pieces).map String.ofList) ('"' :: (cs ++ ['"']))

/-! ### Reading -/

theorem Piece.Spelled.pieces?_append {piece : Piece} {cs : List Char} (h : piece.Spelled cs)
    (rest : List Char) :
    pieces? (cs ++ rest) = (pieces? rest).map fun (pieces, rest) => (piece :: pieces, rest) := by
  cases h with
  | @plain c hcontrol hquote hbackslash =>
      have hplain : ¬ (c.toNat < 0x20 ∨ c = '\\') :=
        not_or.mpr ⟨Nat.not_lt.mpr hcontrol, hbackslash⟩
      rw [List.singleton_append, pieces?, if_neg hplain]
      · cases pieces? rest <;> rfl
      · exact hquote
      · exact fun _ _ _ _ _ h _ => hbackslash h
      · exact fun _ _ h _ => hbackslash h
  | short hshort =>
      rw [List.cons_append, List.singleton_append, pieces?, hshort]
      · cases pieces? rest <;> rfl
      · -- The letter is none that units are written with.
        rintro _ _ _ _ _ rfl -
        cases hshort
  | unit hunit =>
      rw [List.cons_append, List.cons_append, List.cons_append, List.cons_append,
        List.cons_append, List.singleton_append, pieces?, hunit]
      cases pieces? rest <;> rfl

theorem Body.pieces?_append {pieces : List Piece} {cs : List Char} (h : Body pieces cs)
    (rest : List Char) : pieces? (cs ++ '"' :: rest) = some (pieces, rest) := by
  induction h with
  | nil => simp [pieces?]
  | cons hpiece _ ih => rw [List.append_assoc, hpiece.pieces?_append, ih]; rfl

theorem Spelled.read?_append {s : Option String} {cs : List Char} (h : Spelled s cs)
    (rest : List Char) : ∃ body, cs = '"' :: body ∧ read? (body ++ rest) = some (s, rest) := by
  obtain ⟨h⟩ := h
  refine ⟨_, rfl, ?_⟩
  rw [List.append_assoc, List.singleton_append, read?, h.pieces?_append]
  rfl

/-! ### Writing -/

/-- A control character is written by its number. -/
theorem unit?_of_lt {n : Nat} (h : n < 0x20) :
    unit? '0' '0' (hexDigit (n / 16)) (hexDigit (n % 16)) = some n := by
  decide +revert

theorem join?_unit_of_lt {n : Nat} (h : n < 0x20) (pieces : List Piece) :
    join? (.unit n :: pieces) = (join? pieces).map (Char.ofNat n :: ·) := by
  have hhigh : isHigh n = false := by simp [isHigh]; omega
  have hlow : isLow n = false := by simp [isLow]; omega
  rw [join?.eq_def]
  simp [hhigh, hlow]

/-- An escaped character is one piece, and the piece names it. -/
theorem spelled_escape (c : Char) : ∃ piece : Piece, piece.Spelled (escape c) ∧
    ∀ pieces, join? (piece :: pieces) = (join? pieces).map (c :: ·) := by
  have hshort {letter d : Char} (h : short? letter = some d) :
      ∃ piece : Piece, piece.Spelled ['\\', letter] ∧
        ∀ pieces, join? (piece :: pieces) = (join? pieces).map (d :: ·) :=
    ⟨.char d, .short h, fun _ => rfl⟩
  unfold escape
  split_ifs with hquote hbackslash hbackspace hfeed hline hreturn htab hcontrol
  · subst hquote
    exact hshort rfl
  · subst hbackslash
    exact hshort rfl
  · subst hbackspace
    exact hshort rfl
  · subst hfeed
    exact hshort rfl
  · subst hline
    exact hshort rfl
  · subst hreturn
    exact hshort rfl
  · subst htab
    exact hshort rfl
  · refine ⟨_, .unit (unit?_of_lt hcontrol), fun pieces => ?_⟩
    rw [join?_unit_of_lt hcontrol, Char.ofNat_toNat]
  · exact ⟨_, .plain (Nat.le_of_not_lt hcontrol) hquote hbackslash, fun _ => rfl⟩

theorem exists_body (cs : List Char) :
    ∃ pieces, Body pieces (cs.flatMap escape) ∧ join? pieces = some cs := by
  induction cs with
  | nil => exact ⟨[], .nil, rfl⟩
  | cons c cs ih =>
      obtain ⟨pieces, hpieces, hjoin⟩ := ih
      obtain ⟨piece, hpiece, hcons⟩ := spelled_escape c
      exact ⟨piece :: pieces, .cons hpiece hpieces, by rw [hcons, hjoin]; rfl⟩

/-- The literal that is written for a text is one of its literals. -/
theorem spelled_text (s : Option String) : Spelled s (text s) := by
  cases s with
  | none => exact .intro (.cons (.unit (n := 0xD800) rfl) .nil)
  | some s =>
      obtain ⟨pieces, hpieces, hjoin⟩ := exists_body s.toList
      have hspelled := Spelled.intro hpieces
      rwa [hjoin, Option.map_some, String.ofList_toList] at hspelled

end SqlSelect.Json.Literal
