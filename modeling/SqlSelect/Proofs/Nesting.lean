import SqlSelect.Proofs.Grammar

/-!
The nesting of a text, counted along its characters: brackets and braces open and close
containers, except in string literals, where a quote behind a backslash is no end. A text
nests as deep as its tree, however it is spelled.
-/

namespace SqlSelect

namespace Json

/-- Where a character of a text stands: outside of string literals, in one, or in one behind
a backslash. -/
inductive Place where
  | outside
  | literal
  | escaped
  deriving DecidableEq, Repr

/-- Where the character after `c` stands. -/
def Place.next : Place → Char → Place
  | outside, c => if c = '"' then literal else outside
  | literal, c => if c = '"' then outside else if c = '\\' then escaped else literal
  | escaped, _ => literal

/-- How many containers are open behind `c`, of which `opened` are in front of it. -/
def Place.opened (opened : Nat) : Place → Char → Nat
  | outside, c =>
      if c = '[' ∨ c = '\x7b' then opened + 1
      else if c = ']' ∨ c = '\x7d' then opened - 1
      else opened
  | _, _ => opened

/-- The number of containers that are open at the deepest place of a text, of which `opened`
are at its start. -/
def nestingFrom (place : Place) (opened : Nat) : List Char → Nat
  | [] => opened
  | c :: cs => max opened (nestingFrom (place.next c) (place.opened opened c) cs)

def nesting (text : String) : Nat := nestingFrom .outside 0 text.toList

variable {opened : Nat}

theorem le_nestingFrom (place : Place) (opened : Nat) (cs : List Char) :
    opened ≤ nestingFrom place opened cs := by
  cases cs with
  | nil => exact Nat.le_refl opened
  | cons c cs => exact Nat.le_max_left _ _

theorem max_nestingFrom (place : Place) (opened : Nat) (cs : List Char) :
    max opened (nestingFrom place opened cs) = nestingFrom place opened cs :=
  Nat.max_eq_right (le_nestingFrom place opened cs)

/-- A character that opens and closes nothing leaves the rest to be counted. -/
theorem nestingFrom_cons {place : Place} {c : Char} (h : place.opened opened c = opened)
    (cs : List Char) :
    nestingFrom place opened (c :: cs) = nestingFrom (place.next c) opened cs := by
  rw [nestingFrom, h, max_nestingFrom]

/-! ### Literals and numerals -/

theorem hexDigit?_plain {c : Char} {n : Nat} (h : Literal.hexDigit? c = some n) :
    c ≠ '"' ∧ c ≠ '\\' := by
  constructor <;> rintro rfl <;> cases h

theorem nestingFrom_plain {c : Char} (h : c ≠ '"' ∧ c ≠ '\\') (cs : List Char) :
    nestingFrom .literal opened (c :: cs) = nestingFrom .literal opened cs := by
  rw [nestingFrom_cons rfl, Place.next, if_neg h.1, if_neg h.2]

theorem nestingFrom_escape (c : Char) (cs : List Char) :
    nestingFrom .literal opened ('\\' :: c :: cs) = nestingFrom .literal opened cs := by
  rw [nestingFrom_cons rfl]
  exact nestingFrom_cons rfl cs

theorem nestingFrom_body {pieces : List Literal.Piece} {cs : List Char}
    (h : Literal.Body pieces cs) (rest : List Char) :
    nestingFrom .literal opened (cs ++ rest) = nestingFrom .literal opened rest := by
  induction h with
  | nil => rfl
  | cons hpiece _ ih =>
      rw [List.append_assoc]
      cases hpiece with
      | plain _ hquote hbackslash =>
          rw [List.singleton_append, nestingFrom_plain ⟨hquote, hbackslash⟩, ih]
      | short _ => rw [List.cons_append, List.singleton_append, nestingFrom_escape, ih]
      | unit hunit =>
          simp only [Literal.unit?, Option.bind_eq_bind, Option.bind_eq_some_iff] at hunit
          obtain ⟨_, ha, _, hb, _, hc, _, hd, -⟩ := hunit
          simp only [List.cons_append, List.nil_append]
          rw [nestingFrom_escape, nestingFrom_plain (hexDigit?_plain ha),
            nestingFrom_plain (hexDigit?_plain hb), nestingFrom_plain (hexDigit?_plain hc),
            nestingFrom_plain (hexDigit?_plain hd), ih]

/-- Brackets in a literal do not count. -/
theorem nestingFrom_literal {s : Option String} {cs : List Char} (h : Literal.Spelled s cs)
    (rest : List Char) :
    nestingFrom .outside opened (cs ++ rest) = nestingFrom .outside opened rest := by
  obtain ⟨h⟩ := h
  rw [List.cons_append, List.append_assoc, List.singleton_append, nestingFrom_cons rfl]
  exact (nestingFrom_body h _).trans (nestingFrom_cons rfl rest)

/-- A character that is no bracket, no brace and no quote. -/
def IsFlat (c : Char) : Prop := c ∉ ['[', '\x7b', ']', '\x7d', '"']

theorem nestingFrom_flat {cs : List Char} (h : ∀ c ∈ cs, IsFlat c) (rest : List Char) :
    nestingFrom .outside opened (cs ++ rest) = nestingFrom .outside opened rest := by
  induction cs with
  | nil => rfl
  | cons c cs ih =>
      rw [List.forall_mem_cons] at h
      obtain ⟨hc, hcs⟩ := h
      simp only [IsFlat, List.mem_cons, List.not_mem_nil, or_false, not_or] at hc
      have hopened : Place.opened opened .outside c = opened := by simp [Place.opened, hc]
      rw [List.cons_append, nestingFrom_cons hopened, Place.next, if_neg hc.2.2.2.2, ih hcs]

theorem isFlat_of_isDigit {c : Char} (h : c.isDigit = true) : IsFlat c := by
  intro hc
  simp only [List.mem_cons, List.not_mem_nil, or_false] at hc
  rcases hc with rfl | rfl | rfl | rfl | rfl <;> cases h

theorem isFlat_of_blanks {blanks : List Char} (h : Blanks blanks) : ∀ c ∈ blanks, IsFlat c := by
  intro c hc
  have hc := h c hc
  simp only [List.mem_cons, List.not_mem_nil, or_false] at hc
  rcases hc with rfl | rfl | rfl | rfl <;> simp [IsFlat]

theorem isFlat_of_numeral {n : Numeral} {cs : List Char} (h : n.Spelled cs) :
    ∀ c ∈ cs, IsFlat c := by
  obtain ⟨negative, hwhole, hfraction, hexponent⟩ := h
  simp only [List.forall_mem_append]
  refine ⟨?_, fun c hc => isFlat_of_isDigit (hwhole.isDigit hc), ?_, ?_⟩
  · cases negative <;> simp [IsFlat]
  · cases hfraction with
    | absent => simp
    | present h =>
        rw [List.forall_mem_cons]
        exact ⟨by simp [IsFlat], fun c hc => isFlat_of_isDigit (h.isDigit c hc)⟩
  · cases hexponent with
    | absent => simp
    | present hletter hsign h =>
        rw [List.forall_mem_cons, List.forall_mem_append]
        refine ⟨?_, ?_, fun c hc => isFlat_of_isDigit (h.isDigit c hc)⟩
        · rcases hletter with rfl | rfl <;> simp [IsFlat]
        · cases hsign <;> simp [IsFlat]

/-! ### Trees -/

theorem nestingFrom_open {c : Char} (h : c = '[' ∨ c = '\x7b') (cs : List Char) :
    nestingFrom .outside opened (c :: cs) = nestingFrom .outside (opened + 1) cs := by
  have hle := le_nestingFrom .outside (opened + 1) cs
  rcases h with rfl | rfl
  all_goals exact Nat.max_eq_right (Nat.le_of_succ_le hle)

theorem nestingFrom_close {c : Char} (h : c = ']' ∨ c = '\x7d') (cs : List Char) :
    nestingFrom .outside (opened + 1) (c :: cs) =
      max (opened + 1) (nestingFrom .outside opened cs) := by
  rcases h with rfl | rfl <;> rfl

theorem nestingFrom_comma (cs : List Char) :
    nestingFrom .outside opened (',' :: cs) = nestingFrom .outside opened cs :=
  nestingFrom_cons rfl cs

namespace Tree

mutual

theorem Spelled.nestingFrom_append {t : Tree} {cs : List Char} :
    Spelled t cs → ∀ opened rest, nestingFrom .outside opened (cs ++ rest) =
      max (opened + t.depth) (nestingFrom .outside opened rest)
  | .null, opened, rest => by
      rw [nestingFrom_flat (by simp [IsFlat])]
      exact (max_nestingFrom _ _ _).symm
  | .true, opened, rest => by
      rw [nestingFrom_flat (by simp [IsFlat])]
      exact (max_nestingFrom _ _ _).symm
  | .false, opened, rest => by
      rw [nestingFrom_flat (by simp [IsFlat])]
      exact (max_nestingFrom _ _ _).symm
  | .number h, opened, rest => by
      rw [nestingFrom_flat (isFlat_of_numeral h)]
      exact (max_nestingFrom _ _ _).symm
  | .string h, opened, rest => by
      rw [nestingFrom_literal h]
      exact (max_nestingFrom _ _ _).symm
  | .emptyArray h, opened, rest => by
      rw [List.cons_append, List.append_assoc, List.singleton_append, nestingFrom_open (.inl rfl),
        nestingFrom_flat (isFlat_of_blanks h), nestingFrom_close (.inl rfl)]
      rfl
  | .array h, opened, rest => by
      rw [List.cons_append, List.append_assoc, List.singleton_append, nestingFrom_open (.inl rfl),
        h.nestingFrom_append, nestingFrom_close (.inl rfl), depth]
      omega
  | .emptyObject h, opened, rest => by
      rw [List.cons_append, List.append_assoc, List.singleton_append, nestingFrom_open (.inr rfl),
        nestingFrom_flat (isFlat_of_blanks h), nestingFrom_close (.inr rfl)]
      rfl
  | .object h, opened, rest => by
      rw [List.cons_append, List.append_assoc, List.singleton_append, nestingFrom_open (.inr rfl),
        h.nestingFrom_append, nestingFrom_close (.inr rfl), depth]
      omega

theorem SpelledElement.nestingFrom_append {t : Tree} {cs : List Char} :
    SpelledElement t cs → ∀ opened rest, nestingFrom .outside opened (cs ++ rest) =
      max (opened + t.depth) (nestingFrom .outside opened rest)
  | .intro hbefore h hafter, opened, rest => by
      rw [List.append_assoc, List.append_assoc, nestingFrom_flat (isFlat_of_blanks hbefore),
        h.nestingFrom_append, nestingFrom_flat (isFlat_of_blanks hafter)]

theorem SpelledItems.nestingFrom_append {items : List Tree} {cs : List Char} :
    SpelledItems items cs → ∀ opened rest, nestingFrom .outside opened (cs ++ rest) =
      max (opened + depthItems items) (nestingFrom .outside opened rest)
  | .last h, opened, rest => by
      rw [h.nestingFrom_append, depthItems, depthItems, Nat.max_zero]
  | .cons h hrest, opened, rest => by
      rw [List.append_assoc, List.cons_append, h.nestingFrom_append, nestingFrom_comma,
        hrest.nestingFrom_append, depthItems]
      omega

theorem SpelledMember.nestingFrom_append {m : Option String × Tree} {cs : List Char} :
    SpelledMember m cs → ∀ opened rest, nestingFrom .outside opened (cs ++ rest) =
      max (opened + m.2.depth) (nestingFrom .outside opened rest)
  | .intro hbefore hkey hafter h, opened, rest => by
      simp only [List.append_assoc, List.cons_append]
      rw [nestingFrom_flat (isFlat_of_blanks hbefore), nestingFrom_literal hkey,
        nestingFrom_flat (isFlat_of_blanks hafter), nestingFrom_cons rfl]
      exact h.nestingFrom_append opened rest

theorem SpelledMembers.nestingFrom_append {members : List (Option String × Tree)}
    {cs : List Char} :
    SpelledMembers members cs → ∀ opened rest, nestingFrom .outside opened (cs ++ rest) =
      max (opened + depthMembers members) (nestingFrom .outside opened rest)
  | .last h, opened, rest => by
      rw [h.nestingFrom_append, depthMembers, depthMembers, Nat.max_zero]
  | .cons h hrest, opened, rest => by
      rw [List.append_assoc, List.cons_append, h.nestingFrom_append, nestingFrom_comma,
        hrest.nestingFrom_append, depthMembers]
      omega

end

/-- A text nests as deep as its tree. -/
theorem SpelledElement.nesting_eq {t : Tree} {s : String} (h : SpelledElement t s.toList) :
    nesting s = t.depth := by
  have hnesting := h.nestingFrom_append 0 []
  rw [List.append_nil, nestingFrom, Nat.max_zero, Nat.zero_add] at hnesting
  exact hnesting

end Tree

end Json

end SqlSelect
