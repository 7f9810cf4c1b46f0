import SqlSelect.Proofs.Grammar

/-!
Trees read from texts. The tokens of a tree are read as the tree, within the bound that
their number gives, so that every text of a tree is read as it. The text that is written for
a tree is one of its texts, if its numerals are written as numerals.
-/

namespace SqlSelect.Json.Tree

/-! ### Trees from their tokens -/

/-- No tree ends the array or the object that it is in. -/
theorem exists_tokens_eq_cons (t : Tree) : ∃ first rest,
    t.tokens = first :: rest ∧ first ≠ .closeBracket ∧ first ≠ .closeBrace := by
  cases t <;> exact ⟨_, _, rfl, by simp, by simp⟩

theorem exists_tokensItems_eq_cons {items : List Tree} (h : items ≠ []) : ∃ first rest,
    tokensItems items = first :: rest ∧ first ≠ .closeBracket := by
  obtain ⟨t, items, rfl⟩ := List.exists_cons_of_ne_nil h
  obtain ⟨first, rest, ht, hfirst, -⟩ := t.exists_tokens_eq_cons
  cases items with
  | nil => exact ⟨first, rest, ht, hfirst⟩
  | cons t' items =>
      refine ⟨first, rest ++ .comma :: tokensItems (t' :: items), ?_, hfirst⟩
      rw [tokensItems_cons (List.cons_ne_nil _ _), ht, List.cons_append]

theorem exists_tokensMembers_eq_cons {members : List (Option String × Tree)} (h : members ≠ []) :
    ∃ key rest, tokensMembers members = .string key :: rest := by
  obtain ⟨m, members, rfl⟩ := List.exists_cons_of_ne_nil h
  cases members with
  | nil => exact ⟨_, _, rfl⟩
  | cons m' members => exact ⟨_, _, tokensMembers_cons (List.cons_ne_nil _ _) m⟩

mutual

theorem readValue?_tokens (t : Tree) {bound : Nat} (rest : List Token)
    (h : 2 * t.tokens.length ≤ bound + 1) :
    readValue? bound (t.tokens ++ rest) = some (t, rest) := by
  obtain ⟨bound, rfl⟩ : ∃ b, bound = b + 1 := by
    obtain ⟨first, others, ht, -⟩ := t.exists_tokens_eq_cons
    rw [ht, List.length_cons] at h
    exact ⟨bound - 1, by omega⟩
  cases t with
  | null => rfl
  | bool b => rfl
  | number n => rfl
  | string s => rfl
  | array items =>
      rw [tokens, List.length_append, List.length_cons, List.length_singleton] at h
      rw [tokens, List.append_assoc, List.cons_append, List.singleton_append]
      cases items with
      | nil => rfl
      | cons t items =>
          have hitems := readItems?_tokens (t :: items) rest (List.cons_ne_nil _ _)
            (show 2 * (tokensItems (t :: items)).length ≤ bound by omega)
          rw [readValue?, hitems, Option.map_some]
          obtain ⟨first, others, hfirst, hbracket⟩ :=
            exists_tokensItems_eq_cons (List.cons_ne_nil t items)
          rw [hfirst]
          exact fun _ hclose => hbracket (List.head_eq_of_cons_eq hclose)
  | object members =>
      rw [tokens, List.length_append, List.length_cons, List.length_singleton] at h
      rw [tokens, List.append_assoc, List.cons_append, List.singleton_append]
      cases members with
      | nil => rfl
      | cons m members =>
          have hmembers := readMembers?_tokens (m :: members) rest (List.cons_ne_nil _ _)
            (show 2 * (tokensMembers (m :: members)).length ≤ bound by omega)
          rw [readValue?, hmembers, Option.map_some]
          obtain ⟨key, others, hkey⟩ := exists_tokensMembers_eq_cons (List.cons_ne_nil m members)
          rw [hkey]
          exact fun _ hclose => nomatch List.head_eq_of_cons_eq hclose

theorem readItems?_tokens (items : List Tree) {bound : Nat} (rest : List Token) (hne : items ≠ [])
    (h : 2 * (tokensItems items).length ≤ bound) :
    readItems? bound (tokensItems items ++ .closeBracket :: rest) = some (items, rest) := by
  cases items with
  | nil => exact absurd rfl hne
  | cons t items =>
      obtain ⟨bound, rfl⟩ : ∃ b, bound = b + 1 := by
        obtain ⟨first, others, hfirst, -⟩ := exists_tokensItems_eq_cons hne
        rw [hfirst, List.length_cons] at h
        exact ⟨bound - 1, by omega⟩
      cases items with
      | nil =>
          rw [tokensItems] at h ⊢
          simp [readItems?, readValue?_tokens t _ h]
      | cons t' items =>
          rw [tokensItems_cons (List.cons_ne_nil _ _), List.length_append, List.length_cons] at h
          rw [tokensItems_cons (List.cons_ne_nil _ _), List.append_assoc, List.cons_append]
          have hfirst := readValue?_tokens t
            (.comma :: (tokensItems (t' :: items) ++ .closeBracket :: rest))
            (show 2 * t.tokens.length ≤ bound + 1 by omega)
          have hothers := readItems?_tokens (t' :: items) rest (List.cons_ne_nil _ _)
            (show 2 * (tokensItems (t' :: items)).length ≤ bound by omega)
          simp [readItems?, hfirst, hothers]

theorem readMembers?_tokens (members : List (Option String × Tree)) {bound : Nat}
    (rest : List Token) (hne : members ≠ []) (h : 2 * (tokensMembers members).length ≤ bound) :
    readMembers? bound (tokensMembers members ++ .closeBrace :: rest) = some (members, rest) := by
  cases members with
  | nil => exact absurd rfl hne
  | cons m members =>
      obtain ⟨key, t⟩ := m
      obtain ⟨bound, rfl⟩ : ∃ b, bound = b + 1 := by
        obtain ⟨first, others, hfirst⟩ := exists_tokensMembers_eq_cons hne
        rw [hfirst, List.length_cons] at h
        exact ⟨bound - 1, by omega⟩
      cases members with
      | nil =>
          rw [tokensMembers, List.length_cons, List.length_cons] at h
          rw [tokensMembers]
          simp [readMembers?, readValue?_tokens t _ (show 2 * t.tokens.length ≤ bound + 1 by omega)]
      | cons m' members =>
          rw [tokensMembers_cons (List.cons_ne_nil _ _), List.length_append, List.length_cons,
            List.length_cons, List.length_cons] at h
          dsimp only at h
          rw [tokensMembers_cons (List.cons_ne_nil _ _)]
          have hfirst := readValue?_tokens t
            (.comma :: (tokensMembers (m' :: members) ++ .closeBrace :: rest))
            (show 2 * t.tokens.length ≤ bound + 1 by omega)
          have hothers := readMembers?_tokens (m' :: members) rest (List.cons_ne_nil _ _)
            (show 2 * (tokensMembers (m' :: members)).length ≤ bound by omega)
          simp [readMembers?, hfirst, hothers]

end

theorem ofTokens?_tokens (t : Tree) : ofTokens? t.tokens = some t := by
  have ht : readValue? (2 * t.tokens.length + 1) (t.tokens ++ []) = some (t, []) :=
    readValue?_tokens t [] (by omega)
  rw [List.append_nil] at ht
  rw [ofTokens?, ht]

/-- Every text of a tree is read as the tree. -/
theorem SpelledElement.read?_eq {t : Tree} {s : String} (h : SpelledElement t s.toList) :
    read? s = some t := by
  have htokens := h.scan?_append [] (by simp [Numeral.Stops])
  have hend : Token.scan? [] = some [] := by rw [Token.scan?_eq]; rfl
  rw [List.append_nil, hend, Option.map_some, List.append_nil] at htokens
  rw [read?, htokens, Option.bind_some, ofTokens?_tokens]

/-! ### Texts that are written -/

theorem blanks_nil : Blanks [] := fun _ hc => nomatch hc

theorem Spelled.element {t : Tree} {cs : List Char} (h : Spelled t cs) : SpelledElement t cs := by
  simpa using SpelledElement.intro blanks_nil h blanks_nil

/-- The characters of a tree that is written without blanks. -/
def text (t : Tree) : List Char := t.tokens.flatMap Token.text

theorem toList_render (t : Tree) : t.render.toList = t.text := by
  rw [render, String.toList_ofList, text]

theorem spelledItems_text {items : List Tree} (hne : items ≠ [])
    (h : ∀ t ∈ items, Spelled t t.text) :
    SpelledItems items ((tokensItems items).flatMap Token.text) := by
  induction items with
  | nil => exact absurd rfl hne
  | cons t items ih =>
      rw [List.forall_mem_cons] at h
      cases items with
      | nil => exact .last h.1.element
      | cons t' items =>
          rw [tokensItems_cons (List.cons_ne_nil _ _), List.flatMap_append, List.flatMap_cons]
          exact .cons h.1.element (ih (List.cons_ne_nil _ _) h.2)

theorem spelledMember_text {m : Option String × Tree} (h : Spelled m.2 m.2.text) :
    SpelledMember m ((.string m.1 :: .colon :: m.2.tokens).flatMap Token.text) := by
  simpa [Token.text, text] using
    SpelledMember.intro blanks_nil (Literal.spelled_text m.1) blanks_nil h.element

theorem spelledMembers_text {members : List (Option String × Tree)} (hne : members ≠ [])
    (h : ∀ m ∈ members, Spelled m.2 m.2.text) :
    SpelledMembers members ((tokensMembers members).flatMap Token.text) := by
  induction members with
  | nil => exact absurd rfl hne
  | cons m members ih =>
      rw [List.forall_mem_cons] at h
      cases members with
      | nil => exact .last (spelledMember_text h.1)
      | cons m' members =>
          rw [tokensMembers_cons (List.cons_ne_nil _ _), List.flatMap_append, List.flatMap_cons]
          exact .cons (spelledMember_text h.1) (ih (List.cons_ne_nil _ _) h.2)

/-- Trees that have no other numerals than those of integers. -/
inductive Integral : Tree → Prop where
  | null : Integral null
  | bool (b : Bool) : Integral (bool b)
  | integer (n : Int) : Integral (number (.ofInt n))
  | string (s : Option String) : Integral (string s)
  | array {items : List Tree} (h : ∀ t ∈ items, Integral t) : Integral (array items)
  | object {members : List (Option String × Tree)} (h : ∀ m ∈ members, Integral m.2) :
      Integral (object members)

theorem Integral.spelled_text {t : Tree} (h : Integral t) : Spelled t t.text := by
  induction h with
  | null => exact .null
  | bool b => cases b <;> constructor
  | integer n =>
      have hspelled := Numeral.spelled_ofInt n ['+']
      simpa [text, tokens, Token.text] using Spelled.number hspelled
  | string s => simpa [text, tokens, Token.text] using Spelled.string (Literal.spelled_text s)
  | @array items _ ih =>
      rw [text, tokens, List.flatMap_append]
      cases items with
      | nil => exact .emptyArray blanks_nil
      | cons t items => exact .array (spelledItems_text (List.cons_ne_nil _ _) ih)
  | @object members _ ih =>
      rw [text, tokens, List.flatMap_append]
      cases members with
      | nil => exact .emptyObject blanks_nil
      | cons m members => exact .object (spelledMembers_text (List.cons_ne_nil _ _) ih)

/-- The text that is written for a tree is read as the tree. -/
theorem Integral.read?_render {t : Tree} (h : Integral t) : read? t.render = some t := by
  apply SpelledElement.read?_eq
  rw [toList_render]
  exact h.spelled_text.element

end SqlSelect.Json.Tree
