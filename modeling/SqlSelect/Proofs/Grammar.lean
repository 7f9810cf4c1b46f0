import SqlSelect.Json.Tree
import SqlSelect.Proofs.Literal
import SqlSelect.Proofs.Numeral

/-!
JSON texts as a grammar. A tree has many texts: there may be blanks around every token, and
literals and numerals have several spellings. All of them are read as the tree, and the text
that is written for it is one of them.
-/

namespace SqlSelect.Json

/-- What may stand between tokens. -/
def Blanks (cs : List Char) : Prop := ∀ c ∈ cs, c ∈ [' ', '\t', '\n', '\r']

namespace Tree

mutual

/-- The texts of a tree. -/
inductive Spelled : Tree → List Char → Prop where
  | null : Spelled null "null".toList
  | true : Spelled (bool true) "true".toList
  | false : Spelled (bool false) "false".toList
  | number {n : Numeral} {cs : List Char} (h : n.Spelled cs) : Spelled (number n) cs
  | string {s : Option String} {cs : List Char} (h : Literal.Spelled s cs) : Spelled (string s) cs
  | emptyArray {blanks : List Char} (h : Blanks blanks) :
      Spelled (array []) ('[' :: (blanks ++ [']']))
  | array {items : List Tree} {cs : List Char} (h : SpelledItems items cs) :
      Spelled (array items) ('[' :: (cs ++ [']']))
  | emptyObject {blanks : List Char} (h : Blanks blanks) :
      Spelled (object []) ('\x7b' :: (blanks ++ ['\x7d']))
  | object {members : List (Option String × Tree)} {cs : List Char}
      (h : SpelledMembers members cs) : Spelled (object members) ('\x7b' :: (cs ++ ['\x7d']))

/-- The texts of a tree with blanks around them. -/
inductive SpelledElement : Tree → List Char → Prop where
  | intro {t : Tree} {before cs after : List Char} (hbefore : Blanks before) (h : Spelled t cs)
      (hafter : Blanks after) : SpelledElement t (before ++ (cs ++ after))

/-- The texts of some items, of which there is at least one. -/
inductive SpelledItems : List Tree → List Char → Prop where
  | last {t : Tree} {cs : List Char} (h : SpelledElement t cs) : SpelledItems [t] cs
  | cons {t : Tree} {items : List Tree} {cs rest : List Char} (h : SpelledElement t cs)
      (hrest : SpelledItems items rest) : SpelledItems (t :: items) (cs ++ ',' :: rest)

/-- The texts of a member. There may be blanks around the key, too. -/
inductive SpelledMember : Option String × Tree → List Char → Prop where
  | intro {key : Option String} {t : Tree} {before ks after cs : List Char}
      (hbefore : Blanks before) (hkey : Literal.Spelled key ks) (hafter : Blanks after)
      (h : SpelledElement t cs) :
      SpelledMember (key, t) (before ++ (ks ++ (after ++ ':' :: cs)))

/-- The texts of some members, of which there is at least one. -/
inductive SpelledMembers : List (Option String × Tree) → List Char → Prop where
  | last {m : Option String × Tree} {cs : List Char} (h : SpelledMember m cs) :
      SpelledMembers [m] cs
  | cons {m : Option String × Tree} {members : List (Option String × Tree)}
      {cs rest : List Char} (h : SpelledMember m cs) (hrest : SpelledMembers members rest) :
      SpelledMembers (m :: members) (cs ++ ',' :: rest)

end

end Tree

/-! ### Tokens -/

namespace Token

theorem scan?_eq (cs : List Char) :
    scan? cs = match cs.dropWhile Char.isWhitespace with
      | [] => some []
      | c :: cs' => (next? (c :: cs')).bind fun (token, rest) => (scan? rest).map (token :: ·) := by
  rw [scan?.eq_def]
  split
  · rename_i hcs
    rw [hcs]
  · rename_i hcs
    rw [hcs]
    split
    · rename_i hnext
      simp only [hnext, Option.bind_none]
    · rename_i hnext
      simp only [hnext, Option.bind_some]

theorem scan?_blanks {blanks : List Char} (h : Blanks blanks) (rest : List Char) :
    scan? (blanks ++ rest) = scan? rest := by
  have hblank : ∀ c ∈ blanks, c.isWhitespace = true := by
    intro c hc
    have hc := h c hc
    simp only [List.mem_cons, List.not_mem_nil, or_false] at hc
    rcases hc with rfl | rfl | rfl | rfl <;> rfl
  rw [scan?_eq, scan?_eq, List.dropWhile_append_of_pos hblank]

theorem scan?_cons {c : Char} {cs rest : List Char} {token : Token} (hc : c.isWhitespace = false)
    (h : next? (c :: cs) = some (token, rest)) :
    scan? (c :: cs) = (scan? rest).map (token :: ·) := by
  rw [scan?_eq, List.dropWhile_cons_of_neg (by simp [hc])]
  simp only [h, Option.bind_some]

theorem isWhitespace_eq_false {c : Char} (h : c.isDigit = true ∨ c = '-') :
    c.isWhitespace = false := by
  cases hblank : c.isWhitespace with
  | false => rfl
  | true =>
      simp only [Char.isWhitespace, Bool.or_eq_true, decide_eq_true_eq] at hblank
      rcases hblank with ((rfl | rfl) | rfl) | rfl
      all_goals rcases h with h | h <;> cases h

theorem next?_numeral {c : Char} (h : c.isDigit = true ∨ c = '-') (cs : List Char) :
    next? (c :: cs) = (Numeral.read? (c :: cs)).map fun (n, rest) => (number n, rest) := by
  rw [next?.eq_def]
  split
  case h_11 => rfl
  all_goals
    rename_i hcs
    rw [List.head_eq_of_cons_eq hcs] at h
    rcases h with h | h <;> cases h

theorem scan?_literal {s : Option String} {cs : List Char} (h : Literal.Spelled s cs)
    (rest : List Char) : scan? (cs ++ rest) = (scan? rest).map (string s :: ·) := by
  obtain ⟨body, rfl, hread⟩ := h.read?_append rest
  exact scan?_cons rfl (by simp only [next?, List.append_eq, hread, Option.map_some])

theorem scan?_numeral {n : Numeral} {cs rest : List Char} (h : n.Spelled cs)
    (hrest : Numeral.Stops rest) : scan? (cs ++ rest) = (scan? rest).map (number n :: ·) := by
  obtain ⟨c, cs', rfl, hc⟩ := h.exists_cons
  have hread := h.read?_append hrest
  rw [List.cons_append] at hread ⊢
  refine scan?_cons (isWhitespace_eq_false hc) ?_
  rw [next?_numeral hc, hread]
  rfl

end Token

theorem stops_blanks {blanks rest : List Char} (h : Blanks blanks) (hrest : Numeral.Stops rest) :
    Numeral.Stops (blanks ++ rest) := by
  cases blanks with
  | nil => exact hrest
  | cons c blanks =>
      intro c hc
      cases hc
      have hblank := h c List.mem_cons_self
      simp only [List.mem_cons, List.not_mem_nil, or_false] at hblank
      rcases hblank with rfl | rfl | rfl | rfl <;> decide

theorem stops_punctuation {c : Char} (h : c ∈ [',', ']', '\x7d']) (rest : List Char) :
    Numeral.Stops (c :: rest) := by
  intro c hc
  cases hc
  simp only [List.mem_cons, List.not_mem_nil, or_false] at h
  rcases h with rfl | rfl | rfl <;> decide

namespace Tree

theorem SpelledItems.ne_nil {items : List Tree} {cs : List Char} (h : SpelledItems items cs) :
    items ≠ [] := by
  cases h <;> exact List.cons_ne_nil _ _

theorem SpelledMembers.ne_nil {members : List (Option String × Tree)} {cs : List Char}
    (h : SpelledMembers members cs) : members ≠ [] := by
  cases h <;> exact List.cons_ne_nil _ _

theorem tokensItems_cons {items : List Tree} (h : items ≠ []) (t : Tree) :
    tokensItems (t :: items) = t.tokens ++ .comma :: tokensItems items := by
  cases items with
  | nil => exact absurd rfl h
  | cons t' items => rfl

theorem tokensMembers_cons {members : List (Option String × Tree)} (h : members ≠ [])
    (m : Option String × Tree) :
    tokensMembers (m :: members) =
      .string m.1 :: .colon :: m.2.tokens ++ .comma :: tokensMembers members := by
  cases members with
  | nil => exact absurd rfl h
  | cons m' members => rfl

mutual

/-- The tokens of a text are those of its tree. -/
theorem Spelled.scan?_append {t : Tree} {cs : List Char} :
    Spelled t cs → ∀ rest, Numeral.Stops rest →
      Token.scan? (cs ++ rest) = (Token.scan? rest).map (t.tokens ++ ·)
  | .null, rest, _ => Token.scan?_cons rfl rfl
  | .true, rest, _ => Token.scan?_cons rfl rfl
  | .false, rest, _ => Token.scan?_cons rfl rfl
  | .number h, rest, hrest => Token.scan?_numeral h hrest
  | .string h, rest, _ => Token.scan?_literal h rest
  | .emptyArray h, rest, _ => by
      rw [List.cons_append, List.append_assoc, Token.scan?_cons rfl rfl, Token.scan?_blanks h,
        List.singleton_append, Token.scan?_cons rfl rfl, Option.map_map]
      rfl
  | .array h, rest, _ => by
      rw [List.cons_append, List.append_assoc, Token.scan?_cons rfl rfl, List.singleton_append,
        h.scan?_append _ (stops_punctuation (by simp) _), Token.scan?_cons rfl rfl,
        Option.map_map, Option.map_map]
      simp [tokens, Function.comp_def]
  | .emptyObject h, rest, _ => by
      rw [List.cons_append, List.append_assoc, Token.scan?_cons rfl rfl, Token.scan?_blanks h,
        List.singleton_append, Token.scan?_cons rfl rfl, Option.map_map]
      rfl
  | .object h, rest, _ => by
      rw [List.cons_append, List.append_assoc, Token.scan?_cons rfl rfl, List.singleton_append,
        h.scan?_append _ (stops_punctuation (by simp) _), Token.scan?_cons rfl rfl,
        Option.map_map, Option.map_map]
      simp [tokens, Function.comp_def]

theorem SpelledElement.scan?_append {t : Tree} {cs : List Char} :
    SpelledElement t cs → ∀ rest, Numeral.Stops rest →
      Token.scan? (cs ++ rest) = (Token.scan? rest).map (t.tokens ++ ·)
  | .intro hbefore h hafter, rest, hrest => by
      rw [List.append_assoc, List.append_assoc, Token.scan?_blanks hbefore,
        h.scan?_append _ (stops_blanks hafter hrest), Token.scan?_blanks hafter]

theorem SpelledItems.scan?_append {items : List Tree} {cs : List Char} :
    SpelledItems items cs → ∀ rest, Numeral.Stops rest →
      Token.scan? (cs ++ rest) = (Token.scan? rest).map (tokensItems items ++ ·)
  | .last h, rest, hrest => h.scan?_append rest hrest
  | .cons h hrest, rest, hstops => by
      rw [List.append_assoc, List.cons_append, h.scan?_append _ (stops_punctuation (by simp) _),
        Token.scan?_cons rfl rfl, hrest.scan?_append rest hstops, Option.map_map, Option.map_map,
        tokensItems_cons hrest.ne_nil]
      simp [Function.comp_def]

theorem SpelledMember.scan?_append {m : Option String × Tree} {cs : List Char} :
    SpelledMember m cs → ∀ rest, Numeral.Stops rest →
      Token.scan? (cs ++ rest) =
        (Token.scan? rest).map (.string m.1 :: .colon :: m.2.tokens ++ ·)
  | .intro hbefore hkey hafter h, rest, hrest => by
      simp only [List.append_assoc, List.cons_append]
      rw [Token.scan?_blanks hbefore, Token.scan?_literal hkey, Token.scan?_blanks hafter,
        Token.scan?_cons rfl rfl, h.scan?_append rest hrest, Option.map_map, Option.map_map]
      rfl

theorem SpelledMembers.scan?_append {members : List (Option String × Tree)} {cs : List Char} :
    SpelledMembers members cs → ∀ rest, Numeral.Stops rest →
      Token.scan? (cs ++ rest) = (Token.scan? rest).map (tokensMembers members ++ ·)
  | .last h, rest, hrest => h.scan?_append rest hrest
  | .cons h hrest, rest, hstops => by
      rw [List.append_assoc, List.cons_append, h.scan?_append _ (stops_punctuation (by simp) _),
        Token.scan?_cons rfl rfl, hrest.scan?_append rest hstops, Option.map_map, Option.map_map,
        tokensMembers_cons hrest.ne_nil]
      simp [Function.comp_def]

end

end Tree

end SqlSelect.Json
