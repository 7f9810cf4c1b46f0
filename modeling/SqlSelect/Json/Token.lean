import SqlSelect.Json.Literal
import SqlSelect.Number.Numeral

/-!
Tokens of JSON texts. Between them there may be spaces, tabs and ends of lines.
-/

namespace SqlSelect.Json

inductive Token where
  | openBracket
  | closeBracket
  | openBrace
  | closeBrace
  | comma
  | colon
  | null
  | bool (b : Bool)
  | number (n : Numeral)
  /-- A string literal, with the text that it names if it names one. -/
  | string (s : Option String)
  deriving DecidableEq, Repr

namespace Token

/-- The token at the start of a text, and what follows it. -/
def next? : List Char → Option (Token × List Char)
  | '[' :: rest => some (openBracket, rest)
  | ']' :: rest => some (closeBracket, rest)
  | '\x7b' :: rest => some (openBrace, rest)
  | '\x7d' :: rest => some (closeBrace, rest)
  | ',' :: rest => some (comma, rest)
  | ':' :: rest => some (colon, rest)
  | 'n' :: 'u' :: 'l' :: 'l' :: rest => some (null, rest)
  | 't' :: 'r' :: 'u' :: 'e' :: rest => some (bool true, rest)
  | 'f' :: 'a' :: 'l' :: 's' :: 'e' :: rest => some (bool false, rest)
  | '"' :: rest => (Literal.read? rest).map fun (s, rest) => (string s, rest)
  | cs => (Numeral.read? cs).map fun (n, rest) => (number n, rest)

theorem next?_length {cs rest : List Char} {t : Token} (h : next? cs = some (t, rest)) :
    rest.length < cs.length := by
  unfold next? at h
  split at h
  case h_10 =>
    obtain ⟨⟨s, r⟩, hs, he⟩ := Option.map_eq_some_iff.1 h
    have := Literal.read?_length hs
    simp only [Prod.mk.injEq] at he
    simp only [List.length_cons, ← he.2]
    omega
  case h_11 =>
    obtain ⟨⟨n, r⟩, hn, he⟩ := Option.map_eq_some_iff.1 h
    simp only [Prod.mk.injEq] at he
    exact he.2 ▸ Numeral.read?_length hn
  all_goals
    simp only [Option.some.injEq, Prod.mk.injEq] at h
    simp only [List.length_cons, ← h.2]
    omega

def scan? (cs : List Char) : Option (List Token) :=
  match _hc : cs.dropWhile Char.isWhitespace with
  | [] => some []
  | c :: cs' =>
      match _hn : next? (c :: cs') with
      | none => none
      | some (token, rest) => (scan? rest).map (token :: ·)
termination_by cs.length
decreasing_by
  have h := next?_length _hn
  rw [← _hc] at h
  have := (List.dropWhile_sublist (l := cs) Char.isWhitespace).length_le
  omega

def text : Token → List Char
  | openBracket => ['[']
  | closeBracket => [']']
  | openBrace => ['\x7b']
  | closeBrace => ['\x7d']
  | comma => [',']
  | colon => [':']
  | null => "null".toList
  | bool true => "true".toList
  | bool false => "false".toList
  | number n => n.text ['+']
  | string s => Literal.text s

end Token

end SqlSelect.Json
