import SqlSelect.Json.Token

/-!
Syntax trees of JSON texts. A tree keeps numerals as they are written, members
in their order and names that occur twice. Reading a tree checks the syntax of a
text and nothing else; what the parts of the tree mean is decided by whoever
takes values from it.
-/

namespace SqlSelect.Json

inductive Tree where
  | null
  | bool (b : Bool)
  | number (n : Numeral)
  | string (s : Option String)
  | array (items : List Tree)
  | object (members : List (Option String × Tree))
  deriving Repr, Inhabited

namespace Tree

mutual

/-- The number of containers that are open at the deepest place. -/
def depth : Tree → Nat
  | array items => depthItems items + 1
  | object members => depthMembers members + 1
  | _ => 0

def depthItems : List Tree → Nat
  | [] => 0
  | t :: ts => max (depth t) (depthItems ts)

def depthMembers : List (Option String × Tree) → Nat
  | [] => 0
  | (_, t) :: ms => max (depth t) (depthMembers ms)

end

mutual

/-- The tree at the start of some tokens, and the tokens that follow it. The
number bounds the nesting and the length of what is read. -/
def readValue? : Nat → List Token → Option (Tree × List Token)
  | 0, _ => none
  | bound + 1, tokens =>
      match tokens with
      | .null :: rest => some (null, rest)
      | .bool b :: rest => some (bool b, rest)
      | .number n :: rest => some (number n, rest)
      | .string s :: rest => some (string s, rest)
      | .openBracket :: .closeBracket :: rest => some (array [], rest)
      | .openBracket :: rest =>
          (readItems? bound rest).map fun (items, rest) => (array items, rest)
      | .openBrace :: .closeBrace :: rest => some (object [], rest)
      | .openBrace :: rest =>
          (readMembers? bound rest).map fun (members, rest) => (object members, rest)
      | _ => none

def readItems? : Nat → List Token → Option (List Tree × List Token)
  | 0, _ => none
  | bound + 1, tokens => do
      let (first, rest) ← readValue? bound tokens
      match rest with
      | .closeBracket :: rest => return ([first], rest)
      | .comma :: rest => do
          let (others, rest) ← readItems? bound rest
          return (first :: others, rest)
      | _ => none

def readMembers? : Nat → List Token → Option (List (Option String × Tree) × List Token)
  | 0, _ => none
  | bound + 1, tokens =>
      match tokens with
      | .string key :: .colon :: rest => do
          let (first, rest) ← readValue? bound rest
          match rest with
          | .closeBrace :: rest => return ([(key, first)], rest)
          | .comma :: rest => do
              let (others, rest) ← readMembers? bound rest
              return ((key, first) :: others, rest)
          | _ => none
      | _ => none

end

/-- The tree that all of the tokens make up. Two steps are enough for a token: one
that opens a container and one that goes to its next element. -/
def ofTokens? (tokens : List Token) : Option Tree :=
  match readValue? (2 * tokens.length + 1) tokens with
  | some (tree, []) => some tree
  | _ => none

def read? (s : String) : Option Tree := (Token.scan? s.toList).bind ofTokens?

mutual

def tokens : Tree → List Token
  | null => [.null]
  | bool b => [.bool b]
  | number n => [.number n]
  | string s => [.string s]
  | array items => .openBracket :: tokensItems items ++ [.closeBracket]
  | object members => .openBrace :: tokensMembers members ++ [.closeBrace]

def tokensItems : List Tree → List Token
  | [] => []
  | [t] => tokens t
  | t :: ts => tokens t ++ .comma :: tokensItems ts

def tokensMembers : List (Option String × Tree) → List Token
  | [] => []
  | [(key, t)] => .string key :: .colon :: tokens t
  | (key, t) :: ms => .string key :: .colon :: tokens t ++ .comma :: tokensMembers ms

end

def render (t : Tree) : String := String.ofList (t.tokens.flatMap Token.text)

/-- The member of this name among members of different names. -/
def member? (key : String) (members : List (Option String × Tree)) : Option Tree :=
  (members.find? (·.1 == some key)).map (·.2)

end Tree

end SqlSelect.Json
