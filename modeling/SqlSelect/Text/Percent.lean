/-!
Percent-encoding. Letters, digits and four marks stand for themselves; every other
character is written by the bytes of its UTF-8 encoding, each as a percent sign and
two hexadecimal digits.
-/

namespace SqlSelect.Text

/-- The characters that stand for themselves. -/
def isUnreserved (c : Char) : Bool :=
  c.isAlphanum || c == '-' || c == '.' || c == '_' || c == '~'

/-- A hexadecimal digit in upper case. -/
def upperHexDigit (n : Nat) : Char := (Nat.digitChar n).toUpper

def percentByte (b : UInt8) : List Char :=
  ['%', upperHexDigit (b.toNat / 16), upperHexDigit (b.toNat % 16)]

def percentChar (c : Char) : List Char :=
  if isUnreserved c then [c] else (String.utf8EncodeChar c).flatMap percentByte

def percentEncode (s : String) : String := String.ofList (s.toList.flatMap percentChar)

end SqlSelect.Text
