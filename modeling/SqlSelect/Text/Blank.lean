/-!
Blanks are the twenty-five characters with Unicode's White_Space property.
Operators are recognized without the blanks around them, and blanks set the
word `as` apart in an aliased name.
-/

namespace SqlSelect.Text

def isBlank (c : Char) : Bool :=
  let n := c.toNat
  (0x09 ≤ n && n ≤ 0x0D) || n == 0x20 || n == 0x85 || n == 0xA0 || n == 0x1680 ||
    (0x2000 ≤ n && n ≤ 0x200A) || n == 0x2028 || n == 0x2029 || n == 0x202F ||
    n == 0x205F || n == 0x3000

def trimStart (cs : List Char) : List Char := cs.dropWhile isBlank

def trimEnd (cs : List Char) : List Char := (cs.reverse.dropWhile isBlank).reverse

def trim (s : String) : String := String.ofList (trimEnd (trimStart s.toList))

@[simp] theorem toList_trim (s : String) :
    (trim s).toList = trimEnd (trimStart s.toList) := by
  simp [trim]

end SqlSelect.Text
