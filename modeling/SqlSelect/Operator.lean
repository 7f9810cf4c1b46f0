import SqlSelect.Text.Blank
import SqlSelect.Text.Letters

/-!
Comparison operators. A catalog lists the spellings every dialect accepts; a
dialect may add its own. Whatever a caller writes is only looked up here, so an
operator in a statement is always one of the listed spellings.
-/

namespace SqlSelect

structure Operator where
  spelling : String
  deriving DecidableEq, Repr, Inhabited

namespace Operator

def equal : Operator := ⟨"="⟩
def less : Operator := ⟨"<"⟩
def greater : Operator := ⟨">"⟩
def lessOrEqual : Operator := ⟨"<="⟩
def greaterOrEqual : Operator := ⟨">="⟩
def unequal : Operator := ⟨"<>"⟩
def notEqual : Operator := ⟨"!="⟩
def nullSafeEqual : Operator := ⟨"<=>"⟩
def like : Operator := ⟨"like"⟩
def notLike : Operator := ⟨"not like"⟩
def regexp : Operator := ⟨"regexp"⟩
def bitAnd : Operator := ⟨"&"⟩
def bitOr : Operator := ⟨"|"⟩
def bitXor : Operator := ⟨"^"⟩
def shiftLeft : Operator := ⟨"<<"⟩
def shiftRight : Operator := ⟨">>"⟩
def bitAndNot : Operator := ⟨"&~"⟩

/-- The spellings every dialect accepts. -/
def catalog : List String :=
  ["=", "<", ">", "<=", ">=", "<>", "!=", "<=>",
    "like", "like binary", "not like", "ilike",
    "&", "|", "^", "<<", ">>", "&~",
    "is", "is not",
    "rlike", "not rlike", "regexp", "not regexp",
    "~", "~*", "!~", "!~*", "similar to", "not similar to", "not ilike", "~~*", "!~~*"]

/-- The spellings that work on the bits of two integers. -/
def bitwiseCatalog : List String := ["&", "|", "^", "<<", ">>", "&~"]

/-- All bitwise spellings are in the catalog too, so listing them again finds
nothing new. -/
theorem bitwiseCatalog_subset : bitwiseCatalog ⊆ catalog := by decide

/-- The first listed spelling, of the catalog and then of `extra`, that is like
the trimmed candidate. -/
def lookup (candidate : String) (extra : List String) : Option Operator :=
  ((catalog ++ bitwiseCatalog ++ extra).find? (Text.alike · (Text.trim candidate))).map mk

def isBitwise (op : Operator) : Bool := bitwiseCatalog.contains op.spelling

/-- The operators that may be given `NULL` to compare with. -/
def comparesNull (op : Operator) : Bool := [equal, unequal, notEqual].contains op

instance : ToString Operator := ⟨spelling⟩

end Operator

end SqlSelect
