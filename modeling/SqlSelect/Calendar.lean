import SqlSelect.Number.Digits

/-!
Dates and times of day and their texts. A year of more or of less than four
digits after year zero carries a sign, and a fraction of a second has as many
groups of three digits as it needs.
-/

namespace SqlSelect

structure Date where
  year : Int
  month : Nat
  day : Nat
  deriving DecidableEq, Repr

/-- A time of day. A leap second is written as 10^9 nanoseconds or more on top of
the second that it follows. -/
structure TimeOfDay where
  hour : Nat
  minute : Nat
  second : Nat
  nano : Nat
  deriving DecidableEq, Repr

structure DateTime where
  date : Date
  time : TimeOfDay
  deriving DecidableEq, Repr

/-- An instant, by its date and time in UTC. -/
structure Instant where
  utc : DateTime
  deriving DecidableEq, Repr

namespace Date

def yearText (year : Int) : List Char :=
  let digits := Digits.padded 4 year.natAbs
  if year < 0 then '-' :: digits else if year ≤ 9999 then digits else '+' :: digits

def text (d : Date) : String :=
  String.ofList (yearText d.year ++ '-' :: Digits.padded 2 d.month ++
    '-' :: Digits.padded 2 d.day)

instance : ToString Date := ⟨text⟩

end Date

namespace TimeOfDay

/-- The shortest exact fraction of three, six or nine digits, or none at all. -/
def fractionText (nano : Nat) : List Char :=
  if nano = 0 then []
  else if nano % 1000000 = 0 then '.' :: Digits.padded 3 (nano / 1000000)
  else if nano % 1000 = 0 then '.' :: Digits.padded 6 (nano / 1000)
  else '.' :: Digits.padded 9 nano

def text (t : TimeOfDay) : String :=
  let leap := t.nano / 1000000000
  String.ofList (Digits.padded 2 t.hour ++ ':' :: Digits.padded 2 t.minute ++
    ':' :: Digits.padded 2 (t.second + leap) ++ fractionText (t.nano % 1000000000))

instance : ToString TimeOfDay := ⟨text⟩

end TimeOfDay

namespace DateTime

def text (t : DateTime) : String := t.date.text ++ " " ++ t.time.text

instance : ToString DateTime := ⟨text⟩

end DateTime

end SqlSelect
