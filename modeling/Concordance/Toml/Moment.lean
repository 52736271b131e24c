import Concordance.Numeral.Integer

/-! Dates and times of day, with the texts that stand for them in and out of other values. -/

namespace Concordance.Toml

structure Date where
  year : Nat
  month : Nat
  day : Nat
  deriving DecidableEq, Repr

structure Time where
  hour : Nat
  minute : Nat
  second : Nat
  microsecond : Nat
  deriving DecidableEq, Repr

/-- A date and a time of day. With an offset, in minutes to the east, it is a moment of the whole
world; without one it is a local time. -/
structure Moment where
  date : Date
  time : Time
  offset : Option Int
  deriving DecidableEq, Repr

def padded (width n : Nat) : List Char :=
  let ds := Numeral.decimal n
  List.replicate (width - ds.length) '0' ++ ds

def listed (ns : List Nat) : List Char :=
  List.intercalate [',', ' '] (ns.map Numeral.decimal)

namespace Date

def isLeap (year : Nat) : Bool := year % 4 == 0 && (year % 100 != 0 || year % 400 == 0)

def daysIn (year month : Nat) : Nat :=
  if month = 2 then if isLeap year then 29 else 28
  else if month = 4 ∨ month = 6 ∨ month = 9 ∨ month = 11 then 30
  else 31

def isValid (d : Date) : Bool :=
  1 ≤ d.year && 1 ≤ d.month && d.month ≤ 12 && 1 ≤ d.day && d.day ≤ daysIn d.year d.month

def numbers (d : Date) : List Nat := [d.year, d.month, d.day]

def text (d : Date) : List Char :=
  padded 4 d.year ++ '-' :: padded 2 d.month ++ '-' :: padded 2 d.day

def literal (d : Date) : List Char := "datetime.date(".toList ++ listed d.numbers ++ [')']

end Date

namespace Time

/-- Zeros after the minute are left out at the end. -/
def numbers (t : Time) : List Nat :=
  if t.microsecond ≠ 0 then [t.hour, t.minute, t.second, t.microsecond]
  else if t.second ≠ 0 then [t.hour, t.minute, t.second]
  else [t.hour, t.minute]

def text (t : Time) : List Char :=
  padded 2 t.hour ++ ':' :: padded 2 t.minute ++ ':' :: padded 2 t.second ++
    if t.microsecond = 0 then [] else '.' :: padded 6 t.microsecond

def literal (t : Time) : List Char := "datetime.time(".toList ++ listed t.numbers ++ [')']

end Time

namespace Moment

def offsetText (minutes : Int) : List Char :=
  (if minutes < 0 then '-' else '+') :: padded 2 (minutes.natAbs / 60) ++
    ':' :: padded 2 (minutes.natAbs % 60)

def text (m : Moment) : List Char :=
  m.date.text ++ ' ' :: m.time.text ++ (m.offset.map offsetText).getD []

/-- An offset to the west counts the seconds from the day before. -/
def offsetLiteral (minutes : Int) : List Char :=
  let delta (days : String) (seconds : Nat) :=
    "datetime.timezone(datetime.timedelta(".toList ++ days.toList ++ "seconds=".toList ++
      Numeral.decimal seconds ++ [')', ')']
  if minutes = 0 then "datetime.timezone.utc".toList
  else if 0 < minutes then delta "" (60 * minutes.natAbs)
  else delta "days=-1, " (86400 - 60 * minutes.natAbs)

def literal (m : Moment) : List Char :=
  "datetime.datetime(".toList ++ listed (m.date.numbers ++ m.time.numbers) ++
    ((m.offset.map fun o => ", tzinfo=".toList ++ offsetLiteral o).getD []) ++ [')']

end Moment

end Concordance.Toml
