import TypedExpr.Text.Blank

/-! Calendar dates and date-times without a time zone, in the proleptic Gregorian calendar. A date-
time carries nanoseconds. -/

namespace TypedExpr

/-- A calendar date. -/
structure Date where
  year : Int
  month : Nat
  day : Nat
  deriving DecidableEq, Repr

/-- A date with a time of day to the nanosecond; a second of 60 is a leap second, which comes after
every other instant of its minute. -/
structure DateTime where
  date : Date
  hour : Nat
  minute : Nat
  second : Nat
  nano : Nat
  deriving DecidableEq, Repr

namespace Date

def isLeap (y : Int) : Bool := (y % 4 == 0 && y % 100 != 0) || y % 400 == 0

def monthLength (y : Int) (m : Nat) : Nat :=
  if m = 2 then (if isLeap y then 29 else 28)
  else if m = 4 ∨ m = 6 ∨ m = 9 ∨ m = 11 then 30
  else 31

def make? (y : Int) (m d : Nat) : Option Date :=
  if 1 ≤ m ∧ m ≤ 12 ∧ 1 ≤ d ∧ d ≤ monthLength y m then some ⟨y, m, d⟩ else none

def cmp (a b : Date) : Ordering :=
  (Ord.compare a.year b.year).then ((Ord.compare a.month b.month).then (Ord.compare a.day b.day))

def pad (w n : Nat) : String :=
  let s := toString n
  String.ofList (List.replicate (w - s.length) '0') ++ s

/-- Text `YYYY-MM-DD`; years outside `0..9999` carry a sign. -/
def render (d : Date) : String :=
  let y := if d.year < 0 then "-" ++ pad 4 d.year.natAbs
    else if d.year > 9999 then "+" ++ toString d.year
    else pad 4 d.year.toNat
  y ++ "-" ++ pad 2 d.month ++ "-" ++ pad 2 d.day

def digitsValue (cs : List Char) : Nat :=
  cs.foldl (fun n c => 10 * n + (c.toNat - '0'.toNat)) 0

def number (w : Nat) (cs : List Char) : Option (Nat × List Char) :=
  let cs := cs.dropWhile Text.isBlank
  let ds := (cs.take w).takeWhile Char.isDigit
  if ds.isEmpty then none else some (digitsValue ds, cs.drop ds.length)

/-- Reads a character after any blanks. -/
def symbol (c : Char) (cs : List Char) : Option (List Char) :=
  match cs.dropWhile Text.isBlank with
  | d :: rest => if d = c then some rest else none
  | [] => none

def readYear (cs : List Char) : Option (Int × List Char) :=
  match cs.dropWhile Text.isBlank with
  | '-' :: rest => (number rest.length rest).map fun (y, r) => (-(y : Int), r)
  | '+' :: rest => (number rest.length rest).map fun (y, r) => ((y : Int), r)
  | rest => (number 4 rest).map fun (y, r) => ((y : Int), r)

def minYear : Int := -262144

def maxYear : Int := 262143

def readPrefix? (cs : List Char) : Option (Date × List Char) := do
  let (y, cs) ← readYear cs
  let cs ← symbol '-' cs
  let (m, cs) ← number 2 cs
  let cs ← symbol '-' cs
  let (d, cs) ← number 2 cs
  if minYear ≤ y ∧ y ≤ maxYear then
    let date ← make? y m d
    pure (date, cs)
  else none

/-- Reads a date, `YYYY-MM-DD`, allowing blanks around its parts. -/
def read? (s : String) : Option Date :=
  match readPrefix? s.toList with
  | some (d, rest) => if (rest.dropWhile Text.isBlank).isEmpty then some d else none
  | none => none

end Date

namespace DateTime

def cmp (a b : DateTime) : Ordering :=
  (a.date.cmp b.date).then ((Ord.compare a.hour b.hour).then ((Ord.compare a.minute b.minute).then
    ((Ord.compare a.second b.second).then (Ord.compare a.nano b.nano))))

def fraction (nano : Nat) : String :=
  if nano = 0 then ""
  else if nano % 1000000 = 0 then "." ++ Date.pad 3 (nano / 1000000)
  else if nano % 1000 = 0 then "." ++ Date.pad 6 (nano / 1000)
  else "." ++ Date.pad 9 nano

/-- Text `YYYY-MM-DDTHH:MM:SS` with the fraction of a second. -/
def render (t : DateTime) : String :=
  t.date.render ++ "T" ++ Date.pad 2 t.hour ++ ":" ++ Date.pad 2 t.minute ++ ":" ++
    Date.pad 2 t.second ++ fraction t.nano

def nanos (cs : List Char) : Option (Nat × List Char) :=
  let ds := (cs.take 9).takeWhile Char.isDigit
  if ds.isEmpty then none
  else some (Date.digitsValue ds * 10 ^ (9 - ds.length), (cs.drop ds.length).dropWhile Char.isDigit)

/-- Reads a date-time: a date, then `T`, `t` or a space, then `HH:MM:SS` with an optional fraction.
-/
def read? (s : String) : Option DateTime := do
  let (d, cs) ← Date.readPrefix? s.toList
  let cs ← match cs with
    | c :: rest => if c = 'T' ∨ c = 't' ∨ c = ' ' then some rest else none
    | [] => none
  let (h, cs) ← Date.number 2 cs
  let cs ← Date.symbol ':' cs
  let (m, cs) ← Date.number 2 cs
  let cs ← Date.symbol ':' cs
  let (sec, cs) ← Date.number 2 cs
  let (n, cs) ← match cs with
    | '.' :: rest => nanos rest
    | _ => some (0, cs)
  if (cs.dropWhile Text.isBlank).isEmpty ∧ h < 24 ∧ m < 60 ∧ sec ≤ 60 then some ⟨d, h, m, sec, n⟩
  else none

end DateTime

end TypedExpr
