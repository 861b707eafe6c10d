import SchemaRest.Text.Numeral
import SchemaRest.Text.Split

/-!
# Dates and times of the database

Texts of dates and times as the server writes them, and as an answer shows them. A date has to
exist in the Gregorian calendar; the zero date is none. A fraction of a second is shown with three
digits if they suffice and with six otherwise, and not at all when it is zero. A time is a span of
up to 838 hours, in either direction.
-/

namespace SchemaRest.Database

structure Date where
  year : Nat
  month : Nat
  day : Nat
  deriving DecidableEq, Repr

/-- A time of day, or a span of hours; the fraction is in microseconds. -/
structure Clock where
  hours : Nat
  minutes : Nat
  seconds : Nat
  micros : Nat
  deriving DecidableEq, Repr

def isLeapYear (y : Nat) : Bool := (y % 4 == 0 && y % 100 != 0) || y % 400 == 0

def daysIn (year month : Nat) : Nat :=
  if month = 2 then (if isLeapYear year then 29 else 28)
  else if [4, 6, 9, 11].contains month then 30
  else 31

namespace Date

def exists? (d : Date) : Option Date :=
  if 1 ≤ d.month && d.month ≤ 12 && 1 ≤ d.day && d.day ≤ daysIn d.year d.month then some d else none

def ofChars? (cs : List Char) : Option Date :=
  match Text.piecesFrom '-' [] cs with
  | [y, m, d] => do exists? ⟨← Text.digits? y, ← Text.digits? m, ← Text.digits? d⟩
  | _ => none

def text (d : Date) : String :=
  Text.padded 4 d.year ++ "-" ++ Text.padded 2 d.month ++ "-" ++ Text.padded 2 d.day

end Date

/-- Up to six digits after a point, as microseconds. -/
def microsOfDigits? (cs : List Char) : Option Nat :=
  if 6 < cs.length then none
  else (Text.digits? cs).map fun n => n * Nat.pow 10 (6 - cs.length)

namespace Clock

def ofChars? (cs : List Char) : Option Clock :=
  match Text.piecesFrom ':' [] cs with
  | [h, m, s] =>
    match Text.piecesFrom '.' [] s with
    | [s] => do return ⟨← Text.digits? h, ← Text.digits? m, ← Text.digits? s, 0⟩
    | [s, f] =>
      do return ⟨← Text.digits? h, ← Text.digits? m, ← Text.digits? s, ← microsOfDigits? f⟩
    | _ => none
  | _ => none

def hms (c : Clock) : String :=
  Text.padded 2 c.hours ++ ":" ++ Text.padded 2 c.minutes ++ ":" ++ Text.padded 2 c.seconds

/-- Three digits of a fraction if they suffice, else six. -/
def shortFraction (c : Clock) : String :=
  if c.micros = 0 then ""
  else if c.micros % 1000 = 0 then "." ++ Text.padded 3 (c.micros / 1000)
  else "." ++ Text.padded 6 c.micros

def fullFraction (c : Clock) : String := if c.micros = 0 then "" else "." ++ Text.padded 6 c.micros

end Clock

/-- A point in time, in universal time. -/
def instantText? (cs : List Char) : Option String :=
  match Text.piecesFrom ' ' [] cs with
  | [d, t] => do
    let date ← Date.ofChars? d
    let clock ← Clock.ofChars? t
    if clock.hours < 24 && clock.minutes < 60 && clock.seconds < 60 then
      some (date.text ++ "T" ++ clock.hms ++ clock.shortFraction ++ "+00:00")
    else none
  | [d] => (Date.ofChars? d).map fun date => date.text ++ "T00:00:00+00:00"
  | _ => none

/-- A span of time. A sent text loses the sign of a span of less than an hour, and may name the
sixtieth second of a minute within a day. -/
def spanText? (asText : Bool) (cs : List Char) : Option String :=
  let (negative, cs) := match cs with
    | '-' :: rest => (true, rest)
    | cs => (false, cs)
  (Clock.ofChars? cs).bind fun c =>
    if c.hours ≤ 838 && c.minutes < 60 && c.seconds < 60 then
      let signed := negative && !(asText && c.hours == 0)
      some ((if signed then "-" else "") ++ c.hms ++ c.fullFraction)
    else if asText && !negative && c.hours < 24 && c.minutes < 60 && c.seconds = 60 then
      some (c.hms ++ c.shortFraction)
    else none

end SchemaRest.Database
