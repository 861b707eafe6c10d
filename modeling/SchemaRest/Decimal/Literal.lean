import SchemaRest.Decimal.Double

/-!
# Decimal literals

Texts that stand for a number: an optional sign, digits with at most one point and at least one
digit, and an optional exponent with a sign of its own and at least one digit. No digit is needed
on both sides of the point. The literal is read to the nearest double, and is finite if that is.
-/

namespace SchemaRest.Decimal

structure Literal where
  negative : Bool
  /-- All digits, the point left out. -/
  digits : List Char
  exponent : Int
  deriving DecidableEq, Repr

/-- The sign a text starts with, and the rest. -/
def sign : List Char → Bool × List Char
  | '-' :: rest => (true, rest)
  | '+' :: rest => (false, rest)
  | cs => (false, cs)

/-- Digits left over as an exponent part, or nothing at all. -/
def exponent? : List Char → Option Int
  | [] => some 0
  | c :: rest =>
    if c = 'e' || c = 'E' then
      let (negative, digits) := sign rest
      (Text.digits? digits).map fun n => if negative then -(n : Int) else (n : Int)
    else none

def Literal.ofChars? (cs : List Char) : Option Literal :=
  let (negative, cs) := sign cs
  let whole := cs.takeWhile Text.isDigit
  let rest := cs.dropWhile Text.isDigit
  let (fraction, rest) := match rest with
    | '.' :: rest => (rest.takeWhile Text.isDigit, rest.dropWhile Text.isDigit)
    | rest => ([], rest)
  if whole.isEmpty && fraction.isEmpty then none
  else (exponent? rest).map fun e => ⟨negative, whole ++ fraction, e - fraction.length⟩

/-- The nearest double, if the literal is not too large for one. -/
def Literal.double? (l : Literal) : Option Double :=
  Double.ofDecimal? l.negative (Text.ofDigits l.digits) l.exponent

def read? (s : String) : Option Double := (Literal.ofChars? s.toList).bind Literal.double?

/-- Whether a text reads as a finite number. -/
def readsFinite (s : String) : Bool := (read? s).isSome

end SchemaRest.Decimal
