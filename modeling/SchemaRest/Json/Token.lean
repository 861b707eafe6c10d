import SchemaRest.Json.Basic
import SchemaRest.Text.Numeral

/-!
# Numbers and strings of JSON

A number's digits are collected in 64 bits; digits that no longer fit only move the point. The
double is the nearest one to those digits, multiplied or divided by the nearest double to the power
of ten, each step rounded; a result beyond the doubles is no number.

A `\u` escape that names half a surrogate pair has to be followed by the other half.
-/

namespace SchemaRest.Json

def isSpace (c : Char) : Bool := c = ' ' || c = '\t' || c = '\n' || c = '\r'

def skipSpace (cs : List Char) : List Char := cs.dropWhile isSpace

/-! ## Numbers -/

/-- Digits collected as long as they fit 64 bits, and how many came after. -/
structure Significand where
  value : Nat
  taken : Nat
  left : Nat

def Significand.push (s : Significand) (c : Char) : Significand :=
  let next := s.value * 10 + Text.digitValue c
  if s.left = 0 && next ≤ Text.maxU64 then { s with value := next, taken := s.taken + 1 }
  else { s with left := s.left + 1 }

def Significand.collect (value : Nat) (cs : List Char) : Significand :=
  cs.foldl Significand.push ⟨value, 0, 0⟩

/-- A power of ten up to the 308th, as a double. -/
def powerOfTen (e : Nat) : Double := (Double.ofNat? false (Nat.pow 10 e)).getD (Double.zero false)

/-- Divides by ten `k` times, in steps of at most 308. -/
def divideByPower (d : Double) (k : Nat) : Option Double :=
  if k ≤ 308 then d.div? (powerOfTen k)
  else if d.isZero then some d
  else do
    let d' ← d.div? (powerOfTen 308)
    divideByPower d' (k - 308)
termination_by k

def scale? (d : Double) (e : Int) : Option Double :=
  if e < 0 then divideByPower d (-e).toNat
  else if e ≤ 308 then d.mul? (powerOfTen e.toNat)
  else if d.isZero then some d
  else none

/-- A number's parts as they were written. -/
structure Numeral where
  negative : Bool
  whole : List Char
  fraction : Option (List Char)
  /-- The sign of the exponent (`true` is minus) and its digits. -/
  exponent : Option (Bool × List Char)

/-- Exponents from here on are treated alike. -/
def exponentLimit : Nat := 2147483647

def exponentValue (cs : List Char) : Nat :=
  cs.foldl (fun n c => if exponentLimit < n then n else n * 10 + Text.digitValue c) 0

def Numeral.number? (n : Numeral) : Option Number := do
  let whole := Significand.collect 0 n.whole
  match n.fraction, n.exponent with
  | none, none =>
    if whole.left = 0 then
      if !n.negative then return .int whole.value
      if 0 < whole.value && whole.value ≤ 9223372036854775808 then
        return .int (-(whole.value : Int))
    let d ← Double.ofNat? n.negative whole.value
    return .double (← scale? d whole.left)
  | fraction, exponent =>
    let digits := Significand.collect whole.value (fraction.getD [])
    let shift : Int := (whole.left : Int) - digits.taken
    let d ← Double.ofNat? n.negative digits.value
    match exponent with
    | none => return .double (← scale? d shift)
    | some (minus, cs) =>
      let e := exponentValue cs
      if exponentLimit < e then
        if minus || d.isZero then return .double (Double.zero n.negative) else none
      return .double (← scale? d (if minus then shift - e else shift + e))

def readExponent (cs : List Char) : Option (Option (Bool × List Char) × List Char) :=
  match cs with
  | c :: rest =>
    if c = 'e' || c = 'E' then
      let (minus, rest) := match rest with
        | '+' :: r => (false, r)
        | '-' :: r => (true, r)
        | r => (false, r)
      let digits := rest.takeWhile Text.isDigit
      if digits.isEmpty then none else some (some (minus, digits), rest.dropWhile Text.isDigit)
    else some (none, cs)
  | [] => some (none, cs)

def readFraction (cs : List Char) : Option (Option (List Char) × List Char) :=
  match cs with
  | '.' :: rest =>
    let digits := rest.takeWhile Text.isDigit
    if digits.isEmpty then none else some (some digits, rest.dropWhile Text.isDigit)
  | _ => some (none, cs)

/-- A number as it is written. -/
def readNumeral (cs : List Char) : Option (Numeral × List Char) := do
  let (negative, cs) := match cs with
    | '-' :: rest => (true, rest)
    | _ => (false, cs)
  let whole := cs.takeWhile Text.isDigit
  if whole.isEmpty || (1 < whole.length && whole.head? = some '0') then none
  let (fraction, cs) ← readFraction (cs.dropWhile Text.isDigit)
  let (exponent, cs) ← readExponent cs
  return (⟨negative, whole, fraction, exponent⟩, cs)

def readNumber (cs : List Char) : Option (Number × List Char) := do
  let (numeral, cs) ← readNumeral cs
  return (← numeral.number?, cs)

/-! ## Strings -/

/-- Where the reader stands inside a string. -/
inductive StringState where
  | plain
  | afterBackslash
  | hex (due value : Nat)

def simpleEscape? (c : Char) : Option Char :=
  if c = '"' || c = '\\' || c = '/' then some c
  else if c = 'b' then some '\x08'
  else if c = 'f' then some '\x0c'
  else if c = 'n' then some '\n'
  else if c = 'r' then some '\r'
  else if c = 't' then some '\t'
  else none

/-- Reads up to the closing quote. `high` is the first half of a surrogate pair whose second half
has to follow, and `text` what has been read, reversed. -/
def readString (state : StringState) (high : Option Nat) (text : List Char) :
    List Char → Option (String × List Char)
  | [] => none
  | c :: rest =>
    match state with
    | .plain =>
      if c = '\\' then readString .afterBackslash high text rest
      else if high.isSome || c.toNat < 0x20 then none
      else if c = '"' then some (String.ofList text.reverse, rest)
      else readString .plain none (c :: text) rest
    | .afterBackslash =>
      if c = 'u' then readString (.hex 4 0) high text rest
      else if high.isSome then none
      else match simpleEscape? c with
        | some d => readString .plain none (d :: text) rest
        | none => none
    | .hex due value =>
      match Text.hexValue? c with
      | none => none
      | some h =>
        let unit := value * 16 + h
        if 1 < due then readString (.hex (due - 1) unit) high text rest
        else match high with
          | some first =>
            if 0xDC00 ≤ unit && unit ≤ 0xDFFF then
              let c := Char.ofNat (0x10000 + (first - 0xD800) * 1024 + (unit - 0xDC00))
              readString .plain none (c :: text) rest
            else none
          | none =>
            if 0xD800 ≤ unit && unit ≤ 0xDBFF then readString .plain (some unit) text rest
            else if 0xDC00 ≤ unit && unit ≤ 0xDFFF then none
            else readString .plain none (Char.ofNat unit :: text) rest

end SchemaRest.Json
