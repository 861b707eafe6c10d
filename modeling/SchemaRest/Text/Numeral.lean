/-!
# Decimal numerals

Whole numbers written in ASCII digits. A numeral is one or more digits after an optional sign, with
nothing before or after, and a reader refuses a value outside the range it is asked for.
-/

namespace SchemaRest.Text

def isDigit (c : Char) : Bool := '0' ≤ c && c ≤ '9'

def digitValue (c : Char) : Nat := c.toNat - 48

/-- Digits most significant first. -/
def ofDigits (cs : List Char) : Nat := cs.foldl (fun n c => n * 10 + digitValue c) 0

def digits? (cs : List Char) : Option Nat :=
  if !cs.isEmpty && cs.all isDigit then some (ofDigits cs) else none

/-- A numeral without a minus sign, at most `high`. -/
def natUpTo? (high : Nat) (s : String) : Option Nat :=
  let cs := match s.toList with
    | '+' :: rest => rest
    | cs => cs
  (digits? cs).filter (· ≤ high)

/-- A numeral with an optional sign, from `low` to `high`. -/
def intBetween? (low high : Int) (s : String) : Option Int :=
  let value : Option Int := match s.toList with
    | '-' :: rest => (digits? rest).map fun n => -(n : Int)
    | '+' :: rest => (digits? rest).map fun n => (n : Int)
    | cs => (digits? cs).map fun n => (n : Int)
  value.filter fun n => low ≤ n && n ≤ high

def maxU16 : Nat := 65535
def maxU32 : Nat := 4294967295
def maxU64 : Nat := 18446744073709551615
def minI64 : Int := -9223372036854775808
def maxI64 : Int := 9223372036854775807

/-- At least `width` digits, with leading zeros. -/
def padded (width n : Nat) : String :=
  let text := (Nat.repr n).toList
  String.ofList (List.replicate (width - text.length) '0' ++ text)

def hexDigit (n : Nat) : Char := if n < 10 then Char.ofNat (48 + n) else Char.ofNat (87 + n)

/-- Exactly `width` lower case hexadecimal digits, the lowest ones of `n`. -/
def hexChars : (width : Nat) → (n : Nat) → List Char
  | 0, _ => []
  | width + 1, n => hexChars width (n / 16) ++ [hexDigit (n % 16)]

def hexValue? (c : Char) : Option Nat :=
  if '0' ≤ c && c ≤ '9' then some (c.toNat - 48)
  else if 'a' ≤ c && c ≤ 'f' then some (c.toNat - 87)
  else if 'A' ≤ c && c ≤ 'F' then some (c.toNat - 55)
  else none

end SchemaRest.Text
