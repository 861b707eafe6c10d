import SchemaRest.Decimal.Double

/-!
# The shortest decimal of a double

The text of a double has the fewest digits that read back to it, and of those the nearest to it.
The numbers that round to a double form an interval; its ends belong to it when the double is even
on its grid. Digit counts are tried in turn, and for each the two neighbours on that decimal grid.

Everything is scaled by four, so that the ends, which lie half or a quarter of a grid step away, are
whole numbers.
-/

namespace SchemaRest.Double

/-- The reals that round to a positive double, in quarter units. -/
structure Interval where
  low : Nat
  value : Nat
  high : Nat
  closed : Bool

def interval (units : Nat) : Interval :=
  let k := gridExponent 53 0 units
  let step := Nat.pow 2 k
  let value := 4 * units
  let belowIsFiner := units == Nat.pow 2 52 * step && 0 < k
  { low := value - (if belowIsFiner then step else 2 * step)
    value
    high := value + 2 * step
    closed := (units / step) % 2 == 0 }

/-- `c * 10 ^ p` against a number of quarter units, as a pair of whole numbers to compare. -/
def scaled (c : Nat) (p : Int) (quarters : Nat) : Nat × Nat :=
  if 0 ≤ p then (c * Nat.pow 10 p.toNat * (4 * one), quarters)
  else (c * (4 * one), quarters * Nat.pow 10 (-p).toNat)

def Interval.contains (i : Interval) (c : Nat) (p : Int) : Bool :=
  let low := scaled c p i.low
  let high := scaled c p i.high
  if i.closed then decide (low.2 ≤ low.1) && decide (high.1 ≤ high.2)
  else decide (low.2 < low.1) && decide (high.1 < high.2)

/-- The greatest whole `c` with `c * 10 ^ p` at most the value. -/
def Interval.floorOn (i : Interval) (p : Int) : Nat :=
  if 0 ≤ p then i.value / (Nat.pow 10 p.toNat * (4 * one))
  else i.value * Nat.pow 10 (-p).toNat / (4 * one)

/-- Twice `c * 10 ^ p` plus one grid step lies below, on or above twice the value. -/
def Interval.compareMiddle (i : Interval) (c : Nat) (p : Int) : Ordering :=
  let pair := scaled (2 * c + 1) p (2 * i.value)
  compare pair.1 pair.2

/-- The nearest point of the grid `10 ^ p` that reads back, an exact tie going to the even digit. -/
def Interval.onGrid? (i : Interval) (p : Int) : Option Nat :=
  let c := i.floorOn p
  match i.contains c p, i.contains (c + 1) p with
  | false, false => none
  | true, false => some c
  | false, true => some (c + 1)
  | true, true => match i.compareMiddle c p with
    | .gt => some c
    | .lt => some (c + 1)
    | .eq => if c % 2 = 0 then some c else some (c + 1)

/-- The exponent `e` with `10 ^ e ≤ value < 10 ^ (e + 1)`. -/
def Interval.exponent (i : Interval) : Int :=
  let guess : Int := (((i.value.log2 : Int) - 1076) * 30103).fdiv 100000
  let reached (e : Int) : Bool := let pair := scaled 1 e i.value; decide (pair.1 ≤ pair.2)
  if reached (guess + 1) then guess + 1 else if reached guess then guess else guess - 1

/-- Tries `fuel` digit counts from `count` up. -/
def Interval.search (i : Interval) (e : Int) (count : Nat) : (fuel : Nat) → Nat × Int
  | 0 => (i.floorOn (e - count + 1), e - count + 1)
  | fuel + 1 =>
    match i.onGrid? (e - count + 1) with
    | some c => (c, e - count + 1)
    | none => i.search e (count + 1) fuel

/-- Removes trailing zeros, at most `fuel` of them. -/
def dropZeros : (fuel : Nat) → Nat × Int → Nat × Int
  | 0, d => d
  | fuel + 1, (c, p) => if c % 10 = 0 && c ≠ 0 then dropZeros fuel (c / 10, p + 1) else (c, p)

/-- The digits `c` and the power `p` of the shortest decimal `c * 10 ^ p`. -/
def shortest (a : Double) : Nat × Int :=
  if a.units = 0 then (0, 0)
  else
    let i := interval a.units
    dropZeros 20 (i.search i.exponent 1 17)

/-- How a double is laid out: positional while the leading digit's exponent is at least
`positionalFrom` and below `positionalTo`, scientific otherwise. -/
structure Layout where
  positionalFrom : Int
  positionalTo : Int

/-- The digits with a point after the digit of exponent zero. -/
def positional (digits : List Char) (p : Int) : List Char :=
  if 0 ≤ p then digits ++ List.replicate p.toNat '0' ++ ['.', '0']
  else
    let k := (-p).toNat
    if k < digits.length then digits.take (digits.length - k) ++ '.' :: digits.drop (digits.length - k)
    else ['0', '.'] ++ List.replicate (k - digits.length) '0' ++ digits

def scientific (digits : List Char) (e : Int) : List Char :=
  let mantissa := match digits with
    | [d] => [d]
    | d :: rest => d :: '.' :: rest
    | [] => []
  mantissa ++ 'e' :: (if e < 0 then '-' else '+') :: (Nat.repr e.natAbs).toList

def Layout.text (layout : Layout) (a : Double) : String :=
  let (c, p) := a.shortest
  let digits := (Nat.repr c).toList
  let e : Int := p + digits.length - 1
  let body :=
    if layout.positionalFrom ≤ e && e < layout.positionalTo then positional digits p
    else scientific digits e
  String.ofList (if a.negative then '-' :: body else body)

end SchemaRest.Double
