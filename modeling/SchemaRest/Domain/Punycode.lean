import SchemaRest.Text.Numeral

/-!
# Letters of a label in ASCII

A label that holds characters outside ASCII is written with those of ASCII first, in their order,
and then the others as numbers: each says how far to go on, counting places and characters together,
to the next character that has to be put in. A number is written from its lowest digit up in base
36, and how large a last digit may be follows the numbers before.
-/

namespace SchemaRest.Domain.Punycode

def digit (d : Nat) : Char := if d < 26 then Char.ofNat (97 + d) else Char.ofNat (22 + d)

def digitValue? (c : Char) : Option Nat :=
  if 'a' ≤ c && c ≤ 'z' then some (c.toNat - 97)
  else if 'A' ≤ c && c ≤ 'Z' then some (c.toNat - 65)
  else if '0' ≤ c && c ≤ '9' then some (c.toNat - 22)
  else none

/-- Digits below this end a number; `place` is 36 at the first digit, 72 at the second. -/
def threshold (bias place : Nat) : Nat := max 1 (min 26 (place - bias))

theorem threshold_pos (bias place : Nat) : 1 ≤ threshold bias place := Nat.le_max_left _ _

theorem threshold_le (bias place : Nat) : threshold bias place ≤ 26 := by
  simp only [threshold]
  omega

/-- How often a number is divided by 35 until it is at most 455, and what is left. -/
def reduce (delta : Nat) : Nat × Nat :=
  if 455 < delta then
    let (count, rest) := reduce (delta / 35)
    (count + 1, rest)
  else (0, delta)
termination_by delta
decreasing_by exact Nat.div_lt_self (by omega) (by omega)

/-- The bias after a number; `count` characters stand in the label then. -/
def adapt (delta count : Nat) (isFirst : Bool) : Nat :=
  let delta := if isFirst then delta / 700 else delta / 2
  let (steps, rest) := reduce (delta + delta / count)
  36 * steps + 36 * rest / (rest + 38)

/-! ## Writing -/

def numberText (bias place n : Nat) : List Char :=
  let t := threshold bias place
  if n < t then [digit n]
  else digit (t + (n - t) % (36 - t)) :: numberText bias (place + 36) ((n - t) / (36 - t))
termination_by n
decreasing_by
  have := threshold_pos bias place
  have := threshold_le bias place
  calc (n - threshold bias place) / (36 - threshold bias place)
      ≤ n - threshold bias place := Nat.div_le_self _ _
    _ < n := by omega

/-- What has been written, last character first, how far to go on since, the bias, and how many
characters of the label have been written. -/
structure Progress where
  text : List Char
  delta : Nat
  bias : Nat
  written : Nat
  isFirst : Bool

/-- Goes over a character of the label while those numbered `n` are put in. -/
def Progress.pass (n : Nat) (p : Progress) (c : Char) : Progress :=
  if c.toNat < n then { p with delta := p.delta + 1 }
  else if c.toNat = n then
    { text := (numberText p.bias 36 p.delta).reverse ++ p.text
      delta := 0
      bias := adapt p.delta (p.written + 1) p.isFirst
      written := p.written + 1
      isFirst := false }
  else p

/-- Puts in the characters of the given numbers, which rise; those below `start` are done. -/
def Progress.run (label : List Char) (start : Nat) (p : Progress) : List Nat → Progress
  | [] => p
  | n :: rest =>
    let p := { p with delta := p.delta + (n - start) * (p.written + 1) }
    let p := label.foldl (Progress.pass n) p
    Progress.run label (n + 1) { p with delta := p.delta + 1 } rest

def encode (label : List Char) : List Char :=
  let ascii := label.filter (·.toNat < 0x80)
  let others := (label.filter (0x80 ≤ ·.toNat)).map Char.toNat
  let numbers := (others.mergeSort (· ≤ ·)).eraseDups
  let p : Progress := ⟨[], 0, 72, ascii.length, true⟩
  ascii ++ (if ascii.isEmpty then [] else ['-']) ++ (p.run label 0x80 numbers).text.reverse

/-! ## Reading -/

/-- A label in the making, and the number that is being read. -/
structure Reading where
  label : List Char
  /-- The last character that was put in. -/
  last : Nat
  /-- The place behind it, zero as long as none has been put in. -/
  place : Nat
  bias : Nat
  delta : Nat
  weight : Nat
  digitPlace : Nat

def Reading.ofAscii (label : List Char) : Reading := ⟨label, 0x80, 0, 72, 0, 1, 36⟩

/-- Reads one digit. The last one of a number puts a character in. -/
def Reading.step (r : Reading) (c : Char) : Option Reading := do
  let d ← digitValue? c
  let t := threshold r.bias r.digitPlace
  let delta := r.delta + d * r.weight
  if t ≤ d then
    return { r with delta, weight := r.weight * (36 - t), digitPlace := r.digitPlace + 36 }
  else
    let count := r.label.length + 1
    let n := r.last + (r.place + delta) / count
    let place := (r.place + delta) % count
    if !n.isValidChar then none
    else
      return {
        label := r.label.take place ++ Char.ofNat n :: r.label.drop place
        last := n
        place := place + 1
        bias := adapt delta count (r.place = 0)
        delta := 0
        weight := 1
        digitPlace := 36 }

/-- The last hyphen ends the characters of ASCII, if there are any. -/
def decode? (text : List Char) : Option (List Char) := do
  let tail := (text.reverse.takeWhile (· ≠ '-')).reverse
  let ascii := (text.take (text.length - tail.length)).dropLast
  let digits := if ascii.isEmpty then text else tail
  let r ← digits.foldlM Reading.step (.ofAscii ascii)
  if r.digitPlace = 36 then some r.label else none

end SchemaRest.Domain.Punycode
