/-!
# UTF-8

Bytes to text, either strictly or with U+FFFD in place of what is not UTF-8. A bad sequence is
replaced once per longest beginning of a well-formed sequence, so `E2 82` alone gives one mark and
`C0 AF` gives two.
-/

namespace SchemaRest.Text.Utf8

/-- How many bytes may follow a first byte, and the range the second byte has to be in. -/
def follow? (b : Nat) : Option (Nat × Nat × Nat) :=
  if 0xC2 ≤ b && b ≤ 0xDF then some (1, 0x80, 0xBF)
  else if b == 0xE0 then some (2, 0xA0, 0xBF)
  else if (0xE1 ≤ b && b ≤ 0xEC) || b == 0xEE || b == 0xEF then some (2, 0x80, 0xBF)
  else if b == 0xED then some (2, 0x80, 0x9F)
  else if b == 0xF0 then some (3, 0x90, 0xBF)
  else if 0xF1 ≤ b && b ≤ 0xF3 then some (3, 0x80, 0xBF)
  else if b == 0xF4 then some (3, 0x80, 0x8F)
  else none

/-- A sequence part way through: the bits so far, the bytes still due, the range of the next. -/
structure Pending where
  bits : Nat
  due : Nat
  low : Nat
  high : Nat

/-- Starts a sequence at `b`, with the text so far reversed. -/
def start (text : List Char) (b : Nat) : List Char × Option Pending :=
  if b < 0x80 then (Char.ofNat b :: text, none)
  else match follow? b with
    | none => ('\ufffd' :: text, none)
    | some (due, low, high) =>
      let mask := if due = 1 then 0x1F else if due = 2 then 0x0F else 0x07
      (text, some ⟨b &&& mask, due, low, high⟩)

def step (state : List Char × Option Pending) (byte : UInt8) : List Char × Option Pending :=
  let b := byte.toNat
  match state with
  | (text, none) => start text b
  | (text, some p) =>
    if p.low ≤ b && b ≤ p.high then
      let bits := p.bits * 64 + b % 64
      if p.due ≤ 1 then (Char.ofNat bits :: text, none)
      else (text, some ⟨bits, p.due - 1, 0x80, 0xBF⟩)
    else start ('\ufffd' :: text) b

def lossy (bytes : List UInt8) : String :=
  match bytes.foldl step ([], none) with
  | (text, none) => String.ofList text.reverse
  | (text, some _) => String.ofList ('\ufffd' :: text).reverse

def strict? (bytes : ByteArray) : Option String := String.fromUTF8? bytes

end SchemaRest.Text.Utf8
