import SchemaRest.Domain.Name
import SchemaRest.Request.Target

/-!
# Hosts in addresses

A host is a name, a number in four parts or, in brackets, a number in eight groups. All that can be
said in several ways is written in one: names in ASCII, numbers in decimal, and the longest row of
zero groups as two colons.
-/

namespace SchemaRest.Policy.Host

/-! ## Four parts -/

/-- A part of a numeric host: hexadecimal after `0x`, octal after a zero. -/
def number? (cs : List Char) : Option Nat :=
  let ofBase (base : Nat) (ds : List Char) : Option Nat := ds.foldlM (fun n c => do
    let d ← Text.hexValue? c
    if d < base then some (n * base + d) else none) 0
  match cs with
  | [] => none
  | ['0'] => some 0
  | '0' :: 'x' :: ds => ofBase 16 ds
  | '0' :: 'X' :: ds => ofBase 16 ds
  | '0' :: ds => ofBase 8 ds
  | ds => ofBase 10 ds

/-- The parts between dots; a final dot is no part. -/
def parts (cs : List Char) : List (List Char) :=
  let parts := Text.piecesFrom '.' [] cs
  if parts.getLast? = some [] && 1 < parts.length then parts.dropLast else parts

/-- Whether the last part is a number. The host then has to be one. -/
def isNumeric (cs : List Char) : Bool :=
  match (parts cs).getLast? with
  | none => false
  | some part => (!part.isEmpty && part.all Text.isDigit) ||
      ((part.take 2 == ['0', 'x'] || part.take 2 == ['0', 'X']) && (number? part).isSome)

/-- Four bytes from at most four numbers, the last of which fills the bytes that remain. -/
def numeric? (cs : List Char) : Option String := do
  let numbers ← (parts cs).mapM number?
  let last ← numbers.getLast?
  let first := numbers.dropLast
  if 3 < first.length || first.any (255 < ·) || Nat.pow 256 (4 - first.length) ≤ last then none
  else
    let tail := (List.range (4 - first.length)).reverse.map fun i => last / Nat.pow 256 i % 256
    some (Text.joined "." ((first ++ tail).map Nat.repr))

/-! ## Eight groups -/

/-- A group of one to four hexadecimal digits. -/
def group? (cs : List Char) : Option Nat :=
  if cs.isEmpty || 4 < cs.length || cs.any fun c => (Text.hexValue? c).isNone then none
  else some (Text.hexNumber cs)

/-- A byte in decimal, without leading zeros. -/
def byte? (cs : List Char) : Option Nat :=
  if 1 < cs.length && cs.head? = some '0' then none
  else (Text.digits? cs).filter (· < 256)

/-- Two groups written as four bytes. -/
def bytePairs? (cs : List Char) : Option (List Nat) := do
  match ← (Text.piecesFrom '.' [] cs).mapM byte? with
  | [a, b, c, d] => some [a * 256 + b, c * 256 + d]
  | _ => none

/-- Groups between colons. The last one may be four bytes if `mayEndInBytes`. -/
def groups? (mayEndInBytes : Bool) (cs : List Char) : Option (List Nat) :=
  if cs.isEmpty then some []
  else do
    let pieces := Text.piecesFrom ':' [] cs
    let last ← pieces.getLast?
    let first ← pieces.dropLast.mapM group?
    match group? last with
    | some n => some (first ++ [n])
    | none => if mayEndInBytes then (bytePairs? last).map (first ++ ·) else none

/-- Eight groups; two colons stand for one group of zero or more. -/
def eightGroups? (cs : List Char) : Option (List Nat) :=
  match Text.afterFirst? [':', ':'] cs with
  | none => (groups? true cs).filter (·.length = 8)
  | some after => do
    let first ← groups? false (cs.take (cs.length - after.length - 2))
    let last ← groups? true after
    if 7 < first.length + last.length then none
    else some (first ++ List.replicate (8 - first.length - last.length) 0 ++ last)

/-- How many groups at the front are zero. -/
def zeros (groups : List Nat) : Nat := (groups.takeWhile (· = 0)).length

/-- Where the longest row of zero groups starts and how long it is, the first of the longest. -/
def longestRow (groups : List Nat) : Nat × Nat :=
  (List.range groups.length).foldl (fun best i =>
    let n := zeros (groups.drop i)
    if best.2 < n then (i, n) else best) (0, 0)

def groupsText (groups : List Nat) : String :=
  Text.joined ":" (groups.map fun n => String.ofList (Nat.toDigits 16 n))

/-- Groups in brackets, a row of two zeros or more as two colons. -/
def bracketed (groups : List Nat) : String :=
  let (start, length) := longestRow groups
  "[" ++ (if length < 2 then groupsText groups
    else groupsText (groups.take start) ++ "::" ++ groupsText (groups.drop (start + length))) ++ "]"

/-- What stands in brackets. -/
def ofBrackets? (cs : List Char) : Option String :=
  if cs.getLast? = some ']' then (eightGroups? cs.dropLast).map bracketed else none

/-! ## Names -/

/-- Characters that a name may not hold when it is in ASCII. -/
def isForbidden (c : Char) : Bool :=
  c.toNat ≤ 0x20 || 0x7E < c.toNat || "#/:<>?@[\\]^|%".toList.contains c

/-- The one way of writing a host. Escapes in a name are read first. -/
def read? (cs : List Char) : Option String :=
  match cs with
  | '[' :: rest => ofBrackets? rest
  | _ => do
    let name := (Text.Utf8.lossy (Target.percentDecode (Target.bytesOf cs))).toList
    let name ← Domain.ascii? name
    if name.isEmpty || name.any isForbidden then none
    else if isNumeric name then numeric? name
    else some (String.ofList name)

end SchemaRest.Policy.Host
