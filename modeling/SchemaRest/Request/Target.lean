import SchemaRest.Text.Numeral
import SchemaRest.Text.Split
import SchemaRest.Text.Utf8

/-!
# Request targets

The path and the query string of a request, and how escapes in them are read. An escape is a
percent sign and two hexadecimal digits and stands for one byte; a percent sign without two such
digits stands for itself.
-/

namespace SchemaRest

/-- The parameters of a query string, each name once. -/
abbrev QueryString := List (String × String)

namespace Target

def bytesOf (cs : List Char) : List UInt8 := (String.ofList cs).toUTF8.toList

/-- The bytes that escaped text stands for. -/
def percentDecode : List UInt8 → List UInt8
  | [] => []
  | [b] => [b]
  | [b, c] => [b, c]
  | b :: h :: l :: rest =>
    if b = 37 then
      match Text.hexValue? (Char.ofNat h.toNat), Text.hexValue? (Char.ofNat l.toNat) with
      | some x, some y => UInt8.ofNat (x * 16 + y) :: percentDecode rest
      | _, _ => b :: percentDecode (h :: l :: rest)
    else b :: percentDecode (h :: l :: rest)

/-- A path segment, if its bytes are text. -/
def decodeSegment? (segment : String) : Option String :=
  Text.Utf8.strict? ⟨(percentDecode segment.toUTF8.toList).toArray⟩

/-- A name or a value of a form: a plus sign stands for a blank. -/
def decodeForm (cs : List Char) : String :=
  Text.Utf8.lossy (percentDecode (bytesOf (cs.map fun c => if c = '+' then ' ' else c)))

/-- A piece between ampersands; without an equals sign its value is empty. -/
def decodePair (piece : List Char) : String × String :=
  match Text.cutChars '=' piece with
  | some (name, value) => (decodeForm name, decodeForm value)
  | none => (decodeForm piece, "")

/-- The parameters in a query string; the last of a name counts. -/
def decodeQuery (query : List Char) : QueryString :=
  ((Text.piecesFrom '&' [] query).filter (!·.isEmpty)).foldl
    (fun m piece =>
      let p := decodePair piece
      m.filter (·.1 != p.1) ++ [p]) []

/-- The path and the query of a target. They follow the host where a scheme stands in front, and
then the path has at least its first slash. A target that is neither a path nor starts with a scheme
is a host alone, except for the asterisk, which stands for itself. -/
def relative (uri : String) : List Char :=
  let cs := uri.toList.takeWhile (· ≠ '#')
  if Text.startsWith "/" uri || uri == "*" then cs
  else match Text.afterFirst? [':', '/', '/'] cs with
    | none => []
    | some rest =>
      match rest.dropWhile fun c => c ≠ '/' && c ≠ '?' with
      | '/' :: path => '/' :: path
      | query => '/' :: query

/-- The path, as it is written. -/
def path (uri : String) : String := String.ofList ((relative uri).takeWhile (· ≠ '?'))

def query (uri : String) : QueryString := decodeQuery ((relative uri).dropWhile (· ≠ '?') |>.drop 1)

end Target

end SchemaRest
