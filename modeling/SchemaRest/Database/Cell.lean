import SchemaRest.Database.Clock
import SchemaRest.Decimal.Literal
import SchemaRest.Json.Reader
import SchemaRest.Service.World

/-!
# Cells of a result

The JSON value of a cell follows the type of its column. Numbers with a binary form are numbers, a
decimal is a text so that no digit is lost, and what cannot be shown is null. A row is an object of
its columns; of two columns of one name the later counts.
-/

namespace SchemaRest.Database

/-- The names of the types of whole numbers. -/
def wholeTypes : List String := ["TINYINT", "SMALLINT", "MEDIUMINT", "INT", "BIGINT", "BOOLEAN"]

/-- The names of the types whose values are characters. -/
def textTypes : List String := ["CHAR", "VARCHAR", "TEXT", "ENUM", "SET"]

def byteTypes : List String := ["BINARY", "VARBINARY", "BLOB"]

def bigEndian (bytes : List UInt8) : Nat := bytes.foldl (fun n b => n * 256 + b.toNat) 0

def wholeValue (s : String) : Json :=
  match Text.intBetween? Text.minI64 Text.maxU64 s with
  | some n => .int n
  | none => .null

def doubleValue : Option Double → Json
  | some d => .num (.double d)
  | none => .null

/-- The digits of a decimal with its scale; more than 96 bits of digits are too many. -/
def decimalText? (s : String) : Option String :=
  let (negative, cs) := Decimal.sign s.toList
  let (whole, fraction) := match Text.piecesFrom '.' [] cs with
    | [w] => (w, some [])
    | [w, f] => (w, some f)
    | _ => ([], none)
  match fraction with
  | none => none
  | some f =>
    let digits := whole ++ f
    if digits.isEmpty || !digits.all Text.isDigit || Nat.pow 2 96 ≤ Text.ofDigits digits then none
    else
      let front := Nat.repr (Text.ofDigits whole)
      let body := if f.isEmpty then front else front ++ "." ++ String.ofList f
      some (if negative && Text.ofDigits digits ≠ 0 then "-" ++ body else body)

def textValue : Option String → Json
  | some s => .str s
  | none => .null

/-- The value of bytes that are not null. -/
def valueOf (protocol : Protocol) (type : String) (bytes : List UInt8) : Json :=
  let s := Text.Utf8.lossy bytes
  if wholeTypes.contains type || type == "YEAR" then wholeValue s
  else if type == "BIT" then .nat (bigEndian bytes)
  else if type == "FLOAT" then
    doubleValue (match protocol with
      | .text => Decimal.read? s
      | .prepared => (Decimal.read? s).bind Double.narrowed?)
  else if type == "DOUBLE" then doubleValue (Decimal.read? s)
  else if type == "DECIMAL" then textValue (decimalText? s)
  else if type == "DATETIME" || type == "TIMESTAMP" then textValue (instantText? s.toList)
  else if type == "DATE" then textValue ((Date.ofChars? s.toList).map Date.text)
  else if type == "TIME" then textValue (spanText? (protocol == .text) s.toList)
  else if type == "JSON" then (Json.readBytes? ⟨bytes.toArray⟩).getD .null
  else if textTypes.contains type || byteTypes.contains type then .str s
  else .null

def cellValue (protocol : Protocol) (column : ColumnType) : Cell → Json
  | none => .null
  | some bytes => valueOf protocol column.type bytes

def rowValue (protocol : Protocol) (columns : List ColumnType) (row : List Cell) : Json :=
  .ofFields ((columns.zip row).map fun p => (p.1.name, cellValue protocol p.1 p.2))

end SchemaRest.Database
