import SchemaRest.Json.Printer
import SchemaRest.Text.Split
import SchemaRest.Text.Blank

/-!
# Statements

A statement is a text with one `?` per value and the values in the order of the marks. Names come
from requests and are always quoted; values never enter the text. How a value is bound follows its
kind, and a list or an object is bound as its JSON text.
-/

namespace SchemaRest.Sql

structure Statement where
  sql : String
  params : List Json
  deriving Repr

/-- A name between backticks, a backtick inside written twice. -/
def quoted (name : String) : String :=
  "`" ++ Text.replaceChar '\x60' ['\x60', '\x60'] name ++ "`"

def quotedList (names : List String) : String := Text.joined ", " (names.map quoted)

/-- `n` marks. -/
def marks (n : Nat) : String := Text.joined ", " (List.replicate n "?")

inductive Bound where
  | null
  | bool (value : Bool)
  | signed (value : Int)
  | unsigned (value : Nat)
  | double (value : Double)
  | text (value : String)
  deriving DecidableEq, Repr

/-- A whole number is signed when it fits 64 signed bits. -/
def Bound.ofJson : Json → Bound
  | .null => .null
  | .bool b => .bool b
  | .num (.int n) => if n ≤ Text.maxI64 then .signed n else .unsigned n.toNat
  | .num (.double d) => .double d
  | .str s => .text s
  | .arr items => .text (Json.arr items).text
  | .obj fields => .text (Json.obj fields).text

end SchemaRest.Sql
