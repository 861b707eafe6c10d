import SchemaRest.Json.Basic
import SchemaRest.Decimal.Shortest

/-!
# The text of a JSON value

Compact text: no blanks, a quote, a backslash and the control characters escaped, every other
character as it is. A double is written positionally from `1e-5` up to below `1e16`.
-/

namespace SchemaRest.Json

def doubleLayout : Double.Layout := ⟨-5, 16⟩

def numberText : Number → String
  | .int n => toString n
  | .double d => doubleLayout.text d

/-- One character inside quotes. -/
def escaped (c : Char) : List Char :=
  if c = '"' then ['\\', '"']
  else if c = '\\' then ['\\', '\\']
  else if c = '\x08' then ['\\', 'b']
  else if c = '\x0c' then ['\\', 'f']
  else if c = '\n' then ['\\', 'n']
  else if c = '\r' then ['\\', 'r']
  else if c = '\t' then ['\\', 't']
  else if c.toNat < 0x20 then ['\\', 'u'] ++ Text.hexChars 4 c.toNat
  else [c]

def quotedText (s : String) : String :=
  String.ofList ('"' :: s.toList.flatMap escaped ++ ['"'])

mutual

/-- `out` followed by the text of a value. -/
def write (out : String) : Json → String
  | .null => out ++ "null"
  | .bool true => out ++ "true"
  | .bool false => out ++ "false"
  | .num n => out ++ numberText n
  | .str s => out ++ quotedText s
  | .arr items => (writeItems (out.push '[') true items).push ']'
  | .obj fields => (writeFields (out.push '\x7b') true fields).push '\x7d'

def writeItems (out : String) (first : Bool) : List Json → String
  | [] => out
  | v :: rest => writeItems (write (if first then out else out.push ',') v) false rest

def writeFields (out : String) (first : Bool) : List (String × Json) → String
  | [] => out
  | (k, v) :: rest =>
    let out := (if first then out else out.push ',') ++ quotedText k
    writeFields (write (out.push ':') v) false rest

end

def text (v : Json) : String := write "" v

end SchemaRest.Json
