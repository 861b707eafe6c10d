import SchemaRest.Json.Embedded
import SchemaRest.Json.Outline
import SchemaRest.Text.Utf8

/-!
# Reading JSON

The grammar is RFC 8259 without extensions: four blanks, no text after the value, at most 127
containers inside one another.

`readOutlined?` keeps the fields of an object as they stand, in order and with repetitions, and
leaves out the fields that an outline does not want. `read?` reads all of a text, replaces embedded
texts and turns objects into maps.
-/

namespace SchemaRest.Json

def maxDepth : Nat := 127

mutual

/-- Reads a value after blanks. `depth` counts the containers that may still be opened. -/
def readValue (outline : Outline) (depth : Nat) :
    (fuel : Nat) → List Char → Option (Json × List Char)
  | 0, _ => none
  | fuel + 1, cs =>
    match skipSpace cs with
    | [] => none
    | 'n' :: 'u' :: 'l' :: 'l' :: rest => some (.null, rest)
    | 't' :: 'r' :: 'u' :: 'e' :: rest => some (.bool true, rest)
    | 'f' :: 'a' :: 'l' :: 's' :: 'e' :: rest => some (.bool false, rest)
    | '"' :: rest => (readString .plain none [] rest).map fun p => (.str p.1, p.2)
    | c :: rest =>
      if c = '[' then
        if depth = 0 then none
        else match skipSpace rest with
          | ']' :: after => some (.arr [], after)
          | inside => readItems outline.items (depth - 1) fuel [] inside
      else if c = '\x7b' then
        if depth = 0 then none
        else match skipSpace rest with
          | '\x7d' :: after => some (.obj [], after)
          | inside => readFields outline (depth - 1) fuel [] inside
      else (readNumber (c :: rest)).map fun p => (.num p.1, p.2)

/-- `items` holds the items before, reversed. -/
def readItems (outlines : List Outline) (depth : Nat) :
    (fuel : Nat) → (items : List Json) → List Char → Option (Json × List Char)
  | 0, _, _ => none
  | fuel + 1, items, cs =>
    match readValue (outlines.headD .whole) depth fuel cs with
    | none => none
    | some (v, cs) =>
      match skipSpace cs with
      | ',' :: rest => readItems outlines.tail depth fuel (v :: items) rest
      | ']' :: rest => some (.arr (v :: items).reverse, rest)
      | _ => none

/-- `fields` holds the fields before that are wanted, reversed. -/
def readFields (outline : Outline) (depth : Nat) :
    (fuel : Nat) → (fields : Fields) → List Char → Option (Json × List Char)
  | 0, _, _ => none
  | fuel + 1, fields, cs =>
    match readField outline depth fuel fields cs with
    | none => none
    | some (fields, cs) =>
      match skipSpace cs with
      | ',' :: rest => readFields outline depth fuel fields rest
      | '\x7d' :: rest => some (.obj fields.reverse, rest)
      | _ => none

/-- Reads a name and a value, and puts the pair before `fields` if it is wanted. -/
def readField (outline : Outline) (depth : Nat) :
    (fuel : Nat) → (fields : Fields) → List Char → Option (Fields × List Char)
  | 0, _, _ => none
  | fuel + 1, fields, cs =>
    match skipSpace cs with
    | '"' :: rest =>
      match readString .plain none [] rest with
      | none => none
      | some (key, cs) =>
        match skipSpace cs with
        | ':' :: cs =>
          match outline.field? key with
          | none => (skipValue fuel cs).map fun cs => (fields, cs)
          | some inner => (readValue inner depth fuel cs).map fun p => ((key, p.1) :: fields, p.2)
        | _ => none
    | _ => none

end

/-- The value of a whole text, the fields of objects as they stand. At most three steps are taken at
a character. -/
def readChars? (outline : Outline) (cs : List Char) : Option Json :=
  match readValue outline maxDepth (3 * cs.length + 4) cs with
  | some (v, rest) => if (skipSpace rest).isEmpty then some v else none
  | none => none

/-- What an outline wants of a text. -/
def readOutlined? (outline : Outline) (s : String) : Option Json := readChars? outline s.toList

/-- Reads a text whose embedded texts lie less than `depth` deep inside one another. -/
def readEmbedding : (depth : Nat) → String → Option Json
  | 0, _ => none
  | depth + 1, s => do
    let v ← readOutlined? .whole s
    let v ← (Embedded.resolve (readEmbedding depth) v).toOption
    return v.canonical

/-- The value of a text, objects as maps. An embedded text is shorter than the text around it. -/
def read? (s : String) : Option Json := readEmbedding (s.length + 1) s

/-- The value of a text in UTF-8. -/
def readBytes? (bytes : ByteArray) : Option Json := (Text.Utf8.strict? bytes).bind read?

end SchemaRest.Json
