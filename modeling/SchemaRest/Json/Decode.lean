import SchemaRest.Json.Reader
import SchemaRest.Json.Printer
import SchemaRest.Text.Printable
import SchemaRest.Text.Split

/-!
# Decoding values into records

A record is written as an object whose fields carry its names, or as an array of its fields in
order. A field may have a second name and may be optional; fields of other names are skipped. The
fields of an object are taken in the order they stand and the first that fails decides; what is
missing is noticed afterwards, in the order of the record. The outline of a record is what is read
of it when it stands in a text of its own.

`DecodeError` says what went wrong, `DecodeError.message` how that is worded.
-/

namespace SchemaRest

/-- What a decoder asks for. -/
inductive Shape where
  | text
  | boolean
  | unsigned32
  | signed64
  | sequence
  | map
  | record (name : String)
  /-- One of a set of names. -/
  | choice
  | nothing
  /-- A JSON text in a string. -/
  | embedded
  deriving DecidableEq, Repr

inductive DecodeError where
  | missingField (name : String)
  | duplicateField (name : String)
  | wrongKind (found : Json) (expected : Shape)
  | outOfRange (found : Int) (expected : Shape)
  | unknownChoice (found : String) (known : List String)
  /-- A choice written as an object that does not have exactly one field. -/
  | notSingleKey
  /-- An array ends before a field that has to be there. -/
  | tooShort (length : Nat) (record : String) (fields : Nat)
  | tooLong (length : Nat)
  | notTruthValue (field : String) (found : Json)
  /-- A text that should be JSON is not. -/
  | notJson
  /-- An object with a mark has further fields. -/
  | notAlone (fields : Nat)
  deriving Repr

abbrev Decoded (α : Type) := Except DecodeError α

/-- Stands in messages for what is wrong with a text that is not JSON. -/
def Json.malformed : String := "<json>"

namespace Shape

def description : Shape → String
  | .text => "a string"
  | .boolean => "a boolean"
  | .unsigned32 => "u32"
  | .signed64 => "i64"
  | .sequence => "a sequence"
  | .map => "a map"
  | .record name => "struct " ++ name
  | .choice => "string or map"
  | .nothing => "unit"
  | .embedded => "raw value"

end Shape

namespace DecodeError

/-- How a value is named in a message. -/
def kindOf : Json → String
  | .null => "null"
  | .bool b => "boolean `" ++ (if b then "true" else "false") ++ "`"
  | .num (.int n) => "integer `" ++ toString n ++ "`"
  | .num (.double d) => "floating point `" ++ Json.doubleLayout.text d ++ "`"
  | .str s => "string " ++ Text.shown s
  | .arr _ => "sequence"
  | .obj _ => "map"

def alternatives (names : List String) : String :=
  match names with
  | [a, b] => "`" ++ a ++ "` or `" ++ b ++ "`"
  | [a] => "`" ++ a ++ "`"
  | names => "one of " ++ Text.joined ", " (names.map fun n => "`" ++ n ++ "`")

def message : DecodeError → String
  | .missingField name => "missing field `" ++ name ++ "`"
  | .duplicateField name => "duplicate field `" ++ name ++ "`"
  | .wrongKind found expected =>
    "invalid type: " ++ kindOf found ++ ", expected " ++ expected.description
  | .outOfRange found expected =>
    "invalid value: integer `" ++ toString found ++ "`, expected " ++ expected.description
  | .unknownChoice found known =>
    "unknown variant `" ++ found ++ "`, expected " ++ alternatives known
  | .notSingleKey => "invalid value: map, expected map with a single key"
  | .tooShort length record fields =>
    "invalid length " ++ toString length ++ ", expected struct " ++ record ++ " with " ++
      toString fields ++ (if fields = 1 then " element" else " elements")
  | .tooLong length =>
    "invalid length " ++ toString length ++ ", expected fewer elements in array"
  | .notTruthValue field found => field ++ " must be a boolean, got " ++ found.text
  | .notJson => Json.malformed
  | .notAlone fields =>
    "invalid length " ++ toString fields ++ ", expected fewer elements in map"

/-- What is wrong with an embedded text. -/
def ofEmbedded : Json.Embedded.Problem → DecodeError
  | .notText found => .wrongKind found .embedded
  | .notJson => .notJson
  | .notAlone fields => .notAlone fields

end DecodeError

namespace Decode

variable {α σ : Type}

def text : Json → Decoded String
  | .str s => .ok s
  | v => .error (.wrongKind v .text)

def boolean : Json → Decoded Bool
  | .bool b => .ok b
  | v => .error (.wrongKind v .boolean)

/-- A whole number in a range; a double never is one. -/
def whole (shape : Shape) (low high : Int) : Json → Decoded Int
  | .num (.int n) => if low ≤ n ∧ n ≤ high then .ok n else .error (.outOfRange n shape)
  | v => .error (.wrongKind v shape)

def unsigned32 (v : Json) : Decoded Nat :=
  (whole .unsigned32 0 Text.maxU32 v).map Int.toNat

def signed64 : Json → Decoded Int := whole .signed64 Text.minI64 Text.maxI64

/-- Any value, embedded texts replaced and objects as maps. -/
def anything (v : Json) : Decoded Json :=
  match Json.Embedded.resolve Json.read? v with
  | .ok v => .ok v.canonical
  | .error e => .error (.ofEmbedded e)

def optional (f : Json → Decoded α) : Json → Decoded (Option α)
  | .null => .ok none
  | v => (f v).map some

def listOf (f : Json → Decoded α) : Json → Decoded (List α)
  | .arr items => items.mapM f
  | v => .error (.wrongKind v .sequence)

/-- The fields of an object in their order. -/
def pairsOf (f : Json → Decoded α) : Json → Decoded (List (String × α))
  | .obj fields => fields.mapM fun p => (f p.2).map (p.1, ·)
  | v => .error (.wrongKind v .map)

/-- One pair for each name, the last one. -/
def lastOfEach (pairs : List (String × α)) : List (String × α) :=
  pairs.foldl (fun m p => m.filter (·.1 != p.1) ++ [p]) []

/-- An object as a map: every field is decoded, the last of a name counts. -/
def mapOf (f : Json → Decoded α) (v : Json) : Decoded (List (String × α)) :=
  (pairsOf f v).map lastOfEach

/-- An object of any values. -/
def fields (v : Json) : Decoded Fields := (pairsOf anything v).map Fields.ofList

/-- One of some names, as a text or as an object with that one key and nothing under it. `fallback`
stands for names not in the list. -/
def choice (known : List (String × α)) (fallback : Option α) (v : Json) : Decoded α :=
  let named (name : String) : Decoded α :=
    match known.lookup name, fallback with
    | some a, _ => .ok a
    | none, some a => .ok a
    | none, none => .error (.unknownChoice name (known.map (·.1)))
  match v with
  | .str name => named name
  | .obj [(name, .null)] => named name
  | .obj [(name, under)] => do
    let _ ← named name
    .error (.wrongKind under .nothing)
  | .obj _ => .error .notSingleKey
  | v => .error (.wrongKind v .choice)

/-- A field of a record under construction. -/
structure Field (σ : Type) where
  name : String
  otherName : Option String
  required : Bool
  /-- What is read of the field. -/
  outline : Json.Outline
  read : Json → σ → Decoded σ

/-- What is read of a record. -/
def outline (known : List (Field σ)) : Json.Outline :=
  .record (known.map fun f => (f.name :: f.otherName.toList, f.outline))

def Field.answersTo (f : Field σ) (key : String) : Bool := f.name == key || f.otherName == some key

/-- Takes the fields of an object one by one; `seen` holds the names taken before. -/
def takeFields (known : List (Field σ)) (seen : List String) (record : σ) :
    Fields → Decoded (List String × σ)
  | [] => .ok (seen, record)
  | (key, v) :: rest =>
    match known.find? (·.answersTo key) with
    | none => takeFields known seen record rest
    | some f =>
      if seen.contains f.name then .error (.duplicateField f.name)
      else match f.read v record with
        | .error e => .error e
        | .ok record => takeFields known (f.name :: seen) record rest

/-- Takes the items of an array as the fields in order; `taken` counts those before. -/
def takeItems (name : String) (count : Nat) (taken : Nat) (record : σ) :
    List (Field σ) → List Json → Decoded σ
  | [], [] => .ok record
  | [], rest => .error (.tooLong (taken + rest.length))
  | f :: fs, [] =>
    if f.required then .error (.tooShort taken name count)
    else takeItems name count (taken + 1) record fs []
  | f :: fs, v :: rest =>
    match f.read v record with
    | .error e => .error e
    | .ok record => takeItems name count (taken + 1) record fs rest

/-- A record from its empty form. -/
def record (name : String) (known : List (Field σ)) (empty : σ) : Json → Decoded σ
  | .obj fields =>
    match takeFields known [] empty fields with
    | .error e => .error e
    | .ok (seen, record) =>
      match known.find? fun f => f.required && !seen.contains f.name with
      | some f => .error (.missingField f.name)
      | none => .ok record
  | .arr items => takeItems name known.length 0 empty known items
  | v => .error (.wrongKind v (.record name))

/-- A field that has to be there. -/
def required (name : String) (f : Json → Decoded α) (set : α → σ → σ) : Field σ :=
  ⟨name, none, true, .whole, fun v r => (f v).map (set · r)⟩

/-- A field that keeps its value from the empty record when it is missing. -/
def defaulted (name : String) (f : Json → Decoded α) (set : α → σ → σ) : Field σ :=
  ⟨name, none, false, .whole, fun v r => (f v).map (set · r)⟩

/-- The same field under a second name as well. -/
def Field.orNamed (f : Field σ) (other : String) : Field σ := { f with otherName := some other }

/-- The same field with an outline of its own. -/
def Field.within (f : Field σ) (inner : Json.Outline) : Field σ := { f with outline := inner }

/-- The value of a text in an outline, decoded. -/
def ofText (outline : Json.Outline) (decode : Json → Decoded α) (text : String) : Decoded α :=
  match Json.readOutlined? outline text with
  | some v => decode v
  | none => .error .notJson

end Decode

end SchemaRest
