import SchemaRest.Json.Decode
import SchemaRest.Decimal.Literal
import SchemaRest.Failure
import SchemaRest.Text.Blank

/-!
# Creating tables

A table is described by its name, the name of its generated key and its columns in order; `create`
is the statement that creates it. The statement holds the names, the types and the defaults as they
are, so `check` says which descriptions are fit for it: every name an identifier of at most 64
characters, every type one or two words, and no column with the name of the key.
-/

namespace SchemaRest.Sql

structure Reference where
  table : String
  column : String
  deriving DecidableEq, Repr

structure ColumnSpec where
  type : String
  length : Option Nat
  notNull : Bool
  unique : Bool
  unsigned : Bool
  comment : Option String
  default : Option Json
  reference : Option Reference
  deriving Repr

structure TableSpec where
  name : String
  keyName : Option String
  columns : List (String × ColumnSpec)
  deriving Repr

/-! ## Descriptions in requests -/

def Reference.fields : List (Decode.Field Reference) :=
  [Decode.required "table" Decode.text fun v r => { r with table := v },
    Decode.required "column" Decode.text fun v r => { r with column := v }]

def Reference.outline : Json.Outline := Decode.outline Reference.fields

def Reference.decode : Json → Decoded Reference :=
  Decode.record "ColumnReference" Reference.fields ⟨"", ""⟩

namespace ColumnSpec

def empty : ColumnSpec := ⟨"", none, false, false, false, none, none, none⟩

def fields : List (Decode.Field ColumnSpec) :=
  [Decode.required "type" Decode.text fun v c => { c with type := v },
    (Decode.defaulted "length" (Decode.optional Decode.unsigned32)
      fun v c => { c with length := v }).orNamed "lenght",
    (Decode.defaulted "isNotNullable" Decode.boolean
      fun v c => { c with notNull := v }).orNamed "isNotNulleable",
    Decode.defaulted "isUnique" Decode.boolean fun v c => { c with unique := v },
    Decode.defaulted "isUnsigned" Decode.boolean fun v c => { c with unsigned := v },
    Decode.defaulted "comment" (Decode.optional Decode.text) fun v c => { c with comment := v },
    Decode.defaulted "defaultValue" (Decode.optional Decode.anything)
      fun v c => { c with default := v },
    (Decode.defaulted "reference" (Decode.optional Reference.decode)
      fun v c => { c with reference := v }).within Reference.outline]

def outline : Json.Outline := Decode.outline fields

def decode : Json → Decoded ColumnSpec := Decode.record "ColumnCreationSpec" fields empty

end ColumnSpec

namespace TableSpec

/-- Each name at its first place, with what was last said of it. -/
def keepPlaces (columns : List (String × ColumnSpec)) : List (String × ColumnSpec) :=
  columns.foldl (fun done p =>
    if done.any (·.1 == p.1) then done.map fun q => if q.1 == p.1 then p else q
    else done ++ [p]) []

def fields : List (Decode.Field TableSpec) :=
  [Decode.required "tableName" Decode.text fun v t => { t with name := v },
    Decode.defaulted "primaryKeyName" (Decode.optional Decode.text)
      fun v t => { t with keyName := v },
    (Decode.defaulted "columns" (Decode.pairsOf ColumnSpec.decode)
      fun v t => { t with columns := keepPlaces v }).within (.entries ColumnSpec.outline)]

def outline : Json.Outline := Decode.outline fields

/-- The columns keep the order of the fields they are given in. -/
def decode : Json → Decoded TableSpec := Decode.record "TableCreationSpec" fields ⟨"", none, []⟩

/-- The name of the generated key, `id` unless another is given. -/
def key (t : TableSpec) : String :=
  match t.keyName with
  | none => "id"
  | some name => if name.isEmpty then "id" else name

end TableSpec

/-! ## The statement -/

/-- A text between single quotes, a single quote inside written twice. -/
def stringLiteral (s : String) : String :=
  "'" ++ Text.replaceChar '\'' ['\'', '\''] s ++ "'"

/-- A default: a number, or a text that reads as one, stands bare and all other texts in quotes. -/
def defaultLiteral : Json → String
  | .null => "NULL"
  | .bool true => "TRUE"
  | .bool false => "FALSE"
  | .num n => Json.numberText n
  | .str s =>
    let t := Text.trim s
    if Decimal.readsFinite t then t else stringLiteral s
  | v => stringLiteral v.text

namespace ColumnSpec

def lengthSql (c : ColumnSpec) : String :=
  match c.length with
  | some n => if 0 < n then "(" ++ toString n ++ ")" else ""
  | none => ""

def defaultSql (c : ColumnSpec) : String :=
  match c.default with
  | some v => " DEFAULT " ++ defaultLiteral v
  | none => ""

def commentSql (c : ColumnSpec) : String :=
  match c.comment with
  | some s => if s.isEmpty then "" else " COMMENT " ++ stringLiteral s
  | none => ""

/-- The line that declares a column. -/
def declaration (name : String) (c : ColumnSpec) : String :=
  ",\n" ++ name ++ " " ++ c.type ++ c.lengthSql ++ (if c.unsigned then " UNSIGNED" else "") ++
    (if c.notNull then " NOT NULL" else " NULL") ++ c.defaultSql ++ c.commentSql

/-- The constraints of a column, which stand after all declarations. -/
def constraints (table name : String) (c : ColumnSpec) : String :=
  (if c.unique then ",\nCONSTRAINT UC_" ++ table ++ "_" ++ name ++ " UNIQUE (" ++ name ++ ")"
    else "") ++
  match c.reference with
  | some r => ",\nCONSTRAINT FK_" ++ r.table ++ "_" ++ table ++ " FOREIGN KEY (" ++ name ++
      ")\nREFERENCES " ++ r.table ++ "(" ++ r.column ++ ")"
  | none => ""

end ColumnSpec

namespace TableSpec

/-- The statement that creates a table unless one of its name is there. -/
def create (t : TableSpec) : String :=
  "CREATE TABLE IF NOT EXISTS " ++ t.name ++ "(\n" ++ t.key ++
    " INT UNSIGNED NOT NULL AUTO_INCREMENT" ++
    String.join (t.columns.map fun p => p.2.declaration p.1) ++
    ",\nCONSTRAINT PK_" ++ t.name ++ " PRIMARY KEY (" ++ t.key ++ ")" ++
    String.join (t.columns.map fun p => p.2.constraints t.name p.1) ++ "\n);"

end TableSpec

/-! ## Fitness -/

def isLetter (c : Char) : Bool := ('a' ≤ c && c ≤ 'z') || ('A' ≤ c && c ≤ 'Z')

/-- A letter or an underscore, then at most 63 letters, digits, underscores and dollars. -/
def isIdentifier (s : String) : Bool :=
  match s.toList with
  | [] => false
  | c :: rest => (isLetter c || c == '_') && rest.length ≤ 63 &&
      rest.all fun c => isLetter c || Text.isDigit c || c == '_' || c == '$'

/-- One word of letters, or two with one blank between. -/
def isTypeName (s : String) : Bool :=
  match Text.pieces ' ' s with
  | [a] => !a.isEmpty && a.toList.all isLetter
  | [a, b] => !a.isEmpty && a.toList.all isLetter && !b.isEmpty && b.toList.all isLetter
  | _ => false

def checkIdentifier (what value : String) : Except Failure Unit :=
  if isIdentifier value then .ok ()
  else .error (.validation (what ++ " '" ++ value ++ "' is not a valid identifier"))

def checkReference : Option Reference → Except Failure Unit
  | none => .ok ()
  | some r => do
    checkIdentifier "reference table" r.table
    checkIdentifier "reference column" r.column

def checkColumn (key name : String) (c : ColumnSpec) : Except Failure Unit := do
  checkIdentifier "column" name
  if Text.eqIgnoreCase name key then
    .error (.validation ("column '" ++ name ++ "' collides with the generated primary key"))
  if !isTypeName c.type then
    .error (.validation ("column '" ++ name ++ "' has invalid type '" ++ c.type ++ "'"))
  checkReference c.reference

def checkColumns (key : String) : List (String × ColumnSpec) → Except Failure Unit
  | [] => .ok ()
  | (name, c) :: rest => do
    checkColumn key name c
    checkColumns key rest

def TableSpec.check (t : TableSpec) : Except Failure Unit := do
  checkIdentifier "tableName" t.name
  checkIdentifier "primaryKeyName" t.key
  checkColumns t.key t.columns

end SchemaRest.Sql
