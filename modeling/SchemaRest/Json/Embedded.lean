import SchemaRest.Json.Basic

/-!
# Embedded texts

An object whose first field has a certain name, the mark, stands for the value of the JSON text
under it. The mark has to be the only field and has to hold a string; what that text says is not
looked at again.
-/

namespace SchemaRest.Json.Embedded

def mark : String := "$serde_json::private::RawValue"

inductive Problem where
  /-- There is no string under the mark. -/
  | notText (found : Json)
  /-- The string is no JSON text. -/
  | notJson
  /-- There are other fields beside the mark. -/
  | notAlone (fields : Nat)
  deriving Repr

mutual

/-- Every embedded text replaced by the value that `read` finds in it; the first problem decides. -/
def resolve (read : String → Option Json) : Json → Except Problem Json
  | .arr items => (resolveItems read [] items).map .arr
  | .obj ((key, v) :: rest) =>
    if key = mark then
      match v with
      | .str text =>
        match read text with
        | none => .error .notJson
        | some value => if rest.isEmpty then .ok value else .error (.notAlone (rest.length + 1))
      | v => .error (.notText v)
    else (resolveFields read [] ((key, v) :: rest)).map .obj
  | v => .ok v

/-- `done` holds the items before, reversed. -/
def resolveItems (read : String → Option Json) (done : List Json) :
    List Json → Except Problem (List Json)
  | [] => .ok done.reverse
  | v :: rest =>
    match resolve read v with
    | .error e => .error e
    | .ok v => resolveItems read (v :: done) rest

/-- `done` holds the fields before, reversed. -/
def resolveFields (read : String → Option Json) (done : List (String × Json)) :
    List (String × Json) → Except Problem (List (String × Json))
  | [] => .ok done.reverse
  | (key, v) :: rest =>
    match resolve read v with
    | .error e => .error e
    | .ok v => resolveFields read ((key, v) :: done) rest

end

end SchemaRest.Json.Embedded
