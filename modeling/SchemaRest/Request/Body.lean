import SchemaRest.Json.Reader
import SchemaRest.Json.Decode
import SchemaRest.Failure

/-!
# Request bodies

A body is bytes that should be JSON. A body of blanks alone is no value at all: it reads as null,
and as a record it is the record with nothing given.
-/

namespace SchemaRest

namespace Body

/-- The blanks a body may consist of. -/
def isBlankByte (b : UInt8) : Bool := b == 32 || b == 9 || b == 10 || b == 12 || b == 13

def invalid (what : String) : Failure := .validation ("Invalid body, " ++ what)

def json (body : ByteArray) : Except Failure Json :=
  if body.toList.all isBlankByte then .ok .null
  else match Json.readBytes? body with
    | some v => .ok v
    | none => .error (invalid Json.malformed)

/-- The body as a record; null stands for the empty object. -/
def parse {α : Type} (decode : Json → Decoded α) (body : ByteArray) : Except Failure α :=
  match json body with
  | .error e => .error e
  | .ok v =>
    match decode (if v.isNull then .obj [] else v) with
    | .ok a => .ok a
    | .error e => .error (invalid e.message)

end Body

end SchemaRest
