import SchemaRest.Failure
import SchemaRest.Json.Basic

/-!
# Responses

Answers to requests. A JSON answer is an envelope of a message, a number and the content; a failure
has an identifier in place of content, the same that is written to the log.
-/

namespace SchemaRest

inductive Content where
  | nothing
  | json (value : Json)
  | plain (text : String)
  | html (text : String)
  deriving Repr

structure Response where
  status : Nat
  /-- Decides the content type. -/
  content : Content
  /-- The content is announced, but not sent. -/
  headOnly : Bool
  deriving Repr

namespace Response

def empty (status : Nat) : Response := ⟨status, .nothing, false⟩

def json (status : Nat) (value : Json) : Response := ⟨status, .json value, false⟩

def plain (status : Nat) (text : String) : Response := ⟨status, .plain text, false⟩

def contentType? (r : Response) : Option String :=
  match r.content with
  | .nothing => none
  | .json _ => some "application/json"
  | .plain _ => some "text/plain; charset=utf-8"
  | .html _ => some "text/html; charset=utf-8"

/-- The code of a successful reading. -/
def codeOk : Nat := 200000

/-- The code of a successful writing, and of rows without pages. -/
def codeWritten : Nat := 200001

/-- Content that is absent leaves out its field. -/
def envelope (status code : Nat) (message : String) (content : Option Json) : Response :=
  .json status (.ofFields ([("message", .str message), ("code", .nat code)] ++
    match content with
    | some v => [("content", v)]
    | none => []))

def ok (content : Json) : Response := envelope 200 codeOk "success" (some content)

def created (content : Option Json) : Response := envelope 201 codeWritten "success" content

/-- The code tells rows without pages from a page of rows. -/
def unpaginated (content : Json) : Response := envelope 200 codeWritten "success" (some content)

def failed (id : String) (e : Failure) : Response :=
  .json e.status (.ofFields [("message", .str e.message), ("code", .nat e.code),
    ("errorUUID", .str id)])

/-- The response without its content, its type kept. -/
def withoutContent (r : Response) : Response := { r with headOnly := true }

end Response

end SchemaRest
