import SchemaRest.Endpoint.Registry
import SchemaRest.Policy.Request
import SchemaRest.Sql.Statement
import SchemaRest.Request.Body

/-!
# The world of the service

What the service remembers between requests, and what is around it: the database and the access
service, each either out of reach or answering from a list of replies, with a record of all they
were asked. An effect of the service is a function on this state, so that a request is a step from
one state to the next.

Left out: the time an answer takes, and what several requests at once do to one another.
-/

namespace SchemaRest

/-- A service at the other end of a connection. -/
inductive Link (Reply : Type) where
  | unreachable
  /-- Answers with these, in order. -/
  | replying (replies : List Reply)
  deriving Repr

/-- How a statement is sent: prepared with bound values, or as a text. -/
inductive Protocol where
  | prepared
  | text
  deriving DecidableEq, Repr

/-- A statement that was sent. -/
inductive Sent where
  | prepared (sql : String) (params : List Sql.Bound)
  | text (sql : String)
  deriving DecidableEq, Repr

/-- A column of a result. -/
structure ColumnType where
  name : String
  type : String
  unsigned : Bool
  deriving DecidableEq, Repr

/-- The bytes of a value, or null. -/
abbrev Cell := Option (List UInt8)

inductive Reply where
  | rows (columns : List ColumnType) (rows : List (List Cell))
  | done (affected insertId : Nat)
  | failed (code : Nat) (state message : String)
  deriving Repr

/-- An answer of an access service; `none` is a connection closed without one. -/
abbrev PolicyReply := Option (Nat × String)

inductive Registration where
  | unregistered
  | registering
  | registered
  deriving DecidableEq, Repr

def Registration.name : Registration → String
  | unregistered => "unregistered"
  | registering => "registering"
  | registered => "registered"

structure World where
  registry : Registry
  registration : Registration
  /-- The catalog as it was last read. -/
  catalog : Catalog.Snapshot
  /-- A reply to a statement is one or more results. -/
  database : Link (List Reply)
  sent : List Sent
  policy : Link PolicyReply
  asked : List Policy.Request
  /-- Identifies a failure in its answer. -/
  failureId : String
  /-- The random text in the data of templates. -/
  random : String
  deriving Repr

namespace World

/-- A service before its first request. -/
def initial (failureId random : String) : World where
  registry := .empty
  registration := .unregistered
  catalog := .empty
  database := .unreachable
  sent := []
  policy := .unreachable
  asked := []
  failureId
  random

end World

/-- An effect that may fail with an `ε`. The state after a failure is kept. -/
abbrev Effect (ε α : Type) := ExceptT ε (StateM World) α

namespace Effect

variable {ε ε' α : Type}

def ofExcept (r : Except ε α) : Effect ε α := fun w => (r, w)

def fail (e : ε) : Effect ε α := fun w => (.error e, w)

def look (f : World → α) : Effect ε α := fun w => (.ok (f w), w)

def mapFailure (f : ε → ε') (m : Effect ε α) : Effect ε' α := fun w =>
  match m w with
  | (.ok a, w) => (.ok a, w)
  | (.error e, w) => (.error (f e), w)

end Effect

/-- What a database without a reply left answers. -/
def noReply : DatabaseError := .server 1105 "HY000" "no scripted reply"

/-- Sends a statement and takes the next reply. -/
def send (s : Sent) : Effect DatabaseError (List Reply) := fun w =>
  match w.database with
  | .unreachable => (.error .unreachable, w)
  | .replying [] => (.error noReply, { w with sent := w.sent ++ [s] })
  | .replying (r :: rest) => (.ok r, { w with sent := w.sent ++ [s], database := .replying rest })

def Sent.ofStatement (s : Sql.Statement) : Sent := .prepared s.sql (s.params.map Sql.Bound.ofJson)

/-- Asks the access service and takes the next reply. Without one left the service fails. -/
def ask (r : Policy.Request) : Effect Policy.Problem (Nat × String) := fun w =>
  match w.policy with
  | .unreachable => (.error (.noAnswer r.url), w)
  | .replying [] => (.ok (500, ""), { w with asked := w.asked ++ [r] })
  | .replying (none :: rest) =>
    (.error (.noAnswer r.url), { w with asked := w.asked ++ [r], policy := .replying rest })
  | .replying (some a :: rest) =>
    (.ok a, { w with asked := w.asked ++ [r], policy := .replying rest })

end SchemaRest
