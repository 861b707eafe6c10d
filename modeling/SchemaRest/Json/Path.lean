import SchemaRest.Json.Basic
import SchemaRest.Text.Numeral
import SchemaRest.Text.Split

/-!
# Paths into values

A path is written `$.a.b[0]`: names and indexes, between points or in brackets. It is a list of
steps, empty ones left out; a step into an object is a key and a step into an array is an index
written without a sign and without leading zeros. The pointer text of a path has a slash before
every step, with `~` and `/` inside steps escaped.
-/

namespace SchemaRest.Json

/-- The steps of a text that starts with `$.`; other texts are no paths. -/
def pathSteps? (path : String) : Option (List String) :=
  (Text.after? "$." path).map fun rest =>
    let cs := (rest.toList.filter (· ≠ ']')).map fun c => if c = '[' then '.' else c
    ((Text.piecesFrom '.' [] cs).filter (!·.isEmpty)).map String.ofList

def escapedStep (step : String) : String :=
  Text.replaceChar '/' ['~', '1'] (Text.replaceChar '~' ['~', '0'] step)

/-- The pointer text of steps. -/
def pointer (steps : List String) : String := String.join (steps.map fun s => "/" ++ escapedStep s)

/-- An index in its only spelling. -/
def index? (step : String) : Option Nat :=
  if Text.startsWith "+" step || (Text.startsWith "0" step && step.length ≠ 1) then none
  else Text.natUpTo? Text.maxU64 step

def step? (v : Json) (step : String) : Option Json :=
  match v with
  | .obj fields => Fields.get? step fields
  | .arr items => (index? step).bind fun i => items[i]?
  | _ => none

/-- The value at the end of some steps. -/
def at? (v : Json) : List String → Option Json
  | [] => some v
  | s :: rest => (v.step? s).bind fun w => at? w rest

/-- The value a path names. -/
def atPath? (v : Json) (path : String) : Option Json := (pathSteps? path).bind v.at?

@[simp] theorem at?_nil (v : Json) : v.at? [] = some v := rfl
@[simp] theorem at?_cons (v : Json) (s : String) (rest : List String) :
    v.at? (s :: rest) = (v.step? s).bind fun w => at? w rest := rfl

end SchemaRest.Json
