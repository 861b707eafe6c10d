import SchemaRest.Service.World

/-!
# Decisions about access

Before a handler runs, its permission is asked for. Access is given only by a definite answer:
without security always, with a token when the service says `isAllowed`, with a delegated policy
when the named part of the answer is the expected value. All else is a denial or a failure.
-/

namespace SchemaRest.Policy

/-- The answer of a service, if it can be read. -/
def answer (r : Request) (reply : Nat × String) : Except Problem Json :=
  if 400 ≤ reply.1 && reply.1 < 600 then .error (.badStatus reply.1 r.url)
  else match Json.read? reply.2 with
    | some v => .ok v
    | none => .error .notJson

/-- Whether an answer about a token gives access. -/
def tokenAllowed (v : Json) : Bool :=
  match v.at? ["content", "isAllowed"] with
  | some (.bool b) => b
  | _ => false

/-- Whether an answer passes the test of a delegated policy. -/
def testPassed (t : AnswerTest) (v : Json) : Bool :=
  match v.atPath? t.path with
  | some found => found.same t.value
  | none => false

def consult (r : Except Problem Request) : Effect Problem Json := do
  let r ← Effect.ofExcept r
  let reply ← ask r
  Effect.ofExcept (answer r reply)

/-- Reports a problem as a failure of the service that was asked. -/
def blamed (what : String) (p : Problem) : Failure :=
  .authorizationService (what ++ " failed: " ++ p.message)

/-- Whether the caller may do what a permission names. -/
def allowed (security : Security) (c : Context) (permission : String) : Effect Failure Bool :=
  match security with
  | .disabled => pure true
  | .bearer endpoint appIdentifier =>
    match c.bearerToken? with
    | none => pure false
    | some token => do
      let v ← (consult (ofToken endpoint appIdentifier token permission)).mapFailure
        (blamed "token validation")
      pure (tokenAllowed v)
  | .delegated d => do
    let random ← Effect.look (·.random)
    let v ← (consult (ofTemplate d (c.templateData permission random))).mapFailure
      (blamed "delegated validation")
    pure (testPassed d.test v)

def authorize (security : Security) (c : Context) (permission : String) : Effect Failure Unit := do
  if ← allowed security c permission then pure ()
  else Effect.fail (.authorizationDenied permission)

end SchemaRest.Policy
