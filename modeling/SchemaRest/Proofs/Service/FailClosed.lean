import Mathlib
import SchemaRest.Proofs.Policy.Answers
import SchemaRest.Proofs.Service.Routing

/-!
# Access by definite answers only

Under settings that can be served, a policy gives access if and only if it was answered in the one way that
gives it. Without a token nobody is asked; every other answer that is a value denies, and all else is a
failure of the access service. One question is asked at most, and the body of a request has no part in it.
-/

namespace SchemaRest.Service

open Policy

/-! ## Questions and bodies -/

section

variable (settings : Settings) (r : Request) (w : World)

/-- A body can be too long for its route, and decides nothing else. -/
theorem entered?_of_body {body : ByteArray} {route : Route}
    (h : entered? settings { r with body } = some route) :
    entered? settings { r with body := .empty } = some route := by
  obtain ⟨hshort, hmethod, place, hplace, htakes, hdecoded, -⟩ := entered?_eq_some_iff.mp h
  exact entered?_eq_some_iff.mpr
    ⟨hshort, hmethod, place, hplace, htakes, hdecoded, fun _ => Nat.zero_le _⟩

/-- What a request to a route asks, if its body is not too long. -/
def questions (route : Route) : List Policy.Request :=
  match route.pattern?.bind (w.registry.resolve? r.method) with
  | none => []
  | some e => heard w.policy
      (question? settings.security (contextOf settings.apiRoot r) e.permission w.random)

theorem length_questions (route : Route) : (questions settings r w route).length ≤ 1 := by
  unfold questions
  split
  · exact Nat.zero_le 1
  · cases w.policy with
    | unreachable => exact Nat.zero_le 1
    | replying replies =>
      dsimp only [heard]
      cases question? settings.security (contextOf settings.apiRoot r) _ w.random <;> simp

theorem asked_follow (route : Route) :
    (follow settings r route w).2.asked = w.asked ++ questions settings r w route := by
  unfold questions
  cases hpattern : route.pattern? with
  | none =>
    rw [Option.bind_none, List.append_nil]
    exact (follow_of_no_pattern settings r w hpattern).asked
  | some pattern =>
    rw [follow_of_pattern settings r hpattern, answered_snd, Option.bind_some]
    cases hresolve : w.registry.resolve? r.method pattern with
    | none =>
      rw [dispatch_apply, hresolve, List.append_nil]
    | some e => exact asked_dispatch hresolve

/-- A request leads to one question at most, the same whatever its body is. -/
theorem asked_serve : ∃ asks : List Policy.Request, asks.length ≤ 1 ∧
    ∀ body, (serve settings { r with body } w).2.asked = w.asked ∨
      (serve settings { r with body } w).2.asked = w.asked ++ asks := by
  have hnone : ∀ body, entered? settings { r with body } = none →
      (serve settings { r with body } w).2.asked = w.asked := by
    intro body h
    rw [serve_apply, h]
  cases hroute : entered? settings { r with body := .empty } with
  | none =>
    refine ⟨[], Nat.zero_le 1, fun body => .inl (hnone body ?_)⟩
    refine Option.eq_none_iff_forall_ne_some.mpr fun route h => ?_
    rw [entered?_of_body settings r h] at hroute
    cases hroute
  | some route =>
    refine ⟨questions settings r w route, length_questions settings r w route, fun body => ?_⟩
    cases hentered : entered? settings { r with body } with
    | none => exact .inl (hnone body hentered)
    | some route' =>
      obtain rfl : route = route' :=
        Option.some.inj (hroute.symm.trans (entered?_of_body settings r hentered))
      right
      rw [serve_apply, hentered]
      exact asked_follow settings { r with body } w route

end

/-! ## Settings that can be served -/

theorem checkSecurity_of_check {settings : Settings} (h : settings.check = .ok ()) :
    Settings.checkSecurity settings.security = .ok () := by
  unfold Settings.check at h
  dsimp only at h
  split at h
  · cases h
  split at h
  · cases h
  split at h
  · cases h
  cases hsecurity : Settings.checkSecurity settings.security with
  | ok u => rfl
  | error e =>
    rw [hsecurity] at h
    cases h

/-- What decides about access is a path. -/
theorem pathSteps?_of_check {settings : Settings} (h : settings.check = .ok ()) {d : Delegation}
    (hd : settings.security = .delegated d) : ∃ steps, Json.pathSteps? d.test.path = some steps := by
  have hsecurity := checkSecurity_of_check h
  rw [hd, Settings.checkSecurity] at hsecurity
  split at hsecurity
  · cases hsecurity
  split at hsecurity
  · cases hsecurity
  next hpath =>
    have hstarts : Text.startsWith "$." d.test.path = true := by simpa using hpath
    have hsteps : Json.pathSteps? d.test.path ≠ none := by
      rw [Json.pathSteps?, ne_eq, Option.map_eq_none_iff, Text.after?_eq_none_iff]
      simp [hstarts]
    exact Option.ne_none_iff_exists'.mp hsteps

/-! ## Every decision -/

/-- Access is given by definite answers only. An answer counts as the value that its text says: in it an
object with the mark of embedded texts over a JSON text is the value of that text. -/
structure FailsClosed (settings : Settings) (w : World) : Prop where
  /-- Without a token access is denied, and nobody is asked. -/
  withoutToken : ∀ endpoint appIdentifier c permission,
    settings.security = .bearer endpoint appIdentifier → (∀ token, ¬c.Carries token) →
      allowed settings.security c permission w = (.ok false, w)
  /-- With a token it is given by the word of the endpoint that the token, the permission and the name of
  the application were posted to. -/
  withToken : ∀ endpoint appIdentifier c permission token,
    settings.security = .bearer endpoint appIdentifier → c.Carries token →
      RestsOn (Posts endpoint [] (tokenBody appIdentifier token permission)) SaysAllowed w
        (allowed settings.security c permission w)
  /-- A delegated policy goes by the value that its path leads to. -/
  delegated : ∀ d c permission, settings.security = .delegated d →
    ∃ steps, Json.pathSteps? d.test.path = some steps ∧
      let data := c.templateData permission w.random
      RestsOn (Posts (d.baseUrl ++ d.endpoint) (fillHeaders d.template.headers data)
        (fillBody d.template.body data)) (Finds steps d.test.value) w
        (allowed settings.security c permission w)
  /-- What is neither given nor denied is a failure of the access service. -/
  failure : ∀ c permission e, (allowed settings.security c permission w).1 = .error e →
    ∃ text, e = .authorizationService text
  /-- One question is asked at most. -/
  once : ∀ c permission, (allowed settings.security c permission w).2 = w ∨
    ∃ q, (allowed settings.security c permission w).2 = (ask q w).2
  /-- A question does not depend on the body of the request. -/
  bodyless : ∀ r : Request, ∃ asks : List Policy.Request, asks.length ≤ 1 ∧
    ∀ body, (serve settings { r with body } w).2.asked = w.asked ∨
      (serve settings { r with body } w).2.asked = w.asked ++ asks

theorem failsClosed_of_check {settings : Settings} (h : settings.check = .ok ()) (w : World) :
    FailsClosed settings w where
  withoutToken endpoint appIdentifier c permission hsecurity htoken := by
    rw [hsecurity]
    exact allowed_of_no_token permission w endpoint appIdentifier htoken
  withToken endpoint appIdentifier c permission token hsecurity htoken := by
    rw [hsecurity]
    exact restsOn_token permission w endpoint appIdentifier htoken
  delegated d c permission hsecurity := by
    obtain ⟨steps, hsteps⟩ := pathSteps?_of_check h hsecurity
    refine ⟨steps, hsteps, ?_⟩
    rw [hsecurity]
    exact restsOn_template permission w hsteps
  failure c permission e he := error_of_allowed he
  once c permission := allowed_snd permission w settings.security c
  bodyless r := asked_serve settings r w

/-- Settings under which the word of an endpoint counts. -/
def tokenSettings : Settings :=
  { openSettings with security := .bearer "http://[::1]/v" "app" }

/-- An endpoint whose next answer gives access. -/
def approving : Link PolicyReply :=
  .replying [some (200, "\x7b\"content\":\x7b\"isAllowed\":true\x7d\x7d")]

def allowing : World := { usersOnly with policy := approving }

/-- The caller's request, and what is asked about it. -/
def caller : Context := ⟨"GET", "/users", [("authorization", "Bearer t")], []⟩

def callerCheck : Policy.Request :=
  ⟨"http://[::1]/v", [contentType], tokenBody "app" "t" "users:select"⟩

theorem failsClosed_allowing : tokenSettings.check = .ok () ∧ FailsClosed tokenSettings allowing ∧
    (allowed tokenSettings.security caller "users:select" allowing).1 = .ok true := by
  have hcheck : tokenSettings.check = .ok () := rfl
  have hclosed := failsClosed_of_check hcheck allowing
  have htoken : caller.Carries "t" := Context.bearerToken?_eq_some_iff.mp (by decide +kernel)
  have hposts : Posts "http://[::1]/v" [] (tokenBody "app" "t" "users:select") callerCheck :=
    ⟨⟨⟨"http", none, some "[::1]", none, .steps ["v"], none, none⟩, by decide +kernel, by decide +kernel,
      by decide +kernel, by decide +kernel⟩, rfl, rfl, rfl⟩
  have hsaid : outcome approving = .said (.obj [("content", .obj [("isAllowed", .bool true)])]) := by
    cbv
  have htells := outcome_eq_said_iff.mp hsaid
  have hrests := hclosed.withToken "http://[::1]/v" "app" caller "users:select" "t" rfl htoken
  exact ⟨hcheck, hclosed, hrests.allowed_of_said (hclosed.failure caller "users:select") hposts htells
    ⟨_, _, rfl, rfl, rfl⟩⟩

end SchemaRest.Service
