import SchemaRest.Proofs.Json.Embedded
import SchemaRest.Proofs.Policy.Decision
import SchemaRest.Proofs.Text.Split

/-!
# Answers of access services

What comes of asking the access service, and what of it gives access. A question is answered with a value,
or it is refused, or nothing that can be read comes back. `RestsOn` says of a decision that it is made by
one answer alone: access is given and denied by answers that are values, and all else is a failure.

An answer is the value that its text says, with the values of embedded texts in their place.
-/

namespace SchemaRest

/-! ## Paths -/

namespace Json

/-- Steps lead from a value to one inside it, by the fields of objects and the items of arrays. -/
inductive Leads : Json → List String → Json → Prop
  | here (v : Json) : Leads v [] v
  | field {fields : Fields} {key : String} {v found : Json} {steps : List String}
      (h : Fields.get? key fields = some v) (rest : Leads v steps found) :
      Leads (.obj fields) (key :: steps) found
  | item {items : List Json} {step : String} {i : Nat} {v found : Json} {steps : List String}
      (hindex : index? step = some i) (h : items[i]? = some v) (rest : Leads v steps found) :
      Leads (.arr items) (step :: steps) found

theorem at?_eq_some_iff {v found : Json} {steps : List String} :
    v.at? steps = some found ↔ Leads v steps found := by
  induction steps generalizing v with
  | nil =>
    constructor
    · intro h
      cases h
      exact .here _
    · intro h
      cases h
      rfl
  | cons step steps ih =>
    rw [at?_cons, Option.bind_eq_some_iff]
    constructor
    · rintro ⟨next, hstep, hrest⟩
      cases v with
      | null | bool | num | str => cases hstep
      | obj fields => exact .field hstep (ih.mp hrest)
      | arr items =>
        obtain ⟨i, hindex, hitem⟩ := Option.bind_eq_some_iff.mp hstep
        exact .item hindex hitem (ih.mp hrest)
    · intro h
      cases h with
      | field h rest => exact ⟨_, h, ih.mpr rest⟩
      | item hindex h rest => exact ⟨_, Option.bind_eq_some_iff.mpr ⟨_, hindex, h⟩, ih.mpr rest⟩

end Json

/-! ## Tokens -/

/-- A request carries a token: its first `Authorization` header can be read and is the word Bearer in any
case, a blank, and the token between blanks. -/
structure Context.Carries (c : Context) (token : String) : Prop where
  given : token ≠ ""
  header : ∃ value scheme rest, Headers.first? c.headers "authorization" = some value ∧
    (Text.trim value).toList = scheme.toList ++ ' ' :: rest.toList ∧ ' ' ∉ scheme.toList ∧
    Text.eqIgnoreCase scheme "bearer" = true ∧ Text.trim rest = token

theorem Text.trimmed?_eq_some_iff {s t : String} : trimmed? s = some t ↔ trim s = t ∧ t ≠ "" := by
  unfold trimmed?
  dsimp only
  split
  · next h =>
    have hempty : trim s = "" := String.isEmpty_iff.mp h
    constructor
    · intro h
      cases h
    · rintro ⟨rfl, hne⟩
      exact absurd hempty hne
  · next h =>
    have hne : trim s ≠ "" := fun hempty => h (String.isEmpty_iff.mpr hempty)
    constructor
    · intro h
      cases h
      exact ⟨rfl, hne⟩
    · rintro ⟨rfl, -⟩
      rfl

theorem Context.bearerToken?_eq_some_iff {c : Context} {token : String} :
    c.bearerToken? = some token ↔ c.Carries token := by
  unfold bearerToken? header?
  simp only [Option.bind_eq_bind, Option.bind_eq_some_iff, Option.map_eq_some_iff, Prod.exists,
    Text.cut?_eq_some_iff, Text.trimmed?_eq_some_iff, Option.ite_none_right_eq_some]
  constructor
  · rintro ⟨_, ⟨value, hvalue, rfl⟩, scheme, rest, ⟨hcut, hscheme⟩, _, ⟨rfl, hgiven⟩, hbearer, htoken⟩
    cases htoken
    exact ⟨hgiven, value, scheme, rest, hvalue, hcut, hscheme, hbearer, rfl⟩
  · rintro ⟨hgiven, value, scheme, rest, hvalue, hcut, hscheme, hbearer, rfl⟩
    exact ⟨_, ⟨value, hvalue, rfl⟩, scheme, rest, ⟨hcut, hscheme⟩, _, ⟨rfl, hgiven⟩, hbearer, rfl⟩

namespace Policy

/-! ## Questions -/

/-- A question is posted to a readable address that requests can be made of, with its own headers after
the content type. -/
structure Posts (url : String) (headers : List (String × String)) (body : Json) (q : Request) : Prop where
  address : ∃ a, Address.read? url = some a ∧ a.hasHost = true ∧ a.isRequestable = true ∧ q.url = a.text
  readable : headers.all isHeader = true
  headers : q.headers = contentType :: headers.map fun p => (Text.lower p.1, p.2)
  body : q.body = body

theorem requestTo_eq_ok_iff {url : String} {headers : List (String × String)} {body : Json}
    {q : Request} : requestTo url headers body = .ok q ↔ Posts url headers body q := by
  unfold requestTo
  constructor
  · intro h
    split at h
    · cases h
    next a ha =>
      split at h
      · cases h
      next hhost =>
        split at h
        · cases h
        next hheaders =>
          split at h
          · cases h
          next hrequestable =>
            cases h
            exact ⟨⟨a, ha, by simpa using hhost, by simpa using hrequestable, rfl⟩, by simpa using hheaders,
              rfl, rfl⟩
  · rintro ⟨⟨a, ha, hhost, hrequestable, hurl⟩, hreadable, hheaders, hbody⟩
    have hq : q = ⟨a.text, contentType :: headers.map fun p => (Text.lower p.1, p.2), body⟩ := by
      rw [← hurl, ← hheaders, ← hbody]
    simp only [ha, hhost, hrequestable, hreadable, Bool.not_true, Bool.false_eq_true, if_false, hq]

/-! ## What comes of a question -/

inductive Outcome where
  | noAnswer
  /-- An answer with a status that is an error. -/
  | refused (status : Nat)
  /-- An answer that is not JSON. -/
  | unreadable
  | said (v : Json)

/-- What comes of the next question. -/
def outcome : Link PolicyReply → Outcome
  | .unreachable | .replying (none :: _) => .noAnswer
  | .replying [] => .refused 500
  | .replying (some (status, text) :: _) =>
    if 400 ≤ status ∧ status < 600 then .refused status
    else match Json.read? text with
      | some v => .said v
      | none => .unreadable

/-- A service whose next answer is a value: its status is no error, and its text is JSON that says the value,
embedded texts being the values that they say. -/
def Tells (service : Link PolicyReply) (v : Json) : Prop :=
  ∃ status text rest, service = .replying (some (status, text) :: rest) ∧ ¬(400 ≤ status ∧ status < 600) ∧
    Json.Says text v

theorem outcome_eq_said_iff {service : Link PolicyReply} {v : Json} :
    outcome service = .said v ↔ Tells service v := by
  constructor
  · intro h
    unfold outcome at h
    split at h
    · cases h
    · cases h
    · cases h
    · next status text rest =>
      split at h
      · cases h
      · next hstatus =>
        split at h
        · next u hread =>
          cases h
          exact ⟨status, text, rest, rfl, hstatus, Json.read?_eq_some_iff.mp hread⟩
        · cases h
  · rintro ⟨status, text, rest, rfl, hstatus, hsays⟩
    rw [outcome, if_neg hstatus, Json.read?_eq_some_iff.mpr hsays]

/-- What a question gives its asker. -/
def Outcome.result (url : String) : Outcome → Except Problem Json
  | noAnswer => .error (.noAnswer url)
  | refused status => .error (.badStatus status url)
  | unreadable => .error .notJson
  | said v => .ok v

theorem consult_ok (q : Request) (w : World) :
    consult (.ok q) w = ((outcome w.policy).result q.url, (ask q w).2) := by
  have hconsult : consult (.ok q) w = (ask q >>= fun reply => Effect.ofExcept (answer q reply)) w := rfl
  rw [hconsult, Effect.bind_apply]
  unfold ask outcome
  cases w.policy with
  | unreachable => rfl
  | replying replies =>
    match replies with
    | [] => rfl
    | none :: rest => rfl
    | some (status, text) :: rest =>
      dsimp only
      unfold Effect.ofExcept answer
      simp only [Bool.and_eq_true, decide_eq_true_eq]
      split
      · rfl
      · cases Json.read? text <;> rfl

theorem Tells.unique {service : Link PolicyReply} {u v : Json} (hu : Tells service u) (hv : Tells service v) :
    u = v :=
  Outcome.said.inj ((outcome_eq_said_iff.mpr hu).symm.trans (outcome_eq_said_iff.mpr hv))

/-! ## Decisions made by an answer -/

/-- A decision is made by what is told in answer to one question, which is asked. -/
structure RestsOn (asks : Request → Prop) (allows : Json → Prop) (w : World)
    (made : Except Failure Bool × World) : Prop where
  allowed : made.1 = .ok true ↔
    ∃ q v, asks q ∧ made.2.asked = w.asked ++ [q] ∧ Tells w.policy v ∧ allows v
  denied : made.1 = .ok false ↔
    ∃ q v, asks q ∧ made.2.asked = w.asked ++ [q] ∧ Tells w.policy v ∧ ¬allows v
  failed : (∃ text, made.1 = .error (.authorizationService text)) ↔
    (∀ q, ¬asks q) ∨ ∀ v, ¬Tells w.policy v

section

variable {asks : Request → Prop} {allows : Json → Prop} {w : World} {made : Except Failure Bool × World}

theorem RestsOn.of_failure {text : String} (hmade : made.1 = .error (.authorizationService text))
    (hnone : (∀ q, ¬asks q) ∨ ∀ v, ¬Tells w.policy v) : RestsOn asks allows w made := by
  have hno : ∀ q v, asks q → ¬Tells w.policy v := fun q v hq =>
    hnone.elim (fun h => absurd hq (h q)) fun h => h v
  refine ⟨?_, ?_, fun _ => hnone, fun _ => ⟨text, hmade⟩⟩ <;> rw [hmade]
  · exact ⟨nofun, fun ⟨q, v, hq, _, hv, _⟩ => absurd hv (hno q v hq)⟩
  · exact ⟨nofun, fun ⟨q, v, hq, _, hv, _⟩ => absurd hv (hno q v hq)⟩

theorem RestsOn.of_answer {q : Request} {v : Json} {b : Bool} (hq : asks q)
    (hasked : made.2.asked = w.asked ++ [q]) (hv : Tells w.policy v) (hmade : made.1 = .ok b)
    (hb : b = true ↔ allows v) : RestsOn asks allows w made := by
  have hsaid : ∀ {u}, Tells w.policy u → u = v := fun hu => hu.unique hv
  refine ⟨?_, ?_, ?_⟩ <;> rw [hmade]
  · constructor
    · intro h
      exact ⟨q, v, hq, hasked, hv, hb.mp (Except.ok.inj h)⟩
    · rintro ⟨-, u, -, -, hu, hallows⟩
      rw [hb.mpr (hsaid hu ▸ hallows)]
  · constructor
    · intro h
      exact ⟨q, v, hq, hasked, hv, fun hallows => Bool.eq_false_iff.mp (Except.ok.inj h) (hb.mpr hallows)⟩
    · rintro ⟨-, u, -, -, hu, hallows⟩
      rw [Bool.eq_false_iff.mpr fun h => hallows (hsaid hu ▸ hb.mp h)]
  · constructor
    · rintro ⟨text, h⟩
      cases h
    · rintro (hnone | hother)
      · exact absurd hq (hnone q)
      · exact absurd hv (hother v)

/-- An answer that gives access is enough, where what is neither given nor denied is a failure of the
service. -/
theorem RestsOn.allowed_of_said {q : Request} {v : Json} (h : RestsOn asks allows w made)
    (hfails : ∀ e, made.1 = .error e → ∃ text, e = .authorizationService text) (hq : asks q)
    (hv : Tells w.policy v) (hallows : allows v) : made.1 = .ok true := by
  match hmade : made.1 with
  | .error e =>
    obtain ⟨text, rfl⟩ := hfails e hmade
    rcases h.failed.mp ⟨text, hmade⟩ with hnone | hother
    · exact absurd hq (hnone q)
    · exact absurd hv (hother v)
  | .ok false =>
    obtain ⟨-, u, -, -, hu, hdenies⟩ := h.denied.mp hmade
    rw [hv.unique hu] at hallows
    exact absurd hallows hdenies
  | .ok true => rfl

end

/-- A test of an answer rests on it. -/
theorem restsOn_judged {asks : Request → Prop} {allows : Json → Prop} {r : Except Problem Request}
    {test : Json → Bool} (hasks : ∀ q, r = .ok q ↔ asks q) (htest : ∀ v, test v = true ↔ allows v)
    (what : String) (w : World) : RestsOn asks allows w (judged what r test w) := by
  cases r with
  | error p =>
    refine .of_failure rfl (.inl fun q hq => ?_)
    cases (hasks q).mpr hq
  | ok q =>
    have hasked := asked_consult (.ok q) w
    rw [consult_ok] at hasked
    rw [judged_apply, consult_ok]
    cases hv : outcome w.policy with
    | said v =>
      have htells := outcome_eq_said_iff.mp hv
      have ⟨status, text, rest, hreplies, _⟩ := htells
      rw [hreplies] at hasked
      exact .of_answer ((hasks q).mp rfl) hasked htells rfl (htest v)
    | noAnswer | refused | unreadable =>
      refine .of_failure rfl (.inr fun v htells => ?_)
      cases hv.symm.trans (outcome_eq_said_iff.mpr htells)

/-! ## Both kinds of policies -/

/-- An answer about a token that gives access. -/
def SaysAllowed (v : Json) : Prop :=
  ∃ fields content, v = .obj fields ∧ Fields.get? "content" fields = some (.obj content) ∧
    Fields.get? "isAllowed" content = some (.bool true)

theorem tokenAllowed_iff {v : Json} : tokenAllowed v = true ↔ SaysAllowed v := by
  have hindex : Json.index? "content" = none ∧ Json.index? "isAllowed" = none := by decide
  have hat : tokenAllowed v = true ↔ v.at? ["content", "isAllowed"] = some (.bool true) := by
    unfold tokenAllowed
    split
    · next b h => simp [h]
    · next h =>
      constructor
      · intro h
        cases h
      · intro heq
        exact absurd heq (h true)
  rw [hat, Json.at?_eq_some_iff]
  constructor
  · intro h
    cases h with
    | item hstep => rw [hindex.1] at hstep; cases hstep
    | @field fields _ content _ _ hcontent h =>
      cases h with
      | item hstep => rw [hindex.2] at hstep; cases hstep
      | field hallowed h =>
        cases h
        exact ⟨fields, _, rfl, hcontent, hallowed⟩
  · rintro ⟨fields, content, rfl, hcontent, hallowed⟩
    exact .field hcontent (.field hallowed (.here _))

/-- An answer that gives access under a delegated policy: steps lead to a value that is the expected one. -/
def Finds (steps : List String) (expected v : Json) : Prop :=
  ∃ found, v.Leads steps found ∧ found.same expected = true

theorem testPassed_iff {t : AnswerTest} {steps : List String} (hsteps : Json.pathSteps? t.path = some steps)
    {v : Json} : testPassed t v = true ↔ Finds steps t.value v := by
  have hpath : v.atPath? t.path = v.at? steps := by rw [Json.atPath?, hsteps, Option.bind_some]
  unfold testPassed Finds
  rw [hpath]
  constructor
  · intro h
    split at h
    · next found hfound => exact ⟨found, Json.at?_eq_some_iff.mp hfound, h⟩
    · cases h
  · rintro ⟨found, hfound, hsame⟩
    rw [Json.at?_eq_some_iff.mpr hfound]
    exact hsame

/-- What is posted about a token. -/
def tokenBody (appIdentifier token permission : String) : Json :=
  .ofFields [("token", .str token), ("permission", .str permission), ("appIdentifier", .str appIdentifier)]

section

variable {c : Context} (permission : String) (w : World)

theorem allowed_of_no_token (endpoint appIdentifier : String) (h : ∀ token, ¬c.Carries token) :
    allowed (.bearer endpoint appIdentifier) c permission w = (.ok false, w) := by
  have hnone : c.bearerToken? = none := Option.eq_none_iff_forall_ne_some.mpr fun token htoken =>
    h token (Context.bearerToken?_eq_some_iff.mp htoken)
  rw [allowed, hnone]
  rfl

theorem restsOn_token (endpoint appIdentifier : String) {token : String} (h : c.Carries token) :
    RestsOn (Posts endpoint [] (tokenBody appIdentifier token permission)) SaysAllowed w
      (allowed (.bearer endpoint appIdentifier) c permission w) := by
  rw [allowed, Context.bearerToken?_eq_some_iff.mpr h]
  exact restsOn_judged (fun _ => requestTo_eq_ok_iff) (fun _ => tokenAllowed_iff) "token validation" w

theorem restsOn_template {d : Delegation} {steps : List String}
    (hsteps : Json.pathSteps? d.test.path = some steps) :
    RestsOn (Posts (d.baseUrl ++ d.endpoint) (fillHeaders d.template.headers (c.templateData permission w.random))
        (fillBody d.template.body (c.templateData permission w.random))) (Finds steps d.test.value) w
      (allowed (.delegated d) c permission w) := by
  have hallowed : allowed (.delegated d) c permission w = judged "delegated validation"
      (ofTemplate d (c.templateData permission w.random)) (testPassed d.test) w := by
    unfold allowed
    dsimp only
    rw [Effect.bind_apply]
    rfl
  rw [hallowed]
  exact restsOn_judged (fun _ => requestTo_eq_ok_iff) (fun _ => testPassed_iff hsteps) _ w

/-- A decision asks one question at most, and does nothing else. -/
theorem allowed_snd (security : Security) (c : Context) :
    (allowed security c permission w).2 = w ∨
      ∃ q, (allowed security c permission w).2 = (ask q w).2 := by
  rcases allowed_cases security c permission w with ⟨b, -, h⟩ | ⟨what, r, test, -, h⟩
  · exact .inl (by rw [h])
  · rw [h, judged_apply]
    cases r with
    | error p => exact .inl rfl
    | ok q =>
      rw [consult_ok]
      cases (outcome w.policy).result q.url <;> exact .inr ⟨q, rfl⟩

end

end Policy

end SchemaRest
