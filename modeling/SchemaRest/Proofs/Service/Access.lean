import SchemaRest.Proofs.Policy.Decision
import SchemaRest.Proofs.Service.Passes
import SchemaRest.Proofs.Service.TableEffects
import SchemaRest.Service.Serve

/-!
# No effect without permission

What a dispatched request can do in any world that passes of registration lead to. The registry holds
endpoints of two kinds only, so the permission of an endpoint is known from its table; one decision
about that permission comes before anything else, and the handlers of a table stay with their table.
-/

namespace SchemaRest.Service

open Effect

/-! ## Endpoints that resolve -/

theorem permission_of_made {P : String → Prop} {e : Endpoint} (h : e.Made P) :
    (∀ t, e.table = some t → e.permission = t ++ ":" ++ e.handler.action) ∧
      (e.table = none → e.permission = "*:*") := by
  cases h with
  | table t h ht hh =>
    refine ⟨fun t' ht' => ?_, fun hnone => ?_⟩
    · cases ht'
      exact Handler.permission_of_tableScoped hh t
    · cases hnone
  | administrative h hh =>
    refine ⟨fun t ht => ?_, fun _ => rfl⟩
    cases ht

/-! ## Handlers -/

theorem sends_run_table {P : String → Prop} {e : Endpoint} (he : e.Made P) {t : String}
    (ht : e.table = some t) (settings : Settings) (c : Call) :
    (run settings e c).Sends (NamesOnly t) := by
  cases he with
  | administrative h hh => cases ht
  | table t' h ht' hh =>
    cases ht
    cases h with
    | list => exact sends_list c
    | getOne => exact sends_getOne c
    | update => exact sends_update c
    | delete => exact sends_delete c
    | create => exact sends_create c
    | query => exact sends_query c
    | listTables | getTable | refresh | rawQuery | createTable => exact absurd hh (by decide)

theorem sends_reported_any {α : Type} (h : Handler) {P : Sent → Prop} {m : Effect DatabaseError α}
    (hm : m.Sends P) : (reported h m).Sends AnyStatement :=
  (hm.mapFailure _).mono fun _ _ => trivial

theorem sends_createsWithoutWarning (sql : String) :
    (Database.createsWithoutWarning sql).Sends AnyStatement := by
  unfold Database.createsWithoutWarning
  refine .bind ((sends_send _).mono fun _ _ => trivial) fun replies => ?_
  refine .bind (.ofExcept _) fun outcome => ?_
  refine .bind ((Database.sends_firstRow _).mono fun _ _ => trivial) fun r => ?_
  exact .bind (.ofExcept _) fun n => .pure _

theorem sends_createTable (c : Call) : (createTable c).Sends AnyStatement := by
  unfold createTable
  refine .bind (.ofExcept _) fun spec => ?_
  refine .bind (sends_reported_any _ (sends_createsWithoutWarning _)) fun created => ?_
  split
  · exact .pure _
  · exact .fail _

theorem sends_rawQuery (c : Call) : (rawQuery c).Sends AnyStatement := by
  unfold rawQuery
  refine .bind (.ofExcept _) fun sql => ?_
  exact .bind (sends_reported_any _ (Database.sends_fetchText sql)) fun rows => .pure _

/-- All handlers but one do nothing but send statements. -/
theorem sends_run (settings : Settings) {e : Endpoint} (he : e.handler ≠ .refresh) (c : Call) :
    (run settings e c).Sends AnyStatement := by
  unfold run
  split
  case h_9 h => exact absurd h he
  case h_1 => exact (sends_list c).mono fun _ _ => trivial
  case h_2 => exact (sends_getOne c).mono fun _ _ => trivial
  case h_3 => exact (sends_create c).mono fun _ _ => trivial
  case h_4 => exact (sends_update c).mono fun _ _ => trivial
  case h_5 => exact (sends_delete c).mono fun _ _ => trivial
  case h_6 => exact (sends_query c).mono fun _ _ => trivial
  case h_7 => exact .bind (sends_listTables _) fun tables => .pure _
  case h_8 => exact .bind (sends_getFullTable _ _) fun full => .pure _
  case h_10 => exact sends_rawQuery c
  case h_11 => exact sends_createTable c

/-- What refreshing leaves behind is what the pass leaves behind. -/
theorem run_refresh (settings : Settings) {e : Endpoint} (he : e.handler = .refresh) (c : Call)
    (w : World) : (run settings e c w).2 = (registerAll settings w).2 := by
  unfold run
  rw [he]
  change (refresh settings w).2 = _
  rw [refresh, bind_apply]
  cases registerAll settings w with
  | mk r w' => cases r <;> rfl

/-- No handler asks the access service. -/
theorem run_policy (settings : Settings) (e : Endpoint) (c : Call) (w : World) :
    (run settings e c w).2.policy = w.policy ∧ (run settings e c w).2.asked = w.asked := by
  by_cases he : e.handler = .refresh
  · rw [run_refresh settings he]
    exact registerAll_policy settings w
  · have h := sends_run settings he c w
    exact ⟨h.policy, h.asked⟩

/-! ## The order of a request -/

theorem dispatch_apply (settings : Settings) (method pattern : String) (c : Call) (w : World) :
    dispatch settings method pattern c w = match w.registry.resolve? method pattern with
      | none => (.error (.notFound (method ++ " " ++ pattern)), w)
      | some d => match Policy.allowed settings.security c.context d.permission w with
        | (.ok true, w') => run settings d c w'
        | (.ok false, w') => (.error (.authorizationDenied d.permission), w')
        | (.error e, w') => (.error e, w') := by
  rw [dispatch, bind_apply]
  change (match w.registry.resolve? method pattern with
    | none => Effect.fail (.notFound (method ++ " " ++ pattern))
    | some d => _ : Effect Failure Response) w = _
  cases w.registry.resolve? method pattern with
  | none => rfl
  | some d =>
    dsimp only
    rw [bind_apply, Policy.authorize, bind_apply]
    cases Policy.allowed settings.security c.context d.permission w with
    | mk r w' =>
      cases r with
      | error e => rfl
      | ok b => cases b <;> rfl

/-! ## Every request is guarded -/

section

variable (settings : Settings) (method pattern : String) (c : Call) (w : World)

/-- The decision about an endpoint. -/
def decision (d : Endpoint) : Except Failure Bool × World :=
  Policy.allowed settings.security c.context d.permission w

/-- A request ends in a failure of its own, whatever its body, its parameter and the database are, and
only the access service has noticed. -/
def TurnedAway (d : Endpoint) (status code : Nat) : Prop :=
  ∃ e : Failure, e.status = status ∧ e.code = code ∧ ∀ param body database,
    dispatch settings method pattern ⟨c.context, param, body⟩ { w with database } =
      (.error e, { (w.withService (decision settings c w d).2) with database })

/-- Something besides the access service is not as it was. -/
def Affected (w' : World) : Prop :=
  w'.sent ≠ w.sent ∨ w'.database ≠ w.database ∨ w'.registry ≠ w.registry ∨
    w'.catalog ≠ w.catalog ∨ w'.registration ≠ w.registration

structure Guarded : Prop where
  /-- Without an endpoint nobody is asked and nothing happens. -/
  unknown : w.registry.resolve? method pattern = none →
    dispatch settings method pattern c w = (.error (.notFound (method ++ " " ++ pattern)), w)
  /-- The service is asked about the permission of the endpoint, and nothing else. -/
  asked : ∀ d, w.registry.resolve? method pattern = some d →
    (dispatch settings method pattern c w).2.asked = w.asked ++ Policy.heard w.policy
      (Policy.question? settings.security c.context d.permission w.random)
  denied : ∀ d, w.registry.resolve? method pattern = some d →
    (decision settings c w d).1 = .ok false → TurnedAway settings method pattern c w d 401 400801
  undecided : ∀ d e, w.registry.resolve? method pattern = some d →
    (decision settings c w d).1 = .error e → TurnedAway settings method pattern c w d 500 500801
  /-- An effect is one of the handler, run in the world that an allowing decision left. -/
  allowed : Affected w (dispatch settings method pattern c w).2 →
    ∃ d, w.registry.resolve? method pattern = some d ∧
      decision settings c w d = (.ok true, w.withService (decision settings c w d).2) ∧
      dispatch settings method pattern c w = run settings d c (decision settings c w d).2
  /-- The permission and the statements of an endpoint of a table are about that table. -/
  table : ∀ d t, w.registry.resolve? method pattern = some d → d.table = some t →
    d.permission = t ++ ":" ++ d.handler.action ∧
      ∃ more, (dispatch settings method pattern c w).2.sent = w.sent ++ more ∧
        ∀ s ∈ more, NamesOnly t s
  administrative : ∀ d, w.registry.resolve? method pattern = some d → d.table = none →
    d.permission = "*:*"

end

theorem withService_decision (settings : Settings) (c : Call) (w : World) (d : Endpoint) :
    (decision settings c w d).2 = w.withService (decision settings c w d).2 := by
  have h := Policy.inquires_allowed settings.security c.context d.permission w w (.refl w)
  exact congrArg Prod.snd h

variable {settings : Settings} {method pattern : String} {c : Call} {w : World} {d : Endpoint}

theorem asked_dispatch (hd : w.registry.resolve? method pattern = some d) :
    (dispatch settings method pattern c w).2.asked = w.asked ++ Policy.heard w.policy
      (Policy.question? settings.security c.context d.permission w.random) := by
  have hasked := Policy.asked_allowed settings.security c.context d.permission w
  rw [dispatch_apply, hd]
  dsimp only
  split
  · next w' h =>
    rw [h] at hasked
    rw [(run_policy settings d c w').2]
    exact hasked
  · next w' h =>
    rw [h] at hasked
    exact hasked
  · next e w' h =>
    rw [h] at hasked
    exact hasked

/-- A request that is not allowed ends where the decision left it, and the decision looks at nothing
that the request or the database could have changed. -/
theorem turnedAway_of_decision {e : Failure} (hd : w.registry.resolve? method pattern = some d)
    (h : (decision settings c w d).1 = .ok false ∧ e = .authorizationDenied d.permission ∨
      (decision settings c w d).1 = .error e) :
    TurnedAway settings method pattern c w d e.status e.code := by
  refine ⟨e, rfl, rfl, fun param body database => ?_⟩
  have hsame : w.SameService { w with database } := ⟨rfl, rfl, rfl⟩
  have hdecision := Policy.inquires_allowed settings.security c.context d.permission _ _ hsame
  have hresolve : ({ w with database } : World).registry.resolve? method pattern = some d := hd
  rw [dispatch_apply, hresolve]
  dsimp only
  rw [hdecision]
  rcases h with ⟨hdenied, rfl⟩ | hfailed
  · rw [decision] at hdenied
    rw [hdenied]
    rfl
  · rw [decision] at hfailed
    rw [hfailed]
    rfl

/-- Statements are sent by the handler only, and the handler of a table names that table. -/
theorem sent_of_table {P : String → Prop} (hd : w.registry.resolve? method pattern = some d)
    (hmade : d.Made P) {t : String} (ht : d.table = some t) :
    ∃ more, (dispatch settings method pattern c w).2.sent = w.sent ++ more ∧
      ∀ s ∈ more, NamesOnly t s := by
  have hservice := withService_decision settings c w d
  have hsent : (decision settings c w d).2.sent = w.sent := by rw [hservice]; rfl
  rw [decision] at hsent
  rw [dispatch_apply, hd]
  dsimp only
  split
  · next w' h =>
    rw [h] at hsent
    rw [← hsent]
    exact (sends_run_table hmade ht settings c w').sent
  · next w' h =>
    rw [h] at hsent
    exact ⟨[], by simpa using hsent, by simp⟩
  · next e w' h =>
    rw [h] at hsent
    exact ⟨[], by simpa using hsent, by simp⟩

theorem allowed_of_affected (h : Affected w (dispatch settings method pattern c w).2) :
    ∃ d, w.registry.resolve? method pattern = some d ∧
      decision settings c w d = (.ok true, w.withService (decision settings c w d).2) ∧
      dispatch settings method pattern c w = run settings d c (decision settings c w d).2 := by
  rw [dispatch_apply] at h
  rw [dispatch_apply]
  cases hd : w.registry.resolve? method pattern with
  | none =>
    rw [hd] at h
    simp [Affected] at h
  | some d =>
    have hservice := withService_decision settings c w d
    refine ⟨d, rfl, ?_⟩
    rw [hd] at h
    dsimp only at h ⊢
    cases hdecision : decision settings c w d with
    | mk r w' =>
      rw [hdecision] at hservice
      rw [decision] at hdecision
      rw [hdecision] at h ⊢
      cases r with
      | error e =>
        rw [hservice] at h
        simp [Affected, World.withService] at h
      | ok b =>
        cases b with
        | false =>
          rw [hservice] at h
          simp [Affected, World.withService] at h
        | true => exact ⟨congrArg (Prod.mk _) hservice, rfl⟩

/-- Whatever passes of registration have filled the registry, a request has an effect only through
the handler of an endpoint, after one decision that allowed its permission. -/
theorem guarded_of_reached (settings : Settings) (method pattern : String) (c : Call) {w : World}
    (hw : Reached (fun _ => True) w) : Guarded settings method pattern c w where
  unknown hnone := by rw [dispatch_apply, hnone]
  asked d hd := asked_dispatch hd
  denied d hd hdenied := turnedAway_of_decision (e := .authorizationDenied d.permission) hd
    (.inl ⟨hdenied, rfl⟩)
  undecided d e hd hfailed := by
    obtain ⟨text, rfl⟩ := Policy.error_of_allowed hfailed
    exact turnedAway_of_decision hd (.inr hfailed)
  allowed h := allowed_of_affected h
  table d t hd ht := by
    have hmade := hw.made d (Registry.mem_of_resolve? hd)
    exact ⟨(permission_of_made hmade).1 t ht, sent_of_table hd hmade ht⟩
  administrative d hd hnone :=
    (permission_of_made (hw.made d (Registry.mem_of_resolve? hd))).2 hnone

/-- Settings under which everyone has access. -/
def openSettings : Settings where
  port := 3000
  databaseUrl := "mysql://localhost/shop"
  client := .mysql
  database := "shop"
  maxConnections := 1
  hideSystemTables := false
  systemTableStart := ""
  apiRoot := "/api"
  contact := ⟨"", "", ""⟩
  security := .disabled
  visible := []

/-- A service after a pass over a catalog of one table. -/
def usersOnly : World :=
  (registerSnapshot ⟨[⟨"users", none, "shop"⟩], [("users", [])]⟩ (.initial "" "")).2

theorem guarded_usersOnly : Reached (fun _ => True) usersOnly ∧
    usersOnly.registry.resolve? "GET" "/users" = some (.ofTable "users" .list) ∧
    Guarded openSettings "GET" "/users" ⟨⟨"GET", "/users", [], []⟩, "", .empty⟩ usersOnly := by
  have hreached : Reached (fun _ => True) usersOnly := .given _ (.initial "" "") fun _ _ => trivial
  exact ⟨hreached, by decide, guarded_of_reached openSettings "GET" "/users" _ hreached⟩

end SchemaRest.Service
