import SchemaRest.Proofs.Catalog.Reading
import SchemaRest.Proofs.Service.Access
import SchemaRest.Proofs.Service.History

/-!
# Passes that fail

A pass fails because the engine is not supported, or because a statement of its reading fails. Either
way it stops there and leaves registry and catalog alone. The registration it goes back to is worked
out from the registry and not remembered, so it takes the whole history to see that it is the right one.
-/

namespace SchemaRest.Service

/-- The ways a pass fails: what with, and which statements it has issued by then. -/
inductive Fails (settings : Settings) (w : World) : Failure → List Sent → Prop
  | unsupported {e : Failure} (h : settings.client.ensureSupported = .error e) : Fails settings w e []
  | stopped {done : List Catalog.Query} {q : Catalog.Query} {d : DatabaseError} {w₁ : World}
      (h : settings.client.ensureSupported = .ok ())
      (hstops : Catalog.Stops (.ofSettings settings) (registering w) done q d w₁) :
      Fails settings w (.introspection q.during d)
        ((done ++ [q]).map (·.sent (.ofSettings settings)))

variable {ss : List Catalog.Snapshot} {settings : Settings} {w w' : World} {e : Failure}
  {issued : List Sent}

theorem fails_of_registerAll (h : registerAll settings w = (.error e, w')) :
    ∃ issued, Fails settings w e issued := by
  rcases (registerAll_error_iff settings).mp h with ⟨hclient, -⟩ | ⟨hclient, w₁, hread, -⟩
  · exact ⟨[], .unsupported hclient⟩
  · obtain ⟨done, q, d, hstops, rfl⟩ := Catalog.readSnapshot_error_iff.mp hread
    exact ⟨_, .stopped hclient hstops⟩

/-- What is as it was after a pass that failed, and what was sent to the database. -/
structure Undone (issued : List Sent) (w w' : World) : Prop where
  sent : w'.sent = w.sent ++ w.recorded issued
  registry : w'.registry = w.registry
  catalog : w'.catalog = w.catalog

theorem Fails.registerAll (h : Fails settings w e issued) :
    ∃ w', registerAll settings w = (.error e, w') ∧ Undone issued w w' := by
  cases h with
  | unsupported hclient =>
    refine ⟨w, (registerAll_error_iff settings).mpr (.inl ⟨hclient, rfl⟩), ?_, rfl, rfl⟩
    exact (World.Issues.refl w).sent
  | @stopped done q d w₁ hclient hstops =>
    have hread : Catalog.readSnapshot (.ofSettings settings) (registering w) =
        (.error (.introspection q.during d), w₁) :=
      Catalog.readSnapshot_error_iff.mpr ⟨done, q, d, hstops, rfl⟩
    have hsends := sends_readSnapshot (.ofSettings settings) (registering w)
    rw [hread] at hsends
    exact ⟨_, (registerAll_error_iff settings).mpr (.inr ⟨hclient, w₁, hread, rfl⟩),
      hstops.issues.sent, hsends.registry, hsends.catalog⟩

/-- Between two passes the registration says whether anything is registered. -/
theorem Passed.registered_iff (h : Passed ss w) :
    w.registration ≠ .registering ∧ (w.registration = .registered ↔ w.registry.isEmpty = false) := by
  rw [h.registration, h.isEmpty_registry]
  cases ss.isEmpty <;> decide

/-- A pass continues a history, whether it fails or not. -/
theorem Passed.registerAll (h : Passed ss w) (settings : Settings) :
    ∃ ss', Passed ss' (registerAll settings w).2 := by
  cases hpass : Service.registerAll settings w with
  | mk r w' =>
    cases r with
    | error e => exact ⟨ss, .failed settings h hpass⟩
    | ok report =>
      obtain ⟨-, s, w₁, hread, -⟩ := (registerAll_ok_iff settings).mp hpass
      exact ⟨ss ++ [s], .read settings h hread hpass⟩

/-- After any history a pass fails in one of the ways it can fail, with the failure that goes with
it, issues nothing after what failed, and keeps what was registered and read before; and the
registration it leaves says whether anything is registered. -/
theorem registerAll_atomic (h : Passed ss w) (settings : Settings) :
    (∀ e, (registerAll settings w).1 = .error e ↔ ∃ issued, Fails settings w e issued) ∧
    (∀ e issued, Fails settings w e issued → Undone issued w (registerAll settings w).2) ∧
    (registerAll settings w).2.registration ≠ .registering ∧
    ((registerAll settings w).2.registration = .registered ↔
      (registerAll settings w).2.registry.isEmpty = false) := by
  refine ⟨fun e => ⟨fun herror => ?_, ?_⟩, fun e issued hfails => ?_, ?_⟩
  · exact fails_of_registerAll (Prod.ext herror rfl)
  · rintro ⟨issued, hfails⟩
    obtain ⟨w', hpass, -⟩ := hfails.registerAll
    rw [hpass]
  · obtain ⟨w', hpass, hundone⟩ := hfails.registerAll
    rw [hpass]
    exact hundone
  · obtain ⟨ss', hpassed⟩ := h.registerAll settings
    exact hpassed.registered_iff

/-- The service of `usersOnly`, whose database goes away after the columns of the only table. -/
def usersLost : World :=
  let text (name : String) : ColumnType := ⟨name, "VARCHAR", false⟩
  let users : List Cell := [some [117, 115, 101, 114, 115], none, some [115, 104, 111, 112]]
  { usersOnly with database := .replying [
      [.rows [text "table_name", text "table_comment", text "table_schema"] [users]],
      [.rows [] []],
      [.failed 2006 "HY000" "server has gone away"]] }

theorem registerAll_atomic_usersLost :
    let gone := DatabaseError.server 2006 "HY000" "server has gone away"
    let issued : List Sent := [
      Catalog.listingSent ⟨"shop", none⟩,
      .prepared Catalog.columnsSql [.text "shop", .text "users"],
      .prepared Catalog.relationsSql [.text "shop", .text "users"]]
    (registerAll openSettings usersLost).1 = .error (.introspection "get_columns" gone) ∧
      Undone issued usersLost (registerAll openSettings usersLost).2 ∧
      (registerAll openSettings usersLost).2.registration = .registered := by
  intro gone issued
  have hpassed : Passed [⟨[⟨"users", none, "shop"⟩], [("users", [])]⟩] usersLost :=
    .meanwhile (.given _ (.initial "" "")) rfl rfl rfl
  have hstops : Catalog.Stops (.ofSettings openSettings) (registering usersLost)
      [.tables, .columns "users"] (.relations "users") gone
      { registering usersLost with database := .replying [], sent := issued } :=
    ⟨⟨[], rfl⟩, _, rfl, rfl⟩
  have hfails : Fails openSettings usersLost (.introspection "get_columns" gone) issued :=
    .stopped rfl hstops
  obtain ⟨hfailure, hundone, -, hregistered⟩ := registerAll_atomic hpassed openSettings
  refine ⟨(hfailure _).mpr ⟨issued, hfails⟩, hundone _ issued hfails, ?_⟩
  rw [hregistered, (hundone _ issued hfails).registry]
  rfl

end SchemaRest.Service
