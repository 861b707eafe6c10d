import SchemaRest.Proofs.Service.Effects

/-!
# What a reading of the catalog asks

A reading runs the queries of its plan one after the other, and fails where the first of them fails:
the list of tables, and for each table listed its columns and its relations. The plan is not known
before the list is, so it is a plan in a world.
-/

namespace SchemaRest

/-- Whether an effect fails, and the world after it. -/
def Effect.forget {ε α : Type} (m : Effect ε α) : Effect ε Unit := fun w =>
  ((m w).1.map fun _ => (), (m w).2)

/-- Where what follows does not depend on the value, the value may be forgotten first. -/
theorem Effect.forget_bind {ε α β : Type} {m : Effect ε α} {f : α → Effect ε β} {n : Effect ε Unit}
    (hf : ∀ a, (f a).forget = n) : (m >>= f).forget = m.forget >>= fun _ => n := by
  funext w
  rw [forget, bind_apply, bind_apply, forget]
  cases m w with
  | mk r w' =>
    cases r with
    | error e => rfl
    | ok a => exact congrFun (hf a) w'

theorem Effect.forget_error_iff {ε α : Type} {m : Effect ε α} {w w' : World} {e : ε} :
    m.forget w = (.error e, w') ↔ m w = (.error e, w') := by
  rw [forget]
  cases m w with
  | mk r w₁ =>
    constructor <;> intro h
    · cases r <;> cases h
      rfl
    · cases h
      rfl

namespace Catalog

open Database (rowsOf)

/-- A statement of a reading. -/
inductive Query where
  | tables
  | columns (table : String)
  | relations (table : String)
  deriving DecidableEq, Repr

namespace Query

def sent (scope : Scope) : Query → Sent
  | .tables => listingSent scope
  | .columns t => .prepared columnsSql [.text scope.schema, .text t]
  | .relations t => .prepared relationsSql [.text scope.schema, .text t]

/-- What a failure is reported to have happened in. -/
def during : Query → String
  | .tables => "list_tables"
  | .columns _ => "get_columns"
  | .relations _ => "get_columns"

def run (scope : Scope) : Query → Effect Failure Unit
  | .tables => (listTables scope).forget
  | .columns t => (readRows "get_columns" (sent scope (.columns t)) columnOfRow).forget
  | .relations t => (readRows "get_columns" (sent scope (.relations t)) relationOfRow).forget

/-- What is asked about the tables listed. -/
def ofTables (tables : List TableInfo) : List Query :=
  tables.flatMap fun t => [.columns t.name, .relations t.name]

/-- One query after the other, up to the first that fails. -/
def runAll (scope : Scope) : List Query → Effect Failure Unit
  | [] => pure ()
  | q :: rest => do
    q.run scope
    runAll scope rest

end Query

/-- What a reading asks in a world as long as nothing fails. -/
def plan (scope : Scope) (w : World) : List Query :=
  .tables :: match (listTables scope w).1 with
    | .ok tables => Query.ofTables tables
    | .error _ => []

variable {scope : Scope} {w w' : World}

/-! ## A reading runs its plan -/

theorem getColumns_forget {α : Type} (scope : Scope) (t : String) (rest : List Query)
    {f : List Column → Effect Failure α} (hf : ∀ columns, (f columns).forget = Query.runAll scope rest) :
    (getColumns scope t >>= f).forget =
      Query.runAll scope (.columns t :: .relations t :: rest) := by
  unfold getColumns
  simp only [bind_assoc, pure_bind]
  refine Effect.forget_bind fun columns => ?_
  exact Effect.forget_bind fun relations => hf _

theorem readColumns_forget (scope : Scope) (done : List (String × List Column))
    (tables : List TableInfo) :
    (readColumns scope done tables).forget = Query.runAll scope (Query.ofTables tables) := by
  induction tables generalizing done with
  | nil => rfl
  | cons t rest ih => exact getColumns_forget scope t.name _ fun columns => ih _

/-- A reading asks what its plan says until something fails. -/
theorem readSnapshot_forget (scope : Scope) (w : World) :
    (readSnapshot scope).forget w = Query.runAll scope (plan scope w) w := by
  have hcolumns (tables : List TableInfo) :
      (readColumns scope [] tables >>= fun columns => pure (Snapshot.mk tables columns)).forget =
        Query.runAll scope (Query.ofTables tables) := by
    have hpure (columns) : (pure ⟨tables, columns⟩ : Effect Failure Snapshot).forget = pure () := rfl
    rw [Effect.forget_bind hpure, readColumns_forget, bind_pure_unit]
  rw [plan, Query.runAll, Query.run, readSnapshot, Effect.forget, Effect.bind_apply,
    Effect.bind_apply, Effect.forget]
  cases listTables scope w with
  | mk r w' =>
    cases r with
    | error e => rfl
    | ok tables => exact congrFun (hcolumns tables) w'

/-! ## Where a plan stops -/

/-- The queries before the first that fails, that query, and what it fails with. -/
structure Stops (scope : Scope) (w : World) (done : List Query) (q : Query) (d : DatabaseError)
    (w' : World) : Prop where
  planned : ∃ more, plan scope w = done ++ q :: more
  answered : ∃ w₁, Query.runAll scope done w = (.ok (), w₁) ∧
    q.run scope w₁ = (.error (.introspection q.during d), w')

namespace Query

variable {scope : Scope} {w w' : World}

theorem issues_readRows {α : Type} (during : String) (s : Sent)
    (f : Database.Row → Except DatabaseError α) (w : World) :
    World.Issues [s] w (readRows during s f w).2 := by
  rw [readRows, Effect.mapFailure_snd, Effect.bind_snd fun _ _ => rfl, Database.rows,
    Effect.bind_snd fun _ _ => rfl]
  exact issues_send s w

theorem issues_run (scope : Scope) (q : Query) (w : World) :
    World.Issues [q.sent scope] w (q.run scope w).2 := by
  cases q with
  | tables => exact issues_readRows _ _ tableOfRow w
  | columns t => exact issues_readRows _ _ columnOfRow w
  | relations t => exact issues_readRows _ _ relationOfRow w

/-- Queries that were all answered were all issued. -/
theorem issues_runAll {qs : List Query} (h : runAll scope qs w = (.ok (), w')) :
    World.Issues (qs.map (·.sent scope)) w w' := by
  induction qs generalizing w with
  | nil =>
    cases h
    exact .refl _
  | cons q rest ih =>
    obtain ⟨u, w₁, hq, hrest⟩ := Effect.bind_eq_ok_iff.mp h
    have hissues := issues_run scope q w
    rw [hq] at hissues
    exact hissues.trans (ih hrest)

theorem readRows_error {α : Type} {during : String} {s : Sent}
    {f : Database.Row → Except DatabaseError α} {e : Failure}
    (h : readRows during s f w = (.error e, w')) : ∃ d, e = .introspection during d := by
  unfold readRows Effect.mapFailure at h
  split at h <;> cases h
  exact ⟨_, rfl⟩

theorem run_error {q : Query} {e : Failure} (h : q.run scope w = (.error e, w')) :
    ∃ d, e = .introspection q.during d := by
  cases q with
  | tables => exact readRows_error (Effect.forget_error_iff.mp h)
  | columns t => exact readRows_error (Effect.forget_error_iff.mp h)
  | relations t => exact readRows_error (Effect.forget_error_iff.mp h)

/-- The queries fail where one of them fails after all before it were answered. -/
theorem runAll_error_iff {qs : List Query} {e : Failure} :
    runAll scope qs w = (.error e, w') ↔ ∃ done q more w₁, qs = done ++ q :: more ∧
      runAll scope done w = (.ok (), w₁) ∧ q.run scope w₁ = (.error e, w') := by
  constructor
  · intro h
    induction qs generalizing w with
    | nil => cases h
    | cons p rest ih =>
      rcases Effect.bind_eq_error_iff.mp h with hp | ⟨u, w₁, hp, hrest⟩
      · exact ⟨[], p, rest, w, rfl, rfl, hp⟩
      · obtain ⟨done, q, more, w₂, hqs, hdone, hq⟩ := ih hrest
        have hdone' : runAll scope (p :: done) w = (.ok (), w₂) :=
          Effect.bind_eq_ok_iff.mpr ⟨u, w₁, hp, hdone⟩
        exact ⟨p :: done, q, more, w₂, congrArg (p :: ·) hqs, hdone', hq⟩
  · rintro ⟨done, q, more, w₁, rfl, hdone, hq⟩
    induction done generalizing w with
    | nil =>
      cases hdone
      exact Effect.bind_eq_error_iff.mpr (.inl hq)
    | cons p done ih =>
      obtain ⟨u, w₂, hp, hrest⟩ := Effect.bind_eq_ok_iff.mp hdone
      exact Effect.bind_eq_error_iff.mpr (.inr ⟨u, w₂, hp, ih hrest⟩)

end Query

variable {scope : Scope} {w w' : World}

/-- A reading fails where its plan stops, and with what the query there fails with. -/
theorem readSnapshot_error_iff {e : Failure} :
    readSnapshot scope w = (.error e, w') ↔
      ∃ done q d, Stops scope w done q d w' ∧ e = .introspection q.during d := by
  rw [← Effect.forget_error_iff, readSnapshot_forget, Query.runAll_error_iff]
  constructor
  · rintro ⟨done, q, more, w₁, hplan, hdone, hq⟩
    obtain ⟨d, rfl⟩ := Query.run_error hq
    exact ⟨done, q, d, ⟨⟨more, hplan⟩, w₁, hdone, hq⟩, rfl⟩
  · rintro ⟨done, q, d, ⟨⟨more, hplan⟩, w₁, hdone, hq⟩, rfl⟩
    exact ⟨done, q, more, w₁, hplan, hdone, hq⟩

/-- Nothing is issued after the query that failed. -/
theorem Stops.issues {done : List Query} {q : Query} {d : DatabaseError}
    (h : Stops scope w done q d w') : World.Issues ((done ++ [q]).map (·.sent scope)) w w' := by
  obtain ⟨w₁, hdone, hq⟩ := h.answered
  have hlast := Query.issues_run scope q w₁
  rw [hq] at hlast
  rw [List.map_append]
  exact (Query.issues_runAll hdone).trans hlast

end Catalog

end SchemaRest
