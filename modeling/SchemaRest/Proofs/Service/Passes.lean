import SchemaRest.Proofs.Endpoint.Registry
import SchemaRest.Proofs.Service.Effects

/-!
# Passes of registration

The worlds that passes of registration lead to, whatever the database answers in between, and what
one pass can do. A pass either fails and leaves registry and catalog as they were, or has read a
snapshot and registers it.
-/

namespace SchemaRest.Service

open Effect

theorem sends_readRows {α : Type} (during : String) (s : Sent)
    (f : Database.Row → Except DatabaseError α) : (Catalog.readRows during s f).Sends (· = s) :=
  .mapFailure (.bind (Database.sends_rows s) fun _ => .ofExcept _) _

/-- Any statement. -/
abbrev AnyStatement : Sent → Prop := fun _ => True

theorem sends_listTables (scope : Catalog.Scope) : (Catalog.listTables scope).Sends AnyStatement :=
  (sends_readRows _ _ _).mono fun _ _ => trivial

theorem sends_getColumns (scope : Catalog.Scope) (table : String) :
    (Catalog.getColumns scope table).Sends AnyStatement := by
  unfold Catalog.getColumns
  refine .bind ((sends_readRows _ _ _).mono fun _ _ => trivial) fun columns => ?_
  exact .bind ((sends_readRows _ _ _).mono fun _ _ => trivial) fun relations => .pure _

theorem sends_getTable (scope : Catalog.Scope) (name : String) :
    (Catalog.getTable scope name).Sends AnyStatement := by
  unfold Catalog.getTable
  refine .bind ((sends_readRows _ _ _).mono fun _ _ => trivial) fun rows => ?_
  split
  · exact .fail _
  · exact .mapFailure (.ofExcept _) _

theorem sends_getFullTable (scope : Catalog.Scope) (name : String) :
    (Catalog.getFullTable scope name).Sends AnyStatement := by
  unfold Catalog.getFullTable
  refine .bind (sends_getTable scope name) fun table => ?_
  exact .bind (sends_getColumns scope table.name) fun columns => .pure _

theorem sends_readColumns (scope : Catalog.Scope) (done : List (String × List Catalog.Column))
    (tables : List Catalog.TableInfo) :
    (Catalog.readColumns scope done tables).Sends AnyStatement := by
  induction tables generalizing done with
  | nil => exact .pure done
  | cons t rest ih => exact .bind (sends_getColumns scope t.name) fun columns => ih _

theorem sends_readSnapshot (scope : Catalog.Scope) :
    (Catalog.readSnapshot scope).Sends AnyStatement := by
  unfold Catalog.readSnapshot
  refine .bind (sends_listTables scope) fun tables => ?_
  exact .bind (sends_readColumns scope [] tables) fun columns => .pure _

/-! ## What a pass does -/

/-- The world in which a pass reads the catalog. -/
def registering (w : World) : World := { w with registration := .registering }

/-- A pass fails without a supported engine, or where its reading of the catalog fails. -/
theorem registerAll_error_iff (settings : Settings) {w w' : World} {e : Failure} :
    registerAll settings w = (.error e, w') ↔
      (settings.client.ensureSupported = .error e ∧ w' = w) ∨
      settings.client.ensureSupported = .ok () ∧ ∃ w₁,
        Catalog.readSnapshot (.ofSettings settings) (registering w) = (.error e, w₁) ∧
          w' = { w₁ with registration := settled w₁ } := by
  unfold registerAll
  rw [← registering]
  cases settings.client.ensureSupported with
  | error d =>
    constructor
    · intro h
      cases h
      exact .inl ⟨rfl, rfl⟩
    · rintro (⟨h, rfl⟩ | ⟨h, -⟩) <;> cases h
      rfl
  | ok u =>
    cases Catalog.readSnapshot (.ofSettings settings) (registering w) with
    | mk r w₁ =>
      cases r with
      | error d =>
        constructor
        · intro h
          cases h
          exact .inr ⟨rfl, w₁, rfl, rfl⟩
        · rintro (⟨h, -⟩ | ⟨-, w₂, h, rfl⟩) <;> cases h
          rfl
      | ok s =>
        constructor
        · intro h
          cases h
        · rintro (⟨h, -⟩ | ⟨-, w₂, h, -⟩) <;> cases h

/-- A pass that does not fail registers what it has read. -/
theorem registerAll_ok_iff (settings : Settings) {w w' : World} {report : Report} :
    registerAll settings w = (.ok report, w') ↔
      settings.client.ensureSupported = .ok () ∧ ∃ s w₁,
        Catalog.readSnapshot (.ofSettings settings) (registering w) = (.ok s, w₁) ∧
          registerSnapshot s w₁ = (report, w') := by
  unfold registerAll
  rw [← registering]
  cases settings.client.ensureSupported with
  | error d =>
    constructor
    · intro h
      cases h
    · rintro ⟨h, -⟩
      cases h
  | ok u =>
    cases Catalog.readSnapshot (.ofSettings settings) (registering w) with
    | mk r w₁ =>
      cases r with
      | error d =>
        constructor
        · intro h
          cases h
        · rintro ⟨-, s, w₂, h, -⟩
          cases h
      | ok s =>
        constructor
        · intro h
          cases h
          exact ⟨rfl, s, w₁, rfl, rfl⟩
        · rintro ⟨-, t, w₂, h, hpass⟩
          cases h
          dsimp only
          rw [hpass]

/-- Nothing of a reading that failed is kept. -/
structure Abandoned (w w' : World) : Prop where
  registry : w'.registry = w.registry
  catalog : w'.catalog = w.catalog
  policy : w'.policy = w.policy
  asked : w'.asked = w.asked

/-- A pass fails, or it has read a snapshot and registers it. -/
theorem registerAll_cases (settings : Settings) (w : World) :
    (∃ e w', registerAll settings w = (.error e, w') ∧ Abandoned w w') ∨
    (∃ s w₁, Catalog.readSnapshot (.ofSettings settings) (registering w) = (.ok s, w₁) ∧
      (registering w).Sends AnyStatement w₁ ∧
      registerAll settings w = (.ok (registerSnapshot s w₁).1, (registerSnapshot s w₁).2)) := by
  have hsends := sends_readSnapshot (.ofSettings settings) (registering w)
  cases hpass : registerAll settings w with
  | mk r w' =>
    cases r with
    | error e =>
      refine .inl ⟨e, w', rfl, ?_⟩
      rcases (registerAll_error_iff settings).mp hpass with ⟨-, rfl⟩ | ⟨-, w₁, hread, rfl⟩
      · exact ⟨rfl, rfl, rfl, rfl⟩
      · rw [hread] at hsends
        exact ⟨hsends.registry, hsends.catalog, hsends.policy, hsends.asked⟩
    | ok report =>
      obtain ⟨-, s, w₁, hread, hregister⟩ := (registerAll_ok_iff settings).mp hpass
      rw [hread] at hsends
      exact .inr ⟨s, w₁, hread, hsends, by rw [hregister]⟩

theorem registerAll_policy (settings : Settings) (w : World) :
    (registerAll settings w).2.policy = w.policy ∧ (registerAll settings w).2.asked = w.asked := by
  rcases registerAll_cases settings w with ⟨e, w', h, habandoned⟩ | ⟨s, w₁, -, hsends, h⟩
  · rw [h]
    exact ⟨habandoned.policy, habandoned.asked⟩
  · rw [h]
    exact ⟨hsends.policy, hsends.asked⟩

/-! ## Worlds reached -/

/-- The worlds that passes over catalogs of names with a property lead to. Between two passes
everything but registry, catalog and registration may change. -/
inductive Reached (P : String → Prop) : World → Prop
  | initial (failureId random : String) : Reached P (.initial failureId random)
  | meanwhile {w w' : World} (h : Reached P w) (hregistry : w'.registry = w.registry)
      (hcatalog : w'.catalog = w.catalog) (hregistration : w'.registration = w.registration) :
      Reached P w'
  | given {w : World} (s : Catalog.Snapshot) (h : Reached P w) (hs : ∀ t ∈ s.tables, P t.name) :
      Reached P (registerSnapshot s w).2
  | reading {w : World} (settings : Settings) (h : Reached P w)
      (hs : ∀ s w₁, Catalog.readSnapshot (.ofSettings settings) (registering w) = (.ok s, w₁) →
        ∀ t ∈ s.tables, P t.name) :
      Reached P (registerAll settings w).2

/-- What holds before the first pass and is kept by registering a snapshot always holds: a pass that
fails changes neither registry nor catalog. -/
theorem Reached.invariant {P : String → Prop} {I : Registry → Catalog.Snapshot → Prop} {w : World}
    (h : Reached P w) (hinitial : I .empty .empty)
    (hstep : ∀ (r : Registry) (c s : Catalog.Snapshot), I r c → (∀ t ∈ s.tables, P t.name) →
      I (r.registerAll s.served.endpoints).2 s.served) : I w.registry w.catalog := by
  induction h with
  | initial failureId random => exact hinitial
  | meanwhile h hregistry hcatalog hregistration ih =>
    rw [hregistry, hcatalog]
    exact ih
  | given s h hs ih => exact hstep _ _ s ih hs
  | @reading w settings h hs ih =>
    rcases registerAll_cases settings w with ⟨e, w', hpass, habandoned⟩ | ⟨s, w₁, hread, hsends, hpass⟩
    · rw [hpass, habandoned.registry, habandoned.catalog]
      exact ih
    · have hregistry : w₁.registry = w.registry := hsends.registry
      have hcatalog : w₁.catalog = w.catalog := hsends.catalog
      rw [← hregistry, ← hcatalog] at ih
      rw [hpass]
      exact hstep _ _ s ih (hs s w₁ hread)

theorem mem_served {s : Catalog.Snapshot} {t : Catalog.TableInfo} (h : t ∈ s.served.tables) :
    t ∈ s.tables ∧ Unreserved t.name := by
  obtain ⟨hmem, hkeep⟩ := List.mem_filter.mp h
  exact ⟨hmem, by simpa [Unreserved] using hkeep⟩

theorem served_mem {s : Catalog.Snapshot} {t : Catalog.TableInfo} (ht : t ∈ s.tables)
    (hunreserved : Unreserved t.name) : t ∈ s.served.tables :=
  List.mem_filter.mpr ⟨ht, by simpa [Unreserved] using hunreserved⟩

/-- Every endpoint is one of a table with an unreserved name or one of the service. -/
theorem Reached.made {P : String → Prop} {w : World} (h : Reached P w) :
    ∀ e ∈ w.registry.endpoints, e.Made fun t => Unreserved t ∧ P t := by
  refine h.invariant (I := fun r _ => ∀ e ∈ r.endpoints, e.Made fun t => Unreserved t ∧ P t)
    (List.forall_mem_nil _) ?_
  intro r c s hr hs e he
  rcases r.registerAll_endpoints s.served.endpoints e he with he | he
  · exact hr e he
  · refine Catalog.Snapshot.made_endpoints (fun t ht => ?_) e he
    exact ⟨(mem_served ht).2, hs t (mem_served ht).1⟩

end SchemaRest.Service
