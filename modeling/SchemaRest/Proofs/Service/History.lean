import SchemaRest.Proofs.Service.Passes

/-!
# Histories of registration

The worlds that passes of registration lead to, told by the snapshots that were registered, the oldest
first. A pass that fails leaves no trace in a history. A history says what is registered: it is the
same as if the endpoints of all its snapshots had been registered at once, one after the other.
-/

namespace SchemaRest.Service

/-- Between two passes everything but registry, catalog and registration may change. -/
inductive Passed : List Catalog.Snapshot → World → Prop
  | initial (failureId random : String) : Passed [] (.initial failureId random)
  | meanwhile {ss : List Catalog.Snapshot} {w w' : World} (h : Passed ss w)
      (hregistry : w'.registry = w.registry) (hcatalog : w'.catalog = w.catalog)
      (hregistration : w'.registration = w.registration) : Passed ss w'
  | given {ss : List Catalog.Snapshot} {w : World} (s : Catalog.Snapshot) (h : Passed ss w) :
      Passed (ss ++ [s]) (registerSnapshot s w).2
  | read {ss : List Catalog.Snapshot} {w w₁ w' : World} {s : Catalog.Snapshot} {report : Report}
      (settings : Settings) (h : Passed ss w)
      (hread : Catalog.readSnapshot (.ofSettings settings) (registering w) = (.ok s, w₁))
      (hpass : registerAll settings w = (.ok report, w')) : Passed (ss ++ [s]) w'
  | failed {ss : List Catalog.Snapshot} {w w' : World} {e : Failure} (settings : Settings)
      (h : Passed ss w) (hpass : registerAll settings w = (.error e, w')) : Passed ss w'

/-- The endpoints of all snapshots of a history. -/
def endpointsOf (ss : List Catalog.Snapshot) : List Endpoint := ss.flatMap fun s => s.served.endpoints

theorem endpointsOf_append (ss : List Catalog.Snapshot) (s : Catalog.Snapshot) :
    endpointsOf (ss ++ [s]) = endpointsOf ss ++ s.served.endpoints := by
  rw [endpointsOf, List.flatMap_append, List.flatMap_singleton, ← endpointsOf]

/-- Every snapshot has the endpoints of the service itself. -/
theorem isEmpty_endpointsOf (ss : List Catalog.Snapshot) : (endpointsOf ss).isEmpty = ss.isEmpty := by
  cases ss with
  | nil => rfl
  | cons s ss =>
    have hown : s.served.endpoints ≠ [] := List.append_ne_nil_of_right_ne_nil _ (by decide)
    have hall : endpointsOf (s :: ss) ≠ [] := List.append_ne_nil_of_left_ne_nil hown _
    rw [List.isEmpty_eq_false_iff.mpr hall, List.isEmpty_cons]

/-- The endpoints of the tables that can be served, and those of the service once there is a snapshot. -/
inductive Contributed (ss : List Catalog.Snapshot) : Endpoint → Prop
  | table {s : Catalog.Snapshot} {t : Catalog.TableInfo} (hs : s ∈ ss) (ht : t ∈ s.tables)
      (hname : Unreserved t.name) (h : Handler) (hh : h ∈ Handler.tableScoped) :
      Contributed ss (.ofTable t.name h)
  | administrative (hss : ss ≠ []) (h : Handler) (hh : h ∈ Handler.administrative) :
      Contributed ss (.administrative h)

theorem mem_endpointsOf_iff {ss : List Catalog.Snapshot} {e : Endpoint} :
    e ∈ endpointsOf ss ↔ Contributed ss e := by
  constructor
  · intro he
    obtain ⟨s, hs, he⟩ := List.mem_flatMap.mp he
    rcases List.mem_append.mp he with he | he
    · obtain ⟨t, ht, he⟩ := List.mem_flatMap.mp he
      obtain ⟨h, hh, rfl⟩ := List.mem_map.mp he
      exact .table hs (mem_served ht).1 (mem_served ht).2 h hh
    · obtain ⟨h, hh, rfl⟩ := List.mem_map.mp he
      exact .administrative (List.ne_nil_of_mem hs) h hh
  · intro he
    cases he with
    | @table s t hs ht hname h hh =>
      have hmem : Endpoint.ofTable t.name h ∈ s.served.tables.flatMap fun t =>
          Handler.tableScoped.map (Endpoint.ofTable t.name) :=
        List.mem_flatMap.mpr ⟨t, served_mem ht hname, List.mem_map_of_mem hh⟩
      exact List.mem_flatMap.mpr ⟨s, hs, List.mem_append_left _ hmem⟩
    | administrative hss h hh =>
      obtain ⟨s, hs⟩ := List.exists_mem_of_ne_nil ss hss
      exact List.mem_flatMap.mpr ⟨s, hs, List.mem_append_right _ (List.mem_map_of_mem hh)⟩

theorem registerSnapshot_registry (s : Catalog.Snapshot) (w : World) :
    (registerSnapshot s w).2.registry = (w.registry.registerAll s.served.endpoints).2 := rfl

variable {ss : List Catalog.Snapshot} {w w₁ : World}

/-- What a pass that was read does to the registry. -/
theorem registry_of_read {settings : Settings} {w' : World} {s : Catalog.Snapshot} {report : Report}
    (hread : Catalog.readSnapshot (.ofSettings settings) (registering w) = (.ok s, w₁))
    (hpass : registerAll settings w = (.ok report, w')) :
    w'.registry = (w.registry.registerAll s.served.endpoints).2 ∧ w'.registration = .registered := by
  obtain ⟨-, t, w₂, hread', hregister⟩ := (registerAll_ok_iff settings).mp hpass
  cases hread.symm.trans hread'
  have hsends := sends_readSnapshot (.ofSettings settings) (registering w)
  rw [hread] at hsends
  have hw : (registerSnapshot s w₁).2 = w' := congrArg Prod.snd hregister
  have hregistry : w₁.registry = w.registry := hsends.registry
  rw [← hw, registerSnapshot_registry, hregistry]
  exact ⟨rfl, rfl⟩

/-- What a pass that failed leaves behind: the registry, and the registration as it follows from it
unless there was no reading at all. -/
theorem registry_of_failed {settings : Settings} {w' : World} {e : Failure}
    (hpass : registerAll settings w = (.error e, w')) :
    w'.registry = w.registry ∧
      (w'.registration = w.registration ∨ w'.registration = settled w') := by
  rcases (registerAll_error_iff settings).mp hpass with ⟨-, rfl⟩ | ⟨-, w₁, hread, rfl⟩
  · exact ⟨rfl, .inl rfl⟩
  · have hsends := sends_readSnapshot (.ofSettings settings) (registering w)
    rw [hread] at hsends
    exact ⟨hsends.registry, .inr rfl⟩

namespace Passed

/-- A history is one registration of everything. -/
theorem registry (h : Passed ss w) : w.registry = (Registry.empty.registerAll (endpointsOf ss)).2 := by
  induction h with
  | initial => rfl
  | meanwhile h hregistry hcatalog hregistration ih => rw [hregistry, ih]
  | given s h ih => rw [registerSnapshot_registry, ih, endpointsOf_append, Registry.registerAll_append]
  | read settings h hread hpass ih =>
    rw [(registry_of_read hread hpass).1, ih, endpointsOf_append, Registry.registerAll_append]
  | failed settings h hpass ih => rw [(registry_of_failed hpass).1, ih]

theorem resolve? (h : Passed ss w) (method path : String) :
    w.registry.resolve? method path = (endpointsOf ss).find? (·.answers method path) := by
  rw [h.registry, Registry.resolve?_registerAll]
  rfl

theorem mem_endpointsOf (h : Passed ss w) {e : Endpoint} (he : e ∈ w.registry.endpoints) :
    e ∈ endpointsOf ss := by
  rw [h.registry] at he
  exact (Registry.registerAll_endpoints .empty _ e he).resolve_left (List.not_mem_nil)

/-- The registry is empty as long as no pass succeeded. -/
theorem isEmpty_registry (h : Passed ss w) : w.registry.isEmpty = ss.isEmpty := by
  rw [h.registry, Registry.isEmpty_registerAll_empty, isEmpty_endpointsOf]

/-- Whatever passes failed, the registration tells whether one succeeded. -/
theorem registration (h : Passed ss w) :
    w.registration = if ss.isEmpty then .unregistered else .registered := by
  induction h with
  | initial => rfl
  | meanwhile h hregistry hcatalog hregistration ih => rw [hregistration, ih]
  | given s h ih => simp [registerSnapshot]
  | read settings h hread hpass ih => simp [(registry_of_read hread hpass).2]
  | failed settings h hpass ih =>
    obtain ⟨hregistry, hsame | hsettled⟩ := registry_of_failed hpass
    · rw [hsame, ih]
    · rw [hsettled, settled, hregistry, h.isEmpty_registry]

end Passed

end SchemaRest.Service
