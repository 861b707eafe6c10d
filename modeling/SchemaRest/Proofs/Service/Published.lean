import SchemaRest.Proofs.OpenApi.Operations
import SchemaRest.Proofs.Service.Passes

/-!
# The document describes what is served

After any passes of registration, endpoints of tables that are gone included: everything the document
of the last catalog describes is answered by the endpoint it is described for, and nothing in the
registry, the catalog or the document stands in the way of the paths of the service itself.
-/

namespace SchemaRest.Service

open Handler (tableScoped)
open OpenApi (documented operationAt? tagNames template)

/-! ## Registry and catalog -/

/-- The catalog has only tables that can be served. -/
theorem Reached.catalog {P : String → Prop} {w : World} (h : Reached P w) :
    (∀ t ∈ w.catalog.tables, Unreserved t.name ∧ P t.name) ∧
      ∀ p ∈ w.catalog.columnsByTable, Unreserved p.1 := by
  refine h.invariant (I := fun _ c => (∀ t ∈ c.tables, Unreserved t.name ∧ P t.name) ∧
    ∀ p ∈ c.columnsByTable, Unreserved p.1) ⟨List.forall_mem_nil _, List.forall_mem_nil _⟩ ?_
  intro r c s hc hs
  refine ⟨fun t ht => ⟨(mem_served ht).2, hs t (mem_served ht).1⟩, fun p hp => ?_⟩
  have hkeep := (List.mem_filter.mp hp).2
  simpa [Unreserved] using hkeep

/-- Every handler has an endpoint for every table of the catalog. A pass registers whatever is not
there yet, and what a table had before it went away is still there when it comes back. -/
theorem Reached.answered {P : String → Prop} {w : World} (h : Reached P w) :
    ∀ t ∈ w.catalog.tables, ∀ g ∈ tableScoped,
      (w.registry.resolve? g.method (g.path t.name)).isSome := by
  refine h.invariant (I := fun r c => ∀ t ∈ c.tables, ∀ g ∈ tableScoped,
    (r.resolve? g.method (g.path t.name)).isSome) (List.forall_mem_nil _) ?_
  intro r c s hc hs t ht g hg
  have hmem : Endpoint.ofTable t.name g ∈ s.served.endpoints :=
    List.mem_append_left _ (List.mem_flatMap.mpr ⟨t, ht, List.mem_map.mpr ⟨g, hg, rfl⟩⟩)
  exact Registry.resolve?_registerAll_isSome r hmem

theorem Reached.registered {P : String → Prop} {w : World} (h : Reached P w) :
    ∀ t ∈ w.registry.tables, Unreserved t := by
  intro t ht
  obtain ⟨e, he, htable⟩ := (w.registry.mem_tables t).mp ht
  cases h.made e he with
  | table s g hs hg =>
    cases htable
    exact hs.1
  | administrative g hg => cases htable

/-! ## The document -/

/-- A document describes what is served. -/
structure Published (w : World) (doc : Json) : Prop where
  /-- Every handler that serves a table resolves for every table of the catalog. -/
  live : ∀ t ∈ w.catalog.tables, ∀ h ∈ tableScoped,
    w.registry.resolve? h.method (h.path t.name) = some (.ofTable t.name h) ∧
      (Endpoint.ofTable t.name h).permission = t.name ++ ":" ++ h.action
  /-- The operations are those of these handlers and tables. -/
  operations : ∀ method path, (method, path) ∈ documented doc ↔
    ∃ t ∈ w.catalog.tables, ∃ h ∈ tableScoped,
      method = Text.lower h.method ∧ path = template t.name h
  /-- Each is described for its table. -/
  described : ∀ t ∈ w.catalog.tables, ∀ h ∈ tableScoped, ∃ operation,
    operationAt? doc (Text.lower h.method) (template t.name h) = some operation ∧
      operation.get? "tags" = some (.strings [t.name])
  /-- Every table has one tag. -/
  tags : tagNames doc = w.catalog.tables.map (·.name)
  unreserved : (∀ t ∈ w.registry.tables, Unreserved t) ∧
    (∀ t ∈ w.catalog.tables, Unreserved t.name) ∧
    (∀ p ∈ w.catalog.columnsByTable, Unreserved p.1) ∧ ∀ t ∈ tagNames doc, Unreserved t

/-- As long as no name has a slash, the document of the last catalog describes what is served. -/
theorem published_of_reached {w : World} (hw : Reached SlashFree w) (info : OpenApi.Info)
    (serverUrl openapiVersion : String) :
    Published w (OpenApi.document info w.catalog serverUrl openapiVersion) := by
  obtain ⟨htables, hcolumns⟩ := hw.catalog
  have hfree : ∀ t ∈ w.catalog.tables, SlashFree t.name := fun t ht => (htables t ht).2
  have hunreserved : ∀ t ∈ w.catalog.tables, Unreserved t.name := fun t ht => (htables t ht).1
  have htags := OpenApi.tagNames_document info w.catalog serverUrl openapiVersion
  constructor
  case live =>
    intro t ht h hh
    have hsome := hw.answered t ht h hh
    exact ⟨Registry.resolve?_of_made hw.made (hunreserved t ht) (hfree t ht) hh hsome,
      Handler.permission_of_tableScoped hh t.name⟩
  case operations =>
    exact OpenApi.mem_documented_document hfree info serverUrl openapiVersion
  case described =>
    intro t ht h hh
    exact OpenApi.operationAt?_document hfree info serverUrl openapiVersion ht hh
  case tags => exact htags
  case unreserved =>
    refine ⟨hw.registered, hunreserved, hcolumns, ?_⟩
    rw [htags]
    exact List.forall_mem_map.mpr hunreserved

/-- A catalog of two tables and a reserved name. -/
def usersAndOrders : Catalog.Snapshot :=
  ⟨[⟨"users", none, "shop"⟩, ⟨"orders", none, "shop"⟩, ⟨"docs", none, "shop"⟩], []⟩

def ordersOnly : Catalog.Snapshot := ⟨[⟨"orders", none, "shop"⟩], []⟩

/-- A service after a pass over both tables, and another after one of them went. -/
def ordersLeft : World :=
  (registerSnapshot ordersOnly (registerSnapshot usersAndOrders (.initial "" "")).2).2

theorem published_ordersLeft : Reached SlashFree ordersLeft ∧
    ordersLeft.registry.resolve? "GET" "/users" = some (.ofTable "users" .list) ∧
    Published ordersLeft (OpenApi.document ⟨"", "", "", ⟨"", "", ""⟩⟩ ordersLeft.catalog "" "") := by
  have hboth : ∀ t ∈ usersAndOrders.tables, SlashFree t.name := by decide
  have hone : ∀ t ∈ ordersOnly.tables, SlashFree t.name := by decide
  have hreached : Reached SlashFree ordersLeft :=
    .given ordersOnly (.given usersAndOrders (.initial "" "") hboth) hone
  exact ⟨hreached, by decide +kernel, published_of_reached hreached _ "" ""⟩

end SchemaRest.Service
