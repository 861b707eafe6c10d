import Mathlib
import SchemaRest.Proofs.Endpoint.FirstWins
import SchemaRest.Proofs.Endpoint.Paths
import SchemaRest.Proofs.Service.History

/-!
# What passes add up to

Of two endpoints under one key the first stays, so what is registered may depend on the order in which
snapshots come. It does not where no name of a table has a slash: a key then says which endpoint it is.
`addsUp_of_passed` says what some passes lead to, in whatever order and however often they are made.
-/

namespace SchemaRest.Service

/-- Registers snapshots one after the other. -/
def registerEach : List Catalog.Snapshot → World → List Report × World
  | [], w => ([], w)
  | s :: ss, w =>
    let (report, w) := registerSnapshot s w
    let (reports, w) := registerEach ss w
    (report :: reports, w)

variable {past ss ts : List Catalog.Snapshot} {w : World} {e : Endpoint}

theorem passed_registerEach (hw : Passed past w) (ss : List Catalog.Snapshot) :
    Passed (past ++ ss) (registerEach ss w).2 := by
  induction ss generalizing past w with
  | nil => rwa [List.append_nil]
  | cons s ss ih =>
    rw [List.append_cons]
    exact ih (.given s hw)

/-- One pass adds what it reports, whatever was there. -/
theorem size_registerSnapshot (s : Catalog.Snapshot) (w : World) :
    (registerSnapshot s w).2.registry.size = w.registry.size + (registerSnapshot s w).1.added := by
  have hsize := w.registry.size_registerAll s.served.endpoints
  rw [← Registry.registerAll_fst] at hsize
  exact hsize

theorem size_registerEach (ss : List Catalog.Snapshot) (w : World) :
    (registerEach ss w).2.registry.size =
      w.registry.size + ((registerEach ss w).1.map (·.added)).sum := by
  induction ss generalizing w with
  | nil => rfl
  | cons s ss ih =>
    have hfirst := size_registerSnapshot s w
    have hrest := ih (registerSnapshot s w).2
    simp only [registerEach, List.map_cons, List.sum_cons]
    omega

/-! ## What snapshots contribute -/

/-- It matters which snapshots there are, not their order or number. -/
theorem Contributed.congr (h : ∀ s, s ∈ ss ↔ s ∈ ts) : Contributed ss e ↔ Contributed ts e := by
  rw [← mem_endpointsOf_iff, ← mem_endpointsOf_iff, endpointsOf, endpointsOf, List.mem_flatMap,
    List.mem_flatMap]
  exact exists_congr fun s => and_congr_left' (h s)

/-- No table has a slash in its name. -/
def SlashFreeTables (ss : List Catalog.Snapshot) : Prop := ∀ s ∈ ss, ∀ t ∈ s.tables, SlashFree t.name

theorem made_of_contributed (hss : SlashFreeTables ss) (he : Contributed ss e) :
    e.Made fun t => Unreserved t ∧ SlashFree t := by
  cases he with
  | @table s t hs ht hname h hh => exact .table t.name h ⟨hname, hss s hs t ht⟩ hh
  | administrative _ h hh => exact .administrative h hh

/-- Where keys say which endpoints they are, a key resolves to whatever was registered under it. -/
theorem resolve?_of_passed (hw : Passed past w) (hpast : SlashFreeTables past) (method path : String) :
    w.registry.resolve? method path = some e ↔ Contributed past e ∧ e.method = method ∧ e.path = path := by
  constructor
  · intro he
    exact ⟨mem_endpointsOf_iff.mp (hw.mem_endpointsOf (Registry.mem_of_resolve? he)),
      Registry.answers_of_resolve? he⟩
  · rintro ⟨he, rfl, rfl⟩
    have hsome := Registry.resolve?_registerAll_isSome .empty (mem_endpointsOf_iff.mpr he)
    rw [← hw.registry] at hsome
    obtain ⟨d, hd⟩ := Option.isSome_iff_exists.mp hsome
    obtain ⟨hmethod, hpath⟩ := Registry.answers_of_resolve? hd
    have hmade := mem_endpointsOf_iff.mp (hw.mem_endpointsOf (Registry.mem_of_resolve? hd))
    rw [hd, (made_of_contributed hpast hmade).eq_of_key (made_of_contributed hpast he) hmethod hpath]

theorem contributed_append :
    Contributed (past ++ ss) e ↔ Contributed past e ∨ Contributed ss e := by
  simp only [← mem_endpointsOf_iff, endpointsOf, List.flatMap_append, List.mem_append]

/-- A pass without a new table, after another, adds nothing. -/
theorem registerAll_of_known (hw : Passed past w) (hne : past ≠ []) {s : Catalog.Snapshot}
    (hknown : ∀ t ∈ s.tables, Unreserved t.name → t.name ∈ w.registry.tables) :
    w.registry.registerAll s.served.endpoints = (0, w.registry) := by
  apply Registry.registerAll_of_isSome
  intro e he
  have hcontributed : Contributed [s] e := mem_endpointsOf_iff.mp (by simpa [endpointsOf] using he)
  rw [hw.registry]
  apply Registry.resolve?_registerAll_isSome
  apply mem_endpointsOf_iff.mpr
  cases hcontributed with
  | @table s' t hs' ht hname h hh =>
    cases List.mem_singleton.mp hs'
    -- some endpoint of the table is there, so a snapshot had the table and all its endpoints
    obtain ⟨d, hd, htable⟩ := (w.registry.mem_tables t.name).mp (hknown t ht hname)
    have hfrom := mem_endpointsOf_iff.mp (hw.mem_endpointsOf hd)
    cases hfrom with
    | @table _ t' hs' ht' hname' g hg =>
      have hsame : t'.name = t.name := Option.some.inj htable
      rw [← hsame]
      exact .table hs' ht' hname' h hh
    | administrative _ g hg => cases htable
  | administrative _ h hh => exact .administrative hne h hh

/-! ## Whatever the order -/

/-- What passes over some snapshots do to a registry. -/
structure AddsUp (past ss : List Catalog.Snapshot) (w : World) : Prop where
  /-- What was there is still there, and what the snapshots contribute is there as well. -/
  routes : ∀ method path e, (registerEach ss w).2.registry.resolve? method path = some e ↔
    w.registry.resolve? method path = some e ∨ Contributed ss e ∧ e.method = method ∧ e.path = path
  /-- Passes over the same snapshots, in another order or repeated, lead to the same. -/
  orderless : ∀ ts, (∀ s, s ∈ ts ↔ s ∈ ss) → ∀ method path,
    (registerEach ts w).2.registry.resolve? method path =
      (registerEach ss w).2.registry.resolve? method path
  /-- The registry grows by as much as the passes report. -/
  growth : (registerEach ss w).2.registry.size =
    w.registry.size + ((registerEach ss w).1.map (·.added)).sum
  /-- Once there was a pass, another one without a new table adds nothing and changes nothing. -/
  idle : past ++ ss ≠ [] → ∀ s : Catalog.Snapshot,
    (∀ t ∈ s.tables, Unreserved t.name → t.name ∈ (registerEach ss w).2.registry.tables) →
    (registerSnapshot s (registerEach ss w).2).1.added = 0 ∧
      (registerSnapshot s (registerEach ss w).2).2.registry = (registerEach ss w).2.registry

theorem addsUp_of_passed (hw : Passed past w) (hfree : SlashFreeTables (past ++ ss)) : AddsUp past ss w := by
  have hpast : SlashFreeTables past := fun s hs => hfree s (List.mem_append_left _ hs)
  have hroutes {ts : List Catalog.Snapshot} (hts : ∀ s ∈ ts, s ∈ ss) (method path : String)
      (e : Endpoint) : (registerEach ts w).2.registry.resolve? method path = some e ↔
        w.registry.resolve? method path = some e ∨
          Contributed ts e ∧ e.method = method ∧ e.path = path := by
    have hall : SlashFreeTables (past ++ ts) :=
      List.forall_mem_append.mpr ⟨hpast, fun s hs => hfree s (List.mem_append_right _ (hts s hs))⟩
    rw [resolve?_of_passed (passed_registerEach hw ts) hall, resolve?_of_passed hw hpast,
      contributed_append, or_and_right]
  constructor
  case routes => exact hroutes fun s hs => hs
  case orderless =>
    intro ts hts method path
    apply Option.ext
    intro e
    rw [hroutes (fun s => (hts s).mp), hroutes fun s hs => hs, Contributed.congr hts]
  case growth => exact size_registerEach ss w
  case idle =>
    intro hne s hknown
    have hidle := registerAll_of_known (passed_registerEach hw ss) hne hknown
    exact ⟨congrArg Prod.fst hidle, congrArg Prod.snd hidle⟩

/-- A table, and another that is not served. -/
def usersFirst : Catalog.Snapshot := ⟨[⟨"users", none, "shop"⟩, ⟨"docs", none, "shop"⟩], []⟩

/-- Two tables, of which one is there already. -/
def ordersAdded : Catalog.Snapshot := ⟨[⟨"orders", none, "shop"⟩, ⟨"users", none, "shop"⟩], []⟩

/-- A service after a pass over the first. -/
def usersPassed : World := (registerSnapshot usersFirst (.initial "" "")).2

theorem addsUp_ordersAdded : Passed [usersFirst] usersPassed ∧
    SlashFreeTables ([usersFirst] ++ [ordersAdded, usersFirst]) ∧
    AddsUp [usersFirst] [ordersAdded, usersFirst] usersPassed ∧
    (registerEach [ordersAdded, usersFirst] usersPassed).1 = [⟨2, 6⟩, ⟨1, 0⟩] ∧
    (registerEach [usersFirst, ordersAdded] usersPassed).1 = [⟨1, 0⟩, ⟨2, 6⟩] := by
  have hpassed : Passed [usersFirst] usersPassed := .given usersFirst (.initial "" "")
  have hfree : SlashFreeTables ([usersFirst] ++ [ordersAdded, usersFirst]) := by
    unfold SlashFreeTables
    decide
  exact ⟨hpassed, hfree, addsUp_of_passed hpassed hfree, by decide +kernel, by decide +kernel⟩

end SchemaRest.Service
