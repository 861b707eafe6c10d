import Mathlib.Data.List.TakeWhile
import SchemaRest.Proofs.Endpoint.Paths
import SchemaRest.Proofs.Service.History

/-!
# Tables in the place of administrative endpoints

A pass registers the endpoints of its tables before those of the service, and no table is served under a
reserved name. A name with a slash is not reserved, though its first segment may be: the paths of such a
table start as those of the service do. `displaced_of_passed` says which names take the path of an
administrative endpoint, and when, and which put a table below a reserved segment.
-/

namespace SchemaRest

/-- What stands between the first slash of a path and the next. -/
def firstSegment (path : String) : String :=
  String.ofList ((path.toList.drop 1).takeWhile (· ≠ '/'))

theorem takeWhile_append_opens {x : List Char} (hx : OpensSegment x) (t : List Char) :
    (t ++ x).takeWhile (· ≠ '/') = t.takeWhile (· ≠ '/') := by
  induction t with
  | nil =>
    cases x with
    | nil => rfl
    | cons c x =>
      have hc : c = '/' := hx c rfl
      simp [hc]
  | cons c t ih =>
    rw [List.cons_append, List.takeWhile_cons, List.takeWhile_cons, ih]

theorem firstSegment_path {h : Handler} (hh : h ∈ Handler.tableScoped) (t : String) :
    firstSegment (h.path t) = firstSegment ("/" ++ t) := by
  have hbare : ("/" ++ t).toList = '/' :: t.toList := String.toList_append
  rw [firstSegment, firstSegment, Handler.path_toList hh, hbare, List.drop_one, List.tail_cons,
    List.drop_one, List.tail_cons, takeWhile_append_opens h.opensSegment_tail]

theorem firstSegment_of_slashFree {t : String} (ht : SlashFree t) : firstSegment ("/" ++ t) = t := by
  have hbare : ("/" ++ t).toList = '/' :: t.toList := String.toList_append
  have hall : ∀ c ∈ t.toList, decide (c ≠ '/') = true := fun c hc =>
    decide_eq_true (ne_of_mem_of_not_mem hc ht)
  rw [firstSegment, hbare, List.drop_one, List.tail_cons, List.takeWhile_eq_self_iff.mpr hall,
    String.ofList_toList]

namespace Handler

/-- The handler of a table that has the method of another, under the bare name of the table. -/
def entry (h : Handler) : Handler := if h.method = "GET" then list else create

theorem entry_mem (h : Handler) : h.entry ∈ tableScoped := by
  unfold entry
  split <;> decide

theorem entry_path (h : Handler) (t : String) : h.entry.path t = "/" ++ t := by
  unfold entry
  split <;> rfl

theorem method_entry : ∀ h ∈ administrative, h.entry.method = h.method := by decide

theorem eq_entry : ∀ g ∈ tableScoped, ∀ h ∈ administrative,
    g.tail = "" → g.method = h.method → g = h.entry := by decide

end Handler

open Handler (tableScoped administrative)

variable {g h : Handler}

/-- Of the endpoints of a table only one can answer for an administrative one, and only by the name of
the table. -/
theorem answers_ofTable_iff (hg : g ∈ tableScoped) (hh : h ∈ administrative) (t : String) :
    (Endpoint.ofTable t g).answers h.method (h.path "") = true ↔ g = h.entry ∧ "/" ++ t = h.path "" := by
  rw [Registry.answers_iff]
  show g.method = h.method ∧ g.path t = h.path "" ↔ _
  constructor
  · rintro ⟨hmethod, hpath⟩
    have hsuffix : g.tail.toList <:+ (h.path "").toList :=
      ⟨'/' :: t.toList, by rw [← hpath, Handler.path_toList hg]; rfl⟩
    obtain rfl := Handler.eq_entry g hg h hh (Handler.tail_of_suffix g hg h hh hsuffix) hmethod
    rw [Handler.entry_path] at hpath
    exact ⟨rfl, hpath⟩
  · rintro ⟨rfl, hpath⟩
    exact ⟨Handler.method_entry h hh, by rw [Handler.entry_path, hpath]⟩

theorem find?_administrative : ∀ h ∈ administrative,
    (administrative.map Endpoint.administrative).find? (·.answers h.method (h.path "")) =
      some (.administrative h) := by decide

/-- Where no table is named like the path, the service answers itself. -/
theorem find?_endpoints_own {s : Catalog.Snapshot} (hh : h ∈ administrative)
    (hs : ∀ t ∈ s.tables, "/" ++ t.name ≠ h.path "") :
    s.endpoints.find? (·.answers h.method (h.path "")) = some (.administrative h) := by
  have hnone : (s.tables.flatMap fun t => tableScoped.map (Endpoint.ofTable t.name)).find?
      (·.answers h.method (h.path "")) = none := by
    rw [List.find?_eq_none]
    intro e he hanswers
    obtain ⟨t, ht, he⟩ := List.mem_flatMap.mp he
    obtain ⟨g, hg, rfl⟩ := List.mem_map.mp he
    exact hs t ht ((answers_ofTable_iff hg hh t.name).mp hanswers).2
  rw [Catalog.Snapshot.endpoints, List.find?_append, hnone, Option.none_or, find?_administrative h hh]

/-- A table of that name answers first. -/
theorem find?_endpoints_displaced {s : Catalog.Snapshot} {t : Catalog.TableInfo} (hh : h ∈ administrative)
    (ht : t ∈ s.tables) (hpath : "/" ++ t.name = h.path "") :
    s.endpoints.find? (·.answers h.method (h.path "")) = some (.ofTable t.name h.entry) := by
  have hmem : Endpoint.ofTable t.name h.entry ∈
      s.tables.flatMap fun t => tableScoped.map (Endpoint.ofTable t.name) :=
    List.mem_flatMap.mpr ⟨t, ht, List.mem_map.mpr ⟨h.entry, h.entry_mem, rfl⟩⟩
  have hself := (answers_ofTable_iff h.entry_mem hh t.name).mpr ⟨rfl, hpath⟩
  have hsome : ((s.tables.flatMap fun t => tableScoped.map (Endpoint.ofTable t.name)).find?
      (·.answers h.method (h.path ""))).isSome := List.find?_isSome.mpr ⟨_, hmem, hself⟩
  obtain ⟨e, he⟩ := Option.isSome_iff_exists.mp hsome
  rw [Catalog.Snapshot.endpoints, List.find?_append, he, Option.some_or]
  obtain ⟨t', -, hmade⟩ := List.mem_flatMap.mp (List.mem_of_find?_eq_some he)
  obtain ⟨g, hg, rfl⟩ := List.mem_map.mp hmade
  have hfound := List.find?_some he
  obtain ⟨rfl, hpath'⟩ := (answers_ofTable_iff hg hh t'.name).mp hfound
  have hname : "/" ++ t'.name = "/" ++ t.name := hpath'.trans hpath.symm
  rw [(String.append_right_inj _).mp hname]

namespace Service

variable {s : Catalog.Snapshot} {ss : List Catalog.Snapshot} {w : World}

/-- The names of tables that put something below a reserved segment. -/
def Trespasses (name : String) : Prop :=
  Unreserved name ∧ firstSegment ("/" ++ name) ∈ reservedSegments

theorem not_trespasses_of_slashFree {name : String} (hname : SlashFree name) : ¬Trespasses name := by
  rintro ⟨hunreserved, hfirst⟩
  rw [firstSegment_of_slashFree hname] at hfirst
  exact hunreserved hfirst

/-- A name that is the path of the service itself has a first segment of its own. -/
theorem trespasses_of_path {name : String} (hh : h ∈ administrative) (hname : Unreserved name)
    (hpath : "/" ++ name = h.path "") : Trespasses name := by
  have hfirst : ∀ h ∈ administrative, firstSegment (h.path "") ∈ reservedSegments := by decide
  exact ⟨hname, hpath ▸ hfirst h hh⟩

/-- Every table of a history has an endpoint that no other handler stands in the way of. -/
theorem Passed.exists_update (hw : Passed ss w) {t : Catalog.TableInfo} (hs : s ∈ ss)
    (ht : t ∈ s.served.tables) :
    ∃ e ∈ w.registry.endpoints, e.table.isSome ∧ e.path = Handler.update.path t.name := by
  -- an endpoint of the same key may be older, but no administrative one answers a PUT
  have hmem : Endpoint.ofTable t.name .update ∈ endpointsOf ss :=
    mem_endpointsOf_iff.mpr (.table hs (mem_served ht).1 (mem_served ht).2 .update (by decide))
  have hsome := Registry.resolve?_registerAll_isSome .empty hmem
  rw [← hw.registry] at hsome
  obtain ⟨e, he⟩ := Option.isSome_iff_exists.mp hsome
  obtain ⟨hmethod, hpath⟩ := Registry.answers_of_resolve? he
  refine ⟨e, Registry.mem_of_resolve? he, ?_, hpath⟩
  cases mem_endpointsOf_iff.mp (hw.mem_endpointsOf (Registry.mem_of_resolve? he)) with
  | table _ _ _ g hg => rfl
  | administrative _ g hg =>
    have hput : ∀ g ∈ administrative, g.method ≠ "PUT" := by decide
    exact absurd hmethod (hput g hg)

namespace Passed

/-- What answers for an administrative endpoint was decided in the first pass. -/
theorem resolve?_first (hw : Passed (s :: ss) w) {e : Endpoint}
    (he : s.served.endpoints.find? (·.answers h.method (h.path "")) = some e) :
    w.registry.resolve? h.method (h.path "") = some e := by
  rw [hw.resolve?, endpointsOf, List.flatMap_cons, List.find?_append, he, Option.some_or]

theorem exists_resolve? (hw : Passed (s :: ss) w) (hh : h ∈ administrative) :
    ∃ d, w.registry.resolve? h.method (h.path "") = some d ∧
      (d = .administrative h ∧ d.permission = "*:*" ↔
        ∀ t ∈ s.tables, Unreserved t.name → "/" ++ t.name ≠ h.path "") ∧
      ∀ t ∈ s.tables, Unreserved t.name → "/" ++ t.name = h.path "" → d = .ofTable t.name h.entry := by
  by_cases hnamed : ∃ t ∈ s.tables, Unreserved t.name ∧ "/" ++ t.name = h.path ""
  · obtain ⟨t, ht, hunreserved, hpath⟩ := hnamed
    have hfirst := find?_endpoints_displaced hh (served_mem ht hunreserved) hpath
    refine ⟨_, hw.resolve?_first hfirst, iff_of_false ?_ fun hnone => hnone t ht hunreserved hpath, ?_⟩
    · rintro ⟨heq, -⟩
      have htable := congrArg Endpoint.table heq
      cases htable
    · intro t' _ _ hpath'
      rw [(String.append_right_inj _).mp (hpath'.trans hpath.symm)]
  · have hnone : ∀ t ∈ s.tables, Unreserved t.name → "/" ++ t.name ≠ h.path "" :=
      fun t ht hunreserved hpath => hnamed ⟨t, ht, hunreserved, hpath⟩
    have hfirst := find?_endpoints_own hh fun t ht => hnone t (mem_served ht).1 (mem_served ht).2
    exact ⟨_, hw.resolve?_first hfirst, iff_of_true ⟨rfl, rfl⟩ hnone,
      fun t ht hunreserved hpath => absurd hpath (hnone t ht hunreserved)⟩

theorem below_iff (hw : Passed ss w) :
    (∀ e ∈ w.registry.endpoints, e.table.isSome → firstSegment e.path ∉ reservedSegments) ↔
      ∀ s ∈ ss, ∀ t ∈ s.tables, ¬Trespasses t.name := by
  constructor
  · rintro hroutes s hs t ht ⟨hunreserved, hfirst⟩
    obtain ⟨e, he, htable, hpath⟩ := hw.exists_update hs (served_mem ht hunreserved)
    have hsegment := hroutes e he htable
    rw [hpath, firstSegment_path (by decide)] at hsegment
    exact hsegment hfirst
  · intro hnames e he htable hfirst
    cases mem_endpointsOf_iff.mp (hw.mem_endpointsOf he) with
    | @table s t hs ht hname g hg =>
      have hsegment : firstSegment (g.path t.name) ∈ reservedSegments := hfirst
      rw [firstSegment_path hg] at hsegment
      exact hnames s hs t ht ⟨hname, hsegment⟩
    | administrative _ g hg => cases htable

end Passed

/-- After any passes an administrative key is answered by its own endpoint, unless the first snapshot that
was registered has a table named like the rest of its path; then that table answers. A table has a route
below a reserved segment just where a name in the history starts with one. Without a slash in any name
neither happens. -/
theorem displaced_of_passed (hw : Passed (s :: ss) w) :
    (∀ h ∈ administrative, ∃ d, w.registry.resolve? h.method (h.path "") = some d ∧
      (d = .administrative h ∧ d.permission = "*:*" ↔
        ∀ t ∈ s.tables, Unreserved t.name → "/" ++ t.name ≠ h.path "") ∧
      ∀ t ∈ s.tables, Unreserved t.name → "/" ++ t.name = h.path "" → d = .ofTable t.name h.entry) ∧
    ((∀ e ∈ w.registry.endpoints, e.table.isSome → firstSegment e.path ∉ reservedSegments) ↔
      ∀ s' ∈ s :: ss, ∀ t ∈ s'.tables, ¬Trespasses t.name) ∧
    ((∀ s' ∈ s :: ss, ∀ t ∈ s'.tables, SlashFree t.name) →
      (∀ h ∈ administrative,
        w.registry.resolve? h.method (h.path "") = some (.administrative h)) ∧
      ∀ e ∈ w.registry.endpoints, e.table.isSome → firstSegment e.path ∉ reservedSegments) := by
  refine ⟨fun h hh => hw.exists_resolve? hh, hw.below_iff, fun hfree => ⟨fun h hh => ?_, ?_⟩⟩
  · obtain ⟨d, hresolve, hiff, -⟩ := hw.exists_resolve? hh
    rw [hresolve, (hiff.mpr fun t ht hunreserved hpath => ?_).1]
    exact not_trespasses_of_slashFree (hfree s List.mem_cons_self t ht)
      (trespasses_of_path hh hunreserved hpath)
  · exact hw.below_iff.mpr fun s' hs t ht => not_trespasses_of_slashFree (hfree s' hs t ht)

/-- A catalog of a table, and of another that is not served. -/
def usersAndTable : Catalog.Snapshot := ⟨[⟨"users", none, "shop"⟩, ⟨"table", none, "shop"⟩], []⟩

/-- A catalog of a table below a segment of the service. -/
def archiveOnly : Catalog.Snapshot := ⟨[⟨"table/:tableName", none, "shop"⟩], []⟩

/-- A service after a pass over each. -/
def archiveAdded : World :=
  (registerSnapshot archiveOnly (registerSnapshot usersAndTable (.initial "" "")).2).2

theorem displaced_archiveAdded : Passed [usersAndTable, archiveOnly] archiveAdded ∧
    archiveAdded.registry.resolve? "GET" "/table/:tableName" = some (.administrative .getTable) ∧
    ∃ e ∈ archiveAdded.registry.endpoints, e.table.isSome ∧ firstSegment e.path ∈ reservedSegments := by
  have hpassed : Passed [usersAndTable, archiveOnly] archiveAdded :=
    .given archiveOnly (.given usersAndTable (.initial "" ""))
  obtain ⟨hown, hbelow, -⟩ := displaced_of_passed hpassed
  obtain ⟨d, hresolve, hiff, -⟩ := hown .getTable (by decide)
  obtain ⟨rfl, -⟩ := hiff.mpr (by decide)
  have htrespasses : ¬∀ s ∈ [usersAndTable, archiveOnly], ∀ t ∈ s.tables, ¬Trespasses t.name := fun h =>
    h archiveOnly (by decide) ⟨"table/:tableName", none, "shop"⟩ (by decide) ⟨by decide, by decide⟩
  have hroutes := mt hbelow.mp htrespasses
  simp only [not_forall, Classical.not_not, exists_prop] at hroutes
  exact ⟨hpassed, hresolve, hroutes⟩

/-- A service whose first pass was over the second catalog. -/
def archiveFirst : World := (registerSnapshot archiveOnly (.initial "" "")).2

/-- The table answers for the endpoint that shows tables, under a permission of its own. -/
theorem archiveFirst_displaces : Passed [archiveOnly] archiveFirst ∧
    archiveFirst.registry.resolve? "GET" "/table/:tableName" =
      some ⟨"/table/:tableName", "GET", "table/:tableName:select", .list, some "table/:tableName"⟩ ∧
    firstSegment "/table/:tableName" ∈ reservedSegments :=
  ⟨.given archiveOnly (.initial "" ""), by decide, by decide⟩

end Service

end SchemaRest
