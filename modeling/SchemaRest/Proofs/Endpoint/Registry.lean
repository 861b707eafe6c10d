import SchemaRest.Endpoint.Registry

/-!
# What a registry holds

Registration seen through `resolve?`: what was there stays, and of what is new the first counts. What
holds of every endpoint before and of every endpoint added holds of every endpoint after.
-/

namespace SchemaRest

/-- A name that no path of the service itself starts with. -/
def Unreserved (name : String) : Prop := name ∉ reservedSegments

instance (name : String) : Decidable (Unreserved name) :=
  inferInstanceAs (Decidable (name ∉ reservedSegments))

/-- The endpoints the service makes: those of tables whose names have a property, and its own. -/
inductive Endpoint.Made (P : String → Prop) : Endpoint → Prop
  | table (t : String) (h : Handler) (ht : P t) (hh : h ∈ Handler.tableScoped) : Made P (.ofTable t h)
  | administrative (h : Handler) (hh : h ∈ Handler.administrative) : Made P (.administrative h)

theorem Handler.permission_of_tableScoped {h : Handler} (hh : h ∈ tableScoped) (t : String) :
    h.permission t = t ++ ":" ++ h.action :=
  if_pos (List.contains_iff_mem.mpr hh)

namespace Registry

variable {r : Registry} {e : Endpoint} {es : List Endpoint} {method path : String}

theorem answers_self (e : Endpoint) : e.answers e.method e.path = true := by
  simp [Endpoint.answers]

theorem answers_iff (e : Endpoint) (method path : String) :
    e.answers method path = true ↔ e.method = method ∧ e.path = path := by
  simp [Endpoint.answers]

theorem mem_of_resolve? (h : r.resolve? method path = some e) : e ∈ r.endpoints :=
  List.mem_of_find?_eq_some h

theorem answers_of_resolve? (h : r.resolve? method path = some e) :
    e.method = method ∧ e.path = path := by
  have hanswers := List.find?_some h
  exact (answers_iff e method path).mp hanswers

theorem registerAll_snd (r : Registry) (es : List Endpoint) :
    (r.registerAll es).2 = es.foldl (fun r e => (r.register e).2) r :=
  (List.foldl_hom Prod.snd fun _ _ => rfl).symm

theorem registerAll_cons (r : Registry) (e : Endpoint) (es : List Endpoint) :
    (r.registerAll (e :: es)).2 = ((r.register e).2.registerAll es).2 := by
  rw [registerAll_snd, registerAll_snd, List.foldl_cons]

/-- What one registration keeps a pass keeps. -/
theorem registerAll_induct {R : Registry → Prop} (h : R r)
    (hstep : ∀ r, R r → ∀ e ∈ es, R (r.register e).2) : R (r.registerAll es).2 := by
  rw [registerAll_snd]
  exact List.foldlRecOn es _ h hstep

theorem register_endpoints (r : Registry) (e : Endpoint) :
    ∀ d ∈ (r.register e).2.endpoints, d ∈ r.endpoints ∨ d = e := by
  intro d hd
  unfold register at hd
  split at hd
  · exact .inl hd
  · rcases List.mem_append.mp hd with hd | hd
    · exact .inl hd
    · exact .inr (List.mem_singleton.mp hd)

theorem registerAll_endpoints (r : Registry) (es : List Endpoint) :
    ∀ d ∈ (r.registerAll es).2.endpoints, d ∈ r.endpoints ∨ d ∈ es := by
  refine registerAll_induct (R := fun s => ∀ d ∈ s.endpoints, d ∈ r.endpoints ∨ d ∈ es)
    (fun d hd => .inl hd) ?_
  intro s h e he d hd
  rcases register_endpoints s e d hd with hd | rfl
  · exact h d hd
  · exact .inr he

/-- What resolves still resolves to the same endpoint after a registration. -/
theorem resolve?_register_of_some (d : Endpoint) (h : r.resolve? method path = some e) :
    (r.register d).2.resolve? method path = some e := by
  unfold register
  split
  · exact h
  · rw [resolve?, List.find?_append]
    rw [resolve?] at h
    rw [h]
    rfl

theorem resolve?_registerAll_of_some (es : List Endpoint) (h : r.resolve? method path = some e) :
    (r.registerAll es).2.resolve? method path = some e :=
  registerAll_induct (R := fun s => s.resolve? method path = some e) h
    fun _ hs d _ => resolve?_register_of_some d hs

/-- Whatever was registered, something answers under its key. -/
theorem resolve?_register_isSome (r : Registry) (e : Endpoint) :
    ((r.register e).2.resolve? e.method e.path).isSome := by
  unfold register
  split
  · next h => exact h
  · rw [resolve?, List.find?_append, Option.isSome_or]
    have hself : [e].find? (·.answers e.method e.path) = some e :=
      List.find?_cons_of_pos (answers_self e)
    rw [hself]
    exact Bool.or_true _

theorem resolve?_registerAll_isSome (r : Registry) (h : e ∈ es) :
    ((r.registerAll es).2.resolve? e.method e.path).isSome := by
  induction es generalizing r with
  | nil => cases h
  | cons d es ih =>
    rw [registerAll_cons]
    rcases List.mem_cons.mp h with rfl | h
    · obtain ⟨d, hd⟩ := Option.isSome_iff_exists.mp (resolve?_register_isSome r e)
      rw [resolve?_registerAll_of_some es hd]
      rfl
    · exact ih (r.register d).2 h

/-- What resolves is what was there, or else what was added. -/
theorem resolve?_register (r : Registry) (e : Endpoint) :
    (r.register e).2.resolve? method path =
      (r.resolve? method path).or ([e].find? (·.answers method path)) := by
  unfold register
  split
  · next hthere =>
    by_cases hanswers : e.answers method path = true
    · obtain ⟨rfl, rfl⟩ := (answers_iff e method path).mp hanswers
      rw [Option.or_of_isSome hthere]
    · have hnone : [e].find? (·.answers method path) = none := by simpa using hanswers
      rw [hnone, Option.or_none]
  · rw [resolve?, List.find?_append, resolve?]

/-- Of everything registered the first with a key answers for it. -/
theorem resolve?_registerAll (r : Registry) (es : List Endpoint) :
    (r.registerAll es).2.resolve? method path =
      (r.resolve? method path).or (es.find? (·.answers method path)) := by
  induction es generalizing r with
  | nil => exact (Option.or_none).symm
  | cons e es ih =>
    rw [registerAll_cons, ih, resolve?_register, Option.or_assoc, ← List.find?_append,
      List.singleton_append]

theorem isEmpty_registerAll_empty (es : List Endpoint) :
    (empty.registerAll es).2.isEmpty = es.isEmpty := by
  cases es with
  | nil => rfl
  | cons e es =>
    have hsome := resolve?_registerAll_isSome empty (List.mem_cons_self (a := e) (l := es))
    obtain ⟨d, hd⟩ := Option.isSome_iff_exists.mp hsome
    exact List.isEmpty_eq_false_iff.mpr (List.ne_nil_of_mem (mem_of_resolve? hd))

theorem mem_tables (r : Registry) (t : String) :
    t ∈ r.tables ↔ ∃ e ∈ r.endpoints, e.table = some t := by
  rw [tables, List.mem_mergeSort, List.mem_eraseDups, List.mem_filterMap]

theorem registerAll_append (r : Registry) (ds es : List Endpoint) :
    (r.registerAll (ds ++ es)).2 = ((r.registerAll ds).2.registerAll es).2 := by
  rw [registerAll_snd, registerAll_snd, registerAll_snd, List.foldl_append]

end Registry

/-- A snapshot makes endpoints for its own tables only. -/
theorem Catalog.Snapshot.made_endpoints {P : String → Prop} {s : Catalog.Snapshot}
    (hs : ∀ t ∈ s.tables, P t.name) : ∀ e ∈ s.endpoints, e.Made P := by
  intro e he
  rcases List.mem_append.mp he with he | he
  · obtain ⟨t, ht, he⟩ := List.mem_flatMap.mp he
    obtain ⟨h, hh, rfl⟩ := List.mem_map.mp he
    exact .table t.name h (hs t ht) hh
  · obtain ⟨h, hh, rfl⟩ := List.mem_map.mp he
    exact .administrative h hh

end SchemaRest
