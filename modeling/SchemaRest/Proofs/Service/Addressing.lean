import SchemaRest.Proofs.Request.Segments
import SchemaRest.Proofs.Service.History
import SchemaRest.Proofs.Service.Routing

/-!
# Addresses of rows

The address of a row is the root, the name of its table and its id, one segment each. Whatever characters
they have, the handlers of the row get them back from the address. Three things stand in the way. The word
`query` in the place of an id is a fixed segment, and taken by another method only. Parameters in the root
come before those of the address. And where a table is named like the path of the rows of another, the
first of the two that was registered answers.
-/

namespace SchemaRest.Service

open Handler (tableScoped administrative)

/-! ## Requests that reach a handler -/

section

variable (settings : Settings) (r : Request) (w : World)

/-- A request is dispatched to an endpoint with a parameter. -/
def Dispatched (e : Endpoint) (param : String) : Prop :=
  ∃ route pattern, entered? settings r = some route ∧ route.pattern? = some pattern ∧
    route.param = param ∧ w.registry.resolve? r.method pattern = some e

/-- A request that is not refused for the length of its body. -/
structure Fits : Prop where
  announced : (announced? r).any (bodyLimit < ·) = false
  received : r.body.size ≤ readable r

end

/-! ## What answers for a row -/

section

variable {h g : Handler} {name t : String} {ss : List Catalog.Snapshot} {w : World}

theorem mem_tableScoped_of_row : ∀ h ∈ [Handler.getOne, .update, .delete],
    h ∈ tableScoped ∧ h.tail = "/:id" ∧ h.method ∈ ["GET", "PUT", "DELETE"] := by decide

theorem path_row (hh : h ∈ [Handler.getOne, .update, .delete]) (t : String) :
    h.path t = "/" ++ t ++ "/:id" := by
  obtain ⟨hscoped, htail, -⟩ := mem_tableScoped_of_row h hh
  rw [Handler.path_eq hscoped, htail]

/-- A table answers for a row of its own, or its whole list does where its name is the path of that row. -/
theorem answers_row_iff (hh : h ∈ [Handler.getOne, .update, .delete]) (hg : g ∈ tableScoped) :
    (Endpoint.ofTable name g).answers h.method (h.path t) = true ↔
      name = t ∧ g = h ∨ name = t ++ "/:id" ∧ g = .list ∧ h = .getOne := by
  rw [Registry.answers_iff]
  show g.method = h.method ∧ g.path name = h.path t ↔ _
  rw [Handler.path_eq hg, path_row hh]
  constructor
  · rintro ⟨hmethod, hpath⟩
    have hrest : name ++ g.tail = t ++ "/:id" := by
      rw [String.append_assoc, String.append_assoc] at hpath
      exact (String.append_right_inj _).mp hpath
    have hkinds : ∀ g ∈ tableScoped, ∀ h ∈ [Handler.getOne, .update, .delete], g.method = h.method →
        g.tail = "/:id" ∧ g = h ∨ g.tail = "" ∧ g = .list ∧ h = .getOne := by decide
    rcases hkinds g hg h hh hmethod with ⟨htail, rfl⟩ | ⟨htail, rfl, rfl⟩
    · rw [htail] at hrest
      exact .inl ⟨(String.append_left_inj _).mp hrest, rfl⟩
    · rw [htail, String.append_empty] at hrest
      exact .inr ⟨hrest, rfl, rfl⟩
  · rintro (⟨rfl, rfl⟩ | ⟨rfl, rfl, rfl⟩)
    · exact ⟨rfl, by rw [(mem_tableScoped_of_row g hh).2.1]⟩
    · exact ⟨rfl, by rw [← String.append_assoc]; exact String.append_empty⟩

/-- Whether the table of a name would answer for the rows of `t`. -/
def contends (h : Handler) (t name : String) : Bool :=
  name == t || (h == .getOne && name == t ++ "/:id")

/-- The endpoint it would answer with. -/
def contender (h : Handler) (t name : String) : Endpoint :=
  if name = t then .ofTable t h else .ofTable name .list

theorem find?_ofTable_row (hh : h ∈ [Handler.getOne, .update, .delete]) (t name : String) :
    (tableScoped.map (Endpoint.ofTable name)).find? (·.answers h.method (h.path t)) =
      if contends h t name then some (contender h t name) else none := by
  cases hfind : (tableScoped.map (Endpoint.ofTable name)).find? (·.answers h.method (h.path t)) with
  | none =>
    have hnone := List.find?_eq_none.mp hfind
    have hcontends : ¬contends h t name = true := by
      intro hcontends
      rw [contends, Bool.or_eq_true, Bool.and_eq_true, beq_iff_eq, beq_iff_eq, beq_iff_eq] at hcontends
      rcases hcontends with rfl | ⟨rfl, rfl⟩
      · have hscoped := (mem_tableScoped_of_row h hh).1
        exact hnone _ (List.mem_map_of_mem hscoped)
          ((answers_row_iff hh hscoped).mpr (.inl ⟨rfl, rfl⟩))
      · exact hnone _ (List.mem_map_of_mem (a := .list) (by decide))
          ((answers_row_iff hh (by decide)).mpr (.inr ⟨rfl, rfl, rfl⟩))
    rw [if_neg hcontends]
  | some e =>
    obtain ⟨g, hg, rfl⟩ := List.mem_map.mp (List.mem_of_find?_eq_some hfind)
    have hanswers := List.find?_some hfind
    rcases (answers_row_iff hh hg).mp hanswers with ⟨rfl, rfl⟩ | ⟨rfl, rfl, rfl⟩
    · simp [contends, contender]
    · simp [contends, contender]

/-- The tables of a history that were served, in the order of their registration. -/
def namesOf (ss : List Catalog.Snapshot) : List String :=
  ss.flatMap fun s => s.served.tables.map (·.name)

theorem find?_tables_row (hh : h ∈ [Handler.getOne, .update, .delete]) (t : String)
    (tables : List Catalog.TableInfo) :
    (tables.flatMap fun t => tableScoped.map (Endpoint.ofTable t.name)).find?
        (·.answers h.method (h.path t)) =
      ((tables.map (·.name)).find? (contends h t)).map (contender h t) := by
  induction tables with
  | nil => rfl
  | cons first tables ih =>
    rw [List.flatMap_cons, List.find?_append, find?_ofTable_row hh, ih, List.map_cons, List.find?_cons]
    cases contends h t first.name <;> rfl

/-- The service itself has nothing under the paths of rows. -/
theorem find?_administrative_row (hh : h ∈ [Handler.getOne, .update, .delete]) (t : String) :
    (administrative.map Endpoint.administrative).find? (·.answers h.method (h.path t)) = none := by
  rw [List.find?_eq_none]
  intro e he hanswers
  obtain ⟨g, hg, rfl⟩ := List.mem_map.mp he
  obtain ⟨hscoped, htail, -⟩ := mem_tableScoped_of_row h hh
  have hpath := ((Registry.answers_iff _ _ _).mp hanswers).2
  rw [Handler.path_eq hscoped] at hpath
  exact Endpoint.Made.path_ne_of_administrative hscoped hg (by rw [htail]; decide) hpath

theorem find?_endpointsOf_row (hh : h ∈ [Handler.getOne, .update, .delete]) (t : String)
    (ss : List Catalog.Snapshot) :
    (endpointsOf ss).find? (·.answers h.method (h.path t)) =
      ((namesOf ss).find? (contends h t)).map (contender h t) := by
  induction ss with
  | nil => rfl
  | cons s ss ih =>
    have hcons : endpointsOf (s :: ss) = s.served.endpoints ++ endpointsOf ss := rfl
    have hnames : namesOf (s :: ss) = s.served.tables.map (·.name) ++ namesOf ss := rfl
    rw [hcons, hnames, List.find?_append, ih, Catalog.Snapshot.endpoints, List.find?_append,
      find?_tables_row hh, find?_administrative_row hh, Option.or_none, List.find?_append]
    cases (s.served.tables.map (·.name)).find? (contends h t) <;> rfl

/-- A row is answered by its own table where that is the first table that would answer. -/
theorem resolve?_row_iff (hw : Passed ss w) (hh : h ∈ [Handler.getOne, .update, .delete]) (t : String) :
    w.registry.resolve? h.method (h.path t) = some (.ofTable t h) ↔
      (namesOf ss).find? (contends h t) = some t := by
  rw [hw.resolve?, find?_endpointsOf_row hh, Option.map_eq_some_iff]
  constructor
  · rintro ⟨name, hname, hcontender⟩
    have htable := congrArg Endpoint.table hcontender
    unfold contender at htable
    split at htable
    · next heq => rw [hname, heq]
    · rw [hname]
      exact htable
  · intro hfind
    exact ⟨t, hfind, if_pos rfl⟩

/-- Without a slash in the names of tables each answers for its own rows. -/
theorem find?_contends_of_slashFree (ht : t ∈ namesOf ss) (hfree : ∀ name ∈ namesOf ss, SlashFree name) :
    (namesOf ss).find? (contends h t) = some t := by
  have hself : contends h t t = true := by simp [contends]
  obtain ⟨name, hname⟩ := Option.isSome_iff_exists.mp (List.find?_isSome.mpr ⟨t, ht, hself⟩)
  have hcontends := List.find?_some hname
  rw [contends, Bool.or_eq_true, Bool.and_eq_true, beq_iff_eq, beq_iff_eq, beq_iff_eq] at hcontends
  rcases hcontends with rfl | ⟨-, rfl⟩
  · exact hname
  · refine absurd ?_ (hfree _ (List.mem_of_find?_eq_some hname))
    rw [String.toList_append]
    exact List.mem_append_right _ (by decide)

theorem unreserved_of_mem_namesOf (ht : t ∈ namesOf ss) : Unreserved t := by
  obtain ⟨s, -, hmem⟩ := List.mem_flatMap.mp ht
  obtain ⟨info, hinfo, rfl⟩ := List.mem_map.mp hmem
  exact (mem_served hinfo).2

end

/-! ## The address of a row -/

/-- The path of the row with an id in a table. -/
def rowPath (apiRoot t id : String) : String :=
  apiRoot ++ "/" ++ Target.encodeSegment t ++ "/" ++ Target.encodeSegment id

namespace Route

theorem segments_append {path segment : String} (hsegment : '/' ∉ segment.toList) :
    segments (path ++ "/" ++ segment) = segments path ++ [segment] := by
  have hchars : (path ++ "/" ++ segment).toList = path.toList ++ '/' :: segment.toList := by
    rw [String.toList_append, String.toList_append, List.append_assoc]
    rfl
  have hpieces : Text.pieces '/' (path ++ "/" ++ segment) = Text.pieces '/' path ++ [segment] := by
    rw [Text.pieces, hchars, Text.piecesFrom_append_cons, Text.piecesFrom_of_not_mem [] hsegment,
      List.map_append, Text.pieces]
    simp
  have hfirst : 1 ≤ (Text.pieces '/' path).length := by
    rw [Text.pieces, List.length_map]
    exact List.length_pos_iff.mpr (Text.piecesFrom_ne_nil _ _)
  rw [segments, hpieces, List.drop_append_of_le_length hfirst, segments]

theorem segments_rowPath (apiRoot t id : String) : segments (rowPath apiRoot t id) =
    segments apiRoot ++ [Target.encodeSegment t, Target.encodeSegment id] := by
  have hslash : ∀ text, '/' ∉ (Target.encodeSegment text).toList := fun text hmem =>
    (Target.mem_encodeSegment hmem).2 rfl
  rw [rowPath, segments_append (hslash id), segments_append (hslash t), List.append_assoc]
  rfl

/-- What the parameters of a root stand for in a path that starts with the root as it is written. -/
def captures (root : List String) : List String :=
  root.filterMap fun s => (Text.cut? ':' s).map fun p => ":" ++ p.2

theorem takeRoot_self (root rest : List String) (outer : PathParams) :
    ∃ found, takeRoot outer root (root ++ rest) = some (found, rest) ∧
      found.map (·.2) = outer.reverse.map (·.2) ++ captures root := by
  induction root generalizing outer with
  | nil => exact ⟨outer.reverse, rfl, (List.append_nil _).symm⟩
  | cons s root ih =>
    rw [List.cons_append, takeRoot, captures, List.filterMap_cons]
    cases hcut : Text.cut? ':' s with
    | none =>
      dsimp only
      rw [if_pos rfl]
      exact ih outer
    | some cut =>
      obtain ⟨start, name⟩ := cut
      obtain ⟨hs, -⟩ := Text.cut?_eq_some_iff.mp hcut
      have hafter : Text.after? start s = some (":" ++ name) := by
        rw [Text.after?_eq_some_iff, ← String.toList_inj, String.toList_append, hs]
        simp
      dsimp only
      rw [hafter]
      dsimp only
      obtain ⟨found, hfound, hvalues⟩ := ih ((name, ":" ++ name) :: outer)
      refine ⟨found, hfound, ?_⟩
      rw [hvalues]
      simp [captures]

theorem ofSegments?_row {a b : String} (ha : Unreserved a) (hb : b ≠ "") :
    ofSegments? [a, b] = some (if b = "query" then .query a else .item a b) := by
  have hlast : [a, b].getLast? ≠ some "" := by simpa using hb
  have hdocs : a ≠ "docs" := fun h => ha (by rw [h]; decide)
  have htable : a ≠ "table" := fun h => ha (by rw [h]; decide)
  have haction : a ≠ "zero-code" := fun h => ha (by rw [h]; decide)
  unfold ofSegments?
  rw [if_neg hlast]
  split <;> simp_all

theorem mapM_decodeParam_iff {ps : PathParams} {values : List String} :
    ps.mapM decodeParam = .ok values ↔
      ps.map (fun p => Target.decodeSegment? p.2) = values.map some := by
  refine ⟨mapM_decodeParam, fun h => ?_⟩
  induction ps generalizing values with
  | nil =>
    cases values with
    | nil => rfl
    | cons value values => cases h
  | cons p ps ih =>
    cases values with
    | nil => cases h
    | cons value values =>
      obtain ⟨hvalue, hvalues⟩ := List.cons.inj h
      have hparam : decodeParam p = .ok value := by
        unfold decodeParam
        rw [show Target.decodeSegment? p.2 = some value from hvalue]
      rw [List.mapM_cons, hparam, ih hvalues]
      rfl

/-- A row is given by the first two of the parameters in the root and of its own. -/
theorem decoded_item_iff {outer : PathParams} {a b : String} {route : Route} :
    Place.decoded ⟨outer, .item a b⟩ = .ok route ↔ ∃ t id more,
      (outer.map (·.2) ++ [a, b]).map Target.decodeSegment? = (t :: id :: more).map some ∧
        route = .item t id := by
  constructor
  · intro h
    have hdecodes := decodes_of_decoded h
    cases hdecodes with
    | fixed hparams => cases hparams
    | item hvalues => exact ⟨_, _, _, hvalues, rfl⟩
  · rintro ⟨t, id, more, hvalues, rfl⟩
    have hall : (outer ++ (Route.item a b).params).mapM decodeParam = .ok (t :: id :: more) := by
      refine mapM_decodeParam_iff.mpr (Eq.trans ?_ hvalues)
      rw [List.map_append, List.map_append, List.map_map]
      rfl
    rw [Place.decoded, if_neg (by simp [params]), hall]
    rfl

theorem unreserved_encodeSegment {t : String} (ht : Unreserved t) :
    Unreserved (Target.encodeSegment t) := by
  intro hreserved
  have hplain : ∀ s ∈ reservedSegments, '%' ∉ s.toList := by decide
  have heq := Target.eq_of_encodeSegment_eq (hplain _ hreserved) rfl
  rw [← heq] at hreserved
  exact ht hreserved

theorem encodeSegment_eq_query_iff {id : String} : Target.encodeSegment id = "query" ↔ id = "query" := by
  constructor
  · exact Target.eq_of_encodeSegment_eq (by decide)
  · rintro rfl
    decide +kernel

theorem ofPath?_row (apiRoot : String) {t id : String} (ht : Unreserved t) (hid : id ≠ "") :
    ∃ outer, outer.map (·.2) = captures (segments apiRoot) ∧
      ofPath? apiRoot (rowPath apiRoot t id) = some ⟨outer,
        if id = "query" then .query (Target.encodeSegment t)
        else .item (Target.encodeSegment t) (Target.encodeSegment id)⟩ := by
  have hslashes : 2 ≤ (rowPath apiRoot t id).toList.count '/' := by
    have hslash : "/".toList.count '/' = 1 := rfl
    rw [rowPath]
    simp only [String.toList_append, List.count_append, hslash]
    omega
  have hhealth : rowPath apiRoot t id ≠ "/health" := fun h => by
    rw [h] at hslashes
    exact absurd hslashes (by decide)
  have hready : rowPath apiRoot t id ≠ "/ready" := fun h => by
    rw [h] at hslashes
    exact absurd hslashes (by decide)
  obtain ⟨outer, hroot, hvalues⟩ := takeRoot_self (segments apiRoot)
    [Target.encodeSegment t, Target.encodeSegment id] []
  refine ⟨outer, hvalues, ?_⟩
  have hshape := ofSegments?_row (unreserved_encodeSegment ht) (Target.encodeSegment_ne_empty hid)
  simp only [encodeSegment_eq_query_iff] at hshape
  rw [ofPath?, if_neg (by simpa using hhealth), if_neg (by simpa using hready), segments_rowPath, hroot]
  dsimp only
  rw [hshape, Option.map_some]

end Route

/-! ## Every row but one -/

section

variable {settings : Settings} {r : Request} {w : World} {ss : List Catalog.Snapshot} {h : Handler}
  {t id : String}

/-- The parameters in the root do not come in the place of the table and the id. -/
def Unshifted (apiRoot t id : String) : Prop :=
  ∃ more, (Route.captures (Route.segments apiRoot)).map Target.decodeSegment? ++ [some t, some id] =
    (t :: id :: more).map some

/-- A request for a row enters the route of the row, unless the id is taken for a fixed segment. -/
theorem entered_row_iff (ht : Unreserved t) (hid : id ≠ "")
    (hmethod : r.method ∈ ["GET", "PUT", "DELETE"])
    (hpath : Target.path r.uri = rowPath settings.apiRoot t id) {route : Route} :
    entered? settings r = some route ↔ Fits r ∧ id ≠ "query" ∧ ∃ table key more,
      (Route.captures (Route.segments settings.apiRoot)).map Target.decodeSegment? ++ [some t, some id] =
        (table :: key :: more).map some ∧ route = .item table key := by
  obtain ⟨outer, hvalues, hplace⟩ := Route.ofPath?_row settings.apiRoot ht hid
  have hdecoded : ∀ values : List String, (outer.map (·.2) ++ [Target.encodeSegment t,
      Target.encodeSegment id]).map Target.decodeSegment? = values.map some ↔
        (Route.captures (Route.segments settings.apiRoot)).map Target.decodeSegment? ++
          [some t, some id] = values.map some := by
    intro values
    rw [hvalues, List.map_append, List.map_cons, List.map_cons, List.map_nil,
      Target.decodeSegment?_encodeSegment, Target.decodeSegment?_encodeSegment]
  have hoptions : r.method ≠ "OPTIONS" := fun h => absurd (h ▸ hmethod) (by decide)
  rw [entered?_eq_some_iff, hpath, hplace]
  constructor
  · rintro ⟨hshort, -, place, hfound, htakes, hroute, hbody⟩
    cases hfound
    have hquery : id ≠ "query" := by
      rintro rfl
      rw [if_pos rfl] at htakes
      have hposts : ∀ method ∈ ["GET", "PUT", "DELETE"], method ∉ ["POST"] := by decide
      exact hposts _ hmethod htakes
    rw [if_neg hquery] at hroute
    obtain ⟨table, key, more, hall, rfl⟩ := Route.decoded_item_iff.mp hroute
    exact ⟨⟨hshort, hbody rfl⟩, hquery, table, key, more, (hdecoded _).mp hall, rfl⟩
  · rintro ⟨hfits, hquery, table, key, more, hall, rfl⟩
    rw [if_neg hquery]
    refine ⟨hfits.announced, hoptions, _, rfl, ?_, ?_, fun _ => hfits.received⟩
    · have htakes : ∀ method ∈ ["GET", "PUT", "DELETE"], method ∈ ["GET", "HEAD", "PUT", "DELETE"] := by
        decide
      exact htakes _ hmethod
    · exact Route.decoded_item_iff.mpr ⟨table, key, more, (hdecoded _).mpr hall, rfl⟩

/-- The fixed segment is found first, and it does not take the methods of a row. -/
theorem serve_query (w : World) (ht : Unreserved t) (hmethod : r.method ∈ ["GET", "PUT", "DELETE"])
    (hfits : Fits r) (hpath : Target.path r.uri = rowPath settings.apiRoot t "query") :
    serve settings r w = (.empty 405, w) := by
  have hid : "query" ≠ "" := by decide
  obtain ⟨outer, -, hplace⟩ := Route.ofPath?_row settings.apiRoot ht hid
  rw [if_pos rfl] at hplace
  have hoptions : ¬(r.method == "OPTIONS") = true := by
    rw [beq_iff_eq]
    exact fun h => absurd (h ▸ hmethod) (by decide)
  have hposts : (!(["POST"].contains r.method)) = true := by
    have hnone : ∀ method ∈ ["GET", "PUT", "DELETE"], (!(["POST"].contains method)) = true := by decide
    exact hnone _ hmethod
  unfold serve
  rw [hfits.announced, if_neg Bool.false_ne_true, if_neg hoptions, hpath, hplace]
  exact congrFun (if_pos hposts) w

/-- A request for a row is dispatched to the handler of its method, with the table and the id that it was
made from, unless the id is the word `query`. This is so under a root without parameters and with tables
without a slash in their names; otherwise no parameter of the root and no other table may come first. The
one row is not served at all. -/
theorem addressed_of_passed (hw : Passed ss w) (ht : t ∈ namesOf ss)
    (hh : h ∈ [Handler.getOne, .update, .delete]) (hid : id ≠ "") (hmethod : r.method = h.method)
    (hpath : Target.path r.uri = rowPath settings.apiRoot t id) :
    (Dispatched settings r w (.ofTable t h) id ↔ Fits r ∧ id ≠ "query" ∧
      Unshifted settings.apiRoot t id ∧ (namesOf ss).find? (contends h t) = some t) ∧
    (Fits r → Route.captures (Route.segments settings.apiRoot) = [] →
      (∀ name ∈ namesOf ss, SlashFree name) →
        (Dispatched settings r w (.ofTable t h) id ↔ id ≠ "query")) ∧
    (Fits r → id = "query" → serve settings r w = (.empty 405, w)) := by
  have hunreserved := unreserved_of_mem_namesOf ht
  have htakes : r.method ∈ ["GET", "PUT", "DELETE"] := by
    rw [hmethod]
    exact (mem_tableScoped_of_row h hh).2.2
  have hentered (route : Route) := @entered_row_iff settings r t id hunreserved hid htakes hpath route
  have hanswers := resolve?_row_iff hw hh t
  have hdispatched : Dispatched settings r w (.ofTable t h) id ↔ Fits r ∧ id ≠ "query" ∧
      Unshifted settings.apiRoot t id ∧ (namesOf ss).find? (contends h t) = some t := by
    constructor
    · rintro ⟨route, pattern, hroute, hpattern, hparam, hresolve⟩
      obtain ⟨hfits, hquery, table, key, more, hall, rfl⟩ := (hentered route).mp hroute
      cases hparam
      cases hpattern
      have hself := (Registry.answers_of_resolve? hresolve).2
      have htable : t = table := by
        have heq : "/" ++ t ++ "/:id" = "/" ++ table ++ "/:id" := (path_row hh t).symm.trans hself
        exact (String.append_right_inj _).mp ((String.append_left_inj _).mp heq)
      cases htable
      rw [hmethod, ← path_row hh] at hresolve
      exact ⟨hfits, hquery, ⟨more, hall⟩, hanswers.mp hresolve⟩
    · rintro ⟨hfits, hquery, ⟨more, hall⟩, hfirst⟩
      refine ⟨.item t id, _, (hentered _).mpr ⟨hfits, hquery, t, id, more, hall, rfl⟩, rfl, rfl, ?_⟩
      rw [hmethod, ← path_row hh]
      exact hanswers.mpr hfirst
  refine ⟨hdispatched, fun hfits hroot hfree => ?_, fun hfits hquery => ?_⟩
  · have hunshifted : Unshifted settings.apiRoot t id := ⟨[], by rw [hroot]; rfl⟩
    rw [hdispatched]
    exact ⟨fun h => h.2.1, fun h => ⟨hfits, h, hunshifted, find?_contends_of_slashFree ht hfree⟩⟩
  · subst hquery
    exact serve_query w hunreserved htakes hfits hpath

end

theorem fits_requestOf (method uri : String) : Fits (requestOf method uri) := ⟨rfl, Nat.zero_le _⟩

/-- The catalog of `usersOnly`. -/
def usersCatalog : Catalog.Snapshot := ⟨[⟨"users", none, "shop"⟩], [("users", [])]⟩

theorem passed_usersOnly : Passed [usersCatalog] usersOnly := .given usersCatalog (.initial "" "")

/-- An id with a slash in it. -/
theorem addressed_slashed : Passed [usersCatalog] usersOnly ∧ "users" ∈ namesOf [usersCatalog] ∧
    Target.path "/api/users/a%2Fb" = rowPath openSettings.apiRoot "users" "a/b" ∧
    Dispatched openSettings (requestOf "PUT" "/api/users/a%2Fb") usersOnly
      (.ofTable "users" .update) "a/b" := by
  have hnames : "users" ∈ namesOf [usersCatalog] := by decide
  have hpath : Target.path "/api/users/a%2Fb" = rowPath openSettings.apiRoot "users" "a/b" := by
    decide +kernel
  have hmethod : (requestOf "PUT" "/api/users/a%2Fb").method = Handler.update.method := rfl
  obtain ⟨-, hdispatched, -⟩ :=
    addressed_of_passed passed_usersOnly hnames (by decide) (by decide) hmethod hpath
  exact ⟨passed_usersOnly, hnames, hpath,
    (hdispatched (fits_requestOf _ _) (by decide +kernel) (by decide)).mpr (by decide)⟩

/-- The row with the id `query` cannot be read. -/
theorem query_unaddressed : Passed [usersCatalog] usersOnly ∧ "users" ∈ namesOf [usersCatalog] ∧
    SlashFree "users" ∧ Target.path "/api/users/query" = rowPath openSettings.apiRoot "users" "query" ∧
    ¬Dispatched openSettings (requestOf "GET" "/api/users/query") usersOnly
      (.ofTable "users" .getOne) "query" ∧
    (serve openSettings (requestOf "GET" "/api/users/query") usersOnly).1.status = 405 := by
  have hpath : Target.path "/api/users/query" = rowPath openSettings.apiRoot "users" "query" := by
    decide +kernel
  refine ⟨passed_usersOnly, by decide, by decide, hpath, ?_, ?_⟩
  · rintro ⟨route, -, hentered, -⟩
    have hroute := @entered_row_iff openSettings (requestOf "GET" "/api/users/query") "users" "query"
      (by decide) (by decide) (by decide) hpath route
    exact (hroute.mp hentered).2.1 rfl
  · rw [serve_query usersOnly (by decide) (by decide) (fits_requestOf _ _) hpath]
    rfl

end SchemaRest.Service
