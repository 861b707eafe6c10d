import SchemaRest.Proofs.Json.Pointer
import SchemaRest.Proofs.Json.Records
import SchemaRest.Proofs.Endpoint.Paths
import SchemaRest.Proofs.Service.Access

/-!
# Which paths run which handlers

A path is cut at its slashes before escapes are read, and the key that is looked up is put together
afterwards. So a segment that stands alone may hold a slash of its own and be taken for two: such a path
runs a handler of a row without an id. Under a root without parameters nothing else can go wrong, and with
parameters in the root a handler of a row takes the first two of them and of the path.
-/

namespace SchemaRest.Service

open Effect

/-! ## What a request is dispatched to -/

section

variable (settings : Settings) (r : Request) (w : World)

/-- The route that a request enters, if it is not turned away before. -/
def entered? : Option Route :=
  if (announced? r).any (bodyLimit < ·) || r.method == "OPTIONS" then none
  else match Route.ofPath? settings.apiRoot (Target.path r.uri) with
    | none => none
    | some place =>
      if !place.route.methods.contains r.method then none
      else match place.decoded with
        | .error _ => none
        | .ok route => if route.takesBody && readable r < r.body.size then none else some route

/-- What the handler is given. -/
def callOf (param : String) : Call := ⟨contextOf settings.apiRoot r, param, r.body⟩

/-- Serving a request runs an endpoint with a parameter. -/
def Runs (e : Endpoint) (param : String) : Prop :=
  ∃ route pattern, entered? settings r = some route ∧ route.pattern? = some pattern ∧
    route.param = param ∧ w.registry.resolve? r.method pattern = some e ∧
    (decision settings (callOf settings r param) w e).1 = .ok true

variable {settings r} in
theorem entered?_eq_some_iff {route : Route} : entered? settings r = some route ↔
    (announced? r).any (bodyLimit < ·) = false ∧ r.method ≠ "OPTIONS" ∧
      ∃ place, Route.ofPath? settings.apiRoot (Target.path r.uri) = some place ∧
        r.method ∈ place.route.methods ∧ place.decoded = .ok route ∧
        (route.takesBody = true → r.body.size ≤ readable r) := by
  unfold entered?
  constructor
  · intro h
    split at h
    · cases h
    next hlet =>
      obtain ⟨hshort, hmethod⟩ : (announced? r).any (bodyLimit < ·) = false ∧ r.method ≠ "OPTIONS" := by
        simpa using hlet
      split at h
      · cases h
      next place hplace =>
        split at h
        · cases h
        next htakes =>
          split at h
          · cases h
          next decoded hdecoded =>
            split at h <;> cases h
            next hbody =>
              exact ⟨hshort, hmethod, place, hplace, by simpa using htakes, hdecoded, by simpa using hbody⟩
  · rintro ⟨hshort, hmethod, place, hplace, htakes, hdecoded, hbody⟩
    have hbody : ¬(route.takesBody && decide (readable r < r.body.size)) = true := by simpa using hbody
    rw [hshort, hplace]
    simp [hmethod, htakes, hdecoded, hbody]

/-- A request follows the route that it enters, or it is turned away and changes nothing. -/
theorem serve_apply : serve settings r w = match entered? settings r with
    | none => ((serve settings r w).1, w)
    | some route =>
      let response := (follow settings r route w).1
      (if r.method == "HEAD" then response.withoutContent else response,
        (follow settings r route w).2) := by
  unfold entered? serve
  by_cases hlength : (announced? r).any (bodyLimit < ·) = true
  · rw [hlength, Bool.true_or, if_pos rfl, if_pos rfl]
    rfl
  have hshort := Bool.eq_false_iff.mpr hlength
  rw [if_neg hlength, hshort, Bool.false_or]
  split
  · rfl
  cases Route.ofPath? settings.apiRoot (Target.path r.uri) with
  | none => rfl
  | some place =>
    dsimp only
    split
    · rfl
    unfold enter
    cases place.decoded with
    | error problem => rfl
    | ok route =>
      dsimp only
      split <;> rfl

theorem follow_of_pattern {route : Route} {pattern : String} (h : route.pattern? = some pattern) :
    follow settings r route =
      answered (dispatch settings r.method pattern (callOf settings r route.param)) := by
  cases route with
  | health | ready | docs | document => cases h
  | tables | table | action | collection | query | item =>
    cases h
    rfl

theorem answered_snd (m : Effect Failure Response) (w : World) : (answered m w).2 = (m w).2 := by
  unfold answered
  cases m w with
  | mk r w' => cases r <;> rfl

theorem sends_answers : Database.answers.Sends (· = .prepared "SELECT 1" []) :=
  .bind (Database.sends_rows _) fun _ => .pure _

theorem sends_document (settings : Settings) (c : Context) {P : Sent → Prop} :
    (document settings c).Sends P :=
  .bind (.ofExcept _) fun _ => .bind (.look _) fun _ => .pure _

/-- The fixed pages ask at most whether the database is there. -/
theorem follow_of_no_pattern {route : Route} (h : route.pattern? = none) :
    w.Sends (· = .prepared "SELECT 1" []) (follow settings r route w).2 := by
  cases route with
  | health | docs => exact .refl _ w
  | ready => exact sends_answers w
  | document =>
    rw [follow, answered_snd]
    exact sends_document settings _ w
  | tables | table | action | collection | query | item => cases h

variable {settings r w}

/-- What runs is what was allowed, in the world that the decision left. -/
theorem serve_of_runs {e : Endpoint} {param : String} (h : Runs settings r w e param) :
    serve settings r w =
      let after := answered (run settings e (callOf settings r param))
        (decision settings (callOf settings r param) w e).2
      (if r.method == "HEAD" then after.1.withoutContent else after.1, after.2) := by
  obtain ⟨route, pattern, hentered, hpattern, rfl, hresolve, hallowed⟩ := h
  have hdispatch : dispatch settings r.method pattern (callOf settings r route.param) w =
      run settings e (callOf settings r route.param)
        (decision settings (callOf settings r route.param) w e).2 := by
    rw [dispatch_apply, hresolve]
    rw [decision] at hallowed ⊢
    dsimp only
    split
    · next w' h => rw [h]
    · next w' h =>
      rw [h] at hallowed
      cases hallowed
    · next e w' h =>
      rw [h] at hallowed
      cases hallowed
  rw [serve_apply, hentered]
  dsimp only
  rw [follow_of_pattern settings r hpattern, answered, answered, hdispatch]

end

/-! ## What a path is decoded to -/

theorem percentDecode_ne_nil {bytes : List UInt8} (h : bytes ≠ []) :
    Target.percentDecode bytes ≠ [] := by
  fun_cases Target.percentDecode bytes <;> simp_all

theorem decodeSegment?_ne_empty {written text : String}
    (h : Target.decodeSegment? written = some text) (hwritten : written ≠ "") : text ≠ "" := by
  rintro rfl
  have hdecoded := percentDecode_ne_nil (Text.Utf8.toUTF8_ne_nil hwritten)
  unfold Target.decodeSegment? Text.Utf8.strict? String.fromUTF8? at h
  split at h
  · have hbytes := congrArg String.toByteArray (Option.some.inj h)
    exact hdecoded (congrArg (fun bytes => bytes.data.toList) hbytes)
  · cases h

namespace Route

/-- The segments of a shape as they are written. -/
def written : Route → List String
  | health | ready => []
  | docs => ["docs"]
  | document => ["docs", "openapi.json"]
  | tables => ["table"]
  | table name => ["table", name]
  | action name => ["zero-code", name]
  | collection t => [t]
  | query t => [t, "query"]
  | item t id => [t, id]

theorem written_of_ofSegments? {rest : List String} {shape : Route}
    (h : ofSegments? rest = some shape) : shape.written = rest ∧ rest.getLast? ≠ some "" := by
  unfold ofSegments? at h
  split at h
  · cases h
  · next hlast =>
    split at h <;> cases h <;> exact ⟨rfl, hlast⟩

theorem mapM_decodeParam {ps : PathParams} {values : List String}
    (h : ps.mapM decodeParam = .ok values) :
    ps.map (fun p => Target.decodeSegment? p.2) = values.map some := by
  induction ps generalizing values with
  | nil =>
    cases h
    rfl
  | cons p ps ih =>
    obtain ⟨value, more, hvalue, hmore, rfl⟩ := Decode.mapM_cons_eq_ok h
    rw [List.map_cons, List.map_cons, ih hmore]
    unfold decodeParam at hvalue
    split at hvalue
    · next s hs =>
      cases hvalue
      rw [hs]
    · cases hvalue

/-- What a shape becomes: a handler of one parameter takes no other, and a row takes the first two. -/
inductive Decodes (outer : PathParams) : Route → Route → Prop
  | fixed {shape : Route} (h : shape.params = []) : Decodes outer shape shape
  | table {written name : String} (houter : outer = [])
      (hname : Target.decodeSegment? written = some name) : Decodes outer (.table written) (.table name)
  | action {written name : String} (houter : outer = [])
      (hname : Target.decodeSegment? written = some name) : Decodes outer (.action written) (.action name)
  | collection {written name : String} (houter : outer = [])
      (hname : Target.decodeSegment? written = some name) :
      Decodes outer (.collection written) (.collection name)
  | query {written name : String} (houter : outer = [])
      (hname : Target.decodeSegment? written = some name) : Decodes outer (.query written) (.query name)
  | item {t i name id : String} {more : List String}
      (hvalues : (outer.map (·.2) ++ [t, i]).map Target.decodeSegment? = (name :: id :: more).map some) :
      Decodes outer (.item t i) (.item name id)

/-- One parameter is due, and there is one only under a root without any. -/
theorem single_eq_ok {outer : PathParams} {name written : String} {values : List String}
    {make : String → Route} {route : Route}
    (hvalues : (outer ++ [(name, written)]).map (fun p => Target.decodeSegment? p.2) = values.map some)
    (h : (single values).map make = .ok route) :
    ∃ value, outer = [] ∧ Target.decodeSegment? written = some value ∧ route = make value := by
  have hlength := congrArg List.length hvalues
  unfold single at h
  split at h
  · next value =>
    cases h
    have houter : outer = [] := by simpa using hlength
    rw [houter] at hvalues
    exact ⟨value, houter, by simpa using hvalues, rfl⟩
  · cases h

theorem decodes_of_decoded {place : Place} {route : Route} (h : place.decoded = .ok route) :
    Decodes place.outer place.route route := by
  obtain ⟨outer, shape⟩ := place
  unfold Place.decoded at h
  split at h
  · next hparams =>
    cases h
    exact .fixed (List.isEmpty_iff.mp hparams)
  · next hparams =>
    cases hall : (outer ++ shape.params).mapM decodeParam with
    | error problem =>
      rw [hall] at h
      cases h
    | ok values =>
      rw [hall] at h
      have hvalues := mapM_decodeParam hall
      cases shape with
      | health | ready | docs | document | tables => exact absurd rfl hparams
      | table =>
        obtain ⟨name, houter, hname, rfl⟩ := single_eq_ok hvalues h
        exact .table houter hname
      | action =>
        obtain ⟨name, houter, hname, rfl⟩ := single_eq_ok hvalues h
        exact .action houter hname
      | collection =>
        obtain ⟨name, houter, hname, rfl⟩ := single_eq_ok hvalues h
        exact .collection houter hname
      | query =>
        obtain ⟨name, houter, hname, rfl⟩ := single_eq_ok hvalues h
        exact .query houter hname
      | item t i =>
        -- two parameters are due, and those of the root are not counted
        have hlength := congrArg List.length hvalues
        match values, h with
        | first :: second :: more, h =>
          cases h
          refine .item (Eq.trans ?_ hvalues)
          rw [List.map_append, List.map_append, List.map_map]
          rfl
        | [_], h => simp [params] at hlength
        | [], h => simp [params] at hlength

/-- Where all parameters stand below it, a root is written out at the front of the path. -/
theorem takeRoot_eq_some {outer : PathParams} {root path rest : List String} {found : PathParams}
    (h : takeRoot outer root path = some (found, rest)) :
    outer.length ≤ found.length ∧ (found.length = outer.length → path = root ++ rest) := by
  induction root generalizing outer path with
  | nil =>
    cases h
    exact ⟨by simp, fun _ => rfl⟩
  | cons s root ih =>
    cases path with
    | nil => cases h
    | cons p path =>
      unfold takeRoot at h
      split at h
      · split at h
        · next heq =>
          obtain ⟨hle, hpath⟩ := ih h
          exact ⟨hle, fun hlength => by rw [hpath hlength, heq, List.cons_append]⟩
        · cases h
      · split at h
        · obtain ⟨hle, -⟩ := ih h
          rw [List.length_cons] at hle
          exact ⟨by omega, fun hlength => by omega⟩
        · cases h

end Route

/-- What a request has to be in order to enter a route of the registry. -/
theorem path_of_entered {settings : Settings} {r : Request} {route : Route}
    (h : entered? settings r = some route) (hpattern : route.pattern? ≠ none) :
    ∃ outer rest shape,
      Route.takeRoot [] (Route.segments settings.apiRoot) (Route.segments (Target.path r.uri)) =
        some (outer, rest) ∧ Route.ofSegments? rest = some shape ∧ r.method ∈ shape.methods ∧
      Route.Decodes outer shape route := by
  obtain ⟨-, -, place, hplace, hmethod, hdecoded, -⟩ := entered?_eq_some_iff.mp h
  have hdecodes := Route.decodes_of_decoded hdecoded
  unfold Route.ofPath? at hplace
  split at hplace
  · cases hplace
    cases hdecodes
    exact absurd rfl hpattern
  split at hplace
  · cases hplace
    cases hdecodes
    exact absurd rfl hpattern
  split at hplace
  · cases hplace
  next outer rest hroot =>
    obtain ⟨shape, hshape, rfl⟩ := Option.map_eq_some_iff.mp hplace
    exact ⟨outer, rest, shape, hroot, hshape, hmethod, hdecodes⟩

/-! ## What runs where -/

/-- What is written below the root names the endpoint and its parameter, once its escapes are read. -/
inductive Names : List String → Endpoint → String → Prop
  | row {a b t id : String} {h : Handler} (hh : h ∈ [Handler.getOne, .update, .delete])
      (ht : Target.decodeSegment? a = some t) (hid : Target.decodeSegment? b = some id)
      (hne : id ≠ "") : Names [a, b] (.ofTable t h) id
  | collection {a t : String} {h : Handler} (hh : h ∈ [Handler.list, .create])
      (ht : Target.decodeSegment? a = some t) : Names [a] (.ofTable t h) ""
  | query {a t : String} (ht : Target.decodeSegment? a = some t) :
      Names [a, "query"] (.ofTable t .query) ""
  | tables {a : String} (ha : Target.decodeSegment? a = some "table") :
      Names [a] (.administrative .listTables) ""
  | table {b name : String} (hname : Target.decodeSegment? b = some name) :
      Names ["table", b] (.administrative .getTable) name
  | action {b name : String} {h : Handler} (hh : h ∈ [Handler.refresh, .rawQuery, .createTable])
      (hname : Target.decodeSegment? b = some name) (hpath : h.path "" = "/zero-code/" ++ name) :
      Names ["zero-code", b] (.administrative h) ""

/-- One segment with a slash in it is taken for the whole path of an endpoint. -/
structure Folded (written : List String) (e : Endpoint) (param : String) : Prop where
  segment : ∃ a d, written = [a] ∧ Target.decodeSegment? a = some d ∧ '/' ∈ d.toList ∧ e.path = "/" ++ d
  param : param = ""
  handler : e.handler ∈ [Handler.getOne, .query, .getTable, .refresh, .rawQuery, .createTable]

/-- A row is named by the first two of the parameters in the root and the path together. -/
def Shifted (outer : PathParams) (written : List String) (e : Endpoint) (param : String) : Prop :=
  ∃ a b t more, ∃ h ∈ [Handler.getOne, .update, .delete], written = [a, b] ∧ e = .ofTable t h ∧
    (outer.map (·.2) ++ [a, b]).map Target.decodeSegment? = (t :: param :: more).map some

variable {settings : Settings} {r : Request} {w : World} {e : Endpoint} {param : String}
  {written : List String} {outer : PathParams}

theorem Names.not_folded (h : Names written e param) : ¬Folded written e param := by
  rintro ⟨⟨a, d, hwritten, -⟩, -, hhandler⟩
  cases h with
  | row | query | table | action => cases hwritten
  | @collection a t h hh =>
    have hdisjoint : ∀ h ∈ [Handler.list, .create],
        h ∉ [Handler.getOne, .query, .getTable, .refresh, .rawQuery, .createTable] := by decide
    exact hdisjoint h hh hhandler
  | tables => exact absurd hhandler (by decide)

/-- A row is never named without an id. -/
theorem Names.param_ne_empty (h : Names written e param)
    (hrow : e.handler ∈ [Handler.getOne, .update, .delete]) : param ≠ "" := by
  cases h with
  | row hh ht hid hne => exact hne
  | @collection a t h hh =>
    have hdisjoint : ∀ h ∈ [Handler.list, .create], h ∉ [Handler.getOne, .update, .delete] := by decide
    exact absurd hrow (hdisjoint h hh)
  | @action b name h hh =>
    have hdisjoint : ∀ h ∈ [Handler.refresh, .rawQuery, .createTable],
        h ∉ [Handler.getOne, .update, .delete] := by decide
    exact absurd hrow (hdisjoint h hh)
  | query => exact absurd hrow (show Handler.query ∉ [Handler.getOne, .update, .delete] by decide)
  | tables | table => exact absurd hrow (by decide)

theorem Folded.eq_getOne (h : Folded written e param)
    (hrow : e.handler ∈ [Handler.getOne, .update, .delete]) : e.handler = .getOne := by
  have hboth : ∀ h ∈ [Handler.getOne, .update, .delete],
      h ∈ [Handler.getOne, .query, .getTable, .refresh, .rawQuery, .createTable] → h = .getOne := by decide
  exact hboth e.handler hrow h.handler

/-- Without parameters in the root the first two are those of the path. -/
theorem Shifted.names (h : Shifted [] written e param) (hlast : written.getLast? ≠ some "") :
    Names written e param := by
  obtain ⟨a, b, t, more, h, hh, rfl, rfl, hvalues⟩ := h
  obtain ⟨ht, hvalues⟩ := List.cons.inj hvalues
  obtain ⟨hid, -⟩ := List.cons.inj hvalues
  have hb : b ≠ "" := by simpa using hlast
  exact .row hh ht hid (decodeSegment?_ne_empty hid hb)

/-- One segment is a table or the list of them, or it is folded. -/
theorem names_or_folded {a d : String} (he : e.Made fun t => Unreserved t ∧ SlashFree t)
    (ha : Target.decodeSegment? a = some d) (hpath : e.path = "/" ++ d)
    (hmethod : e.method ∈ ["GET", "HEAD", "POST"]) : Names [a] e "" ∨ Folded [a] e "" := by
  -- a slash in `d` can only have been written as an escape
  by_cases hd : SlashFree d
  · rcases he.of_segment hd hpath with ⟨h, hh, rfl⟩ | ⟨rfl, rfl⟩
    · exact .inl (.collection hh ha)
    · exact .inl (.tables ha)
  · refine .inr ⟨⟨a, d, rfl, ha, Decidable.not_not.mp hd, hpath⟩, rfl, ?_⟩
    cases he with
    | table t h ht hh =>
      have hfolding : ∀ h ∈ Handler.tableScoped, h.method ∈ ["GET", "HEAD", "POST"] → h.tail ≠ "" →
          h ∈ [Handler.getOne, .query, .getTable, .refresh, .rawQuery, .createTable] := by decide
      refine hfolding h hh hmethod fun htail => hd ?_
      have hname : h.path t = "/" ++ t := by rw [Handler.path_eq hh, htail, String.append_empty]
      rw [← (String.append_right_inj "/").mp (hname.symm.trans hpath)]
      exact ht.2
    | administrative h hh =>
      have hfolding : ∀ h ∈ Handler.administrative, h ≠ .listTables →
          h ∈ [Handler.getOne, .query, .getTable, .refresh, .rawQuery, .createTable] := by decide
      refine hfolding h hh fun hlist => hd ?_
      rw [hlist] at hpath
      rw [← (String.append_right_inj "/").mp (show "/" ++ "table" = "/" ++ d from hpath)]
      decide

theorem routed_of_decodes {shape route : Route} (he : e.Made fun t => Unreserved t ∧ SlashFree t)
    (hshape : Route.ofSegments? written = some shape) (hdecodes : Route.Decodes outer shape route)
    (hpattern : route.pattern? = some e.path) (hmethod : e.method ∈ shape.methods) :
    outer = [] ∧ (Names written e route.param ∨ Folded written e route.param) ∨
      Shifted outer written e route.param ∨
      written = ["table"] ∧ e = .administrative .listTables ∧ route.param = "" := by
  obtain ⟨rfl, hlast⟩ := Route.written_of_ofSegments? hshape
  cases hdecodes with
  | fixed hparams =>
    -- of the shapes without a parameter only the list of tables is looked up
    cases shape with
    | health | ready | docs | document => cases hpattern
    | table | action | collection | query | item => cases hparams
    | tables =>
      have hpath : e.path = "/" ++ "table" ++ "" := (Option.some.inj hpattern).symm
      obtain ⟨h, hh, rfl⟩ := he.of_reserved (by decide) hpath (by simp [OpensSegment])
      have hlist : ∀ h ∈ Handler.administrative, h.path "" = "/table" → h = .listTables := by decide
      obtain rfl := hlist h hh hpath
      exact .inr (.inr ⟨rfl, rfl, rfl⟩)
  | table houter hname =>
    have hpath : e.path = "/" ++ "table" ++ "/:tableName" := (Option.some.inj hpattern).symm
    obtain ⟨h, hh, rfl⟩ := he.of_reserved (by decide) hpath (by simp [OpensSegment])
    have hget : ∀ h ∈ Handler.administrative, h.path "" = "/table/:tableName" → h = .getTable := by
      decide
    obtain rfl := hget h hh hpath
    exact .inl ⟨houter, .inl (.table hname)⟩
  | @action b name houter hname =>
    have hpath : e.path = "/zero-code/" ++ name := (Option.some.inj hpattern).symm
    have hbelow : e.path = "/" ++ "zero-code" ++ ("/" ++ name) := by
      rw [hpath, ← String.append_assoc]
      rfl
    obtain ⟨h, hh, rfl⟩ := he.of_reserved (by decide) hbelow (by simp [OpensSegment])
    have haction := Handler.action_of_path h hh ⟨name.toList, by
      rw [← String.toList_append]
      exact congrArg String.toList hpath.symm⟩
    exact .inl ⟨houter, .inl (.action haction hname hpath)⟩
  | collection houter hname =>
    exact .inl ⟨houter, names_or_folded he hname (Option.some.inj hpattern).symm hmethod⟩
  | query houter hname =>
    rw [he.of_query (Option.some.inj hpattern).symm]
    exact .inl ⟨houter, .inl (.query hname)⟩
  | @item a b t id more hvalues =>
    -- the first two values need not be those of `a` and `b`
    obtain ⟨h, hh, rfl⟩ := he.of_row (Option.some.inj hpattern).symm
    exact .inr (.inl ⟨a, b, t, more, h, hh, rfl, rfl, hvalues⟩)

/-- Over tables without a slash in their names, what a request runs is named by its path, unless one segment
with a slash in it was folded into the path of an endpoint; a row without an id is only read, and only in
that way. This holds where the root of the service has no parameters. With parameters in the root a request
for a row takes the first two of all parameters, and nothing else runs but the list of tables. -/
theorem routed_of_runs (hw : Reached SlashFree w) (h : Runs settings r w e param) :
    ∃ outer written,
      Route.takeRoot [] (Route.segments settings.apiRoot) (Route.segments (Target.path r.uri)) =
        some (outer, written) ∧
      (outer = [] →
        Route.segments (Target.path r.uri) = Route.segments settings.apiRoot ++ written ∧
        (Names written e param ↔ ¬Folded written e param) ∧
        (e.handler ∈ [Handler.getOne, .update, .delete] → param = "" →
          e.handler = .getOne ∧ Folded written e param)) ∧
      (outer ≠ [] → Shifted outer written e param ∨
        written = ["table"] ∧ e = .administrative .listTables ∧ param = "") := by
  obtain ⟨route, pattern, hentered, hpattern, rfl, hresolve, -⟩ := h
  obtain ⟨hmethod, hpath⟩ := Registry.answers_of_resolve? hresolve
  obtain ⟨outer, written, shape, hroot, hshape, htakes, hdecodes⟩ :=
    path_of_entered hentered (by rw [hpattern]; exact Option.some_ne_none pattern)
  have he := hw.made e (Registry.mem_of_resolve? hresolve)
  rw [← hmethod] at htakes
  rw [← hpath] at hpattern
  have hrouted := routed_of_decodes he hshape hdecodes hpattern htakes
  refine ⟨outer, written, hroot, ?_, fun houter => hrouted.resolve_left fun h => houter h.1⟩
  rintro rfl
  have hnamed : Names written e route.param ∨ Folded written e route.param := by
    rcases hrouted with ⟨-, hnamed⟩ | hshifted | ⟨rfl, rfl, hparam⟩
    · exact hnamed
    · exact .inl (hshifted.names (Route.written_of_ofSegments? hshape).2)
    · rw [hparam]
      exact .inl (.tables (Json.decodeSegment?_eq (by decide)))
  refine ⟨(Route.takeRoot_eq_some hroot).2 rfl, ⟨Names.not_folded, hnamed.resolve_right⟩, ?_⟩
  intro hrow hparam
  rcases hnamed with hnamed | hfolded
  · exact absurd hparam (hnamed.param_ne_empty hrow)
  · exact ⟨hfolded.eq_getOne hrow, hfolded⟩

/-- A request without headers and body. -/
def requestOf (method uri : String) : Request := ⟨method, uri, [], .empty⟩

theorem routed_row : Reached SlashFree usersOnly ∧
    Runs openSettings (requestOf "GET" "/api/users/a%2Fb") usersOnly (.ofTable "users" .getOne) "a/b" ∧
    Names ["users", "a%2Fb"] (.ofTable "users" .getOne) "a/b" := by
  have hreached : Reached SlashFree usersOnly := .given _ (.initial "" "") (by decide)
  have hruns : Runs openSettings (requestOf "GET" "/api/users/a%2Fb") usersOnly
      (.ofTable "users" .getOne) "a/b" :=
    ⟨.item "users" "a/b", "/users/:id", by decide +kernel, rfl, rfl, by decide, rfl⟩
  have hpath : Route.takeRoot [] (Route.segments "/api")
      (Route.segments (Target.path "/api/users/a%2Fb")) = some ([], ["users", "a%2Fb"]) := by
    decide +kernel
  refine ⟨hreached, hruns, ?_⟩
  obtain ⟨outer, written, hroot, hnamed, -⟩ := routed_of_runs hreached hruns
  obtain ⟨rfl, rfl⟩ := Prod.mk.inj (Option.some.inj (hroot.symm.trans hpath))
  obtain ⟨-, hiff, -⟩ := hnamed rfl
  refine hiff.mpr fun hfolded => ?_
  obtain ⟨a, d, hwritten, -⟩ := hfolded.segment
  cases hwritten

/-- One segment below the root, and a row is read without an id. -/
theorem row_of_folded : Reached SlashFree usersOnly ∧
    Runs openSettings (requestOf "GET" "/api/users%2F:id") usersOnly (.ofTable "users" .getOne) "" ∧
    Route.takeRoot [] (Route.segments openSettings.apiRoot)
      (Route.segments (Target.path "/api/users%2F:id")) = some ([], ["users%2F:id"]) ∧
    ¬Names ["users%2F:id"] (.ofTable "users" .getOne) "" := by
  refine ⟨.given _ (.initial "" "") (by decide), ?_, by decide +kernel, ?_⟩
  · exact ⟨.collection "users/:id", "/users/:id", by decide +kernel, rfl, rfl, by decide, rfl⟩
  · intro hnamed
    exact hnamed.param_ne_empty (by decide) rfl

end SchemaRest.Service
