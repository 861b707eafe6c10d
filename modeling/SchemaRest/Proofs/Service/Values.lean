import SchemaRest.Proofs.Request.Alike
import SchemaRest.Proofs.Service.Plans
import SchemaRest.Proofs.Service.Routing

/-!
# Values stay out of texts

Two requests to one endpoint of a table that differ in their values only have plans with the same texts and
as many values in each. So whatever the database answers, the one that gets further has sent what the other
has, but for the values.
-/

namespace SchemaRest

/-! ## Requests that are read alike -/

namespace Service

/-- Bodies from which the same is read but for values: rows and changes with the same keys, clauses of the
same column, operation, negation and connector. -/
inductive ReadAlike : Handler → ByteArray → ByteArray → Prop
  | unread {h : Handler} {b b' : ByteArray} (hh : h ∈ [Handler.getOne, .delete]) : ReadAlike h b b'
  | inserts {b b' : ByteArray} (h : ∀ rows rows', readInserts b = .ok rows →
      readInserts b' = .ok rows' → rows.map Fields.keys = rows'.map Fields.keys) :
      ReadAlike .create b b'
  | changes {b b' : ByteArray} (h : ∀ m m', readChanges b = .ok m → readChanges b' = .ok m' →
      Fields.keys m = Fields.keys m') : ReadAlike .update b b'
  | spec {b b' : ByteArray} (h : ∀ q q', Body.parse QuerySpec.decode b = .ok q →
      Body.parse QuerySpec.decode b' = .ok q' → q.Alike q') : ReadAlike .query b b'

theorem showing_alike {page : Page} {q q' : Sql.Select}
    (h : q.mapValues Sql.blank = q'.mapValues Sql.blank) :
    (showing page q).map (Sql.Statement.mapValues Sql.blank) =
      (showing page q').map (Sql.Statement.mapValues Sql.blank) := by
  have hshowing (q : Sql.Select) : (showing page q).map (Sql.Statement.mapValues Sql.blank) =
      showing page (q.mapValues Sql.blank) := by
    unfold showing
    split
    · rw [List.map_cons, List.map_singleton, ← Sql.Select.count_mapValues, ← Sql.Select.rows_mapValues]
      rfl
    · rw [List.map_singleton, ← Sql.Select.rows_mapValues]
  rw [hshowing, hshowing, h]

/-- Requests that are read alike have plans that are the same without their values. -/
theorem planned_alike (settings : Settings) (table : String) {h : Handler} {c c' : Call}
    (hquery : c.context.query = c'.context.query) (hbody : ReadAlike h c.body c'.body)
    {plan plan' : List Sql.Statement} (hplan : planned settings table c h = .ok plan)
    (hplan' : planned settings table c' h = .ok plan') :
    plan.map (Sql.Statement.mapValues Sql.blank) = plan'.map (Sql.Statement.mapValues Sql.blank) := by
  have hcolumn : c.keyColumn = c'.keyColumn := by
    rw [Call.keyColumn, Call.keyColumn, Context.param?, Context.param?, hquery]
  cases hbody with
  | unread hh =>
    rcases List.mem_pair.mp hh with rfl | rfl
    · cases hplan
      cases hplan'
      rw [List.map_singleton, List.map_singleton, ← Sql.Select.rows_mapValues,
        ← Sql.Select.rows_mapValues, rowQuery, rowQuery, hcolumn]
      rfl
    · cases hplan
      cases hplan'
      rw [List.map_singleton, List.map_singleton, ← Sql.delete_mapValues, ← Sql.delete_mapValues, hcolumn]
  | inserts hrows =>
    obtain ⟨rows, hread, hplan⟩ := bind_eq_ok hplan
    obtain ⟨rows', hread', hplan'⟩ := bind_eq_ok hplan'
    cases hplan
    cases hplan'
    rw [List.map_singleton, List.map_singleton, Sql.insert_alike (hrows rows rows' hread hread')]
  | changes hchanges =>
    obtain ⟨m, hread, hplan⟩ := bind_eq_ok hplan
    obtain ⟨m', hread', hplan'⟩ := bind_eq_ok hplan'
    cases hplan
    cases hplan'
    have hblank : Fields.mapValues Sql.blank m = Fields.mapValues Sql.blank m' :=
      Fields.mapValues_eq_iff.mpr (hchanges m m' hread hread')
    rw [List.map_singleton, List.map_singleton, ← Sql.update_mapValues, ← Sql.update_mapValues, hblank,
      hcolumn]
  | spec hspec =>
    obtain ⟨spec, hread, hplan⟩ := bind_eq_ok hplan
    obtain ⟨spec', hread', hplan'⟩ := bind_eq_ok hplan'
    obtain ⟨q, hq, hplan⟩ := bind_eq_ok hplan
    obtain ⟨q', hq', hplan'⟩ := bind_eq_ok hplan'
    have halike := hspec spec spec' hread hread'
    rw [← halike.fields] at hq'
    cases hplan
    cases hplan'
    rw [hquery, ← halike.page]
    exact showing_alike (halike.select hq hq')

/-! ## Requests that are written alike -/

/-- Bodies of insertions that are written alike but for the values in their rows. As with queries, what is
compared are the values that they say, with those of embedded texts in their place. -/
def InsertsWrittenAlike : Json → Json → Prop :=
  Decode.Written insertsFields fun _ v v' => ∃ vs vs', v = .arr vs ∧ v' = .arr vs' ∧
    List.Forall₂ (fun v v' => ∃ fs fs', v = .obj fs ∧ v' = .obj fs' ∧ Fields.keys fs = Fields.keys fs')
      vs vs'

theorem InsertsWrittenAlike.alike {v v' : Json} (h : InsertsWrittenAlike v v') {rows rows' : List Fields}
    (hrows : decodeInserts v = .ok rows) (hrows' : decodeInserts v' = .ok rows') :
    List.Forall₂ (fun row row' => Fields.keys row = Fields.keys row') rows rows' := by
  refine Decode.record_related (List.forall_mem_singleton.mpr ?_) h .nil hrows hrows'
  refine Decode.keeps_map (D := List.Forall₂ fun row row' => Fields.keys row = Fields.keys row')
    (fun v v' rows rows' hv hrows hrows' => ?_) fun rows rows' _ _ hkeys _ => hkeys
  obtain ⟨vs, vs', rfl, rfl, halike⟩ := hv
  refine Decode.listOf_related (fun v v' row row' hv hrow hrow' => ?_) halike hrows hrows'
  obtain ⟨fs, fs', rfl, rfl, hkeys⟩ := hv
  exact Decode.keys_of_fields hkeys hrow hrow'

/-- Bodies that are written alike but for values, field by field, once embedded texts have been replaced by
their values. -/
inductive WrittenAlike : Handler → ByteArray → ByteArray → Prop
  | inserts {b b' : ByteArray} {v v' : Json} (hv : Body.json b = .ok v) (hv' : Body.json b' = .ok v')
      (h : InsertsWrittenAlike v v') : WrittenAlike .create b b'
  | changes {b b' : ByteArray} {fs fs' : Fields} (hv : Body.json b = .ok (.obj fs))
      (hv' : Body.json b' = .ok (.obj fs')) (h : Fields.keys fs = Fields.keys fs') :
      WrittenAlike .update b b'
  | spec {b b' : ByteArray} {v v' : Json} (hv : Body.json b = .ok v) (hv' : Body.json b' = .ok v')
      (h : QuerySpec.WrittenAlike v v') : WrittenAlike .query b b'

theorem parse_of_readInserts {body : ByteArray} {rows : List Fields} (h : readInserts body = .ok rows) :
    Body.parse decodeInserts body = .ok rows := by
  unfold readInserts at h
  obtain ⟨read, hread, h⟩ := bind_eq_ok h
  dsimp only at h
  split at h
  · obtain ⟨u, herror, -⟩ := bind_eq_ok h
    cases herror
  split at h
  · obtain ⟨u, herror, -⟩ := bind_eq_ok h
    cases herror
  · cases h
    exact hread

theorem readChanges_of_json {body : ByteArray} {fs m : Fields} (hv : Body.json body = .ok (.obj fs))
    (h : readChanges body = .ok m) : m = fs := by
  unfold readChanges at h
  rw [hv] at h
  obtain ⟨v, hread, h⟩ := bind_eq_ok h
  cases hread
  split at h
  · next p rest hobject =>
    cases hobject
    cases h
    rfl
  · cases h

/-- What is written alike is read alike. -/
theorem WrittenAlike.readAlike {h : Handler} {b b' : ByteArray} (halike : WrittenAlike h b b') :
    ReadAlike h b b' := by
  cases halike with
  | inserts hv hv' h =>
    refine .inserts fun rows rows' hrows hrows' => ?_
    have hkeys := h.alike (Body.decode_of_parse hv h.isNull_eq.1 (parse_of_readInserts hrows))
      (Body.decode_of_parse hv' h.isNull_eq.2 (parse_of_readInserts hrows'))
    have hmaps : List.Forall₂ Eq (rows.map Fields.keys) (rows'.map Fields.keys) :=
      List.forall₂_map_left_iff.mpr (List.forall₂_map_right_iff.mpr hkeys)
    rw [List.forall₂_eq_eq_eq] at hmaps
    exact hmaps
  | changes hv hv' h =>
    refine .changes fun m m' hm hm' => ?_
    rw [readChanges_of_json hv hm, readChanges_of_json hv' hm', h]
  | spec hv hv' h =>
    exact .spec fun q r hq hr => h.alike (Body.decode_of_parse hv h.isNull_eq.1 hq)
      (Body.decode_of_parse hv' h.isNull_eq.2 hr)

end Service

/-! ## Two requests -/

/-- The text of a statement, and how many values are bound in it. -/
def Sent.frame : Sent → String × Option Nat
  | .prepared sql params => (sql, some params.length)
  | .text sql => (sql, none)

theorem Sent.frame_mapValues (f : Json → Json) (s : Sql.Statement) :
    (Sent.ofStatement (s.mapValues f)).frame = (Sent.ofStatement s).frame := by
  simp [ofStatement, frame, Sql.Statement.mapValues]

theorem frames_eq {plan plan' : List Sql.Statement}
    (h : plan.map (Sql.Statement.mapValues Sql.blank) = plan'.map (Sql.Statement.mapValues Sql.blank)) :
    (plan.map Sent.ofStatement).map Sent.frame = (plan'.map Sent.ofStatement).map Sent.frame := by
  have hframes (plan : List Sql.Statement) : (plan.map Sent.ofStatement).map Sent.frame =
      (plan.map (Sql.Statement.mapValues Sql.blank)).map fun s => (Sent.ofStatement s).frame := by
    rw [List.map_map, List.map_map]
    exact List.map_congr_left fun s _ => (Sent.frame_mapValues Sql.blank s).symm
  rw [hframes, hframes, h]

namespace Service

variable {settings : Settings} {r r' : Request} {w w' : World} {e : Endpoint} {param param' : String}

/-- The database gives no error to what a request runs. -/
def Undisturbed (settings : Settings) (r : Request) (w : World) (e : Endpoint) (param : String) : Prop :=
  let c := callOf settings r param
  ∀ h d, (run settings e c (decision settings c w e).2).1 ≠ .error (.queryExecution h d)

/-- What serving a request sends has been planned, and is all of the plan unless the database gives an
error. -/
theorem serve_follows (he : e.handler ∈ valued) (hruns : Runs settings r w e param) :
    ∃ issued, (serve settings r w).2.sent = w.sent ++ issued ∧ (issued ≠ [] → ∃ plan,
      planned settings e.tableName (callOf settings r param) e.handler = .ok plan ∧
      issued <+: plan.map Sent.ofStatement ∧
      (Undisturbed settings r w e param → issued = plan.map Sent.ofStatement)) := by
  -- asking whether the request is allowed sends nothing to the database
  have hserve := congrArg Prod.snd (serve_of_runs hruns)
  have hservice := withService_decision settings (callOf settings r param) w e
  have hsent : (decision settings (callOf settings r param) w e).2.sent = w.sent := by
    rw [hservice]
    rfl
  dsimp only at hserve
  rw [answered_snd] at hserve
  rw [hserve, ← hsent]
  have hplans := plans_run settings he (callOf settings r param)
  cases hplan : planned settings e.tableName (callOf settings r param) e.handler with
  | error f =>
    rw [hplan] at hplans
    rw [hplans]
    exact ⟨[], (List.append_nil _).symm, fun hne => absurd rfl hne⟩
  | ok plan =>
    rw [hplan] at hplans
    obtain ⟨issued, hissued, hahead, hall⟩ := hplans (decision settings (callOf settings r param) w e).2
    exact ⟨issued, hissued, fun _ => ⟨plan, rfl, hahead, hall⟩⟩

/-- Two requests to one endpoint of a table that differ in their values only: where both reach the
database they send prepared statements, the texts of the one and how many values they have are those of the
other as far as both get, and all of them are where the database gives no error. -/
theorem frames_of_alike (he : e.handler ∈ valued) (hruns : Runs settings r w e param)
    (hruns' : Runs settings r' w' e param') (hquery : Target.query r.uri = Target.query r'.uri)
    (hbody : ReadAlike e.handler r.body r'.body ∨ WrittenAlike e.handler r.body r'.body) :
    ∃ issued issued', (serve settings r w).2.sent = w.sent ++ issued ∧
      (serve settings r' w').2.sent = w'.sent ++ issued' ∧
      (issued ≠ [] → issued' ≠ [] →
        (∀ s ∈ issued ++ issued', ∃ sql params, s = .prepared sql params) ∧
        (issued.map Sent.frame <+: issued'.map Sent.frame ∨
          issued'.map Sent.frame <+: issued.map Sent.frame) ∧
        (Undisturbed settings r w e param → Undisturbed settings r' w' e param' →
          issued.map Sent.frame = issued'.map Sent.frame)) := by
  have hread : ReadAlike e.handler r.body r'.body := hbody.elim id WrittenAlike.readAlike
  obtain ⟨issued, hissued, hfollows⟩ := serve_follows he hruns
  obtain ⟨issued', hissued', hfollows'⟩ := serve_follows he hruns'
  refine ⟨issued, issued', hissued, hissued', fun hne hne' => ?_⟩
  obtain ⟨plan, hplan, hahead, hall⟩ := hfollows hne
  obtain ⟨plan', hplan', hahead', hall'⟩ := hfollows' hne'
  have hframes := frames_eq (planned_alike settings e.tableName hquery hread hplan hplan')
  refine ⟨fun s hs => ?_, ?_, fun hok hok' => ?_⟩
  · have hplanned : ∀ plan : List Sql.Statement, s ∈ plan.map Sent.ofStatement →
        ∃ sql params, s = .prepared sql params := by
      intro plan hs
      obtain ⟨t, -, rfl⟩ := List.mem_map.mp hs
      exact ⟨_, _, rfl⟩
    rcases List.mem_append.mp hs with hs | hs
    · exact hplanned plan (hahead.subset hs)
    · exact hplanned plan' (hahead'.subset hs)
  · have hfirst := hahead.map Sent.frame
    rw [hframes] at hfirst
    exact List.prefix_or_prefix_of_prefix hfirst (hahead'.map Sent.frame)
  · rw [hall hok, hall' hok', hframes]

/-- The service of `usersOnly` with a database that finds nothing. -/
def usersMissing : World := { usersOnly with database := .replying [[.rows [] []]] }

theorem frames_of_ids :
    let first := requestOf "GET" "/api/users/1"
    let second := requestOf "GET" "/api/users/1%20OR%201%3D1"
    let e := Endpoint.ofTable "users" .getOne
    Runs openSettings first usersMissing e "1" ∧ Runs openSettings second usersMissing e "1 OR 1=1" ∧
      (serve openSettings first usersMissing).2.sent.map Sent.frame =
        [("SELECT * FROM `users` WHERE `id` = ? LIMIT 1", some 1)] ∧
      (serve openSettings second usersMissing).2.sent.map Sent.frame =
        (serve openSettings first usersMissing).2.sent.map Sent.frame := by
  intro first second e
  have hfirst : Runs openSettings first usersMissing e "1" :=
    ⟨.item "users" "1", "/users/:id", by decide +kernel, rfl, rfl, by decide, rfl⟩
  have hsecond : Runs openSettings second usersMissing e "1 OR 1=1" :=
    ⟨.item "users" "1 OR 1=1", "/users/:id", by decide +kernel, rfl, rfl, by decide, rfl⟩
  have hundisturbed (r : Request) (param : String) : Undisturbed openSettings r usersMissing e param := by
    intro h d herror
    cases herror
  have hsent : (serve openSettings first usersMissing).2.sent.map Sent.frame =
      [("SELECT * FROM `users` WHERE `id` = ? LIMIT 1", some 1)] := by decide +kernel
  have hreached : (serve openSettings second usersMissing).2.sent ≠ [] := by decide +kernel
  refine ⟨hfirst, hsecond, hsent, ?_⟩
  obtain ⟨issued, issued', hissued, hissued', hframes⟩ := frames_of_alike (by decide) hfirst hsecond
    (by decide +kernel) (.inl (.unread (by decide)))
  have hnothing : usersMissing.sent = [] := rfl
  rw [hnothing, List.nil_append] at hissued hissued'
  have hne : issued ≠ [] := by
    rintro rfl
    rw [hissued] at hsent
    cases hsent
  have hall := (hframes hne (hissued' ▸ hreached)).2.2 (hundisturbed first "1")
    (hundisturbed second "1 OR 1=1")
  rw [hissued, hissued', hall]

end Service

end SchemaRest
