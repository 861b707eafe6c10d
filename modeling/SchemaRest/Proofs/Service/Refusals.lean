import Mathlib
import SchemaRest.Proofs.Request.Bodies
import SchemaRest.Proofs.Service.Access

/-!
# Refused requests

A request is refused because of its body, before anything is sent or changed. Each handler that reads a
body does so first, and what comes after the reading refuses nothing, so whether a request is refused is
known from its handler and its body alone.
-/

namespace SchemaRest

namespace Effect

variable {α β : Type}

/-- Refuses nothing, in whatever world. -/
def Lenient (m : Effect Failure α) : Prop := ∀ w, ¬ Refused (m w).1

/-- Refuses just where `p` holds, and then nothing has happened. -/
structure Refuses (p : Prop) (m : Effect Failure α) : Prop where
  refused_iff : ∀ w, Refused (m w).1 ↔ p
  undone : ∀ w, Refused (m w).1 → (m w).2 = w

namespace Lenient

theorem pure (a : α) : Lenient (Pure.pure a : Effect Failure α) := by
  rintro w ⟨e, h, -⟩
  cases h

theorem look (f : World → α) : Lenient (Effect.look f : Effect Failure α) := by
  rintro w ⟨e, h, -⟩
  cases h

theorem fail {e : Failure} (he : ¬ e.IsRefusal) : Lenient (Effect.fail e : Effect Failure α) := by
  rintro w ⟨d, h, hd⟩
  cases h
  exact he hd

theorem mapFailure {ε : Type} {f : ε → Failure} (hf : ∀ e, ¬ (f e).IsRefusal) (m : Effect ε α) :
    Lenient (m.mapFailure f) := by
  rintro w ⟨d, h, hd⟩
  unfold Effect.mapFailure at h
  cases hm : m w with
  | mk r w' =>
    rw [hm] at h
    cases r with
    | error e =>
      cases h
      exact hf e hd
    | ok a => cases h

theorem bind {m : Effect Failure α} {f : α → Effect Failure β} (hm : m.Lenient)
    (hf : ∀ a, (f a).Lenient) : (m >>= f).Lenient := by
  intro w h
  rw [bind_apply] at h
  have hw := hm w
  cases hrun : m w with
  | mk r w' =>
    rw [hrun] at h hw
    cases r with
    | error e =>
      obtain ⟨d, hd, hrefusal⟩ := h
      cases hd
      exact hw ⟨e, rfl, hrefusal⟩
    | ok a => exact hf a w' h

theorem refuses {m : Effect Failure α} (hm : m.Lenient) : m.Refuses False :=
  ⟨fun w => iff_of_false (hm w) id, fun w h => absurd h (hm w)⟩

end Lenient

namespace Refuses

variable {p q : Prop} {m : Effect Failure α}

theorem congr (hm : m.Refuses p) (h : p ↔ q) : m.Refuses q :=
  ⟨fun w => (hm.refused_iff w).trans h, hm.undone⟩

/-- A reading that fails with refusals only, and what is done with what was read. -/
theorem bind_ofExcept {r : Except Failure α} {f : α → Effect Failure β} {q : α → Prop}
    (hr : Refusing r) (hf : ∀ a, r = .ok a → (f a).Refuses (q a)) :
    (ofExcept r >>= f).Refuses ((∃ e, r = .error e) ∨ ∃ a, r = .ok a ∧ q a) := by
  cases r with
  | error e =>
    have hrefusal : e.IsRefusal := hr e rfl
    exact ⟨fun w => iff_of_true ⟨e, rfl, hrefusal⟩ (.inl ⟨e, rfl⟩), fun w _ => rfl⟩
  | ok a =>
    refine ⟨fun w => ((hf a rfl).refused_iff w).trans ?_, (hf a rfl).undone⟩
    simp

/-- A reading after which nothing is refused. -/
theorem of_reading {r : Except Failure α} {f : α → Effect Failure β} (hr : Refusing r)
    (hp : (∃ e, r = .error e) ↔ p) (hf : ∀ a, (f a).Lenient) : (ofExcept r >>= f).Refuses p :=
  (bind_ofExcept hr fun a _ => (hf a).refuses).congr (by simpa using hp)

end Refuses

end Effect

namespace Service

open Effect

/-! ## What refuses nothing -/

theorem lenient_reported {α : Type} (h : Handler) (m : Effect DatabaseError α) :
    (reported h m).Lenient := by
  refine .mapFailure (fun d hd => ?_) m
  cases hd.1

theorem lenient_readRows {α : Type} (during : String) (s : Sent)
    (f : Database.Row → Except DatabaseError α) : (Catalog.readRows during s f).Lenient := by
  refine .mapFailure (fun d hd => ?_) _
  cases hd.1

theorem lenient_getColumns (scope : Catalog.Scope) (table : String) :
    (Catalog.getColumns scope table).Lenient :=
  .bind (lenient_readRows _ _ _) fun _ => .bind (lenient_readRows _ _ _) fun _ => .pure _

theorem lenient_getFullTable (scope : Catalog.Scope) (name : String) :
    (Catalog.getFullTable scope name).Lenient := by
  have htable : (Catalog.getTable scope name).Lenient := by
    refine .bind (lenient_readRows _ _ _) fun tables => ?_
    split
    · exact .fail fun h => by cases h.1
    · exact .mapFailure (fun d hd => by cases hd.1) _
  exact .bind htable fun table => .bind (lenient_getColumns scope table.name) fun _ => .pure _

theorem lenient_readColumns (scope : Catalog.Scope) (done : List (String × List Catalog.Column))
    (tables : List Catalog.TableInfo) : (Catalog.readColumns scope done tables).Lenient := by
  induction tables generalizing done with
  | nil => exact .pure done
  | cons t rest ih => exact .bind (lenient_getColumns scope t.name) fun columns => ih _

theorem lenient_registerAll (settings : Settings) : (registerAll settings).Lenient := by
  rintro w ⟨e, h, hrefusal⟩
  have hread : (Catalog.readSnapshot (.ofSettings settings)).Lenient :=
    .bind (lenient_readRows _ _ _) fun tables => .bind (lenient_readColumns _ _ _) fun _ => .pure _
  rcases (registerAll_error_iff settings).mp (Prod.ext h rfl) with ⟨hclient, -⟩ | ⟨-, w₁, hstops, -⟩
  · unfold Client.ensureSupported at hclient
    split at hclient
    · cases hclient
    · cases hclient
      cases hrefusal.1
  · exact hread (registering w) ⟨e, by rw [hstops], hrefusal⟩

theorem lenient_list (settings : Settings) (table : String) (c : Call) :
    (list settings table c).Lenient :=
  .bind (.look _) fun _ => .bind (lenient_reported _ _) fun _ =>
    .bind (lenient_reported _ _) fun _ => .pure _

theorem lenient_getOne (settings : Settings) (table : String) (c : Call) :
    (getOne settings table c).Lenient := .bind (lenient_reported _ _) fun _ => .pure _

theorem lenient_delete (table : String) (c : Call) : (delete table c).Lenient := by
  refine .bind (lenient_reported _ _) fun outcome => ?_
  dsimp only
  split
  · exact .fail fun h => by cases h.1
  · exact .pure _

/-! ## What refuses malformed bodies -/

theorem refuses_create (table : String) (c : Call) :
    (create table c).Refuses (Malformed .create c.body) :=
  .of_reading (refusing_readInserts _) readInserts_error_iff fun _ =>
    .bind (lenient_reported _ _) fun _ => .pure _

theorem refuses_update (table : String) (c : Call) :
    (update table c).Refuses (Malformed .update c.body) :=
  .of_reading (refusing_readChanges _) readChanges_error_iff fun _ =>
    .bind (lenient_reported _ _) fun _ => .pure _

theorem refuses_rawQuery (c : Call) : (rawQuery c).Refuses (Malformed .rawQuery c.body) :=
  .of_reading (refusing_readStatement _) readStatement_error_iff fun _ =>
    .bind (lenient_reported _ _) fun _ => .pure _

theorem refuses_createTable (c : Call) : (createTable c).Refuses (Malformed .createTable c.body) := by
  refine .of_reading (refusing_readTable _) readTable_error_iff fun spec => ?_
  refine .bind (lenient_reported _ _) fun created => ?_
  split
  · exact .pure _
  · exact .fail fun h => by cases h.1

theorem refuses_query (settings : Settings) (table : String) (c : Call) :
    (query settings table c).Refuses (Malformed .query c.body) := by
  refine (Refuses.bind_ofExcept (Body.refusing_parse _ _) fun spec _ =>
    .of_reading (spec.refusing_select _ _) QuerySpec.select_error_iff fun q => ?_).congr
      parse_select_error_iff
  split
  · exact .bind (lenient_reported _ _) fun _ => .bind (lenient_reported _ _) fun _ => .pure _
  · exact .bind (lenient_reported _ _) fun _ => .pure _

/-- A handler refuses just the bodies that are malformed for it. -/
theorem refuses_run (settings : Settings) (e : Endpoint) (c : Call) :
    (run settings e c).Refuses (Malformed e.handler c.body) := by
  have hunread (h : Handler) (hh : h ∉ Handler.bodied) : False ↔ Malformed h c.body :=
    iff_of_false id fun hm => hh hm.bodied
  unfold run
  split
  case h_1 h => exact h ▸ (lenient_list settings _ c).refuses.congr (hunread .list (by decide))
  case h_2 h => exact h ▸ (lenient_getOne settings _ c).refuses.congr (hunread .getOne (by decide))
  case h_3 h => exact h ▸ refuses_create _ c
  case h_4 h => exact h ▸ refuses_update _ c
  case h_5 h => exact h ▸ (lenient_delete _ c).refuses.congr (hunread .delete (by decide))
  case h_6 h => exact h ▸ refuses_query settings _ c
  case h_7 h =>
    have hlist : (listTables settings).Lenient := .bind (lenient_readRows _ _ _) fun _ => .pure _
    exact h ▸ hlist.refuses.congr (hunread .listTables (by decide))
  case h_8 h =>
    have htable : (getTable settings c).Lenient := .bind (lenient_getFullTable _ _) fun _ => .pure _
    exact h ▸ htable.refuses.congr (hunread .getTable (by decide))
  case h_9 h =>
    have hrefresh : (refresh settings).Lenient := .bind (lenient_registerAll _) fun _ => .pure _
    exact h ▸ hrefresh.refuses.congr (hunread .refresh (by decide))
  case h_10 h => exact h ▸ refuses_rawQuery c
  case h_11 h => exact h ▸ refuses_createTable c

/-! ## Allowed requests -/

section

variable (settings : Settings) (method pattern : String) (c : Call) (w : World) (d : Endpoint)

/-- What is known of the refusal of a request to an endpoint. -/
structure Examined : Prop where
  /-- It is refused just for its body, whatever the database has to say. -/
  refused_iff : ∀ database, Refused (dispatch settings method pattern c { w with database }).1 ↔
    Malformed d.handler c.body
  /-- Handlers that do not read a body refuse none. -/
  unread : d.handler ∉ Handler.bodied →
    ∀ database, ¬ Refused (dispatch settings method pattern c { w with database }).1
  /-- A refused request has no effect. -/
  unaffected : Refused (dispatch settings method pattern c w).1 →
    ¬ Affected w (dispatch settings method pattern c w).2

end

variable {settings : Settings} {method pattern : String} {c : Call} {w : World} {d : Endpoint}

/-- An allowed request is what its handler does after the decision. -/
theorem dispatch_of_allowed (hd : w.registry.resolve? method pattern = some d)
    (hallowed : (decision settings c w d).1 = .ok true) (database : Link (List Reply)) :
    dispatch settings method pattern c { w with database } =
      run settings d c (({ w with database } : World).withService (decision settings c w d).2) := by
  have hsame : w.SameService { w with database } := ⟨rfl, rfl, rfl⟩
  have hdecision := Policy.inquires_allowed settings.security c.context d.permission _ _ hsame
  have hresolve : ({ w with database } : World).registry.resolve? method pattern = some d := hd
  rw [decision] at hallowed
  rw [dispatch_apply, hresolve]
  dsimp only
  rw [hdecision, hallowed]
  rfl

theorem refused_dispatch_iff (hd : w.registry.resolve? method pattern = some d)
    (hallowed : (decision settings c w d).1 = .ok true) (database : Link (List Reply)) :
    Refused (dispatch settings method pattern c { w with database }).1 ↔ Malformed d.handler c.body := by
  rw [dispatch_of_allowed hd hallowed]
  exact (refuses_run settings d c).refused_iff _

theorem examined_of_allowed (hd : w.registry.resolve? method pattern = some d)
    (hallowed : (decision settings c w d).1 = .ok true) : Examined settings method pattern c w d := by
  have hiff := refused_dispatch_iff hd hallowed
  refine ⟨hiff, fun hunread database hrefused => hunread ((hiff database).mp hrefused).bodied, ?_⟩
  have hrun : dispatch settings method pattern c w =
      run settings d c (w.withService (decision settings c w d).2) :=
    dispatch_of_allowed hd hallowed w.database
  rw [hrun]
  intro hrefused
  rw [(refuses_run settings d c).undone _ hrefused]
  simp [Affected, World.withService]

/-- A query whose last clause is a range with one end. -/
def halfRange : String :=
  "\x7b\"filters\":[\x7b\"column\":\"id\",\"operation\":\"=\",\"value\":1\x7d," ++
    "\x7b\"column\":\"age\",\"operation\":\"between\",\"value\":[1]\x7d]\x7d"

theorem refused_halfRange :
    let c : Call := ⟨⟨"POST", "/users/query", [], []⟩, "", halfRange.toUTF8⟩
    let d := Endpoint.ofTable "users" .query
    usersOnly.registry.resolve? "POST" "/users/query" = some d ∧
      (decision openSettings c usersOnly d).1 = .ok true ∧ Malformed .query c.body ∧
      Refused (dispatch openSettings "POST" "/users/query" c usersOnly).1 ∧
      ¬ Affected usersOnly (dispatch openSettings "POST" "/users/query" c usersOnly).2 := by
  intro c d
  have hresolve : usersOnly.registry.resolve? "POST" "/users/query" = some d := by decide
  have hallowed : (decision openSettings c usersOnly d).1 = .ok true := rfl
  have hread : Json.read? halfRange = some (.obj [("filters", .arr
      [.obj [("column", .str "id"), ("operation", .str "="), ("value", .num (.int 1))],
        .obj [("column", .str "age"), ("operation", .str "between"),
          ("value", .arr [.num (.int 1)])]])]) := by
    cbv
  have hvalue : Body.value? c.body = Json.read? halfRange := Body.value?_of_brace (by decide)
  have hmalformed : Malformed .query c.body := by
    refine .range (Body.value?_eq_some_iff.mp (hvalue.trans hread)) rfl
      (List.mem_cons_of_mem _ (List.mem_singleton_self _)) ?_
    exact ⟨rfl, fun low high h => by cases h⟩
  have hexamined : Examined openSettings "POST" "/users/query" c usersOnly d :=
    examined_of_allowed hresolve hallowed
  have hrefused := (hexamined.refused_iff usersOnly.database).mpr hmalformed
  exact ⟨hresolve, hallowed, hmalformed, hrefused, hexamined.unaffected hrefused⟩

/-- A statement that is an embedded text. -/
def embeddedStatement : String :=
  "\x7b\"dbQuery\":\x7b\"$serde_json::private::RawValue\":\"\\\"SELECT 1\\\"\"\x7d\x7d"

/-- A change to an object that starts with the mark and has no JSON under it. -/
def misembeddedChange : String := "\x7b\"a\":\x7b\"$serde_json::private::RawValue\":\"x\"\x7d\x7d"

/-- A change to half a surrogate pair. -/
def halvedChange : String := "\x7b\"a\":\"\\ud800\"\x7d"

/-- Judged by what is written, an object is taken for a statement, and two objects that are not empty are
refused as changes. -/
theorem refused_unlike_written :
    let stated : Call := ⟨⟨"POST", "/zero-code/raw-query", [], []⟩, "", embeddedStatement.toUTF8⟩
    let changed (text : String) : Call := ⟨⟨"PUT", "/users/1", [], []⟩, "1", text.toUTF8⟩
    (Json.readOutlined? .whole embeddedStatement =
        some (.obj [("dbQuery", .obj [(Json.Embedded.mark, .str "\"SELECT 1\"")])]) ∧
      (decision openSettings stated usersOnly (.administrative .rawQuery)).1 = .ok true ∧
      ¬Refused (dispatch openSettings "POST" "/zero-code/raw-query" stated usersOnly).1) ∧
    (Json.readOutlined? .whole misembeddedChange =
        some (.obj [("a", .obj [(Json.Embedded.mark, .str "x")])]) ∧
      (decision openSettings (changed misembeddedChange) usersOnly (.ofTable "users" .update)).1 = .ok true ∧
      Refused (dispatch openSettings "PUT" "/users/:id" (changed misembeddedChange) usersOnly).1) ∧
    Json.skipValue (halvedChange.toList.length + 1) halvedChange.toList = some [] ∧
      (decision openSettings (changed halvedChange) usersOnly (.ofTable "users" .update)).1 = .ok true ∧
      Refused (dispatch openSettings "PUT" "/users/:id" (changed halvedChange) usersOnly).1 := by
  intro stated changed
  have hraw : usersOnly.registry.resolve? "POST" "/zero-code/raw-query" =
      some (.administrative .rawQuery) := by decide
  have hupdate : usersOnly.registry.resolve? "PUT" "/users/:id" = some (.ofTable "users" .update) := by
    decide
  have hunread (text : String) (hbrace : '\x7b' ∈ text.toList) (hread : Json.read? text = none) :
      Refused (dispatch openSettings "PUT" "/users/:id" (changed text) usersOnly).1 := by
    refine (refused_dispatch_iff hupdate rfl usersOnly.database).mpr (.unread (by decide) ?_)
    exact Body.value?_eq_none_iff.mp ((Body.value?_of_brace hbrace).trans hread)
  refine ⟨⟨by cbv, rfl, ?_⟩, ⟨by cbv, rfl, hunread _ (by decide) (by cbv)⟩, by cbv, rfl,
    hunread _ (by decide) (by cbv)⟩
  have hvalue : Body.value? stated.body = some (.obj [("dbQuery", .str "SELECT 1")]) := by
    rw [Body.value?_of_brace (by decide)]
    cbv
  intro hrefused
  have hmalformed : Malformed .rawQuery stated.body :=
    (refused_dispatch_iff hraw rfl usersOnly.database).mp hrefused
  cases hmalformed with
  | unread hh hbody => cases (Body.value?_eq_none_iff.mpr hbody).symm.trans hvalue
  | statement hv hnone =>
    cases (Body.value?_eq_some_iff.mpr hv).symm.trans hvalue
    have hblank : Text.trim "SELECT 1" = "" := hnone "SELECT 1" rfl
    revert hblank
    decide

end Service

end SchemaRest
