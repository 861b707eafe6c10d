import SchemaRest.Proofs.Json.Embedded
import SchemaRest.Proofs.Json.Settled
import SchemaRest.Proofs.Sql.Fitness
import SchemaRest.Proofs.Text.Utf8
import SchemaRest.Service.Administration

/-!
# Bodies that are refused

Five handlers read the body of a request. `Malformed` says which bodies each of them cannot take, without
regard to the order in which a body is looked at; the readings of the five fail on exactly these bodies,
and with nothing but refusals.
-/

namespace SchemaRest

/-! ## Refusals -/

/-- A failure that lies with the body of a request. -/
def Failure.IsRefusal (e : Failure) : Prop := e.status = 400 ∧ e.code = 400001

@[simp] theorem Failure.isRefusal_validation (text : String) : (validation text).IsRefusal := ⟨rfl, rfl⟩

theorem Failure.isRefusal_iff {e : Failure} : e.IsRefusal ↔ ∃ text, e = .validation text := by
  constructor
  · rintro ⟨hstatus, -⟩
    cases e with
    | validation text => exact ⟨text, rfl⟩
    | _ => exact absurd hstatus (by simp [Failure.status])
  · rintro ⟨text, rfl⟩
    exact isRefusal_validation text

/-- Whether the outcome is a refusal. -/
def Refused {α : Type} (r : Except Failure α) : Prop := ∃ e, r = .error e ∧ e.IsRefusal

/-- Fails with refusals only. -/
def Refusing {α : Type} (r : Except Failure α) : Prop := ∀ e, r = .error e → e.IsRefusal

/-- A step and what comes after it fail where either does. -/
theorem bind_error_iff {ε α β : Type} {r : Except ε α} {f : α → Except ε β} :
    (∃ e, (r >>= f) = .error e) ↔ (∃ e, r = .error e) ∨ ∃ a, r = .ok a ∧ ∃ e, f a = .error e := by
  cases r with
  | error e =>
    constructor
    · exact fun _ => .inl ⟨e, rfl⟩
    · exact fun _ => ⟨e, rfl⟩
  | ok a =>
    constructor
    · exact fun h => .inr ⟨a, rfl, h⟩
    · rintro (⟨e, h⟩ | ⟨b, h, hf⟩)
      · cases h
      · cases h
        exact hf

namespace Refusing

variable {α β : Type}

theorem ok (a : α) : Refusing (.ok a) := by
  intro e h
  cases h

theorem error (text : String) : Refusing (.error (.validation text) : Except Failure α) := by
  rintro e ⟨⟩
  exact Failure.isRefusal_validation text

theorem bind {r : Except Failure α} {f : α → Except Failure β} (hr : Refusing r)
    (hf : ∀ a, Refusing (f a)) : Refusing (r >>= f) := by
  intro e h
  cases r with
  | error d =>
    cases h
    exact hr _ rfl
  | ok a => exact hf a e h

/-- A check before what comes next. -/
theorem guard {p : Prop} [Decidable p] {text : String} {k : Except Failure α} (hk : Refusing k) :
    Refusing (if p then (.error (.validation text) : Except Failure PUnit) >>= fun _ => k else k) := by
  split
  · exact .bind (.error text) fun _ => hk
  · exact hk

end Refusing

theorem guard_error_iff {ε α : Type} {p : Prop} [Decidable p] {e : ε} {k : Except ε α} :
    (∃ d, (if p then (.error e : Except ε PUnit) >>= fun _ => k else k) = .error d) ↔
      p ∨ ∃ d, k = .error d := by
  split
  · next hp => exact ⟨fun _ => .inl hp, fun _ => ⟨e, rfl⟩⟩
  · next hp => simp [hp]

/-! ## Values of bodies -/

namespace Body

/-- The value that a body says, null where it says none. -/
def value? (body : ByteArray) : Option Json :=
  if body.toList.all isBlankByte then some .null else Json.readBytes? body

theorem not_blank_toUTF8 {text : String} {c : Char} (hc : c ∈ text.toList) (hsmall : c.toNat < 128)
    (hblank : isBlankByte (UInt8.ofNat c.toNat) = false) :
    text.toUTF8.toList.all isBlankByte = false := by
  have hbyte : UInt8.ofNat c.toNat ∈ text.toUTF8.toList := by
    rw [Text.Utf8.toList_toUTF8]
    refine List.mem_flatMap.mpr ⟨c, hc, ?_⟩
    rw [Text.Utf8.utf8EncodeChar_of_lt hsmall]
    exact List.mem_singleton_self _
  refine List.all_eq_false.mpr ⟨_, hbyte, ?_⟩
  rw [hblank]
  exact Bool.false_ne_true

/-- A text that is not blank throughout says what reading it gives. -/
theorem value?_toUTF8 {text : String} (h : text.toUTF8.toList.all isBlankByte = false) :
    value? text.toUTF8 = Json.read? text := by
  rw [value?, h, Json.readBytes?, Text.Utf8.strict?_toUTF8]
  rfl

/-- A text with a brace in it is not blank. -/
theorem value?_of_brace {text : String} (h : '\x7b' ∈ text.toList) :
    value? text.toUTF8 = Json.read? text :=
  value?_toUTF8 (not_blank_toUTF8 h (by decide) (by decide))

/-- What the bytes of a body are read as is in canonical form. -/
theorem canonical_of_value? {body : ByteArray} {v : Json} (h : value? body = some v) :
    v.canonical = v := by
  unfold value? at h
  split at h
  · cases h
    rfl
  · obtain ⟨text, -, hread⟩ := Option.bind_eq_some_iff.mp h
    rw [Json.read?_eq] at hread
    obtain ⟨w, -, rfl⟩ := Option.map_eq_some_iff.mp hread
    exact Json.canonical_canonical w

theorem settled_of_value? {body : ByteArray} {v : Json} (h : value? body = some v) : v.Settled := by
  unfold value? at h
  split at h
  · cases h
    exact .null
  · obtain ⟨text, -, hread⟩ := Option.bind_eq_some_iff.mp h
    exact Json.settled_of_read? hread

/-- What a body says: null if it is blank, otherwise what its text says. -/
inductive Says (body : ByteArray) : Json → Prop
  | blank (h : body.toList.all isBlankByte = true) : Says body .null
  | text {text : String} {v : Json} (h : body.toList.all isBlankByte = false)
      (htext : Text.Utf8.strict? body = some text) (hv : Json.Says text v) : Says body v

theorem value?_eq_some_iff {body : ByteArray} {v : Json} : value? body = some v ↔ Says body v := by
  unfold value? Json.readBytes?
  cases hblank : body.toList.all isBlankByte with
  | true =>
    rw [if_pos rfl, Option.some.injEq]
    constructor
    · rintro rfl
      exact .blank hblank
    · intro h
      cases h with
      | blank => rfl
      | text h => cases h.symm.trans hblank
  | false =>
    rw [if_neg Bool.false_ne_true, Option.bind_eq_some_iff]
    constructor
    · rintro ⟨text, htext, hv⟩
      exact .text hblank htext (Json.read?_eq_some_iff.mp hv)
    · intro h
      cases h with
      | blank h => cases h.symm.trans hblank
      | text _ htext hv => exact ⟨_, htext, Json.read?_eq_some_iff.mpr hv⟩

/-- A body that says nothing. -/
inductive Unreadable (body : ByteArray) : Prop
  /-- It is not in UTF-8. -/
  | bytes (h : body.toList.all isBlankByte = false) (hbytes : Text.Utf8.strict? body = none)
  /-- It is no JSON, or JSON beyond the bounds of the reader: on nesting, on numbers, on surrogates. -/
  | grammar {text : String} (h : body.toList.all isBlankByte = false)
      (htext : Text.Utf8.strict? body = some text) (hgrammar : Json.readOutlined? .whole text = none)
  /-- It is JSON, with an object that starts with the mark and is no embedded text. -/
  | embedding {text : String} {w : Json} (h : body.toList.all isBlankByte = false)
      (htext : Text.Utf8.strict? body = some text) (hw : Json.readOutlined? .whole text = some w)
      (hmis : w.Misembedded)

theorem value?_eq_none_iff {body : ByteArray} : value? body = none ↔ Unreadable body := by
  unfold value? Json.readBytes?
  cases hblank : body.toList.all isBlankByte with
  | true =>
    refine iff_of_false (fun h => by cases h) fun h => ?_
    cases h with
    | bytes h | grammar h | embedding h => cases h.symm.trans hblank
  | false =>
    rw [if_neg Bool.false_ne_true, Option.bind_eq_none_iff]
    constructor
    · intro hnone
      cases htext : Text.Utf8.strict? body with
      | none => exact .bytes hblank htext
      | some text =>
        rcases Json.read?_eq_none_iff.mp (hnone text htext) with hgrammar | ⟨w, hw, hmis⟩
        · exact .grammar hblank htext hgrammar
        · exact .embedding hblank htext hw hmis
    · intro h text htext
      cases h with
      | bytes _ hbytes => cases hbytes.symm.trans htext
      | grammar _ htext' hgrammar =>
        cases htext'.symm.trans htext
        exact Json.read?_eq_none_iff.mpr (.inl hgrammar)
      | embedding _ htext' hw hmis =>
        cases htext'.symm.trans htext
        exact Json.read?_eq_none_iff.mpr (.inr ⟨_, hw, hmis⟩)

/-- Null as a record is the record with nothing given. -/
def asRecord (v : Json) : Json := if v.isNull then .obj [] else v

theorem canonical_asRecord {v : Json} (h : v.canonical = v) : (asRecord v).canonical = asRecord v := by
  unfold asRecord
  split
  · exact Json.canonical_obj []
  · exact h

theorem json_eq (body : ByteArray) :
    json body = match value? body with
      | some v => .ok v
      | none => .error (invalid Json.malformed) := by
  unfold json value?
  split
  · rfl
  · rfl

theorem refusing_json (body : ByteArray) : Refusing (json body) := by
  rw [json_eq]
  cases value? body with
  | none => exact .error _
  | some v => exact .ok v

theorem json_error_iff {body : ByteArray} : (∃ e, json body = .error e) ↔ Unreadable body := by
  rw [← value?_eq_none_iff, json_eq]
  cases value? body <;> simp

theorem json_ok_iff {body : ByteArray} {v : Json} : json body = .ok v ↔ Says body v := by
  rw [← value?_eq_some_iff, json_eq]
  cases value? body <;> simp

variable {α : Type} {decode : Json → Decoded α} {body : ByteArray}

theorem parse_eq (decode : Json → Decoded α) (body : ByteArray) :
    parse decode body = match value? body with
      | some v => match decode (asRecord v) with
        | .ok a => .ok a
        | .error e => .error (invalid e.message)
      | none => .error (invalid Json.malformed) := by
  unfold parse
  rw [json_eq]
  cases value? body <;> rfl

theorem refusing_parse (decode : Json → Decoded α) (body : ByteArray) :
    Refusing (parse decode body) := by
  rw [parse_eq]
  cases value? body with
  | none => exact .error _
  | some v =>
    dsimp only
    cases decode (asRecord v) with
    | error e => exact .error _
    | ok a => exact .ok a

theorem parse_ok_iff {a : α} :
    parse decode body = .ok a ↔ ∃ v, value? body = some v ∧ decode (asRecord v) = .ok a := by
  rw [parse_eq]
  cases value? body with
  | none => simp
  | some v => cases h : decode (asRecord v) <;> simp [h]

theorem parse_error_iff : (∃ e, parse decode body = .error e) ↔
    Unreadable body ∨ ∃ v e, Says body v ∧ decode (asRecord v) = .error e := by
  simp only [← value?_eq_none_iff, ← value?_eq_some_iff]
  rw [parse_eq]
  cases value? body with
  | none => simp
  | some v => cases h : decode (asRecord v) <;> simp [h]

end Body

/-! ## Clauses that say no condition -/

namespace Sql

/-- A range without its two ends. -/
def Clause.LacksEnds (c : Clause) : Prop :=
  c.operation = .between ∧ ∀ low high, c.value ≠ .arr [low, high]

theorem Clause.condition?_of_lacksEnds {c : Clause} (h : c.LacksEnds) :
    ∃ text, c.condition? = .error (.validation text) := by
  obtain ⟨column, value, operation, negate, connector⟩ := c
  obtain ⟨rfl, hvalue⟩ := h
  unfold condition? predicate?
  dsimp only
  split
  · next low high => exact absurd rfl (hvalue low high)
  · exact ⟨_, rfl⟩

theorem Clause.condition?_of_not_lacksEnds {c : Clause} (h : ¬ c.LacksEnds) :
    ∃ p, c.condition? = .ok p := by
  obtain ⟨column, value, operation, negate, connector⟩ := c
  cases operation with
  | between =>
    unfold condition? predicate?
    dsimp only
    split
    · exact ⟨_, rfl⟩
    · next hvalue => exact absurd ⟨rfl, hvalue⟩ h
  | compare op => cases op <;> exact ⟨_, rfl⟩
  | among | isNull | unsupported => exact ⟨_, rfl⟩

theorem Clause.refusing_condition? (c : Clause) : Refusing c.condition? := by
  by_cases h : c.LacksEnds
  · obtain ⟨text, herror⟩ := condition?_of_lacksEnds h
    rw [herror]
    exact .error text
  · obtain ⟨p, hok⟩ := condition?_of_not_lacksEnds h
    rw [hok]
    exact .ok p

theorem Clause.condition?_error_iff (c : Clause) : (∃ e, c.condition? = .error e) ↔ c.LacksEnds := by
  constructor
  · rintro ⟨e, herror⟩
    by_contra h
    obtain ⟨p, hok⟩ := condition?_of_not_lacksEnds h
    cases herror.symm.trans hok
  · intro h
    obtain ⟨text, herror⟩ := condition?_of_lacksEnds h
    exact ⟨_, herror⟩

theorem refusing_compile (clauses : List Clause) (q : Select) : Refusing (compile clauses q) := by
  induction clauses generalizing q with
  | nil => exact .ok q
  | cons c rest ih =>
    unfold compile
    split
    · next e h =>
      rintro _ ⟨⟩
      exact c.refusing_condition? e h
    · exact ih q
    · exact ih _

/-- Compiling fails on a range without its ends, wherever it stands. -/
theorem compile_error_iff (clauses : List Clause) (q : Select) :
    (∃ e, compile clauses q = .error e) ↔ ∃ c ∈ clauses, c.LacksEnds := by
  induction clauses generalizing q with
  | nil => simp
  | cons c rest ih =>
    rw [List.exists_mem_cons_iff, ← c.condition?_error_iff]
    unfold compile
    cases h : c.condition? with
    | error e => simp
    | ok p =>
      cases p with
      | none => simpa using ih q
      | some condition => simpa using ih _

/-! ## Descriptions that are not fit -/

theorem refusing_checkIdentifier (what value : String) : Refusing (checkIdentifier what value) := by
  unfold checkIdentifier
  split
  · exact .ok _
  · exact .error _

theorem refusing_checkReference (r : Option Reference) : Refusing (checkReference r) := by
  cases r with
  | none => exact .ok _
  | some r => exact .bind (refusing_checkIdentifier _ _) fun _ => refusing_checkIdentifier _ _

theorem refusing_checkColumn (key name : String) (c : ColumnSpec) :
    Refusing (checkColumn key name c) :=
  .bind (refusing_checkIdentifier _ _) fun _ => .guard (.guard (refusing_checkReference _))

theorem refusing_checkColumns (key : String) (columns : List (String × ColumnSpec)) :
    Refusing (checkColumns key columns) := by
  induction columns with
  | nil => exact .ok _
  | cons p rest ih => exact .bind (refusing_checkColumn key p.1 p.2) fun _ => ih

theorem TableSpec.refusing_check (t : TableSpec) : Refusing t.check :=
  .bind (refusing_checkIdentifier _ _) fun _ =>
    .bind (refusing_checkIdentifier _ _) fun _ => refusing_checkColumns _ _

theorem TableSpec.check_error_iff (t : TableSpec) : (∃ e, t.check = .error e) ↔ ¬ t.Fit := by
  rw [← t.check_iff]
  cases t.check with
  | error e => simp
  | ok u => simp

end Sql

/-! ## Queries -/

namespace QuerySpec

variable {spec : QuerySpec} {table : String} {columns : List String}

theorem refusing_select (spec : QuerySpec) (table : String) (columns : List String) :
    Refusing (spec.select table columns) := by
  unfold select
  split
  · next e h =>
    rintro _ ⟨⟩
    exact Sql.refusing_compile _ _ e h
  · split
    · exact .ok _
    · exact .ok _

/-- Only the clauses decide whether a description of a query is one. -/
theorem select_error_iff :
    (∃ e, spec.select table columns = .error e) ↔ ∃ c ∈ spec.filters, c.LacksEnds := by
  rw [← Sql.compile_error_iff spec.filters { Sql.Select.all table with columns }, select]
  cases Sql.compile spec.filters { Sql.Select.all table with columns } with
  | error e => simp
  | ok q => cases spec.sort <;> simp

end QuerySpec

/-! ## Malformed bodies -/

/-- The handlers that read the body of a request. -/
def Handler.bodied : List Handler := [create, update, query, rawQuery, createTable]

/-- Bodies that a handler cannot take: those that say nothing, and those that say what it has no use for.
What is inside of a body is what it says, with the values of embedded texts in their place. -/
inductive Malformed : Handler → ByteArray → Prop
  | unread {h : Handler} {body : ByteArray} (hh : h ∈ Handler.bodied) (hbody : Body.Unreadable body) :
      Malformed h body
  /-- It is no record of the insertions. -/
  | inserts {body : ByteArray} {v : Json} {e : DecodeError} (hv : Body.Says body v)
      (he : Service.decodeInserts (Body.asRecord v) = .error e) : Malformed .create body
  | noRow {body : ByteArray} {v : Json} (hv : Body.Says body v)
      (hrows : Service.decodeInserts (Body.asRecord v) = .ok []) : Malformed .create body
  | emptyRow {body : ByteArray} {v : Json} {rows : List Fields} (hv : Body.Says body v)
      (hrows : Service.decodeInserts (Body.asRecord v) = .ok rows) (hempty : [] ∈ rows) :
      Malformed .create body
  /-- It is no object, or an empty one. -/
  | changes {body : ByteArray} {v : Json} (hv : Body.Says body v)
      (hnone : ∀ m, v = .obj m → m = []) : Malformed .update body
  /-- It is no description of a query. -/
  | spec {body : ByteArray} {v : Json} {e : DecodeError} (hv : Body.Says body v)
      (he : QuerySpec.decode (Body.asRecord v) = .error e) : Malformed .query body
  | range {body : ByteArray} {v : Json} {spec : QuerySpec} {c : Sql.Clause}
      (hv : Body.Says body v) (hspec : QuerySpec.decode (Body.asRecord v) = .ok spec)
      (hc : c ∈ spec.filters) (hends : c.LacksEnds) : Malformed .query body
  /-- No statement is given, or a blank one. -/
  | statement {body : ByteArray} {v : Json} (hv : Body.Says body v)
      (hnone : ∀ s, v.get? "dbQuery" = some (.str s) → Text.trim s = "") : Malformed .rawQuery body
  /-- It is no description of a table. -/
  | table {body : ByteArray} {v : Json} {e : DecodeError} (hv : Body.Says body v)
      (he : Sql.TableSpec.decode (Body.asRecord v) = .error e) : Malformed .createTable body
  | unfit {body : ByteArray} {v : Json} {spec : Sql.TableSpec} (hv : Body.Says body v)
      (hspec : Sql.TableSpec.decode (Body.asRecord v) = .ok spec) (hfit : ¬ spec.Fit) :
      Malformed .createTable body

theorem Malformed.bodied {h : Handler} {body : ByteArray} (hm : Malformed h body) :
    h ∈ Handler.bodied := by
  cases hm with
  | unread hh => exact hh
  | _ => decide

namespace Service

theorem refusing_readInserts (body : ByteArray) : Refusing (readInserts body) :=
  .bind (Body.refusing_parse _ _) fun rows => .guard (.guard (.ok rows))

theorem readInserts_error_iff {body : ByteArray} :
    (∃ e, readInserts body = .error e) ↔ Malformed .create body := by
  have hempty (rows : List Fields) : rows.any List.isEmpty = true ↔ [] ∈ rows := by
    simp [List.any_eq_true]
  have hchecks : (∃ e, readInserts body = .error e) ↔ (∃ e, Body.parse decodeInserts body = .error e) ∨
      ∃ rows, Body.parse decodeInserts body = .ok rows ∧ (rows = [] ∨ [] ∈ rows) := by
    rw [readInserts, bind_error_iff]
    refine or_congr_right (exists_congr fun rows => and_congr_right fun _ => ?_)
    rw [guard_error_iff, guard_error_iff, List.isEmpty_iff, hempty]
    exact or_congr_right (or_iff_left fun ⟨d, hd⟩ => by cases hd)
  rw [hchecks, Body.parse_error_iff]
  constructor
  · rintro ((hv | ⟨v, e, hv, he⟩) | ⟨rows, hrows, hfails⟩)
    · exact .unread (by decide) hv
    · exact .inserts hv he
    · obtain ⟨v, hv, hrows⟩ := Body.parse_ok_iff.mp hrows
      rw [Body.value?_eq_some_iff] at hv
      rcases hfails with rfl | hempty
      · exact .noRow hv hrows
      · exact .emptyRow hv hrows hempty
  · intro h
    cases h with
    | unread hh hv => exact .inl (.inl hv)
    | inserts hv he => exact .inl (.inr ⟨_, _, hv, he⟩)
    | noRow hv hrows =>
      have hv := Body.value?_eq_some_iff.mpr hv
      exact .inr ⟨[], Body.parse_ok_iff.mpr ⟨_, hv, hrows⟩, .inl rfl⟩
    | emptyRow hv hrows hempty =>
      have hv := Body.value?_eq_some_iff.mpr hv
      exact .inr ⟨_, Body.parse_ok_iff.mpr ⟨_, hv, hrows⟩, .inr hempty⟩

theorem refusing_readChanges (body : ByteArray) : Refusing (readChanges body) := by
  refine .bind (Body.refusing_json _) fun v => ?_
  split
  · exact .ok _
  · exact .error _

theorem readChanges_error_iff {body : ByteArray} :
    (∃ e, readChanges body = .error e) ↔ Malformed .update body := by
  rw [readChanges, bind_error_iff, Body.json_error_iff]
  constructor
  · rintro (hv | ⟨v, hv, e, he⟩)
    · exact .unread (by decide) hv
    · refine .changes (Body.json_ok_iff.mp hv) ?_
      rintro (_ | ⟨p, rest⟩) rfl
      · rfl
      · cases he
  · intro h
    cases h with
    | unread hh hv => exact .inl hv
    | @changes body v hv hnone =>
      refine .inr ⟨v, Body.json_ok_iff.mpr hv, ?_⟩
      split
      · next p rest => cases hnone (p :: rest) rfl
      · exact ⟨_, rfl⟩

theorem refusing_readStatement (body : ByteArray) : Refusing (readStatement body) := by
  refine .bind (Body.refusing_json _) fun v => ?_
  split
  · split
    · exact .error _
    · exact .ok _
  · exact .error _

theorem readStatement_error_iff {body : ByteArray} :
    (∃ e, readStatement body = .error e) ↔ Malformed .rawQuery body := by
  rw [readStatement, bind_error_iff, Body.json_error_iff]
  constructor
  · rintro (hv | ⟨v, hv, e, he⟩)
    · exact .unread (by decide) hv
    · refine .statement (Body.json_ok_iff.mp hv) fun s hs => ?_
      rw [hs] at he
      dsimp only at he
      split at he
      · next hblank => simpa using hblank
      · cases he
  · intro h
    cases h with
    | unread hh hv => exact .inl hv
    | @statement body v hv hnone =>
      refine .inr ⟨v, Body.json_ok_iff.mpr hv, ?_⟩
      split
      · next s hs =>
        rw [if_pos (by simp [hnone s hs])]
        exact ⟨_, rfl⟩
      · exact ⟨_, rfl⟩

theorem refusing_readTable (body : ByteArray) : Refusing (readTable body) :=
  .bind (Body.refusing_parse _ _) fun spec => .bind spec.refusing_check fun _ => .ok _

theorem readTable_error_iff {body : ByteArray} :
    (∃ e, readTable body = .error e) ↔ Malformed .createTable body := by
  have hchecks (spec : Sql.TableSpec) : (∃ e, (do
      spec.check
      return spec : Except Failure Sql.TableSpec) = .error e) ↔ ¬ spec.Fit := by
    rw [bind_error_iff, spec.check_error_iff]
    exact or_iff_left fun ⟨_, _, e, he⟩ => by cases he
  rw [readTable, bind_error_iff, Body.parse_error_iff]
  constructor
  · rintro ((hv | ⟨v, e, hv, he⟩) | ⟨spec, hspec, hfails⟩)
    · exact .unread (by decide) hv
    · exact .table hv he
    · obtain ⟨v, hv, hspec⟩ := Body.parse_ok_iff.mp hspec
      exact .unfit (Body.value?_eq_some_iff.mp hv) hspec ((hchecks spec).mp hfails)
  · intro h
    cases h with
    | unread hh hv => exact .inl (.inl hv)
    | table hv he => exact .inl (.inr ⟨_, _, hv, he⟩)
    | @unfit body v spec hv hspec hfit =>
      have hv := Body.value?_eq_some_iff.mpr hv
      exact .inr ⟨spec, Body.parse_ok_iff.mpr ⟨_, hv, hspec⟩, (hchecks spec).mpr hfit⟩

theorem parse_select_error_iff {body : ByteArray} :
    ((∃ e, Body.parse QuerySpec.decode body = .error e) ∨
      ∃ spec, Body.parse QuerySpec.decode body = .ok spec ∧ ∃ c ∈ spec.filters, c.LacksEnds) ↔
      Malformed .query body := by
  rw [Body.parse_error_iff]
  constructor
  · rintro ((hv | ⟨v, e, hv, he⟩) | ⟨spec, hspec, c, hc, hends⟩)
    · exact .unread (by decide) hv
    · exact .spec hv he
    · obtain ⟨v, hv, hspec⟩ := Body.parse_ok_iff.mp hspec
      exact .range (Body.value?_eq_some_iff.mp hv) hspec hc hends
  · intro h
    cases h with
    | unread hh hv => exact .inl (.inl hv)
    | spec hv he => exact .inl (.inr ⟨_, _, hv, he⟩)
    | range hv hspec hc hends =>
      have hv := Body.value?_eq_some_iff.mpr hv
      exact .inr ⟨_, Body.parse_ok_iff.mpr ⟨_, hv, hspec⟩, _, hc, hends⟩

end Service

end SchemaRest
