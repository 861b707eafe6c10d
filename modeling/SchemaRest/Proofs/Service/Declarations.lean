import Mathlib
import SchemaRest.Proofs.Request.Bodies
import SchemaRest.Proofs.Service.Effects
import SchemaRest.Proofs.Sql.CreateOrder

/-!
# Declared columns

What becomes of the columns that the body of a request declares, up to the statement that is executed and
returned. They keep the order they are written in just where it is the order of their names.
-/

namespace SchemaRest

namespace Body

/-- The value that a body says, the fields of objects in the order they are written in. -/
def written? (body : ByteArray) : Option Json :=
  if body.toList.all isBlankByte then some .null
  else (Text.Utf8.strict? body).bind Json.readWritten?

theorem value?_eq (body : ByteArray) : value? body = (written? body).map Json.canonical := by
  unfold value? written?
  split
  · rfl
  · rw [Json.readBytes?]
    cases Text.Utf8.strict? body with
    | none => rfl
    | some text => exact Json.read?_eq text

theorem written?_toUTF8 {text : String} (h : text.toUTF8.toList.all isBlankByte = false) :
    written? text.toUTF8 = Json.readWritten? text := by
  rw [written?, h, Text.Utf8.strict?_toUTF8]
  rfl

end Body

namespace Service

open Effect

/-! ## What is decoded -/

theorem names_of_readTable {body : ByteArray} {spec : Sql.TableSpec} (h : readTable body = .ok spec) :
    spec.check = .ok () ∧ ∃ v, Body.written? body = some v ∧
      spec.columnNames = Fields.keys (Fields.ofList (Sql.TableSpec.writtenColumns v)) := by
  obtain ⟨spec', hparse, h⟩ := bind_eq_ok h
  obtain ⟨u, hcheck, h⟩ := bind_eq_ok h
  cases h
  refine ⟨hcheck, ?_⟩
  obtain ⟨value, hvalue, hdecode⟩ := Body.parse_ok_iff.mp hparse
  rw [Body.value?_eq] at hvalue
  obtain ⟨v, hv, rfl⟩ := Option.map_eq_some_iff.mp hvalue
  refine ⟨v, hv, Sql.TableSpec.names_of_decode ?_⟩
  cases v with
  | obj fields =>
    rw [Json.canonical_obj] at hdecode ⊢
    exact hdecode
  | arr items =>
    rw [Json.canonical_arr] at hdecode ⊢
    exact hdecode
  | _ =>
    -- null, too, is no description: as a record it has no name
    simp only [Json.canonical] at hdecode
    cases hdecode

/-! ## What is executed and returned -/

variable {c : Call} {spec : Sql.TableSpec}

theorem createTable_of_readTable (h : readTable c.body = .ok spec) :
    createTable c = reported .createTable (Database.createsWithoutWarning spec.create) >>= fun created =>
      if created then
        pure (.envelope 201 Response.codeWritten "Table created" (some (.str spec.create)))
      else Effect.fail (.tableAlreadyExists spec.name) := by
  unfold createTable
  rw [h]
  rfl

/-- The statement is executed first, and after it only warnings are counted. -/
theorem sent_createTable (h : readTable c.body = .ok spec) (w : World) :
    ∃ more, (createTable c w).2.sent = w.sent ++ w.recorded [.text spec.create] ++ more ∧
      ∀ s ∈ more, s = .text "SELECT CAST(@@warning_count AS SIGNED) AS warnings" := by
  have hworld : (createTable c w).2 = (Database.createsWithoutWarning spec.create w).2 := by
    rw [createTable_of_readTable h, bind_snd fun created w => by split <;> rfl, reported, mapFailure_snd]
  have hissues := (issues_send (.text spec.create) w).sent
  rw [hworld, Database.createsWithoutWarning, bind_apply]
  cases hsend : send (.text spec.create) w with
  | mk r w' =>
    rw [hsend] at hissues
    cases r with
    | error e => exact ⟨[], by rw [hissues, List.append_nil], List.forall_mem_nil _⟩
    | ok replies =>
      rw [← hissues]
      exact ((Sends.ofExcept _).bind fun _ => (Database.sends_firstRow _).bind fun _ =>
        (Sends.ofExcept _).bind fun _ => .pure _) w' |>.sent

theorem answer_of_createTable (h : readTable c.body = .ok spec) {w : World} {r : Response}
    (hr : (createTable c w).1 = .ok r) :
    r = .envelope 201 Response.codeWritten "Table created" (some (.str spec.create)) := by
  rw [createTable_of_readTable h, bind_apply] at hr
  split at hr
  · next created w' hcreated =>
    split at hr
    · cases hr
      rfl
    · cases hr
  · cases hr

/-! ## The order of the columns -/

/-- What becomes of the columns that a body declares, written as they stand in `v`. -/
structure Declared (c : Call) (spec : Sql.TableSpec) (v : Json) : Prop where
  /-- There is a column for each name. -/
  same : ∀ name, name ∈ spec.columnNames ↔ name ∈ Sql.TableSpec.writtenNames v
  /-- They stand in the order of their names. -/
  increasing : spec.columnNames.Pairwise (· < ·)
  /-- Written with distinct names they keep their order just where it is that order. -/
  kept_iff : (Sql.TableSpec.writtenNames v).Nodup →
    spec.columnNames.Perm (Sql.TableSpec.writtenNames v) ∧
      (spec.columnNames = Sql.TableSpec.writtenNames v ↔
        (Sql.TableSpec.writtenNames v).Pairwise (· < ·))
  /-- The statement defines the columns in the order of the description. -/
  defined : Sql.creation? spec.create = some spec.creation
  /-- It is executed before anything else is. -/
  executed : ∀ w : World, ∃ more,
    (createTable c w).2.sent = w.sent ++ w.recorded [.text spec.create] ++ more ∧
      ∀ s ∈ more, s = .text "SELECT CAST(@@warning_count AS SIGNED) AS warnings"
  /-- It is what a successful answer contains. -/
  returned : ∀ (w : World) (r : Response), (createTable c w).1 = .ok r →
    r = .envelope 201 Response.codeWritten "Table created" (some (.str spec.create))

/-- The definitions of the columns come in the order of their names, in whatever order they are written. -/
theorem declared_of_readTable (h : readTable c.body = .ok spec) :
    ∃ v, Body.written? c.body = some v ∧ Declared c spec v := by
  obtain ⟨hcheck, v, hv, hnames⟩ := names_of_readTable h
  have hsorted : spec.columnNames.Pairwise (· < ·) := by
    rw [hnames]
    exact Fields.sorted_ofList _
  have hsame (name : String) : name ∈ spec.columnNames ↔ name ∈ Sql.TableSpec.writtenNames v := by
    rw [hnames]
    exact Fields.mem_keys_ofList
  refine ⟨v, hv, hsame, hsorted, fun hnodup => ⟨?_, ?_⟩, Sql.TableSpec.creation?_of_check hcheck,
    sent_createTable h, fun w r => answer_of_createTable h⟩
  · exact (List.perm_ext_iff_of_nodup (hsorted.imp ne_of_lt) hnodup).mpr hsame
  · rw [hnames]
    exact Fields.keys_ofList_eq_iff

/-- Two columns, the later name first. -/
def zetaFirst : String :=
  "\x7b\"tableName\": \"t\", \"columns\": \x7b\"zeta\": \x7b\"type\": \"INT\"\x7d, " ++
    "\"alpha\": \x7b\"type\": \"INT\"\x7d\x7d\x7d"

/-- The same columns in the order of their names. -/
def alphaZeta : Sql.TableSpec :=
  ⟨"t", none, ["alpha", "zeta"].map (·, { Sql.ColumnSpec.empty with type := "INT" })⟩

theorem written?_zetaFirst : Body.written? zetaFirst.toUTF8 = some (.obj [("tableName", .str "t"),
    ("columns", .obj [("zeta", .obj [("type", .str "INT")]), ("alpha", .obj [("type", .str "INT")])])]) := by
  have hblank : zetaFirst.toUTF8.toList.all Body.isBlankByte = false :=
    Body.not_blank_toUTF8 (c := '\x7b') (by decide) (by decide) (by decide)
  rw [Body.written?_toUTF8 hblank]
  cbv

theorem readTable_zetaFirst : readTable zetaFirst.toUTF8 = .ok alphaZeta := by
  have hvalue : Body.value? zetaFirst.toUTF8 = some (.obj [
      ("columns", .obj [("alpha", .obj [("type", .str "INT")]), ("zeta", .obj [("type", .str "INT")])]),
      ("tableName", .str "t")]) := by
    rw [Body.value?_eq, written?_zetaFirst]
    cbv
  rw [readTable, Body.parse_eq, hvalue]
  rfl

/-- A service whose database creates a table without a warning. -/
def creating : World :=
  { World.initial "" "" with
    database := .replying
      [[.done 0 0], [.rows [⟨"warnings", "BIGINT", false⟩] [[some [48]]]]] }

/-- The request to create the two columns. -/
def zetaCall : Call := ⟨⟨"POST", "/zero-code/table", [], []⟩, "", zetaFirst.toUTF8⟩

theorem zetaFirst_reordered :
    let statement := "CREATE TABLE IF NOT EXISTS t(\nid INT UNSIGNED NOT NULL AUTO_INCREMENT," ++
      "\nalpha INT NULL,\nzeta INT NULL,\nCONSTRAINT PK_t PRIMARY KEY (id)\n);"
    (∃ v, Body.written? zetaCall.body = some v ∧
      Sql.TableSpec.writtenNames v = ["zeta", "alpha"]) ∧
    readTable zetaCall.body = .ok alphaZeta ∧
    (createTable zetaCall creating).1 =
      .ok (.envelope 201 Response.codeWritten "Table created" (some (.str statement))) ∧
    (createTable zetaCall creating).2.sent =
      [.text statement, .text "SELECT CAST(@@warning_count AS SIGNED) AS warnings"] := by
  intro statement
  have hrun := createTable_of_readTable (c := zetaCall) readTable_zetaFirst
  have hcreate : alphaZeta.create = statement := by decide +kernel
  rw [hcreate] at hrun
  rw [hrun]
  exact ⟨⟨_, written?_zetaFirst, rfl⟩, readTable_zetaFirst, by cbv, by cbv⟩

theorem declared_zetaFirst : readTable zetaCall.body = .ok alphaZeta ∧
    ∃ v, Body.written? zetaCall.body = some v ∧ Declared zetaCall alphaZeta v :=
  ⟨readTable_zetaFirst, declared_of_readTable readTable_zetaFirst⟩

end Service

end SchemaRest
