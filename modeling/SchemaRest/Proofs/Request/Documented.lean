import Mathlib
import SchemaRest.Json.Path
import SchemaRest.Proofs.OpenApi.Validity
import SchemaRest.Proofs.Request.Bodies
import SchemaRest.Proofs.Request.Parts

/-!
# Query bodies that are documented

The document describes query bodies by a schema, and a decoder reads them. What the decoder asks beyond
the schema is said here part by part: `Clear` says when a part has it, and a valid body is read just where
all of its parts are clear. Every clause of a body that is read has the operation it names, and the
connector it names or else the one that the schema declares.
-/

namespace SchemaRest

namespace Decode

variable {α σ : Type} {v : Json} {fs : Fields}

/-! ## Values that can be decoded -/

theorem anything_ok_iff : (∃ w, anything v = .ok w) ↔ ∃ w, Json.Embedded.resolve Json.read? v = .ok w := by
  unfold anything
  cases Json.Embedded.resolve Json.read? v with
  | error e => exact iff_of_false (fun ⟨_, h⟩ => by cases h) fun ⟨_, h⟩ => by cases h
  | ok w => exact iff_of_true ⟨_, rfl⟩ ⟨w, rfl⟩

theorem text_ok_iff : (∃ text, Decode.text v = .ok text) ↔ ∃ text, v = .str text := by
  constructor
  · rintro ⟨text, h⟩
    cases v <;> cases h
    exact ⟨text, rfl⟩
  · rintro ⟨text, rfl⟩
    exact ⟨text, rfl⟩

theorem signed64_ok_iff : (∃ n, signed64 v = .ok n) ↔
    ∃ n, v = .num (.int n) ∧ Text.minI64 ≤ n ∧ n ≤ Text.maxI64 := by
  constructor
  · rintro ⟨m, h⟩
    unfold signed64 whole at h
    split at h
    · next n =>
      split at h
      · next hrange => exact ⟨n, rfl, hrange⟩
      · cases h
    · cases h
  · rintro ⟨n, rfl, hrange⟩
    exact ⟨n, if_pos hrange⟩

theorem optional_ok_iff {decode : Json → Decoded α} (h : v ≠ .null) :
    (∃ a, optional decode v = .ok a) ↔ ∃ a, decode v = .ok a := by
  have hsome : optional decode v = (decode v).map some := by
    cases v with
    | null => exact absurd rfl h
    | _ => rfl
  rw [hsome]
  cases decode v with
  | error e => exact iff_of_false (fun ⟨_, h⟩ => by cases h) fun ⟨_, h⟩ => by cases h
  | ok a => exact iff_of_true ⟨some a, rfl⟩ ⟨a, rfl⟩

section

variable {known : List (String × α)} {name : String}

theorem choice_of_lookup {fallback : Option α} {a : α} (h : known.lookup name = some a) :
    choice known fallback (.str name) = .ok a := by
  unfold choice
  dsimp only
  rw [h]

theorem choice_text_ok_iff : (∃ a, choice known none (.str name) = .ok a) ↔ name ∈ known.map (·.1) := by
  have hlookup : name ∈ known.map (·.1) ↔ (known.lookup name).isSome := by
    rw [List.lookup_isSome_iff, List.mem_map]
    exact exists_congr fun p => and_congr_right fun _ => by rw [beq_iff_eq, eq_comm]
  rw [hlookup]
  cases h : known.lookup name with
  | some a => exact iff_of_true ⟨a, choice_of_lookup h⟩ rfl
  | none =>
    refine iff_of_false (fun ⟨a, hchoice⟩ => ?_) Bool.false_ne_true
    unfold choice at hchoice
    dsimp only at hchoice
    rw [h] at hchoice
    cases hchoice

/-- A choice without a fallback is one of its names, as a text or as an object with that one key. -/
theorem choice_ok_iff : (∃ a, choice known none v = .ok a) ↔
    ∃ name ∈ known.map (·.1), v = .str name ∨ v = .obj [(name, .null)] := by
  constructor
  · rintro ⟨a, h⟩
    unfold choice at h
    split at h
    · next name => exact ⟨name, choice_text_ok_iff.mp ⟨a, h⟩, .inl rfl⟩
    · next name => exact ⟨name, choice_text_ok_iff.mp ⟨a, h⟩, .inr rfl⟩
    · obtain ⟨_, -, h⟩ := bind_eq_ok h
      cases h
    · cases h
    · cases h
  · rintro ⟨name, hname, rfl | rfl⟩
    · exact choice_text_ok_iff.mpr hname
    · exact choice_text_ok_iff.mpr hname

end

end Decode

/-! ## What the schemas say -/

namespace OpenApi

variable {whole : Double → Bool} {names : List String} {columns : List Catalog.Column} {v : Json}

theorem valid_clauseSchema (h : valid whole (clauseSchema names) v = true) : ∃ fs, v = .obj fs ∧
    (∃ column, Fields.get? "column" fs = some (.str column)) ∧
    (∃ name ∈ operations, Fields.get? "operation" fs = some (.str name)) ∧
    (∀ x, Fields.get? "negate" fs = some x → ∃ b, x = .bool b) ∧
    ∀ x, Fields.get? "connector" fs = some x → ∃ name ∈ Sql.Connector.names.map (·.1), x = .str name := by
  obtain ⟨fs, rfl, hrequired, hproperties⟩ := (valid_record_iff (by simp)).mp h
  obtain ⟨hcolumn, -, hoperation, hnegate, hconnector, -⟩ := by
    simpa only [List.forall_mem_cons] using hproperties
  obtain ⟨hcolumnGiven, hoperationGiven, -⟩ := by
    simpa only [List.forall_mem_cons] using hrequired
  obtain ⟨x, hx⟩ := Option.isSome_iff_exists.mp hcolumnGiven
  obtain ⟨column, -, rfl⟩ := valid_oneOf_iff.mp (hcolumn x hx)
  obtain ⟨y, hy⟩ := Option.isSome_iff_exists.mp hoperationGiven
  obtain ⟨operation, hmem, rfl⟩ := valid_oneOf_iff.mp (hoperation y hy)
  refine ⟨fs, rfl, ⟨column, hx⟩, ⟨operation, hmem, hy⟩, fun x hx => ?_, fun x hx => ?_⟩
  · exact hasType_boolean_iff.mp (valid_typed_iff.mp (hnegate x hx))
  · exact valid_oneOf_iff.mp ((valid_defaulted_iff (by simp [oneOf])).mp (hconnector x hx))

theorem valid_pageSchema (h : valid whole pageSchema v = true) : ∃ fs, v = .obj fs ∧
    (∀ x, Fields.get? "pagination" fs = some x → ∃ b, x = .bool b) ∧
    ∀ key ∈ ["itemsPerPage", "pageIndex"], ∀ x, Fields.get? key fs = some x → x ≠ .null := by
  obtain ⟨fs, rfl, hproperties⟩ := (valid_optional_iff (by simp)).mp h
  obtain ⟨hpagination, hsize, hindex, -⟩ := by
    simpa only [List.forall_mem_cons] using hproperties
  have hinteger : ∀ x, valid whole (typed "integer") x = true → x ≠ .null := by
    rintro x hx rfl
    exact Bool.false_ne_true (valid_typed_iff.mp hx)
  refine ⟨fs, rfl, fun x hx => ?_, List.forall_mem_cons.mpr ⟨fun x hx => hinteger x (hsize x hx),
    List.forall_mem_singleton.mpr fun x hx => hinteger x (hindex x hx)⟩⟩
  exact hasType_boolean_iff.mp (valid_typed_iff.mp ((valid_defaulted_iff (by simp)).mp (hpagination x hx)))

theorem valid_sortSchema (h : valid whole (sortSchema names) v = true) : ∃ fs, v = .obj fs ∧
    (∀ x, Fields.get? "column" fs = some x → ∃ column, x = .str column) ∧
    ∀ x, Fields.get? "direction" fs = some x → ∃ name ∈ Sql.Direction.names.map (·.1), x = .str name := by
  obtain ⟨fs, rfl, hproperties⟩ := (valid_optional_iff (by simp)).mp h
  obtain ⟨hcolumn, hdirection, -⟩ := by
    simpa only [List.forall_mem_cons] using hproperties
  refine ⟨fs, rfl, fun x hx => ?_, fun x hx => valid_oneOf_iff.mp (hdirection x hx)⟩
  obtain ⟨column, -, hcolumn⟩ := valid_oneOf_iff.mp (hcolumn x hx)
  exact ⟨column, hcolumn⟩

theorem valid_querySchema (h : valid whole (querySchema columns) v = true) : ∃ fs clauses, v = .obj fs ∧
    Fields.get? "filters" fs = some (.arr clauses) ∧
    (∀ clause ∈ clauses, valid whole (clauseSchema (columns.map (·.name))) clause = true) ∧
    (∀ x, Fields.get? "fields" fs = some x → ∃ items, x = .arr items ∧ ∀ item ∈ items, ∃ text, item = .str text) ∧
    (∀ x, Fields.get? "pagination" fs = some x → valid whole pageSchema x = true) ∧
    ∀ x, Fields.get? "sort" fs = some x → valid whole (sortSchema (columns.map (·.name))) x = true := by
  obtain ⟨fs, rfl, hrequired, hproperties⟩ := (valid_record_iff (by simp)).mp h
  obtain ⟨hfilters, hfields, hpage, hsort, -⟩ := by
    simpa only [List.forall_mem_cons] using hproperties
  obtain ⟨x, hx⟩ := Option.isSome_iff_exists.mp (hrequired "filters" (List.mem_singleton_self _))
  obtain ⟨clauses, rfl, hclauses⟩ := valid_arrayOf_iff.mp (hfilters x hx)
  refine ⟨fs, clauses, rfl, hx, hclauses, fun x hx => ?_, hpage, hsort⟩
  obtain ⟨items, rfl, hitems⟩ := valid_arrayOf_iff.mp (hfields x hx)
  refine ⟨items, rfl, fun item hitem => ?_⟩
  obtain ⟨text, -, htext⟩ := valid_oneOf_iff.mp (hitems item hitem)
  exact ⟨text, htext⟩

/-- The connector that the schema of a query body declares for clauses without one. -/
def declaredConnector? (columns : List Catalog.Column) : Option Json :=
  (querySchema columns).at? ["properties", "filters", "items", "properties", "connector", "default"]

theorem declaredConnector?_eq (columns : List Catalog.Column) : declaredConnector? columns = some (.str "or") := by
  cbv

end OpenApi

/-! ## Parts that are read -/

open Decode OpenApi

variable {whole : Double → Bool} {names : List String} {columns : List Catalog.Column} {v : Json}

/-- What decoding asks of a clause beyond its schema. -/
structure Sql.Clause.Clear (clause : Json) : Prop where
  /-- Embedded texts in the value can be read. -/
  value : ∀ x, clause.get? "value" = some x → ∃ w, Json.Embedded.resolve Json.read? x = .ok w
  /-- The other name of the connector stands alone and names one. -/
  operator : ∀ x, clause.get? "operator" = some x → clause.get? "connector" = none ∧
    ∃ name ∈ Connector.names.map (·.1), x = .str name ∨ x = .obj [(name, .null)]

/-- What decoding asks of a page beyond its schema: whole numbers of 64 bits. -/
def PageOverride.Clear (page : Json) : Prop :=
  ∀ key ∈ ["itemsPerPage", "pageIndex"], ∀ x, page.get? key = some x →
    ∃ n, x = .num (.int n) ∧ Text.minI64 ≤ n ∧ n ≤ Text.maxI64

/-- What decoding asks of an order beyond its schema: a column, under one of two names. -/
structure SortOrder.Clear (sort : Json) : Prop where
  column : (sort.get? "column").isSome ≠ (sort.get? "byColumn").isSome
  text : ∀ x, sort.get? "byColumn" = some x → ∃ text, x = .str text

/-- What decoding asks of a query body beyond its schema. -/
structure QuerySpec.Clear (v : Json) : Prop where
  clauses : ∀ clauses, v.get? "filters" = some (.arr clauses) → ∀ clause ∈ clauses, Sql.Clause.Clear clause
  page : ∀ page, v.get? "pagination" = some page → PageOverride.Clear page
  sort : ∀ sort, v.get? "sort" = some sort → SortOrder.Clear sort

theorem Sql.Operation.lookup_of_mem {name : String} (h : name ∈ operations) :
    ∃ op, Operation.names.lookup name = some op ∧ op ≠ .unsupported := by
  have hknown : ∀ name ∈ operations, (Operation.names.lookup name).any (· != .unsupported) := by decide
  simpa [Option.any_eq_true] using hknown name h

theorem Sql.Clause.decode_ok_iff (hvalid : valid whole (clauseSchema names) v = true)
    (hcanonical : v.canonical = v) : (∃ c, decode v = .ok c) ↔ Clear v := by
  obtain ⟨fs, rfl, ⟨column, hcolumn⟩, ⟨name, hname, hoperation⟩, hnegate, hconnector⟩ :=
    valid_clauseSchema hvalid
  have hkeys := (Json.sorted_of_canonical hcanonical).nodup
  have empty : Clause := ⟨"", .null, .unsupported, false, .or⟩
  rw [decode, record_ok_iff apart_fields steady_fields hkeys]
  simp only [fields, List.forall_mem_cons, accepts_required_iff empty, accepts_defaulted_iff empty,
    accepts_defaulted_orNamed_iff empty (show "connector" ≠ "operator" by decide)]
  constructor
  · rintro ⟨-, hvalue, -, -, ⟨-, hother⟩, -⟩
    refine ⟨fun x hx => anything_ok_iff.mp (hvalue x hx), fun x hx => ?_⟩
    exact ⟨(hother x hx).1, choice_ok_iff.mp (hother x hx).2⟩
  · intro h
    refine ⟨⟨_, hcolumn, column, rfl⟩, fun x hx => anything_ok_iff.mpr (h.value x hx), ⟨_, hoperation, ?_⟩,
      fun x hx => ?_, ⟨fun x hx => ?_, fun x hx => ?_⟩, List.forall_mem_nil _⟩
    · obtain ⟨op, hlookup, -⟩ := Operation.lookup_of_mem hname
      exact ⟨op, choice_of_lookup hlookup⟩
    · obtain ⟨b, rfl⟩ := hnegate x hx
      exact ⟨b, rfl⟩
    · obtain ⟨name, hname, rfl⟩ := hconnector x hx
      exact choice_ok_iff.mpr ⟨name, hname, .inl rfl⟩
    · exact ⟨(h.operator x hx).1, choice_ok_iff.mpr (h.operator x hx).2⟩

theorem PageOverride.decode_ok_iff (hvalid : valid whole pageSchema v = true)
    (hcanonical : v.canonical = v) : (∃ o, decode v = .ok o) ↔ Clear v := by
  obtain ⟨fs, rfl, hpagination, hnumbers⟩ := valid_pageSchema hvalid
  have hkeys := (Json.sorted_of_canonical hcanonical).nodup
  have hsteady : ∀ f ∈ fields, f.Steady := by simp [fields]
  have hnumber : ∀ key ∈ ["itemsPerPage", "pageIndex"], ∀ x, Fields.get? key fs = some x →
      ((∃ n, optional signed64 x = .ok n) ↔ ∃ n, x = .num (.int n) ∧ Text.minI64 ≤ n ∧ n ≤ Text.maxI64) :=
    fun key hkey x hx => (optional_ok_iff (hnumbers key hkey x hx)).trans signed64_ok_iff
  rw [decode, record_ok_iff (by decide) hsteady hkeys]
  simp only [fields, List.forall_mem_cons, accepts_defaulted_iff (⟨none, none, none⟩ : PageOverride)]
  rw [Clear, List.forall_mem_cons, List.forall_mem_singleton]
  constructor
  · rintro ⟨-, hsize, hindex, -⟩
    exact ⟨fun x hx => (hnumber "itemsPerPage" (by simp) x hx).mp (hsize x hx),
      fun x hx => (hnumber "pageIndex" (by simp) x hx).mp (hindex x hx)⟩
  · rintro ⟨hsize, hindex⟩
    refine ⟨fun x hx => ?_, fun x hx => (hnumber "itemsPerPage" (by simp) x hx).mpr (hsize x hx),
      fun x hx => (hnumber "pageIndex" (by simp) x hx).mpr (hindex x hx), List.forall_mem_nil _⟩
    obtain ⟨b, rfl⟩ := hpagination x hx
    exact ⟨some b, rfl⟩

theorem SortOrder.decode_ok_iff (hvalid : valid whole (sortSchema names) v = true)
    (hcanonical : v.canonical = v) : (∃ o, decode v = .ok o) ↔ Clear v := by
  obtain ⟨fs, rfl, hcolumn, hdirection⟩ := valid_sortSchema hvalid
  have hkeys := (Json.sorted_of_canonical hcanonical).nodup
  have empty : SortOrder := ⟨"", .ascending⟩
  rw [decode, record_ok_iff apart_fields steady_fields hkeys]
  simp only [fields, List.forall_mem_cons, accepts_defaulted_iff empty,
    accepts_required_orNamed_iff empty (show "column" ≠ "byColumn" by decide)]
  constructor
  · rintro ⟨⟨hone, -, hother, -⟩, -⟩
    exact ⟨hone, fun x hx => text_ok_iff.mp (hother x hx)⟩
  · intro h
    refine ⟨⟨h.column, fun x hx => text_ok_iff.mpr (hcolumn x hx), fun x hx => text_ok_iff.mpr (h.text x hx),
      List.forall_mem_nil _⟩, fun x hx => ?_, List.forall_mem_nil _⟩
    obtain ⟨name, hname, rfl⟩ := hdirection x hx
    exact choice_ok_iff.mpr ⟨name, hname, .inl rfl⟩

theorem QuerySpec.decode_ok_iff (hvalid : valid whole (querySchema columns) v = true)
    (hcanonical : v.canonical = v) : (∃ spec, decode v = .ok spec) ↔ Clear v := by
  obtain ⟨fs, clauses, rfl, hfilters, hclauses, hfields, hpage, hsort⟩ := valid_querySchema hvalid
  have hkeys := (Json.sorted_of_canonical hcanonical).nodup
  have hinner {key : String} {x : Json} (hx : Fields.get? key fs = some x) : x.canonical = x :=
    Json.canonical_field hcanonical hx
  rw [decode, record_ok_iff apart_members steady_members hkeys]
  have hclausesRead : (∃ cs, listOf Sql.Clause.decode (.arr clauses) = .ok cs) ↔
      ∀ clause ∈ clauses, Sql.Clause.Clear clause :=
    listOf_ok_iff.trans <| forall_congr' fun clause => forall_congr' fun h =>
      Sql.Clause.decode_ok_iff (hclauses clause h) (Json.canonical_item (hinner hfilters) h)
  have hpageRead (page : Json) (hx : Fields.get? "pagination" fs = some page) :
      (∃ o, optional PageOverride.decode page = .ok o) ↔ PageOverride.Clear page := by
    refine (optional_ok_iff ?_).trans (PageOverride.decode_ok_iff (hpage page hx) (hinner hx))
    obtain ⟨_, rfl, -⟩ := valid_pageSchema (hpage page hx)
    exact Json.noConfusion
  have hsortRead (sort : Json) (hx : Fields.get? "sort" fs = some sort) :
      (∃ o, optional SortOrder.decode sort = .ok o) ↔ SortOrder.Clear sort := by
    refine (optional_ok_iff ?_).trans (SortOrder.decode_ok_iff (hsort sort hx) (hinner hx))
    obtain ⟨_, rfl, -⟩ := valid_sortSchema (hsort sort hx)
    exact Json.noConfusion
  simp only [members, List.forall_mem_cons, accepts_defaulted_iff empty]
  constructor
  · rintro ⟨hfiltersOk, -, hpageOk, hsortOk, -⟩
    refine ⟨fun given hgiven => ?_, fun page hx => (hpageRead page hx).mp (hpageOk page hx),
      fun sort hx => (hsortRead sort hx).mp (hsortOk sort hx)⟩
    cases hfilters.symm.trans hgiven
    exact hclausesRead.mp (hfiltersOk _ hfilters)
  · intro h
    refine ⟨fun x hx => ?_, fun x hx => ?_, fun page hx => (hpageRead page hx).mpr (h.page page hx),
      fun sort hx => (hsortRead sort hx).mpr (h.sort sort hx), List.forall_mem_nil _⟩
    · cases hfilters.symm.trans hx
      exact hclausesRead.mpr (h.clauses clauses hfilters)
    · obtain ⟨items, rfl, hitems⟩ := hfields x hx
      exact listOf_ok_iff.mpr fun item hitem => text_ok_iff.mpr (hitems item hitem)

/-! ## What is read -/

/-- A clause that is read as it is documented: with the operation it names, and with the connector it names
under one of two names or else the one that is declared. -/
structure Sql.Clause.ReadAs (declared : Option Json) (clause : Json) (c : Clause) : Prop where
  operation : ∃ name, clause.get? "operation" = some (.str name) ∧
    Operation.names.lookup name = some c.operation
  supported : c.operation ≠ .unsupported
  connector : ∃ named, (clause.get? "connector").or ((clause.get? "operator").or declared) = some named ∧
    choice Connector.names none named = .ok c.connector

theorem Sql.Clause.readAs_of_decode (hvalid : valid whole (clauseSchema names) v = true)
    (hcanonical : v.canonical = v) {c : Clause} (h : decode v = .ok c) :
    ReadAs (declaredConnector? columns) v c := by
  have hclear := (decode_ok_iff hvalid hcanonical).mp ⟨c, h⟩
  have hsaid := saidBy_of_decode hcanonical h
  obtain ⟨fs, rfl, -, ⟨name, hname, hoperation⟩, -⟩ := valid_clauseSchema hvalid
  obtain ⟨op, hlookup, hsupported⟩ := Operation.lookup_of_mem hname
  have hop : c.operation = op := by
    have hpart := hsaid.operation
    rw [given?, hoperation] at hpart
    exact Except.ok.inj (hpart.symm.trans (choice_of_lookup hlookup))
  refine ⟨⟨name, hoperation, hop ▸ hlookup⟩, hop ▸ hsupported, ?_⟩
  have hconnector := hsaid.connector
  rw [given?, given?] at hconnector
  rw [Json.get?, Json.get?, ← Option.or_assoc]
  cases hgiven : (Fields.get? "connector" fs).or (Fields.get? "operator" fs) with
  | some x =>
    rw [hgiven] at hconnector
    exact ⟨x, Option.some_or, hconnector⟩
  | none =>
    rw [hgiven] at hconnector
    refine ⟨.str "or", by rw [Option.none_or, declaredConnector?_eq], ?_⟩
    rw [← Option.some.inj hconnector]
    rfl

namespace QuerySpec

/-- A valid body is read just where its parts are clear, and then every clause as it is documented. -/
theorem documented_of_valid {body : ByteArray} (hv : Body.value? body = some v)
    (hvalid : valid whole (querySchema columns) v = true) :
    ((∃ spec, Body.parse decode body = .ok spec) ↔ Clear v) ∧
    ∀ spec, Body.parse decode body = .ok spec → ∃ clauses, v.get? "filters" = some (.arr clauses) ∧
      List.Forall₂ (Sql.Clause.ReadAs (declaredConnector? columns)) clauses spec.filters := by
  have hcanonical := Body.canonical_of_value? hv
  have hparse (spec : QuerySpec) : Body.parse decode body = .ok spec ↔ decode v = .ok spec := by
    rw [Body.parse_ok_iff, hv]
    obtain ⟨fs, clauses, rfl, -⟩ := valid_querySchema hvalid
    simp [Body.asRecord, Json.isNull]
  simp only [hparse]
  refine ⟨decode_ok_iff hvalid hcanonical, fun spec hspec => ?_⟩
  obtain ⟨fs, clauses, rfl, hfilters, hclauses, -⟩ := valid_querySchema hvalid
  have hkeys := (Json.sorted_of_canonical hcanonical).nodup
  have hspares : ∀ g ∈ members, g ≠ members[0] → g.Spares QuerySpec.filters := by
    simp only [members, List.forall_mem_cons]
    exact ⟨fun h => absurd rfl h, fun _ => spares_map fun _ _ => rfl, fun _ => spares_map fun _ _ => rfl,
      fun _ => spares_map fun _ _ => rfl, List.forall_mem_nil _⟩
  rcases decoded_of_record (by decide) (List.getElem_mem _) rfl (fun _ _ => rfl) hspares hkeys hspec with
    ⟨hnone, -⟩ | ⟨key, hkey, x, hx, hlist⟩
  · cases hfilters.symm.trans (hnone "filters" List.mem_cons_self)
  · obtain rfl := List.mem_singleton.mp hkey
    cases hfilters.symm.trans hx
    have hclause : ∀ clause ∈ clauses,
        valid whole (clauseSchema (columns.map (·.name))) clause = true ∧ clause.canonical = clause :=
      fun clause h => ⟨hclauses clause h, Json.canonical_item (Json.canonical_field hcanonical hfilters) h⟩
    exact ⟨clauses, hfilters, ((List.forall₂_and_left _ _).mpr ⟨hclause, listOf_items hlist⟩).imp
      fun _ _ h => Sql.Clause.readAs_of_decode h.1.1 h.1.2 h.2⟩

/-- A table with one column. -/
def ages : List Catalog.Column := [⟨"age", none, false, "int", "int", "", "", .none, none, none, none⟩]

/-- A body with a clause that has no connector. -/
def adults : String :=
  "\x7b\"filters\":[\x7b\"column\":\"age\",\"operation\":\">\",\"value\":17\x7d]," ++
    "\"pagination\":\x7b\"pageIndex\":5\x7d,\"sort\":\x7b\"column\":\"age\"\x7d\x7d"

/-- The value of `adults`. -/
def adultsValue : Json :=
  .obj [("filters", .arr [
      .obj [("column", .str "age"), ("operation", .str ">"), ("value", .nat 17)]]),
    ("pagination", .obj [("pageIndex", .nat 5)]), ("sort", .obj [("column", .str "age")])]

theorem value?_adults : Body.value? adults.toUTF8 = some adultsValue := by
  rw [Body.value?_of_brace (by decide)]
  cbv

theorem clear_adultsValue : Clear adultsValue := by
  refine ⟨?clauses, ?page, ?sort⟩
  case clauses =>
    rintro _ ⟨⟩
    refine List.forall_mem_singleton.mpr ⟨?_, ?_⟩
    · rintro _ ⟨⟩
      exact ⟨_, rfl⟩
    · rintro _ ⟨⟩
  case page =>
    rintro _ ⟨⟩
    refine List.forall_mem_cons.mpr ⟨?_, List.forall_mem_singleton.mpr ?_⟩
    · rintro _ ⟨⟩
    · rintro _ ⟨⟩
      exact ⟨5, rfl, by decide⟩
  case sort =>
    rintro _ ⟨⟩
    refine ⟨by decide, ?_⟩
    rintro _ ⟨⟩

theorem documented_adults : Body.value? adults.toUTF8 = some adultsValue ∧
    valid (fun _ => false) (querySchema ages) adultsValue = true ∧ Clear adultsValue ∧
    ∃ spec clauses, Body.parse decode adults.toUTF8 = .ok spec ∧
      adultsValue.get? "filters" = some (.arr clauses) ∧
      List.Forall₂ (Sql.Clause.ReadAs (declaredConnector? ages)) clauses spec.filters := by
  have hvalid : valid (fun _ => false) (querySchema ages) adultsValue = true := by decide +kernel
  obtain ⟨hread, hclauses⟩ := documented_of_valid value?_adults hvalid
  obtain ⟨spec, hspec⟩ := hread.mpr clear_adultsValue
  obtain ⟨clauses, hfilters, hmeant⟩ := hclauses spec hspec
  exact ⟨value?_adults, hvalid, clear_adultsValue, spec, clauses, hspec, hfilters, hmeant⟩

/-- An order that names no column. -/
def orderless : String := "\x7b\"filters\": [], \"sort\": \x7b\x7d\x7d"

theorem value?_orderless : Body.value? orderless.toUTF8 =
    some (.obj [("filters", .arr []), ("sort", .obj [])]) := by
  rw [Body.value?_of_brace (by decide)]
  cbv

/-- For every table an order without a column is valid, and no body with one is read. -/
theorem orderless_refused : ∃ v, Body.value? orderless.toUTF8 = some v ∧
    (∀ whole columns, valid whole (querySchema columns) v = true) ∧
    Body.parse decode orderless.toUTF8 =
      .error (.validation "Invalid body, missing field `column`") := by
  refine ⟨_, value?_orderless, fun whole columns => ?_, ?_⟩
  · refine (valid_record_iff (by simp)).mpr ⟨_, rfl, by decide, ?_⟩
    simp only [List.forall_mem_cons]
    refine ⟨?_, ?_, ?_, ?_, List.forall_mem_nil _⟩
    · rintro _ ⟨⟩
      exact valid_arrayOf_iff.mpr ⟨[], rfl, List.forall_mem_nil _⟩
    · rintro _ ⟨⟩
    · rintro _ ⟨⟩
    · rintro _ ⟨⟩
      refine (valid_optional_iff (by simp)).mpr ⟨[], rfl, fun _ _ field hfield => ?_⟩
      cases hfield
  · rw [Body.parse_eq, value?_orderless]
    rfl

end QuerySpec

end SchemaRest
