import Mathlib
import SchemaRest.Proofs.Request.Bodies
import SchemaRest.Proofs.Request.Parts
import SchemaRest.Proofs.Service.Access

/-!
# Spellings of a query body

One query can be written in several ways: a truth value in words, a default left out, a field under its other
name. Bodies that differ in nothing else are read as the same query, and the endpoint does the same for both.
What cannot be told apart from a slip is refused with the whole body: a field under both of its names, and a
truth value that is none.

The values of bodies are meant here, as they come from reading JSON; an embedded text in a body has been
replaced by then.
-/

namespace SchemaRest

open Decode

/-! ## Clauses -/

namespace Sql.Clause

theorem truth_str (field s : String) : truth field (.str s) =
    if Text.eqIgnoreCase s "true" then .ok true
    else if Text.eqIgnoreCase s "false" then .ok false
    else .error (.notTruthValue field (.str s)) := rfl

/-- The name of a truth value. -/
def truthName (b : Bool) : String := if b then "true" else "false"

theorem truth_of_name (field : String) {b : Bool} {s : String} (h : Text.eqIgnoreCase s (truthName b) = true) :
    truth field (.str s) = .ok b := by
  rw [truth_str]
  cases b with
  | true => exact if_pos h
  | false =>
    have hnames : Text.eqIgnoreCase "false" "true" = false := by decide
    have htrue : Text.eqIgnoreCase s "true" = false := by
      have hlower : s.toList.map Char.toLower = "false".toList.map Char.toLower := beq_iff_eq.mp h
      rw [Text.eqIgnoreCase, hlower]
      exact hnames
    rw [htrue, if_neg Bool.false_ne_true]
    exact if_pos h

/-- Whether a clause is negated in other words: a truth value by its name in any case of letters, and false by
null or by nothing. -/
inductive NegateRespelled : Option Json → Option Json → Prop
  | same (given : Option Json) : NegateRespelled given given
  | named {b : Bool} {s : String} (h : Text.eqIgnoreCase s (truthName b) = true) :
      NegateRespelled (some (.bool b)) (some (.str s))
  | null : NegateRespelled (some (.bool false)) (some .null)
  | removed : NegateRespelled (some (.bool false)) none

theorem NegateRespelled.said {given given' : Option Json} (h : NegateRespelled given given') {b : Bool}
    (hb : Said (truth "negate") (some false) given b) : Said (truth "negate") (some false) given' b := by
  cases h with
  | same => exact hb
  | named h =>
    cases hb
    exact truth_of_name "negate" h
  | null =>
    cases hb
    rfl
  | removed =>
    cases hb
    rfl

/-- The connector under its other name, or `or` left out. -/
inductive ConnectorRespelled (fs fs' : Fields) : Prop
  | same (hfirst : Fields.get? "connector" fs' = Fields.get? "connector" fs)
      (hsecond : Fields.get? "operator" fs' = Fields.get? "operator" fs)
  | renamed {v : Json} (hgiven : Fields.get? "connector" fs = some v)
      (hfirst : Fields.get? "connector" fs' = none) (hsecond : Fields.get? "operator" fs' = some v)
  | removed (hgiven : Fields.get? "connector" fs = some (.str "or"))
      (hfirst : Fields.get? "connector" fs' = none)
      (hsecond : Fields.get? "operator" fs' = Fields.get? "operator" fs)

/-- A clause in other words. -/
inductive Respelled : Json → Json → Prop
  | same (v : Json) : Respelled v v
  | object {fs fs' : Fields} (column : Fields.get? "column" fs' = Fields.get? "column" fs)
      (value : Fields.get? "value" fs' = Fields.get? "value" fs)
      (operation : Fields.get? "operation" fs' = Fields.get? "operation" fs)
      (negate : NegateRespelled (Fields.get? "negate" fs) (Fields.get? "negate" fs'))
      (connector : ConnectorRespelled fs fs') : Respelled (.obj fs) (.obj fs')
  | array {items items' : List Json} (length : items'.length ≤ items.length)
      (front : ∀ i < 3, items'[i]? = items[i]?) (negate : NegateRespelled items[3]? items'[3]?)
      (connector : items'[4]? = items[4]? ∨ items[4]? = some (.str "or") ∧ items'[4]? = none) :
      Respelled (.arr items) (.arr items')

variable {fs fs' : Fields} {v v' : Json} {c : Clause}

theorem ConnectorRespelled.shaped (h : ConnectorRespelled fs fs') (hshaped : Shaped fields (.obj fs)) :
    Shaped fields (.obj fs') := by
  rw [shaped_obj_iff] at hshaped ⊢
  cases h with
  | same hfirst hsecond => rwa [hfirst, hsecond]
  | renamed _ hfirst => exact .inl hfirst
  | removed _ hfirst => exact .inl hfirst

theorem ConnectorRespelled.said (h : ConnectorRespelled fs fs') (hshaped : Shaped fields (.obj fs))
    {connector : Connector} (hpart : Said (choice Connector.names none) (some .or)
      ((Fields.get? "connector" fs).or (Fields.get? "operator" fs)) connector) :
    Said (choice Connector.names none) (some .or)
      ((Fields.get? "connector" fs').or (Fields.get? "operator" fs')) connector := by
  cases h with
  | same hfirst hsecond => rwa [hfirst, hsecond]
  | renamed hgiven hfirst hsecond =>
    rw [hgiven] at hpart
    rwa [hfirst, hsecond]
  | removed hgiven hfirst hsecond =>
    have hnone : Fields.get? "operator" fs = none :=
      (shaped_obj_iff.mp hshaped).resolve_left (by simp [hgiven])
    rw [hgiven] at hpart
    cases hpart
    rw [hfirst, hsecond, hnone]
    rfl

/-- A clause in other words says the same clause. -/
theorem Respelled.saidBy (h : Respelled v v') (hc : SaidBy v c) : SaidBy v' c := by
  cases h with
  | same => exact hc
  | object column value operation negate connector =>
    refine ⟨connector.shaped hc.shaped, ?_, ?_, ?_, negate.said hc.negate, connector.said hc.shaped hc.connector⟩
    · rw [given?, column]
      exact hc.column
    · rw [given?, value]
      exact hc.value
    · rw [given?, operation]
      exact hc.operation
  | @array items items' length front negate connector =>
    have hplace : ∀ i < 3, ∀ name, given? name i (.arr items') = given? name i (.arr items) :=
      fun i hi _ => front i hi
    refine ⟨length.trans hc.shaped, ?_, ?_, ?_, negate.said hc.negate, ?_⟩
    · rw [hplace 0 (by decide)]
      exact hc.column
    · rw [hplace 1 (by decide)]
      exact hc.value
    · rw [hplace 2 (by decide)]
      exact hc.operation
    · have hpart := hc.connector
      rw [given?, given?, Option.or_self] at hpart ⊢
      rcases connector with hsame | ⟨hor, hnone⟩
      · rwa [hsame]
      · rw [hor] at hpart
        rw [hnone]
        exact congrArg some (Except.ok.inj hpart)

theorem Respelled.decode (h : Respelled v v') (hv : v.canonical = v) (hv' : v'.canonical = v')
    (hc : decode v = .ok c) : decode v' = .ok c :=
  (decode_eq_ok_iff hv').mpr (h.saidBy ((decode_eq_ok_iff hv).mp hc))

/-- Clauses in other words. -/
theorem decode_clauses {vs vs' : List Json} (h : List.Forall₂ Respelled vs vs')
    (hvs : ∀ v ∈ vs, v.canonical = v) (hvs' : ∀ v ∈ vs', v.canonical = v) {cs : List Clause}
    (hcs : listOf Clause.decode (.arr vs) = .ok cs) : listOf Clause.decode (.arr vs') = .ok cs := by
  rw [listOf] at hcs ⊢
  induction h generalizing cs with
  | nil => exact hcs
  | cons hv h ih =>
    obtain ⟨hcanonical, hvs⟩ := List.forall_mem_cons.mp hvs
    obtain ⟨hcanonical', hvs'⟩ := List.forall_mem_cons.mp hvs'
    obtain ⟨c, more, hc, hmore, rfl⟩ := mapM_cons_eq_ok hcs
    rw [List.mapM_cons, hv.decode hcanonical hcanonical' hc, ih hvs hvs' hmore]
    rfl

/-! ### Slips -/

/-- A value that is no truth value in any words. -/
inductive NoTruth : Json → Prop
  | num (n : Number) : NoTruth (.num n)
  | str {s : String} (h : ∀ b, Text.eqIgnoreCase s (truthName b) = false) : NoTruth (.str s)
  | arr (items : List Json) : NoTruth (.arr items)
  | obj (fields : Fields) : NoTruth (.obj fields)

theorem NoTruth.not_read (h : NoTruth v) (hv : v.Settled) (field : String) (b : Bool) :
    truth field v ≠ .ok b := by
  intro htruth
  cases h with
  | num n => cases htruth
  | str h =>
    have htrue := h true
    have hfalse := h false
    simp only [truthName, if_true, Bool.false_eq_true, if_false] at htrue hfalse
    rw [truth_str, htrue, hfalse] at htruth
    cases htruth
  | arr items =>
    obtain ⟨w, hw, hrest⟩ := bind_eq_ok htruth
    obtain ⟨out, rfl⟩ := Json.anything_arr hw
    cases hrest
  | obj fields =>
    obtain ⟨w, hw, hrest⟩ := bind_eq_ok htruth
    obtain ⟨out, rfl⟩ := hv.anything_obj hw
    cases hrest

/-- A clause with both names of the connector, or with something for a truth value that is none. -/
inductive Slipped : Json → Prop
  | connectors {fs : Fields} (hfirst : Fields.get? "connector" fs ≠ none)
      (hsecond : Fields.get? "operator" fs ≠ none) : Slipped (.obj fs)
  | negate {v w : Json} (hgiven : given? "negate" 3 v = some w) (h : NoTruth w) : Slipped v

theorem Slipped.not_decoded (h : Slipped v) (hv : v.canonical = v) (hsettled : v.Settled) (c : Clause) :
    decode v ≠ .ok c := by
  intro hc
  have hsaid := (decode_eq_ok_iff hv).mp hc
  cases h with
  | connectors hfirst hsecond => exact (shaped_obj_iff.mp hsaid.shaped).elim hfirst hsecond
  | negate hgiven h =>
    have hpart := hsaid.negate
    rw [hgiven] at hpart
    exact h.not_read (settled_of_given hsettled hgiven) _ _ hpart

end Sql.Clause

/-! ## Orders -/

namespace SortOrder

/-- An order in other words. -/
inductive Respelled : Json → Json → Prop
  | same (v : Json) : Respelled v v
  | renamed {fs fs' : Fields} {column : Json} (hgiven : Fields.get? "column" fs = some column)
      (hfirst : Fields.get? "column" fs' = none) (hsecond : Fields.get? "byColumn" fs' = some column)
      (direction : Fields.get? "direction" fs' = Fields.get? "direction" fs) :
      Respelled (.obj fs) (.obj fs')

variable {v v' : Json} {o : SortOrder}

theorem Respelled.decode (h : Respelled v v') (hv : v.canonical = v) (hv' : v'.canonical = v')
    (ho : decode v = .ok o) : decode v' = .ok o := by
  cases h with
  | same => exact ho
  | renamed hgiven hfirst hsecond direction =>
    have hsaid := (decode_eq_ok_iff hv).mp ho
    refine (decode_eq_ok_iff hv').mpr ⟨shaped_obj_iff.mpr (.inl hfirst), ?_, ?_⟩
    · have hpart := hsaid.column
      rw [given?, given?, hgiven] at hpart
      rw [given?, given?, hfirst, hsecond]
      exact hpart
    · rw [given?, direction]
      exact hsaid.direction

theorem Respelled.decode_optional (h : Respelled v v') (hv : v.canonical = v) (hv' : v'.canonical = v')
    {given : Option SortOrder} (ho : optional SortOrder.decode v = .ok given) :
    optional SortOrder.decode v' = .ok given := by
  have hdecode {o : SortOrder} (ho : SortOrder.decode v = .ok o) := h.decode hv hv' ho
  cases h with
  | same => exact ho
  | renamed =>
    obtain ⟨o, hread, rfl⟩ := map_eq_ok (f := some) ho
    exact congrArg (Except.map some) (hdecode hread)

/-- An order with both names of the column. -/
def Slipped (v : Json) : Prop :=
  ∃ fs, v = .obj fs ∧ Fields.get? "column" fs ≠ none ∧ Fields.get? "byColumn" fs ≠ none

theorem Slipped.not_decoded (h : Slipped v) (hv : v.canonical = v) (o : SortOrder) : decode v ≠ .ok o := by
  obtain ⟨fs, rfl, hfirst, hsecond⟩ := h
  intro ho
  exact (shaped_obj_iff.mp ((decode_eq_ok_iff hv).mp ho).shaped).elim hfirst hsecond

end SortOrder

/-! ## Bodies -/

namespace QuerySpec

/-- What is given for the clauses, in other words. -/
inductive FiltersRespelled : Json → Json → Prop
  | same (v : Json) : FiltersRespelled v v
  | clauses {vs vs' : List Json} (h : List.Forall₂ Sql.Clause.Respelled vs vs') :
      FiltersRespelled (.arr vs) (.arr vs')

theorem FiltersRespelled.decode {v v' : Json} (h : FiltersRespelled v v') (hv : v.canonical = v)
    (hv' : v'.canonical = v') {clauses : List Sql.Clause} (hclauses : listOf Sql.Clause.decode v = .ok clauses) :
    listOf Sql.Clause.decode v' = .ok clauses := by
  cases h with
  | same => exact hclauses
  | clauses h =>
    exact Sql.Clause.decode_clauses h (fun _ => Json.canonical_item hv) (fun _ => Json.canonical_item hv')
      hclauses

/-- A body in other words. -/
inductive Respelled : Json → Json → Prop
  | same (v : Json) : Respelled v v
  | object {fs fs' : Fields}
      (filters : Option.Rel FiltersRespelled (Fields.get? "filters" fs) (Fields.get? "filters" fs'))
      (fields : Fields.get? "fields" fs' = Fields.get? "fields" fs)
      (page : Fields.get? "pagination" fs' = Fields.get? "pagination" fs)
      (sort : Option.Rel SortOrder.Respelled (Fields.get? "sort" fs) (Fields.get? "sort" fs')) :
      Respelled (.obj fs) (.obj fs')
  | array {items items' : List Json} (length : items'.length = items.length)
      (filters : Option.Rel FiltersRespelled items[0]? items'[0]?) (fields : items'[1]? = items[1]?)
      (page : items'[2]? = items[2]?) (sort : Option.Rel SortOrder.Respelled items[3]? items'[3]?) :
      Respelled (.arr items) (.arr items')

variable {v v' : Json} {spec : QuerySpec}

/-- The parts that can be said in other words, wherever they stand. -/
theorem saidBy_of_respelled (hv : v.canonical = v) (hv' : v'.canonical = v') (hshaped : Shaped members v')
    (filters : Option.Rel FiltersRespelled (given? "filters" 0 v) (given? "filters" 0 v'))
    (fields : given? "fields" 1 v' = given? "fields" 1 v)
    (page : given? "pagination" 2 v' = given? "pagination" 2 v)
    (sort : Option.Rel SortOrder.Respelled (given? "sort" 3 v) (given? "sort" 3 v'))
    (h : SaidBy v spec) : SaidBy v' spec := by
  refine ⟨hshaped, ?filters, ?fields, ?page, ?sort⟩
  case fields =>
    rw [fields]
    exact h.fields
  case page =>
    rw [page]
    exact h.page
  case filters =>
    exact h.filters.of_rel filters fun w w' hw hw' hrel clauses =>
      hrel.decode (canonical_of_given hv hw) (canonical_of_given hv' hw')
  case sort =>
    exact h.sort.of_rel sort fun w w' hw hw' hrel o =>
      hrel.decode_optional (canonical_of_given hv hw) (canonical_of_given hv' hw')

/-- A body in other words is read as the same query. -/
theorem Respelled.decode (h : Respelled v v') (hv : v.canonical = v) (hv' : v'.canonical = v')
    (hspec : decode v = .ok spec) : decode v' = .ok spec := by
  have hsaid := (decode_eq_ok_iff hv).mp hspec
  cases h with
  | same => exact hspec
  | @object fs fs' filters fields page sort =>
    exact (decode_eq_ok_iff hv').mpr (saidBy_of_respelled hv hv' (shaped_obj fs') filters fields page sort hsaid)
  | array length filters fields page sort =>
    have hshaped := length.le.trans hsaid.shaped
    exact (decode_eq_ok_iff hv').mpr (saidBy_of_respelled hv hv' hshaped filters fields page sort hsaid)

theorem Respelled.asRecord (h : Respelled v v') : Respelled (Body.asRecord v) (Body.asRecord v') := by
  cases h with
  | same => exact .same _
  | object filters fields page sort => exact .object filters fields page sort
  | array length filters fields page sort => exact .array length filters fields page sort

/-- A body with a slip in one of its clauses or in its order. -/
inductive Slipped (v : Json) : Prop
  | clause {clauses : List Json} {clause : Json} (hfilters : given? "filters" 0 v = some (.arr clauses))
      (hclause : clause ∈ clauses) (h : Sql.Clause.Slipped clause)
  | sort {sort : Json} (hsort : given? "sort" 3 v = some sort) (h : SortOrder.Slipped sort)

theorem Slipped.asRecord_eq (h : Slipped v) : Body.asRecord v = v := by
  cases v with
  | null => cases h with | clause hgiven | sort hgiven => cases hgiven
  | bool | num | str | arr | obj => rfl

theorem Slipped.not_decoded (h : Slipped v) (hv : v.canonical = v) (hsettled : v.Settled)
    (spec : QuerySpec) : decode v ≠ .ok spec := by
  intro hspec
  have hsaid := (decode_eq_ok_iff hv).mp hspec
  cases h with
  | @clause clauses clause hfilters hclause h =>
    have hpart := hsaid.filters
    rw [hfilters] at hpart
    obtain ⟨c, hc⟩ := listOf_ok_iff.mp ⟨_, hpart⟩ clause hclause
    have hitems := canonical_of_given hv hfilters
    cases settled_of_given hsettled hfilters with
    | arr hsettled => exact h.not_decoded (Json.canonical_item hitems hclause) (hsettled clause hclause) c hc
  | sort hsort h =>
    have hpart := hsaid.sort
    rw [hsort] at hpart
    obtain ⟨fs, rfl, hboth⟩ := h
    obtain ⟨o, ho, -⟩ := map_eq_ok hpart
    exact SortOrder.Slipped.not_decoded ⟨fs, rfl, hboth⟩ (canonical_of_given hv hsort) o ho

/-! ## The endpoint -/

open Service

/-- The endpoint does the same for both bodies: it sends the same statements with the same values, and gives
the same answer. -/
def Interchangeable (body body' : ByteArray) : Prop :=
  ∀ (settings : Settings) (method pattern : String) (c : Call) (w : World) (d : Endpoint),
    w.registry.resolve? method pattern = some d → d.handler = .query →
      dispatch settings method pattern { c with body := body' } w =
        dispatch settings method pattern { c with body := body } w

theorem interchangeable_of_parse {body body' : ByteArray}
    (h : Body.parse decode body' = Body.parse decode body) : Interchangeable body body' := by
  intro settings method pattern c w d hd hquery
  have hrun (w : World) : run settings d { c with body := body' } w = run settings d { c with body := body } w := by
    simp only [run, hquery, query, h]
  rw [dispatch_apply, dispatch_apply, hd]
  simp only [hrun]

theorem run_of_parse_error {body : ByteArray} {e : Failure} (h : Body.parse decode body = .error e)
    (settings : Settings) {d : Endpoint} (hquery : d.handler = .query) (c : Call) (w : World) :
    run settings d { c with body := body } w = (.error e, w) := by
  simp only [run, hquery, query, h]
  rfl

/-- A body in other words is the same query, and the endpoint does the same for it. A body with a slip is no
query: the endpoint refuses it and sends nothing. -/
theorem read_of_respelled {body body' : ByteArray} {v v' : Json} (hv : Body.value? body = some v)
    (hv' : Body.value? body' = some v') :
    (Respelled v v' → ∀ spec, Body.parse decode body = .ok spec →
      Body.parse decode body' = .ok spec ∧ Interchangeable body body') ∧
    (Slipped v → ∃ text, Body.parse decode body = .error (.validation text) ∧
      ∀ (settings : Settings) (d : Endpoint) (c : Call) (w : World), d.handler = .query →
        run settings d { c with body := body } w = (.error (.validation text), w)) := by
  have hcanonical := Body.canonical_of_value? hv
  constructor
  · intro h spec hspec
    obtain ⟨_, hvalue, hdecode⟩ := Body.parse_ok_iff.mp hspec
    cases hv.symm.trans hvalue
    have hdecode' := h.asRecord.decode (Body.canonical_asRecord hcanonical)
      (Body.canonical_asRecord (Body.canonical_of_value? hv')) hdecode
    have hsame : Body.parse decode body' = .ok spec := Body.parse_ok_iff.mpr ⟨v', hv', hdecode'⟩
    exact ⟨hsame, interchangeable_of_parse (hsame.trans hspec.symm)⟩
  · intro h
    have hfails : ∃ e, Body.parse decode body = .error e := by
      cases hparse : Body.parse decode body with
      | error e => exact ⟨e, rfl⟩
      | ok spec =>
        obtain ⟨_, hvalue, hdecode⟩ := Body.parse_ok_iff.mp hparse
        cases hv.symm.trans hvalue
        rw [h.asRecord_eq] at hdecode
        exact absurd hdecode (h.not_decoded hcanonical (Body.settled_of_value? hv) spec)
    obtain ⟨e, he⟩ := hfails
    obtain ⟨text, rfl⟩ := Failure.isRefusal_iff.mp (Body.refusing_parse decode body e he)
    exact ⟨text, he, fun settings d c w hquery => run_of_parse_error he settings hquery c w⟩

/-- A body with a clause and an order. -/
def plain : String :=
  "\x7b\"filters\":[\x7b\"column\":\"a\",\"operation\":\"null\",\"negate\":true,\"connector\":\"or\"\x7d]," ++
    "\"sort\":\x7b\"column\":\"a\"\x7d\x7d"

/-- The same body in other words. -/
def reworded : String :=
  "\x7b\"filters\":[\x7b\"column\":\"a\",\"operation\":\"null\",\"negate\":\"TRUE\"\x7d]," ++
    "\"sort\":\x7b\"byColumn\":\"a\"\x7d\x7d"

/-- A body whose clause is negated by a word that is no truth value. -/
def unclear : String :=
  "\x7b\"filters\":[\x7b\"column\":\"a\",\"operation\":\"null\",\"negate\":\"yes\"\x7d]\x7d"

def plainValue : Json :=
  .obj [("filters", .arr [.obj
      [("column", .str "a"), ("connector", .str "or"), ("negate", .bool true), ("operation", .str "null")]]),
    ("sort", .obj [("column", .str "a")])]

def rewordedValue : Json :=
  .obj [("filters", .arr [.obj [("column", .str "a"), ("negate", .str "TRUE"), ("operation", .str "null")]]),
    ("sort", .obj [("byColumn", .str "a")])]

def unclearValue : Json :=
  .obj [("filters", .arr [.obj [("column", .str "a"), ("negate", .str "yes"), ("operation", .str "null")]])]

theorem value?_plain : Body.value? plain.toUTF8 = some plainValue := by
  rw [Body.value?_of_brace (by decide)]
  cbv

theorem value?_reworded : Body.value? reworded.toUTF8 = some rewordedValue := by
  rw [Body.value?_of_brace (by decide)]
  cbv

theorem value?_unclear : Body.value? unclear.toUTF8 = some unclearValue := by
  rw [Body.value?_of_brace (by decide)]
  cbv

theorem respelled_plain : Respelled plainValue rewordedValue := by
  refine .object (.some (.clauses (.cons ?clause .nil))) rfl rfl (.some (.renamed rfl rfl rfl rfl))
  exact .object rfl rfl rfl (.named (b := true) (by decide)) (.removed rfl rfl rfl)

theorem slipped_unclear : Slipped unclearValue :=
  .clause rfl List.mem_cons_self (.negate rfl (.str (by decide)))

theorem read_plain : Body.value? plain.toUTF8 = some plainValue ∧
    Body.value? reworded.toUTF8 = some rewordedValue ∧ Respelled plainValue rewordedValue ∧
    (∃ spec, Body.parse decode plain.toUTF8 = .ok spec ∧ Body.parse decode reworded.toUTF8 = .ok spec) ∧
    Interchangeable plain.toUTF8 reworded.toUTF8 ∧
    Body.value? unclear.toUTF8 = some unclearValue ∧ Slipped unclearValue ∧
    ∃ text, Body.parse decode unclear.toUTF8 = .error (.validation text) := by
  obtain ⟨hrespelled, -⟩ := read_of_respelled value?_plain value?_reworded
  obtain ⟨-, hslipped⟩ := read_of_respelled value?_unclear value?_unclear
  have hspec : Body.parse decode plain.toUTF8 =
      .ok ⟨[⟨"a", .null, .isNull, true, .or⟩], [], none, some ⟨"a", .ascending⟩⟩ :=
    Body.parse_ok_iff.mpr ⟨_, value?_plain, rfl⟩
  obtain ⟨hsame, hendpoint⟩ := hrespelled respelled_plain _ hspec
  obtain ⟨text, htext, -⟩ := hslipped slipped_unclear
  exact ⟨value?_plain, value?_reworded, respelled_plain, ⟨_, hspec, hsame⟩, hendpoint, value?_unclear,
    slipped_unclear, text, htext⟩

/-- A body whose clause is negated by an embedded text, as an object. -/
def embedded : String :=
  "\x7b\"filters\":[\x7b\"column\":\"a\",\"operation\":\"=\",\"value\":1,\"negate\":" ++
    "\x7b\"$serde_json::private::RawValue\":\"true\"\x7d\x7d]\x7d"

/-- What is written is an object, and it is read as the truth value in its text. -/
theorem embedded_accepted :
    Json.readOutlined? .whole embedded = some (.obj [("filters", .arr [.obj [("column", .str "a"),
      ("operation", .str "="), ("value", .nat 1),
      ("negate", .obj [(Json.Embedded.mark, .str "true")])]])]) ∧
    Sql.Clause.NoTruth (.obj [(Json.Embedded.mark, .str "true")]) ∧
    Body.parse decode embedded.toUTF8 =
      .ok ⟨[⟨"a", .nat 1, .compare .eq, true, .or⟩], [], none, none⟩ := by
  have hvalue : Body.value? embedded.toUTF8 = some (.obj [("filters", .arr [.obj [("column", .str "a"),
      ("negate", .bool true), ("operation", .str "="), ("value", .nat 1)]])]) := by
    rw [Body.value?_of_brace (by decide)]
    cbv
  refine ⟨by cbv, .obj _, Body.parse_ok_iff.mpr ⟨_, hvalue, ?_⟩⟩
  rfl

end QuerySpec

end SchemaRest
