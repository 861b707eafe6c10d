import SchemaRest.Proofs.Json.Pointer
import SchemaRest.Proofs.OpenApi.References

/-!
# Components of a document

The schemas of a document stand in one map, two for every table and one for failures, and operations
refer to them by name. A later entry of a name counts, so a table takes the entry of a query body when
its own name ends in `_query` that way, and the schema of failures takes the entry of a table named
`ErrorResponse`; every other entry is the schema it is meant to be.
-/

namespace SchemaRest.OpenApi

open Handler (tableScoped)
open Catalog (Column Snapshot TableInfo)

/-- The schema under a name. -/
def component? (doc : Json) (name : String) : Option Json := doc.at? ["components", "schemas", name]

/-- The item of a path. -/
def itemAt? (doc : Json) (path : String) : Option Json := (doc.get? "paths").bind (·.get? path)

/-- No table behind `table` and no later entry has the name of the component. -/
def Component.Kept (table : String) (after : List TableInfo) : Component → Prop
  | .row => table ≠ "ErrorResponse" ∧ ∀ u ∈ after, u.name ++ "_query" ≠ table
  | .query => ∀ u ∈ after, u.name ≠ table ++ "_query"
  | .failure => True

/-! ## The three schemas differ -/

/-- Every property of a schema has the type of a column. -/
def DescribesColumns (schema : Json) : Prop :=
  ∀ properties, schema.get? "properties" = some properties → ∀ key property,
    properties.get? key = some property → (property.get? "x-column-type").isSome

theorem get?_properties_rowSchema (columns : List Column) :
    (rowSchema columns).get? "properties" =
      some (object (columns.map fun c => (c.name, columnSchema c))) := by
  refine Fields.get?_ofList (by simp) fun v hv => ?_
  split at hv <;> simpa using hv

theorem describesColumns_rowSchema (columns : List Column) : DescribesColumns (rowSchema columns) := by
  intro properties hproperties key property hproperty
  rw [get?_properties_rowSchema] at hproperties
  cases hproperties
  obtain ⟨c, -, hc⟩ := List.mem_map.mp (Fields.mem_ofList (Fields.mem_of_get? hproperty))
  obtain ⟨-, rfl⟩ := Prod.mk.inj hc
  exact Fields.get?_foldl_isSome _ (.inr (by simp))

theorem not_describesColumns_querySchema (columns : List Column) :
    ¬DescribesColumns (querySchema columns) := by
  intro h
  let names := columns.map (·.name)
  have hproperties : (querySchema columns).get? "properties" = some (object
      [("filters", arrayOf (clauseSchema names)), ("fields", arrayOf (object (oneOf names))),
        ("pagination", pageSchema), ("sort", sortSchema names)]) :=
    Fields.get?_ofList (by simp [names]) fun v hv => by simpa using hv
  have htype := h _ hproperties "filters" (arrayOf (clauseSchema names))
    (Fields.get?_ofList (by simp) fun v hv => by simpa using hv)
  obtain ⟨type, htype⟩ := Option.isSome_iff_exists.mp htype
  have hmem := Fields.mem_ofList (Fields.mem_of_get? htype)
  simp at hmem

theorem not_describesColumns_failureSchema : ¬DescribesColumns failureSchema := by
  intro h
  have htype := h _ rfl "message" _ rfl
  exact Bool.false_ne_true htype

theorem querySchema_ne_rowSchema (columns columns' : List Column) :
    querySchema columns ≠ rowSchema columns' := fun heq =>
  not_describesColumns_querySchema columns (heq ▸ describesColumns_rowSchema columns')

theorem failureSchema_ne_rowSchema (columns : List Column) : failureSchema ≠ rowSchema columns :=
  fun heq => not_describesColumns_failureSchema (heq ▸ describesColumns_rowSchema columns)

/-! ## Entries -/

/-- The entries of one table, in the order they are written. -/
def entries (s : Snapshot) (t : TableInfo) : Fields :=
  [(t.name, rowSchema (s.columns t.name)), (t.name ++ "_query", querySchema (s.columns t.name))]

theorem component?_document (info : Info) (s : Snapshot) (serverUrl openapiVersion name : String) :
    component? (document info s serverUrl openapiVersion) name =
      Fields.get? name (.ofList (s.tables.flatMap (entries s) ++ [("ErrorResponse", failureSchema)])) := by
  have hcomponents : (document info s serverUrl openapiVersion).get? "components" =
      some (object [("schemas", schemas s), ("securitySchemes", object [("bearerAuth",
        object [("type", .str "http"), ("scheme", .str "bearer")])])]) :=
    Fields.get?_ofList (by simp) fun v hv => by simpa using hv
  have hschemas : (object [("schemas", schemas s), ("securitySchemes", object [("bearerAuth",
      object [("type", .str "http"), ("scheme", .str "bearer")])])]).get? "schemas" =
      some (schemas s) := Fields.get?_ofList (by simp) fun v hv => by simpa using hv
  calc component? (document info s serverUrl openapiVersion) name
    _ = ((document info s serverUrl openapiVersion).get? "components").bind
          (·.at? ["schemas", name]) := rfl
    _ = ((object _).get? "schemas").bind (·.at? [name]) := by rw [hcomponents]; rfl
    _ = ((schemas s).get? name).bind some := by rw [hschemas]; rfl
    _ = _ := Option.bind_fun_some _

theorem append_query_ne (name : String) : name ++ "_query" ≠ name := fun heq => by
  have hlength := congrArg String.length heq
  simp at hlength

theorem append_query_ne_errorResponse (name : String) : name ++ "_query" ≠ "ErrorResponse" := fun heq => by
  have hsuffix : "_query".toList <:+ "ErrorResponse".toList :=
    ⟨name.toList, by rw [← heq, String.toList_append]⟩
  exact absurd hsuffix (by decide)

section

variable {s : Snapshot} {before after : List TableInfo} {t : TableInfo}

theorem mem_entries {key : String} {schema : Json}
    (hmem : (key, schema) ∈ after.flatMap (entries s) ++ [("ErrorResponse", failureSchema)]) :
    (∃ u ∈ after, key = u.name ∧ schema = rowSchema (s.columns u.name)) ∨
      (∃ u ∈ after, key = u.name ++ "_query" ∧ schema = querySchema (s.columns u.name)) ∨
      key = "ErrorResponse" ∧ schema = failureSchema := by
  simp only [entries, List.mem_append, List.mem_flatMap, List.mem_cons, List.not_mem_nil, or_false,
    Prod.mk.injEq] at hmem
  rcases hmem with ⟨u, hu, hrow | hquery⟩ | hfailure
  · exact .inl ⟨u, hu, hrow⟩
  · exact .inr (.inl ⟨u, hu, hquery⟩)
  · exact .inr (.inr hfailure)

theorem forall_entries {P : String → Prop} :
    (∀ p ∈ after.flatMap (entries s) ++ [("ErrorResponse", failureSchema)], P p.1) ↔
      (∀ u ∈ after, P u.name) ∧ (∀ u ∈ after, P (u.name ++ "_query")) ∧ P "ErrorResponse" := by
  simp only [entries, List.mem_append, List.mem_flatMap, List.mem_cons, List.not_mem_nil, or_false]
  constructor
  · intro h
    exact ⟨fun u hu => h _ (.inl ⟨u, hu, .inl rfl⟩), fun u hu => h _ (.inl ⟨u, hu, .inr rfl⟩),
      h _ (.inr rfl)⟩
  · rintro ⟨hrow, hquery, hfailure⟩ p (⟨u, hu, rfl | rfl⟩ | rfl)
    · exact hrow u hu
    · exact hquery u hu
    · exact hfailure

variable (hsplit : s.tables = before ++ t :: after) (hnodup : (s.tables.map (·.name)).Nodup)

include hsplit hnodup

theorem name_ne_of_later {u : TableInfo} (hu : u ∈ after) : u.name ≠ t.name := by
  rw [hsplit, List.map_append, List.map_cons] at hnodup
  have htail := (List.nodup_cons.mp (List.nodup_append.mp hnodup).2.1).1
  exact fun heq => htail (heq ▸ List.mem_map_of_mem hu)

/-- An entry is the one meant just where no later one has its name. -/
theorem component?_iff_kept (info : Info) (serverUrl openapiVersion : String) (c : Component) :
    component? (document info s serverUrl openapiVersion) (c.name t.name) =
      some (c.schema (s.columns t.name)) ↔ c.Kept t.name after := by
  have hlater : ∀ u ∈ after, u.name ≠ t.name := fun u hu => name_ne_of_later hsplit hnodup hu
  have hwritten : s.tables.flatMap (entries s) ++ [("ErrorResponse", failureSchema)] =
      before.flatMap (entries s) ++ (t.name, rowSchema (s.columns t.name)) ::
        (t.name ++ "_query", querySchema (s.columns t.name)) ::
        (after.flatMap (entries s) ++ [("ErrorResponse", failureSchema)]) := by
    simp [hsplit, entries]
  rw [component?_document, hwritten]
  cases c with
  | row =>
    have hdiffer : ∀ v, (t.name, v) ∈ (t.name ++ "_query", querySchema (s.columns t.name)) ::
        (after.flatMap (entries s) ++ [("ErrorResponse", failureSchema)]) →
        v ≠ rowSchema (s.columns t.name) := by
      intro v hv
      rcases List.mem_cons.mp hv with hv | hv
      · rw [(Prod.mk.inj hv).2]
        exact querySchema_ne_rowSchema _ _
      rcases mem_entries hv with ⟨u, hu, hname, -⟩ | ⟨u, -, -, rfl⟩ | ⟨-, rfl⟩
      · exact absurd hname.symm (hlater u hu)
      · exact querySchema_ne_rowSchema _ _
      · exact failureSchema_ne_rowSchema _
    refine (Fields.get?_ofList_eq_iff hdiffer).trans (List.forall_mem_cons.trans ?_)
    rw [forall_entries (P := (· ≠ t.name))]
    exact ⟨fun h => ⟨h.2.2.2.symm, h.2.2.1⟩,
      fun h => ⟨append_query_ne t.name, hlater, h.2, h.1.symm⟩⟩
  | query =>
    have hdiffer : ∀ v, (t.name ++ "_query", v) ∈
        after.flatMap (entries s) ++ [("ErrorResponse", failureSchema)] →
        v ≠ querySchema (s.columns t.name) := by
      intro v hv
      rcases mem_entries hv with ⟨u, -, -, rfl⟩ | ⟨u, hu, hname, -⟩ | ⟨hname, -⟩
      · exact (querySchema_ne_rowSchema _ _).symm
      · exact absurd ((String.append_left_inj _).mp hname).symm (hlater u hu)
      · exact absurd hname (append_query_ne_errorResponse t.name)
    rw [List.append_cons]
    refine (Fields.get?_ofList_eq_iff hdiffer).trans ?_
    rw [forall_entries (P := (· ≠ t.name ++ "_query"))]
    refine ⟨fun h => h.1, fun h => ⟨h, fun u hu hname => ?_, ?_⟩⟩
    · exact hlater u hu ((String.append_left_inj _).mp hname)
    · exact (append_query_ne_errorResponse t.name).symm
  | failure =>
    refine iff_of_true ?_ trivial
    rw [← hwritten]
    exact Fields.get?_ofList_last (List.forall_mem_nil _)

end

/-! ## References -/

/-- The reference to a component leads to the entry of its name. -/
theorem resolve?_reference (doc : Json) {table : String} {c : Component}
    (h : Json.IsPlain (c.name table)) :
    doc.resolve? (c.reference table) = component? doc (c.name table) := by
  have hcomponents : Json.IsPlain "components" := ⟨by decide, by decide, by decide⟩
  have hschemas : Json.IsPlain "schemas" := ⟨by decide, by decide, by decide⟩
  have hpointer : "/components/schemas/" ++ c.name table =
      Json.pointer ["components", "schemas", c.name table] := by
    rw [← String.toList_inj, Json.toList_pointer]
    simp [hcomponents.escapedStep_eq, hschemas.escapedStep_eq, h.escapedStep_eq]
  have hfragment : Json.fragment? ("#" ++ Json.pointer ["components", "schemas", c.name table]) =
      some ["components", "schemas", c.name table] :=
    Json.fragment?_pointer (by simp [hcomponents, hschemas, h])
  rw [Json.resolve?, Component.reference, String.append_assoc, hpointer, hfragment, Option.bind_some,
    component?]

variable {info : Info} {s : Snapshot} {serverUrl openapiVersion path : String}

theorem pathItem_of_itemAt? {item : Json}
    (h : itemAt? (document info s serverUrl openapiVersion) path = some item) :
    ∃ t ∈ s.tables, ∃ group ∈ pathGroups, (∀ g ∈ group, path = template t.name g) ∧
      item = pathItem t.name (s.columns t.name) group := by
  rw [itemAt?, get?_paths, Option.bind_some] at h
  obtain ⟨t, ht, hmem⟩ := List.mem_flatMap.mp (Fields.mem_ofList (Fields.mem_of_get? h))
  exact ⟨t, ht, mem_tablePaths hmem⟩

theorem operationAt?_eq (doc : Json) (method path : String) :
    operationAt? doc method path = (itemAt? doc path).bind (·.get? method) :=
  (Option.bind_assoc _ _ _).symm

/-- The operations of a document refer to what they are meant to refer to. -/
theorem refersAsMeant_of_operationAt? {method : String} {operation : Json}
    (h : operationAt? (document info s serverUrl openapiVersion) method path = some operation) :
    ∃ t ∈ s.tables, ∃ h ∈ tableScoped, method = Text.lower h.method ∧ path = template t.name h ∧
      Operation.RefersAsMeant h t.name operation := by
  rw [operationAt?_eq] at h
  obtain ⟨item, hitem, hoperation⟩ := Option.bind_eq_some_iff.mp h
  obtain ⟨t, ht, group, hgroup, hpath, rfl⟩ := pathItem_of_itemAt? hitem
  obtain ⟨g, hg, o, ho, heq⟩ := mem_pathItem (mem_fieldsOf hoperation)
  obtain ⟨rfl, rfl⟩ := Prod.mk.inj heq
  exact ⟨t, ht, g, tableScoped_of_mem_group group hgroup g hg, rfl, hpath g hg, refersAsMeant_json ho⟩

/-- Where no name has a slash every handler of every table has its operation. -/
theorem operationAt?_refersAsMeant (hs : ∀ t ∈ s.tables, SlashFree t.name) {t : TableInfo}
    (ht : t ∈ s.tables) {h : Handler} (hh : h ∈ tableScoped) :
    ∃ operation, operationAt? (document info s serverUrl openapiVersion) (Text.lower h.method)
      (template t.name h) = some operation ∧ Operation.RefersAsMeant h t.name operation := by
  obtain ⟨group, hgroup, hmem⟩ := exists_group h hh
  obtain ⟨o, ho⟩ := Option.isSome_iff_exists.mp (operation?_isSome t.name (s.columns t.name) hh)
  refine ⟨o.json t.name, ?_, refersAsMeant_json ho⟩
  rw [operationAt?, get?_paths, Option.bind_some, get?_item hs ht hgroup hmem, Option.bind_some,
    get?_pathItem hgroup hmem ho]

/-- An item has no references but those of its operations. -/
theorem exists_operation_of_refers {item : Json} {ref : String}
    (hitem : itemAt? (document info s serverUrl openapiVersion) path = some item)
    (href : Refers item ref) :
    ∃ method operation, operationAt? (document info s serverUrl openapiVersion) method path =
      some operation ∧ Refers operation ref := by
  obtain ⟨t, -, group, hgroup, -, rfl⟩ := pathItem_of_itemAt? hitem
  obtain ⟨p, hp, hhere⟩ := refers_obj.mp href
  obtain ⟨g, hg, o, ho, rfl⟩ := mem_pathItem hp
  rcases hhere with hhere | href
  · have hmethod := (Prod.mk.inj hhere).1
    cases g <;> exact absurd hmethod (by decide)
  · refine ⟨Text.lower g.method, o.json t.name, ?_, href⟩
    rw [operationAt?_eq, hitem, Option.bind_some, get?_pathItem hgroup hg ho]

/-- The columns that cannot be null are required, in their order. -/
theorem get?_required_rowSchema (columns : List Column) :
    (rowSchema columns).get? "required" =
      if required columns = [] then none else some (.strings (required columns)) := by
  by_cases hnone : required columns = []
  · rw [if_pos hnone]
    cases hget : (rowSchema columns).get? "required" with
    | none => rfl
    | some v =>
      have hmem := Fields.mem_ofList (Fields.mem_of_get? hget)
      simp [hnone] at hmem
  · rw [if_neg hnone]
    have hempty : ¬(required columns).isEmpty = true := by rwa [List.isEmpty_iff]
    refine Fields.get?_ofList (by simp [hempty]) fun v hv => ?_
    simpa [hempty] using hv

/-! ## The components of a document -/

/-- Of a document of tables with different names: the entry of a component is the schema meant just
where no later entry has its name; what is required of a row are its columns that cannot be null, in
order; all references stand in the answers and bodies of operations and name the component meant; and
a name that needs no escapes leads to its entry. -/
theorem components_of_document (info : Info) (s : Snapshot) (serverUrl openapiVersion : String)
    (hnodup : (s.tables.map (·.name)).Nodup) :
    let doc := document info s serverUrl openapiVersion
    (∀ before t after, s.tables = before ++ t :: after → ∀ c : Component,
      component? doc (c.name t.name) = some (c.schema (s.columns t.name)) ↔ c.Kept t.name after) ∧
    (∀ t ∈ s.tables,
      let needed := ((s.columns t.name).filter fun c => !c.nullable).map (·.name)
      (Component.row.schema (s.columns t.name)).get? "required" =
        if needed = [] then none else some (.strings needed)) ∧
    (∀ path item ref, itemAt? doc path = some item → Refers item ref →
      ∃ method operation, operationAt? doc method path = some operation ∧ Refers operation ref) ∧
    (∀ method path operation, operationAt? doc method path = some operation →
      ∃ t ∈ s.tables, ∃ h ∈ tableScoped, method = Text.lower h.method ∧ path = template t.name h ∧
        Operation.RefersAsMeant h t.name operation) ∧
    ((∀ t ∈ s.tables, SlashFree t.name) → ∀ t ∈ s.tables, ∀ h ∈ tableScoped, ∃ operation,
      operationAt? doc (Text.lower h.method) (template t.name h) = some operation ∧
        Operation.RefersAsMeant h t.name operation) ∧
    ∀ t ∈ s.tables, ∀ c : Component, Json.IsPlain (c.name t.name) →
      doc.resolve? (c.reference t.name) = component? doc (c.name t.name) := by
  refine ⟨?entries, ?needed, ?items, ?operations, ?complete, ?resolve⟩
  case entries =>
    intro before t after hsplit c
    exact component?_iff_kept hsplit hnodup info serverUrl openapiVersion c
  case needed => exact fun t _ => get?_required_rowSchema (s.columns t.name)
  case items => exact fun path item ref hitem href => exists_operation_of_refers hitem href
  case operations => exact fun method path operation h => refersAsMeant_of_operationAt? h
  case complete => exact fun hs t ht h hh => operationAt?_refersAsMeant hs ht hh
  case resolve => exact fun t _ c hplain => resolve?_reference _ hplain

/-- A service with one table, of two columns. -/
def usersOnly : Snapshot where
  tables := [⟨"users", none, "shop"⟩]
  columnsByTable := [("users", [⟨"id", none, false, "int", "int unsigned", "auto_increment", "", .primary,
    none, none, none⟩, ⟨"name", none, true, "varchar", "varchar(20)", "", "", .none, none, none, none⟩])]

def shopInfo : Info := ⟨"shop", "0.1.0", "tables of a shop", ⟨"a@shop.test", "a", "http://shop.test"⟩⟩

theorem components_usersOnly :
    let doc := document shopInfo usersOnly "http://shop.test/api" version
    doc.resolve? (Component.query.reference "users") =
        some (querySchema (usersOnly.columns "users")) ∧
      ∃ operation, operationAt? doc "post" "/users/query" = some operation ∧
        Operation.RefersAsMeant .query "users" operation := by
  obtain ⟨hentries, -, -, -, hcomplete, hresolve⟩ :=
    components_of_document shopInfo usersOnly "http://shop.test/api" version (by decide)
  constructor
  · refine (hresolve _ List.mem_cons_self .query ⟨by decide, by decide, by decide⟩).trans ?_
    exact (hentries [] _ [] rfl .query).mpr (by simp [Component.Kept])
  · exact hcomplete (by decide) _ List.mem_cons_self .query (by decide)

/-- A table whose name is that of a query body, and one whose name has to be escaped. -/
def collidingNames : Snapshot where
  tables := [⟨"a", none, "shop"⟩, ⟨"a_query", none, "shop"⟩, ⟨"a/b", none, "shop"⟩]
  columnsByTable := []

/-- The body of queries to `a` is said to be a row of `a_query`, and no reference leads to the rows of
`a/b`. -/
theorem collidingNames_misdescribed :
    let doc := document shopInfo collidingNames "http://shop.test/api" version
    (collidingNames.tables.map (·.name)).Nodup ∧
      doc.resolve? (Component.query.reference "a") = some (rowSchema []) ∧
      doc.resolve? (Component.query.reference "a") ≠ some (querySchema []) ∧
      component? doc (Component.query.name "a") ≠ some (querySchema []) ∧
      doc.resolve? (Component.row.reference "a/b") = none := by
  intro doc
  have hnodup : (collidingNames.tables.map (·.name)).Nodup := by decide
  have hplain : ∀ name ∈ ["a", "a_query", "b", "components", "schemas"], Json.IsPlain name := by
    intro name hname
    simp only [List.mem_cons, List.not_mem_nil, or_false] at hname
    rcases hname with rfl | rfl | rfl | rfl | rfl <;> exact ⟨by decide, by decide, by decide⟩
  have hentry : component? doc "a_query" = some (rowSchema []) := by
    have hsplit : collidingNames.tables =
        [⟨"a", none, "shop"⟩] ++ ⟨"a_query", none, "shop"⟩ :: [⟨"a/b", none, "shop"⟩] := rfl
    exact (component?_iff_kept hsplit hnodup shopInfo "http://shop.test/api" version .row).mpr
      (by simp [Component.Kept])
  have hquery : doc.resolve? (Component.query.reference "a") = some (rowSchema []) :=
    (resolve?_reference doc (hplain _ (by simp [Component.name]))).trans hentry
  have hdiffer : some (rowSchema []) ≠ some (querySchema []) := fun heq =>
    querySchema_ne_rowSchema [] [] (Option.some.inj heq).symm
  refine ⟨hnodup, hquery, hquery ▸ hdiffer, ?_, ?_⟩
  · show component? doc "a_query" ≠ _
    rw [hentry]
    exact hdiffer
  · have href : Component.row.reference "a/b" =
        "#" ++ Json.pointer ["components", "schemas", "a", "b"] := rfl
    rw [href, Json.resolve?, Json.fragment?_pointer (by simp [hplain])]
    have hrow : component? doc "a" = some (rowSchema []) := by
      have hsplit : collidingNames.tables = [] ++ ⟨"a", none, "shop"⟩ ::
          [⟨"a_query", none, "shop"⟩, ⟨"a/b", none, "shop"⟩] := rfl
      exact (component?_iff_kept hsplit hnodup shopInfo "http://shop.test/api" version .row).mpr
        (by simp [Component.Kept])
    have hsteps : doc.at? ["components", "schemas", "a", "b"] =
        (component? doc "a").bind (·.at? ["b"]) := by
      simp only [component?, Json.at?_cons, Json.at?_nil, Option.bind_assoc, Option.bind_some]
    rw [Option.bind_some, hsteps, hrow]
    rfl

end SchemaRest.OpenApi
