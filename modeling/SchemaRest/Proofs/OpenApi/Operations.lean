import SchemaRest.OpenApi.Document
import SchemaRest.Proofs.Endpoint.Paths
import SchemaRest.Proofs.Json.Fields

/-!
# Operations of a document

What a reader of a document finds: the methods and paths of its operations, and the tables it has tags
for. The document of a snapshot has one operation for every handler that serves a table and every
table, and no others.
-/

namespace SchemaRest.OpenApi

open Handler (tableScoped)

/-! ## Reading a document -/

def fieldsOf : Json → Fields
  | .obj fields => fields
  | _ => []

/-- The methods and paths of the operations. -/
def documented (doc : Json) : List (String × String) :=
  (doc.get? "paths").toList.flatMap fun paths =>
    (fieldsOf paths).flatMap fun item => (fieldsOf item.2).map fun operation => (operation.1, item.1)

/-- The operation of a method and a path. -/
def operationAt? (doc : Json) (method path : String) : Option Json :=
  (doc.get? "paths").bind fun paths => (paths.get? path).bind fun item => item.get? method

/-- The names of the tags. -/
def tagNames (doc : Json) : List String :=
  (doc.get? "tags").toList.flatMap fun tags =>
    (tags.asArr?.getD []).filterMap fun tag => (tag.get? "name").bind Json.asStr?

/-- The path of a handler, its parameter behind the table in braces. -/
def template (table : String) (h : Handler) : String :=
  if h.path table = "/" ++ table ++ "/:id" then "/" ++ table ++ "/\x7bid\x7d" else h.path table

/-! ## Templates -/

def bracedTail (h : Handler) : String := if h.tail = "/:id" then "/\x7bid\x7d" else h.tail

theorem template_eq {h : Handler} (hh : h ∈ tableScoped) (table : String) :
    template table h = "/" ++ table ++ bracedTail h := by
  have hcancel : h.path table = "/" ++ table ++ "/:id" ↔ h.tail = "/:id" := by
    rw [Handler.path_eq hh]
    exact String.append_right_inj _
  unfold template bracedTail
  by_cases htail : h.tail = "/:id"
  · rw [if_pos (hcancel.mpr htail), if_pos htail]
  · rw [if_neg (mt hcancel.mp htail), if_neg htail, Handler.path_eq hh]

/-- The paths of the document are the paths of the handlers. -/
theorem pathTemplate_eq {h : Handler} (hh : h ∈ tableScoped) (table : String) :
    pathTemplate table h = template table h := by
  rw [template_eq hh]
  cases h with
  | list | create => exact String.append_empty.symm
  | getOne | update | delete | query => rfl
  | listTables | getTable | refresh | rawQuery | createTable => exact absurd hh (by decide)

theorem opensSegment_bracedTail (h : Handler) : OpensSegment (bracedTail h).toList := by
  cases h <;> simp [OpensSegment, bracedTail, Handler.tail]

theorem template_injective {g h : Handler} {s t : String} (hg : g ∈ tableScoped)
    (hh : h ∈ tableScoped) (hs : SlashFree s) (ht : SlashFree t) (heq : template s g = template t h) :
    s = t ∧ bracedTail g = bracedTail h := by
  rw [template_eq hg, template_eq hh] at heq
  have hchars := congrArg String.toList heq
  simp only [String.toList_append, List.append_assoc, List.append_right_inj] at hchars
  obtain ⟨hname, htail⟩ := segment_injective hs ht (opensSegment_bracedTail g)
    (opensSegment_bracedTail h) hchars
  exact ⟨String.toList_inj.mp hname, String.toList_inj.mp htail⟩

/-! ## Groups of handlers -/

theorem exists_group : ∀ h ∈ tableScoped, ∃ group ∈ pathGroups, h ∈ group := by decide

theorem tableScoped_of_mem_group : ∀ group ∈ pathGroups, ∀ h ∈ group, h ∈ tableScoped := by decide

theorem group_nonempty : ∀ group ∈ pathGroups, ∃ h ∈ group, group.head? = some h := by decide

theorem bracedTail_of_mem_group : ∀ group ∈ pathGroups, ∀ g ∈ group, ∀ h ∈ group,
    bracedTail g = bracedTail h := by decide

theorem group_of_bracedTail : ∀ group ∈ pathGroups, ∀ group' ∈ pathGroups, ∀ g ∈ group, ∀ h ∈ group',
    bracedTail g = bracedTail h → group = group' := by decide

theorem eq_of_method_of_mem_group : ∀ group ∈ pathGroups, ∀ g ∈ group, ∀ h ∈ group,
    Text.lower g.method = Text.lower h.method → g = h := by decide

/-! ## Items -/

theorem operation?_isSome (table : String) (columns : List Catalog.Column) {h : Handler}
    (hh : h ∈ tableScoped) : (operation? table columns h).isSome := by
  cases h with
  | list | getOne | update | delete | create | query => rfl
  | listTables | getTable | refresh | rawQuery | createTable => exact absurd hh (by decide)

/-- An operation has the tag of its table and no other. -/
theorem Operation.tags_json (table : String) (o : Operation) :
    (o.json table).get? "tags" = some (.strings [table]) := by
  refine Fields.get?_ofList (by simp) fun v hv => ?_
  rcases List.mem_append.mp hv with hv | hv
  · rcases List.mem_append.mp hv with hv | hv
    · simpa using hv
    · split at hv <;> simp at hv
  · split at hv <;> simp at hv

variable {table : String} {columns : List Catalog.Column} {group : List Handler}

/-- What an item holds under a method. -/
theorem mem_pathItem {operation : String × Json}
    (h : operation ∈ fieldsOf (pathItem table columns group)) :
    ∃ g ∈ group, ∃ o, operation? table columns g = some o ∧
      operation = (Text.lower g.method, o.json table) := by
  obtain ⟨g, hg, hsome⟩ := List.mem_filterMap.mp (Fields.mem_ofList h)
  obtain ⟨o, ho, rfl⟩ := Option.map_eq_some_iff.mp hsome
  exact ⟨g, hg, o, ho, rfl⟩

/-- The handlers of a group differ in their methods, so each has its operation. -/
theorem get?_pathItem (hgroup : group ∈ pathGroups) {h : Handler} (hh : h ∈ group) {o : Operation}
    (ho : operation? table columns h = some o) :
    (pathItem table columns group).get? (Text.lower h.method) = some (o.json table) := by
  refine Fields.get?_ofList (List.mem_filterMap.mpr ⟨h, hh, by rw [ho]; rfl⟩) fun v hv => ?_
  obtain ⟨g, hg, hsome⟩ := List.mem_filterMap.mp hv
  obtain ⟨p, hp, heq⟩ := Option.map_eq_some_iff.mp hsome
  obtain rfl := eq_of_method_of_mem_group group hgroup g hg h hh (congrArg Prod.fst heq)
  rw [ho] at hp
  cases hp
  exact (congrArg Prod.snd heq).symm

theorem mem_tablePaths {path : String} {item : Json} (h : (path, item) ∈ tablePaths table columns) :
    ∃ group ∈ pathGroups, (∀ g ∈ group, path = template table g) ∧
      item = pathItem table columns group := by
  obtain ⟨group, hgroup, hsome⟩ := List.mem_filterMap.mp h
  obtain ⟨first, hfirst, heq⟩ := Option.map_eq_some_iff.mp hsome
  have hmem : first ∈ group := List.mem_of_head? hfirst
  have hscoped := tableScoped_of_mem_group group hgroup
  obtain ⟨rfl, rfl⟩ := Prod.mk.inj heq
  refine ⟨group, hgroup, fun g hg => ?_, rfl⟩
  rw [pathTemplate_eq (hscoped first hmem), template_eq (hscoped first hmem),
    template_eq (hscoped g hg), bracedTail_of_mem_group group hgroup first hmem g hg]

theorem tablePaths_mem (hgroup : group ∈ pathGroups) {h : Handler} (hh : h ∈ group) :
    (template table h, pathItem table columns group) ∈ tablePaths table columns := by
  have hscoped := tableScoped_of_mem_group group hgroup
  obtain ⟨first, hmem, hfirst⟩ := group_nonempty group hgroup
  refine List.mem_filterMap.mpr ⟨group, hgroup, ?_⟩
  rw [hfirst, Option.map_some, pathTemplate_eq (hscoped first hmem), template_eq (hscoped first hmem),
    template_eq (hscoped h hh), bracedTail_of_mem_group group hgroup first hmem h hh]

/-! ## The document of a snapshot -/

variable {s : Catalog.Snapshot}

theorem get?_paths (info : Info) (s : Catalog.Snapshot) (serverUrl openapiVersion : String) :
    (document info s serverUrl openapiVersion).get? "paths" = some (paths s) :=
  Fields.get?_ofList (by simp) fun v hv => by simpa using hv

theorem get?_tags (info : Info) (s : Catalog.Snapshot) (serverUrl openapiVersion : String) :
    (document info s serverUrl openapiVersion).get? "tags" = some (.arr (s.tables.map tag)) :=
  Fields.get?_ofList (by simp) fun v hv => by simpa using hv

/-- Tables and groups differ in their paths, so each item is found under its own path. -/
theorem get?_item (hs : ∀ t ∈ s.tables, SlashFree t.name) {t : Catalog.TableInfo}
    (ht : t ∈ s.tables) (hgroup : group ∈ pathGroups) {h : Handler} (hh : h ∈ group) :
    (paths s).get? (template t.name h) = some (pathItem t.name (s.columns t.name) group) := by
  refine Fields.get?_ofList (List.mem_flatMap.mpr ⟨t, ht, tablePaths_mem hgroup hh⟩) fun v hv => ?_
  obtain ⟨t', ht', hmem⟩ := List.mem_flatMap.mp hv
  obtain ⟨group', hgroup', hpath, rfl⟩ := mem_tablePaths hmem
  obtain ⟨g, hg, -⟩ := group_nonempty group' hgroup'
  obtain ⟨hname, htail⟩ := template_injective (tableScoped_of_mem_group group hgroup h hh)
    (tableScoped_of_mem_group group' hgroup' g hg) (hs t ht) (hs t' ht') (hpath g hg)
  rw [hname, group_of_bracedTail group hgroup group' hgroup' h hh g hg htail]

/-- Every handler that serves a table has its operation, with the tag of the table. -/
theorem operationAt?_document (hs : ∀ t ∈ s.tables, SlashFree t.name) (info : Info)
    (serverUrl openapiVersion : String) {t : Catalog.TableInfo} (ht : t ∈ s.tables) {h : Handler}
    (hh : h ∈ tableScoped) :
    ∃ operation, operationAt? (document info s serverUrl openapiVersion) (Text.lower h.method)
        (template t.name h) = some operation ∧
      operation.get? "tags" = some (.strings [t.name]) := by
  obtain ⟨group, hgroup, hmem⟩ := exists_group h hh
  obtain ⟨o, ho⟩ := Option.isSome_iff_exists.mp (operation?_isSome t.name (s.columns t.name) hh)
  refine ⟨o.json t.name, ?_, o.tags_json t.name⟩
  rw [operationAt?, get?_paths, Option.bind_some, get?_item hs ht hgroup hmem, Option.bind_some,
    get?_pathItem hgroup hmem ho]

theorem mem_fieldsOf {v : Json} {key : String} {value : Json} (h : v.get? key = some value) :
    (key, value) ∈ fieldsOf v := by
  cases v with
  | obj fields => exact Fields.mem_of_get? h
  | _ => cases h

theorem mem_documented {doc : Json} {method path : String} :
    (method, path) ∈ documented doc ↔ ∃ paths item operation, doc.get? "paths" = some paths ∧
      (path, item) ∈ fieldsOf paths ∧ (method, operation) ∈ fieldsOf item := by
  simp only [documented, List.mem_flatMap, List.mem_map, Option.mem_toList, Prod.mk.injEq]
  constructor
  · rintro ⟨paths, hpaths, ⟨p, item⟩, hitem, ⟨m, operation⟩, hoperation, rfl, rfl⟩
    exact ⟨paths, item, operation, hpaths, hitem, hoperation⟩
  · rintro ⟨paths, item, operation, hpaths, hitem, hoperation⟩
    exact ⟨paths, hpaths, (path, item), hitem, (method, operation), hoperation, rfl, rfl⟩

theorem documented_of_operationAt? {doc operation : Json} {method path : String}
    (h : operationAt? doc method path = some operation) : (method, path) ∈ documented doc := by
  obtain ⟨paths, hpaths, h⟩ := Option.bind_eq_some_iff.mp h
  obtain ⟨item, hitem, hoperation⟩ := Option.bind_eq_some_iff.mp h
  exact mem_documented.mpr ⟨paths, item, operation, hpaths, mem_fieldsOf hitem, mem_fieldsOf hoperation⟩

/-- The operations are those of all handlers that serve a table, for all tables. -/
theorem mem_documented_document (hs : ∀ t ∈ s.tables, SlashFree t.name) (info : Info)
    (serverUrl openapiVersion method path : String) :
    (method, path) ∈ documented (document info s serverUrl openapiVersion) ↔
      ∃ t ∈ s.tables, ∃ h ∈ tableScoped,
        method = Text.lower h.method ∧ path = template t.name h := by
  constructor
  · intro hmem
    obtain ⟨ps, item, operation, hpaths, hitem, hoperation⟩ := mem_documented.mp hmem
    rw [get?_paths] at hpaths
    cases hpaths
    obtain ⟨t, ht, hitem⟩ := List.mem_flatMap.mp (Fields.mem_ofList hitem)
    obtain ⟨group, hgroup, hpath, rfl⟩ := mem_tablePaths hitem
    obtain ⟨g, hg, o, -, heq⟩ := mem_pathItem hoperation
    exact ⟨t, ht, g, tableScoped_of_mem_group group hgroup g hg, congrArg Prod.fst heq, hpath g hg⟩
  · rintro ⟨t, ht, h, hh, rfl, rfl⟩
    obtain ⟨operation, hoperation, -⟩ :=
      operationAt?_document hs info serverUrl openapiVersion ht hh
    exact documented_of_operationAt? hoperation

theorem name_tag (t : Catalog.TableInfo) : (tag t).get? "name" = some (.str t.name) := by
  refine Fields.get?_ofList List.mem_cons_self fun v hv => ?_
  rcases List.mem_cons.mp hv with hv | hv
  · exact congrArg Prod.snd hv
  · split at hv
    · split at hv <;> simp at hv
    · cases hv

/-- There is one tag for every table, in their order. -/
theorem tagNames_document (info : Info) (s : Catalog.Snapshot) (serverUrl openapiVersion : String) :
    tagNames (document info s serverUrl openapiVersion) = s.tables.map (·.name) := by
  have hname : ∀ t : Catalog.TableInfo, ((tag t).get? "name").bind Json.asStr? = some t.name := by
    intro t
    rw [name_tag]
    rfl
  rw [tagNames, get?_tags, Option.toList_some, List.flatMap_singleton]
  show (s.tables.map tag).filterMap _ = _
  simp only [List.filterMap_map, Function.comp_def, hname, List.filterMap_eq_map']

end SchemaRest.OpenApi
