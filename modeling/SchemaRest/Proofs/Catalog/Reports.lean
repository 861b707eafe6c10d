import Mathlib.Data.List.Induction
import SchemaRest.Proofs.Catalog.Reading
import SchemaRest.Proofs.Json.Records

/-!
# What a reading of the catalog makes of the replies

A reading takes the replies of the database one by one: the list of tables, and then for every table its
columns and its relations. It gives a snapshot if all of them can be read, and only then.
`described_of_readSnapshot` says what the snapshot holds: the tables as they are listed and of each table
the columns as they are reported, where the last relation that names a column says what the column refers
to. Nothing that is reported about another table, or about a column that there is not, has a part in it.
-/

namespace SchemaRest.Catalog

open Database (Row rowsOf)

/-! ## Rows -/

/-- A reply is read row by row. -/
def Reads {α : Type} (f : Row → Except DatabaseError α) (reply : List Reply) (items : List α) : Prop :=
  ∃ rows, rowsOf reply = .ok rows ∧ List.Forall₂ (fun row item => f row = .ok item) rows items

theorem readRows_eq_ok_iff {α : Type} {during : String} {s : Sent} {f : Row → Except DatabaseError α}
    {items : List α} {w w' : World} :
    readRows during s f w = (.ok items, w') ↔ ∃ reply left, w.database = .replying (reply :: left) ∧
      Reads f reply items ∧ w' = w.answered [s] left := by
  unfold readRows Database.rows Reads
  simp only [Effect.mapFailure_eq_ok_iff, Effect.bind_eq_ok_iff, send_eq_ok_iff,
    Effect.ofExcept_eq_ok_iff, ← Decode.mapM_eq_ok_iff]
  constructor
  · rintro ⟨rows, _, ⟨reply, _, ⟨left, hreply, rfl⟩, hrows, rfl⟩, hitems, rfl⟩
    exact ⟨reply, left, hreply, ⟨rows, hrows, hitems⟩, rfl⟩
  · rintro ⟨reply, left, hreply, ⟨rows, hrows, hitems⟩, rfl⟩
    exact ⟨rows, _, ⟨reply, _, ⟨left, hreply, rfl⟩, hrows, rfl⟩, hitems, rfl⟩

/-! ## Relations -/

/-- What a column refers to, all of it or nothing. -/
def Column.pointing (c : Column) (t : Option Target) : Column :=
  { c with
    referencedSchema := t.map (·.schema)
    referencedTable := t.map (·.table)
    referencedColumn := t.map (·.column) }

/-- Where the last relation that names a column points. -/
def lastTarget? (relations : List Relation) (name : String) : Option Target :=
  (relations.reverse.find? (·.column == name)).map (·.target)

theorem find?_reverse_append_singleton {α : Type} (p : α → Bool) (as : List α) (a : α) :
    (as ++ [a]).reverse.find? p = if p a then some a else as.reverse.find? p := by
  rw [List.reverse_concat, List.find?_cons]
  cases p a <;> rfl

theorem lastTarget?_append_singleton (relations : List Relation) (r : Relation) (name : String) :
    lastTarget? (relations ++ [r]) name =
      if r.column = name then some r.target else lastTarget? relations name := by
  rw [lastTarget?, find?_reverse_append_singleton]
  simp only [beq_iff_eq]
  split <;> rfl

/-- A column refers to nothing before its relations are known. -/
theorem pointing_none_of_columnOfRow {row : Row} {c : Column} (h : columnOfRow row = .ok c) :
    c.pointing none = c := by
  unfold columnOfRow at h
  obtain ⟨name, -, h⟩ := bind_eq_ok h
  obtain ⟨default, -, h⟩ := bind_eq_ok h
  obtain ⟨nullable, -, h⟩ := bind_eq_ok h
  obtain ⟨dataType, -, h⟩ := bind_eq_ok h
  obtain ⟨columnType, -, h⟩ := bind_eq_ok h
  obtain ⟨extra, -, h⟩ := bind_eq_ok h
  obtain ⟨comment, -, h⟩ := bind_eq_ok h
  obtain ⟨key, -, h⟩ := bind_eq_ok h
  cases h
  rfl

/-- Where no two columns have a name, a relation points every column of its name. -/
theorem merge_eq_map {columns : List Column} (h : (columns.map (·.name)).Nodup) (r : Relation) :
    merge columns r = columns.map fun c => if c.name = r.column then c.refer r.target else c := by
  induction columns with
  | nil => rfl
  | cons c columns ih =>
    obtain ⟨hc, hcolumns⟩ := List.nodup_cons.mp h
    rw [merge, List.map_cons]
    split
    · next hname =>
      have hothers : ∀ d ∈ columns, d.name ≠ r.column := by
        rintro d hd heq
        exact hc (List.mem_map.mpr ⟨d, hd, heq.trans hname.symm⟩)
      rw [List.map_congr_left fun d hd => if_neg (hothers d hd), List.map_id']
    · rw [ih hcolumns]

/-- The relations that are merged into columns make each column point where the last one of its name does. -/
theorem mergeAll_eq_map {columns : List Column} (h : (columns.map (·.name)).Nodup)
    (hnone : ∀ c ∈ columns, c.pointing none = c) (relations : List Relation) :
    mergeAll columns relations = columns.map fun c => c.pointing (lastTarget? relations c.name) := by
  -- The last relation of a name counts, so the relations are taken from their end.
  induction relations using List.reverseRecOn with
  | nil =>
    have hpointing : columns.map (fun c => c.pointing (lastTarget? [] c.name)) = columns.map id :=
      List.map_congr_left hnone
    rw [hpointing, List.map_id]
    rfl
  | append_singleton relations r ih =>
    have hmerged : mergeAll columns (relations ++ [r]) = merge (mergeAll columns relations) r :=
      List.foldl_concat ..
    rw [hmerged, ih, merge_eq_map, List.map_map]
    · refine List.map_congr_left fun c _ => ?_
      rw [lastTarget?_append_singleton, Function.comp_apply]
      by_cases hname : c.name = r.column
      · simp [Column.pointing, Column.refer, hname]
      · simp [Column.pointing, hname, Ne.symm hname]
    · rw [List.map_map]
      exact h

/-- A relation that names no column is not noticed. -/
theorem merge_eq_self {columns : List Column} {r : Relation} (h : r.column ∉ columns.map (·.name)) :
    merge columns r = columns := by
  induction columns with
  | nil => rfl
  | cons c columns ih =>
    rw [List.map_cons, List.mem_cons, not_or] at h
    rw [merge, if_neg (Ne.symm h.1), ih h.2]

theorem merge_names (columns : List Column) (r : Relation) :
    (merge columns r).map (·.name) = columns.map (·.name) := by
  induction columns with
  | nil => rfl
  | cons c columns ih =>
    rw [merge]
    split
    · rfl
    · rw [List.map_cons, List.map_cons, ih]

/-- The relations that name a column are all there is to merge. -/
theorem mergeAll_filter {columns : List Column} {names : List String}
    (h : columns.map (·.name) = names) (relations : List Relation) :
    mergeAll columns (relations.filter fun r => names.contains r.column) =
      mergeAll columns relations := by
  induction relations generalizing columns with
  | nil => rfl
  | cons r relations ih =>
    rw [List.filter_cons]
    split
    · exact ih ((merge_names columns r).trans h)
    · next hr =>
      have hunnamed : r.column ∉ columns.map (·.name) := by simpa [h] using hr
      rw [ih h, mergeAll, mergeAll, List.foldl_cons, merge_eq_self hunnamed]

/-! ## Reports -/

/-- What the two replies about a table say. -/
structure Report where
  table : TableInfo
  columnReply : List Reply
  relationReply : List Reply
  columns : List Column
  relations : List Relation

namespace Report

def name (r : Report) : String := r.table.name

def replies (r : Report) : List (List Reply) := [r.columnReply, r.relationReply]

def queries (r : Report) : List Query := [.columns r.name, .relations r.name]

/-- Both replies can be read, and say what the report does. -/
structure Read (r : Report) : Prop where
  columns : Reads columnOfRow r.columnReply r.columns
  relations : Reads relationOfRow r.relationReply r.relations

def merged (r : Report) : List Column := mergeAll r.columns r.relations

/-- A report added to what is stored. -/
def store (stored : List (String × List Column)) (r : Report) : List (String × List Column) :=
  stored.filter (·.1 != r.name) ++ [(r.name, r.merged)]

theorem Read.pointing_none {r : Report} (h : r.Read) : ∀ c ∈ r.columns, c.pointing none = c := by
  obtain ⟨rows, -, hcolumns⟩ := h.columns
  generalize r.columns = columns at hcolumns
  induction hcolumns with
  | nil => exact List.forall_mem_nil _
  | cons hrow _ ih => exact List.forall_mem_cons.mpr ⟨pointing_none_of_columnOfRow hrow, ih⟩

/-! ### What is stored -/

theorem lookup_filter_ne {stored : List (String × List Column)} {name other : String}
    (h : name ≠ other) : (stored.filter (·.1 != other)).lookup name = stored.lookup name := by
  induction stored with
  | nil => rfl
  | cons p stored ih =>
    obtain ⟨key, columns⟩ := p
    rw [List.filter_cons]
    by_cases hkey : key = other
    · rw [if_neg (by simp [hkey]), ih, List.lookup_cons, hkey, beq_eq_false_iff_ne.mpr h]
    · rw [if_pos (by simpa using hkey), List.lookup_cons, List.lookup_cons, ih]

theorem lookup_store (stored : List (String × List Column)) (r : Report) (name : String) :
    (store stored r).lookup name = if r.name = name then some r.merged else stored.lookup name := by
  rw [store, List.lookup_append]
  by_cases h : r.name = name
  · have hnone : (stored.filter (·.1 != r.name)).lookup name = none := by
      rw [List.lookup_eq_none_iff]
      rintro p hp
      simpa [h, bne_iff_ne, ne_comm] using (List.mem_filter.mp hp).2
    rw [if_pos h, hnone, Option.none_or, h]
    exact List.lookup_cons_self
  · rw [if_neg h, lookup_filter_ne (Ne.symm h)]
    simp [List.lookup_cons, beq_eq_false_iff_ne.mpr (Ne.symm h)]

/-- Under a name are the columns of the last report of the name. -/
theorem lookup_storeAll (reports : List Report) (name : String) :
    (reports.foldl store []).lookup name = (reports.reverse.find? (·.name == name)).map merged := by
  induction reports using List.reverseRecOn with
  | nil => rfl
  | append_singleton reports r ih =>
    rw [List.foldl_concat, lookup_store, ih, find?_reverse_append_singleton]
    simp only [beq_iff_eq]
    split <;> rfl

theorem lookup_storeAll_of_mem {reports : List Report} (h : (reports.map name).Nodup) {r : Report}
    (hr : r ∈ reports) : (reports.foldl store []).lookup r.name = some r.merged := by
  rw [lookup_storeAll]
  cases hfind : reports.reverse.find? (·.name == r.name) with
  | none =>
    have hothers := List.find?_eq_none.mp hfind r (List.mem_reverse.mpr hr)
    exact absurd (beq_self_eq_true _) hothers
  | some r' =>
    have hmem := List.mem_reverse.mp (List.mem_of_find?_eq_some hfind)
    have hname : r'.name = r.name := by simpa using List.find?_some hfind
    rw [List.inj_on_of_nodup_map h hmem hr hname, Option.map_some]

end Report

variable {scope : Scope} {w w' : World}

theorem getColumns_eq_ok_iff {t : TableInfo} {columns : List Column} :
    getColumns scope t.name w = (.ok columns, w') ↔
      ∃ (r : Report) (left : List (List Reply)), r.table = t ∧ r.Read ∧
        w.database = .replying (r.replies ++ left) ∧ columns = r.merged ∧
        w' = w.answered (r.queries.map (·.sent scope)) left := by
  unfold getColumns
  simp only [Effect.bind_eq_ok_iff, readRows_eq_ok_iff]
  constructor
  · rintro ⟨columns, _, ⟨columnReply, _, hdatabase, hcolumns, rfl⟩, relations, _,
      ⟨relationReply, left, hleft, hrelations, rfl⟩, heq⟩
    cases hleft
    cases heq
    exact ⟨⟨t, columnReply, relationReply, columns, relations⟩, left, rfl, ⟨hcolumns, hrelations⟩,
      hdatabase, rfl, w.answered_answered ..⟩
  · rintro ⟨r, left, rfl, hread, hdatabase, rfl, rfl⟩
    exact ⟨r.columns, _, ⟨r.columnReply, _, hdatabase, hread.columns, rfl⟩, r.relations, _,
      ⟨r.relationReply, left, rfl, hread.relations, rfl⟩, by rw [w.answered_answered]; rfl⟩

/-- The replies about some tables are taken in the order of the tables, two for each. -/
theorem readColumns_eq_ok_iff {replies : List (List Reply)} (hw : w.database = .replying replies)
    {done stored : List (String × List Column)} {tables : List TableInfo} :
    readColumns scope done tables w = (.ok stored, w') ↔
      ∃ (reports : List Report) (left : List (List Reply)), reports.map (·.table) = tables ∧
        (∀ r ∈ reports, r.Read) ∧ replies = reports.flatMap Report.replies ++ left ∧
        stored = reports.foldl Report.store done ∧
        w' = w.answered ((reports.flatMap Report.queries).map (·.sent scope)) left := by
  induction tables generalizing w replies done with
  | nil =>
    have hsame : w.answered [] replies = w := by simp [World.answered, ← hw]
    constructor
    · intro h
      cases h
      exact ⟨[], replies, rfl, List.forall_mem_nil _, rfl, rfl, hsame.symm⟩
    · rintro ⟨reports, left, htables, -, rfl, rfl, rfl⟩
      obtain rfl := List.map_eq_nil_iff.mp htables
      rw [List.flatMap_nil, List.nil_append] at hsame
      rw [readColumns, List.flatMap_nil, List.map_nil, hsame]
      rfl
  | cons t tables ih =>
    rw [readColumns, Effect.bind_eq_ok_iff]
    simp only [getColumns_eq_ok_iff, hw, Link.replying.injEq]
    constructor
    · rintro ⟨columns, _, ⟨r, left, rfl, hread, rfl, rfl, rfl⟩, hrest⟩
      obtain ⟨reports, left', rfl, hreads, rfl, rfl, rfl⟩ := (ih rfl).mp hrest
      refine ⟨r :: reports, left', rfl, List.forall_mem_cons.mpr ⟨hread, hreads⟩,
        (List.append_assoc ..).symm, rfl, ?_⟩
      rw [w.answered_answered, ← List.map_append, List.flatMap_cons]
    · rintro ⟨reports, left, htables, hreads, rfl, rfl, rfl⟩
      obtain ⟨r, reports, rfl, rfl, rfl⟩ := List.map_eq_cons_iff.mp htables
      obtain ⟨hread, hreads⟩ := List.forall_mem_cons.mp hreads
      refine ⟨_, _, ⟨r, _, rfl, hread, List.append_assoc .., rfl, rfl⟩, ?_⟩
      refine (ih rfl).mpr ⟨reports, left, rfl, hreads, rfl, rfl, ?_⟩
      rw [w.answered_answered, ← List.map_append, List.flatMap_cons]

/-- A reading that all its replies allow: the tables are listed, and both replies about each of them can
be read. Each reply answers one statement, and no other statement is sent. -/
structure Reading (scope : Scope) (w : World) (reports : List Report) (w' : World) : Prop where
  replies : ∃ listing left, w.database = .replying (listing :: reports.flatMap Report.replies ++ left) ∧
    Reads tableOfRow listing (reports.map (·.table)) ∧
    w' = w.answered ((.tables :: reports.flatMap Report.queries).map (·.sent scope)) left
  read : ∀ r ∈ reports, r.Read

theorem Reading.length_sent {reports : List Report} (h : Reading scope w reports w') :
    w'.sent.length = w.sent.length + (1 + 2 * reports.length) := by
  obtain ⟨_, left, -, -, rfl⟩ := h.replies
  have hqueries : (reports.flatMap Report.queries).length = 2 * reports.length := by
    simp [List.length_flatMap, Report.queries, Nat.mul_comm]
  rw [World.answered, List.length_append, List.length_map, List.length_cons, hqueries, Nat.add_comm 1]

theorem readSnapshot_eq_ok_iff {s : Snapshot} :
    readSnapshot scope w = (.ok s, w') ↔ ∃ reports, Reading scope w reports w' ∧
      s = ⟨reports.map (·.table), reports.foldl Report.store []⟩ := by
  unfold readSnapshot listTables
  simp only [Effect.bind_eq_ok_iff, readRows_eq_ok_iff]
  constructor
  · rintro ⟨tables, _, ⟨listing, _, hw, hlisting, rfl⟩, stored, _, hstored, hs⟩
    obtain ⟨reports, left, rfl, hread, rfl, rfl, rfl⟩ := (readColumns_eq_ok_iff rfl).mp hstored
    cases hs
    exact ⟨reports, ⟨⟨listing, left, hw, hlisting, w.answered_answered ..⟩, hread⟩, rfl⟩
  · rintro ⟨reports, ⟨⟨listing, left, hw, hlisting, rfl⟩, hread⟩, rfl⟩
    refine ⟨_, _, ⟨listing, _, hw, hlisting, rfl⟩, _, _, (readColumns_eq_ok_iff rfl).mpr
      ⟨reports, left, rfl, hread, rfl, rfl, rfl⟩, ?_⟩
    rw [w.answered_answered]
    rfl

/-- A snapshot holds what was reported. -/
structure Described (reports : List Report) (s : Snapshot) : Prop where
  tables : s.tables = reports.map (·.table)
  columns : (reports.map Report.name).Nodup → ∀ r ∈ reports, (r.columns.map (·.name)).Nodup →
    s.columns r.name = r.columns.map fun c => c.pointing (lastTarget? r.relations c.name)
  /-- A relation that names no column of its table could be missing. -/
  named : (reports.map Report.name).Nodup → ∀ r ∈ reports,
    s.columns r.name =
      mergeAll r.columns (r.relations.filter fun l => (r.columns.map (·.name)).contains l.column)
  unreported : ∀ name ∉ reports.map Report.name, s.columns name = []

theorem described_storeAll {reports : List Report} (h : ∀ r ∈ reports, r.Read) :
    Described reports ⟨reports.map (·.table), reports.foldl Report.store []⟩ where
  tables := rfl
  columns hnames r hr hcolumns := by
    rw [Snapshot.columns, Report.lookup_storeAll_of_mem hnames hr, Option.getD_some, Report.merged,
      mergeAll_eq_map hcolumns (h r hr).pointing_none]
  named hnames r hr := by
    rw [Snapshot.columns, Report.lookup_storeAll_of_mem hnames hr, Option.getD_some, mergeAll_filter rfl,
      Report.merged]
  unreported name hname := by
    rw [Snapshot.columns, Report.lookup_storeAll, List.find?_eq_none.mpr, Option.map_none,
      Option.getD_none]
    intro r hr heq
    exact hname (List.mem_map.mpr ⟨r, List.mem_reverse.mp hr, beq_iff_eq.mp heq⟩)

/-- A reading gives a snapshot where every reply can be read, after one statement for the list and two
for each table listed, and nowhere else; and the snapshot holds what the replies say. -/
theorem described_of_readSnapshot (scope : Scope) (w : World) :
    (∀ s w', readSnapshot scope w = (.ok s, w') → ∃ reports, Reading scope w reports w' ∧
      Described reports s ∧ w'.sent.length = w.sent.length + (1 + 2 * reports.length)) ∧
    ∀ reports w', Reading scope w reports w' → ∃ s, readSnapshot scope w = (.ok s, w') ∧
      Described reports s := by
  constructor
  · intro s w' hs
    obtain ⟨reports, hreading, rfl⟩ := readSnapshot_eq_ok_iff.mp hs
    exact ⟨reports, hreading, described_storeAll hreading.read, hreading.length_sent⟩
  · intro reports w' hreading
    exact ⟨_, readSnapshot_eq_ok_iff.mpr ⟨reports, hreading, rfl⟩, described_storeAll hreading.read⟩

/-! ### Two tables -/

/-- A result whose cells are plain texts. -/
def plainRows (names : List String) (rows : List (List (Option String))) : Reply :=
  let bytes (s : String) : List UInt8 := s.toList.map fun c => c.toNat.toUInt8
  .rows (names.map fun n => ⟨n, "VARCHAR", false⟩) (rows.map (·.map (·.map bytes)))

/-- The replies about a table whose columns are whole numbers. -/
def reportOfNumbers (name : String) (columns : List String) (relations : List Relation) : Report where
  table := ⟨name, none, "shop"⟩
  columnReply := [plainRows ["column_name", "column_default", "is_nullable", "data_type", "column_type",
      "extra", "column_comment", "column_key"]
    (columns.map fun c => [some c, none, some "NO", some "int", some "int", none, none, none])]
  relationReply := [plainRows ["column_name", "referenced_table_schema", "referenced_table_name",
      "referenced_column_name"]
    (relations.map fun r => [r.column, r.target.schema, r.target.table, r.target.column].map some)]
  columns := columns.map fun c => ⟨c, none, false, "int", "int", "", "", .none, none, none, none⟩
  relations

/-- Two relations of the items name their owner, and one a column that there is not. -/
def ownedItems : Report :=
  reportOfNumbers "items" ["id", "owner"] [⟨"owner", "shop", "users", "id"⟩,
    ⟨"ghost", "shop", "users", "id"⟩, ⟨"owner", "shop", "people", "key"⟩]

/-- The users have an owner too, which refers to nothing. -/
def ownedUsers : Report := reportOfNumbers "users" ["id", "owner"] []

def ownedWorld : World :=
  let listing := plainRows ["table_name", "table_comment", "table_schema"]
    [[some "items", none, some "shop"], [some "users", none, some "shop"]]
  { World.initial "" "" with
    database := .replying ([listing] :: ownedItems.replies ++ ownedUsers.replies) }

theorem described_of_readSnapshot_owned :
    let asked : List Query := [.tables, .columns "items", .relations "items", .columns "users",
      .relations "users"]
    let w' := ownedWorld.answered (asked.map (·.sent ⟨"shop", none⟩)) []
    ∃ s, readSnapshot ⟨"shop", none⟩ ownedWorld = (.ok s, w') ∧
      s.tables = [⟨"items", none, "shop"⟩, ⟨"users", none, "shop"⟩] ∧
      s.columns "items" = [⟨"id", none, false, "int", "int", "", "", .none, none, none, none⟩,
        ⟨"owner", none, false, "int", "int", "", "", .none, some "shop", some "people", some "key"⟩] ∧
      s.columns "users" = [⟨"id", none, false, "int", "int", "", "", .none, none, none, none⟩,
        ⟨"owner", none, false, "int", "int", "", "", .none, none, none, none⟩] := by
  intro asked w'
  have hitems : ownedItems.Read :=
    ⟨⟨_, rfl, .cons rfl (.cons rfl .nil)⟩, ⟨_, rfl, .cons rfl (.cons rfl (.cons rfl .nil))⟩⟩
  have husers : ownedUsers.Read := ⟨⟨_, rfl, .cons rfl (.cons rfl .nil)⟩, ⟨_, rfl, .nil⟩⟩
  have hreading : Reading ⟨"shop", none⟩ ownedWorld [ownedItems, ownedUsers] w' :=
    ⟨⟨_, [], rfl, ⟨_, rfl, .cons rfl (.cons rfl .nil)⟩, rfl⟩,
      List.forall_mem_cons.mpr ⟨hitems, List.forall_mem_singleton.mpr husers⟩⟩
  obtain ⟨s, hs, hdescribed⟩ := (described_of_readSnapshot ⟨"shop", none⟩ ownedWorld).2 _ w' hreading
  have hnames : ([ownedItems, ownedUsers].map Report.name).Nodup := by decide
  exact ⟨s, hs, hdescribed.tables,
    hdescribed.columns hnames ownedItems (by simp) (by decide),
    hdescribed.columns hnames ownedUsers (by simp) (by decide)⟩

end SchemaRest.Catalog
