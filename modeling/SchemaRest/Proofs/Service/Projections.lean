import Mathlib
import SchemaRest.Proofs.Request.Bodies
import SchemaRest.Proofs.Service.Pages
import SchemaRest.Proofs.Service.Plans

/-!
# Columns that may be shown

A table with a list of columns that may be shown shows no others. Each handler that reads rows of it names
columns of the list in every statement that reads them, whatever the request asks for; the description of
the table leaves out just the columns that no request can have.
-/

namespace SchemaRest

namespace VisibleColumns

/-- The wanted columns that may be shown, in the order they are wanted in; all that may be shown if there
are none. -/
def picked (allowed wanted : List String) : List String :=
  if ∃ n ∈ wanted, n ∈ allowed then wanted.filter (· ∈ allowed) else allowed

variable {settings : VisibleColumns} {table : String} {allowed : List String}

theorem mem_picked {wanted : List String} : ∀ n ∈ picked allowed wanted, n ∈ allowed := by
  intro n hn
  unfold picked at hn
  split at hn
  · exact of_decide_eq_true (List.mem_filter.mp hn).2
  · exact hn

theorem picked_ne_nil (h : allowed ≠ []) (wanted : List String) : picked allowed wanted ≠ [] := by
  unfold picked
  split
  · next hsome =>
    obtain ⟨n, hn, hallowed⟩ := hsome
    exact List.ne_nil_of_mem (List.mem_filter.mpr ⟨hn, decide_eq_true hallowed⟩)
  · exact h

theorem select_eq_picked (h : settings.allowed table ≠ []) (wanted : List String) :
    settings.select table wanted = picked (settings.allowed table) wanted := by
  have hallowed : (settings.allowed table).isEmpty = false := List.isEmpty_eq_false_iff.mpr h
  have hfilter : wanted.filter (settings.allowed table).contains =
      wanted.filter (· ∈ settings.allowed table) :=
    List.filter_congr fun n _ => List.contains_eq_mem n _
  unfold select picked
  dsimp only
  rw [hallowed, if_neg Bool.false_ne_true, hfilter]
  split
  · next hnone =>
    rw [List.isEmpty_iff.mp hnone, if_neg (by simp)]
  · by_cases hsome : ∃ n ∈ wanted, n ∈ settings.allowed table
    · have hne : wanted.filter (· ∈ settings.allowed table) ≠ [] := by
        have hpicked := picked_ne_nil h wanted
        rwa [picked, if_pos hsome] at hpicked
      rw [if_pos hsome, if_neg (by simpa using hne)]
    · have hnil : wanted.filter (· ∈ settings.allowed table) = [] :=
        List.filter_eq_nil_iff.mpr fun n hn hallowed => hsome ⟨n, hn, of_decide_eq_true hallowed⟩
      rw [if_neg hsome, hnil]
      rfl

/-- A column may be shown just where asking for it alone gives it. -/
theorem shows_iff (settings : VisibleColumns) (table column : String) :
    settings.shows table column = true ↔ column ∈ settings.select table [column] := by
  by_cases h : settings.allowed table = []
  · have hselect : settings.select table [column] = [column] := by
      unfold select
      dsimp only
      rw [h]
      rfl
    rw [hselect, shows, h]
    simp
  · have hpicked : column ∈ picked (settings.allowed table) [column] ↔
        column ∈ settings.allowed table := by
      refine ⟨fun hmem => mem_picked column hmem, fun hmem => ?_⟩
      rw [picked, if_pos ⟨column, List.mem_singleton_self _, hmem⟩]
      exact List.mem_filter.mpr ⟨List.mem_singleton_self _, decide_eq_true hmem⟩
    rw [select_eq_picked h, hpicked, shows, List.isEmpty_eq_false_iff.mpr h]
    simp

end VisibleColumns

/-! ## Statements and what they read -/

/-- A statement that counts rows of a table. -/
def Sent.Counts (table : String) (s : Sent) : Prop :=
  ∃ r, s.read? = some r ∧ r.table = table ∧ r.wanted = .total

/-- A statement that reads these columns of rows of a table; no columns stand for all. -/
def Sent.Fetches (table : String) (columns : List String) (s : Sent) : Prop :=
  ∃ r, s.read? = some r ∧ r.table = table ∧ r.wanted = .rows columns

namespace Service

open Effect

/-- Of the statements sent each counts rows or reads these columns of them, and no answer is given without
one that reads them. -/
def Confined (table : String) (columns : List String) (w : World)
    (outcome : Except Failure Response × World) : Prop :=
  ∃ issued, outcome.2.sent = w.sent ++ issued ∧
    (∀ s ∈ issued, s.Counts table ∨ s.Fetches table columns) ∧
    ∀ r, outcome.1 = .ok r → ∃ s ∈ issued, s.Fetches table columns

/-- The columns that a request for rows names. -/
def requested (h : Handler) (body : ByteArray) : List String :=
  match h, Body.parse QuerySpec.decode body with
  | .query, .ok spec => spec.fields
  | _, _ => []

/-- The handlers that read rows. -/
def reading : List Handler := [.list, .getOne, .query]

variable {settings : Settings} {table : String} {columns : List String} {c : Call} {q : Sql.Select}

theorem counts_of (q : Sql.Select) : (Sent.ofStatement q.count).Counts q.table :=
  ⟨_, Sent.read?_count q, rfl, rfl⟩

theorem fetches_of (q : Sql.Select) : (Sent.ofStatement q.rows).Fetches q.table q.columns :=
  ⟨_, Sent.read?_rows q, rfl, rfl⟩

/-- A plan that ends with reading the rows, and does nothing before but count them. -/
theorem confined_of_follows {m : Effect Failure Response} (plan : List Sql.Statement)
    {s : Sql.Statement} (hm : m.Follows (plan ++ [s]))
    (hplan : ∀ t ∈ plan, (Sent.ofStatement t).Counts table)
    (hs : (Sent.ofStatement s).Fetches table columns) (w : World) : Confined table columns w (m w) := by
  obtain ⟨issued, hissued, hahead, hall⟩ := hm w
  refine ⟨issued, hissued, fun t ht => ?_, fun r hr => ?_⟩
  · obtain ⟨t, hmem, rfl⟩ := List.mem_map.mp (hahead.subset ht)
    rcases List.mem_append.mp hmem with hmem | hmem
    · exact .inl (hplan t hmem)
    · cases List.mem_singleton.mp hmem
      exact .inr hs
  · have hissued := hall fun h d hfailed => by
      rw [hr] at hfailed
      cases hfailed
    rw [hissued]
    exact ⟨_, List.mem_map_of_mem (List.mem_append_right _ (List.mem_singleton_self s)), hs⟩

/-- Where nothing is sent and nothing answered there is nothing to keep to. -/
theorem confined_of_error {outcome : Except Failure Response × World} {e : Failure} {w : World}
    (herror : outcome.1 = .error e) (hsent : outcome.2.sent = w.sent) :
    Confined table columns w outcome := by
  refine ⟨[], by simpa using hsent, List.forall_mem_nil _, fun r hr => ?_⟩
  cases herror.symm.trans hr

/-- Without a plan nothing is sent. -/
theorem confined_of_unplanned {m : Effect Failure Response} {e : Failure} (hm : Plans (.error e) m)
    (w : World) : Confined table columns w (m w) := by
  rw [hm w]
  exact confined_of_error rfl rfl

theorem confined_of_showing {m : Effect Failure Response} (page : Page)
    (hm : m.Follows (showing page q)) (w : World) : Confined q.table q.columns w (m w) := by
  unfold showing at hm
  split at hm
  · exact confined_of_follows [q.count] hm (List.forall_mem_singleton.mpr (counts_of q))
      (fetches_of (page.window q)) w
  · exact confined_of_follows [] hm (List.forall_mem_nil _) (fetches_of q) w

theorem follows_paged (h : Handler) (page : Page) (q : Sql.Select) :
    (paged h page q).Follows [q.count, (page.window q).rows] :=
  follows_reported (once_count _) fun _ => follows_reported (once_fetchAll _) fun _ =>
    follows_nil fun _ => rfl

theorem confined_list (settings : Settings) (table : String) (c : Call) (w : World) :
    Confined table (settings.visible.select table []) w (list settings table c w) := by
  rw [list_apply]
  exact confined_of_showing { Page.ofQuery c.context.query with enabled := true }
    (follows_paged .list _ (listQuery settings w.catalog table c.context)) w

/-- A query reads the columns selected for the fields it names; one that cannot be read sends nothing. -/
theorem confined_query {m : Effect Failure Response} (hm : Plans (planned settings table c .query) m)
    (w : World) :
    Confined table (settings.visible.select table (requested .query c.body)) w (m w) := by
  unfold requested
  unfold planned at hm
  cases hspec : Body.parse QuerySpec.decode c.body with
  | error e =>
    rw [hspec] at hm
    exact confined_of_unplanned hm w
  | ok spec =>
    rw [hspec] at hm
    change Plans (spec.select table (settings.visible.select table spec.fields) >>= _) m at hm
    cases hq : spec.select table (settings.visible.select table spec.fields) with
    | error e =>
      rw [hq] at hm
      exact confined_of_unplanned hm w
    | ok q =>
      rw [hq] at hm
      obtain ⟨conditions, orderBy, rfl⟩ := QuerySpec.select_frame hq
      exact confined_of_showing _ hm w

/-- Every handler that reads rows keeps to the columns selected for what its request names. -/
theorem confined_run (settings : Settings) {d : Endpoint} (hd : d.handler ∈ reading) (c : Call)
    (w : World) :
    Confined d.tableName (settings.visible.select d.tableName (requested d.handler c.body)) w
      (run settings d c w) := by
  have hplans (hvalued : d.handler ∈ valued) := plans_run settings hvalued c
  simp only [reading, List.mem_cons, List.not_mem_nil, or_false] at hd
  rcases hd with h | h | h
  · have hrun : run settings d c = list settings d.tableName c := by
      unfold run
      rw [h]
    rw [hrun, h]
    exact confined_list settings d.tableName c w
  · have hfollows := hplans (h ▸ by decide)
    rw [h] at hfollows ⊢
    exact confined_of_follows [] hfollows (List.forall_mem_nil _)
      (fetches_of (rowQuery settings d.tableName c)) w
  · have hfollows := hplans (h ▸ by decide)
    rw [h] at hfollows ⊢
    exact confined_query hfollows w

/-- What a request may send without a word of what it may be shown: the decision sends nothing. -/
theorem confined_dispatch {method pattern : String} {w : World} {d : Endpoint}
    (hd : w.registry.resolve? method pattern = some d)
    (hrun : ∀ w, Confined table columns w (run settings d c w)) :
    Confined table columns w (dispatch settings method pattern c w) := by
  have hsent : (decision settings c w d).2.sent = w.sent := by
    rw [withService_decision]
    rfl
  rw [decision] at hsent
  rw [dispatch_apply, hd]
  dsimp only
  split
  · next w' h =>
    rw [h] at hsent
    obtain ⟨issued, hissued, hrest⟩ := hrun w'
    exact ⟨issued, by rw [hissued, hsent], hrest⟩
  · next w' h =>
    rw [h] at hsent
    exact confined_of_error rfl hsent
  · next e w' h =>
    rw [h] at hsent
    exact confined_of_error rfl hsent

section

variable (settings : Settings) (method pattern : String) (c : Call) (w : World) (d : Endpoint)

/-- The columns that a request for rows is shown. -/
def shownColumns : List String :=
  VisibleColumns.picked (settings.visible.allowed d.tableName) (requested d.handler c.body)

/-- What a request for rows of a table can be shown of them. -/
structure Projected : Prop where
  /-- Its statements count rows, or read these columns of them. -/
  confined : Confined d.tableName (shownColumns settings c d) w (dispatch settings method pattern c w)
  /-- The columns are named, so they do not stand for all. -/
  named : shownColumns settings c d ≠ []
  /-- Each of them may be shown. -/
  allowed : ∀ n ∈ shownColumns settings c d, n ∈ settings.visible.allowed d.tableName

end

/-- No request for rows is shown a column that its table does not let be shown, and the description of a
table has just the columns that a request for them alone is shown. -/
theorem projected_of_allowed :
    (∀ (settings : Settings) (method pattern : String) (c : Call) (w : World) (d : Endpoint),
      w.registry.resolve? method pattern = some d → d.handler ∈ reading →
      settings.visible.allowed d.tableName ≠ [] → Projected settings method pattern c w d) ∧
    ∀ (visible : VisibleColumns) (table : String) (columns : List Catalog.Column),
      Catalog.visible visible table columns =
        columns.filter fun column => column.name ∈ visible.select table [column.name] := by
  constructor
  · intro settings method pattern c w d hd hreading hallowed
    have hrun := fun w => confined_run settings hreading c w
    rw [VisibleColumns.select_eq_picked hallowed] at hrun
    exact ⟨confined_dispatch hd hrun, VisibleColumns.picked_ne_nil hallowed _,
      VisibleColumns.mem_picked⟩
  · intro visible table columns
    refine List.filter_congr fun column _ => ?_
    rw [Bool.eq_iff_iff, VisibleColumns.shows_iff, decide_eq_true_iff]

/-- A request for two columns, one of which may not be shown. -/
def secretAndName : String := "\x7b\"fields\":[\"secret\",\"name\"]\x7d"

theorem projected_secretAndName :
    let settings := { openSettings with visible := [("users", ["id", "name"])] }
    let c : Call := ⟨⟨"POST", "/users/query", [], []⟩, "", secretAndName.toUTF8⟩
    let d := Endpoint.ofTable "users" .query
    usersOnly.registry.resolve? "POST" "/users/query" = some d ∧ d.handler ∈ reading ∧
      settings.visible.allowed d.tableName = ["id", "name"] ∧ shownColumns settings c d = ["name"] ∧
      Projected settings "POST" "/users/query" c usersOnly d := by
  intro settings c d
  have hresolve : usersOnly.registry.resolve? "POST" "/users/query" = some d := by decide
  have hreading : d.handler ∈ reading := by decide
  have hallowed : settings.visible.allowed d.tableName = ["id", "name"] := by decide
  have hvalue : Body.value? c.body = some (.obj [("fields", .arr [.str "secret", .str "name"])]) := by
    have hblank : secretAndName.toUTF8.toList.all Body.isBlankByte = false :=
      Body.not_blank_toUTF8 (c := '\x7b') (by decide) (by decide) (by decide)
    rw [Body.value?_toUTF8 hblank]
    cbv
  have hparse : Body.parse QuerySpec.decode c.body =
      .ok { QuerySpec.empty with fields := ["secret", "name"] } := by
    rw [Body.parse_eq, hvalue]
    rfl
  have hrequested : requested d.handler c.body = ["secret", "name"] := by
    unfold requested
    rw [hparse]
    rfl
  have hshown : shownColumns settings c d = ["name"] := by
    rw [shownColumns, hallowed, hrequested]
    decide
  exact ⟨hresolve, hreading, hallowed, hshown,
    projected_of_allowed.1 settings "POST" "/users/query" c usersOnly d hresolve hreading
      (by rw [hallowed]; decide)⟩

end Service

end SchemaRest
