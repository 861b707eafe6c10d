import SchemaRest.Proofs.Database.Store
import SchemaRest.Proofs.Json.Fields
import SchemaRest.Proofs.Service.Access
import SchemaRest.Service.Table

/-!
# Pages of a table

The two handlers that show rows in pages, against a store that answers what they send. A page shows the
number of all rows that match, the number of pages, and its own stretch of the rows.
-/

namespace SchemaRest

/-- The content of an envelope. -/
def Response.shown? (r : Response) : Option Json :=
  match r.content with
  | .json v => v.get? "content"
  | _ => none

theorem Response.shown?_envelope (status code : Nat) (message : String) (content : Json) :
    (Response.envelope status code message (some content)).shown? = some content :=
  Fields.get?_ofList (by simp) fun v hv => by simpa using hv

/-- What a page shows of some rows. -/
structure Page.Shows (p : Page) (rows : List Json) (shown : Json) : Prop where
  items : shown.get? "items" = some (.arr (p.items rows))
  pageIndex : shown.get? "pageIndex" = some (.nat p.index)
  itemsPerPage : shown.get? "itemsPerPage" = some (.int p.size)
  totalItems : shown.get? "totalItems" = some (.nat rows.length)
  totalPages : shown.get? "totalPages" = some (.nat (Page.count rows.length p.size))

theorem Page.shows_result (p : Page) (rows : List Json) :
    p.Shows rows (p.result (p.items rows) rows.length) where
  items := Fields.get?_ofList (by simp) fun v hv => by simpa using hv
  pageIndex := Fields.get?_ofList (by simp) fun v hv => by simpa using hv
  itemsPerPage := Fields.get?_ofList (by simp) fun v hv => by simpa using hv
  totalItems := Fields.get?_ofList (by simp) fun v hv => by simpa using hv
  totalPages := Fields.get?_ofList (by simp [Page.total_eq]) fun v hv => by simpa [Page.total_eq] using hv

namespace Service

open Effect (Draws Gives Answered)

/-- A handler that shows rows, the page it shows and the query it shows a page of. -/
inductive Asks (settings : Settings) (table : String) (c : Call) (w : World) :
    Effect Failure Response → Page → Sql.Select → Prop
  | list : Asks settings table c w (list settings table c)
      { Page.ofQuery c.context.query with enabled := true }
      (listQuery settings w.catalog table c.context)
  | query {spec : QuerySpec} {q : Sql.Select} (hspec : Body.parse QuerySpec.decode c.body = .ok spec)
      (hq : spec.select table (settings.visible.select table spec.fields) = .ok q) :
      Asks settings table c w (query settings table c)
        ((Page.ofQuery c.context.query).override spec.page) q

/-- Counts the rows and reads those of a page. -/
def paged (h : Handler) (p : Page) (q : Sql.Select) : Effect Failure Response := do
  let total ← reported h (Database.count q.count)
  let items ← reported h (Database.fetchAll (p.window q).rows)
  return .ok (p.result items total)

/-- Reads all rows. -/
def whole (q : Sql.Select) : Effect Failure Response := do
  let items ← reported .query (Database.fetchAll q.rows)
  return .unpaginated (.arr items)

variable {settings : Settings} {table : String} {c : Call} {w : World}
  {m : Effect Failure Response} {p : Page} {q : Sql.Select}

/-- The query itself has no limit; a page gives it one. -/
theorem Asks.limit (h : Asks settings table c w m p q) : q.limit = none := by
  cases h with
  | list => rfl
  | query hspec hq =>
    obtain ⟨conditions, orderBy, rfl⟩ := QuerySpec.select_frame hq
    rfl

theorem list_apply (settings : Settings) (table : String) (c : Call) (w : World) :
    list settings table c w = paged .list { Page.ofQuery c.context.query with enabled := true }
      (listQuery settings w.catalog table c.context) w := by
  unfold list
  rw [Effect.look_bind, paged]

theorem query_apply {spec : QuerySpec} (hspec : Body.parse QuerySpec.decode c.body = .ok spec)
    (hq : spec.select table (settings.visible.select table spec.fields) = .ok q) (w : World) :
    query settings table c w =
      (if ((Page.ofQuery c.context.query).override spec.page).enabled then
        paged .query ((Page.ofQuery c.context.query).override spec.page) q else whole q) w := by
  unfold Service.query
  rw [hspec, Effect.ofExcept_bind, hq, Effect.ofExcept_bind, paged, whole]

theorem Asks.run (h : Asks settings table c w m p q) :
    ∃ handler, m w = (if p.enabled then paged handler p q else whole q) w := by
  cases h with
  | list =>
    refine ⟨.list, ?_⟩
    rw [list_apply, if_pos rfl]
  | query hspec hq => exact ⟨.query, query_apply hspec hq w⟩

/-! ## Against a store -/

variable {ρ : Type} (d : Store ρ)

/-- The matching rows as they are shown. -/
def shownRows (q : Sql.Select) : List Json :=
  (d.matching q.given.reading).map (d.value q.table q.columns)

theorem draws_reported {α : Type} (h : Handler) {m : Effect DatabaseError α} (hm : m.Draws) :
    (reported h m).Draws := hm.mapFailure _

theorem gives_reported {α : Type} {reply : Sent → List Reply} (h : Handler)
    {m : Effect DatabaseError α} {a : α} {more : List Sent} (hm : Gives reply m (.ok a) more) :
    Gives reply (reported h m) (.ok a) more := hm.mapFailure _

/-- What is fetched of a page are its rows. -/
theorem gives_window (h : Handler) (hcount : (d.matching q.given.reading).length < 2 ^ 63) :
    Gives d.reply (reported h (Database.fetchAll (p.window q).rows)) (.ok (p.items (shownRows d q)))
      [.ofStatement (p.window q).rows] := by
  have hlength : (shownRows d q).length ≤ Text.maxU64 := by
    rw [shownRows, List.length_map]
    exact Nat.le_of_lt (Nat.lt_of_lt_of_le hcount (by decide))
  have hitems := gives_reported h (d.gives_fetchAll (p.window q))
  rw [map_windowed] at hitems
  have hshown : windowed p.limit (p.limit.bind fun _ => p.offset) (shownRows d q) =
      p.items (shownRows d q) := by
    rw [p.bind_offset, p.windowed_window hlength]
  rw [← hshown]
  exact hitems

theorem gives_paged (h : Handler) (hcount : (d.matching q.given.reading).length < 2 ^ 63) :
    Gives d.reply (paged h p q)
      (.ok (.ok (p.result (p.items (shownRows d q)) (shownRows d q).length)))
      [.ofStatement q.count, .ofStatement (p.window q).rows] := by
  have htotal := gives_reported h (d.gives_count q hcount)
  have hlength : (d.matching q.given.reading).length = (shownRows d q).length :=
    (List.length_map _).symm
  rw [hlength] at htotal
  have hfetch := draws_reported h (Effect.draws_fetchAll (p.window q).rows)
  have hrest : ∀ total, Draws (do
      let items ← reported h (Database.fetchAll (p.window q).rows)
      return Response.ok (p.result items total)) := fun _ => hfetch.bind fun _ => .pure _
  exact htotal.bind (draws_reported h (Effect.draws_count _)) hrest
    ((gives_window d h hcount).bind hfetch (fun _ => .pure _) (.pure _))

theorem gives_whole (hlimit : q.limit = none) :
    Gives d.reply (whole q) (.ok (.unpaginated (.arr (shownRows d q)))) [.ofStatement q.rows] := by
  have hitems := gives_reported .query (d.gives_fetchAll q)
  rw [hlimit] at hitems
  exact hitems.bind (draws_reported .query (Effect.draws_fetchAll _)) (fun _ => .pure _) (.pure _)

/-- What the handlers that show rows do against a store that answers what they send. With pages they
send one count and one query with the window of the page, and show the number of all matching rows, the
number of pages, and the rows from `size * index` up to `size * (index + 1)`. The pages of a size are a
partition of the matching rows, and those that are counted are the ones with rows; without a size one
page without a window has them all. Without pages they send one query without a window and show all
matching rows. -/
theorem pages_of_store (hasks : Asks settings table c w m p q) (hanswered : Answered d.reply m w)
    (hcount : (d.matching q.given.reading).length < 2 ^ 63) :
    let rows := shownRows d q
    let pages := Page.count rows.length p.size
    (p.enabled = true → ∃ response shown counting fetching counted fetched,
      (m w).1 = .ok response ∧ response.shown? = some shown ∧ p.Shows rows shown ∧
      (m w).2.sent = w.sent ++ [counting, fetching] ∧
      counting.read? = some counted ∧ counted.wanted = .total ∧
      fetching.read? = some fetched ∧ fetched.wanted = .rows q.columns ∧
      fetched.limit = p.limit ∧ fetched.offset = p.offset) ∧
    (0 < p.size →
      ((List.range pages).flatMap fun i => { p with index := i }.items rows) = rows ∧
      ∀ i, { p with index := i }.items rows ≠ [] ↔ i < pages) ∧
    (p.size ≤ 0 → p.items rows = rows ∧ p.limit = none ∧ p.offset = none) ∧
    (p.enabled = false → ∃ response fetching fetched,
      (m w).1 = .ok response ∧ response.shown? = some (.arr rows) ∧
      (m w).2.sent = w.sent ++ [fetching] ∧
      fetching.read? = some fetched ∧ fetched.wanted = .rows q.columns ∧
      fetched.limit = none ∧ fetched.offset = none) := by
  obtain ⟨handler, hrun⟩ := hasks.run
  have hlimit := hasks.limit
  rw [Answered, hrun] at hanswered
  refine ⟨fun henabled => ?enabled, fun hsize => ?sized, fun hsize => ?unsized, fun hdisabled => ?disabled⟩
  case enabled =>
    rw [if_pos henabled] at hanswered hrun
    obtain ⟨w', hpaged, hsent⟩ := gives_paged d handler hcount w hanswered
    rw [hrun, hpaged]
    have hshown := p.shows_result (shownRows d q)
    exact ⟨_, _, .ofStatement q.count, .ofStatement (p.window q).rows, q.given.countReading,
      (p.window q).given.reading, rfl, Response.shown?_envelope .., hshown, hsent,
      Sent.read?_count q, rfl, Sent.read?_rows _, rfl, rfl, p.bind_offset⟩
  case sized =>
    exact ⟨Page.flatMap_items hsize _, fun i => Page.items_ne_nil_iff (p := { p with index := i }) hsize _⟩
  case unsized =>
    have hnot : ¬0 < p.size := Int.not_lt.mpr hsize
    have hnone : p.limit = none := if_neg hnot
    exact ⟨if_neg hnot, hnone, by rw [Page.offset, hnone, Option.map_none]⟩
  case disabled =>
    rw [if_neg (by simp [hdisabled])] at hanswered hrun
    obtain ⟨w', hwhole, hsent⟩ := gives_whole d hlimit w hanswered
    rw [hrun, hwhole]
    have hbehind : (q.limit.bind fun _ => q.offset) = none := by rw [hlimit, Option.bind_none]
    exact ⟨_, .ofStatement q.rows, q.given.reading, rfl, Response.shown?_envelope .., hsent,
      Sent.read?_rows q, rfl, hlimit, hbehind⟩

/-- Three users, all of which satisfy every condition. -/
def threeUsers : Store Nat where
  rows _ := [1, 2, 3]
  satisfies _ _ _ := true
  header _ _ := [⟨"id", "INT", false⟩]
  cells _ _ n := [some n.repr.toUTF8.toList]

/-- A request for the second page of two users. -/
def secondPage : Call :=
  ⟨⟨"GET", "/users", [], [("itemsPerPage", "2"), ("pageIndex", "1")]⟩, "", .empty⟩

/-- A database with the replies to the count and to the page. -/
def beforeSecondPage : World :=
  { World.initial "" "" with
    database := .replying [[.rows [⟨"total", "BIGINT", false⟩] [[some [51]]]],
      [.rows [⟨"id", "INT", false⟩] [[some [51]]]]] }

theorem pages_secondPage :
    let q := (Sql.Select.all "users").order "id" .ascending
    Asks openSettings "users" secondPage beforeSecondPage (list openSettings "users" secondPage)
      ⟨true, 1, 2⟩ q ∧
    Answered threeUsers.reply (list openSettings "users" secondPage) beforeSecondPage ∧
    ∃ response shown, (list openSettings "users" secondPage beforeSecondPage).1 = .ok response ∧
      response.shown? = some shown ∧ shown.get? "totalItems" = some (.nat 3) ∧
      shown.get? "totalPages" = some (.nat 2) ∧
      shown.get? "items" = some (.arr [threeUsers.value "users" [] 3]) := by
  intro q
  have hasks : Asks openSettings "users" secondPage beforeSecondPage
      (list openSettings "users" secondPage) ⟨true, 1, 2⟩ q := .list
  have hthree : (Nat.repr 3).toUTF8.toList = [51] :=
    Text.Utf8.toUTF8_of_forall_lt (toNat_lt_of_mem_repr 3)
  have hcount : threeUsers.reply (.ofStatement q.count) =
      [.rows [⟨"total", "BIGINT", false⟩] [[some [51]]]] := by
    rw [Store.reply, Sent.read?_count, ← hthree]
    rfl
  have hfetch : threeUsers.reply (.ofStatement ((Page.mk true 1 2).window q).rows) =
      [.rows [⟨"id", "INT", false⟩] [[some [51]]]] := by
    rw [Store.reply, Sent.read?_rows, ← hthree]
    rfl
  have hanswered : Answered threeUsers.reply (list openSettings "users" secondPage) beforeSecondPage := by
    refine ⟨[.ofStatement q.count, .ofStatement ((Page.mk true 1 2).window q).rows], [], ?_, ?_⟩
    · decide
    · rw [List.map_cons, List.map_singleton, hcount, hfetch]
      rfl
  obtain ⟨hpaged, -⟩ := pages_of_store threeUsers hasks hanswered (by decide)
  obtain ⟨response, shown, -, -, -, -, hresponse, hshown, hshows, -⟩ := hpaged rfl
  have hpages : Page.count (shownRows threeUsers q).length 2 = 2 := by
    have hlength : (shownRows threeUsers q).length = 3 := rfl
    rw [hlength, Page.count, if_pos (by decide), Nat.ceilDiv_eq_add_pred_div]
    decide
  have htotal := hshows.totalPages
  rw [hpages] at htotal
  exact ⟨hasks, hanswered, response, shown, hresponse, hshown, hshows.totalItems, htotal, hshows.items⟩

end Service

end SchemaRest
