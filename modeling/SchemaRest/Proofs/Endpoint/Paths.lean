import SchemaRest.Proofs.Endpoint.Registry

/-!
# Paths of endpoints

Method and path say which handler serves which table, as long as the name of a table has no slash: the
name ends where the rest of the path starts. No path of a table with an unreserved name is one of the
paths of the service itself.
-/

namespace SchemaRest

def SlashFree (name : String) : Prop := '/' ∉ name.toList

instance (name : String) : Decidable (SlashFree name) :=
  inferInstanceAs (Decidable ('/' ∉ name.toList))

/-- What stands behind the first segment of a path: nothing, or a slash and more. -/
def OpensSegment (cs : List Char) : Prop := ∀ c ∈ cs.head?, c = '/'

/-- A segment ends at the first slash. -/
theorem segment_injective {s t x y : List Char} (hs : '/' ∉ s) (ht : '/' ∉ t) (hx : OpensSegment x)
    (hy : OpensSegment y) (h : s ++ x = t ++ y) : s = t ∧ x = y := by
  induction s generalizing t with
  | nil =>
    cases t with
    | nil => exact ⟨rfl, h⟩
    | cons d t =>
      have hd : d = '/' := hx d (by rw [show x = d :: t ++ y from h]; rfl)
      exact absurd (by simp [hd]) ht
  | cons c s ih =>
    cases t with
    | nil =>
      have hc : c = '/' := hy c (by rw [show y = c :: s ++ x from h.symm]; rfl)
      exact absurd (by simp [hc]) hs
    | cons d t =>
      obtain ⟨hcd, h⟩ := List.cons.inj h
      obtain ⟨hst, hxy⟩ := ih (List.not_mem_of_not_mem_cons hs) (List.not_mem_of_not_mem_cons ht) h
      exact ⟨by rw [hcd, hst], hxy⟩

namespace Handler

/-- What a handler that serves a table has behind the name of the table. -/
def tail : Handler → String
  | getOne | update | delete => "/:id"
  | query => "/query"
  | _ => ""

theorem opensSegment_tail (h : Handler) : OpensSegment h.tail.toList := by
  cases h <;> simp [OpensSegment, tail]

theorem path_eq {h : Handler} (hh : h ∈ tableScoped) (t : String) : h.path t = "/" ++ t ++ h.tail := by
  cases h with
  | list | create => exact String.append_empty.symm
  | getOne | update | delete | query => rfl
  | listTables | getTable | refresh | rawQuery | createTable => exact absurd hh (by decide)

theorem path_toList {h : Handler} (hh : h ∈ tableScoped) (t : String) :
    (h.path t).toList = '/' :: (t.toList ++ h.tail.toList) := by
  rw [path_eq hh, String.toList_append, String.toList_append]
  rfl

theorem eq_of_method_of_tail : ∀ g ∈ tableScoped, ∀ h ∈ tableScoped,
    g.method = h.method → g.tail = h.tail → g = h := by decide

/-- A path is cut behind its first segment in one way. -/
theorem eq_of_path {h : Handler} {t d rest : String} (hh : h ∈ tableScoped) (ht : SlashFree t)
    (hd : SlashFree d) (hrest : OpensSegment rest.toList) (hpath : h.path t = "/" ++ d ++ rest) :
    t = d ∧ h.tail = rest := by
  have hchars := congrArg String.toList hpath
  rw [path_toList hh, String.toList_append, String.toList_append] at hchars
  obtain ⟨hname, htail⟩ := segment_injective ht hd h.opensSegment_tail hrest (List.cons.inj hchars).2
  exact ⟨String.toList_inj.mp hname, String.toList_inj.mp htail⟩

theorem path_injective {g h : Handler} {s t : String} (hg : g ∈ tableScoped) (hh : h ∈ tableScoped)
    (hs : SlashFree s) (ht : SlashFree t) (hmethod : g.method = h.method)
    (hpath : g.path s = h.path t) : g = h ∧ s = t := by
  obtain ⟨hname, htail⟩ := eq_of_path hg hs ht h.opensSegment_tail (hpath.trans (path_eq hh t))
  exact ⟨eq_of_method_of_tail g hg h hh hmethod htail, hname⟩

/-- The paths of the service itself start with a reserved segment. -/
theorem path_administrative {h : Handler} (hh : h ∈ administrative) :
    ∃ s ∈ reservedSegments, ∃ x, SlashFree s ∧ OpensSegment x ∧
      (h.path "").toList = '/' :: (s.toList ++ x) := by
  cases h with
  | listTables => exact ⟨"table", by decide, [], by decide, by simp [OpensSegment], rfl⟩
  | getTable =>
    exact ⟨"table", by decide, "/:tableName".toList, by decide, by simp [OpensSegment], rfl⟩
  | refresh => exact ⟨"zero-code", by decide, "/refresh".toList, by decide, by simp [OpensSegment], rfl⟩
  | rawQuery =>
    exact ⟨"zero-code", by decide, "/raw-query".toList, by decide, by simp [OpensSegment], rfl⟩
  | createTable =>
    exact ⟨"zero-code", by decide, "/table".toList, by decide, by simp [OpensSegment], rfl⟩
  | list | getOne | update | delete | create | query => exact absurd hh (by decide)

theorem path_ne_administrative {g h : Handler} {t : String} (hg : g ∈ administrative)
    (hh : h ∈ tableScoped) (ht : SlashFree t) (hreserved : Unreserved t) : g.path "" ≠ h.path t := by
  intro hpath
  obtain ⟨s, hs, x, hfree, hx, hchars⟩ := path_administrative hg
  rw [hpath, path_toList hh] at hchars
  obtain ⟨hname, -⟩ := segment_injective ht hfree h.opensSegment_tail hx (List.cons.inj hchars).2
  rw [String.toList_inj.mp hname] at hreserved
  exact hreserved hs

end Handler

theorem Handler.eq_of_administrative : ∀ g ∈ administrative, ∀ h ∈ administrative,
    g.path "" = h.path "" → g = h := by decide

/-- A key says which endpoint it is. -/
theorem Endpoint.Made.eq_of_key {a b : Endpoint} (ha : a.Made fun t => Unreserved t ∧ SlashFree t)
    (hb : b.Made fun t => Unreserved t ∧ SlashFree t) (hmethod : a.method = b.method)
    (hpath : a.path = b.path) : a = b := by
  cases ha with
  | table s g hs hg =>
    cases hb with
    | table t h ht hh =>
      obtain ⟨rfl, rfl⟩ := Handler.path_injective hg hh hs.2 ht.2 hmethod hpath
      rfl
    | administrative h hh => exact absurd hpath.symm (Handler.path_ne_administrative hh hg hs.2 hs.1)
  | administrative g hg =>
    cases hb with
    | table t h ht hh => exact absurd hpath (Handler.path_ne_administrative hg hh ht.2 ht.1)
    | administrative h hh => rw [Handler.eq_of_administrative g hg h hh hpath]

/-- What answers for a handler of a table is the endpoint of that handler and that table. -/
theorem Registry.resolve?_of_made {r : Registry} {t : String} {h : Handler}
    (hr : ∀ e ∈ r.endpoints, e.Made fun t => Unreserved t ∧ SlashFree t) (hreserved : Unreserved t)
    (hfree : SlashFree t) (hh : h ∈ Handler.tableScoped)
    (hsome : (r.resolve? h.method (h.path t)).isSome) :
    r.resolve? h.method (h.path t) = some (.ofTable t h) := by
  obtain ⟨e, he⟩ := Option.isSome_iff_exists.mp hsome
  obtain ⟨hmethod, hpath⟩ := answers_of_resolve? he
  rw [he, (hr e (mem_of_resolve? he)).eq_of_key (.table t h ⟨hreserved, hfree⟩ hh) hmethod hpath]

/-! ## Endpoints by their paths -/

namespace Handler

variable {h : Handler} {t d rest : String}

theorem count_tail : ∀ h ∈ tableScoped, h.tail.toList.count '/' ≤ 1 := by decide

/-- A path with a slash behind its first segment has none inside it. -/
theorem slashFree_of_path (hh : h ∈ tableScoped) (ht : SlashFree t)
    (hrest : rest.toList.count '/' = 1) (hpath : h.path t = "/" ++ d ++ rest) : SlashFree d := by
  have hchars := congrArg String.toList hpath
  rw [path_toList hh, String.toList_append, String.toList_append] at hchars
  have hcount := congrArg (List.count '/') hchars
  have htail := count_tail h hh
  have hname : t.toList.count '/' = 0 := List.count_eq_zero.mpr ht
  have hslash : "/".toList.count '/' = 1 := rfl
  rw [List.count_cons_self, List.count_append, List.count_append, List.count_append, hname, hslash,
    hrest] at hcount
  exact List.count_eq_zero.mp (by omega)

theorem row_of_tail : ∀ h ∈ tableScoped, h.tail = "/:id" → h ∈ [getOne, update, delete] := by decide

theorem query_of_tail : ∀ h ∈ tableScoped, h.tail = "/query" → h = query := by decide

theorem collection_of_tail : ∀ h ∈ tableScoped, h.tail = "" → h ∈ [list, create] := by decide

/-- No path of the service ends as the paths of rows and queries do. -/
theorem tail_of_suffix : ∀ g ∈ tableScoped, ∀ h ∈ administrative,
    g.tail.toList <:+ (h.path "").toList → g.tail = "" := by decide

theorem single_administrative : ∀ h ∈ administrative, (h.path "").toList.count '/' = 1 → h = listTables := by
  decide

theorem action_of_path : ∀ h ∈ administrative, "/zero-code/".toList <+: (h.path "").toList →
    h ∈ [refresh, rawQuery, createTable] := by decide

end Handler

namespace Endpoint.Made

variable {e : Endpoint} {d rest : String}

theorem path_ne_of_administrative {g h : Handler} (hg : g ∈ Handler.tableScoped)
    (hh : h ∈ Handler.administrative) (htail : g.tail ≠ "") : h.path "" ≠ "/" ++ d ++ g.tail := by
  intro hpath
  refine htail (Handler.tail_of_suffix g hg h hh ⟨("/" ++ d).toList, ?_⟩)
  rw [hpath, String.toList_append (s := "/" ++ d)]

/-- The paths of a row are those of the handlers that serve one. -/
theorem of_row (he : e.Made fun t => Unreserved t ∧ SlashFree t) (hpath : e.path = "/" ++ d ++ "/:id") :
    ∃ h ∈ [Handler.getOne, .update, .delete], e = .ofTable d h := by
  cases he with
  | table t h ht hh =>
    have hd : SlashFree d := Handler.slashFree_of_path hh ht.2 (by decide) hpath
    obtain ⟨rfl, htail⟩ := Handler.eq_of_path hh ht.2 hd (by simp [OpensSegment]) hpath
    exact ⟨h, Handler.row_of_tail h hh htail, rfl⟩
  | administrative h hh =>
    exact absurd hpath (path_ne_of_administrative (g := .getOne) (by decide) hh (by decide))

theorem of_query (he : e.Made fun t => Unreserved t ∧ SlashFree t)
    (hpath : e.path = "/" ++ d ++ "/query") : e = .ofTable d .query := by
  cases he with
  | table t h ht hh =>
    have hd : SlashFree d := Handler.slashFree_of_path hh ht.2 (by decide) hpath
    obtain ⟨rfl, htail⟩ := Handler.eq_of_path hh ht.2 hd (by simp [OpensSegment]) hpath
    rw [Handler.query_of_tail h hh htail]
  | administrative h hh =>
    exact absurd hpath (path_ne_of_administrative (g := .query) (by decide) hh (by decide))

/-- A single segment is a table, or the list of them. -/
theorem of_segment (he : e.Made fun t => Unreserved t ∧ SlashFree t) (hd : SlashFree d)
    (hpath : e.path = "/" ++ d) : (∃ h ∈ [Handler.list, .create], e = .ofTable d h) ∨
      d = "table" ∧ e = .administrative .listTables := by
  cases he with
  | table t h ht hh =>
    rw [← String.append_empty (s := "/" ++ d)] at hpath
    obtain ⟨rfl, htail⟩ := Handler.eq_of_path hh ht.2 hd (by simp [OpensSegment]) hpath
    exact .inl ⟨h, Handler.collection_of_tail h hh htail, rfl⟩
  | administrative h hh =>
    have hslash : (h.path "").toList.count '/' = 1 := by
      rw [show h.path "" = "/" ++ d from hpath, String.toList_append, List.count_append,
        List.count_eq_zero.mpr hd]
      rfl
    obtain rfl := Handler.single_administrative h hh hslash
    have hchars : '/' :: "table".toList = '/' :: d.toList :=
      (congrArg String.toList hpath).trans String.toList_append
    exact .inr ⟨(String.toList_inj.mp (List.cons.inj hchars).2).symm, rfl⟩

/-- Below a reserved segment there are only the endpoints of the service. -/
theorem of_reserved {s : String} (he : e.Made fun t => Unreserved t ∧ SlashFree t)
    (hs : s ∈ reservedSegments) (hpath : e.path = "/" ++ s ++ rest) (hrest : OpensSegment rest.toList) :
    ∃ h ∈ Handler.administrative, e = .administrative h := by
  cases he with
  | table t h ht hh =>
    have hfree : ∀ s ∈ reservedSegments, SlashFree s := by decide
    obtain ⟨rfl, -⟩ := Handler.eq_of_path hh ht.2 (hfree s hs) hrest hpath
    exact absurd hs ht.1
  | administrative h hh => exact ⟨h, hh, rfl⟩

end Endpoint.Made

end SchemaRest
