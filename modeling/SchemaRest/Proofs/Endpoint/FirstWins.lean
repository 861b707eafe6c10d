import Mathlib.Data.List.Pairwise
import Mathlib.Data.List.Sort
import Mathlib.Data.String.Basic
import SchemaRest.Proofs.Endpoint.Registry

/-!
# The first endpoint of a key stays

A registry told by the endpoints that were registered, whatever they were and in whatever order: under
each key it holds the first that came with it. `firstWins_after` says what follows for all that can be
asked of a registry; its listings depend on what it holds and not on how it came to hold it.
-/

namespace SchemaRest

namespace Endpoint

variable {a b c : Endpoint}

/-- The same method and the same path. -/
def SameKey (a b : Endpoint) : Prop := a.method = b.method ∧ a.path = b.path

instance (a b : Endpoint) : Decidable (a.SameKey b) :=
  inferInstanceAs (Decidable (a.method = b.method ∧ a.path = b.path))

theorem SameKey.symm (h : a.SameKey b) : b.SameKey a := ⟨h.1.symm, h.2.symm⟩

/-- Stands before another in a listing, which has one endpoint for a key. -/
def Precedes (a b : Endpoint) : Prop := a.path < b.path ∨ a.path = b.path ∧ a.method < b.method

theorem Precedes.asymm (h : a.Precedes b) : ¬b.Precedes a := by
  rintro (hpath | ⟨hpath, hmethod⟩)
  · rcases h with h | ⟨h, -⟩
    · exact lt_asymm hpath h
    · exact hpath.ne h.symm
  · rcases h with h | ⟨-, h⟩
    · exact h.ne hpath.symm
    · exact lt_asymm hmethod h

theorem before_iff (a b : Endpoint) :
    a.before b = true ↔ a.path < b.path ∨ a.path = b.path ∧ a.method ≤ b.method := by
  simp [before]

theorem before_trans (a b c : Endpoint) (hab : a.before b = true) (hbc : b.before c = true) :
    a.before c = true := by
  rw [before_iff] at hab hbc ⊢
  rcases hab with hab | ⟨hab, hm⟩ <;> rcases hbc with hbc | ⟨hbc, hn⟩
  · exact .inl (lt_trans hab hbc)
  · exact .inl (hbc ▸ hab)
  · exact .inl (hab ▸ hbc)
  · exact .inr ⟨hab.trans hbc, le_trans hm hn⟩

theorem before_total (a b : Endpoint) : (a.before b || b.before a) = true := by
  rw [Bool.or_eq_true, before_iff, before_iff]
  rcases lt_trichotomy a.path b.path with h | h | h
  · exact .inl (.inl h)
  · rcases le_total a.method b.method with hm | hm
    · exact .inl (.inr ⟨h, hm⟩)
    · exact .inr (.inr ⟨h.symm, hm⟩)
  · exact .inr (.inl h)

theorem precedes_of_before (h : a.before b = true) (hkey : ¬a.SameKey b) : a.Precedes b := by
  rcases (before_iff a b).mp h with h | ⟨hpath, hmethod⟩
  · exact .inl h
  · exact .inr ⟨hpath, lt_of_le_of_ne hmethod fun heq => hkey ⟨heq, hpath⟩⟩

end Endpoint

open Endpoint (SameKey Precedes)

namespace Registry

variable {r : Registry} {e : Endpoint} {es : List Endpoint} {method path : String}

/-! ## One endpoint for a key -/

def OnePerKey (r : Registry) : Prop := r.endpoints.Pairwise fun a b => ¬a.SameKey b

theorem resolve?_isSome_iff : (r.resolve? e.method e.path).isSome ↔ ∃ d ∈ r.endpoints, d.SameKey e := by
  rw [resolve?, List.find?_isSome]
  simp only [answers_iff]
  rfl

theorem OnePerKey.register (h : r.OnePerKey) (e : Endpoint) : (r.register e).2.OnePerKey := by
  unfold Registry.register
  split
  · exact h
  · next hnew =>
    rw [resolve?_isSome_iff] at hnew
    refine List.pairwise_append.mpr ⟨h, List.pairwise_singleton _ _, fun d hd d' hd' hkey => hnew ?_⟩
    rw [List.mem_singleton.mp hd'] at hkey
    exact ⟨d, hd, hkey⟩

theorem OnePerKey.eq_of_sameKey (h : r.OnePerKey) {d : Endpoint} (hd : d ∈ r.endpoints)
    (he : e ∈ r.endpoints) (hkey : d.SameKey e) : d = e := by
  have hsymm : Std.Symm fun a b : Endpoint => ¬a.SameKey b := ⟨fun _ _ h hkey => h hkey.symm⟩
  by_contra hne
  exact h.forall hd he hne hkey

theorem OnePerKey.mem_iff (h : r.OnePerKey) :
    e ∈ r.endpoints ↔ r.resolve? e.method e.path = some e := by
  constructor
  · intro he
    obtain ⟨d, hd⟩ := Option.isSome_iff_exists.mp (resolve?_isSome_iff.mpr ⟨e, he, rfl, rfl⟩)
    rw [hd, h.eq_of_sameKey (mem_of_resolve? hd) he (answers_of_resolve? hd)]
  · exact mem_of_resolve?

/-! ## Histories -/

/-- The registry that some registrations lead to, the first of them first. -/
def after (es : List Endpoint) : Registry := (empty.registerAll es).2

/-- What the registrations answer one after the other. -/
def replies (r : Registry) : List Endpoint → List Bool
  | [] => []
  | e :: es => (r.register e).1 :: replies (r.register e).2 es

theorem after_append (ds es : List Endpoint) : after (ds ++ es) = ((after ds).registerAll es).2 :=
  registerAll_append empty ds es

theorem after_singleton (es : List Endpoint) (e : Endpoint) :
    after (es ++ [e]) = ((after es).register e).2 := by
  rw [after_append, registerAll_snd]
  rfl

theorem onePerKey_after (es : List Endpoint) : (after es).OnePerKey :=
  registerAll_induct (R := OnePerKey) .nil fun _ h e _ => h.register e

theorem resolve?_after (es : List Endpoint) (method path : String) :
    (after es).resolve? method path = es.find? (·.answers method path) :=
  resolve?_registerAll empty es

theorem register_fst (r : Registry) (e : Endpoint) :
    (r.register e).1 = true ↔ ∀ d ∈ r.endpoints, ¬d.SameKey e := by
  have hthere := resolve?_isSome_iff (r := r) (e := e)
  unfold register
  split
  · next h =>
    obtain ⟨d, hd, hkey⟩ := hthere.mp h
    exact iff_of_false Bool.false_ne_true fun hnone => hnone d hd hkey
  · next h => exact iff_of_true rfl fun d hd hkey => h (hthere.mpr ⟨d, hd, hkey⟩)

theorem size_register (r : Registry) (e : Endpoint) :
    (r.register e).2.size = r.size + if (r.register e).1 then 1 else 0 := by
  unfold register
  split
  · rfl
  · exact List.length_append

theorem size_registerAll (r : Registry) (es : List Endpoint) :
    (r.registerAll es).2.size = r.size + (r.replies es).count true := by
  induction es generalizing r with
  | nil => rfl
  | cons e es ih =>
    rw [registerAll_cons, ih, size_register, replies, List.count_cons]
    simp only [beq_iff_eq]
    omega

theorem registerAll_fst (r : Registry) (es : List Endpoint) :
    (r.registerAll es).1 = (r.replies es).count true := by
  -- the fold starts with what was counted before
  suffices hcount : ∀ n, (es.foldl (fun p e =>
      (if (p.2.register e).1 then p.1 + 1 else p.1, (p.2.register e).2)) (n, r)).1 =
      n + (r.replies es).count true by
    exact (hcount 0).trans (Nat.zero_add _)
  induction es generalizing r with
  | nil => exact fun n => rfl
  | cons e es ih =>
    intro n
    rw [List.foldl_cons, ih, replies, List.count_cons]
    cases (r.register e).1 with
    | true => exact Nat.add_right_comm n 1 _
    | false => rfl

/-- Where every key is taken nothing is added. -/
theorem registerAll_of_isSome (h : ∀ e ∈ es, (r.resolve? e.method e.path).isSome) :
    r.registerAll es = (0, r) := by
  have hstep {e : Endpoint} (he : e ∈ es) : r.register e = (false, r) := if_pos (h e he)
  have hfixed : (r.registerAll es).2 = r :=
    registerAll_induct (R := (· = r)) rfl fun s hs e he => by rw [hs, hstep he]
  have hsize := size_registerAll r es
  rw [hfixed, ← registerAll_fst] at hsize
  exact Prod.ext (by omega) hfixed

/-- Came with a key that nothing had before it. -/
def Kept (es : List Endpoint) (e : Endpoint) : Prop :=
  ∃ past rest, es = past ++ e :: rest ∧ ∀ d ∈ past, ¬d.SameKey e

theorem mem_after (es : List Endpoint) (e : Endpoint) : e ∈ (after es).endpoints ↔ Kept es e := by
  rw [(onePerKey_after es).mem_iff, resolve?_after, List.find?_eq_some_iff_append,
    and_iff_right (answers_self e)]
  simp only [Bool.not_eq_true', ← Bool.not_eq_true, answers_iff]
  rfl

/-- Every key that came with a registration came with one that is kept. -/
theorem exists_kept_iff : (∃ d, Kept es d ∧ d.SameKey e) ↔ ∃ d ∈ es, d.SameKey e := by
  constructor
  · rintro ⟨d, ⟨past, rest, rfl, -⟩, hkey⟩
    exact ⟨d, by simp, hkey⟩
  · rintro ⟨d, hd, hkey⟩
    obtain ⟨d', hd'⟩ := Option.isSome_iff_exists.mp (resolve?_registerAll_isSome empty hd)
    have hkey' := answers_of_resolve? hd'
    exact ⟨d', (mem_after es d').mp (mem_of_resolve? hd'), hkey'.1.trans hkey.1, hkey'.2.trans hkey.2⟩

/-! ## Listings -/

theorem mem_listing (r : Registry) (e : Endpoint) : e ∈ r.listing ↔ e ∈ r.endpoints :=
  List.mem_mergeSort

theorem OnePerKey.listing (h : r.OnePerKey) : r.listing.Pairwise Precedes := by
  have hkeys : r.listing.Pairwise fun a b => ¬a.SameKey b :=
    ((List.mergeSort_perm r.endpoints Endpoint.before).pairwise_iff fun h hkey => h hkey.symm).mpr h
  have hsorted : r.listing.Pairwise fun a b => a.before b = true :=
    List.pairwise_mergeSort Endpoint.before_trans Endpoint.before_total r.endpoints
  exact hsorted.imp₂ (fun a b => Endpoint.precedes_of_before) hkeys

/-- What stands in order is determined by its members. -/
theorem eq_of_precedes {ds : List Endpoint} (hds : ds.Pairwise Precedes) (hes : es.Pairwise Precedes)
    (h : ∀ e, e ∈ ds ↔ e ∈ es) : ds = es := by
  have hnodup {l : List Endpoint} (hl : l.Pairwise Precedes) : l.Nodup := by
    refine hl.imp ?_
    rintro a b hab rfl
    exact hab.asymm hab
  have hperm : ds.Perm es := (List.perm_ext_iff_of_nodup (hnodup hds) (hnodup hes)).mpr h
  exact hperm.eq_of_pairwise (fun a b _ _ hab hba => absurd hba hab.asymm) hds hes

theorem nodup_eraseDups (names : List String) : names.eraseDups.Nodup := by
  cases names with
  | nil => exact .nil
  | cons name rest =>
    rw [List.eraseDups_cons, List.nodup_cons, List.mem_eraseDups]
    exact ⟨by simp, nodup_eraseDups (rest.filter fun n => !n == name)⟩
termination_by names.length
decreasing_by
  have hlength := List.length_filter_le (fun n => !n == name) rest
  simp only [List.length_cons]
  omega

theorem tables_increasing (r : Registry) : r.tables.Pairwise (· < ·) := by
  have hnodup : r.tables.Nodup :=
    (List.mergeSort_perm _ _).nodup_iff.mpr (nodup_eraseDups (r.endpoints.filterMap (·.table)))
  have hsorted : r.tables.Pairwise (· ≤ ·) := List.pairwise_mergeSort' (· ≤ ·) _
  exact hsorted.imp₂ (fun _ _ => lt_of_le_of_ne) hnodup

/-! ## First come, first kept -/

/-- What a history of registrations leads to. -/
structure FirstWins (es : List Endpoint) : Prop where
  /-- A further registration succeeds just where its key is new, -/
  answer : ∀ e, ((after es).register e).1 = true ↔ ∀ d ∈ es, ¬d.SameKey e
  /-- and leads to what the longer history leads to. -/
  next : ∀ e, ((after es).register e).2 = after (es ++ [e])
  /-- A key resolves to the first endpoint that came with it, -/
  first : ∀ method path, (after es).resolve? method path = es.find? (·.answers method path)
  /-- and goes on doing so. -/
  stays : ∀ method path e more, (after es).resolve? method path = some e →
    (after (es ++ more)).resolve? method path = some e
  /-- There are as many endpoints as registrations succeeded. -/
  size : (after es).size = (empty.replies es).count true
  /-- The listing has the endpoints that were kept, -/
  listed : ∀ e, e ∈ (after es).listing ↔ Kept es e
  /-- each once and in order, -/
  ordered : (after es).listing.Pairwise Precedes
  /-- and is the only list that has. -/
  unique : ∀ l : List Endpoint, l.Pairwise Precedes → (∀ e, e ∈ l ↔ Kept es e) →
    l = (after es).listing
  /-- The tables are those of the endpoints that were kept, each once and in order. -/
  tables : ∀ t, t ∈ (after es).tables ↔ ∃ e, Kept es e ∧ e.table = some t
  increasing : (after es).tables.Pairwise (· < ·)

theorem firstWins_after (es : List Endpoint) : FirstWins es := by
  have hkeys := onePerKey_after es
  have hlisted (e : Endpoint) : e ∈ (after es).listing ↔ Kept es e := by rw [mem_listing, mem_after]
  constructor
  case answer =>
    intro e
    rw [register_fst]
    constructor
    · intro hnone d hd hkey
      obtain ⟨d', hd', hkey'⟩ := exists_kept_iff.mpr ⟨d, hd, hkey⟩
      exact hnone d' ((mem_after es d').mpr hd') hkey'
    · intro hnone d hd hkey
      obtain ⟨d', hd', hkey'⟩ := exists_kept_iff.mp ⟨d, (mem_after es d).mp hd, hkey⟩
      exact hnone d' hd' hkey'
  case next => exact fun e => (after_singleton es e).symm
  case first => exact resolve?_after es
  case stays =>
    intro method path e more h
    rw [after_append]
    exact resolve?_registerAll_of_some more h
  case size => rw [after, size_registerAll]; exact Nat.zero_add _
  case listed => exact hlisted
  case ordered => exact hkeys.listing
  case unique =>
    intro l hl hmem
    exact eq_of_precedes hl hkeys.listing fun e => (hmem e).trans (hlisted e).symm
  case tables =>
    intro t
    simp only [mem_tables, mem_after]
  case increasing => exact tables_increasing _

/-- The second registration of a key fails, whatever else comes with it. -/
example : empty.replies [.ofTable "users" .list, ⟨"/users", "GET", "", .query, none⟩,
    .ofTable "users" .create] = [true, false, true] := by decide

end Registry

end SchemaRest
