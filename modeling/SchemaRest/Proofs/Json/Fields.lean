import Mathlib.Data.List.Nodup
import SchemaRest.Json.Basic

/-!
# The map of a list of pairs

What can be found in `Fields.ofList`: nothing but the pairs, and something under every key.
-/

namespace SchemaRest.Fields

variable {pairs m : Fields} {key : String} {value : Json}

theorem mem_insert {p : String × Json} (h : p ∈ insert key value m) : p = (key, value) ∨ p ∈ m := by
  induction m with
  | nil => exact .inl (List.mem_singleton.mp h)
  | cons q m ih =>
    obtain ⟨k, v⟩ := q
    unfold insert at h
    split at h
    · exact List.mem_cons.mp h
    split at h
    · rcases List.mem_cons.mp h with h | h
      · exact .inl h
      · exact .inr (List.mem_cons_of_mem _ h)
    · rcases List.mem_cons.mp h with rfl | h
      · exact .inr List.mem_cons_self
      · exact (ih h).imp_right (List.mem_cons_of_mem _)

theorem mem_ofList {p : String × Json} (h : p ∈ ofList pairs) : p ∈ pairs := by
  have hkeeps : ∀ q ∈ pairs.foldl (fun m p => insert p.1 p.2 m) [], q ∈ pairs :=
    List.foldlRecOn (motive := fun m => ∀ q ∈ m, q ∈ pairs) pairs _ (List.forall_mem_nil _)
      fun m hm q hq r hr => by
        rcases mem_insert hr with rfl | hr
        · exact hq
        · exact hm r hr
  exact hkeeps p h

theorem mem_of_get? (h : get? key m = some value) : (key, value) ∈ m := by
  induction m with
  | nil => cases h
  | cons p m ih =>
    obtain ⟨k, v⟩ := p
    unfold get? at h
    split at h
    · next hk =>
      cases hk
      cases h
      exact List.mem_cons_self
    · exact List.mem_cons_of_mem _ (ih h)

theorem get?_eq_none_iff : get? key m = none ↔ key ∉ keys m := by
  induction m with
  | nil => exact iff_of_true rfl List.not_mem_nil
  | cons p m ih =>
    obtain ⟨k, v⟩ := p
    have hkeys : key ∉ keys ((k, v) :: m) ↔ key ≠ k ∧ key ∉ keys m := by
      rw [keys, List.map_cons, List.mem_cons, not_or, keys]
    rw [hkeys, get?]
    split
    · next heq => exact iff_of_false (Option.some_ne_none v) fun h => h.1 heq.symm
    · next hne => rw [ih, and_iff_right (Ne.symm hne)]

theorem mem_keys_iff : key ∈ keys m ↔ (get? key m).isSome := by
  rw [Option.isSome_iff_ne_none, ne_eq, get?_eq_none_iff, not_not]

theorem get?_of_mem (hkeys : (keys m).Nodup) (h : (key, value) ∈ m) : get? key m = some value := by
  induction m with
  | nil => cases h
  | cons p m ih =>
    obtain ⟨k, v⟩ := p
    obtain ⟨hk, hm⟩ := List.nodup_cons.mp hkeys
    rcases List.mem_cons.mp h with heq | h
    · cases heq
      exact if_pos rfl
    · have hne : k ≠ key := by
        rintro rfl
        exact hk (List.mem_map.mpr ⟨(k, value), h, rfl⟩)
      exact (if_neg hne).trans (ih hm h)

theorem get?_insert_isSome (other : String) (h : (get? key m).isSome) :
    (get? key (insert other value m)).isSome := by
  by_cases hkey : key = other
  · subst hkey
    rw [get?_insert_same]
    rfl
  · rw [get?_insert_other hkey]
    exact h

theorem get?_foldl_isSome (pairs : Fields) (h : (get? key m).isSome ∨ key ∈ pairs.map (·.1)) :
    (get? key (pairs.foldl (fun m p => insert p.1 p.2 m) m)).isSome := by
  induction pairs generalizing m with
  | nil => simpa using h
  | cons p pairs ih =>
    refine ih ?_
    rcases h with h | h
    · exact .inl (get?_insert_isSome p.1 h)
    · rcases List.mem_cons.mp h with rfl | h
      · refine .inl ?_
        rw [get?_insert_same]
        rfl
      · exact .inr h

/-- Where all pairs of a key agree it does not matter which of them counts. -/
theorem get?_ofList (hmem : (key, value) ∈ pairs) (h : ∀ v, (key, v) ∈ pairs → v = value) :
    get? key (ofList pairs) = some value := by
  have hkey : key ∈ pairs.map (·.1) := List.mem_map.mpr ⟨(key, value), hmem, rfl⟩
  obtain ⟨v, hv⟩ := Option.isSome_iff_exists.mp (get?_foldl_isSome pairs (m := []) (.inr hkey))
  rw [ofList, hv, h v (mem_ofList (mem_of_get? hv))]

/-- A list inserted into a map counts before what was there. -/
theorem get?_foldl_insert (pairs m : Fields) :
    get? key (pairs.foldl (fun m p => insert p.1 p.2 m) m) =
      (get? key (ofList pairs)).or (get? key m) := by
  induction pairs generalizing m with
  | nil => rfl
  | cons p pairs ih =>
    have hcons : get? key (ofList (p :: pairs)) =
        (get? key (ofList pairs)).or (get? key (insert p.1 p.2 [])) := ih _
    rw [List.foldl_cons, ih, hcons]
    by_cases hkey : key = p.1
    · subst hkey
      rw [get?_insert_same, get?_insert_same, Option.or_assoc, Option.some_or]
    · rw [get?_insert_other hkey, get?_insert_other hkey, get?_nil, Option.or_none]

/-- Of two lists the later counts, where it has the key. -/
theorem get?_ofList_append (before after : Fields) :
    get? key (ofList (before ++ after)) =
      (get? key (ofList after)).or (get? key (ofList before)) := by
  rw [ofList, List.foldl_append, get?_foldl_insert]
  rfl

/-- A pair is found where no later one has its key. -/
theorem get?_ofList_last {before after : Fields} (h : ∀ p ∈ after, p.1 ≠ key) :
    get? key (ofList (before ++ (key, value) :: after)) = some value := by
  have hlast : get? key (ofList ((key, value) :: after)) = some value := by
    refine get?_ofList List.mem_cons_self fun v hv => ?_
    rcases List.mem_cons.mp hv with hv | hv
    · exact congrArg Prod.snd hv
    · exact absurd rfl (h _ hv)
  rw [get?_ofList_append, hlast, Option.some_or]

/-- A pair with a value of its own is found just where no later one has its key. -/
theorem get?_ofList_eq_iff {before after : Fields} (h : ∀ v, (key, v) ∈ after → v ≠ value) :
    get? key (ofList (before ++ (key, value) :: after)) = some value ↔ ∀ p ∈ after, p.1 ≠ key := by
  refine ⟨fun hget p hp hkey => ?_, get?_ofList_last⟩
  have hmem : key ∈ after.map (·.1) := hkey ▸ List.mem_map_of_mem hp
  obtain ⟨v, hv⟩ := Option.isSome_iff_exists.mp (get?_foldl_isSome after (m := []) (.inr hmem))
  have hlater : get? key (ofList after) = some v := hv
  rw [List.append_cons, get?_ofList_append, hlater, Option.some_or] at hget
  exact h v (mem_ofList (mem_of_get? hlater)) (Option.some.inj hget)

/-- Where the keys differ the map holds all pairs. -/
theorem mem_ofList_iff (h : (pairs.map (·.1)).Nodup) {p : String × Json} :
    p ∈ ofList pairs ↔ p ∈ pairs := by
  refine ⟨mem_ofList, fun hp => mem_of_get? (get?_ofList hp fun v hv => ?_)⟩
  exact congrArg Prod.snd (List.inj_on_of_nodup_map h hv hp rfl)

/-! ## Other values under the same keys -/

/-- The same keys with other values. -/
def mapValues (f : Json → Json) (m : Fields) : Fields := m.map fun p => (p.1, f p.2)

theorem keys_mapValues (f : Json → Json) (m : Fields) : keys (mapValues f m) = keys m := by
  rw [keys, mapValues, List.map_map]
  rfl

theorem get?_mapValues (f : Json → Json) (key : String) (m : Fields) :
    get? key (mapValues f m) = (get? key m).map f := by
  induction m with
  | nil => rfl
  | cons p m ih =>
    obtain ⟨k, v⟩ := p
    change (if k = key then _ else get? key (mapValues f m)) = Option.map f (if k = key then _ else _)
    rw [ih]
    split <;> rfl

theorem insert_mapValues (f : Json → Json) (key : String) (value : Json) (m : Fields) :
    insert key (f value) (mapValues f m) = mapValues f (insert key value m) := by
  induction m with
  | nil => rfl
  | cons p m ih =>
    obtain ⟨k, v⟩ := p
    change (if key < k then _ else if k = key then _ else (k, f v) :: insert key (f value) (mapValues f m)) =
      mapValues f (if key < k then _ else if k = key then _ else _)
    rw [ih]
    split
    · rfl
    · split <;> rfl

theorem ofList_mapValues (f : Json → Json) (pairs : Fields) :
    ofList (mapValues f pairs) = mapValues f (ofList pairs) := by
  have hfold (m : Fields) : (mapValues f pairs).foldl (fun m p => insert p.1 p.2 m) (mapValues f m) =
      mapValues f (pairs.foldl (fun m p => insert p.1 p.2 m) m) := by
    induction pairs generalizing m with
    | nil => rfl
    | cons p pairs ih =>
      rw [List.foldl_cons, ← ih, ← insert_mapValues]
      rfl
  exact hfold []

/-- One value under all keys. -/
theorem mapValues_const (value : Json) (m : Fields) :
    mapValues (fun _ => value) m = (keys m).map fun k => (k, value) := by
  rw [keys, List.map_map]
  rfl

/-- Two maps have the same keys where they are the same without their values. -/
theorem mapValues_eq_iff {value : Json} {m n : Fields} :
    mapValues (fun _ => value) m = mapValues (fun _ => value) n ↔ keys m = keys n := by
  rw [mapValues_const, mapValues_const]
  exact (List.map_injective_iff.mpr fun k l h => congrArg Prod.fst h).eq_iff

/-- The keys of a map are known from those of the pairs. -/
theorem keys_ofList {pairs others : Fields} (h : keys pairs = keys others) :
    keys (ofList pairs) = keys (ofList others) := by
  have hpairs : mapValues (fun _ => .null) pairs = mapValues (fun _ => .null) others :=
    mapValues_eq_iff.mpr h
  have hblank := congrArg ofList hpairs
  rw [ofList_mapValues, ofList_mapValues] at hblank
  exact mapValues_eq_iff.mp hblank

end SchemaRest.Fields
