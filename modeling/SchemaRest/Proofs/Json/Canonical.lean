import Mathlib.Data.List.Induction
import Mathlib.Data.String.Basic
import SchemaRest.Json.Reader
import SchemaRest.Proofs.Json.Fields

/-!
# Values in canonical form

The map of a list of pairs has their keys in increasing order, so the order in which the fields of an
object stand is lost when the object becomes a map. `readWritten?` reads a text without that last step;
`read?` is what is left of its value in canonical form.
-/

namespace SchemaRest

namespace Fields

/-- The keys stand in increasing order, each once. -/
def Sorted (m : Fields) : Prop := (keys m).Pairwise (· < ·)

variable {m pairs : Fields} {key : String} {value : Json}

theorem mem_keys_insert {k : String} : k ∈ keys (insert key value m) ↔ k = key ∨ k ∈ keys m := by
  induction m with
  | nil => simp [insert, keys]
  | cons p m ih =>
    obtain ⟨l, v⟩ := p
    unfold insert
    split
    · simp [keys]
    split
    · next heq =>
      subst heq
      simp [keys]
    · simp only [keys, List.map_cons, List.mem_cons] at ih ⊢
      rw [ih]
      tauto

theorem sorted_insert (h : Sorted m) : Sorted (insert key value m) := by
  induction m with
  | nil => exact List.pairwise_singleton _ _
  | cons p m ih =>
    obtain ⟨k, v⟩ := p
    obtain ⟨hk, hm⟩ := List.pairwise_cons.mp h
    unfold insert
    split
    · next hlt =>
      refine List.pairwise_cons.mpr ⟨List.forall_mem_cons.mpr ⟨hlt, fun l hl => ?_⟩, h⟩
      exact lt_trans hlt (hk l hl)
    split
    · next heq =>
      subst heq
      exact h
    · next hlt hne =>
      have hkey : k < key := lt_of_le_of_ne (not_lt.mp hlt) hne
      refine List.pairwise_cons.mpr ⟨fun l hl => ?_, ih hm⟩
      rcases mem_keys_insert.mp hl with rfl | hl
      · exact hkey
      · exact hk l hl

theorem sorted_ofList (pairs : Fields) : Sorted (ofList pairs) :=
  List.foldlRecOn (motive := Sorted) pairs _ .nil fun _ hm _ _ => sorted_insert hm

theorem ofList_append_singleton (pairs : Fields) (p : String × Json) :
    ofList (pairs ++ [p]) = insert p.1 p.2 (ofList pairs) := by
  rw [ofList, List.foldl_append]
  rfl

theorem mem_keys_ofList {k : String} : k ∈ keys (ofList pairs) ↔ k ∈ keys pairs := by
  induction pairs using List.reverseRecOn with
  | nil => rfl
  | append_singleton pairs p ih =>
    rw [ofList_append_singleton, mem_keys_insert, ih]
    simp [keys, or_comm]

/-- A key after all others comes last. -/
theorem insert_last (h : ∀ k ∈ keys m, k < key) : insert key value m = m ++ [(key, value)] := by
  induction m with
  | nil => rfl
  | cons p m ih =>
    obtain ⟨k, v⟩ := p
    obtain ⟨hk, hm⟩ := List.forall_mem_cons.mp h
    rw [insert, if_neg (lt_asymm hk), if_neg (ne_of_lt hk), ih hm]
    rfl

theorem ofList_of_sorted (h : Sorted pairs) : ofList pairs = pairs := by
  induction pairs using List.reverseRecOn with
  | nil => rfl
  | append_singleton pairs p ih =>
    rw [Sorted, keys, List.map_append, List.pairwise_append] at h
    obtain ⟨hpairs, -, hlast⟩ := h
    rw [ofList_append_singleton, ih hpairs]
    exact insert_last fun k hk => hlast k hk p.1 (List.mem_singleton_self _)

/-- The map keeps the order of the keys just where they stood in increasing order. -/
theorem keys_ofList_eq_iff : keys (ofList pairs) = keys pairs ↔ Sorted pairs := by
  constructor
  · intro h
    rw [Sorted, ← h]
    exact sorted_ofList pairs
  · intro h
    rw [ofList_of_sorted h]

theorem Sorted.nodup (h : Sorted m) : (keys m).Nodup := h.imp ne_of_lt

/-- Of the pairs with a key the last is found. -/
theorem get?_ofList_reverse (pairs : Fields) : get? key (ofList pairs) = get? key pairs.reverse := by
  induction pairs using List.reverseRecOn with
  | nil => rfl
  | append_singleton pairs p ih =>
    rw [ofList_append_singleton, List.reverse_append]
    by_cases hkey : key = p.1
    · subst hkey
      rw [get?_insert_same]
      exact (if_pos rfl).symm
    · rw [get?_insert_other hkey, ih]
      exact (if_neg (Ne.symm hkey)).symm

end Fields

namespace Json

/-! ## Canonical form -/

theorem canonicalItems_eq (done items : List Json) :
    canonicalItems done items = done.reverse ++ items.map canonical := by
  induction items generalizing done with
  | nil => simp [canonicalItems]
  | cons v items ih => simp [canonicalItems, ih]

theorem canonicalFields_eq (done fields : Fields) : canonicalFields done fields =
    (Fields.mapValues canonical fields).foldl (fun m p => Fields.insert p.1 p.2 m) done := by
  induction fields generalizing done with
  | nil => rfl
  | cons p fields ih =>
    obtain ⟨k, v⟩ := p
    rw [canonicalFields, ih]
    rfl

theorem canonical_arr (items : List Json) : canonical (.arr items) = .arr (items.map canonical) := by
  rw [canonical, canonicalItems_eq]
  rfl

theorem canonical_obj (fields : Fields) :
    canonical (.obj fields) = .obj (Fields.ofList (Fields.mapValues canonical fields)) := by
  rw [canonical, canonicalFields_eq]
  rfl

mutual

@[simp] theorem canonical_canonical : ∀ v : Json, v.canonical.canonical = v.canonical
  | .null | .bool _ | .num _ | .str _ => by simp only [canonical]
  | .arr items => by rw [canonical_arr, canonical_arr, canonical_items items]
  | .obj fields => by
    rw [canonical_obj, canonical_obj, ← Fields.ofList_mapValues, canonical_fields fields,
      Fields.ofList_of_sorted (Fields.sorted_ofList _)]

theorem canonical_items : ∀ items : List Json,
    (items.map canonical).map canonical = items.map canonical
  | [] => rfl
  | v :: items => by
    rw [List.map_cons, List.map_cons, canonical_canonical v, canonical_items items]

theorem canonical_fields : ∀ fields : Fields,
    Fields.mapValues canonical (Fields.mapValues canonical fields) = Fields.mapValues canonical fields
  | [] => rfl
  | (k, v) :: fields => by
    have hrest := canonical_fields fields
    simp only [Fields.mapValues, List.map_cons] at hrest ⊢
    rw [canonical_canonical v, hrest]

end

/-! ## Inside a value in canonical form -/

theorem sorted_of_canonical {fields : Fields} (h : (obj fields).canonical = .obj fields) :
    Fields.Sorted fields := by
  rw [canonical_obj] at h
  rw [← Json.obj.inj h]
  exact Fields.sorted_ofList _

theorem canonical_field {fields : Fields} (h : (obj fields).canonical = .obj fields) {key : String}
    {v : Json} (hv : Fields.get? key fields = some v) : v.canonical = v := by
  rw [canonical_obj] at h
  rw [← Json.obj.inj h] at hv
  obtain ⟨p, -, hp⟩ := List.mem_map.mp (Fields.mem_ofList (Fields.mem_of_get? hv))
  cases hp
  exact canonical_canonical p.2

theorem canonical_item {items : List Json} (h : (arr items).canonical = .arr items) {v : Json}
    (hv : v ∈ items) : v.canonical = v := by
  rw [canonical_arr] at h
  rw [← Json.arr.inj h] at hv
  obtain ⟨w, -, rfl⟩ := List.mem_map.mp hv
  exact canonical_canonical w

/-! ## Texts with their fields as they stand -/

/-- Reads a text whose embedded texts lie less than `depth` deep inside one another. -/
def readKept : (depth : Nat) → String → Option Json
  | 0, _ => none
  | depth + 1, s => do
    let v ← readOutlined? .whole s
    (Embedded.resolve (readKept depth) v).toOption

/-- The value of a text, embedded texts replaced and the fields of objects in the order they are written
in. -/
def readWritten? (s : String) : Option Json := readKept (s.length + 1) s

section

variable {read read' : String → Option Json}

mutual

/-- Whether embedded texts are brought into canonical form does not show in the canonical form. -/
theorem canonical_resolve (hread : ∀ s, read' s = (read s).map canonical) : ∀ v : Json,
    (Embedded.resolve read' v).toOption.map canonical = (Embedded.resolve read v).toOption.map canonical
  | .null | .bool _ | .num _ | .str _ | .obj [] => by simp only [Embedded.resolve]
  | .arr items => by
    have hitems := canonical_resolveItems hread [] [] rfl items
    rw [Embedded.resolve, Embedded.resolve]
    cases h : Embedded.resolveItems read [] items <;>
      cases h' : Embedded.resolveItems read' [] items <;> rw [h, h'] at hitems
    · rfl
    · cases hitems
    · cases hitems
    · refine congrArg some ?_
      rw [canonical_arr, canonical_arr]
      exact congrArg Json.arr (Option.some.inj hitems)
  | .obj ((key, v) :: rest) => by
    have hfields := canonical_resolveFields hread [] [] rfl ((key, v) :: rest)
    unfold Embedded.resolve
    split
    · split
      · next text =>
        rw [hread]
        cases read text with
        | none => rfl
        | some value =>
          dsimp only [Option.map_some]
          split
          · exact congrArg some (canonical_canonical value)
          · rfl
      · rfl
    · cases h : Embedded.resolveFields read [] ((key, v) :: rest) <;>
        cases h' : Embedded.resolveFields read' [] ((key, v) :: rest) <;> rw [h, h'] at hfields
      · rfl
      · cases hfields
      · cases hfields
      · refine congrArg some ?_
        rw [canonical_obj, canonical_obj]
        exact congrArg (fun fields => Json.obj (Fields.ofList fields)) (Option.some.inj hfields)

theorem canonical_resolveItems (hread : ∀ s, read' s = (read s).map canonical)
    (done done' : List Json) (hdone : done'.map canonical = done.map canonical) : ∀ items : List Json,
      (Embedded.resolveItems read' done' items).toOption.map (List.map canonical) =
        (Embedded.resolveItems read done items).toOption.map (List.map canonical)
  | [] => by
    refine congrArg some ?_
    rw [List.map_reverse, List.map_reverse, hdone]
  | v :: rest => by
    have hv := canonical_resolve hread v
    rw [Embedded.resolveItems, Embedded.resolveItems]
    cases h : Embedded.resolve read v <;> cases h' : Embedded.resolve read' v <;> rw [h, h'] at hv
    · rfl
    · cases hv
    · cases hv
    · refine canonical_resolveItems hread _ _ ?_ rest
      rw [List.map_cons, List.map_cons, hdone, Option.some.inj hv]

theorem canonical_resolveFields (hread : ∀ s, read' s = (read s).map canonical) (done done' : Fields)
    (hdone : Fields.mapValues canonical done' = Fields.mapValues canonical done) :
    ∀ fields : Fields,
      (Embedded.resolveFields read' done' fields).toOption.map (Fields.mapValues canonical) =
        (Embedded.resolveFields read done fields).toOption.map (Fields.mapValues canonical)
  | [] => by
    refine congrArg some ?_
    rw [Fields.mapValues, Fields.mapValues, List.map_reverse, List.map_reverse]
    exact congrArg List.reverse hdone
  | (key, v) :: rest => by
    have hv := canonical_resolve hread v
    rw [Embedded.resolveFields, Embedded.resolveFields]
    cases h : Embedded.resolve read v <;> cases h' : Embedded.resolve read' v <;> rw [h, h'] at hv
    · rfl
    · cases hv
    · cases hv
    · refine canonical_resolveFields hread _ _ ?_ rest
      exact congrArg₂ (fun v fields => (key, v) :: fields) (Option.some.inj hv) hdone

end

end

theorem readEmbedding_eq (depth : Nat) (s : String) :
    readEmbedding depth s = (readKept depth s).map canonical := by
  induction depth generalizing s with
  | zero => rfl
  | succ depth ih =>
    rw [readEmbedding, readKept]
    cases readOutlined? .whole s with
    | none => rfl
    | some v =>
      have h := canonical_resolve ih v
      simpa [Option.bind_eq_bind, Option.map_eq_bind, Function.comp_def] using h

/-- Reading a text gives the canonical form of what is written. -/
theorem read?_eq (s : String) : read? s = (readWritten? s).map canonical := readEmbedding_eq _ s

end Json

end SchemaRest
