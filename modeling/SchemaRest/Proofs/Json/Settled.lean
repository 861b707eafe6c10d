import SchemaRest.Proofs.Json.Canonical
import SchemaRest.Proofs.Json.Records

/-!
# Values that are read

Reading a text replaces the embedded texts in it. What comes out may have the mark among other keys, but no
object in it is an embedded text again: reading such a value once more leaves its objects objects.
-/

namespace SchemaRest.Json

/-- No object inside a value has the mark for its only key. -/
inductive Settled : Json → Prop
  | null : Settled .null
  | bool (b : Bool) : Settled (.bool b)
  | num (n : Number) : Settled (.num n)
  | str (text : String) : Settled (.str text)
  | arr {items : List Json} (h : ∀ v ∈ items, Settled v) : Settled (.arr items)
  | obj {fields : Fields} (hkey : fields ≠ [] → ∃ key ∈ Fields.keys fields, key ≠ Embedded.mark)
      (h : ∀ p ∈ fields, Settled p.2) : Settled (.obj fields)

theorem Settled.canonical {v : Json} (h : Settled v) : Settled v.canonical := by
  induction h with
  | null => exact .null
  | bool b => exact .bool b
  | num n => exact .num n
  | str text => exact .str text
  | arr h ih =>
    rw [canonical_arr]
    refine .arr fun v hv => ?_
    obtain ⟨w, hw, rfl⟩ := List.mem_map.mp hv
    exact ih w hw
  | @obj fields hkey h ih =>
    rw [canonical_obj]
    refine .obj (fun hne => ?_) fun p hp => ?_
    · have hfields : fields ≠ [] := by
        rintro rfl
        exact hne rfl
      obtain ⟨key, hmem, hmark⟩ := hkey hfields
      refine ⟨key, ?_, hmark⟩
      rwa [Fields.mem_keys_ofList, Fields.keys_mapValues]
    · obtain ⟨q, hq, rfl⟩ := List.mem_map.mp (Fields.mem_ofList hp)
      exact ih q hq

/-! ## Replacing embedded texts -/

theorem Embedded.keys_resolveFields {read : String → Option Json} {done fields out : Fields}
    (h : resolveFields read done fields = .ok out) :
    Fields.keys out = Fields.keys (done.reverse ++ fields) := by
  induction fields generalizing done with
  | nil =>
    cases h
    simp
  | cons p fields ih =>
    obtain ⟨key, v⟩ := p
    unfold resolveFields at h
    split at h
    · cases h
    · rw [ih h]
      simp [Fields.keys]

section

variable {read : String → Option Json}

mutual

/-- What comes of replacing embedded texts is settled where the values read in their place are. -/
theorem settled_resolve (hread : ∀ s w, read s = some w → Settled w) : ∀ v w : Json,
    Embedded.resolve read v = .ok w → Settled w
  | .null, _, h => by
    cases h
    exact .null
  | .bool b, _, h => by
    cases h
    exact .bool b
  | .num n, _, h => by
    cases h
    exact .num n
  | .str s, _, h => by
    cases h
    exact .str s
  | .obj [], _, h => by
    cases h
    exact .obj (absurd rfl) (List.forall_mem_nil _)
  | .arr items, _, h => by
    obtain ⟨out, hout, rfl⟩ := map_eq_ok h
    exact .arr (settled_resolveItems hread items [] out (List.forall_mem_nil _) hout)
  | .obj ((key, v) :: rest), w, h => by
    unfold Embedded.resolve at h
    split at h
    · split at h
      · split at h
        · cases h
        · next value hvalue =>
          split at h
          · cases h
            exact hread _ _ hvalue
          · cases h
      · cases h
    · next hkey =>
      obtain ⟨out, hout, rfl⟩ := map_eq_ok h
      refine .obj (fun _ => ⟨key, ?_, hkey⟩)
        (settled_resolveFields hread ((key, v) :: rest) [] out (List.forall_mem_nil _) hout)
      rw [Embedded.keys_resolveFields hout]
      exact List.mem_cons_self

theorem settled_resolveItems (hread : ∀ s w, read s = some w → Settled w) :
    ∀ items done out : List Json, (∀ v ∈ done, Settled v) →
      Embedded.resolveItems read done items = .ok out → ∀ v ∈ out, Settled v
  | [], done, _, hdone, h => by
    cases h
    exact fun v hv => hdone v (List.mem_reverse.mp hv)
  | v :: rest, done, out, hdone, h => by
    unfold Embedded.resolveItems at h
    split at h
    · cases h
    · next w hw =>
      exact settled_resolveItems hread rest (w :: done) out
        (List.forall_mem_cons.mpr ⟨settled_resolve hread v w hw, hdone⟩) h

theorem settled_resolveFields (hread : ∀ s w, read s = some w → Settled w) :
    ∀ fields done out : Fields, (∀ p ∈ done, Settled p.2) →
      Embedded.resolveFields read done fields = .ok out → ∀ p ∈ out, Settled p.2
  | [], done, _, hdone, h => by
    cases h
    exact fun p hp => hdone p (List.mem_reverse.mp hp)
  | (key, v) :: rest, done, out, hdone, h => by
    unfold Embedded.resolveFields at h
    split at h
    · cases h
    · next w hw =>
      exact settled_resolveFields hread rest ((key, w) :: done) out
        (List.forall_mem_cons.mpr ⟨settled_resolve hread v w hw, hdone⟩) h

end

end

theorem settled_of_readEmbedding {depth : Nat} {s : String} {v : Json} (h : readEmbedding depth s = some v) :
    Settled v := by
  induction depth generalizing s v with
  | zero => cases h
  | succ depth ih =>
    simp only [readEmbedding, Option.bind_eq_bind, Option.bind_eq_some_iff] at h
    obtain ⟨written, -, w, hw, hv⟩ := h
    cases hv
    have hresolved : Embedded.resolve (readEmbedding depth) written = .ok w := by
      cases hr : Embedded.resolve (readEmbedding depth) written with
      | error e =>
        rw [hr] at hw
        cases hw
      | ok x =>
        rw [hr] at hw
        cases hw
        rfl
    exact (settled_resolve (fun s v h => ih h) written w hresolved).canonical

/-- A value that is read from a text is settled. -/
theorem settled_of_read? {s : String} {v : Json} (h : read? s = some v) : Settled v :=
  settled_of_readEmbedding h

/-! ## Reading once more -/

/-- An object in a settled value stays one, if it can be read at all. -/
theorem Settled.anything_obj {fields : Fields} (h : Settled (.obj fields)) {w : Json}
    (hw : Decode.anything (.obj fields) = .ok w) : ∃ out, w = .obj out := by
  cases h with
  | obj hkey _ =>
    unfold Decode.anything at hw
    split at hw
    · next x hx =>
      cases hw
      cases fields with
      | nil =>
        cases hx
        exact ⟨_, canonical_obj []⟩
      | cons p rest =>
        obtain ⟨key, v⟩ := p
        unfold Embedded.resolve at hx
        split at hx
        · next hmark =>
          -- with the mark in front other keys follow, and these are refused
          subst hmark
          split at hx
          · split at hx
            · cases hx
            · split at hx
              · next hrest =>
                obtain rfl := List.isEmpty_iff.mp hrest
                obtain ⟨key, hmem, hne⟩ := hkey (List.cons_ne_nil _ _)
                exact absurd (List.mem_singleton.mp hmem) hne
              · cases hx
          · cases hx
        · obtain ⟨out, -, rfl⟩ := map_eq_ok hx
          exact ⟨_, canonical_obj out⟩
    · cases hw

theorem anything_arr {items : List Json} {w : Json} (hw : Decode.anything (.arr items) = .ok w) :
    ∃ out, w = .arr out := by
  unfold Decode.anything at hw
  split at hw
  · next x hx =>
    cases hw
    obtain ⟨out, -, rfl⟩ := map_eq_ok hx
    exact ⟨_, canonical_arr out⟩
  · cases hw

end SchemaRest.Json
