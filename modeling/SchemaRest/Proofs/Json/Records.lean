import Mathlib.Data.List.Forall2
import SchemaRest.Json.Decode
import SchemaRest.Proofs.Json.Fields

/-!
# Records that differ in some fields

Two ways to write one record that agree but for the values of some fields. Whatever relates the values
field by field, and is kept by reading each field, relates the records that are decoded.
-/

namespace SchemaRest

/-- Both of two steps succeed where the whole does. -/
theorem bind_eq_ok {ε α β : Type} {r : Except ε α} {f : α → Except ε β} {b : β}
    (h : (r >>= f) = .ok b) : ∃ a, r = .ok a ∧ f a = .ok b := by
  cases r with
  | error e => cases h
  | ok a => exact ⟨a, rfl, h⟩

theorem map_eq_ok_iff {ε α β : Type} {r : Except ε α} {f : α → β} {b : β} :
    r.map f = .ok b ↔ ∃ a, r = .ok a ∧ f a = b := by
  constructor
  · intro h
    cases r with
    | error e => cases h
    | ok a => exact ⟨a, rfl, Except.ok.inj h⟩
  · rintro ⟨a, rfl, rfl⟩
    rfl

theorem map_eq_ok {ε α β : Type} {r : Except ε α} {f : α → β} {b : β} (h : r.map f = .ok b) :
    ∃ a, r = .ok a ∧ f a = b := map_eq_ok_iff.mp h

namespace Decode

variable {σ α : Type} {known : List (Field σ)} {V : String → Json → Json → Prop} {R : σ → σ → Prop}

/-- Related values read into related records give related records. -/
def Keeps (read : Json → σ → Decoded σ) (W : Json → Json → Prop) (R : σ → σ → Prop) : Prop :=
  ∀ v v' r r' s s', W v v' → R r r' → read v r = .ok s → read v' r' = .ok s' → R s s'

/-- Items of an array, related as the values of the fields in order. -/
inductive Items (V : String → Json → Json → Prop) : List (Field σ) → List Json → List Json → Prop
  | nil (known : List (Field σ)) : Items V known [] []
  | cons {f : Field σ} {known : List (Field σ)} {v v' : Json} {vs vs' : List Json}
      (hv : V f.name v v') (h : Items V known vs vs') : Items V (f :: known) (v :: vs) (v' :: vs')

/-- The same fields in the same order, and related values in those that are read. -/
inductive Written (known : List (Field σ)) (V : String → Json → Json → Prop) : Json → Json → Prop
  | object {fs fs' : Fields}
      (h : List.Forall₂ (fun p p' => p.1 = p'.1 ∧
        ∀ f ∈ known, f.answersTo p.1 → V f.name p.2 p'.2) fs fs') : Written known V (.obj fs) (.obj fs')
  | array {vs vs' : List Json} (h : Items V known vs vs') : Written known V (.arr vs) (.arr vs')

theorem Written.isNull_eq {v v' : Json} (h : Written known V v v') : v.isNull = false ∧ v'.isNull = false := by
  cases h <;> exact ⟨rfl, rfl⟩

theorem takeFields_related (hkeeps : ∀ f ∈ known, Keeps f.read (V f.name) R) {fs fs' : Fields}
    (h : List.Forall₂ (fun p p' => p.1 = p'.1 ∧ ∀ f ∈ known, f.answersTo p.1 → V f.name p.2 p'.2) fs fs')
    {seen s s' : List String} {r r' a a' : σ} (hr : R r r')
    (ha : takeFields known seen r fs = .ok (s, a)) (ha' : takeFields known seen r' fs' = .ok (s', a')) :
    R a a' := by
  induction h generalizing seen r r' with
  | nil =>
    cases ha
    cases ha'
    exact hr
  | @cons p p' fs fs' hp h ih =>
    obtain ⟨key, v⟩ := p
    obtain ⟨key', v'⟩ := p'
    obtain ⟨rfl, hvalues⟩ := hp
    unfold takeFields at ha ha'
    cases hfind : known.find? (·.answersTo key) with
    | none =>
      rw [hfind] at ha ha'
      exact ih hr ha ha'
    | some f =>
      rw [hfind] at ha ha'
      dsimp only at ha ha'
      split at ha
      · cases ha
      · next hseen =>
        rw [if_neg hseen] at ha'
        split at ha
        · cases ha
        · next r₁ hread =>
          split at ha'
          · cases ha'
          · next r₁' hread' =>
            have hf : f ∈ known := List.mem_of_find?_eq_some hfind
            have hanswers : f.answersTo key = true := by
              have h := List.find?_some hfind
              exact h
            have hv := hvalues f hf hanswers
            exact ih (hkeeps f hf _ _ _ _ _ _ hv hr hread hread') ha ha'

theorem takeItems_nil_eq_ok {name : String} {count taken : Nat} {r a : σ} {g : Field σ}
    {known : List (Field σ)} (h : takeItems name count taken r (g :: known) [] = .ok a) :
    takeItems name count (taken + 1) r known [] = .ok a := by
  unfold takeItems at h
  split at h
  · cases h
  · exact h

theorem takeItems_cons_eq_ok {name : String} {count taken : Nat} {r a : σ} {g : Field σ}
    {known : List (Field σ)} {v : Json} {items : List Json}
    (h : takeItems name count taken r (g :: known) (v :: items) = .ok a) :
    ∃ s, g.read v r = .ok s ∧ takeItems name count (taken + 1) s known items = .ok a := by
  unfold takeItems at h
  split at h
  · cases h
  · next s hread => exact ⟨s, hread, h⟩

/-- Reading the field keeps a property of the record. -/
def Field.Preserves (I : σ → Prop) (f : Field σ) : Prop :=
  ∀ v r s, I r → f.read v r = .ok s → I s

/-- Reading the field leaves a part of the record alone. -/
def Field.Spares {β : Type} (part : σ → β) (g : Field σ) : Prop :=
  ∀ v r s, g.read v r = .ok s → part s = part r

theorem spares_map {β : Type} {name : String} {other : Option String} {required : Bool}
    {outline : Json.Outline} {decode : Json → Decoded α} {set : α → σ → σ} {part : σ → β}
    (h : ∀ a r, part (set a r) = part r) :
    Field.Spares part ⟨name, other, required, outline, fun v r => (decode v).map (set · r)⟩ := by
  intro v r s hs
  obtain ⟨a, -, rfl⟩ := map_eq_ok hs
  exact h a r

theorem takeItems_preserves {I : σ → Prop} (hknown : ∀ f ∈ known, f.Preserves I) {name : String}
    {count taken : Nat} {r a : σ} {items : List Json} (hr : I r)
    (h : takeItems name count taken r known items = .ok a) : I a := by
  induction known generalizing taken r items with
  | nil =>
    cases items with
    | nil =>
      cases h
      exact hr
    | cons v items => cases h
  | cons f known ih =>
    obtain ⟨hf, hknown⟩ := List.forall_mem_cons.mp hknown
    cases items with
    | nil => exact ih hknown hr (takeItems_nil_eq_ok h)
    | cons v items =>
      obtain ⟨s, hread, hrest⟩ := takeItems_cons_eq_ok h
      exact ih hknown (hf v r s hr hread) hrest

theorem takeFields_preserves {I : σ → Prop} (hknown : ∀ f ∈ known, f.Preserves I) {fs : Fields}
    {seen seen' : List String} {r a : σ} (hr : I r)
    (h : takeFields known seen r fs = .ok (seen', a)) : I a := by
  induction fs generalizing seen r with
  | nil =>
    cases h
    exact hr
  | cons p fs ih =>
    obtain ⟨key, v⟩ := p
    unfold takeFields at h
    split at h
    · exact ih hr h
    · next f hfind =>
      split at h
      · cases h
      split at h
      · cases h
      · next s hread => exact ih (hknown f (List.mem_of_find?_eq_some hfind) v r s hr hread) h

/-- What every field preserves holds of what is decoded. -/
theorem record_preserves {I : σ → Prop} (hknown : ∀ f ∈ known, f.Preserves I) {name : String}
    {empty a : σ} {v : Json} (hempty : I empty) (h : record name known empty v = .ok a) : I a := by
  unfold record at h
  split at h
  · split at h
    · cases h
    · next htake =>
      split at h
      · cases h
      · cases h
        exact takeFields_preserves hknown hempty htake
  · exact takeItems_preserves hknown hempty h
  · cases h

theorem takeItems_related (hkeeps : ∀ f ∈ known, Keeps f.read (V f.name) R) {vs vs' : List Json}
    (h : Items V known vs vs') {name : String} {count taken : Nat} {r r' a a' : σ} (hr : R r r')
    (ha : takeItems name count taken r known vs = .ok a)
    (ha' : takeItems name count taken r' known vs' = .ok a') : R a a' := by
  induction h generalizing taken r r' with
  | nil known =>
    -- fields past the end of the array keep what they were in both records
    induction known generalizing taken with
    | nil =>
      cases ha
      cases ha'
      exact hr
    | cons f known ih =>
      exact ih (fun f hf => hkeeps f (List.mem_cons_of_mem _ hf)) (takeItems_nil_eq_ok ha)
        (takeItems_nil_eq_ok ha')
  | @cons f known v v' vs vs' hv h ih =>
    obtain ⟨r₁, hread, hrest⟩ := takeItems_cons_eq_ok ha
    obtain ⟨r₁', hread', hrest'⟩ := takeItems_cons_eq_ok ha'
    have hr₁ := hkeeps f List.mem_cons_self _ _ _ _ _ _ hv hr hread hread'
    exact ih (fun f hf => hkeeps f (List.mem_cons_of_mem _ hf)) hr₁ hrest hrest'

/-- Related writings are decoded to related records. -/
theorem record_related (hkeeps : ∀ f ∈ known, Keeps f.read (V f.name) R) {v v' : Json}
    (h : Written known V v v') {name : String} {empty a a' : σ} (hempty : R empty empty)
    (ha : record name known empty v = .ok a) (ha' : record name known empty v' = .ok a') : R a a' := by
  cases h with
  | array h => exact takeItems_related hkeeps h hempty ha ha'
  | @object fs fs' h =>
    unfold record at ha ha'
    dsimp only at ha ha'
    split at ha
    · cases ha
    · next seen r hfields =>
      split at ha
      · cases ha
      · split at ha'
        · cases ha'
        · next seen' r' hfields' =>
          split at ha'
          · cases ha'
          · cases ha
            cases ha'
            exact takeFields_related hkeeps h hempty hfields hfields'

/-! ## Fields of records -/

variable {decode : Json → Decoded α} {set : α → σ → σ} {D : α → α → Prop} {W : Json → Json → Prop}

theorem keeps_map (hdecode : ∀ v v' a a', W v v' → decode v = .ok a → decode v' = .ok a' → D a a')
    (hset : ∀ a a' r r', D a a' → R r r' → R (set a r) (set a' r')) :
    Keeps (fun v r => (decode v).map (set · r)) W R := by
  intro v v' r r' s s' hv hr hs hs'
  obtain ⟨a, ha, rfl⟩ := map_eq_ok hs
  obtain ⟨a', ha', rfl⟩ := map_eq_ok hs'
  exact hset a a' r r' (hdecode v v' a a' hv ha ha') hr

/-- Equal values are decoded to the same. -/
theorem keeps_map_eq (heq : ∀ v v', W v v' → v = v') (hset : ∀ a r r', R r r' → R (set a r) (set a r')) :
    Keeps (fun v r => (decode v).map (set · r)) W R := by
  refine keeps_map (D := Eq) (fun v v' a a' hv ha ha' => ?_) fun a a' r r' haa' hr => ?_
  · rw [heq v v' hv] at ha
    exact Except.ok.inj (ha.symm.trans ha')
  · rw [haa']
    exact hset a' r r' hr

theorem mapM_cons_eq_ok {ε β : Type} {f : α → Except ε β} {x : α} {xs : List α} {ys : List β}
    (h : (x :: xs).mapM f = .ok ys) : ∃ y more, f x = .ok y ∧ xs.mapM f = .ok more ∧ ys = y :: more := by
  rw [List.mapM_cons] at h
  obtain ⟨y, hy, h⟩ := bind_eq_ok h
  obtain ⟨more, hmore, h⟩ := bind_eq_ok h
  cases h
  exact ⟨y, more, hy, hmore, rfl⟩

/-- What is done to every member of a list succeeds where it does for each. -/
theorem mapM_eq_ok_iff {ε β : Type} {f : α → Except ε β} {xs : List α} {ys : List β} :
    xs.mapM f = .ok ys ↔ List.Forall₂ (fun x y => f x = .ok y) xs ys := by
  constructor
  · intro h
    induction xs generalizing ys with
    | nil =>
      cases h
      exact .nil
    | cons x xs ih =>
      obtain ⟨y, more, hy, hmore, rfl⟩ := mapM_cons_eq_ok h
      exact .cons hy (ih hmore)
  · intro h
    induction h with
    | nil => rfl
    | cons hy h ih =>
      rw [List.mapM_cons, hy, ih]
      rfl

theorem listOf_ok_iff {decode : Json → Decoded α} {items : List Json} :
    (∃ as, listOf decode (.arr items) = .ok as) ↔ ∀ item ∈ items, ∃ a, decode item = .ok a := by
  unfold listOf
  dsimp only
  induction items with
  | nil => exact iff_of_true ⟨[], rfl⟩ (List.forall_mem_nil _)
  | cons item items ih =>
    rw [List.forall_mem_cons, ← ih]
    constructor
    · rintro ⟨as, h⟩
      obtain ⟨a, more, ha, hmore, -⟩ := mapM_cons_eq_ok h
      exact ⟨⟨a, ha⟩, more, hmore⟩
    · rintro ⟨⟨a, ha⟩, more, hmore⟩
      exact ⟨a :: more, by rw [List.mapM_cons, ha, hmore]; rfl⟩

/-- A list is decoded item by item. -/
theorem listOf_items {decode : Json → Decoded α} {items : List Json} {as : List α}
    (h : listOf decode (.arr items) = .ok as) :
    List.Forall₂ (fun item a => decode item = .ok a) items as := mapM_eq_ok_iff.mp h

/-- Lists of related values are decoded to lists of related items. -/
theorem listOf_related
    (hdecode : ∀ v v' a a', W v v' → decode v = .ok a → decode v' = .ok a' → D a a')
    {vs vs' : List Json} (h : List.Forall₂ W vs vs') {as as' : List α}
    (has : listOf decode (.arr vs) = .ok as) (has' : listOf decode (.arr vs') = .ok as') :
    List.Forall₂ D as as' := by
  rw [listOf] at has has'
  induction h generalizing as as' with
  | nil =>
    cases has
    cases has'
    exact .nil
  | cons hv h ih =>
    obtain ⟨a, more, ha, hmore, rfl⟩ := mapM_cons_eq_ok has
    obtain ⟨a', more', ha', hmore', rfl⟩ := mapM_cons_eq_ok has'
    exact .cons (hdecode _ _ a a' hv ha ha') (ih hmore hmore')

theorem keys_of_pairs {f : Json → Decoded α} {fs : Fields} {pairs : List (String × α)}
    (h : pairsOf f (.obj fs) = .ok pairs) : pairs.map (·.1) = Fields.keys fs := by
  rw [pairsOf] at h
  induction fs generalizing pairs with
  | nil =>
    cases h
    rfl
  | cons p fs ih =>
    obtain ⟨q, more, hq, hmore, rfl⟩ := mapM_cons_eq_ok h
    obtain ⟨v, -, rfl⟩ := map_eq_ok hq
    exact congrArg (p.1 :: ·) (ih hmore)

/-- What objects with the same keys are decoded to has the same keys. -/
theorem keys_of_fields {fs fs' row row' : Fields} (hkeys : Fields.keys fs = Fields.keys fs')
    (h : fields (.obj fs) = .ok row) (h' : fields (.obj fs') = .ok row') :
    Fields.keys row = Fields.keys row' := by
  obtain ⟨pairs, hpairs, rfl⟩ := map_eq_ok h
  obtain ⟨pairs', hpairs', rfl⟩ := map_eq_ok h'
  refine Fields.keys_ofList ?_
  exact (keys_of_pairs hpairs).trans (hkeys.trans (keys_of_pairs hpairs').symm)

end Decode

end SchemaRest
