import SchemaRest.Proofs.Json.Acceptance

/-!
# What is given for the fields of a record

A record is written as an object or as an array. What is given for a field stands under one of its names or
at its place, and it decides alone what becomes of the field: `record_ok_iff_given` says which writings can be
read as a record, and `said_of_record` what a part of the record then is.
-/

namespace SchemaRest.Decode

variable {σ α β : Type} {f : Field σ} {known : List (Field σ)} {v : Json} {fs : Fields}

/-- What is given for a field with a name and a place. -/
def given? (name : String) (place : Nat) : Json → Option Json
  | .obj fields => Fields.get? name fields
  | .arr items => items[place]?
  | _ => none

/-- What is given for a field with a place, under whichever of its names. -/
def Field.given? (f : Field σ) (place : Nat) (v : Json) : Option Json :=
  match f.otherName with
  | none => Decode.given? f.name place v
  | some other => (Decode.given? f.name place v).or (Decode.given? other place v)

theorem Field.given?_arr (f : Field σ) (place : Nat) (items : List Json) :
    f.given? place (.arr items) = items[place]? := by
  unfold given?
  split
  · rfl
  · exact Option.or_self

theorem Field.given?_obj_eq_none_iff {place : Nat} :
    f.given? place (.obj fs) = none ↔ ∀ key ∈ f.names, Fields.get? key fs = none := by
  unfold given? names Decode.given?
  cases f.otherName <;> simp

theorem Field.given?_obj_eq_some {place : Nat} (h : f.given? place (.obj fs) = some v) :
    ∃ key ∈ f.names, Fields.get? key fs = some v := by
  unfold given? Decode.given? at h
  unfold names
  cases hother : f.otherName with
  | none =>
    rw [hother] at h
    exact ⟨f.name, List.mem_cons_self, h⟩
  | some other =>
    rw [hother] at h
    rcases Option.or_eq_some_iff.mp h with h | ⟨-, h⟩
    · exact ⟨f.name, List.mem_cons_self, h⟩
    · exact ⟨other, List.mem_cons_of_mem _ List.mem_cons_self, h⟩

/-! ## Writings that can be read -/

/-- A field is given under one of its names at most. -/
def Field.Once (f : Field σ) (fs : Fields) : Prop :=
  ∀ key ∈ f.names, ∀ key' ∈ f.names, Fields.get? key fs ≠ none → Fields.get? key' fs ≠ none → key = key'

theorem Field.once_of_single (h : f.otherName = none) : f.Once fs := by
  have hnames : f.names = [f.name] := by rw [names, h, Option.toList_none]
  intro key hkey key' hkey' _ _
  rw [hnames, List.mem_singleton] at hkey hkey'
  rw [hkey, hkey']

theorem Field.once_orNamed_iff {other : String} (hother : f.name ≠ other) : (f.orNamed other).Once fs ↔
    Fields.get? f.name fs = none ∨ Fields.get? other fs = none := by
  have hnames : (f.orNamed other).names = [f.name, other] := rfl
  unfold Once
  rw [hnames]
  constructor
  · intro h
    by_contra hgiven
    rw [not_or] at hgiven
    exact hother (h f.name (by simp) other (by simp) hgiven.1 hgiven.2)
  · intro h key hkey key' hkey' hgiven hgiven'
    simp only [List.mem_cons, List.not_mem_nil, or_false] at hkey hkey'
    rcases hkey with rfl | rfl <;> rcases hkey' with rfl | rfl
    · rfl
    · exact (h.elim hgiven hgiven').elim
    · exact (h.elim hgiven' hgiven).elim
    · rfl

/-- An object that gives no field twice, or an array that is not longer than the record. -/
def Shaped (known : List (Field σ)) : Json → Prop
  | .obj fs => ∀ f ∈ known, f.Once fs
  | .arr items => items.length ≤ known.length
  | _ => False

/-- What is given for a field can be read, and something is given where it has to be. -/
def Field.AcceptsAt (f : Field σ) (place : Nat) (v : Json) : Prop :=
  match f.given? place v with
  | some w => f.Takes w
  | none => f.required = false

theorem accepts_iff (place : Nat) : f.Accepts fs ↔ f.Once fs ∧ f.AcceptsAt place (.obj fs) := by
  unfold Field.AcceptsAt
  constructor
  · rintro ⟨hfits, hgiven⟩
    refine ⟨hfits.once, ?_⟩
    split
    · next w hw =>
      obtain ⟨key, hkey, hget⟩ := Field.given?_obj_eq_some hw
      exact (hfits.takes key hkey w hget).1
    · next hnone =>
      by_contra hrequired
      obtain ⟨key, hkey, hmem⟩ := hgiven (Bool.not_eq_false _ ▸ hrequired)
      rw [Fields.mem_keys_iff, Field.given?_obj_eq_none_iff.mp hnone key hkey] at hmem
      cases hmem
  · rintro ⟨honce, haccepts⟩
    cases hgiven : f.given? place (.obj fs) with
    | none =>
      rw [hgiven] at haccepts
      have hnone := Field.given?_obj_eq_none_iff.mp hgiven
      refine ⟨⟨fun key hkey w hw => ?_, honce⟩, fun hrequired => ?_⟩
      · cases (hnone key hkey).symm.trans hw
      · cases haccepts.symm.trans hrequired
    | some w =>
      rw [hgiven] at haccepts
      obtain ⟨key, hkey, hget⟩ := Field.given?_obj_eq_some hgiven
      refine ⟨⟨fun key' hkey' w' hw' => ⟨?_, List.not_mem_nil⟩, honce⟩, fun _ => ⟨key, hkey, ?_⟩⟩
      · obtain rfl := honce key hkey key' hkey' (by simp [hget]) (by simp [hw'])
        cases hget.symm.trans hw'
        exact haccepts
      · rw [Fields.mem_keys_iff, hget]
        rfl

theorem takeItems_ok_iff (hsteady : ∀ f ∈ known, f.Steady) {name : String} {count taken : Nat} {r : σ}
    {items : List Json} : (∃ a, takeItems name count taken r known items = .ok a) ↔
      items.length ≤ known.length ∧
        ∀ (i : Nat) (f : Field σ), known[i]? = some f → f.AcceptsAt i (.arr items) := by
  simp only [Field.AcceptsAt, Field.given?_arr]
  induction known generalizing taken r items with
  | nil => cases items <;> simp [takeItems]
  | cons f known ih =>
    obtain ⟨hf, hknown⟩ := List.forall_mem_cons.mp hsteady
    have hcons {P : Nat → Field σ → Prop} : (∀ i g, (f :: known)[i]? = some g → P i g) ↔
        P 0 f ∧ ∀ i g, known[i]? = some g → P (i + 1) g := by
      constructor
      · exact fun h => ⟨h 0 f rfl, fun i g hg => h (i + 1) g hg⟩
      · rintro ⟨hzero, hlater⟩ (_ | i) g hg
        · cases hg
          exact hzero
        · exact hlater i g hg
    rw [hcons]
    cases items with
    | nil =>
      have hrest := @ih hknown (taken + 1) r []
      unfold takeItems
      cases hrequired : f.required with
      | true => simp
      | false => simpa using hrest
    | cons v items =>
      unfold takeItems
      cases hread : f.read v r with
      | error e =>
        refine iff_of_false (fun ⟨_, h⟩ => by cases h) fun ⟨_, htakes, _⟩ => ?_
        obtain ⟨s, hs⟩ := htakes r
        cases hread.symm.trans hs
      | ok s =>
        dsimp only
        rw [ih hknown]
        have htakes : f.Takes v := hf v r s hread
        simp [htakes]

section

variable {name : String} {empty : σ}

/-- A record can be read where each of its fields accepts what is given for it, in an object that gives none
of them twice or in an array that is not too long. -/
theorem record_ok_iff_given (hknown : Apart known) (hsteady : ∀ f ∈ known, f.Steady)
    (hkeys : ∀ fs, v = .obj fs → (Fields.keys fs).Nodup) :
    (∃ a, record name known empty v = .ok a) ↔
      Shaped known v ∧ ∀ (i : Nat) (f : Field σ), known[i]? = some f → f.AcceptsAt i v := by
  cases v with
  | obj fs =>
    rw [record_ok_iff hknown hsteady (hkeys fs rfl)]
    constructor
    · intro h
      exact ⟨fun f hf => ((accepts_iff 0).mp (h f hf)).1,
        fun i f hf => ((accepts_iff i).mp (h f (List.mem_of_getElem? hf))).2⟩
    · rintro ⟨honce, haccepts⟩ f hf
      obtain ⟨i, hi⟩ := List.getElem?_of_mem hf
      exact (accepts_iff i).mpr ⟨honce f hf, haccepts i f hi⟩
  | arr items => exact takeItems_ok_iff hsteady
  | null | bool b | num n | str s => exact iff_of_false (fun ⟨_, h⟩ => by cases h) fun h => h.1

/-- Where a description of records says of each of their parts what it is, just the record that is described
is read. -/
theorem record_eq_ok_iff {Described : σ → Prop} (hknown : Apart known) (hsteady : ∀ f ∈ known, f.Steady)
    (hkeys : ∀ fs, v = .obj fs → (Fields.keys fs).Nodup)
    (hread : ∀ a, record name known empty v = .ok a → Described a)
    (hunique : ∀ a b, Described a → Described b → a = b)
    (haccepts : ∀ a, Described a → Shaped known v ∧
      ∀ (i : Nat) (f : Field σ), known[i]? = some f → f.AcceptsAt i v) {a : σ} :
    record name known empty v = .ok a ↔ Described a := by
  refine ⟨hread a, fun h => ?_⟩
  obtain ⟨b, hb⟩ := (record_ok_iff_given hknown hsteady hkeys).mpr (haccepts a h)
  rw [hb, hunique a b h (hread b hb)]

/-! ## What becomes of what is given -/

theorem part_of_takeItems {part : σ → β} {i : Nat} (hf : known[i]? = some f)
    (hspares : ∀ g ∈ known.eraseIdx i, g.Spares part) {count taken : Nat} {r a : σ} {items : List Json}
    (h : takeItems name count taken r known items = .ok a) :
    (items[i]? = none ∧ part a = part r) ∨
      ∃ v r' s, items[i]? = some v ∧ f.read v r' = .ok s ∧ part a = part s := by
  induction known generalizing taken r items i with
  | nil => cases hf
  | cons g known ih =>
    cases i with
    | zero =>
      cases hf
      have hrest {r : σ} {taken : Nat} {items : List Json}
          (h : takeItems name count taken r known items = .ok a) : part a = part r :=
        takeItems_preserves (I := fun s => part s = part r)
          (fun g hg v r' s hr hread => (hspares g hg v r' s hread).trans hr) rfl h
      cases items with
      | nil => exact .inl ⟨rfl, hrest (takeItems_nil_eq_ok h)⟩
      | cons v items =>
        obtain ⟨s, hread, h⟩ := takeItems_cons_eq_ok h
        exact .inr ⟨v, r, s, rfl, hread, hrest h⟩
    | succ i =>
      obtain ⟨hg, hspares⟩ := List.forall_mem_cons.mp hspares
      cases items with
      | nil =>
        rcases ih hf hspares (takeItems_nil_eq_ok h) with ⟨-, hpart⟩ | ⟨v, r', s, hv, -⟩
        · exact .inl ⟨rfl, hpart⟩
        · cases hv
      | cons v items =>
        obtain ⟨s, hread, h⟩ := takeItems_cons_eq_ok h
        rw [← hg v r s hread]
        exact ih hf hspares h

variable {a : σ} {i : Nat} {part : σ → β}

/-- A part of a record that one field alone sets is what is read of the value given for it. -/
theorem part_of_given (hknown : Apart known) (hsteady : ∀ f ∈ known, f.Steady) (hf : known[i]? = some f)
    (hspares : ∀ g ∈ known.eraseIdx i, g.Spares part) (hkeys : ∀ fs, v = .obj fs → (Fields.keys fs).Nodup)
    (h : record name known empty v = .ok a) :
    (f.given? i v = none ∧ part a = part empty) ∨
      ∃ w r s, f.given? i v = some w ∧ f.read w r = .ok s ∧ part a = part s := by
  cases v with
  | obj fs =>
    have hmem : f ∈ known := List.mem_of_getElem? hf
    have hothers : ∀ g ∈ known, g ≠ f → g.Spares part := by
      intro g hg hne
      obtain ⟨j, hj⟩ := List.getElem?_of_mem hg
      refine hspares g (List.mem_eraseIdx_iff_getElem?.mpr ⟨j, ?_, hj⟩)
      rintro rfl
      exact hne (Option.some.inj (hj.symm.trans hf))
    have honce := ((record_ok_iff_given hknown hsteady hkeys).mp ⟨a, h⟩).1 f hmem
    rcases part_of_record hknown hmem hothers (hkeys fs rfl) h with
      ⟨hnone, hpart⟩ | ⟨key, hkey, w, r, s, hw, hread, hpart⟩
    · refine .inl ⟨Field.given?_obj_eq_none_iff.mpr fun key hkey => ?_, hpart⟩
      exact Fields.get?_eq_none_iff.mpr (hnone key hkey)
    · refine .inr ⟨w, r, s, ?_, hread, hpart⟩
      cases hgiven : f.given? i (.obj fs) with
      | none => cases (Field.given?_obj_eq_none_iff.mp hgiven key hkey).symm.trans hw
      | some w' =>
        obtain ⟨key', hkey', hw'⟩ := Field.given?_obj_eq_some hgiven
        obtain rfl := honce key hkey key' hkey' (by simp [hw]) (by simp [hw'])
        exact hw'.symm.trans hw
  | arr items =>
    rw [Field.given?_arr]
    rcases part_of_takeItems hf hspares h with hnone | ⟨w, r, s, hgiven⟩
    · exact .inl hnone
    · exact .inr ⟨w, r, s, hgiven⟩
  | null | bool b | num n | str s => cases h

end

/-! ## Fields that are made for a part -/

section

variable {name other : String} {decode : Json → Decoded α} {set : α → σ → σ} {part : σ → β}

@[simp] theorem steady_required : (required name decode set).Steady := steady_map

@[simp] theorem steady_defaulted : (defaulted name decode set).Steady := steady_map

@[simp] theorem steady_orNamed : (f.orNamed other).Steady ↔ f.Steady := Iff.rfl

@[simp] theorem spares_required (h : ∀ a r, part (set a r) = part r) :
    (required name decode set).Spares part := spares_map h

@[simp] theorem spares_defaulted (h : ∀ a r, part (set a r) = part r) :
    (defaulted name decode set).Spares part := spares_map h

@[simp] theorem spares_orNamed : (f.orNamed other).Spares part ↔ f.Spares part := Iff.rfl

end

/-- A value that is said: what is given is decoded to it, and where nothing is given it is the default. -/
def Said (decode : Json → Decoded α) (default? : Option α) : Option Json → α → Prop
  | some v, a => decode v = .ok a
  | none, a => default? = some a

theorem Said.unique {decode : Json → Decoded α} {default? : Option α} {given : Option Json} {a b : α}
    (ha : Said decode default? given a) (hb : Said decode default? given b) : a = b := by
  cases given with
  | none => exact Option.some.inj (ha.symm.trans hb)
  | some v => exact Except.ok.inj (ha.symm.trans hb)

/-- What is given in place of it says the same, where it is decoded to the same. -/
theorem Said.of_rel {decode : Json → Decoded α} {default? : Option α} {R : Json → Json → Prop}
    {given given' : Option Json} {a : α} (h : Said decode default? given a) (hrel : Option.Rel R given given')
    (hdecode : ∀ w w', given = some w → given' = some w' → R w w' →
      ∀ a, decode w = .ok a → decode w' = .ok a) : Said decode default? given' a := by
  cases hrel with
  | none => exact h
  | some hw => exact hdecode _ _ rfl rfl hw a h

section

variable {name : String} {empty a : σ} {decode : Json → Decoded α} {set : α → σ → σ}

/-- What the record says where nothing is given for a field. -/
def Field.default? (f : Field σ) (d : α) : Option α := bif f.required then none else some d

/-- The part that a field sets is what is said for it. -/
theorem said_of_record (part : σ → α) (i : Nat) (hknown : Apart known) (hsteady : ∀ f ∈ known, f.Steady)
    (hf : known[i]? = some f) (hread : f.read = fun v r => (decode v).map (set · r))
    (hset : ∀ a r, part (set a r) = a)
    (hspares : ∀ g ∈ known.eraseIdx i, g.Spares part) (hkeys : ∀ fs, v = .obj fs → (Fields.keys fs).Nodup)
    (h : record name known empty v = .ok a) :
    Said decode (f.default? (part empty)) (f.given? i v) (part a) := by
  have haccepts := ((record_ok_iff_given hknown hsteady hkeys).mp ⟨a, h⟩).2 i f hf
  unfold Field.AcceptsAt at haccepts
  rcases part_of_given hknown hsteady hf hspares hkeys h with ⟨hnone, hpart⟩ | ⟨w, r, s, hgiven, hs, hpart⟩
  · rw [hnone] at haccepts ⊢
    simp [Said, Field.default?, haccepts, hpart]
  · rw [hread] at hs
    obtain ⟨b, hb, rfl⟩ := map_eq_ok hs
    rw [hgiven, hpart, hset]
    exact hb

theorem acceptsAt_of_said {i : Nat} {default? : Option α} {b : α}
    (hread : f.read = fun v r => (decode v).map (set · r)) (hdefault : default?.isNone = f.required)
    (h : Said decode default? (f.given? i v) b) : f.AcceptsAt i v := by
  unfold Field.AcceptsAt
  cases hgiven : f.given? i v with
  | none =>
    rw [hgiven] at h
    obtain rfl : default? = some b := h
    exact hdefault.symm
  | some w =>
    rw [hgiven] at h
    intro r
    exact ⟨set b r, by rw [hread]; exact congrArg (Except.map (set · r)) h⟩

end

end SchemaRest.Decode
