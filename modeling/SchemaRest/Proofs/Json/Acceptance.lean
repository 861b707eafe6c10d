import SchemaRest.Proofs.Json.Records

/-!
# Objects that are decoded

Which objects a record can be read from: every field that is given can be read, no field is given under two
names, and what is required is there. Where every key stands once the order of the fields does not matter.
-/

namespace SchemaRest.Decode

variable {σ β : Type} {f g : Field σ} {known : List (Field σ)} {seen : List String} {key : String}
  {v : Json} {fs : Fields}

/-- A value can be read as a field, into whatever record. -/
def Field.Takes (f : Field σ) (v : Json) : Prop := ∀ r, ∃ s, f.read v r = .ok s

/-- What can be read into one record can be read into every other. -/
def Field.Steady (f : Field σ) : Prop := ∀ v r s, f.read v r = .ok s → f.Takes v

def Field.names (f : Field σ) : List String := f.name :: f.otherName.toList

theorem Field.answersTo_iff_mem : f.answersTo key = true ↔ key ∈ f.names := by
  rw [answersTo, names, Bool.or_eq_true, beq_iff_eq, beq_iff_eq, List.mem_cons, Option.mem_toList]
  exact or_congr_left eq_comm

section

variable {α : Type} {name : String} {other : Option String} {required : Bool} {outline : Json.Outline}
  {decode : Json → Decoded α} {set : α → σ → σ}

theorem steady_map : Field.Steady ⟨name, other, required, outline, fun v r => (decode v).map (set · r)⟩ := by
  intro v r s h r'
  obtain ⟨a, ha, -⟩ := map_eq_ok h
  exact ⟨set a r', by dsimp only; rw [ha]; rfl⟩

/-- A field can be read where its value can be decoded. -/
theorem takes_map_iff (empty : σ) :
    Field.Takes ⟨name, other, required, outline, fun v r => (decode v).map (set · r)⟩ v ↔
      ∃ a, decode v = .ok a := by
  constructor
  · intro h
    obtain ⟨s, hs⟩ := h empty
    obtain ⟨a, ha, -⟩ := map_eq_ok hs
    exact ⟨a, ha⟩
  · rintro ⟨a, ha⟩ r
    exact ⟨set a r, by dsimp only; rw [ha]; rfl⟩

end

/-! ## Fields that are told apart -/

/-- No name stands for two fields. -/
def Apart (known : List (Field σ)) : Prop := (known.flatMap Field.names).Nodup

instance (known : List (Field σ)) : Decidable (Apart known) :=
  inferInstanceAs (Decidable (known.flatMap Field.names).Nodup)

theorem find?_eq_some_iff (h : Apart known) :
    known.find? (·.answersTo key) = some f ↔ f ∈ known ∧ key ∈ f.names := by
  constructor
  · intro hfind
    have hanswers := List.find?_some hfind
    exact ⟨List.mem_of_find?_eq_some hfind, Field.answersTo_iff_mem.mp hanswers⟩
  · rintro ⟨hf, hkey⟩
    induction known with
    | nil => cases hf
    | cons g known ih =>
      obtain ⟨-, hknown, hdisjoint⟩ := List.nodup_append.mp
        (show (g.names ++ known.flatMap Field.names).Nodup from h)
      rcases List.mem_cons.mp hf with rfl | hf
      · exact List.find?_cons_of_pos (Field.answersTo_iff_mem.mpr hkey)
      · have hother : ¬g.answersTo key = true := fun hanswers =>
          hdisjoint key (Field.answersTo_iff_mem.mp hanswers) key
            (List.mem_flatMap.mpr ⟨f, hf, hkey⟩) rfl
        rw [List.find?_cons_of_neg (p := fun g : Field σ => g.answersTo key) hother]
        exact ih hknown hf

theorem find?_eq_none_iff : known.find? (·.answersTo key) = none ↔ ∀ f ∈ known, key ∉ f.names := by
  rw [List.find?_eq_none]
  exact forall_congr' fun f => forall_congr' fun _ => not_congr Field.answersTo_iff_mem

theorem eq_of_names (h : Apart known) (hf : f ∈ known) (hg : g ∈ known) (hkey : key ∈ f.names)
    (hkey' : key ∈ g.names) : f = g :=
  Option.some.inj (((find?_eq_some_iff h).mpr ⟨hf, hkey⟩).symm.trans ((find?_eq_some_iff h).mpr ⟨hg, hkey'⟩))

/-! ## What is taken -/

/-- What is given for a field can be read, once and not again. -/
structure Field.Fits (f : Field σ) (seen : List String) (fs : Fields) : Prop where
  takes : ∀ key ∈ f.names, ∀ v, Fields.get? key fs = some v → f.Takes v ∧ f.name ∉ seen
  once : ∀ key ∈ f.names, ∀ key' ∈ f.names, Fields.get? key fs ≠ none → Fields.get? key' fs ≠ none →
    key = key'

theorem get?_cons_of_mem (hkey : key ∉ f.names) {name : String} (hname : name ∈ f.names) :
    Fields.get? name ((key, v) :: fs) = Fields.get? name fs :=
  if_neg fun h : key = name => hkey (h ▸ hname)

theorem fits_cons_other_iff (hkey : key ∉ f.names) :
    f.Fits seen ((key, v) :: fs) ↔ f.Fits seen fs := by
  constructor
  · intro h
    refine ⟨fun name hname u hu => h.takes name hname u ?_, fun name hname name' hname' hu hu' =>
      h.once name hname name' hname' ?_ ?_⟩
    · rw [get?_cons_of_mem hkey hname, hu]
    · rwa [get?_cons_of_mem hkey hname]
    · rwa [get?_cons_of_mem hkey hname']
  · intro h
    refine ⟨fun name hname u hu => h.takes name hname u ?_, fun name hname name' hname' hu hu' =>
      h.once name hname name' hname' ?_ ?_⟩
    · rwa [get?_cons_of_mem hkey hname] at hu
    · rwa [get?_cons_of_mem hkey hname] at hu
    · rwa [get?_cons_of_mem hkey hname'] at hu'

theorem fits_seen_other_iff {name : String} (hname : f.name ≠ name) :
    f.Fits (name :: seen) fs ↔ f.Fits seen fs := by
  have hseen : f.name ∉ name :: seen ↔ f.name ∉ seen := by simp [hname]
  constructor
  · exact fun h => ⟨fun k hk u hu => ⟨(h.takes k hk u hu).1, hseen.mp (h.takes k hk u hu).2⟩, h.once⟩
  · exact fun h => ⟨fun k hk u hu => ⟨(h.takes k hk u hu).1, hseen.mpr (h.takes k hk u hu).2⟩, h.once⟩

/-- What was taken does not come again. -/
theorem fits_taken_iff : f.Fits (f.name :: seen) fs ↔ ∀ name ∈ f.names, Fields.get? name fs = none := by
  constructor
  · intro h name hname
    by_contra hsome
    obtain ⟨u, hu⟩ := Option.ne_none_iff_exists'.mp hsome
    exact (h.takes name hname u hu).2 List.mem_cons_self
  · intro h
    refine ⟨fun name hname u hu => ?_, fun name hname _ _ hu _ => absurd (h name hname) hu⟩
    rw [h name hname] at hu
    cases hu

theorem fits_cons_self_iff (hkey : key ∈ f.names) (hnone : Fields.get? key fs = none) :
    f.Fits seen ((key, v) :: fs) ↔ f.Takes v ∧ f.name ∉ seen ∧ f.Fits (f.name :: seen) fs := by
  have hhere : Fields.get? key ((key, v) :: fs) = some v := if_pos rfl
  have hlater {name : String} (hname : name ≠ key) :
      Fields.get? name ((key, v) :: fs) = Fields.get? name fs := if_neg (Ne.symm hname)
  rw [fits_taken_iff]
  constructor
  · intro h
    obtain ⟨htakes, hseen⟩ := h.takes key hkey v hhere
    refine ⟨htakes, hseen, fun name hname => ?_⟩
    by_cases heq : name = key
    · rw [heq, hnone]
    · by_contra hsome
      refine heq (h.once name hname key hkey ?_ ?_)
      · rwa [hlater heq]
      · rw [hhere]
        exact Option.some_ne_none v
  · rintro ⟨htakes, hseen, hrest⟩
    have honly : ∀ name ∈ f.names, Fields.get? name ((key, v) :: fs) ≠ none → name = key := by
      intro name hname hsome
      by_contra heq
      rw [hlater heq] at hsome
      exact hsome (hrest name hname)
    refine ⟨fun name hname u hu => ?_, fun name hname name' hname' hu hu' =>
      (honly name hname hu).trans (honly name' hname' hu').symm⟩
    obtain rfl := honly name hname (by rw [hu]; exact Option.some_ne_none u)
    rw [hhere] at hu
    cases hu
    exact ⟨htakes, hseen⟩

section

variable {α : Type} {name other : String} {required : Bool} {outline : Json.Outline}
  {decode : Json → Decoded α} {set : α → σ → σ}

/-- A field with one name fits where its value can be decoded. -/
theorem fits_map_iff (empty : σ) :
    Field.Fits ⟨name, none, required, outline, fun v r => (decode v).map (set · r)⟩ [] fs ↔
      ∀ v, Fields.get? name fs = some v → ∃ a, decode v = .ok a := by
  constructor
  · intro h v hv
    exact (takes_map_iff empty).mp (h.takes name List.mem_cons_self v hv).1
  · intro h
    refine ⟨fun key hkey v hv => ?_, fun key hkey key' hkey' _ _ => ?_⟩
    · obtain rfl := List.mem_singleton.mp hkey
      exact ⟨(takes_map_iff empty).mpr (h v hv), List.not_mem_nil⟩
    · exact (List.mem_singleton.mp hkey).trans (List.mem_singleton.mp hkey').symm

/-- A field with two names fits where it is not given under both and its value can be decoded. -/
theorem fits_map_orNamed_iff (empty : σ) (hother : name ≠ other) :
    Field.Fits ⟨name, some other, required, outline, fun v r => (decode v).map (set · r)⟩ [] fs ↔
      (∀ v, Fields.get? name fs = some v → ∃ a, decode v = .ok a) ∧
      ∀ v, Fields.get? other fs = some v → Fields.get? name fs = none ∧ ∃ a, decode v = .ok a := by
  constructor
  · intro h
    refine ⟨fun v hv => (takes_map_iff empty).mp (h.takes name List.mem_cons_self v hv).1,
      fun v hv => ⟨?_, (takes_map_iff empty).mp (h.takes other (List.mem_pair.mpr (.inr rfl)) v hv).1⟩⟩
    by_contra hgiven
    refine hother (h.once name List.mem_cons_self other (List.mem_pair.mpr (.inr rfl)) hgiven ?_)
    rw [hv]
    exact Option.some_ne_none v
  · rintro ⟨hname, hsecond⟩
    have hnone : Fields.get? name fs ≠ none → Fields.get? other fs ≠ none → False := by
      intro hgiven hgiven'
      obtain ⟨v, hv⟩ := Option.ne_none_iff_exists'.mp hgiven'
      exact hgiven (hsecond v hv).1
    refine ⟨fun key hkey v hv => ⟨(takes_map_iff empty).mpr ?_, List.not_mem_nil⟩,
      fun key hkey key' hkey' hgiven hgiven' => ?_⟩
    · rcases List.mem_pair.mp hkey with rfl | rfl
      · exact hname v hv
      · exact (hsecond v hv).2
    · rcases List.mem_pair.mp hkey with rfl | rfl <;> rcases List.mem_pair.mp hkey' with rfl | rfl
      · rfl
      · exact (hnone hgiven hgiven').elim
      · exact (hnone hgiven' hgiven).elim
      · rfl

end

/-- A field that is taken is out of the way of the others. -/
theorem forall_fits_cons_iff (hknown : Apart known) (hf : f ∈ known) (hkey : key ∈ f.names)
    (hnone : Fields.get? key fs = none) : (∀ g ∈ known, g.Fits seen ((key, v) :: fs)) ↔
      f.Takes v ∧ f.name ∉ seen ∧ ∀ g ∈ known, g.Fits (f.name :: seen) fs := by
  have hself : f.Fits seen ((key, v) :: fs) ↔ f.Takes v ∧ f.name ∉ seen ∧ f.Fits (f.name :: seen) fs :=
    fits_cons_self_iff hkey hnone
  have hothers : ∀ g ∈ known, g ≠ f → (g.Fits (f.name :: seen) fs ↔ g.Fits seen ((key, v) :: fs)) := by
    intro g hg hne
    have hname : g.name ≠ f.name := fun heq =>
      hne (eq_of_names hknown hg hf List.mem_cons_self (heq ▸ List.mem_cons_self))
    have hkey' : key ∉ g.names := fun hmem => hne (eq_of_names hknown hg hf hmem hkey)
    rw [fits_seen_other_iff hname, fits_cons_other_iff hkey']
  constructor
  · intro h
    obtain ⟨htakes, hseen, hfits⟩ := hself.mp (h f hf)
    refine ⟨htakes, hseen, fun g hg => ?_⟩
    by_cases hgf : g = f
    · rw [hgf]
      exact hfits
    · exact (hothers g hg hgf).mpr (h g hg)
  · rintro ⟨htakes, hseen, hfits⟩ g hg
    by_cases hgf : g = f
    · rw [hgf]
      exact hself.mpr ⟨htakes, hseen, hfits f hf⟩
    · exact (hothers g hg hgf).mp (hfits g hg)

/-- The fields of an object are taken where each of them fits. -/
theorem takeFields_ok_iff (hknown : Apart known) (hsteady : ∀ f ∈ known, f.Steady)
    (hkeys : (Fields.keys fs).Nodup) (seen : List String) (r : σ) :
    (∃ s a, takeFields known seen r fs = .ok (s, a)) ↔ ∀ f ∈ known, f.Fits seen fs := by
  induction fs generalizing seen r with
  | nil =>
    refine ⟨fun _ f _ => ⟨fun _ _ _ h => ?_, fun _ _ _ _ h => absurd rfl h⟩, fun _ => ⟨_, _, rfl⟩⟩
    cases h
  | cons p fs ih =>
    obtain ⟨key, v⟩ := p
    obtain ⟨hkey, hkeys⟩ := List.nodup_cons.mp hkeys
    have hnone := Fields.get?_eq_none_iff.mpr hkey
    unfold takeFields
    cases hfind : known.find? (·.answersTo key) with
    | none =>
      have hother := find?_eq_none_iff.mp hfind
      rw [ih hkeys seen r]
      exact forall_congr' fun f => forall_congr' fun hf => (fits_cons_other_iff (hother f hf)).symm
    | some f =>
      obtain ⟨hf, hmem⟩ := (find?_eq_some_iff hknown).mp hfind
      rw [forall_fits_cons_iff hknown hf hmem hnone]
      dsimp only
      by_cases hseen : f.name ∈ seen
      · rw [if_pos (List.contains_iff_mem.mpr hseen)]
        refine iff_of_false ?_ fun h => h.2.1 hseen
        rintro ⟨_, _, h⟩
        cases h
      · rw [if_neg fun h => hseen (List.contains_iff_mem.mp h)]
        cases hread : f.read v r with
        | error e =>
          refine iff_of_false ?_ fun h => ?_
          · rintro ⟨_, _, h⟩
            cases h
          · obtain ⟨s, hs⟩ := h.1 r
            cases hread.symm.trans hs
        | ok s =>
          dsimp only
          rw [ih hkeys (f.name :: seen) s]
          exact ⟨fun h => ⟨hsteady f hf v r s hread, hseen, h⟩, fun h => h.2.2⟩

/-- The first field of an object that is taken is passed over, or it is read and not met again. -/
theorem takeFields_cons_eq_ok (hknown : Apart known) {s : List String} {r a : σ}
    (h : takeFields known seen r ((key, v) :: fs) = .ok (s, a)) :
    ((∀ f ∈ known, key ∉ f.names) ∧ takeFields known seen r fs = .ok (s, a)) ∨
      ∃ f ∈ known, key ∈ f.names ∧ f.name ∉ seen ∧
        ∃ r', f.read v r = .ok r' ∧ takeFields known (f.name :: seen) r' fs = .ok (s, a) := by
  unfold takeFields at h
  cases hfind : known.find? (·.answersTo key) with
  | none =>
    rw [hfind] at h
    exact .inl ⟨find?_eq_none_iff.mp hfind, h⟩
  | some f =>
    obtain ⟨hf, hmem⟩ := (find?_eq_some_iff hknown).mp hfind
    rw [hfind] at h
    dsimp only at h
    split at h
    · cases h
    · next hseen =>
      split at h
      · cases h
      · next r' hread =>
        exact .inr ⟨f, hf, hmem, fun hin => hseen (List.contains_iff_mem.mpr hin), r', hread, h⟩

/-- A field counts as seen where it is given under one of its names. -/
theorem seen_of_takeFields (hknown : Apart known) (hf : f ∈ known) {s : List String} {r a : σ}
    (h : takeFields known seen r fs = .ok (s, a)) :
    f.name ∈ s ↔ f.name ∈ seen ∨ ∃ name ∈ f.names, name ∈ Fields.keys fs := by
  induction fs generalizing seen r with
  | nil =>
    cases h
    simp [Fields.keys]
  | cons p fs ih =>
    obtain ⟨key, v⟩ := p
    have hcons : (∃ name ∈ f.names, name ∈ Fields.keys ((key, v) :: fs)) ↔
        key ∈ f.names ∨ ∃ name ∈ f.names, name ∈ Fields.keys fs := by
      simp only [Fields.keys, List.map_cons, List.mem_cons, and_or_left, exists_or, exists_eq_right]
    rw [hcons]
    rcases takeFields_cons_eq_ok hknown h with ⟨hother, h⟩ | ⟨g, hg, hmem, -, r', -, h⟩
    · rw [ih h, or_iff_right (hother f hf)]
    · have hname : f.name = g.name ↔ key ∈ f.names := by
        constructor
        · intro heq
          obtain rfl := eq_of_names hknown hf hg List.mem_cons_self (heq ▸ List.mem_cons_self)
          exact hmem
        · intro hkey
          rw [eq_of_names hknown hf hg hkey hmem]
      rw [ih h, List.mem_cons, hname, or_assoc, or_left_comm]

/-- What is given for a field can be read, and something is given where it has to be. -/
def Field.Accepts (f : Field σ) (fs : Fields) : Prop :=
  f.Fits [] fs ∧ (f.required = true → ∃ name ∈ f.names, name ∈ Fields.keys fs)

/-- An object can be read as a record where each field accepts it. -/
theorem record_ok_iff (hknown : Apart known) (hsteady : ∀ f ∈ known, f.Steady)
    (hkeys : (Fields.keys fs).Nodup) {name : String} {empty : σ} :
    (∃ a, record name known empty (.obj fs) = .ok a) ↔ ∀ f ∈ known, f.Accepts fs := by
  have htaken := takeFields_ok_iff hknown hsteady hkeys [] empty
  cases htake : takeFields known [] empty fs with
  | error e =>
    refine iff_of_false (fun ⟨a, h⟩ => ?_) fun h => ?_
    · rw [record, htake] at h
      cases h
    · obtain ⟨s, a, hok⟩ := htaken.mpr fun f hf => (h f hf).1
      cases htake.symm.trans hok
  | ok taken =>
    obtain ⟨s, a⟩ := taken
    have hfits := htaken.mp ⟨s, a, htake⟩
    have hseen (f : Field σ) (hf : f ∈ known) : f.name ∈ s ↔ ∃ name ∈ f.names, name ∈ Fields.keys fs := by
      rw [seen_of_takeFields hknown hf htake]
      exact or_iff_right List.not_mem_nil
    rw [record, htake]
    dsimp only
    cases hfind : known.find? fun f => f.required && !s.contains f.name with
    | some f =>
      have hf := List.mem_of_find?_eq_some hfind
      have hmissing := List.find?_some hfind
      refine iff_of_false (fun ⟨_, h⟩ => by cases h) fun h => ?_
      simp only [Bool.and_eq_true, Bool.not_eq_true', List.contains_eq_mem, decide_eq_false_iff_not] at hmissing
      exact hmissing.2 ((hseen f hf).mpr ((h f hf).2 hmissing.1))
    | none =>
      refine iff_of_true ⟨a, rfl⟩ fun f hf => ⟨hfits f hf, fun hrequired => ?_⟩
      have hthere := List.find?_eq_none.mp hfind f hf
      simp only [hrequired, Bool.true_and, Bool.not_eq_true', List.contains_eq_mem,
        decide_eq_false_iff_not, not_not] at hthere
      exact (hseen f hf).mp hthere

section

variable {α : Type} {name other : String} {decode : Json → Decoded α} {set : α → σ → σ}

theorem accepts_defaulted_iff (empty : σ) : (defaulted name decode set).Accepts fs ↔
    ∀ v, Fields.get? name fs = some v → ∃ a, decode v = .ok a := by
  rw [Field.Accepts, ← fits_map_iff empty]
  exact and_iff_left fun h => absurd h Bool.false_ne_true

theorem accepts_defaulted_orNamed_iff (empty : σ) (hother : name ≠ other) :
    ((defaulted name decode set).orNamed other).Accepts fs ↔
      (∀ v, Fields.get? name fs = some v → ∃ a, decode v = .ok a) ∧
      ∀ v, Fields.get? other fs = some v → Fields.get? name fs = none ∧ ∃ a, decode v = .ok a := by
  rw [Field.Accepts, ← fits_map_orNamed_iff empty hother]
  exact and_iff_left fun h => absurd h Bool.false_ne_true

theorem accepts_required_iff (empty : σ) : (required name decode set).Accepts fs ↔
    ∃ v, Fields.get? name fs = some v ∧ ∃ a, decode v = .ok a := by
  constructor
  · rintro ⟨hfits, hgiven⟩
    obtain ⟨key, hkey, hmem⟩ := hgiven rfl
    obtain rfl := List.mem_singleton.mp hkey
    obtain ⟨v, hv⟩ := Option.isSome_iff_exists.mp (Fields.mem_keys_iff.mp hmem)
    exact ⟨v, hv, (fits_map_iff empty).mp hfits v hv⟩
  · rintro ⟨v, hv, hdecode⟩
    refine ⟨(fits_map_iff empty).mpr fun w hw => ?_, fun _ => ⟨name, List.mem_cons_self, ?_⟩⟩
    · rwa [Option.some.inj (hw.symm.trans hv)]
    · rw [Fields.mem_keys_iff, hv]
      rfl

theorem accepts_required_orNamed_iff (empty : σ) (hother : name ≠ other) :
    ((required name decode set).orNamed other).Accepts fs ↔
      (Fields.get? name fs).isSome ≠ (Fields.get? other fs).isSome ∧
      ∀ key ∈ [name, other], ∀ v, Fields.get? key fs = some v → ∃ a, decode v = .ok a := by
  have hgiven : (∃ key ∈ [name, other], key ∈ Fields.keys fs) ↔
      (Fields.get? name fs).isSome ∨ (Fields.get? other fs).isSome := by
    simp only [List.exists_mem_cons_iff, List.not_mem_nil, false_and, exists_false, or_false,
      Fields.mem_keys_iff]
  have haccepts : ((required name decode set).orNamed other).Accepts fs ↔
      ((∀ v, Fields.get? name fs = some v → ∃ a, decode v = .ok a) ∧
        ∀ v, Fields.get? other fs = some v → Fields.get? name fs = none ∧ ∃ a, decode v = .ok a) ∧
      ((Fields.get? name fs).isSome ∨ (Fields.get? other fs).isSome) := by
    rw [Field.Accepts, ← hgiven]
    exact and_congr (fits_map_orNamed_iff empty hother) (imp_iff_right rfl)
  rw [haccepts, List.forall_mem_cons, List.forall_mem_singleton]
  cases Fields.get? name fs <;> cases Fields.get? other fs <;> simp

end

/-! ## What becomes of a field -/

/-- A part of a record that one field sets is what is read of the value given for it. -/
theorem part_of_takes (hknown : Apart known) (hf : f ∈ known) {part : σ → β}
    (hspares : ∀ g ∈ known, g ≠ f → g.Spares part) {s : List String} {r a : σ}
    (h : takeFields known seen r fs = .ok (s, a)) :
    ((∀ name ∈ f.names, name ∉ Fields.keys fs) ∧ part a = part r) ∨
      ∃ p ∈ fs, p.1 ∈ f.names ∧ ∃ r' s', f.read p.2 r' = .ok s' ∧ part a = part s' := by
  induction fs generalizing seen r with
  | nil =>
    cases h
    exact .inl ⟨fun _ _ => List.not_mem_nil, rfl⟩
  | cons p fs ih =>
    obtain ⟨key, v⟩ := p
    have hmissing (hkey : key ∉ f.names) (hrest : ∀ name ∈ f.names, name ∉ Fields.keys fs) :
        ∀ name ∈ f.names, name ∉ Fields.keys ((key, v) :: fs) := by
      intro name hname hmem
      rcases List.mem_cons.mp hmem with rfl | hmem
      · exact hkey hname
      · exact hrest name hname hmem
    rcases takeFields_cons_eq_ok hknown h with ⟨hother, h⟩ | ⟨g, hg, hmem, -, r', hread, h⟩
    · rcases ih h with ⟨hrest, hpart⟩ | ⟨q, hq, hlater⟩
      · exact .inl ⟨hmissing (hother f hf) hrest, hpart⟩
      · exact .inr ⟨q, List.mem_cons_of_mem _ hq, hlater⟩
    · rcases ih h with ⟨hrest, hpart⟩ | ⟨q, hq, hlater⟩
      · by_cases hgf : g = f
        · subst hgf
          exact .inr ⟨(key, v), List.mem_cons_self, hmem, r, r', hread, hpart⟩
        · have hkey : key ∉ f.names := fun hmem' => hgf (eq_of_names hknown hg hf hmem hmem')
          exact .inl ⟨hmissing hkey hrest, hpart.trans (hspares g hg hgf v r r' hread)⟩
      · exact .inr ⟨q, List.mem_cons_of_mem _ hq, hlater⟩

theorem part_of_record (hknown : Apart known) (hf : f ∈ known) {part : σ → β}
    (hspares : ∀ g ∈ known, g ≠ f → g.Spares part) (hkeys : (Fields.keys fs).Nodup) {name : String}
    {empty a : σ} (h : record name known empty (.obj fs) = .ok a) :
    ((∀ name ∈ f.names, name ∉ Fields.keys fs) ∧ part a = part empty) ∨
      ∃ name ∈ f.names, ∃ v r s, Fields.get? name fs = some v ∧ f.read v r = .ok s ∧ part a = part s := by
  unfold record at h
  dsimp only at h
  split at h
  · cases h
  · next seen r htake =>
    split at h
    · cases h
    · cases h
      rcases part_of_takes hknown hf hspares htake with hnone | ⟨p, hp, hname, r', s, hread, hpart⟩
      · exact .inl hnone
      · exact .inr ⟨p.1, hname, p.2, r', s, Fields.get?_of_mem hkeys hp, hread, hpart⟩

/-- The part that a field sets is the value given for it, decoded. -/
theorem decoded_of_record {α : Type} {decode : Json → Decoded α} {set : α → σ → σ} {part : σ → α}
    (hknown : Apart known) (hf : f ∈ known) (hread : f.read = fun v r => (decode v).map (set · r))
    (hset : ∀ a r, part (set a r) = a) (hspares : ∀ g ∈ known, g ≠ f → g.Spares part)
    (hkeys : (Fields.keys fs).Nodup) {name : String} {empty a : σ}
    (h : record name known empty (.obj fs) = .ok a) :
    ((∀ key ∈ f.names, Fields.get? key fs = none) ∧ part a = part empty) ∨
      ∃ key ∈ f.names, ∃ v, Fields.get? key fs = some v ∧ decode v = .ok (part a) := by
  rcases part_of_record hknown hf hspares hkeys h with ⟨hnone, hpart⟩ | ⟨key, hkey, v, r, s, hv, hs, hpart⟩
  · exact .inl ⟨fun key hkey => Fields.get?_eq_none_iff.mpr (hnone key hkey), hpart⟩
  · rw [hread] at hs
    obtain ⟨b, hb, rfl⟩ := map_eq_ok hs
    rw [hset] at hpart
    exact .inr ⟨key, hkey, v, hv, hpart ▸ hb⟩

end SchemaRest.Decode
