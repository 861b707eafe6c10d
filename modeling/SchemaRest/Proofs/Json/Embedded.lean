import Mathlib.Data.List.Forall2
import SchemaRest.Proofs.Json.Canonical
import SchemaRest.Proofs.Json.Lengths
import SchemaRest.Proofs.Json.Records

/-!
# Embedded texts

What is written in a text stands for a value. Most of it stands for itself; an object that has the mark for
its only key, with a JSON text under it, stands for what that text says. Any other object that starts with
the mark stands for nothing, and nothing that it is inside of does. `read?_eq_some_iff` says that the reader
finds what a text says, however deep texts are embedded in one another.
-/

namespace SchemaRest.Json

/-- An object that starts with the mark. -/
def Marked : Json → Prop
  | .obj ((key, _) :: _) => key = Embedded.mark
  | _ => False

/-- What is written stands for a value. -/
inductive Stands : Json → Json → Prop
  | null : Stands .null .null
  | bool (b : Bool) : Stands (.bool b) (.bool b)
  | num (n : Number) : Stands (.num n) (.num n)
  | str (s : String) : Stands (.str s) (.str s)
  | arr {items values : List Json} (h : List.Forall₂ Stands items values) : Stands (.arr items) (.arr values)
  | obj {fields values : Fields} (hmark : ¬Marked (.obj fields)) (hkeys : Fields.keys values = Fields.keys fields)
      (h : List.Forall₂ Stands (fields.map (·.2)) (values.map (·.2))) : Stands (.obj fields) (.obj values)
  | embedded {text : String} {w v : Json} (htext : readOutlined? .whole text = some w) (h : Stands w v) :
      Stands (.obj [(Embedded.mark, .str text)]) v

/-- A text is JSON and says a value, with objects as maps. -/
def Says (text : String) (v : Json) : Prop :=
  ∃ w u, readOutlined? .whole text = some w ∧ Stands w u ∧ v = u.canonical

/-- Some object starts with the mark and stands for nothing. -/
inductive Misembedded : Json → Prop
  | here {v : Json} (hmark : v.Marked)
      (h : ∀ text u, v = .obj [(Embedded.mark, .str text)] → ¬Says text u) : Misembedded v
  | inside {u v : Json} (hu : u ∈ v.parts) (h : Misembedded u) : Misembedded v

/-! ## Lists of values -/

theorem forall₂_congr_mem {α β : Type} {R S : α → β → Prop} {as : List α} {bs : List β}
    (h : ∀ a ∈ as, ∀ b, R a b ↔ S a b) : List.Forall₂ R as bs ↔ List.Forall₂ S as bs := by
  induction as generalizing bs with
  | nil => simp
  | cons a as ih =>
    obtain ⟨ha, has⟩ := List.forall_mem_cons.mp h
    rw [List.forall₂_cons_left_iff, List.forall₂_cons_left_iff]
    simp only [ha, ih has]

theorem exists_forall₂_iff {α β : Type} {R : α → β → Prop} {as : List α} :
    (∃ bs, List.Forall₂ R as bs) ↔ ∀ a ∈ as, ∃ b, R a b := by
  induction as with
  | nil => simp
  | cons a as ih =>
    rw [List.forall_mem_cons, ← ih]
    constructor
    · rintro ⟨bs, h⟩
      cases h with
      | cons hb hbs => exact ⟨⟨_, hb⟩, _, hbs⟩
    · rintro ⟨⟨b, hb⟩, bs, hbs⟩
      exact ⟨b :: bs, .cons hb hbs⟩

/-! ## Replacing embedded texts -/

namespace Embedded

variable {read : String → Option Json}

theorem resolveItems_eq_ok_iff {done items out : List Json} : resolveItems read done items = .ok out ↔
    ∃ values, List.Forall₂ (fun v w => resolve read v = .ok w) items values ∧ out = done.reverse ++ values := by
  induction items generalizing done with
  | nil => simp [resolveItems, eq_comm]
  | cons v items ih =>
    rw [resolveItems]
    constructor
    · intro h
      split at h
      · cases h
      · next w hw =>
        obtain ⟨values, hvalues, rfl⟩ := ih.mp h
        exact ⟨w :: values, .cons hw hvalues, by simp⟩
    · rintro ⟨values, h, rfl⟩
      cases h with
      | @cons _ w _ values hw hvalues =>
        rw [hw]
        exact ih.mpr ⟨values, hvalues, by simp⟩

theorem resolveFields_eq_ok_iff {done fields out : Fields} : resolveFields read done fields = .ok out ↔
    ∃ values : Fields, Fields.keys values = Fields.keys fields ∧
      List.Forall₂ (fun v w => resolve read v = .ok w) (fields.map (·.2)) (values.map (·.2)) ∧
      out = done.reverse ++ values := by
  induction fields generalizing done with
  | nil =>
    rw [resolveFields]
    constructor
    · rintro ⟨⟩
      exact ⟨[], rfl, .nil, (List.append_nil _).symm⟩
    · rintro ⟨values, hkeys, -, rfl⟩
      obtain rfl : values = [] := List.map_eq_nil_iff.mp hkeys
      rw [List.append_nil]
  | cons p fields ih =>
    obtain ⟨key, v⟩ := p
    rw [resolveFields]
    constructor
    · intro h
      split at h
      · cases h
      · next w hw =>
        obtain ⟨values, hkeys, hvalues, rfl⟩ := ih.mp h
        exact ⟨(key, w) :: values, congrArg (key :: ·) hkeys, .cons hw hvalues, by simp⟩
    · rintro ⟨values, hkeys, h, rfl⟩
      obtain _ | ⟨⟨key', w⟩, values⟩ := values
      · cases hkeys
      · obtain ⟨hkey, hrest⟩ := List.cons.inj hkeys
        dsimp only at hkey
        cases h with
        | cons hw hvalues =>
          rw [hw]
          exact ih.mpr ⟨values, hrest, hvalues, by simp [hkey]⟩

theorem resolve_marked_eq_ok_iff {text : String} {v : Json} :
    resolve read (.obj [(mark, .str text)]) = .ok v ↔ read text = some v := by
  rw [resolve, if_pos rfl]
  cases read text <;> simp

/-- An object that starts with the mark is replaced by the value of the text in it, or not at all. -/
theorem eq_marked_of_resolve {w v : Json} (hmark : w.Marked) (h : resolve read w = .ok v) :
    ∃ text, w = .obj [(mark, .str text)] := by
  match w with
  | .obj ((key, given) :: rest) =>
    unfold resolve at h
    rw [if_pos (show key = mark from hmark)] at h
    split at h
    · next text =>
      split at h
      · cases h
      · split at h
        · next hrest =>
          rw [List.isEmpty_iff.mp hrest, show key = mark from hmark]
          exact ⟨text, rfl⟩
        · cases h
    · cases h

theorem resolve_arr_eq_ok_iff {items : List Json} {v : Json} : resolve read (.arr items) = .ok v ↔
    ∃ values, List.Forall₂ (fun v w => resolve read v = .ok w) items values ∧ v = .arr values := by
  rw [resolve, map_eq_ok_iff]
  constructor
  · rintro ⟨out, hout, rfl⟩
    obtain ⟨values, hvalues, rfl⟩ := resolveItems_eq_ok_iff.mp hout
    exact ⟨_, hvalues, rfl⟩
  · rintro ⟨values, hvalues, rfl⟩
    exact ⟨_, resolveItems_eq_ok_iff.mpr ⟨values, hvalues, rfl⟩, rfl⟩

theorem resolve_obj_eq_ok_iff {fields : Fields} (hmark : ¬Marked (.obj fields)) {v : Json} :
    resolve read (.obj fields) = .ok v ↔ ∃ values : Fields, Fields.keys values = Fields.keys fields ∧
      List.Forall₂ (fun v w => resolve read v = .ok w) (fields.map (·.2)) (values.map (·.2)) ∧
      v = .obj values := by
  have hfields : resolve read (.obj fields) = (resolveFields read [] fields).map .obj := by
    cases fields with
    | nil => rfl
    | cons p fields =>
      unfold resolve
      exact if_neg hmark
  rw [hfields, map_eq_ok_iff]
  constructor
  · rintro ⟨out, hout, rfl⟩
    obtain ⟨values, hkeys, hvalues, rfl⟩ := resolveFields_eq_ok_iff.mp hout
    exact ⟨_, hkeys, hvalues, rfl⟩
  · rintro ⟨values, hkeys, hvalues, rfl⟩
    exact ⟨_, resolveFields_eq_ok_iff.mpr ⟨values, hkeys, hvalues, rfl⟩, rfl⟩

end Embedded

theorem stands_marked_iff {text : String} {v : Json} : Stands (.obj [(Embedded.mark, .str text)]) v ↔
    ∃ w, readOutlined? .whole text = some w ∧ Stands w v := by
  constructor
  · intro h
    cases h with
    | obj hmark => exact absurd rfl hmark
    | embedded htext h => exact ⟨_, htext, h⟩
  · rintro ⟨w, htext, h⟩
    exact .embedded htext h

theorem stands_arr_iff {items : List Json} {v : Json} : Stands (.arr items) v ↔
    ∃ values, List.Forall₂ Stands items values ∧ v = .arr values := by
  constructor
  · intro h
    cases h with
    | arr h => exact ⟨_, h, rfl⟩
  · rintro ⟨values, h, rfl⟩
    exact .arr h

theorem stands_obj_iff {fields : Fields} (hmark : ¬Marked (.obj fields)) {v : Json} :
    Stands (.obj fields) v ↔ ∃ values : Fields, Fields.keys values = Fields.keys fields ∧
      List.Forall₂ Stands (fields.map (·.2)) (values.map (·.2)) ∧ v = .obj values := by
  constructor
  · intro h
    cases h with
    | obj _ hkeys h => exact ⟨_, hkeys, h, rfl⟩
    | embedded => exact absurd rfl hmark
  · rintro ⟨values, hkeys, h, rfl⟩
    exact .obj hmark hkeys h

/-- Where embedded texts are read as the values they stand for, replacing them gives what is meant. -/
theorem resolve_eq_ok_iff {read : String → Option Json} {n : Nat}
    (hread : ∀ s, s.length < n → ∀ v, read s = some v ↔ ∃ w, readOutlined? .whole s = some w ∧ Stands w v)
    {w : Json} (hw : TextsBelow n w) (v : Json) : Embedded.resolve read w = .ok v ↔ Stands w v := by
  induction w using induct_parts generalizing v with
  | h w ih =>
    have hparts : ∀ u ∈ w.parts, ∀ x, Embedded.resolve read u = .ok x ↔ Stands u x :=
      fun u hu x => ih u hu (hw.part hu) x
    by_cases hmark : w.Marked
    · constructor
      · intro h
        obtain ⟨text, rfl⟩ := Embedded.eq_marked_of_resolve hmark h
        have htext : text.length < n := (hw.part List.mem_cons_self) text (.inl rfl)
        exact stands_marked_iff.mpr ((hread text htext v).mp (Embedded.resolve_marked_eq_ok_iff.mp h))
      · intro h
        cases h with
        | @embedded text w v hread' h =>
          have htext : text.length < n := (hw.part List.mem_cons_self) text (.inl rfl)
          exact Embedded.resolve_marked_eq_ok_iff.mpr ((hread text htext v).mpr ⟨w, hread', h⟩)
        | obj hunmarked => exact absurd hmark hunmarked
        | null | bool | num | str | arr => exact absurd hmark id
    · cases w with
      | null | bool | num | str =>
        constructor <;> intro h <;> cases h
        · constructor
        · rfl
      | arr items =>
        rw [stands_arr_iff, Embedded.resolve_arr_eq_ok_iff]
        exact exists_congr fun values => and_congr_left fun _ => forall₂_congr_mem hparts
      | obj fields =>
        rw [stands_obj_iff hmark, Embedded.resolve_obj_eq_ok_iff hmark]
        exact exists_congr fun values => and_congr_right fun _ =>
          and_congr_left fun _ => forall₂_congr_mem hparts

/-! ## Reading -/

theorem readKept_eq_some_iff {depth : Nat} {s : String} (hs : s.length < depth) {v : Json} :
    readKept depth s = some v ↔ ∃ w, readOutlined? .whole s = some w ∧ Stands w v := by
  induction depth generalizing s v with
  | zero => exact absurd hs (Nat.not_lt_zero _)
  | succ depth ih =>
    rw [readKept, Option.bind_eq_bind, Option.bind_eq_some_iff]
    refine exists_congr fun w => and_congr_right fun hw => ?_
    have hbelow : TextsBelow depth w := (textsBelow_of_readOutlined? hw).mono (Nat.le_of_lt_succ hs)
    rw [← resolve_eq_ok_iff (fun s hs v => ih hs) hbelow]
    cases Embedded.resolve (readKept depth) w <;> simp [Except.toOption]

theorem read?_eq_some_iff {text : String} {v : Json} : read? text = some v ↔ Says text v := by
  rw [read?_eq, readWritten?, Option.map_eq_some_iff]
  simp only [readKept_eq_some_iff (Nat.lt_succ_self _), Says]
  constructor
  · rintro ⟨u, ⟨w, hw, hu⟩, rfl⟩
    exact ⟨w, u, hw, hu, rfl⟩
  · rintro ⟨w, u, hw, hu, rfl⟩
    exact ⟨u, ⟨w, hw, hu⟩, rfl⟩

/-! ## What stands for nothing -/

theorem exists_stands_iff_parts {w : Json} (hmark : ¬w.Marked) :
    (∃ v, Stands w v) ↔ ∀ u ∈ w.parts, ∃ v, Stands u v := by
  cases w with
  | null => exact iff_of_true ⟨_, .null⟩ nofun
  | bool b => exact iff_of_true ⟨_, .bool b⟩ nofun
  | num n => exact iff_of_true ⟨_, .num n⟩ nofun
  | str s => exact iff_of_true ⟨_, .str s⟩ (List.forall_mem_nil _)
  | arr items =>
    rw [parts, ← exists_forall₂_iff]
    simp only [stands_arr_iff]
    constructor
    · rintro ⟨_, values, h, -⟩
      exact ⟨values, h⟩
    · rintro ⟨values, h⟩
      exact ⟨_, values, h, rfl⟩
  | obj fields =>
    rw [parts, ← exists_forall₂_iff]
    simp only [stands_obj_iff hmark]
    constructor
    · rintro ⟨_, values, -, h, -⟩
      exact ⟨_, h⟩
    · rintro ⟨values, h⟩
      have hlength : (Fields.keys fields).length = values.length := by
        simpa [Fields.keys] using h.length_eq
      refine ⟨_, (Fields.keys fields).zip values, List.map_fst_zip hlength.le, ?_, rfl⟩
      rwa [List.map_snd_zip hlength.ge]

theorem not_misembedded_str {s : String} : ¬Misembedded (.str s) := by
  intro h
  cases h with
  | here hmark => exact hmark
  | inside hu => cases hu

theorem exists_stands_marked_iff {w : Json} (hmark : w.Marked) :
    (∃ v, Stands w v) ↔ ∃ text v, w = .obj [(Embedded.mark, .str text)] ∧ Says text v := by
  constructor
  · rintro ⟨v, hv⟩
    cases hv with
    | embedded htext h => exact ⟨_, _, rfl, _, v, htext, h, rfl⟩
    | obj hunmarked => exact absurd hmark hunmarked
    | null | bool | num | str | arr => exact absurd hmark id
  · rintro ⟨text, v, rfl, u, w, htext, h, -⟩
    exact ⟨w, .embedded htext h⟩

/-- What is written stands for a value unless an object in it misuses the mark. -/
theorem exists_stands_iff {w : Json} : (∃ v, Stands w v) ↔ ¬Misembedded w := by
  induction w using induct_parts with
  | h w ih =>
    by_cases hmark : w.Marked
    · rw [exists_stands_marked_iff hmark]
      constructor
      · rintro ⟨text, v, rfl, hsays⟩ hmis
        cases hmis with
        | here _ h => exact h text v rfl hsays
        | inside hu hmis =>
          obtain rfl := List.mem_singleton.mp hu
          exact not_misembedded_str hmis
      · intro hmis
        by_contra hnone
        exact hmis (.here hmark fun text v hw hsays => hnone ⟨text, v, hw, hsays⟩)
    · rw [exists_stands_iff_parts hmark]
      constructor
      · intro h hmis
        cases hmis with
        | here hmark' => exact hmark hmark'
        | inside hu hmis => exact (ih _ hu).mp (h _ hu) hmis
      · intro h u hu
        exact (ih u hu).mpr fun hmis => h (.inside hu hmis)

/-- A text is not read if it is no JSON, or misuses the mark. -/
theorem read?_eq_none_iff {text : String} : read? text = none ↔
    readOutlined? .whole text = none ∨ ∃ w, readOutlined? .whole text = some w ∧ Misembedded w := by
  have hnone : read? text = none ↔ ∀ w, readOutlined? .whole text = some w → ¬∃ v, Stands w v := by
    rw [Option.eq_none_iff_forall_ne_some]
    constructor
    · rintro h w hw ⟨v, hv⟩
      exact h _ (read?_eq_some_iff.mpr ⟨w, v, hw, hv, rfl⟩)
    · intro h v hv
      obtain ⟨w, u, hw, hu, -⟩ := read?_eq_some_iff.mp hv
      exact h w hw ⟨u, hu⟩
  rw [hnone]
  simp only [exists_stands_iff, not_not]
  cases readOutlined? .whole text <;> simp

end SchemaRest.Json
