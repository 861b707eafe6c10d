import Mathlib.Data.List.Forall2
import SchemaRest.Proofs.Json.Fields
import SchemaRest.Proofs.Json.Inside
import SchemaRest.Proofs.Policy.Answers

/-!
# Bodies made from templates

A template names parts of a request by texts that start with `$.`. `resolved` replaces such texts wherever
they stand; in the body that is posted only those are replaced that are values of the template themselves.
`posted_of_template` says when that makes no difference: where every such text inside of an array or an
object is found to be itself. What takes the place of a text is left as it is, so nothing that a request
brings along is taken for a name.
-/

namespace SchemaRest.Policy

open Json (Inside)

variable {data : Json}

/-! ## Replacing every reference -/

mutual

/-- A value with every reference in it replaced by what it leads to, or by null. -/
def resolved (data : Json) : Json → Json
  | .str s => if isReference s then (data.atPath? s).getD .null else .str s
  | .arr items => .arr (resolvedItems data items)
  | .obj fields => .obj (resolvedFields data fields)
  | v => v

def resolvedItems (data : Json) : List Json → List Json
  | [] => []
  | v :: rest => resolved data v :: resolvedItems data rest

def resolvedFields (data : Json) : List (String × Json) → List (String × Json)
  | [] => []
  | (key, v) :: rest => (key, resolved data v) :: resolvedFields data rest

end

@[simp] theorem resolved_arr (items : List Json) :
    resolved data (.arr items) = .arr (items.map (resolved data)) := by
  rw [resolved]
  induction items with
  | nil => rfl
  | cons v items ih => simpa [resolvedItems] using ih

@[simp] theorem resolved_obj (fields : Fields) :
    resolved data (.obj fields) = .obj (fields.mapValues (resolved data)) := by
  rw [resolved]
  induction fields with
  | nil => rfl
  | cons p fields ih => simpa [resolvedFields, Fields.mapValues] using ih

/-- A text that is a reference leads to itself. -/
def LeadsToItself (data : Json) (s : String) : Prop := isReference s = true → data.atPath? s = some (.str s)

theorem resolved_str_eq_iff {s : String} : resolved data (.str s) = .str s ↔ LeadsToItself data s := by
  rw [resolved, LeadsToItself]
  split
  · next h =>
    cases hfound : data.atPath? s <;> simp [h]
  · next h => simp [h]

theorem resolved_eq_iff_parts {v : Json} (hv : ∀ s, v ≠ .str s) :
    resolved data v = v ↔ ∀ u ∈ v.parts, resolved data u = u := by
  cases v with
  | null | bool | num => simp [resolved, Json.parts]
  | str s => exact absurd rfl (hv s)
  | arr items =>
    rw [resolved_arr, Json.arr.injEq]
    nth_rewrite 2 [← List.map_id items]
    exact List.map_eq_map_iff
  | obj fields =>
    have hfields : Fields.mapValues (resolved data) fields = fields ↔
        ∀ p ∈ fields, resolved data p.2 = p.2 := by
      nth_rewrite 2 [← List.map_id fields]
      rw [Fields.mapValues, List.map_eq_map_iff]
      simp [Prod.ext_iff]
    rw [resolved_obj, Json.obj.injEq, hfields, Json.parts, List.forall_mem_map]

/-- A value is as it was where every reference in it leads to itself. -/
theorem resolved_eq_self_iff (v : Json) :
    resolved data v = v ↔ ∀ s, v = .str s ∨ Inside (.str s) v → LeadsToItself data s := by
  induction v using Json.induct_parts with
  | h v ih =>
    by_cases hv : ∃ s, v = .str s
    · obtain ⟨s, rfl⟩ := hv
      simp [resolved_str_eq_iff, Json.not_inside_str]
    · have hne : ∀ s, v ≠ .str s := fun s h => hv ⟨s, h⟩
      rw [resolved_eq_iff_parts hne]
      constructor
      · rintro h s (hs | hs)
        · exact absurd hs (hne s)
        · obtain ⟨w, hw, hinside⟩ := Json.inside_iff.mp hs
          exact (ih w hw).mp (h w hw) s (hinside.imp_left Eq.symm)
      · intro h u hu
        refine (ih u hu).mpr fun s hs => h s (.inr (Json.inside_iff.mpr ⟨u, hu, ?_⟩))
        exact hs.imp_left Eq.symm

/-! ## Replacing the references of a template -/

/-- What a value of a template becomes: a reference what it leads to, as that stands, or null if it leads
nowhere. Everything else stays, with all that is inside of it. -/
inductive Becomes (data : Json) : Json → Json → Prop
  | found {s : String} {steps : List String} {v : Json} (hsteps : Json.pathSteps? s = some steps)
      (h : data.Leads steps v) : Becomes data (.str s) v
  | absent {s : String} {steps : List String} (hsteps : Json.pathSteps? s = some steps)
      (h : ∀ v, ¬data.Leads steps v) : Becomes data (.str s) .null
  | kept {v : Json} (h : ∀ s, v = .str s → isReference s = false) : Becomes data v v

theorem becomes_fill (v : Json) : Becomes data v (fill data v) := by
  cases v with
  | null | bool | num | arr | obj => exact .kept fun s h => by cases h
  | str s =>
    rw [fill]
    split
    · next h =>
      have hsteps : ∃ steps, Json.pathSteps? s = some steps := by
        rw [← Option.ne_none_iff_exists', Json.pathSteps?, ne_eq, Option.map_eq_none_iff,
          Text.after?_eq_none_iff]
        simpa [isReference] using h
      obtain ⟨steps, hsteps⟩ := hsteps
      rw [Json.atPath?, hsteps, Option.bind_some]
      cases hfound : data.at? steps with
      | some v => exact .found hsteps (Json.at?_eq_some_iff.mp hfound)
      | none =>
        refine .absent hsteps fun v hv => ?_
        rw [Json.at?_eq_some_iff.mpr hv] at hfound
        cases hfound
    · next h =>
      refine .kept fun t ht => ?_
      cases ht
      simpa using h

theorem fill_eq_resolved_iff (v : Json) :
    fill data v = resolved data v ↔ ∀ s, Inside (.str s) v → LeadsToItself data s := by
  by_cases hv : ∃ s, v = .str s
  · obtain ⟨s, rfl⟩ := hv
    simp [fill, resolved, Json.not_inside_str]
  · have hne : ∀ s, v ≠ .str s := fun s h => hv ⟨s, h⟩
    have hfill : fill data v = v := by
      cases v with
      | str s => exact absurd rfl (hne s)
      | null | bool | num | arr | obj => rfl
    rw [hfill, eq_comm, resolved_eq_self_iff]
    simp [hne]

/-- The body that a template makes of some data. -/
structure Filled (template : Fields) (data body : Json) : Prop where
  /-- It has the keys of the template, and under each of them what becomes of the value there. -/
  values : ∃ fields, body = .obj fields ∧
    List.Forall₂ (fun p e => e.1 = p.1 ∧ Becomes data p.2 e.2) (Fields.ofList template) fields
  /-- It is the template with every reference replaced if and only if those inside of its values make no
  difference. -/
  resolved_iff : body = resolved data (.ofFields template) ↔
    ∀ p ∈ Fields.ofList template, ∀ s, Inside (.str s) p.2 → LeadsToItself data s

theorem fillBody_eq (template : Fields) :
    fillBody template data = .obj ((Fields.ofList template).mapValues (fill data)) := by
  rw [← Fields.ofList_mapValues]
  rfl

theorem filled_fillBody (template : Fields) (data : Json) : Filled template data (fillBody template data) where
  values := by
    refine ⟨_, fillBody_eq template, ?_⟩
    rw [Fields.mapValues, List.forall₂_map_right_iff, List.forall₂_same]
    exact fun p _ => ⟨rfl, becomes_fill p.2⟩
  resolved_iff := by
    rw [fillBody_eq, Json.ofFields, resolved_obj, Json.obj.injEq, Fields.mapValues, Fields.mapValues,
      List.map_eq_map_iff]
    simp only [Prod.mk.injEq, true_and]
    exact forall₂_congr fun p _ => fill_eq_resolved_iff p.2

/-- One question is posted, if anybody can be asked, and its body is the template of the policy filled from
the permission, the random text and the request. References inside of arrays and objects are posted as they
are written. -/
theorem posted_of_template (d : Delegation) (c : Context) (permission : String) (w : World) :
    let data := c.templateData permission w.random
    (allowed (.delegated d) c permission w).2.asked =
        w.asked ++ heard w.policy (question? (.delegated d) c permission w.random) ∧
      (∀ q, question? (.delegated d) c permission w.random = some q ↔
        Posts (d.baseUrl ++ d.endpoint) (fillHeaders d.template.headers data)
          (fillBody d.template.body data) q) ∧
      Filled d.template.body data (fillBody d.template.body data) := by
  refine ⟨asked_allowed _ c permission w, fun q => ?_, filled_fillBody _ _⟩
  rw [← requestTo_eq_ok_iff, question?, ofTemplate]
  cases requestTo (d.baseUrl ++ d.endpoint) _ _ <;> simp [Except.toOption]

/-- A request whose path looks like a name. -/
def misleading : Context := ⟨"GET", "$.permissionString", [], []⟩

example : fillBody [("path", .str "$.req.path")] (misleading.templateData "users:select" "") =
    .obj [("path", .str "$.permissionString")] := by rfl

/-- A policy that wants the permission inside of an object. -/
def nested : Delegation where
  baseUrl := "http://[::1]"
  endpoint := "/access"
  template := ⟨[("who", .obj [("permission", .str "$.permissionString")])], []⟩
  test := ⟨"$.allowed", .bool true⟩

/-- A service whose policy can be asked. -/
def asking : World := { World.initial "" "0a1b2c3" with policy := .replying [] }

/-- The service is asked about a text that names the permission and not about the permission. -/
theorem nested_unresolved :
    let unresolved : Json := .obj [("who", .obj [("permission", .str "$.permissionString")])]
    let meant : Json := .obj [("who", .obj [("permission", .str "users:select")])]
    let data := misleading.templateData "users:select" asking.random
    (allowed (.delegated nested) misleading "users:select" asking).2.asked =
        [⟨"http://[::1]/access", [contentType], unresolved⟩] ∧
      resolved data (.ofFields nested.template.body) = meant ∧ unresolved ≠ meant := by
  intro unresolved meant data
  have hposts : Posts "http://[::1]/access" [] unresolved ⟨"http://[::1]/access", [contentType], unresolved⟩ :=
    ⟨⟨⟨"http", none, some "[::1]", none, .steps ["access"], none, none⟩, by decide +kernel, by decide +kernel,
      by decide +kernel, by decide +kernel⟩, rfl, rfl, rfl⟩
  have hquestion : question? (.delegated nested) misleading "users:select" asking.random =
      some ⟨"http://[::1]/access", [contentType], unresolved⟩ :=
    congrArg Except.toOption (requestTo_eq_ok_iff.mpr hposts)
  refine ⟨?_, rfl, by simp [unresolved, meant]⟩
  rw [asked_allowed, hquestion]
  rfl

end SchemaRest.Policy
