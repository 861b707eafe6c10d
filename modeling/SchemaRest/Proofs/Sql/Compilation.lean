import SchemaRest.Proofs.Request.Bodies
import SchemaRest.Proofs.Sql.FilterTruth

/-!
# Compiling lists of clauses

A list of clauses is compiled in one go or in parts: what stands behind is added to the query that what
stands in front has made. Only ranges without their ends fail, the first of them with its own refusal, and
clauses with unknown operations are as good as not there, wherever they stand.
-/

namespace SchemaRest.Sql

/-! ## Single clauses -/

/-- What a range without its ends is refused with. -/
def Clause.endsMissing (c : Clause) : Failure :=
  .validation ("between on '" ++ c.column ++ "' needs a two-element array value")

theorem Clause.condition?_eq_error_iff {c : Clause} {e : Failure} :
    c.condition? = .error e ↔ c.LacksEnds ∧ e = c.endsMissing := by
  constructor
  · intro h
    refine ⟨c.condition?_error_iff.mp ⟨e, h⟩, ?_⟩
    obtain ⟨column, value, operation, negate, connector⟩ := c
    cases operation with
    | compare op => cases op <;> cases h
    | among | isNull | unsupported => cases h
    | between =>
      simp only [condition?, predicate?] at h
      split at h <;> cases h
      rfl
  · rintro ⟨⟨hbetween, hvalue⟩, rfl⟩
    obtain ⟨column, value, operation, negate, connector⟩ := c
    obtain rfl : operation = .between := hbetween
    simp only [condition?, predicate?]
    rfl

/-! ## Lists -/

theorem compile_append (before after : List Clause) (q : Select) :
    compile (before ++ after) q = compile before q >>= compile after := by
  induction before generalizing q with
  | nil => rfl
  | cons c before ih =>
    rw [List.cons_append, compile, compile]
    cases c.condition? with
    | error e => rfl
    | ok k =>
      cases k with
      | none => exact ih q
      | some k => exact ih (q.restrict k)

/-- Clauses with unknown operations are left out. -/
theorem compile_supported (clauses : List Clause) (q : Select) :
    compile (supported clauses) q = compile clauses q := by
  induction clauses generalizing q with
  | nil => rfl
  | cons c clauses ih =>
    by_cases hc : c.isSupported
    · rw [supported, List.filter_cons_of_pos hc, compile, compile]
      cases c.condition? with
      | error e => rfl
      | ok k =>
        cases k with
        | none => exact ih q
        | some k => exact ih (q.restrict k)
    · rw [supported, List.filter_cons_of_neg hc, compile,
        Clause.condition?_of_unsupported (Bool.eq_false_iff.mpr hc)]
      exact ih q

/-- The first range without its ends decides. -/
theorem compile_eq_error_iff {clauses : List Clause} {q : Select} {e : Failure} :
    compile clauses q = .error e ↔ ∃ before c after, clauses = before ++ c :: after ∧
      (∀ b ∈ before, ¬ b.LacksEnds) ∧ c.LacksEnds ∧ e = c.endsMissing := by
  have hfirst {before after : List Clause} {c : Clause} (hbefore : ∀ b ∈ before, ¬ b.LacksEnds)
      (hc : c.LacksEnds) : compile (before ++ c :: after) q = .error c.endsMissing := by
    rw [compile_append]
    cases hq : compile before q with
    | error e =>
      obtain ⟨b, hb, hlacks⟩ := (compile_error_iff before q).mp ⟨e, hq⟩
      exact absurd hlacks (hbefore b hb)
    | ok q' =>
      change compile (c :: after) q' = _
      rw [compile, Clause.condition?_eq_error_iff.mpr ⟨hc, rfl⟩]
  constructor
  · intro h
    classical
    obtain ⟨c, hmem, hlacks⟩ := (compile_error_iff clauses q).mp ⟨e, h⟩
    have hfound : (clauses.find? fun c => decide c.LacksEnds).isSome :=
      List.find?_isSome.mpr ⟨c, hmem, decide_eq_true hlacks⟩
    obtain ⟨d, hd⟩ := Option.isSome_iff_exists.mp hfound
    obtain ⟨hdecide, before, after, rfl, hothers⟩ := List.find?_eq_some_iff_append.mp hd
    have hlast : d.LacksEnds := of_decide_eq_true hdecide
    have hbefore : ∀ b ∈ before, ¬ b.LacksEnds := fun b hb => by simpa using hothers b hb
    rw [hfirst hbefore hlast] at h
    exact ⟨before, d, after, rfl, hbefore, hlast, (Except.error.inj h).symm⟩
  · rintro ⟨before, c, after, rfl, hbefore, hc, rfl⟩
    exact hfirst hbefore hc

/-! ## What becomes of a list -/

/-- What compiling a list of clauses onto a query comes to. -/
structure Compiled (clauses : List Clause) (q : Select) : Prop where
  /-- It succeeds just where every range has its two ends. -/
  ok_iff : (∃ s, compile clauses q = .ok s) ↔
    ∀ c ∈ clauses, c.operation = .between → ∃ low high, c.value = .arr [low, high]
  /-- The supported clauses add their conditions behind those of the query, with their own connectors, and
  nothing else changes; so they bind their values behind those of the query. -/
  extended : ∀ s, compile clauses q = .ok s → ∃ conditions,
    List.Forall₂ (fun c k => c.condition? = .ok (some k)) (supported clauses) conditions ∧
    s = { q with conditions := q.conditions ++ conditions } ∧
    s.rows.params = q.rows.params ++ conditions.flatMap Condition.params ∧
    s.count.params = s.rows.params
  /-- A failure is that of the first range without its ends. -/
  first : ∀ e, compile clauses q = .error e ↔ ∃ before c after, clauses = before ++ c :: after ∧
    (∀ b ∈ before, ¬ b.LacksEnds) ∧ c.LacksEnds ∧ e = c.endsMissing
  /-- More clauses are compiled onto what the first have made. -/
  more : ∀ after, compile (clauses ++ after) q = compile clauses q >>= compile after
  /-- Lists with the same supported clauses, whatever unsupported ones stand before, between and after these,
  make the same query, with the same statements, or fail the same way. -/
  unsupported : ∀ others, supported others = supported clauses → compile others q = compile clauses q

theorem compiled_of_clauses (clauses : List Clause) (q : Select) : Compiled clauses q where
  ok_iff := by
    have hfails := compile_error_iff clauses q
    cases h : compile clauses q with
    | ok s =>
      refine iff_of_true ⟨s, rfl⟩ fun c hc hbetween => ?_
      by_contra hvalue
      have hlacks : c.LacksEnds := ⟨hbetween, fun low high heq => hvalue ⟨low, high, heq⟩⟩
      obtain ⟨e, he⟩ := hfails.mpr ⟨c, hc, hlacks⟩
      cases h.symm.trans he
    | error e =>
      refine iff_of_false (fun ⟨s, hs⟩ => by cases hs) fun hends => ?_
      obtain ⟨c, hc, hbetween, hvalue⟩ := hfails.mp ⟨e, h⟩
      obtain ⟨low, high, heq⟩ := hends c hc hbetween
      exact hvalue low high heq
  extended s hs := by
    obtain ⟨conditions, hconditions, rfl⟩ := compile_eq_ok_iff.mp hs
    exact ⟨conditions, hconditions, rfl, List.flatMap_append, rfl⟩
  first _ := compile_eq_error_iff
  more after := compile_append clauses after q
  unsupported others h := by rw [← compile_supported, h, compile_supported]

end SchemaRest.Sql
