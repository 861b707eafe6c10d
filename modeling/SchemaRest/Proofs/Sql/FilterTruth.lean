import SchemaRest.Proofs.Sql.SelectReading
import SchemaRest.Proofs.Sql.Truth
import SchemaRest.Sql.Filter

/-!
# What filter clauses mean

Clauses are applied in their order, each joined by its own connector to the predicate built so far. The
text has no brackets, so the dialect takes it by precedence. `truth_of_compile` says that the text has
the clauses in their order, that it is true wherever the clauses are, and that the two always agree for
those lists alone in which no clause with AND comes after one with OR.
-/

namespace SchemaRest.Sql

/-! ## Clauses and conditions -/

def Clause.isSupported (c : Clause) : Bool := c.operation ≠ .unsupported

/-- The clauses that stand for a condition. -/
def supported (clauses : List Clause) : List Clause := clauses.filter Clause.isSupported

/-- How the clauses after the first are joined. -/
def joints (clauses : List Clause) : List Connector := clauses.tail.map Clause.connector

theorem Clause.condition?_none {c : Clause} (h : c.condition? = .ok none) : c.isSupported = false := by
  obtain ⟨column, value, operation, negate, connector⟩ := c
  cases operation with
  | unsupported => rfl
  | compare op => cases op <;> cases h
  | among | isNull => cases h
  | between =>
    simp only [condition?, predicate?] at h
    split at h <;> cases h

theorem Clause.condition?_some {c : Clause} {k : Condition} (h : c.condition? = .ok (some k)) :
    c.isSupported = true ∧ k.connector = c.connector := by
  obtain ⟨column, value, operation, negate, connector⟩ := c
  cases operation with
  | unsupported => cases h
  | compare op => cases op <;> cases h <;> exact ⟨rfl, rfl⟩
  | among | isNull => cases h; exact ⟨rfl, rfl⟩
  | between =>
    simp only [condition?, predicate?] at h
    split at h <;> cases h
    exact ⟨rfl, rfl⟩

theorem Clause.condition?_of_unsupported {c : Clause} (h : c.isSupported = false) :
    c.condition? = .ok none := by
  have hoperation : c.operation = .unsupported := by simpa [isSupported] using h
  rw [condition?, predicate?, hoperation]
  rfl

/-- Each supported clause adds its condition at the end, and nothing else changes. -/
theorem compile_eq_ok_iff {clauses : List Clause} {base q : Select} : compile clauses base = .ok q ↔
    ∃ conditions, List.Forall₂ (fun c k => c.condition? = .ok (some k)) (supported clauses) conditions ∧
      q = { base with conditions := base.conditions ++ conditions } := by
  induction clauses generalizing base with
  | nil =>
    constructor
    · rintro ⟨⟩
      exact ⟨[], .nil, by simp⟩
    · rintro ⟨conditions, h, rfl⟩
      cases h
      simp
  | cons c clauses ih =>
    rw [compile]
    by_cases hc : c.isSupported
    · have hsupported : supported (c :: clauses) = c :: supported clauses := List.filter_cons_of_pos hc
      rw [hsupported]
      constructor
      · intro h
        split at h
        · cases h
        · next hnone => exact absurd hc (by simp [Clause.condition?_none hnone])
        · next k hk =>
          obtain ⟨conditions, hconditions, rfl⟩ := ih.mp h
          exact ⟨k :: conditions, .cons hk hconditions, by simp [Select.restrict]⟩
      · rintro ⟨conditions, h, rfl⟩
        cases h with
        | @cons _ k _ conditions hk hconditions =>
          rw [hk]
          exact ih.mpr ⟨conditions, hconditions, by simp [Select.restrict]⟩
    · have hsupported : supported (c :: clauses) = supported clauses := List.filter_cons_of_neg hc
      rw [hsupported, Clause.condition?_of_unsupported (Bool.eq_false_iff.mpr hc)]
      exact ih

theorem compile_conditions {clauses : List Clause} {base q : Select} (h : compile clauses base = .ok q) :
    ∃ conditions, q.conditions = base.conditions ++ conditions ∧
      List.Forall₂ (fun c k => c.condition? = .ok (some k)) (supported clauses) conditions := by
  obtain ⟨conditions, hconditions, rfl⟩ := compile_eq_ok_iff.mp h
  exact ⟨conditions, rfl, hconditions⟩

theorem connectors_of_forall₂ {clauses : List Clause} {conditions : List Condition}
    (h : List.Forall₂ (fun c k => c.condition? = .ok (some k)) clauses conditions) :
    conditions.map Condition.connector = clauses.map Clause.connector := by
  induction h with
  | nil => rfl
  | cons hc _ ih => rw [List.map_cons, List.map_cons, ih, (Clause.condition?_some hc).2]

/-! ## Texts -/

/-- The connectors in a text. -/
def Reading.connectors (r : Reading) : List Connector := r.terms.filterMap Term.connector

/-- The truth of a text for a row, by the truth of each of its conditions for the row. -/
def Reading.truth (r : Reading) (values : List Truth) : Truth := byPrecedence r.connectors values

theorem connectors_termsOf (conditions : List Condition) :
    (termsOf conditions).filterMap Term.connector = conditions.tail.map Condition.connector := by
  cases conditions with
  | nil => rfl
  | cons c rest => simp [termsOf, List.filterMap_map, Function.comp_def, Condition.term]

theorem joints_of_forall₂ {clauses : List Clause} {conditions : List Condition}
    (h : List.Forall₂ (fun c k => c.condition? = .ok (some k)) clauses conditions) :
    (termsOf conditions).filterMap Term.connector = joints clauses := by
  rw [connectors_termsOf, joints, List.map_tail, List.map_tail, connectors_of_forall₂ h]

/-- A chain of clauses means the same by precedence and from left to right, for every truth of its
clauses, iff no AND stands behind an OR. -/
theorem joints_agree_iff (clauses : List Clause) :
    (∀ values : List Truth, values.length = clauses.length →
      byPrecedence (joints clauses) values = leftToRight (joints clauses) values) ↔
        AndsFirst (joints clauses) := by
  cases clauses with
  | nil =>
    refine iff_of_true (fun values hvalues => ?_) List.Pairwise.nil
    rw [List.length_eq_zero_iff.mp hvalues]
    rfl
  | cons c rest =>
    have hlength : (c :: rest).length = (joints (c :: rest)).length + 1 := by simp [joints]
    rw [hlength]
    exact byPrecedence_eq_leftToRight_iff

/-- The text of accepted clauses has their conditions in order, and is true wherever the clauses are,
joined one by one. The two always agree exactly where no clause with AND comes after one with OR. -/
theorem truth_of_compile {clauses : List Clause} {base q : Select} (hbase : base.conditions = [])
    (h : compile clauses base = .ok q) :
    ∃ r, read? q.rows = some r ∧ (∃ total, read? q.count = some total ∧ total.terms = r.terms) ∧
      (∃ conditions, r.terms = termsOf conditions ∧
        List.Forall₂ (fun c k => c.condition? = .ok (some k)) (supported clauses) conditions) ∧
      (∀ values, leftToRight (joints (supported clauses)) values = .yes → r.truth values = .yes) ∧
      ((∀ values, values.length = (supported clauses).length →
        r.truth values = leftToRight (joints (supported clauses)) values) ↔
          AndsFirst (joints (supported clauses))) := by
  obtain ⟨conditions, happend, hconditions⟩ := compile_conditions h
  rw [hbase, List.nil_append] at happend
  have hterms : q.reading.terms = termsOf conditions := by rw [Select.reading, happend]
  have htruth : ∀ values, q.reading.truth values = byPrecedence (joints (supported clauses)) values := by
    intro values
    rw [Reading.truth, Reading.connectors, hterms, joints_of_forall₂ hconditions]
  refine ⟨q.reading, q.read?_rows, ⟨q.countReading, q.read?_count, rfl⟩, ⟨conditions, hterms, hconditions⟩,
    fun values hyes => ?_, ?_⟩
  · rw [htruth]
    exact byPrecedence_of_leftToRight hyes
  · simp only [htruth]
    exact joints_agree_iff (supported clauses)

/-- Two clauses that both have to hold, or a third. -/
def lastSuffices : List Clause :=
  [⟨"a", .nat 1, .compare .eq, false, .or⟩, ⟨"b", .nat 1, .compare .eq, false, .and⟩,
    ⟨"c", .nat 1, .compare .eq, false, .or⟩]

theorem truth_lastSuffices : ∃ q, (Select.all "t").conditions = [] ∧
    compile lastSuffices (.all "t") = .ok q ∧ ∃ r, read? q.rows = some r ∧
      ∀ values, values.length = 3 →
        r.truth values = leftToRight (joints (supported lastSuffices)) values := by
  have hcompile : ∃ q, compile lastSuffices (.all "t") = .ok q := ⟨_, rfl⟩
  obtain ⟨q, hq⟩ := hcompile
  obtain ⟨r, hread, -, -, -, hiff⟩ := truth_of_compile rfl hq
  exact ⟨q, rfl, hq, r, hread, hiff.mpr (by decide)⟩

/-- One of two clauses has to hold, and a third. -/
def lastRequired : List Clause :=
  [⟨"a", .nat 1, .compare .eq, false, .or⟩, ⟨"b", .nat 1, .compare .eq, false, .or⟩,
    ⟨"c", .nat 1, .compare .eq, false, .and⟩]

/-- The text selects a row with the first condition and without the last. -/
theorem lastRequired_misread : ∃ q r, compile lastRequired (.all "t") = .ok q ∧
    q.rows.sql = "SELECT * FROM `t` WHERE `a` = ? OR `b` = ? AND `c` = ?" ∧
    read? q.rows = some r ∧ r.truth [.yes, .no, .no] = .yes ∧
    leftToRight (joints (supported lastRequired)) [.yes, .no, .no] = .no := by
  have hcompile : ∃ q, compile lastRequired (.all "t") = .ok q ∧
      q.rows.sql = "SELECT * FROM `t` WHERE `a` = ? OR `b` = ? AND `c` = ?" ∧
      (termsOf q.conditions).filterMap Term.connector = [.or, .and] :=
    ⟨_, rfl, by decide +kernel, rfl⟩
  obtain ⟨q, hq, hsql, hconnectors⟩ := hcompile
  have htruth : q.reading.truth [.yes, .no, .no] = byPrecedence [.or, .and] [.yes, .no, .no] :=
    congrArg (byPrecedence · _) hconnectors
  exact ⟨q, q.reading, hq, hsql, q.read?_rows, htruth, rfl⟩

end SchemaRest.Sql
