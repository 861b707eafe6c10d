import SchemaRest.Sql.Select

/-!
# Truth of a chain of conditions

A condition on a row is true, false or unknown. A chain of conditions without brackets can be taken in
two ways: as the dialect reads it, where AND binds tighter than OR, or from left to right, each
condition joined to all before it. `byPrecedence_eq_leftToRight_iff` says for which connectors the two
are the same, and `byPrecedence_of_leftToRight` that reading by precedence never loses a row.
-/

namespace SchemaRest.Sql

inductive Truth where
  | no
  | unknown
  | yes
  deriving DecidableEq, Repr

namespace Truth

def and : Truth → Truth → Truth
  | no, _ => no
  | unknown, no => no
  | unknown, _ => unknown
  | yes, b => b

def or : Truth → Truth → Truth
  | no, b => b
  | unknown, yes => yes
  | unknown, _ => unknown
  | yes, _ => yes

@[simp] theorem and_yes (a : Truth) : a.and yes = a := by cases a <;> rfl

@[simp] theorem and_no (a : Truth) : a.and no = no := by cases a <;> rfl

@[simp] theorem or_no (a : Truth) : a.or no = a := by cases a <;> rfl

@[simp] theorem yes_and (a : Truth) : yes.and a = a := rfl

@[simp] theorem yes_or (a : Truth) : yes.or a = yes := rfl

theorem and_assoc (a b c : Truth) : (a.and b).and c = a.and (b.and c) := by
  cases a <;> cases b <;> cases c <;> rfl

theorem or_assoc (a b c : Truth) : (a.or b).or c = a.or (b.or c) := by
  cases a <;> cases b <;> cases c <;> rfl

theorem or_and (a b c : Truth) : (a.or b).and c = (a.and c).or (b.and c) := by
  cases a <;> cases b <;> cases c <;> rfl

theorem and_eq_yes {a b : Truth} : a.and b = yes ↔ a = yes ∧ b = yes := by
  cases a <;> cases b <;> decide

theorem or_eq_yes {a b : Truth} : a.or b = yes ↔ a = yes ∨ b = yes := by
  cases a <;> cases b <;> decide

/-- Whether all of some conditions hold. -/
def all (values : List Truth) : Truth := values.foldr and yes

/-- Whether one of some conditions holds. -/
def any (values : List Truth) : Truth := values.foldr or no

@[simp] theorem all_cons (a : Truth) (values : List Truth) : all (a :: values) = a.and (all values) := rfl

@[simp] theorem any_cons (a : Truth) (values : List Truth) : any (a :: values) = a.or (any values) := rfl

end Truth

/-! ## Two ways to take a chain -/

/-- The runs of a chain between its ORs. -/
def runs (v : Truth) : List (Connector × Truth) → List (List Truth)
  | [] => [[v]]
  | (.or, w) :: rest => [v] :: runs w rest
  | (.and, w) :: rest => (runs w rest).modifyHead (v :: ·)

/-- The truth of a chain where AND binds tighter than OR: in one of the runs all has to hold. A chain
of nothing restricts no row. -/
def byPrecedence (connectors : List Connector) : List Truth → Truth
  | [] => .yes
  | v :: vs => .any ((runs v (connectors.zip vs)).map .all)

def Connector.join : Connector → Truth → Truth → Truth
  | and => Truth.and
  | or => Truth.or

/-- The truth of a chain where each condition is joined to all that stands before it. -/
def leftToRight (connectors : List Connector) : List Truth → Truth
  | [] => .yes
  | v :: vs => (connectors.zip vs).foldl (fun before p => p.1.join before p.2) v

variable {k : Connector} {ks : List Connector} {v w : Truth} {vs : List Truth}

/-- The first condition is in the first run, whatever it is. -/
theorem runs_first (rest : List (Connector × Truth)) :
    ∃ first others, ∀ v, runs v rest = (v :: first) :: others := by
  induction rest with
  | nil => exact ⟨[], [], fun _ => rfl⟩
  | cons p rest ih =>
    obtain ⟨first, others, hruns⟩ := ih
    obtain ⟨k, w⟩ := p
    cases k with
    | and => exact ⟨w :: first, others, fun v => by simp [runs, hruns]⟩
    | or => exact ⟨[], runs w rest, fun _ => rfl⟩

@[simp] theorem byPrecedence_singleton (ks : List Connector) (v : Truth) : byPrecedence ks [v] = v := by
  simp [byPrecedence, runs, Truth.all, Truth.any]

@[simp] theorem byPrecedence_or (ks : List Connector) (v w : Truth) (vs : List Truth) :
    byPrecedence (.or :: ks) (v :: w :: vs) = v.or (byPrecedence ks (w :: vs)) := by
  simp [byPrecedence, runs, Truth.all]

/-- Conditions joined by AND are as good as one. -/
@[simp] theorem byPrecedence_and (ks : List Connector) (v w : Truth) (vs : List Truth) :
    byPrecedence (.and :: ks) (v :: w :: vs) = byPrecedence ks (v.and w :: vs) := by
  obtain ⟨first, others, hruns⟩ := runs_first (ks.zip vs)
  simp [byPrecedence, runs, hruns, Truth.and_assoc]

@[simp] theorem leftToRight_singleton (ks : List Connector) (v : Truth) : leftToRight ks [v] = v := by
  simp [leftToRight]

@[simp] theorem leftToRight_cons (k : Connector) (ks : List Connector) (v w : Truth) (vs : List Truth) :
    leftToRight (k :: ks) (v :: w :: vs) = leftToRight ks (k.join v w :: vs) := rfl

/-! ## What precedence adds -/

theorem leftToRight_or (h : leftToRight ks (v.or w :: vs) = .yes) :
    v = .yes ∨ leftToRight ks (w :: vs) = .yes := by
  induction vs generalizing ks v w with
  | nil => simpa [Truth.or_eq_yes] using h
  | cons x vs ih =>
    cases ks with
    | nil => simpa [leftToRight, Truth.or_eq_yes] using h
    | cons k ks =>
      cases k with
      | and =>
        rw [leftToRight_cons, Connector.join, Truth.or_and] at h
        exact (ih h).imp_left fun hv => (Truth.and_eq_yes.mp hv).1
      | or =>
        rw [leftToRight_cons, Connector.join, Truth.or_assoc] at h
        exact ih h

/-- What holds from left to right holds by precedence. -/
theorem byPrecedence_of_leftToRight {values : List Truth} (h : leftToRight ks values = .yes) :
    byPrecedence ks values = .yes := by
  cases values with
  | nil => rfl
  | cons v vs =>
    induction vs generalizing ks v with
    | nil => simpa using h
    | cons w vs ih =>
      cases ks with
      | nil => simpa [leftToRight, byPrecedence, runs, Truth.all, Truth.any] using h
      | cons k ks =>
        cases k with
        | and =>
          rw [byPrecedence_and]
          exact ih _ h
        | or =>
          rw [byPrecedence_or, Truth.or_eq_yes]
          exact (leftToRight_or h).imp_right (ih w)

/-! ## When both are the same -/

/-- No AND stands behind an OR. -/
def AndsFirst (connectors : List Connector) : Prop :=
  connectors.Pairwise fun before after => before = .or → after = .or

instance (connectors : List Connector) : Decidable (AndsFirst connectors) :=
  inferInstanceAs (Decidable (connectors.Pairwise _))

theorem leftToRight_ors (h : ∀ k ∈ ks, k = .or) :
    leftToRight ks (v.or w :: vs) = v.or (leftToRight ks (w :: vs)) := by
  induction vs generalizing ks w with
  | nil => simp
  | cons x vs ih =>
    cases ks with
    | nil => rfl
    | cons k ks =>
      obtain ⟨rfl, hks⟩ := List.forall_mem_cons.mp h
      rw [leftToRight_cons, leftToRight_cons, Connector.join, Truth.or_assoc, ih hks]

theorem byPrecedence_eq_leftToRight (h : AndsFirst ks) (values : List Truth) :
    byPrecedence ks values = leftToRight ks values := by
  cases values with
  | nil => rfl
  | cons v vs =>
    induction vs generalizing ks v with
    | nil => simp
    | cons w vs ih =>
      cases ks with
      | nil => simp [byPrecedence, leftToRight, runs, Truth.all, Truth.any]
      | cons k ks =>
        obtain ⟨hk, hks⟩ := List.pairwise_cons.mp h
        cases k with
        | and =>
          rw [byPrecedence_and, leftToRight_cons]
          exact ih hks _
        | or =>
          rw [byPrecedence_or, leftToRight_cons, Connector.join, leftToRight_ors fun k hmem => hk k hmem rfl,
            ih hks w]

/-- An AND with nothing that holds behind it leaves nothing. -/
theorem leftToRight_no (h : .and ∈ ks) (v : Truth) :
    leftToRight ks (v :: List.replicate ks.length .no) = .no := by
  have hno : ∀ ks : List Connector, leftToRight ks (.no :: List.replicate ks.length .no) = .no := by
    intro ks
    induction ks with
    | nil => rfl
    | cons k ks ih => cases k <;> exact ih
  induction ks generalizing v with
  | nil => cases h
  | cons k ks ih =>
    rw [List.length_cons, List.replicate_succ, leftToRight_cons]
    cases k with
    | and =>
      rw [Connector.join, Truth.and_no]
      exact hno ks
    | or =>
      obtain hmem : .and ∈ ks := by simpa using h
      exact ih hmem _

theorem and_mem_of_not_andsFirst (h : ¬ AndsFirst (.or :: ks)) : .and ∈ ks := by
  refine Decidable.byContradiction fun hmem => h ?_
  have hors : ∀ k ∈ Connector.or :: ks, k = .or := by
    refine List.forall_mem_cons.mpr ⟨rfl, fun k hk => ?_⟩
    cases k with
    | and => exact absurd hk hmem
    | or => rfl
  exact List.pairwise_of_forall_mem_list fun _ _ l hl _ => hors l hl

/-- With an AND behind an OR there are conditions that only precedence makes true. -/
theorem exists_differing (h : ¬ AndsFirst ks) : ∃ values, values.length = ks.length + 1 ∧
    byPrecedence ks values = .yes ∧ leftToRight ks values = .no := by
  induction ks with
  | nil => exact absurd List.Pairwise.nil h
  | cons k ks ih =>
    cases k with
    | and =>
      have hks : ¬ AndsFirst ks := fun hks => h (List.pairwise_cons.mpr ⟨by simp, hks⟩)
      obtain ⟨values, hlength, hyes, hno⟩ := ih hks
      cases values with
      | nil => cases hlength
      | cons v vs => exact ⟨.yes :: v :: vs, by simpa using hlength, by simpa using hyes, hno⟩
    | or =>
      refine ⟨.yes :: .no :: List.replicate ks.length .no, by simp, by simp, ?_⟩
      exact leftToRight_no (and_mem_of_not_andsFirst h) _

theorem byPrecedence_eq_leftToRight_iff :
    (∀ values : List Truth, values.length = ks.length + 1 →
      byPrecedence ks values = leftToRight ks values) ↔ AndsFirst ks := by
  refine ⟨fun h => Decidable.byContradiction fun hnot => ?_,
    fun h values _ => byPrecedence_eq_leftToRight h values⟩
  obtain ⟨values, hlength, hyes, hno⟩ := exists_differing hnot
  have heq := h values hlength
  rw [hyes, hno] at heq
  cases heq

end SchemaRest.Sql
