import SchemaRest.Proofs.Sql.SelectReading
import SchemaRest.Proofs.Sql.Truth

/-!
# Negated conditions

What the text of a condition says of a row, by the logic of three values: a comparison with null is
unknown, a membership is that one of the members is equal, and a range lies between both of its ends. A
condition is negated in five spellings, and each has a meaning of its own here: NOT in front takes the
truth that it finds, NOT IN differs from every member, NOT BETWEEN is below the one end or above the
other, IS NOT NULL finds a value, and 1 = 1 always holds. `complement_of_negated` says that all of them
say the opposite of the condition without negation, whatever is null.
-/

namespace SchemaRest.Sql

namespace Truth

def not : Truth → Truth
  | no => yes
  | unknown => unknown
  | yes => no

def ofBool (b : Bool) : Truth := if b then yes else no

theorem not_and (a b : Truth) : (a.and b).not = a.not.or b.not := by cases a <;> cases b <;> rfl

theorem not_or (a b : Truth) : (a.or b).not = a.not.and b.not := by cases a <;> cases b <;> rfl

theorem not_ofBool (b : Bool) : (ofBool b).not = ofBool !b := by cases b <;> rfl

/-- Not one of some conditions holds where all of their opposites do. -/
theorem not_any (values : List Truth) : (any values).not = all (values.map not) := by
  induction values with
  | nil => rfl
  | cons a values ih => rw [any_cons, not_or, ih, List.map_cons, all_cons]

end Truth

/-! ## Values of a row -/

/-- How values that are not null compare: their order, and whether one is like a pattern. -/
structure Collation (Value : Type) where
  order : Value → Value → Ordering
  like : Value → Value → Bool

/-- The values of a row and of what is bound to the marks, null being nothing. -/
structure Valuation (Value : Type) where
  column : String → Option Value
  bound : Json → Option Value

variable {Value : Type}

def Comparison.holds (k : Collation Value) : Comparison → Value → Value → Bool
  | lt, a, b => k.order a b == .lt
  | gt, a, b => k.order a b == .gt
  | eq, a, b => k.order a b == .eq
  | le, a, b => k.order a b != .gt
  | ge, a, b => k.order a b != .lt
  | ne, a, b => k.order a b != .eq
  | like, a, b => k.like a b

/-- With null on either side nothing is known. -/
def Comparison.truth (k : Collation Value) (op : Comparison) : Option Value → Option Value → Truth
  | some a, some b => .ofBool (op.holds k a b)
  | _, _ => .unknown

/-- One comparison is the opposite of another where it is for values that are not null. -/
theorem Comparison.truth_opposite {k : Collation Value} {op opposite : Comparison}
    (h : ∀ a b, opposite.holds k a b = !op.holds k a b) (a b : Option Value) :
    opposite.truth k a b = (op.truth k a b).not := by
  cases a with
  | none => rfl
  | some a =>
    cases b with
    | none => rfl
    | some b => rw [truth, truth, h, Truth.not_ofBool]

section

variable (k : Collation Value) (r : Valuation Value)

theorem Comparison.truth_ne (a b : Option Value) : ne.truth k a b = (eq.truth k a b).not :=
  truth_opposite (fun _ _ => rfl) a b

theorem Comparison.truth_lt (a b : Option Value) : lt.truth k a b = (ge.truth k a b).not :=
  truth_opposite (fun _ _ => (Bool.not_not _).symm) a b

theorem Comparison.truth_gt (a b : Option Value) : gt.truth k a b = (le.truth k a b).not :=
  truth_opposite (fun _ _ => (Bool.not_not _).symm) a b

/-! ## What is said of a row -/

/-- The truth of a predicate for a row. -/
def Predicate.truth : Predicate → Truth
  | .compare column op value => op.truth k (r.column column) (r.bound value)
  | .among column values =>
    .any (values.map fun v => Comparison.eq.truth k (r.column column) (r.bound v))
  | .between column low high =>
    (Comparison.ge.truth k (r.column column) (r.bound low)).and
      (Comparison.le.truth k (r.column column) (r.bound high))
  | .isNull column => .ofBool (r.column column).isNone

/-- The truth of a predicate with the word that negates it. -/
def Predicate.negatedTruth : Predicate → Truth
  | .compare column op value => (op.truth k (r.column column) (r.bound value)).not
  | .among column values =>
    .all (values.map fun v => Comparison.ne.truth k (r.column column) (r.bound v))
  | .between column low high =>
    (Comparison.lt.truth k (r.column column) (r.bound low)).or
      (Comparison.gt.truth k (r.column column) (r.bound high))
  | .isNull column => .ofBool (r.column column).isSome

def Factor.truth : Factor → Truth
  | .test false p => p.truth k r
  | .test true p => p.negatedTruth k r
  | .constant value => .ofBool value

/-- The condition that a text with its values is, if it is one and nothing besides. -/
def factorOf? (s : Statement) : Option Factor := do
  let (factor, rest) ← factor? (← tokens? s)
  if rest.isEmpty then some factor else none

/-- The truth of the text of a condition for a row. -/
def truthOf? (s : Statement) : Option Truth := (factorOf? s).map (Factor.truth k r)

/-! ## Every negation is the opposite -/

theorem Predicate.negatedTruth_eq (p : Predicate) : p.negatedTruth k r = (p.truth k r).not := by
  cases p with
  | compare column op value => rfl
  | among column values =>
    have hmembers : (fun v => Comparison.ne.truth k (r.column column) (r.bound v)) =
        Truth.not ∘ fun v => Comparison.eq.truth k (r.column column) (r.bound v) :=
      funext fun v => Comparison.truth_ne k _ _
    rw [negatedTruth, truth, Truth.not_any, List.map_map, hmembers]
  | between column low high =>
    rw [negatedTruth, truth, Truth.not_and, Comparison.truth_lt, Comparison.truth_gt]
  | isNull column =>
    rw [negatedTruth, truth, Truth.not_ofBool, Option.not_isNone]

namespace Condition

/-- The text of a condition with its values. -/
def statement (c : Condition) : Statement := ⟨c.sql, c.params⟩

theorem tokens?_statement (c : Condition) : tokens? c.statement = some (solid c.lexemes) := by
  -- the lexemes of a condition have a blank in front that its own text lacks
  have hphrase := c.phrase
  have hlex : lex (' ' :: c.sql.toList) = some (c.lexemes.map Lexeme.bare) := by
    rw [hphrase.text]
    exact lex_spell c.lexemes hphrase.formed hphrase.separated
  have hfirst : next? ' ' c.sql.toList = some (.blank ' ', c.sql.toList) := rfl
  rw [lex_cons hfirst, Option.map_eq_some_iff] at hlex
  obtain ⟨ls, hls, hblank⟩ := hlex
  have hbound : bound ls c.params = bound (c.lexemes.map Lexeme.bare) (valuesOf c.lexemes) := by
    rw [← hblank, c.valuesOf_lexemes, bound]
  rw [tokens?, statement, hls, Option.bind_some, hbound, bound_bare]

theorem factorOf?_statement (c : Condition) : factorOf? c.statement = some c.factor := by
  have hfactor := factor?_solid c []
  rw [List.append_nil] at hfactor
  rw [factorOf?, c.tokens?_statement]
  simp [hfactor]

/-- The empty list is not written as a list, but says the same. -/
theorem truth_factor (c : Condition) :
    c.factor.truth k r = if c.negate then c.predicate.negatedTruth k r else c.predicate.truth k r := by
  obtain ⟨connector, negate, predicate⟩ := c
  cases predicate with
  | among column values => cases values <;> cases negate <;> rfl
  | compare | between | isNull => cases negate <;> rfl

end Condition

/-- The text of a condition says of a row what its predicate does, and with negation the opposite; the
values are bound to both alike. -/
theorem complement_of_negated (connector : Connector) (p : Predicate) :
    truthOf? k r (Condition.statement ⟨connector, false, p⟩) = some (p.truth k r) ∧
    truthOf? k r (Condition.statement ⟨connector, true, p⟩) = some (p.truth k r).not ∧
    Condition.params ⟨connector, true, p⟩ = Condition.params ⟨connector, false, p⟩ := by
  have htruth (negate : Bool) := Condition.truth_factor k r ⟨connector, negate, p⟩
  refine ⟨?_, ?_, rfl⟩
  · rw [truthOf?, Condition.factorOf?_statement, Option.map_some, htruth]
    rfl
  · rw [truthOf?, Condition.factorOf?_statement, Option.map_some, htruth, ← p.negatedTruth_eq]
    rfl

end

end SchemaRest.Sql
