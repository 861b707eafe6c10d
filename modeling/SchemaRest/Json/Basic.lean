import SchemaRest.Decimal.Double

/-!
# JSON values

A number keeps whether it was written as a whole number: a whole number fits 64 bits, signed or
unsigned, and everything else is a double. The fields of an object are a list of pairs; `Fields`
says how they are looked up, and how a list becomes a map in the order of its keys, each key once
and the last value counting.
-/

namespace SchemaRest

inductive Number where
  | int (value : Int)
  | double (value : Double)
  deriving DecidableEq, Repr

inductive Json where
  | null
  | bool (value : Bool)
  | num (value : Number)
  | str (text : String)
  | arr (items : List Json)
  | obj (fields : List (String × Json))
  deriving Repr, Inhabited

/-- Numbers are equal when they are of one kind and equal in it: `1` is not `1.0`. -/
def Number.same : Number → Number → Bool
  | .int a, .int b => a == b
  | .double a, .double b => a.sameNumber b
  | _, _ => false

abbrev Fields := List (String × Json)

namespace Fields

def get? (key : String) : Fields → Option Json
  | [] => none
  | (k, v) :: rest => if k = key then some v else get? key rest

def insert (key : String) (value : Json) : Fields → Fields
  | [] => [(key, value)]
  | (k, v) :: rest =>
    if key < k then (key, value) :: (k, v) :: rest
    else if k = key then (key, value) :: rest
    else (k, v) :: insert key value rest

/-- The map of a list of pairs: sorted by key, the last value of a key. -/
def ofList (pairs : Fields) : Fields := pairs.foldl (fun m p => insert p.1 p.2 m) []

def keys (fields : Fields) : List String := fields.map (·.1)

@[simp] theorem get?_nil (key : String) : get? key [] = none := rfl

@[simp] theorem get?_insert_same (key : String) (value : Json) (m : Fields) :
    get? key (insert key value m) = some value := by
  induction m with
  | nil => simp [insert, get?]
  | cons p rest ih =>
    obtain ⟨k, v⟩ := p
    by_cases hlt : key < k
    · simp [insert, hlt, get?]
    · by_cases heq : k = key
      · simp [insert, get?, heq]
      · simp [insert, hlt, heq, get?, ih]

theorem get?_insert_other {key other : String} (h : other ≠ key) (value : Json) (m : Fields) :
    get? other (insert key value m) = get? other m := by
  induction m with
  | nil => simp [insert, get?, h.symm]
  | cons p rest ih =>
    obtain ⟨k, v⟩ := p
    by_cases hlt : key < k
    · simp [insert, hlt, get?, h.symm]
    · by_cases heq : k = key
      · subst heq
        simp [insert, get?, h.symm]
      · simp [insert, hlt, heq, get?, ih]

end Fields

namespace Json

/-- An object with its keys in order. -/
def ofFields (pairs : Fields) : Json := .obj (Fields.ofList pairs)

def nat (n : Nat) : Json := .num (.int n)

def int (n : Int) : Json := .num (.int n)

def strings (texts : List String) : Json := .arr (texts.map .str)

/-- `null` for nothing. -/
def optional {α : Type} (f : α → Json) : Option α → Json
  | none => .null
  | some a => f a

def asStr? : Json → Option String
  | .str s => some s
  | _ => none

def asArr? : Json → Option (List Json)
  | .arr items => some items
  | _ => none

def asObj? : Json → Option Fields
  | .obj fields => some fields
  | _ => none

def isNull : Json → Bool
  | .null => true
  | _ => false

/-- A field of an object; other values have none. -/
def get? (key : String) : Json → Option Json
  | .obj fields => Fields.get? key fields
  | _ => none

mutual

/-- Equality of values, numbers by `Number.same`. -/
def same : Json → Json → Bool
  | .null, .null => true
  | .bool a, .bool b => a == b
  | .num a, .num b => a.same b
  | .str a, .str b => a == b
  | .arr a, .arr b => sameItems a b
  | .obj a, .obj b => sameFields a b
  | _, _ => false

def sameItems : List Json → List Json → Bool
  | [], [] => true
  | a :: as, b :: bs => same a b && sameItems as bs
  | _, _ => false

def sameFields : List (String × Json) → List (String × Json) → Bool
  | [], [] => true
  | (k, a) :: as, (l, b) :: bs => k == l && same a b && sameFields as bs
  | _, _ => false

end

mutual

/-- Every object inside turned into a map. -/
def canonical : Json → Json
  | .arr items => .arr (canonicalItems [] items)
  | .obj fields => .obj (canonicalFields [] fields)
  | v => v

/-- `done` holds the items before, reversed. -/
def canonicalItems (done : List Json) : List Json → List Json
  | [] => done.reverse
  | v :: rest => canonicalItems (canonical v :: done) rest

/-- `done` is the map of the fields before. -/
def canonicalFields (done : List (String × Json)) : List (String × Json) → List (String × Json)
  | [] => done
  | (k, v) :: rest => canonicalFields (Fields.insert k (canonical v) done) rest

end

end Json

end SchemaRest
