import SchemaRest.Text.Numeral
import SchemaRest.Text.Split

/-!
# Sets of characters

A set of characters is written as the ranges of their numbers, in hexadecimal and in order: `61-7a
df`.
-/

namespace SchemaRest.Text

/-- Closed ranges of the numbers of characters. -/
abbrev Ranges := List (Nat × Nat)

/-- A number from hexadecimal digits. -/
def hexNumber (cs : List Char) : Nat := cs.foldl (fun n c => n * 16 + (hexValue? c).getD 0) 0

/-- The words of a table, which stand between blanks and ends of lines. -/
def tableWords (table : String) : List (List Char) :=
  (piecesFrom ' ' [] (table.toList.map fun c => if c = '\n' then ' ' else c)).filter (!·.isEmpty)

namespace Ranges

/-- A range, or a number alone. -/
def ofWord (word : List Char) : Nat × Nat :=
  match cutChars '-' word with
  | some (low, high) => (hexNumber low, hexNumber high)
  | none => (hexNumber word, hexNumber word)

def ofTable (table : String) : Ranges := (tableWords table).map ofWord

def contains (r : Ranges) (c : Char) : Bool := r.any fun p => p.1 ≤ c.toNat && c.toNat ≤ p.2

end Ranges

end SchemaRest.Text
