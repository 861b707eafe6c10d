/-!
# Cutting texts

Cutting at a character, testing and removing a beginning, and joining pieces with a separator.
-/

namespace SchemaRest.Text

/-- What stands before and after the first `c`. -/
def cutChars (c : Char) : List Char → Option (List Char × List Char)
  | [] => none
  | x :: xs =>
    if x = c then some ([], xs)
    else (cutChars c xs).map fun p => (x :: p.1, p.2)

def cut? (c : Char) (s : String) : Option (String × String) :=
  (cutChars c s.toList).map fun p => (String.ofList p.1, String.ofList p.2)

/-- Everything before the first `c`, or the whole text. -/
def before (c : Char) (s : String) : String :=
  String.ofList (s.toList.takeWhile (· ≠ c))

/-- The pieces between occurrences of `c`; there is one more of them than occurrences. -/
def piecesFrom (c : Char) (piece : List Char) : List Char → List (List Char)
  | [] => [piece.reverse]
  | x :: xs =>
    if x = c then piece.reverse :: piecesFrom c [] xs else piecesFrom c (x :: piece) xs

def pieces (c : Char) (s : String) : List String :=
  (piecesFrom c [] s.toList).map String.ofList

/-- The rest of `s` after the beginning `head`. -/
def after? (head s : String) : Option String :=
  (head.toList.isPrefixOf? s.toList).map String.ofList

def startsWith (head s : String) : Bool := head.toList.isPrefixOf s.toList

/-- The rest of `s` after the first occurrence of `mark`. -/
def afterFirst? (mark : List Char) : List Char → Option (List Char)
  | [] => mark.isPrefixOf? []
  | x :: xs =>
    match mark.isPrefixOf? (x :: xs) with
    | some rest => some rest
    | none => afterFirst? mark xs

def joined (separator : String) (texts : List String) : String :=
  String.intercalate separator texts

/-- Each `c` becomes `text`; the other characters stay. -/
def replaceChar (c : Char) (text : List Char) (s : String) : String :=
  String.ofList (s.toList.flatMap fun x => if x = c then text else [x])

end SchemaRest.Text
