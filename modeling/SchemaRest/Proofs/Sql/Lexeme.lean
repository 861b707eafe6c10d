import Mathlib.Data.List.TakeWhile
import SchemaRest.Sql.Statement
import SchemaRest.Text.Numeral

/-!
# Lexemes of a statement

A server cuts the text of a statement into lexemes before it looks at anything else. `lex` does so by
the default rules of the dialect: inside backticks a doubled backtick is one backtick, inside single
quotes a doubled quote is one quote and a backslash escapes the character after it, and words,
numerals and comparisons are as long as they can be. Comments and names qualified by a point are not
among the lexemes, so a text with one of them has no reading here.
-/

namespace SchemaRest.Sql

/-- The type of marks is a parameter, so that a mark can carry the value bound to it. -/
inductive Lexeme (μ : Type) where
  | blank (c : Char)
  /-- A text between backticks. -/
  | name (text : String)
  /-- A text between single quotes. -/
  | literal (text : String)
  | mark (m : μ)
  | word (text : String)
  | number (text : String)
  | comparison (text : String)
  | sign (c : Char)
  deriving DecidableEq, Repr

/-! ## Classes of characters -/

def isSpace (c : Char) : Bool := [' ', '\n', '\t', '\r', '\x0b', '\x0c'].contains c

def isWordStart (c : Char) : Bool :=
  ('a' ≤ c && c ≤ 'z') || ('A' ≤ c && c ≤ 'Z') || c == '_' || c == '$'

def isWordChar (c : Char) : Bool := isWordStart c || Text.isDigit c

def isComparison (c : Char) : Bool := ['<', '>', '=', '!'].contains c

def isSign (c : Char) : Bool := ['(', ')', ',', '*', ';', '+', '-'].contains c

/-! ## Reading -/

/-- A name up to its closing backtick, and what follows. -/
def readName : List Char → Option (List Char × List Char)
  | [] => none
  | '\x60' :: '\x60' :: rest => (readName rest).map fun p => ('\x60' :: p.1, p.2)
  | '\x60' :: rest => some ([], rest)
  | c :: rest => (readName rest).map fun p => (c :: p.1, p.2)

/-- What a backslash before a character stands for. Before the two wildcards it stays. -/
def escapeOf (c : Char) : List Char :=
  if c = '0' then ['\x00'] else if c = 'b' then ['\x08'] else if c = 'n' then ['\n']
  else if c = 'r' then ['\r'] else if c = 't' then ['\t'] else if c = 'Z' then ['\x1a']
  else if c = '%' || c = '_' then ['\\', c] else [c]

/-- A literal up to its closing quote, and what follows. -/
def readLiteral : List Char → Option (List Char × List Char)
  | [] => none
  | '\\' :: c :: rest => (readLiteral rest).map fun p => (escapeOf c ++ p.1, p.2)
  | '\'' :: '\'' :: rest => (readLiteral rest).map fun p => ('\'' :: p.1, p.2)
  | '\'' :: rest => some ([], rest)
  | c :: rest => (readLiteral rest).map fun p => (c :: p.1, p.2)

/-- The characters of a class in front, and what follows. -/
def readWhile (p : Char → Bool) (cs : List Char) : List Char × List Char :=
  (cs.takeWhile p, cs.dropWhile p)

/-- A point and the digits after it, if there is a point. -/
def readFraction : List Char → List Char × List Char
  | '.' :: rest =>
    let digits := readWhile Text.isDigit rest
    ('.' :: digits.1, digits.2)
  | cs => ([], cs)

def readSign : List Char → List Char × List Char
  | '+' :: rest => (['+'], rest)
  | '-' :: rest => (['-'], rest)
  | cs => ([], cs)

/-- An exponent, which has at least one digit. -/
def readExponent : List Char → List Char × List Char
  | [] => ([], [])
  | c :: rest =>
    let sign := readSign rest
    let digits := readWhile Text.isDigit sign.2
    if (c = 'e' ∨ c = 'E') ∧ digits.1 ≠ [] then (c :: (sign.1 ++ digits.1), digits.2)
    else ([], c :: rest)

def readNumber (cs : List Char) : List Char × List Char :=
  let whole := readWhile Text.isDigit cs
  let fraction := readFraction whole.2
  let exponent := readExponent fraction.2
  (whole.1 ++ fraction.1 ++ exponent.1, exponent.2)

/-- Whether a numeral starts here. -/
def startsNumber (c : Char) (rest : List Char) : Bool :=
  Text.isDigit c || (c == '.' && rest.head?.any Text.isDigit)

/-- The lexeme that starts with `c`, and what follows it. -/
def next? (c : Char) (rest : List Char) : Option (Lexeme Unit × List Char) :=
  if isSpace c then some (.blank c, rest)
  else if c = '\x60' then (readName rest).map fun p => (.name (String.ofList p.1), p.2)
  else if c = '\'' then (readLiteral rest).map fun p => (.literal (String.ofList p.1), p.2)
  else if c = '?' then some (.mark (), rest)
  else if isWordStart c then
    some (.word (String.ofList (c :: (readWhile isWordChar rest).1)), (readWhile isWordChar rest).2)
  else if startsNumber c rest then
    some (.number (String.ofList (readNumber (c :: rest)).1), (readNumber (c :: rest)).2)
  else if isComparison c then
    some (.comparison (String.ofList (c :: (readWhile isComparison rest).1)),
      (readWhile isComparison rest).2)
  else if isSign c then some (.sign c, rest)
  else none

/-! ## A reading comes to an end -/

theorem readName_length {cs : List Char} {p : List Char × List Char} (h : readName cs = some p) :
    p.2.length ≤ cs.length := by
  induction cs using readName.induct generalizing p with
  | case1 => simp [readName] at h
  | case2 rest ih =>
    simp only [readName, Option.map_eq_some_iff] at h
    obtain ⟨q, hq, rfl⟩ := h
    have := ih hq
    simp only [List.length_cons]
    omega
  | case3 rest hrest =>
    simp only [readName, Option.some.injEq] at h
    subst h
    simp
  | case4 c rest h₁ h₂ ih =>
    simp only [readName, Option.map_eq_some_iff] at h
    obtain ⟨q, hq, rfl⟩ := h
    have := ih hq
    simp only [List.length_cons]
    omega

theorem readLiteral_length {cs : List Char} {p : List Char × List Char}
    (h : readLiteral cs = some p) : p.2.length < cs.length := by
  induction cs using readLiteral.induct generalizing p with
  | case1 => simp [readLiteral] at h
  | case2 c rest ih =>
    simp only [readLiteral, Option.map_eq_some_iff] at h
    obtain ⟨q, hq, rfl⟩ := h
    have := ih hq
    simp only [List.length_cons]
    omega
  | case3 rest ih =>
    simp only [readLiteral, Option.map_eq_some_iff] at h
    obtain ⟨q, hq, rfl⟩ := h
    have := ih hq
    simp only [List.length_cons]
    omega
  | case4 rest hrest =>
    simp only [readLiteral, Option.some.injEq] at h
    subst h
    simp
  | case5 c rest h₁ h₂ h₃ ih =>
    simp only [readLiteral, Option.map_eq_some_iff] at h
    obtain ⟨q, hq, rfl⟩ := h
    have := ih hq
    simp only [List.length_cons]
    omega

@[simp] theorem readWhile_join (p : Char → Bool) (cs : List Char) :
    (readWhile p cs).1 ++ (readWhile p cs).2 = cs := List.takeWhile_append_dropWhile

@[simp] theorem readFraction_join (cs : List Char) :
    (readFraction cs).1 ++ (readFraction cs).2 = cs := by
  unfold readFraction
  split <;> simp

@[simp] theorem readSign_join (cs : List Char) : (readSign cs).1 ++ (readSign cs).2 = cs := by
  unfold readSign
  split <;> simp

@[simp] theorem readExponent_join (cs : List Char) :
    (readExponent cs).1 ++ (readExponent cs).2 = cs := by
  unfold readExponent
  split
  · rfl
  · dsimp only
    split <;> simp

@[simp] theorem readNumber_join (cs : List Char) : (readNumber cs).1 ++ (readNumber cs).2 = cs := by
  simp [readNumber]

/-- A numeral that starts has a first character. -/
theorem readNumber_length {c : Char} {rest : List Char} (h : startsNumber c rest) :
    (readNumber (c :: rest)).2.length ≤ rest.length := by
  have happend := congrArg List.length (readNumber_join (c :: rest))
  have hfirst : (readNumber (c :: rest)).1 ≠ [] := by
    by_cases hc : Text.isDigit c
    · simp [readNumber, readWhile, hc]
    · have hpoint : c = '.' := by
        simp only [startsNumber, hc, Bool.false_or, Bool.and_eq_true, beq_iff_eq] at h
        exact h.1
      subst hpoint
      simp [readNumber, readWhile, hc, readFraction]
  have := List.length_pos_iff.mpr hfirst
  simp only [List.length_append, List.length_cons] at happend
  omega

theorem next?_length {c : Char} {rest : List Char} {p : Lexeme Unit × List Char}
    (h : next? c rest = some p) : p.2.length ≤ rest.length := by
  unfold next? at h
  split at h
  · cases h; exact Nat.le_refl _
  split at h
  · obtain ⟨q, hq, rfl⟩ := Option.map_eq_some_iff.mp h
    exact readName_length hq
  split at h
  · obtain ⟨q, hq, rfl⟩ := Option.map_eq_some_iff.mp h
    exact Nat.le_of_lt (readLiteral_length hq)
  split at h
  · cases h; exact Nat.le_refl _
  split at h
  · cases h; exact List.length_dropWhile_le _ _
  split at h
  · cases h; exact readNumber_length ‹_›
  split at h
  · cases h; exact List.length_dropWhile_le _ _
  split at h
  · cases h; exact Nat.le_refl _
  · cases h

/-- The lexemes of a text, unless something in it is no lexeme. -/
def lex : List Char → Option (List (Lexeme Unit))
  | [] => some []
  | c :: rest =>
    match h : next? c rest with
    | none => none
    | some p =>
      have := next?_length h
      (lex p.2).map (p.1 :: ·)
termination_by cs => cs.length

@[simp] theorem lex_nil : lex [] = some [] := by rw [lex]

theorem lex_cons {c : Char} {rest : List Char} {l : Lexeme Unit} {rest' : List Char}
    (h : next? c rest = some (l, rest')) : lex (c :: rest) = (lex rest').map (l :: ·) := by
  rw [lex]
  split
  · simp_all
  · simp_all

end SchemaRest.Sql
