import Mathlib.Data.List.Chain
import SchemaRest.Proofs.Sql.Literal

/-!
# Spelled lexemes

The text of a list of lexemes, and the statement that such a text is cut into these lexemes again. A
lexeme is read as far as it goes, so two of them may stand side by side only if one of them is a
break: a blank, a sign or a mark, which nothing continues and which continues nothing.
-/

namespace SchemaRest.Sql

variable {μ : Type} {Q : String → Prop}

/-! ## Numerals -/

inductive IsFraction : List Char → Prop
  | none : IsFraction []
  | some (digits : List Char) (h : ∀ c ∈ digits, Text.isDigit c) : IsFraction ('.' :: digits)

inductive IsExponent : List Char → Prop
  | none : IsExponent []
  | some (e : Char) (sign digits : List Char) (he : e = 'e' ∨ e = 'E')
      (hs : sign = [] ∨ sign = ['+'] ∨ sign = ['-']) (hne : digits ≠ [])
      (h : ∀ c ∈ digits, Text.isDigit c) : IsExponent (e :: (sign ++ digits))

/-- Digits, a fraction and an exponent, with at least one digit before the exponent. -/
inductive IsNumeral : List Char → Prop
  | mk (whole fraction exponent : List Char) (hw : ∀ c ∈ whole, Text.isDigit c)
      (hf : IsFraction fraction) (he : IsExponent exponent)
      (hne : whole ≠ [] ∨ 2 ≤ fraction.length) : IsNumeral (whole ++ fraction ++ exponent)

/-! ## Spelling -/

namespace Lexeme

def chars : Lexeme μ → List Char
  | blank c => [c]
  | name s => '\x60' :: doubled '\x60' s.toList ++ ['\x60']
  | literal s => '\'' :: doubled '\'' s.toList ++ ['\'']
  | mark _ => ['?']
  | word s => s.toList
  | number s => s.toList
  | comparison s => s.toList
  | sign c => [c]

@[simp] theorem chars_blank (c : Char) : (blank c : Lexeme μ).chars = [c] := rfl
@[simp] theorem chars_name (s : String) : (name s : Lexeme μ).chars =
    '\x60' :: doubled '\x60' s.toList ++ ['\x60'] := rfl
@[simp] theorem chars_mark (m : μ) : (mark m).chars = ['?'] := rfl
@[simp] theorem chars_word (s : String) : (word s : Lexeme μ).chars = s.toList := rfl
@[simp] theorem chars_number (s : String) : (number s : Lexeme μ).chars = s.toList := rfl
@[simp] theorem chars_comparison (s : String) : (comparison s : Lexeme μ).chars = s.toList := rfl
@[simp] theorem chars_sign (c : Char) : (sign c : Lexeme μ).chars = [c] := rfl

def isWord : List Char → Bool
  | [] => false
  | c :: rest => isWordStart c && rest.all isWordChar

/-- Whether the text of a lexeme is one of its kind; `Q` says what literals may hold. -/
def IsFormed (Q : String → Prop) : Lexeme μ → Prop
  | blank c => isSpace c
  | name _ => True
  | literal s => Q s
  | mark _ => True
  | word s => isWord s.toList
  | number s => IsNumeral s.toList
  | comparison s => s.toList ≠ [] ∧ ∀ c ∈ s.toList, isComparison c
  | sign c => isSign c

@[simp] theorem formed_name (s : String) : (name s : Lexeme μ).IsFormed Q := trivial
@[simp] theorem formed_mark (m : μ) : (mark m).IsFormed Q := trivial
@[simp] theorem formed_blank (c : Char) : (blank c : Lexeme μ).IsFormed Q ↔ isSpace c := .rfl
@[simp] theorem formed_word (s : String) : (word s : Lexeme μ).IsFormed Q ↔ isWord s.toList := .rfl
@[simp] theorem formed_number (s : String) : (number s : Lexeme μ).IsFormed Q ↔ IsNumeral s.toList := .rfl
@[simp] theorem formed_sign (c : Char) : (sign c : Lexeme μ).IsFormed Q ↔ isSign c := .rfl

theorem formed_equals : (comparison "=" : Lexeme μ).IsFormed Q := ⟨by decide, by simp [isComparison]⟩

def isBreak : Lexeme μ → Bool
  | blank _ | mark _ | sign _ => true
  | _ => false

/-- Whether a character right after a lexeme would be read as a part of it. -/
def extendedBy : Lexeme μ → Char → Bool
  | name _, c => c == '\x60'
  | literal _, c => c == '\''
  | word _, c => isWordChar c
  | number _, c => Text.isDigit c || c == '.' || c == 'e' || c == 'E'
  | comparison _, c => isComparison c
  | _, _ => false

end Lexeme

def spell (ls : List (Lexeme μ)) : List Char := ls.flatMap Lexeme.chars

@[simp] theorem spell_nil : spell ([] : List (Lexeme μ)) = [] := rfl

@[simp] theorem spell_cons (l : Lexeme μ) (ls : List (Lexeme μ)) :
    spell (l :: ls) = l.chars ++ spell ls := rfl

@[simp] theorem spell_append (ls ms : List (Lexeme μ)) :
    spell (ls ++ ms) = spell ls ++ spell ms := List.flatMap_append

/-- Whether one of any two neighbours is a break. -/
def Separated (ls : List (Lexeme μ)) : Prop := ls.IsChain fun a b => a.isBreak ∨ b.isBreak

/-- Whether a text can stand right after a list of lexemes. -/
def Ends (ls : List (Lexeme μ)) (rest : List Char) : Prop :=
  ∀ l ∈ ls.getLast?, ∀ c ∈ rest.head?, l.extendedBy c = false

@[simp] theorem separated_nil : Separated ([] : List (Lexeme μ)) := .nil

@[simp] theorem separated_singleton (l : Lexeme μ) : Separated [l] := .singleton l

/-- A break may stand before anything. -/
theorem separated_cons {l : Lexeme μ} {ls : List (Lexeme μ)} (hl : l.isBreak) :
    Separated (l :: ls) ↔ Separated ls := by
  simp [Separated, List.isChain_cons, hl]

/-- Two lists can be joined where a break stands. -/
theorem separated_append {ls ms : List (Lexeme μ)} (hl : Separated ls) (hm : Separated ms)
    (h : ∀ m ∈ ms.head?, m.isBreak) : Separated (ls ++ ms) :=
  List.IsChain.append hl hm fun _ _ m hm => .inr (h m hm)

/-! ## Classes of characters are apart -/

theorem ne_of_class {p : Char → Bool} {c d : Char} (h : p c) (hd : p d = false) : c ≠ d := by
  rintro rfl
  simp [hd] at h

theorem not_space {p : Char → Bool} {c : Char} (h : p c)
    (hp : [' ', '\n', '\t', '\r', '\x0b', '\x0c'].all (fun d => !p d)) : isSpace c = false := by
  rw [Bool.eq_false_iff]
  intro hs
  have hc : p c = false := by
    simpa using List.all_eq_true.mp hp c (by simpa [isSpace] using hs)
  simp [hc] at h

theorem toNat_of_isDigit {c : Char} (h : Text.isDigit c) : 48 ≤ c.toNat ∧ c.toNat ≤ 57 := by
  simp only [Text.isDigit, Bool.and_eq_true, decide_eq_true_eq, Char.le_def,
    UInt32.le_iff_toNat_le] at h
  exact h

theorem not_wordStart_of_digit {c : Char} (h : Text.isDigit c) : isWordStart c = false := by
  obtain ⟨hlow, hhigh⟩ := toNat_of_isDigit h
  have hunderscore : c ≠ '_' := by rintro rfl; simp at hhigh
  have hdollar : c ≠ '$' := by rintro rfl; simp at hlow
  have hletters : ¬ ('a' ≤ c) ∧ ¬ ('A' ≤ c) := by
    simp only [Char.le_def, UInt32.le_iff_toNat_le]
    exact ⟨fun h => absurd (Nat.le_trans h hhigh) (by decide),
      fun h => absurd (Nat.le_trans h hhigh) (by decide)⟩
  simp [isWordStart, hunderscore, hdollar, hletters]

theorem isWord_cons {cs : List Char} (h : Lexeme.isWord cs) :
    ∃ c rest, cs = c :: rest ∧ isWordStart c ∧ ∀ d ∈ rest, isWordChar d := by
  cases cs with
  | nil => cases h
  | cons c rest => exact ⟨c, rest, rfl, by simpa [Lexeme.isWord] using h⟩

/-! ## Reading what was spelled -/

theorem readName_doubled (s rest : List Char) (hr : ∀ c ∈ rest.head?, c ≠ '\x60') :
    readName (doubled '\x60' s ++ '\x60' :: rest) = some (s, rest) := by
  induction s with
  | nil =>
    cases rest with
    | nil => simp [readName]
    | cons d rest =>
      have hd : d ≠ '\x60' := hr d rfl
      simp [readName, hd]
  | cons c s ih =>
    by_cases hc : c = '\x60'
    · subst hc
      simp [readName, ih]
    · simp [doubled_other hc, readName, hc, ih]

theorem readWhile_append {p : Char → Bool} {cs rest : List Char} (h : ∀ c ∈ cs, p c)
    (hr : ∀ c ∈ rest.head?, p c = false) : readWhile p (cs ++ rest) = (cs, rest) := by
  have hrest : rest.takeWhile p = [] ∧ rest.dropWhile p = rest := by
    cases rest with
    | nil => simp
    | cons d rest => simp [hr d rfl]
  simp [readWhile, List.takeWhile_append_of_pos h, List.dropWhile_append_of_pos h, hrest]

theorem readFraction_append {cs rest : List Char} (h : IsFraction cs)
    (hr : ∀ c ∈ rest.head?, c ≠ '.' ∧ Text.isDigit c = false) :
    readFraction (cs ++ rest) = (cs, rest) := by
  cases h with
  | none =>
    cases rest with
    | nil => rfl
    | cons d rest =>
      have hd : d ≠ '.' := (hr d rfl).1
      simp [readFraction, hd]
  | some digits hd =>
    rw [List.cons_append, readFraction, readWhile_append hd fun c hc => (hr c hc).2]

theorem readExponent_append {cs rest : List Char} (h : IsExponent cs)
    (hr : ∀ c ∈ rest.head?, c ≠ 'e' ∧ c ≠ 'E' ∧ Text.isDigit c = false) :
    readExponent (cs ++ rest) = (cs, rest) := by
  cases h with
  | none =>
    cases rest with
    | nil => rfl
    | cons d rest => simp [readExponent, (hr d rfl).1, (hr d rfl).2.1]
  | some e sign digits he hs hne hd =>
    have hsign : readSign (sign ++ (digits ++ rest)) = (sign, digits ++ rest) := by
      rcases hs with rfl | rfl | rfl
      · cases digits with
        | nil => exact absurd rfl hne
        | cons d digits =>
          have hplus : d ≠ '+' := ne_of_class (hd d (by simp)) (by decide)
          have hminus : d ≠ '-' := ne_of_class (hd d (by simp)) (by decide)
          simp [readSign, hplus, hminus]
      · rfl
      · rfl
    have hdigits := readWhile_append hd fun c hc => (hr c hc).2.2
    simp [readExponent, hsign, hdigits, he, hne]

theorem IsFraction.head {cs : List Char} (h : IsFraction cs) : ∀ c ∈ cs.head?, c = '.' := by
  cases h <;> simp

theorem IsExponent.head {cs : List Char} (h : IsExponent cs) :
    ∀ c ∈ cs.head?, c = 'e' ∨ c = 'E' := by
  cases h with
  | none => simp
  | some e sign digits he => simp [he]

theorem readNumber_append {cs rest : List Char} (h : IsNumeral cs)
    (hr : ∀ c ∈ rest.head?, (Lexeme.number "" : Lexeme μ).extendedBy c = false) :
    readNumber (cs ++ rest) = (cs, rest) := by
  cases h with
  | mk whole fraction exponent hw hf he hne =>
    have hrest : ∀ c ∈ rest.head?, ((Text.isDigit c = false ∧ c ≠ '.') ∧ c ≠ 'e') ∧ c ≠ 'E' := by
      simpa only [Lexeme.extendedBy, Bool.or_eq_false_iff, beq_eq_false_iff_ne] using hr
    -- What stands after one part is the head of the next part that is there.
    have hafterFraction : ∀ c ∈ (exponent ++ rest).head?, c ≠ '.' ∧ Text.isDigit c = false := by
      intro c hc
      cases exponent with
      | nil => exact ⟨(hrest c hc).1.1.2, (hrest c hc).1.1.1⟩
      | cons d exponent =>
        rcases he.head c hc with rfl | rfl <;> decide
    have hafterWhole : ∀ c ∈ (fraction ++ (exponent ++ rest)).head?, Text.isDigit c = false := by
      intro c hc
      cases fraction with
      | nil => exact (hafterFraction c hc).2
      | cons d fraction =>
        rw [hf.head c hc]
        decide
    have hexponent := readExponent_append he fun c hc =>
      ⟨(hrest c hc).1.2, (hrest c hc).2, (hrest c hc).1.1.1⟩
    simp [readNumber, readWhile_append hw hafterWhole, readFraction_append hf hafterFraction,
      hexponent]

theorem IsNumeral.cons {cs : List Char} (h : IsNumeral cs) :
    ∃ c ds, cs = c :: ds ∧ ∀ rest, startsNumber c (ds ++ rest) := by
  cases h with
  | mk whole fraction exponent hw hf he hne =>
    cases whole with
    | cons c whole =>
      exact ⟨c, whole ++ fraction ++ exponent, rfl, fun rest => by
        simp [startsNumber, hw c (by simp)]⟩
    | nil =>
      cases hf with
      | none => simp at hne
      | some digits hd =>
        cases digits with
        | nil => simp at hne
        | cons d digits =>
          exact ⟨'.', d :: digits ++ exponent, rfl, fun rest => by
            simp [startsNumber, hd d (by simp)]⟩

theorem next?_number {c : Char} {rest : List Char} (h : startsNumber c rest) :
    next? c rest = some (.number (String.ofList (readNumber (c :: rest)).1),
      (readNumber (c :: rest)).2) := by
  have hc : Text.isDigit c ∨ c = '.' := by
    simp only [startsNumber, Bool.or_eq_true, Bool.and_eq_true, beq_iff_eq] at h
    exact h.imp_right (·.1)
  rcases hc with hc | rfl
  · have hspace : isSpace c = false := not_space hc (by decide)
    have htick : c ≠ '\x60' := ne_of_class hc (by decide)
    have hquote : c ≠ '\'' := ne_of_class hc (by decide)
    have hmark : c ≠ '?' := ne_of_class hc (by decide)
    simp [next?, hspace, htick, hquote, hmark, not_wordStart_of_digit hc, h]
  · simp [next?, show isSpace '.' = false by decide, show isWordStart '.' = false by decide, h]

/-- A spelled lexeme is read back if nothing after it extends it. -/
theorem next?_chars (l : Lexeme Unit) (hl : l.IsFormed Keeps) (rest : List Char)
    (hr : ∀ c ∈ rest.head?, l.extendedBy c = false) :
    ∃ c cs, l.chars = c :: cs ∧ next? c (cs ++ rest) = some (l, rest) := by
  cases l with
  | blank c =>
    have hc : isSpace c := hl
    exact ⟨c, [], rfl, by simp [next?, hc]⟩
  | name s =>
    refine ⟨'\x60', doubled '\x60' s.toList ++ ['\x60'], rfl, ?_⟩
    have hs := readName_doubled s.toList rest (by simpa [Lexeme.extendedBy] using hr)
    simp [next?, show isSpace '\x60' = false by decide, hs]
  | literal s =>
    refine ⟨'\'', doubled '\'' s.toList ++ ['\''], rfl, ?_⟩
    have hs := readLiteral_doubled s.toList rest hl (by simpa [Lexeme.extendedBy] using hr)
    simp [next?, show isSpace '\'' = false by decide, hs]
  | mark m =>
    exact ⟨'?', [], rfl, by simp [next?, show isSpace '?' = false by decide]⟩
  | word s =>
    obtain ⟨c, cs, hs, hc, hcs⟩ := isWord_cons hl
    refine ⟨c, cs, hs, ?_⟩
    have hspace : isSpace c = false := not_space hc (by decide)
    have htick : c ≠ '\x60' := ne_of_class hc (by decide)
    have hquote : c ≠ '\'' := ne_of_class hc (by decide)
    have hmark : c ≠ '?' := ne_of_class hc (by decide)
    simp [next?, hspace, htick, hquote, hmark, hc, readWhile_append hcs hr, ← hs]
  | number s =>
    obtain ⟨c, cs, hs, hstart⟩ := IsNumeral.cons hl
    refine ⟨c, cs, hs, ?_⟩
    have hread := readNumber_append (μ := Unit) hl hr
    rw [hs, List.cons_append] at hread
    rw [next?_number (hstart rest), hread]
    simp [← hs]
  | comparison s =>
    obtain ⟨hne, hs⟩ := hl
    cases hcs : s.toList with
    | nil => exact absurd hcs hne
    | cons c cs =>
      refine ⟨c, cs, hcs, ?_⟩
      have hc : isComparison c := hs c (by simp [hcs])
      have hcs' : ∀ d ∈ cs, isComparison d := fun d hd => hs d (by simp [hcs, hd])
      have hread := readWhile_append hcs' hr
      have hother : isSpace c = false ∧ c ≠ '\x60' ∧ c ≠ '\'' ∧ c ≠ '?' ∧ isWordStart c = false ∧
          Text.isDigit c = false ∧ c ≠ '.' := by
        have hcases : c = '<' ∨ c = '>' ∨ c = '=' ∨ c = '!' := by simpa [isComparison] using hc
        rcases hcases with rfl | rfl | rfl | rfl <;> decide
      obtain ⟨hspace, htick, hquote, hmark, hword, hdigit, hpoint⟩ := hother
      simp [next?, startsNumber, hspace, htick, hquote, hmark, hword, hdigit, hpoint, hc, hread,
        ← hcs]
  | sign c =>
    have hc : isSign c := hl
    have hother : isSpace c = false ∧ c ≠ '\x60' ∧ c ≠ '\'' ∧ c ≠ '?' ∧ isWordStart c = false ∧
        Text.isDigit c = false ∧ c ≠ '.' ∧ isComparison c = false := by
      have hcases : c = '(' ∨ c = ')' ∨ c = ',' ∨ c = '*' ∨ c = ';' ∨ c = '+' ∨ c = '-' := by
        simpa [isSign] using hc
      rcases hcases with rfl | rfl | rfl | rfl | rfl | rfl | rfl <;> decide
    obtain ⟨hspace, htick, hquote, hmark, hword, hdigit, hpoint, hcomparison⟩ := hother
    exact ⟨c, [], rfl, by simp [next?, startsNumber, hspace, htick, hquote, hmark, hword, hdigit,
      hpoint, hcomparison, hc]⟩

theorem lex_chars (l : Lexeme Unit) (hl : l.IsFormed Keeps) (rest : List Char)
    (hr : ∀ c ∈ rest.head?, l.extendedBy c = false) :
    lex (l.chars ++ rest) = (lex rest).map (l :: ·) := by
  obtain ⟨c, cs, hchars, hnext⟩ := next?_chars l hl rest hr
  rw [hchars, List.cons_append, lex_cons hnext]

/-! ## Breaks -/

theorem break_not_extended {l : Lexeme μ} (hl : l.isBreak) (c : Char) : l.extendedBy c = false := by
  cases l <;> simp_all [Lexeme.isBreak, Lexeme.extendedBy]

/-- The first characters of breaks. -/
def breakChars : List Char :=
  [' ', '\n', '\t', '\r', '\x0b', '\x0c', '?', '(', ')', ',', '*', ';', '+', '-']

theorem not_extended_by_breakChars (k : Lexeme μ) : breakChars.all fun d => !k.extendedBy d := by
  cases k <;> simp only [Lexeme.extendedBy] <;> decide

/-- No lexeme is extended by the first character of a break. -/
theorem break_not_extends {l : Lexeme μ} (hl : l.isBreak) (hf : l.IsFormed Q) (k : Lexeme μ) :
    ∀ c ∈ l.chars.head?, k.extendedBy c = false := by
  intro c hc
  suffices hmem : c ∈ breakChars by
    simpa using List.all_eq_true.mp (not_extended_by_breakChars k) c hmem
  unfold breakChars
  cases l with
  | blank d =>
    have hd : isSpace d := hf
    simp only [Lexeme.chars, List.head?_cons, Option.mem_some_iff] at hc
    subst hc
    simp only [isSpace, List.contains_eq_mem, List.mem_cons, List.not_mem_nil, or_false,
      decide_eq_true_eq] at hd
    rcases hd with h | h | h | h | h | h <;> simp [h]
  | mark m =>
    simp only [Lexeme.chars, List.head?_cons, Option.mem_some_iff] at hc
    simp [← hc]
  | sign d =>
    have hd : isSign d := hf
    simp only [Lexeme.chars, List.head?_cons, Option.mem_some_iff] at hc
    subst hc
    simp only [isSign, List.contains_eq_mem, List.mem_cons, List.not_mem_nil, or_false,
      decide_eq_true_eq] at hd
    rcases hd with h | h | h | h | h | h | h <;> simp [h]
  | _ => simp [Lexeme.isBreak] at hl

theorem chars_ne_nil {l : Lexeme μ} (hl : l.IsFormed Q) : l.chars ≠ [] := by
  cases l with
  | word s =>
    obtain ⟨c, cs, hs, -⟩ := isWord_cons hl
    simp [hs]
  | number s =>
    obtain ⟨c, cs, hs, -⟩ := IsNumeral.cons hl
    simp [hs]
  | comparison s => exact hl.1
  | _ => simp [Lexeme.chars]

/-- What comes after a lexeme in a spelled list does not extend it. -/
theorem not_extended_by_next {l : Lexeme μ} {ls : List (Lexeme μ)} {rest : List Char}
    (hf : ∀ k ∈ ls, k.IsFormed Q) (hs : Separated (l :: ls)) (hr : Ends (l :: ls) rest) :
    ∀ c ∈ (spell ls ++ rest).head?, l.extendedBy c = false := by
  cases ls with
  | nil => simpa [Ends] using hr
  | cons k ls =>
    have hk := hf k (by simp)
    intro c hc
    rw [spell_cons, List.append_assoc, List.head?_append_of_ne_nil _ (chars_ne_nil hk)] at hc
    rcases (List.isChain_cons_cons.mp hs).1 with hbreak | hbreak
    · exact break_not_extended hbreak c
    · exact break_not_extends hbreak hk l c hc

theorem Ends.tail {l : Lexeme μ} {ls : List (Lexeme μ)} {rest : List Char}
    (h : Ends (l :: ls) rest) : Ends ls rest := by
  cases ls with
  | nil => simp [Ends]
  | cons k ls => simpa [Ends] using h

/-- A spelled list is cut into its lexemes again, whatever can stand after it. -/
theorem lex_spell_append (ls : List (Lexeme Unit)) (hf : ∀ l ∈ ls, l.IsFormed Keeps)
    (hs : Separated ls) (rest : List Char) (hr : Ends ls rest) :
    lex (spell ls ++ rest) = (lex rest).map (ls ++ ·) := by
  induction ls with
  | nil => simp
  | cons l ls ih =>
    obtain ⟨hl, hls⟩ := List.forall_mem_cons.mp hf
    have hnext := not_extended_by_next hls hs hr
    rw [spell_cons, List.append_assoc, lex_chars l hl _ hnext, ih hls (List.IsChain.tail hs) hr.tail]
    simp [Option.map_map, Function.comp_def]

/-! ## Marks that carry values -/

namespace Lexeme

/-- A lexeme as it is read, when its marks carry nothing yet. -/
def bare : Lexeme μ → Lexeme Unit
  | blank c => .blank c
  | name s => .name s
  | literal s => .literal s
  | mark _ => .mark ()
  | word s => .word s
  | number s => .number s
  | comparison s => .comparison s
  | sign c => .sign c

@[simp] theorem chars_bare (l : Lexeme μ) : l.bare.chars = l.chars := by cases l <;> rfl

@[simp] theorem formed_bare (l : Lexeme μ) : l.bare.IsFormed Q ↔ l.IsFormed Q := by cases l <;> rfl

@[simp] theorem isBreak_bare (l : Lexeme μ) : l.bare.isBreak = l.isBreak := by cases l <;> rfl

end Lexeme

@[simp] theorem spell_bare (ls : List (Lexeme μ)) : spell (ls.map Lexeme.bare) = spell ls := by
  simp [spell, List.flatMap_map]

theorem separated_bare {ls : List (Lexeme μ)} (h : Separated ls) : Separated (ls.map Lexeme.bare) := by
  simpa [Separated, List.isChain_map] using h

theorem lex_spell (ls : List (Lexeme μ)) (hf : ∀ l ∈ ls, l.IsFormed Keeps) (hs : Separated ls) :
    lex (spell ls) = some (ls.map Lexeme.bare) := by
  have h := lex_spell_append (ls.map Lexeme.bare) (by simpa using hf) (separated_bare hs) []
    (by simp [Ends])
  simpa using h

/-! ## Literals of any text -/

/-- Literals may hold any text. -/
def Anything : String → Prop := fun _ => True

theorem Lexeme.formed_keeps {l : Lexeme μ} (hl : l.IsFormed Anything)
    (h : ∀ s, l = .literal s → Keeps s) : l.IsFormed Keeps := by
  cases l with
  | literal s => exact h s rfl
  | _ => exact hl

theorem keeps_of_lex {s : String} {rest : List Char} {ls : List (Lexeme Unit)}
    (h : lex ((Lexeme.literal s : Lexeme Unit).chars ++ rest) = some (.literal s :: ls)) :
    Keeps s := by
  have hchars : (Lexeme.literal s : Lexeme Unit).chars ++ rest =
      '\'' :: (doubled '\'' s.toList ++ '\'' :: rest) := by simp [Lexeme.chars]
  have hnext : next? '\'' (doubled '\'' s.toList ++ '\'' :: rest) =
      (readLiteral (doubled '\'' s.toList ++ '\'' :: rest)).map
        fun p => (.literal (String.ofList p.1), p.2) := by
    simp [next?, show isSpace '\'' = false by decide]
  rw [hchars] at h
  cases hread : readLiteral (doubled '\'' s.toList ++ '\'' :: rest) with
  | none =>
    rw [hread] at hnext
    rw [lex] at h
    split at h
    · cases h
    · next p hp => simp [hnext] at hp
  | some p =>
    rw [hread] at hnext
    rw [lex_cons hnext, Option.map_eq_some_iff] at h
    obtain ⟨ms, -, hms⟩ := h
    have htext : String.ofList p.1 = s := Lexeme.literal.inj (List.cons.inj hms).1
    have hp : p.1 = s.toList := by rw [← htext, String.toList_ofList]
    obtain ⟨text, rest'⟩ := p
    subst hp
    exact keeps_of_readLiteral hread

theorem keeps_of_lex_spell {ls : List (Lexeme Unit)} (hf : ∀ l ∈ ls, l.IsFormed Anything)
    (hs : Separated ls) (h : lex (spell ls) = some ls) : ∀ s, .literal s ∈ ls → Keeps s := by
  induction ls with
  | nil => simp
  | cons l ls ih =>
    obtain ⟨hl, hls⟩ := List.forall_mem_cons.mp hf
    rw [spell_cons] at h
    have hkeep : ∀ s, l = .literal s → Keeps s := by
      rintro s rfl
      exact keeps_of_lex h
    have hends : Ends (l :: ls) [] := by simp [Ends]
    have hnext := not_extended_by_next hls hs hends
    rw [List.append_nil] at hnext
    rw [lex_chars l (Lexeme.formed_keeps hl hkeep) _ hnext, Option.map_eq_some_iff] at h
    obtain ⟨ms, hms, hcons⟩ := h
    obtain rfl := (List.cons.inj hcons).2
    intro s hmem
    rcases List.mem_cons.mp hmem with hmem | hmem
    · exact hkeep s hmem.symm
    · exact ih hls (List.IsChain.tail hs) hms s hmem

theorem literal_mem_bare (ls : List (Lexeme μ)) (s : String) :
    .literal s ∈ ls.map Lexeme.bare ↔ .literal s ∈ ls := by
  rw [List.mem_map]
  constructor
  · rintro ⟨l, hl, hbare⟩
    cases l with
    | literal t =>
      cases hbare
      exact hl
    | _ => cases hbare
  · exact fun h => ⟨.literal s, h, rfl⟩

/-- Spelled lexemes are read back exactly if every literal holds a text without escapes. -/
theorem lex_spell_iff (ls : List (Lexeme μ)) (hf : ∀ l ∈ ls, l.IsFormed Anything)
    (hs : Separated ls) :
    lex (spell ls) = some (ls.map Lexeme.bare) ↔ ∀ s, .literal s ∈ ls → Keeps s := by
  constructor
  · intro h s hmem
    rw [← spell_bare] at h
    refine keeps_of_lex_spell ?_ (separated_bare hs) h s ((literal_mem_bare ls s).mpr hmem)
    simpa using hf
  · intro h
    refine lex_spell ls (fun l hl => Lexeme.formed_keeps (hf l hl) ?_) hs
    rintro s rfl
    exact h s hl

end SchemaRest.Sql
