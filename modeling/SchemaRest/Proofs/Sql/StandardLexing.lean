import SchemaRest.Proofs.Sql.Phrase

/-!
# Lexemes with standard literals

The standard knows one rule for a literal: a doubled quote is one quote, and nothing else is special.
`lexStandard` cuts a text like `lex`, but reads its literals by this rule. What is spelled is read back
then whatever its literals hold.
-/

namespace SchemaRest.Sql

/-- A literal up to its closing quote, and what follows. -/
def readQuoted : List Char → Option (List Char × List Char)
  | [] => none
  | '\'' :: '\'' :: rest => (readQuoted rest).map fun p => ('\'' :: p.1, p.2)
  | '\'' :: rest => some ([], rest)
  | c :: rest => (readQuoted rest).map fun p => (c :: p.1, p.2)

/-- The lexeme that starts with `c`, and what follows it. -/
def nextStandard? (c : Char) (rest : List Char) : Option (Lexeme Unit × List Char) :=
  if c = '\'' then (readQuoted rest).map fun p => (.literal (String.ofList p.1), p.2)
  else next? c rest

theorem readQuoted_length {cs : List Char} {p : List Char × List Char} (h : readQuoted cs = some p) :
    p.2.length ≤ cs.length := by
  induction cs using readQuoted.induct generalizing p with
  | case1 => simp [readQuoted] at h
  | case2 rest ih =>
    simp only [readQuoted, Option.map_eq_some_iff] at h
    obtain ⟨q, hq, rfl⟩ := h
    have := ih hq
    simp only [List.length_cons]
    omega
  | case3 rest hrest =>
    simp only [readQuoted, Option.some.injEq] at h
    subst h
    simp
  | case4 c rest h₁ h₂ ih =>
    simp only [readQuoted, Option.map_eq_some_iff] at h
    obtain ⟨q, hq, rfl⟩ := h
    have := ih hq
    simp only [List.length_cons]
    omega

theorem nextStandard?_length {c : Char} {rest : List Char} {p : Lexeme Unit × List Char}
    (h : nextStandard? c rest = some p) : p.2.length ≤ rest.length := by
  unfold nextStandard? at h
  split at h
  · obtain ⟨q, hq, rfl⟩ := Option.map_eq_some_iff.mp h
    exact readQuoted_length hq
  · exact next?_length h

/-- The lexemes of a text, unless something in it is no lexeme. -/
def lexStandard : List Char → Option (List (Lexeme Unit))
  | [] => some []
  | c :: rest =>
    match h : nextStandard? c rest with
    | none => none
    | some p =>
      have := nextStandard?_length h
      (lexStandard p.2).map (p.1 :: ·)
termination_by cs => cs.length

@[simp] theorem lexStandard_nil : lexStandard [] = some [] := by rw [lexStandard]

theorem lexStandard_cons {c : Char} {rest : List Char} {l : Lexeme Unit} {rest' : List Char}
    (h : nextStandard? c rest = some (l, rest')) :
    lexStandard (c :: rest) = (lexStandard rest').map (l :: ·) := by
  rw [lexStandard]
  split
  · simp_all
  · simp_all

/-! ## Reading what was spelled -/

theorem readQuoted_doubled (s rest : List Char) (hr : ∀ c ∈ rest.head?, c ≠ '\'') :
    readQuoted (doubled '\'' s ++ '\'' :: rest) = some (s, rest) := by
  induction s with
  | nil =>
    cases rest with
    | nil => simp [readQuoted]
    | cons d rest =>
      have hd : d ≠ '\'' := hr d rfl
      simp [readQuoted, hd]
  | cons c s ih =>
    by_cases hc : c = '\''
    · subst hc
      simp [readQuoted, ih]
    · simp [doubled_other hc, readQuoted, hc, ih]

/-- What starts with a quote is a literal. -/
theorem literal_of_next? {rest : List Char} {l : Lexeme Unit} {rest' : List Char}
    (h : next? '\'' rest = some (l, rest')) : ∃ s, l = .literal s := by
  have hspace : isSpace '\'' = false := by decide
  simp only [next?, hspace, Bool.false_eq_true, if_false, if_true, Option.map_eq_some_iff,
    Char.reduceEq] at h
  obtain ⟨p, -, hp⟩ := h
  cases hp
  exact ⟨_, rfl⟩

theorem nextStandard?_chars (l : Lexeme Unit) (hl : l.IsFormed Anything) (rest : List Char)
    (hr : ∀ c ∈ rest.head?, l.extendedBy c = false) :
    ∃ c cs, l.chars = c :: cs ∧ nextStandard? c (cs ++ rest) = some (l, rest) := by
  by_cases hliteral : ∃ s, l = .literal s
  · obtain ⟨s, rfl⟩ := hliteral
    have hquoted := readQuoted_doubled s.toList rest (by simpa [Lexeme.extendedBy] using hr)
    refine ⟨'\'', doubled '\'' s.toList ++ ['\''], rfl, ?_⟩
    simp [nextStandard?, hquoted]
  · have hkeeps : l.IsFormed Keeps := Lexeme.formed_keeps hl fun s hs => absurd ⟨s, hs⟩ hliteral
    obtain ⟨c, cs, hchars, hnext⟩ := next?_chars l hkeeps rest hr
    have hquote : c ≠ '\'' := by
      rintro rfl
      exact hliteral (literal_of_next? hnext)
    exact ⟨c, cs, hchars, by rw [nextStandard?, if_neg hquote, hnext]⟩

/-- A spelled list is cut into its lexemes again, whatever its literals hold. -/
theorem lexStandard_spell (ls : List (Lexeme Unit)) (hf : ∀ l ∈ ls, l.IsFormed Anything)
    (hs : Separated ls) : lexStandard (spell ls) = some ls := by
  induction ls with
  | nil => exact lexStandard_nil
  | cons l ls ih =>
    obtain ⟨hl, hls⟩ := List.forall_mem_cons.mp hf
    have hends : Ends (l :: ls) [] := by simp [Ends]
    have hafter := not_extended_by_next hls hs hends
    rw [List.append_nil] at hafter
    obtain ⟨c, cs, hchars, hnext⟩ := nextStandard?_chars l hl (spell ls) hafter
    rw [spell_cons, hchars, List.cons_append, lexStandard_cons hnext, ih hls (List.IsChain.tail hs)]
    rfl

theorem Phrase.lexStandard_word {cs : List Char} {ls : List (Lexeme Unit)} (h : Phrase Anything cs ls)
    {w : String} (hw : Lexeme.isWord w.toList) :
    lexStandard (w.toList ++ cs) = some (.word w :: ls) := by
  rw [h.text]
  exact lexStandard_spell (.word w :: ls) (List.forall_mem_cons.mpr ⟨hw, h.formed⟩)
    (separated_append (separated_singleton _) h.separated h.opens)

end SchemaRest.Sql
