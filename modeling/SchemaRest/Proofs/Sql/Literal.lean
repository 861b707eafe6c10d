import SchemaRest.Proofs.Sql.Lexeme

/-!
# Literals with doubled quotes

A literal is written with the quotes of its text doubled and nothing else changed, so its backslashes
are read as escapes. Two questions have an exact answer, whatever stands after the literal. It says its
text if the text passes `quotesKeep`. It ends at the quote written last if the text passes `closes`;
otherwise a backslash takes a quote away, and the literal ends before or after that quote.
-/

namespace SchemaRest.Sql

/-- A text with every `c` written twice. -/
def doubled (c : Char) (cs : List Char) : List Char := cs.flatMap fun x => if x = c then [c, c] else [x]

@[simp] theorem doubled_nil (c : Char) : doubled c [] = [] := rfl

@[simp] theorem doubled_same (c : Char) (cs : List Char) :
    doubled c (c :: cs) = c :: c :: doubled c cs := by simp [doubled]

theorem doubled_other {c x : Char} (h : x ≠ c) (cs : List Char) :
    doubled c (x :: cs) = x :: doubled c cs := by simp [doubled, h]

/-- Whether a text between quotes is read as it is: a backslash stands only before a wildcard. -/
def quotesKeep : List Char → Bool
  | [] => true
  | ['\\'] => false
  | '\\' :: c :: rest => (c == '%' || c == '_') && quotesKeep rest
  | _ :: rest => quotesKeep rest

/-- A text that a literal can hold as it is. -/
def Keeps (s : String) : Prop := quotesKeep s.toList

/-- Whether no backslash of a text is read together with a quote. -/
def closes : List Char → Bool
  | [] => true
  | ['\\'] => false
  | '\\' :: c :: rest => c != '\'' && closes rest
  | _ :: rest => closes rest

/-- What a literal that ends where it should says. -/
def said : List Char → List Char
  | [] => []
  | '\\' :: c :: rest => escapeOf c ++ said rest
  | c :: rest => c :: said rest

theorem keeps_cons {c : Char} {s : List Char} (hc : c ≠ '\\') :
    quotesKeep (c :: s) = quotesKeep s := by simp [quotesKeep, hc]

theorem closes_cons {c : Char} {s : List Char} (hc : c ≠ '\\') : closes (c :: s) = closes s := by
  simp [closes, hc]

theorem said_cons {c : Char} {s : List Char} (hc : c ≠ '\\') : said (c :: s) = c :: said s := by
  simp [said, hc]

/-- A text falls into its escapes and the characters between them. -/
theorem escapes_induction {motive : List Char → Prop} (nil : motive []) (last : motive ['\\'])
    (escape : ∀ c s, motive s → motive ('\\' :: c :: s))
    (plain : ∀ c s, c ≠ '\\' → motive s → motive (c :: s)) (s : List Char) : motive s := by
  induction s using closes.induct with
  | case1 => exact nil
  | case2 => exact last
  | case3 c s ih => exact escape c s ih
  | case4 c s h₁ h₂ ih =>
    refine plain c s ?_ ih
    rintro rfl
    cases s with
    | nil => exact h₁ rfl rfl
    | cons d s => exact h₂ d s rfl rfl

/-! ## Reading -/

theorem readLiteral_end {rest : List Char} (hr : ∀ c ∈ rest.head?, c ≠ '\'') :
    readLiteral ('\'' :: rest) = some ([], rest) := by
  cases rest with
  | nil => simp [readLiteral]
  | cons d rest =>
    have hd : d ≠ '\'' := hr d rfl
    simp [readLiteral, hd]

/-- A character that is no backslash is read as itself. -/
theorem readLiteral_cons {c : Char} (hc : c ≠ '\\') (s rest : List Char) :
    readLiteral (doubled '\'' (c :: s) ++ rest) =
      (readLiteral (doubled '\'' s ++ rest)).map fun p => (c :: p.1, p.2) := by
  by_cases hquote : c = '\''
  · subst hquote
    rw [doubled_same, List.cons_append, List.cons_append, readLiteral]
  · rw [doubled_other hquote, List.cons_append, readLiteral]
    · exact fun d rest h => absurd h hc
    · exact fun rest h => absurd h hquote
    · exact fun h => absurd h hquote

/-- A backslash is read with the character after it, which is no quote here. -/
theorem readLiteral_escape {c : Char} (hc : c ≠ '\'') (s rest : List Char) :
    readLiteral (doubled '\'' ('\\' :: c :: s) ++ rest) =
      (readLiteral (doubled '\'' s ++ rest)).map fun p => (escapeOf c ++ p.1, p.2) := by
  have hslash : '\\' ≠ '\'' := by decide
  rw [doubled_other hslash, doubled_other hc, List.cons_append, List.cons_append, readLiteral]

/-- A backslash takes away the first of two quotes. -/
theorem readLiteral_escape_quote (s rest : List Char) :
    readLiteral (doubled '\'' ('\\' :: '\'' :: s) ++ rest) =
      (readLiteral ('\'' :: (doubled '\'' s ++ rest))).map fun p => ('\'' :: p.1, p.2) := by
  have hslash : '\\' ≠ '\'' := by decide
  rw [doubled_other hslash, doubled_same, List.cons_append, List.cons_append, List.cons_append,
    readLiteral]
  rfl

/-- At the end it takes away the quote written last. -/
theorem readLiteral_last (rest : List Char) :
    readLiteral (doubled '\'' ['\\'] ++ '\'' :: rest) =
      (readLiteral rest).map fun p => ('\'' :: p.1, p.2) := by
  have hslash : '\\' ≠ '\'' := by decide
  rw [doubled_other hslash, doubled_nil, List.cons_append, List.nil_append, readLiteral]
  rfl

theorem readLiteral_of_closes {s : List Char} (h : closes s) {rest : List Char}
    (hr : ∀ c ∈ rest.head?, c ≠ '\'') :
    readLiteral (doubled '\'' s ++ '\'' :: rest) = some (said s, rest) := by
  induction s using escapes_induction with
  | nil => exact readLiteral_end hr
  | last => simp [closes] at h
  | escape c s ih =>
    simp only [closes, Bool.and_eq_true, bne_iff_ne] at h
    rw [readLiteral_escape h.1, ih h.2]
    rfl
  | plain c s hslash ih =>
    rw [closes_cons hslash] at h
    rw [readLiteral_cons hslash, ih h, said_cons hslash]
    rfl

theorem closes_of_keeps {s : List Char} (h : quotesKeep s) : closes s ∧ said s = s := by
  induction s using escapes_induction with
  | nil => exact ⟨rfl, rfl⟩
  | last => simp [quotesKeep] at h
  | escape c s ih =>
    simp only [quotesKeep, Bool.and_eq_true, Bool.or_eq_true, beq_iff_eq] at h
    obtain ⟨hc, hs⟩ := h
    obtain ⟨hcloses, hsaid⟩ := ih hs
    rcases hc with rfl | rfl <;> simp [closes, said, escapeOf, hcloses, hsaid]
  | plain c s hslash ih =>
    rw [keeps_cons hslash] at h
    obtain ⟨hcloses, hsaid⟩ := ih h
    exact ⟨(closes_cons hslash).trans hcloses, by rw [said_cons hslash, hsaid]⟩

theorem readLiteral_doubled (s rest : List Char) (hs : quotesKeep s)
    (hr : ∀ c ∈ rest.head?, c ≠ '\'') :
    readLiteral (doubled '\'' s ++ '\'' :: rest) = some (s, rest) := by
  obtain ⟨hcloses, hsaid⟩ := closes_of_keeps hs
  rw [readLiteral_of_closes hcloses hr, hsaid]

/-! ## Both conditions are exact -/

/-- After a quote that a backslash took away the pairs of quotes are out of step, and the literal ends
before or after the quote written last. -/
theorem readLiteral_out_of_step {s rest : List Char} {p : List Char × List Char}
    (h : readLiteral ('\'' :: (doubled '\'' s ++ '\'' :: rest)) = some p) : p.2 ≠ rest := by
  induction s generalizing p with
  | nil =>
    simp only [doubled_nil, List.nil_append, readLiteral, Option.map_eq_some_iff] at h
    obtain ⟨q, hq, rfl⟩ := h
    have hlength := readLiteral_length hq
    intro hrest
    dsimp only at hrest
    rw [hrest] at hlength
    exact Nat.lt_irrefl _ hlength
  | cons c s ih =>
    by_cases hquote : c = '\''
    · subst hquote
      simp only [doubled_same, List.cons_append, readLiteral, Option.map_eq_some_iff] at h
      obtain ⟨q, hq, rfl⟩ := h
      have hne := ih hq
      exact hne
    · rw [doubled_other hquote, List.cons_append, readLiteral_end (by simpa using hquote)] at h
      cases h
      intro hrest
      have hlength := congrArg List.length hrest
      simp only [List.length_cons, List.length_append] at hlength
      omega

theorem closes_of_readLiteral {s rest v : List Char}
    (h : readLiteral (doubled '\'' s ++ '\'' :: rest) = some (v, rest)) : closes s := by
  induction s using escapes_induction generalizing v with
  | nil => rfl
  | last =>
    rw [readLiteral_last, Option.map_eq_some_iff] at h
    obtain ⟨q, hq, hv⟩ := h
    have hlength := readLiteral_length hq
    cases hv
    exact absurd hlength (Nat.lt_irrefl _)
  | escape c s ih =>
    by_cases hquote : c = '\''
    · subst hquote
      rw [readLiteral_escape_quote, Option.map_eq_some_iff] at h
      obtain ⟨q, hq, hv⟩ := h
      cases hv
      exact absurd rfl (readLiteral_out_of_step hq)
    · rw [readLiteral_escape hquote, Option.map_eq_some_iff] at h
      obtain ⟨q, hq, hv⟩ := h
      cases hv
      simpa [closes, hquote] using ih hq
  | plain c s hslash ih =>
    rw [readLiteral_cons hslash, Option.map_eq_some_iff] at h
    obtain ⟨q, hq, hv⟩ := h
    cases hv
    rw [closes_cons hslash]
    exact ih hq

theorem readLiteral_closes_iff (s : List Char) {rest : List Char} (hr : ∀ c ∈ rest.head?, c ≠ '\'') :
    (∃ v, readLiteral (doubled '\'' s ++ '\'' :: rest) = some (v, rest)) ↔ closes s :=
  ⟨fun ⟨_, h⟩ => closes_of_readLiteral h, fun h => ⟨said s, readLiteral_of_closes h hr⟩⟩

/-- What a backslash and a character are read as starts with a backslash in two cases only. -/
theorem escapeOf_cases (c : Char) :
    ((c = '%' ∨ c = '_') ∧ escapeOf c = ['\\', c]) ∨ (c = '\\' ∧ escapeOf c = ['\\']) ∨
      ∃ d, escapeOf c = [d] ∧ d ≠ '\\' := by
  by_cases hwild : c = '%' ∨ c = '_'
  · refine .inl ⟨hwild, ?_⟩
    rcases hwild with rfl | rfl <;> rfl
  by_cases hslash : c = '\\'
  · subst hslash
    exact .inr (.inl ⟨rfl, rfl⟩)
  · refine .inr (.inr ?_)
    simp only [not_or] at hwild
    unfold escapeOf
    split_ifs <;> first | exact ⟨_, rfl, by decide⟩ | simp_all

theorem replicate_append_cons {α : Type} (n : Nat) (a : α) (xs : List α) :
    List.replicate n a ++ a :: xs = a :: (List.replicate n a ++ xs) := by
  rw [← List.cons_append, ← List.replicate_succ, List.replicate_succ', List.append_assoc]
  rfl

/-- If what is read, up to some backslashes in front, is the text that was written, then nothing in
front was missing and the text has no escape. The induction needs the backslashes: each escaped
backslash leaves one behind. -/
theorem keeps_of_readLiteral_append {s rest rest' : List Char} {n : Nat}
    (h : readLiteral (doubled '\'' s ++ '\'' :: rest) = some (List.replicate n '\\' ++ s, rest')) :
    n = 0 ∧ quotesKeep s := by
  induction s using escapes_induction generalizing n with
  | nil =>
    by_cases hr : ∀ c ∈ rest.head?, c ≠ '\''
    · rw [doubled_nil, List.nil_append, readLiteral_end hr] at h
      cases n with
      | zero => exact ⟨rfl, rfl⟩
      | succ n => cases h
    · obtain ⟨r, rfl⟩ : ∃ r, rest = '\'' :: r := by
        cases rest with
        | nil => simp at hr
        | cons d r => exact ⟨r, by simpa using hr⟩
      simp only [doubled_nil, List.nil_append, readLiteral, Option.map_eq_some_iff] at h
      obtain ⟨q, -, hv⟩ := h
      cases n <;> cases hv
  | last =>
    rw [readLiteral_last, replicate_append_cons, Option.map_eq_some_iff] at h
    obtain ⟨q, -, hv⟩ := h
    cases hv
  | escape c s ih =>
    rw [replicate_append_cons] at h
    by_cases hquote : c = '\''
    · subst hquote
      rw [readLiteral_escape_quote, Option.map_eq_some_iff] at h
      obtain ⟨q, -, hv⟩ := h
      cases hv
    · rw [readLiteral_escape hquote, Option.map_eq_some_iff] at h
      obtain ⟨⟨v, r⟩, hq, hv⟩ := h
      rcases escapeOf_cases c with ⟨hwild, he⟩ | ⟨rfl, he⟩ | ⟨d, he, hd⟩
      · rw [he] at hv
        cases n with
        | zero =>
          cases hv
          have hs := (ih (n := 0) hq).2
          refine ⟨rfl, ?_⟩
          rcases hwild with rfl | rfl <;> simpa [quotesKeep] using hs
        | succ n =>
          cases hv
          exact absurd hwild (by decide)
      · rw [he, replicate_append_cons] at hv
        cases hv
        exact absurd (ih (n := n + 1) hq).1 (Nat.succ_ne_zero n)
      · rw [he] at hv
        cases hv
        exact absurd rfl hd
  | plain c s hc ih =>
    rw [readLiteral_cons hc, Option.map_eq_some_iff] at h
    obtain ⟨⟨v, r⟩, hq, hv⟩ := h
    cases n with
    | zero =>
      cases hv
      exact ⟨rfl, (keeps_cons hc).trans (ih (n := 0) hq).2⟩
    | succ n =>
      cases hv
      exact absurd rfl hc

/-- Whatever follows, only a text without escapes is read as it was written. -/
theorem keeps_of_readLiteral {s rest rest' : List Char}
    (h : readLiteral (doubled '\'' s ++ '\'' :: rest) = some (s, rest')) : quotesKeep s :=
  (keeps_of_readLiteral_append (n := 0) h).2

theorem readLiteral_keeps_iff (s : List Char) {rest : List Char} (hr : ∀ c ∈ rest.head?, c ≠ '\'') :
    readLiteral (doubled '\'' s ++ '\'' :: rest) = some (s, rest) ↔ quotesKeep s :=
  ⟨keeps_of_readLiteral, fun h => readLiteral_doubled s rest h hr⟩

end SchemaRest.Sql
