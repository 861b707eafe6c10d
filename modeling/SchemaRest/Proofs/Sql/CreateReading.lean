import SchemaRest.Proofs.Sql.CreateLexemes
import SchemaRest.Proofs.Sql.JsonText

/-!
# Reading a creation

What a server reads in the statement that creates a table. Every free text of the statement stands in
a literal of its own, and for each of them it is decided exactly when the literal says the text and
when it ends where it was written to end. The statement is read as it is meant if all its texts are
texts that literals keep; a text with a backslash before a quote ends its literal somewhere else.
-/

namespace SchemaRest.Sql

/-! ## Texts in quotes -/

/-- The text of a default that stands in quotes. -/
def quotedDefault? : Json → Option String
  | .str s => if Decimal.readsFinite (Text.trim s) then none else some s
  | .arr items => some (Json.arr items).text
  | .obj fields => some (Json.obj fields).text
  | _ => none

def ColumnSpec.comment? (c : ColumnSpec) : Option String := c.comment.filter fun s => !s.isEmpty

def ColumnSpec.quotedTexts (c : ColumnSpec) : List String :=
  (c.default.bind quotedDefault?).toList ++ c.comment?.toList

/-- The texts of defaults and comments in quotes, in the order they are written in. -/
def TableSpec.quotedTexts (t : TableSpec) : List String := t.columns.flatMap fun p => p.2.quotedTexts

/-- A default that needs no quotes: a number that may have a sign, or one of three words. -/
def IsBare (s : String) : Prop := s = "TRUE" ∨ s = "FALSE" ∨ s = "NULL" ∨ IsSigned s.toList

theorem default_quoted {v : Json} {s : String} (h : quotedDefault? v = some s) :
    defaultLiteral v = stringLiteral s := by
  cases v with
  | str text =>
    unfold quotedDefault? at h
    dsimp only at h
    split at h
    · cases h
    · next hfinite =>
      cases h
      unfold defaultLiteral
      exact if_neg hfinite
  | arr items =>
    cases h
    rfl
  | obj fields =>
    cases h
    rfl
  | _ => cases h

theorem default_bare {v : Json} (h : quotedDefault? v = none) : IsBare (defaultLiteral v) := by
  cases v with
  | null => exact .inr (.inr (.inl rfl))
  | bool b =>
    cases b with
    | true => exact .inl rfl
    | false => exact .inr (.inl rfl)
  | num n => exact .inr (.inr (.inr (isSigned_numberText n)))
  | str text =>
    unfold quotedDefault? at h
    dsimp only at h
    split at h
    · next hfinite =>
      have hbare : defaultLiteral (.str text) = Text.trim text := by
        unfold defaultLiteral
        exact if_pos hfinite
      rw [hbare]
      exact .inr (.inr (.inr (isSigned_of_readsFinite hfinite)))
    · cases h
  | arr items => cases h
  | obj fields => cases h

/-! ## Literals among the lexemes -/

def literals (ls : List (Lexeme Unit)) : List String :=
  ls.filterMap fun
    | .literal s => some s
    | _ => none

@[simp] theorem literals_nil : literals [] = [] := rfl

@[simp] theorem literals_append (ls ms : List (Lexeme Unit)) :
    literals (ls ++ ms) = literals ls ++ literals ms := List.filterMap_append

@[simp] theorem literals_literal (s : String) (ls : List (Lexeme Unit)) :
    literals (.literal s :: ls) = s :: literals ls := rfl

@[simp] theorem literals_blank (c : Char) (ls : List (Lexeme Unit)) :
    literals (.blank c :: ls) = literals ls := rfl

@[simp] theorem literals_sign (c : Char) (ls : List (Lexeme Unit)) :
    literals (.sign c :: ls) = literals ls := rfl

@[simp] theorem literals_word (s : String) (ls : List (Lexeme Unit)) :
    literals (.word s :: ls) = literals ls := rfl

@[simp] theorem literals_number (s : String) (ls : List (Lexeme Unit)) :
    literals (.number s :: ls) = literals ls := rfl

@[simp] theorem literals_bracketed (ls : List (Lexeme Unit)) : literals (bracketed ls) = literals ls := by
  simp [bracketed]

theorem mem_literals {ls : List (Lexeme Unit)} {s : String} : s ∈ literals ls ↔ .literal s ∈ ls := by
  unfold literals
  rw [List.mem_filterMap]
  constructor
  · rintro ⟨l, hl, hs⟩
    cases l with
    | literal text =>
      cases hs
      exact hl
    | _ => cases hs
  · exact fun h => ⟨.literal s, h, rfl⟩

theorem literals_flatMap {α : Type} (f : α → List (Lexeme Unit)) (xs : List α) :
    literals (xs.flatMap f) = xs.flatMap fun x => literals (f x) := List.filterMap_flatMap

@[simp] theorem literals_spaced_words (ws : List String) : literals (spaced (ws.map .word)) = [] := by
  induction ws with
  | nil => rfl
  | cons w ws ih => simpa using ih

@[simp] theorem literals_numberLexemes (s : String) : literals (numberLexemes s) = [] := by
  unfold numberLexemes
  split <;> rfl

theorem literals_defaultValue (v : Json) :
    literals (defaultValueLexemes v) = (quotedDefault? v).toList := by
  cases v with
  | bool b => cases b <;> rfl
  | num n => exact literals_numberLexemes _
  | str s =>
    unfold defaultValueLexemes quotedDefault?
    dsimp only
    split
    · exact literals_numberLexemes _
    · rfl
  | _ => rfl

namespace ColumnSpec

theorem literals_declaration (name : String) (c : ColumnSpec) :
    literals (c.declarationLexemes name) = c.quotedTexts := by
  have hlength : literals c.lengthLexemes = [] := by
    unfold lengthLexemes
    cases c.length with
    | none => rfl
    | some n =>
      dsimp only
      split <;> simp
  have hnull : literals c.nullLexemes = [] := by
    unfold nullLexemes
    cases c.unsigned <;> cases c.notNull <;> rfl
  have hdefault : literals c.defaultLexemes = (c.default.bind quotedDefault?).toList := by
    unfold defaultLexemes
    cases c.default with
    | none => rfl
    | some v => simp [literals_defaultValue]
  have hcomment : literals c.commentLexemes = c.comment?.toList := by
    unfold commentLexemes comment?
    cases c.comment with
    | none => rfl
    | some s =>
      rw [Option.filter_some]
      dsimp only
      cases s.isEmpty <;> rfl
  simp [declarationLexemes, typeLexemes, hlength, hnull, hdefault, hcomment, quotedTexts]

theorem literals_constraints (table name : String) (c : ColumnSpec) :
    literals (c.uniqueLexemes table name ++ c.referenceLexemes table name) = [] := by
  have hunique : literals (c.uniqueLexemes table name) = [] := by
    unfold uniqueLexemes
    split <;> simp
  have hreference : literals (c.referenceLexemes table name) = [] := by
    unfold referenceLexemes
    cases c.reference <;> simp
  rw [literals_append, hunique, hreference, List.append_nil]

end ColumnSpec

/-- The literals of the statement are the texts in quotes, each once and in order. -/
theorem TableSpec.literals_lexemes (t : TableSpec) : literals t.lexemes = t.quotedTexts := by
  have hconstraints : literals (t.columns.flatMap fun p =>
      p.2.uniqueLexemes t.name p.1 ++ p.2.referenceLexemes t.name p.1) = [] := by
    rw [literals_flatMap]
    exact List.flatMap_eq_nil_iff.mpr fun p _ => ColumnSpec.literals_constraints t.name p.1 p.2
  have hdeclarations : literals (t.columns.flatMap fun p => p.2.declarationLexemes p.1) =
      t.quotedTexts := by
    rw [literals_flatMap]
    exact congrArg (t.columns.flatMap ·) (funext fun p => ColumnSpec.literals_declaration p.1 p.2)
  unfold lexemes
  rw [literals_append, literals_append, literals_append, literals_append, hconstraints, hdeclarations]
  simp [headLexemes, keyLexemes]

/-! ## Reading -/

/-- What stands after a literal is no quote, which would go on with it. -/
theorem Piece.head_after {cs : List Char} {before after : List (Lexeme Unit)} {s : String}
    (h : Piece cs (before ++ .literal s :: after)) : ∀ c ∈ (spell after).head?, c ≠ '\'' := by
  obtain ⟨-, hbehind⟩ := List.forall_mem_append.mp h.formed
  have hafter := (List.forall_mem_cons.mp hbehind).2
  have hseparated : Separated (.literal s :: after) := (List.isChain_append.mp h.separated).2.1
  have hends : Ends (.literal s :: after) [] := by simp [Ends]
  have hnext := not_extended_by_next hafter hseparated hends
  rw [List.append_nil] at hnext
  intro c hc
  simpa [Lexeme.extendedBy] using hnext c hc

theorem lexemes_bare (ls : List (Lexeme Unit)) : ls.map Lexeme.bare = ls := by
  rw [List.map_congr_left (g := id) fun l _ => by cases l <;> rfl]
  exact List.map_id ls

theorem Piece.lex_iff {cs : List Char} {ls : List (Lexeme Unit)} (h : Piece cs ls) {w : String}
    (hw : Lexeme.isWord w.toList) :
    lex (w.toList ++ cs) = some (.word w :: ls) ↔ ∀ s ∈ literals ls, Keeps s := by
  have hiff := h.lex_word_iff w hw
  rw [lexemes_bare] at hiff
  simpa only [mem_literals] using hiff

/-- The text of a literal in its place, and what can be read there. -/
theorem Piece.literal_at {cs : List Char} {before after : List (Lexeme Unit)} {s : String}
    (h : Piece cs (before ++ .literal s :: after)) :
    cs = spell before ++ '\'' :: (doubled '\'' s.toList ++ '\'' :: spell after) := by
  rw [h.text, spell_append, spell_cons]
  simp [Lexeme.chars]

namespace TableSpec

/-- What a server reads in the statement that creates a table. -/
structure Reading (t : TableSpec) : Prop where
  /-- It reads the whole statement as it is meant if all texts in quotes can be held by literals. -/
  whole : lex t.create.toList = some (.word "CREATE" :: t.lexemes) ↔ ∀ s ∈ t.quotedTexts, Keeps s
  /-- The literals that are meant are these texts. -/
  meant : literals t.lexemes = t.quotedTexts
  /-- Every literal has its place in the text of the statement. -/
  place : ∀ before s after, t.lexemes = before ++ .literal s :: after →
    t.create.toList = "CREATE".toList ++ spell before ++
      '\'' :: (doubled '\'' s.toList ++ '\'' :: spell after)
  /-- It says its text, and ends there, if the text can be held by a literal. -/
  text : ∀ before s after, t.lexemes = before ++ .literal s :: after →
    (readLiteral (doubled '\'' s.toList ++ '\'' :: spell after) = some (s.toList, spell after) ↔
      Keeps s)
  /-- It ends at the quote written last if no backslash takes a quote away. -/
  ends : ∀ before s after, t.lexemes = before ++ .literal s :: after →
    ((∃ v, readLiteral (doubled '\'' s.toList ++ '\'' :: spell after) = some (v, spell after)) ↔
      closes s.toList)
  /-- Only a text that was given as a text can end its literal somewhere else. -/
  given : ∀ s ∈ t.quotedTexts, ¬ closes s.toList →
    ∃ p ∈ t.columns, p.2.default = some (.str s) ∨ p.2.comment = some s
  /-- A default is one such literal, or it is bare. -/
  bare : ∀ p ∈ t.columns, ∀ v ∈ p.2.default,
    (∃ s ∈ quotedDefault? v, defaultLiteral v = stringLiteral s) ∨
      (quotedDefault? v = none ∧ IsBare (defaultLiteral v))

theorem given_of_not_closes {c : ColumnSpec} {s : String} (hs : s ∈ c.quotedTexts)
    (hopen : ¬ closes s.toList) : c.default = some (.str s) ∨ c.comment = some s := by
  unfold ColumnSpec.quotedTexts at hs
  rcases List.mem_append.mp hs with hs | hs
  · left
    obtain ⟨v, hv, hquoted⟩ := Option.bind_eq_some_iff.mp (Option.mem_toList.mp hs)
    cases v with
    | str text =>
      unfold quotedDefault? at hquoted
      dsimp only at hquoted
      split at hquoted
      · cases hquoted
      · cases hquoted
        exact hv
    | arr items =>
      cases hquoted
      exact absurd (closes_text _) hopen
    | obj fields =>
      cases hquoted
      exact absurd (closes_text _) hopen
    | _ => cases hquoted
  · right
    exact (Option.filter_eq_some_iff.mp (Option.mem_toList.mp hs)).1

theorem reading_of_check (t : TableSpec) (h : t.check = .ok ()) : t.Reading := by
  have hpiece := piece_afterCreate (t.check_iff.mp h)
  have hat : ∀ before s after, t.lexemes = before ++ .literal s :: after →
      Piece t.afterCreate.toList (before ++ .literal s :: after) :=
    fun _ _ _ hls => hls ▸ hpiece
  constructor
  case whole =>
    rw [create_toList, hpiece.lex_iff (by decide), literals_lexemes]
  case meant => exact t.literals_lexemes
  case place =>
    intro before s after hls
    rw [create_toList, (hat before s after hls).literal_at, List.append_assoc]
  case text =>
    intro before s after hls
    exact readLiteral_keeps_iff s.toList (hat before s after hls).head_after
  case ends =>
    intro before s after hls
    exact readLiteral_closes_iff s.toList (hat before s after hls).head_after
  case given =>
    intro s hs hopen
    obtain ⟨p, hp, hs⟩ := List.mem_flatMap.mp hs
    exact ⟨p, hp, given_of_not_closes hs hopen⟩
  case bare =>
    intro p hp v hv
    cases hquoted : quotedDefault? v with
    | none => exact .inr ⟨rfl, default_bare hquoted⟩
    | some s => exact .inl ⟨s, rfl, default_quoted hquoted⟩

/-- A text whose backslash takes away the quote written for it, so that the rest is no text. -/
def escapingText : String := "\\' NULL, y INT, -- "

def escapingDefault : TableSpec :=
  ⟨"t", none, [("a", { ColumnSpec.empty with
    type := "VARCHAR", length := some 20, default := some (.str escapingText) })]⟩

theorem reading_escapingDefault : escapingDefault.check = .ok () ∧ escapingDefault.Reading :=
  ⟨rfl, reading_of_check escapingDefault rfl⟩

/-- The description is fit, and its default declares a column. -/
theorem escapingDefault_misread :
    escapingDefault.check = .ok () ∧
    escapingDefault.create = "CREATE TABLE IF NOT EXISTS t(\nid INT UNSIGNED NOT NULL AUTO_INCREMENT" ++
      ",\na VARCHAR(20) NULL DEFAULT '\\'' NULL, y INT, -- ',\nCONSTRAINT PK_t PRIMARY KEY (id)\n);" ∧
    readLiteral "\\'' NULL, y INT, -- ',\nCONSTRAINT PK_t PRIMARY KEY (id)\n);".toList =
      some (['\''], " NULL, y INT, -- ',\nCONSTRAINT PK_t PRIMARY KEY (id)\n);".toList) ∧
    lex escapingDefault.create.toList ≠ some (.word "CREATE" :: escapingDefault.lexemes) := by
  refine ⟨rfl, by decide +kernel, by decide, ?_⟩
  have hpiece := piece_afterCreate (escapingDefault.check_iff.mp rfl)
  rw [create_toList, Ne, hpiece.lex_iff (by decide), literals_lexemes]
  intro h
  have hkeeps : quotesKeep escapingText.toList := h escapingText (List.mem_singleton_self _)
  exact absurd hkeeps (by decide)

end TableSpec

end SchemaRest.Sql
