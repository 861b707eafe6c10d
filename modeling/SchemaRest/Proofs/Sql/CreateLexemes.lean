import SchemaRest.Proofs.Sql.Fitness
import SchemaRest.Proofs.Sql.Numeral
import SchemaRest.Proofs.Sql.Phrase
import SchemaRest.Proofs.Text.Split

/-!
# Lexemes of a creation

The lexemes of the statement that creates a table, and that its text spells them for every description
fit to be created. Names, types and numbers stand bare; defaults and comments may be literals of any
text.
-/

namespace SchemaRest.Sql

/-! ## The lexemes -/

/-- The lexemes of a number, its sign apart. -/
def numberLexemes (s : String) : List (Lexeme Unit) :=
  match s.toList with
  | '+' :: rest => [.sign '+', .number (String.ofList rest)]
  | '-' :: rest => [.sign '-', .number (String.ofList rest)]
  | _ => [.number s]

/-- The lexemes of a default. -/
def defaultValueLexemes : Json → List (Lexeme Unit)
  | .null => [.word "NULL"]
  | .bool true => [.word "TRUE"]
  | .bool false => [.word "FALSE"]
  | .num n => numberLexemes (Json.numberText n)
  | .str s => if Decimal.readsFinite (Text.trim s) then numberLexemes (Text.trim s) else [.literal s]
  | v => [.literal v.text]

namespace ColumnSpec

def typeLexemes (c : ColumnSpec) : List (Lexeme Unit) :=
  spaced ((Text.pieces ' ' c.type).map .word)

def lengthLexemes (c : ColumnSpec) : List (Lexeme Unit) :=
  match c.length with
  | some n => if 0 < n then bracketed [.number n.repr] else []
  | none => []

def nullLexemes (c : ColumnSpec) : List (Lexeme Unit) :=
  spaced ((if c.unsigned then [.word "UNSIGNED"] else []) ++
    if c.notNull then [.word "NOT", .word "NULL"] else [.word "NULL"])

def defaultLexemes (c : ColumnSpec) : List (Lexeme Unit) :=
  match c.default with
  | some v => spaced [.word "DEFAULT"] ++ .blank ' ' :: defaultValueLexemes v
  | none => []

def commentLexemes (c : ColumnSpec) : List (Lexeme Unit) :=
  match c.comment with
  | some s => if s.isEmpty then [] else spaced [.word "COMMENT", .literal s]
  | none => []

def declarationLexemes (name : String) (c : ColumnSpec) : List (Lexeme Unit) :=
  .sign ',' :: .blank '\n' :: .word name ::
    (c.typeLexemes ++ c.lengthLexemes ++ c.nullLexemes ++ c.defaultLexemes ++ c.commentLexemes)

def uniqueLexemes (table name : String) (c : ColumnSpec) : List (Lexeme Unit) :=
  if c.unique then
    .sign ',' :: .blank '\n' :: .word "CONSTRAINT" ::
      (spaced [.word ("UC_" ++ table ++ "_" ++ name), .word "UNIQUE"] ++
        .blank ' ' :: bracketed [.word name])
  else []

def referenceLexemes (table name : String) (c : ColumnSpec) : List (Lexeme Unit) :=
  match c.reference with
  | some r => .sign ',' :: .blank '\n' :: .word "CONSTRAINT" ::
      (spaced [.word ("FK_" ++ r.table ++ "_" ++ table), .word "FOREIGN", .word "KEY"] ++
        .blank ' ' :: bracketed [.word name] ++
        .blank '\n' :: .word "REFERENCES" :: (spaced [.word r.table] ++ bracketed [.word r.column]))
  | none => []

end ColumnSpec

namespace TableSpec

def headLexemes (t : TableSpec) : List (Lexeme Unit) :=
  spaced [.word "TABLE", .word "IF", .word "NOT", .word "EXISTS", .word t.name] ++
    .sign '(' :: .blank '\n' :: .word t.key ::
      spaced [.word "INT", .word "UNSIGNED", .word "NOT", .word "NULL", .word "AUTO_INCREMENT"]

def keyLexemes (t : TableSpec) : List (Lexeme Unit) :=
  .sign ',' :: .blank '\n' :: .word "CONSTRAINT" ::
    (spaced [.word ("PK_" ++ t.name), .word "PRIMARY", .word "KEY"] ++
      .blank ' ' :: bracketed [.word t.key])

/-- The lexemes of the statement after its first word. -/
def lexemes (t : TableSpec) : List (Lexeme Unit) :=
  t.headLexemes ++ t.columns.flatMap (fun p => p.2.declarationLexemes p.1) ++ t.keyLexemes ++
    t.columns.flatMap (fun p => p.2.uniqueLexemes t.name p.1 ++ p.2.referenceLexemes t.name p.1) ++
    [.blank '\n', .sign ')', .sign ';']

end TableSpec

/-! ## Words -/

theorem isWordStart_of_isLetter {c : Char} (h : isLetter c) : isWordStart c := by
  unfold isLetter at h
  unfold isWordStart
  rw [h]
  rfl

theorem isWordChar_of_isWordStart {c : Char} (h : isWordStart c) : isWordChar c := by
  unfold isWordChar
  rw [h]
  rfl

theorem isWord_of_isIdentifier {s : String} (h : isIdentifier s) : Lexeme.isWord s.toList := by
  unfold isIdentifier at h
  cases hs : s.toList with
  | nil =>
    rw [hs] at h
    cases h
  | cons c rest =>
    rw [hs] at h
    simp only [Bool.and_eq_true, Bool.or_eq_true, beq_iff_eq, List.all_eq_true] at h
    obtain ⟨⟨hc, -⟩, hrest⟩ := h
    have hstart : isWordStart c := by
      rcases hc with hc | rfl
      · exact isWordStart_of_isLetter hc
      · decide
    have hall : rest.all isWordChar := by
      refine List.all_eq_true.mpr fun d hd => ?_
      rcases hrest d hd with ((hd | hd) | rfl) | rfl
      · exact isWordChar_of_isWordStart (isWordStart_of_isLetter hd)
      · simp [isWordChar, hd]
      · decide
      · decide
    simp [Lexeme.isWord, hstart, hall]

theorem isWordChar_of_isWord {cs : List Char} (h : Lexeme.isWord cs) : ∀ c ∈ cs, isWordChar c := by
  obtain ⟨c, ds, rfl, hc, hds⟩ := isWord_cons h
  exact List.forall_mem_cons.mpr ⟨isWordChar_of_isWordStart hc, hds⟩

/-- Parts of words make a word. -/
theorem isWord_append {a b : List Char} (ha : Lexeme.isWord a) (hb : ∀ c ∈ b, isWordChar c) :
    Lexeme.isWord (a ++ b) := by
  obtain ⟨c, ds, rfl, hc, hds⟩ := isWord_cons ha
  have hall : (ds ++ b).all isWordChar :=
    List.all_eq_true.mpr (List.forall_mem_append.mpr ⟨hds, hb⟩)
  simp only [List.cons_append, Lexeme.isWord, hc, hall, Bool.and_self]

theorem isWord_joined {a b c : String} (ha : Lexeme.isWord a.toList) (hb : isIdentifier b)
    (hc : isIdentifier c) : Lexeme.isWord (a ++ b ++ "_" ++ c).toList := by
  simp only [String.toList_append]
  refine isWord_append (isWord_append (isWord_append ha ?_) (isWordChar_of_isWord (by decide))) ?_
  · exact isWordChar_of_isWord (isWord_of_isIdentifier hb)
  · exact isWordChar_of_isWord (isWord_of_isIdentifier hc)

theorem isWord_of_letters {s : String} (hne : s.isEmpty = false) (h : s.toList.all isLetter) :
    Lexeme.isWord s.toList := by
  cases hs : s.toList with
  | nil => simp [String.toList_eq_nil_iff.mp hs] at hne
  | cons c rest =>
    rw [hs, List.all_cons, Bool.and_eq_true, List.all_eq_true] at h
    have hall : rest.all isWordChar := List.all_eq_true.mpr fun d hd =>
      isWordChar_of_isWordStart (isWordStart_of_isLetter (h.2 d hd))
    simp [Lexeme.isWord, isWordStart_of_isLetter h.1, hall]

theorem isWord_of_isTypeName {s : String} (h : isTypeName s) :
    ∀ w ∈ Text.pieces ' ' s, Lexeme.isWord w.toList := by
  unfold isTypeName at h
  split at h
  · next a hpieces =>
    simp only [Bool.and_eq_true, Bool.not_eq_true'] at h
    rw [hpieces]
    exact List.forall_mem_singleton.mpr (isWord_of_letters h.1 h.2)
  · next a b hpieces =>
    simp only [Bool.and_eq_true, Bool.not_eq_true'] at h
    rw [hpieces]
    obtain ⟨⟨⟨ha, ha'⟩, hb⟩, hb'⟩ := h
    exact List.forall_mem_cons.mpr ⟨isWord_of_letters ha ha',
      List.forall_mem_singleton.mpr (isWord_of_letters hb hb')⟩
  · cases h

theorem spell_pieces (s : String) :
    spell (spaced ((Text.pieces ' ' s).map (.word : String → Lexeme Unit))) = ' ' :: s.toList := by
  have hspell : ∀ ws : List (List Char),
      spell (spaced ((ws.map String.ofList).map (.word : String → Lexeme Unit))) =
        ws.flatMap (' ' :: ·) := by
    intro ws
    induction ws with
    | nil => rfl
    | cons w ws ih => simpa using ih
  rw [Text.pieces, hspell, Text.flatMap_piecesFrom]
  rfl

/-! ## Texts -/

/-- Literals of any text are let in. -/
abbrev Piece (cs : List Char) (ls : List (Lexeme Unit)) : Prop := Phrase Anything cs ls

theorem Piece.spaced (ls : List (Lexeme Unit)) (hls : ∀ l ∈ ls, l.IsFormed Anything) :
    Piece (spell (Sql.spaced ls)) (Sql.spaced ls) := Phrase.ofSpaced ls hls

/-- A line of the statement starts with a comma. -/
theorem Piece.line {w : String} (hw : Lexeme.isWord w.toList) {cs : List Char}
    {ls : List (Lexeme Unit)} (h : Piece cs ls) :
    Piece (',' :: '\n' :: (w.toList ++ cs)) (.sign ',' :: .blank '\n' :: .word w :: ls) :=
  Phrase.broken (l := .sign ',') rfl (by decide : isSign ',')
    (Phrase.word (l := .blank '\n') rfl (by decide : isSpace '\n') hw h)

theorem Piece.parentheses {w : String} (hw : Lexeme.isWord w.toList) :
    Piece ('(' :: w.toList ++ [')']) (bracketed [.word w]) := by
  have hword : ∀ l ∈ [(.word w : Lexeme Unit)], l.IsFormed Anything :=
    List.forall_mem_singleton.mpr hw
  simpa using Phrase.ofParentheses hword (separated_singleton _)

theorem spell_number (s : String) : spell (numberLexemes s) = s.toList := by
  unfold numberLexemes
  split
  · next rest hs => simp [hs]
  · next rest hs => simp [hs]
  · simp

theorem formed_number {s : String} (h : IsSigned s.toList) :
    ∀ l ∈ numberLexemes s, l.IsFormed Anything := by
  unfold numberLexemes
  split
  · next rest hs =>
    rw [hs] at h
    have hrest : IsNumeral rest := h
    simpa [show isSign '+' = true by decide] using hrest
  · next rest hs =>
    rw [hs] at h
    have hrest : IsNumeral rest := h
    simpa [show isSign '-' = true by decide] using hrest
  · next hplus hminus =>
    have hsign : Decimal.sign s.toList = (false, s.toList) := by
      unfold Decimal.sign
      split
      · next rest hs => exact absurd hs (hminus rest)
      · next rest hs => exact absurd hs (hplus rest)
      · rfl
    rw [IsSigned, hsign] at h
    simpa using h

theorem separated_number (s : String) : Separated (numberLexemes s) := by
  unfold numberLexemes
  split
  · exact (separated_cons rfl).mpr (separated_singleton _)
  · exact (separated_cons rfl).mpr (separated_singleton _)
  · exact separated_singleton _

theorem piece_number {s : String} (h : IsSigned s.toList) :
    Piece (' ' :: s.toList) (.blank ' ' :: numberLexemes s) := by
  have hpiece := Phrase.cons (l := .blank ' ') rfl (by decide : isSpace ' ') (formed_number h)
    (separated_number s)
  rw [spell_number] at hpiece
  exact hpiece

theorem toList_stringLiteral (s : String) :
    (stringLiteral s).toList = (Lexeme.literal s : Lexeme Unit).chars := by
  simp [stringLiteral, Text.replaceChar, doubled, Lexeme.chars]

theorem piece_literal (s : String) : Piece (' ' :: (stringLiteral s).toList) [.blank ' ', .literal s] := by
  have hliteral : ∀ l ∈ [(.literal s : Lexeme Unit)], l.IsFormed Anything :=
    List.forall_mem_singleton.mpr trivial
  have h := Piece.spaced [.literal s] hliteral
  rw [toList_stringLiteral]
  simpa using h

theorem piece_word {w : String} (hw : Lexeme.isWord w.toList) :
    Piece (' ' :: w.toList) [.blank ' ', .word w] := by
  have hword : ∀ l ∈ [(.word w : Lexeme Unit)], l.IsFormed Anything :=
    List.forall_mem_singleton.mpr hw
  simpa using Piece.spaced [.word w] hword

/-- Every default is a literal, a number or one of three words. -/
theorem piece_defaultValue (v : Json) :
    Piece (' ' :: (defaultLiteral v).toList) (.blank ' ' :: defaultValueLexemes v) := by
  cases v with
  | null => exact piece_word (w := "NULL") (by decide)
  | bool b =>
    cases b with
    | true => exact piece_word (w := "TRUE") (by decide)
    | false => exact piece_word (w := "FALSE") (by decide)
  | num n => exact piece_number (isSigned_numberText n)
  | str s =>
    unfold defaultLiteral defaultValueLexemes
    dsimp only
    split
    · next hfinite => exact piece_number (isSigned_of_readsFinite hfinite)
    · exact piece_literal s
  | arr items => exact piece_literal _
  | obj fields => exact piece_literal _

namespace ColumnSpec

variable {c : ColumnSpec} {key column : String}

theorem piece_type (h : isTypeName c.type) : Piece (' ' :: c.type.toList) c.typeLexemes := by
  have hwords : ∀ l ∈ (Text.pieces ' ' c.type).map (.word : String → Lexeme Unit),
      l.IsFormed Anything := by
    intro l hl
    obtain ⟨w, hw, rfl⟩ := List.mem_map.mp hl
    exact isWord_of_isTypeName h w hw
  have hpiece := Piece.spaced _ hwords
  rw [spell_pieces] at hpiece
  exact hpiece

theorem piece_length (c : ColumnSpec) : Piece c.lengthSql.toList c.lengthLexemes := by
  unfold lengthSql lengthLexemes
  cases c.length with
  | none => exact Phrase.empty
  | some n =>
    dsimp only
    split
    · have hnumber : ∀ l ∈ [(.number n.repr : Lexeme Unit)], l.IsFormed Anything :=
        List.forall_mem_singleton.mpr (isNumeral_repr n)
      simpa using Phrase.ofParentheses hnumber (separated_singleton _)
    · exact Phrase.empty

theorem piece_null (c : ColumnSpec) :
    Piece ((if c.unsigned then " UNSIGNED" else "") ++
      (if c.notNull then " NOT NULL" else " NULL")).toList c.nullLexemes := by
  have hformed : ∀ l ∈ ((if c.unsigned then [.word "UNSIGNED"] else []) ++
      if c.notNull then [.word "NOT", .word "NULL"] else [.word "NULL"] : List (Lexeme Unit)),
      l.IsFormed Anything := by
    cases c.unsigned <;> cases c.notNull <;> simp <;> decide
  have h := Piece.spaced _ hformed
  unfold nullLexemes
  cases hu : c.unsigned <;> cases hn : c.notNull <;> simpa [hu, hn] using h

theorem piece_default (c : ColumnSpec) : Piece c.defaultSql.toList c.defaultLexemes := by
  unfold defaultSql defaultLexemes
  cases c.default with
  | none => exact Phrase.empty
  | some v =>
    have h := (piece_word (w := "DEFAULT") (by decide)).append (piece_defaultValue v)
    simpa using h

theorem piece_comment (c : ColumnSpec) : Piece c.commentSql.toList c.commentLexemes := by
  unfold commentSql commentLexemes
  cases c.comment with
  | none => exact Phrase.empty
  | some s =>
    dsimp only
    split
    · exact Phrase.empty
    · have h := (piece_word (w := "COMMENT") (by decide)).append (piece_literal s)
      simpa using h

theorem piece_declaration (h : c.Fit key column) :
    Piece (c.declaration column).toList (c.declarationLexemes column) := by
  have hclauses := ((((piece_type h.type).append c.piece_length).append c.piece_null).append
    c.piece_default).append c.piece_comment
  have hline := Piece.line (isWord_of_isIdentifier h.name) hclauses
  simpa [declaration, declarationLexemes] using hline

theorem piece_unique {table : String} (ht : isIdentifier table) (h : c.Fit key column) :
    Piece (if c.unique then ",\nCONSTRAINT UC_" ++ table ++ "_" ++ column ++ " UNIQUE (" ++ column ++
      ")" else "").toList (c.uniqueLexemes table column) := by
  unfold uniqueLexemes
  split
  · have hname := piece_word (isWord_joined (a := "UC_") (by decide) ht h.name)
    have hunique := piece_word (w := "UNIQUE") (by decide)
    have hcolumn := Phrase.broken (l := .blank ' ') rfl (by decide : isSpace ' ')
      (Piece.parentheses (isWord_of_isIdentifier h.name))
    have hline := Piece.line (w := "CONSTRAINT") (by decide) ((hname.append hunique).append hcolumn)
    simpa using hline
  · exact Phrase.empty

theorem piece_reference {table : String} (ht : isIdentifier table) (h : c.Fit key column) :
    Piece (match c.reference with
      | some r => ",\nCONSTRAINT FK_" ++ r.table ++ "_" ++ table ++ " FOREIGN KEY (" ++ column ++
          ")\nREFERENCES " ++ r.table ++ "(" ++ r.column ++ ")"
      | none => "").toList (c.referenceLexemes table column) := by
  have hreference := h.reference
  unfold referenceLexemes
  cases hr : c.reference with
  | none => exact Phrase.empty
  | some r =>
    obtain ⟨htable, hcolumn⟩ := hreference r hr
    have hname := piece_word (isWord_joined (a := "FK_") (by decide) htable ht)
    have hforeign := (piece_word (w := "FOREIGN") (by decide)).append
      (piece_word (w := "KEY") (by decide))
    have hown := Phrase.broken (l := .blank ' ') rfl (by decide : isSpace ' ')
      (Piece.parentheses (isWord_of_isIdentifier h.name))
    have hother := (piece_word (isWord_of_isIdentifier htable)).append
      (Piece.parentheses (isWord_of_isIdentifier hcolumn))
    have hreferences := Phrase.word (l := .blank '\n') (w := "REFERENCES") rfl
      (by decide : isSpace '\n') (by decide) hother
    have hline := Piece.line (w := "CONSTRAINT") (by decide)
      (((hname.append hforeign).append hown).append hreferences)
    simpa using hline

theorem piece_constraints {table : String} (ht : isIdentifier table) (h : c.Fit key column) :
    Piece (c.constraints table column).toList
      (c.uniqueLexemes table column ++ c.referenceLexemes table column) := by
  have hpiece := (piece_unique ht h).append (piece_reference ht h)
  rw [← String.toList_append] at hpiece
  exact hpiece

end ColumnSpec

namespace TableSpec

theorem piece_head {t : TableSpec} (h : t.Fit) :
    Piece (" TABLE IF NOT EXISTS " ++ t.name ++ "(\n" ++ t.key ++
      " INT UNSIGNED NOT NULL AUTO_INCREMENT").toList t.headLexemes := by
  have hname := Piece.spaced [.word "TABLE", .word "IF", .word "NOT", .word "EXISTS", .word t.name] (by
    simp only [List.forall_mem_cons]
    exact ⟨(by decide : Lexeme.isWord "TABLE".toList), (by decide : Lexeme.isWord "IF".toList),
      (by decide : Lexeme.isWord "NOT".toList), (by decide : Lexeme.isWord "EXISTS".toList),
      isWord_of_isIdentifier h.name, List.forall_mem_nil _⟩)
  have hkey := Piece.spaced [.word "INT", .word "UNSIGNED", .word "NOT", .word "NULL",
    .word "AUTO_INCREMENT"] (by simp; decide)
  have hline := Phrase.broken (l := .sign '(') rfl (by decide : isSign '(')
    (Phrase.word (l := .blank '\n') rfl (by decide : isSpace '\n') (isWord_of_isIdentifier h.key) hkey)
  simpa [headLexemes] using hname.append hline

theorem piece_key {t : TableSpec} (h : t.Fit) :
    Piece (",\nCONSTRAINT PK_" ++ t.name ++ " PRIMARY KEY (" ++ t.key ++ ")").toList
      t.keyLexemes := by
  have hword : Lexeme.isWord ("PK_" ++ t.name).toList := by
    rw [String.toList_append]
    exact isWord_append (by decide) (isWordChar_of_isWord (isWord_of_isIdentifier h.name))
  have hprimary := (piece_word (w := "PRIMARY") (by decide)).append
    (piece_word (w := "KEY") (by decide))
  have hkey := Phrase.broken (l := .blank ' ') rfl (by decide : isSpace ' ')
    (Piece.parentheses (isWord_of_isIdentifier h.key))
  have hline := Piece.line (w := "CONSTRAINT") (by decide)
    (((piece_word hword).append hprimary).append hkey)
  simpa [keyLexemes] using hline

theorem piece_end : Piece "\n);".toList [.blank '\n', .sign ')', .sign ';'] := by
  refine ⟨by simp, ?_, ?_, by simp [Lexeme.isBreak]⟩
  · simp only [List.forall_mem_cons]
    exact ⟨(by decide : isSpace '\n'), (by decide : isSign ')'), (by decide : isSign ';'), by simp⟩
  · exact (separated_cons rfl).mpr ((separated_cons rfl).mpr (separated_singleton _))

/-- The text of the statement after its first word. -/
def afterCreate (t : TableSpec) : String :=
  " TABLE IF NOT EXISTS " ++ t.name ++ "(\n" ++ t.key ++ " INT UNSIGNED NOT NULL AUTO_INCREMENT" ++
    String.join (t.columns.map fun p => p.2.declaration p.1) ++
    (",\nCONSTRAINT PK_" ++ t.name ++ " PRIMARY KEY (" ++ t.key ++ ")") ++
    String.join (t.columns.map fun p => p.2.constraints t.name p.1) ++ "\n);"

theorem create_toList (t : TableSpec) : t.create.toList = "CREATE".toList ++ t.afterCreate.toList := by
  have hfirst : "CREATE TABLE IF NOT EXISTS ".toList =
      "CREATE".toList ++ " TABLE IF NOT EXISTS ".toList := by decide
  unfold create afterCreate
  simp only [String.toList_append, List.append_assoc, -String.reduceToList]
  rw [hfirst, List.append_assoc]

theorem piece_declarations {t : TableSpec} (h : t.Fit) :
    Piece (String.join (t.columns.map fun p => p.2.declaration p.1)).toList
      (t.columns.flatMap fun p => p.2.declarationLexemes p.1) := by
  rw [String.toList_join, List.flatMap_map]
  exact Phrase.flatMap fun p hp => ColumnSpec.piece_declaration (h.columns p hp)

theorem piece_constraints {t : TableSpec} (h : t.Fit) :
    Piece (String.join (t.columns.map fun p => p.2.constraints t.name p.1)).toList
      (t.columns.flatMap fun p =>
        p.2.uniqueLexemes t.name p.1 ++ p.2.referenceLexemes t.name p.1) := by
  rw [String.toList_join, List.flatMap_map]
  exact Phrase.flatMap fun p hp => ColumnSpec.piece_constraints h.name (h.columns p hp)

/-- The statement is spelled, whatever its defaults and comments say. -/
theorem piece_afterCreate {t : TableSpec} (h : t.Fit) : Piece t.afterCreate.toList t.lexemes := by
  unfold afterCreate lexemes
  rw [String.toList_append, String.toList_append, String.toList_append, String.toList_append]
  exact ((((piece_head h).append (piece_declarations h)).append (piece_key h)).append
    (piece_constraints h)).append piece_end

end TableSpec

end SchemaRest.Sql
