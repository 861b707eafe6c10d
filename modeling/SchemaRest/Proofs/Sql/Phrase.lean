import SchemaRest.Proofs.Sql.Spelling

/-!
# Phrases

Pieces of a statement, each a text that starts where a lexeme can start and its lexemes. `Phrase` ties
the two, and phrases put one after the other are a phrase; so a builder that joins texts is followed
by the same joins of lexemes.
-/

namespace SchemaRest.Sql

variable {μ : Type} {Q : String → Prop}

/-- A text that spells lexemes and can follow any other lexeme. -/
structure Phrase (Q : String → Prop) (cs : List Char) (ls : List (Lexeme μ)) : Prop where
  text : cs = spell ls
  formed : ∀ l ∈ ls, l.IsFormed Q
  separated : Separated ls
  opens : ∀ l ∈ ls.head?, l.isBreak

/-- Lexemes with a blank before each. -/
def spaced (ls : List (Lexeme μ)) : List (Lexeme μ) := ls.flatMap fun l => [.blank ' ', l]

/-- Groups of lexemes with commas between. -/
def listed (groups : List (List (Lexeme μ))) : List (Lexeme μ) :=
  [.sign ',', .blank ' '].intercalate groups

def bracketed (ls : List (Lexeme μ)) : List (Lexeme μ) := .sign '(' :: ls ++ [.sign ')']

@[simp] theorem spaced_nil : spaced ([] : List (Lexeme μ)) = [] := rfl

@[simp] theorem spaced_cons (l : Lexeme μ) (ls : List (Lexeme μ)) :
    spaced (l :: ls) = .blank ' ' :: l :: spaced ls := rfl

@[simp] theorem spaced_append (ls ms : List (Lexeme μ)) :
    spaced (ls ++ ms) = spaced ls ++ spaced ms := List.flatMap_append

@[simp] theorem listed_nil : listed ([] : List (List (Lexeme μ))) = [] := rfl

@[simp] theorem listed_singleton (g : List (Lexeme μ)) : listed [g] = g :=
  List.intercalate_singleton

@[simp] theorem listed_cons_cons (g h : List (Lexeme μ)) (gs : List (List (Lexeme μ))) :
    listed (g :: h :: gs) = g ++ .sign ',' :: .blank ' ' :: listed (h :: gs) := by
  simp [listed, List.intercalate_cons_cons]

@[simp] theorem spell_bracketed (ls : List (Lexeme μ)) :
    spell (bracketed ls) = '(' :: spell ls ++ [')'] := by simp [bracketed]

theorem separated_spaced (ls : List (Lexeme μ)) : Separated (spaced ls) := by
  induction ls with
  | nil => exact separated_nil
  | cons l ls ih =>
    have hopens : ∀ m ∈ (spaced ls).head?, m.isBreak := by
      cases ls <;> simp [Lexeme.isBreak]
    exact (separated_cons rfl).mpr (separated_append (separated_singleton l) ih hopens)

theorem separated_listed (gs : List (List (Lexeme μ))) (h : ∀ g ∈ gs, Separated g) :
    Separated (listed gs) := by
  induction gs with
  | nil => exact separated_nil
  | cons g gs ih =>
    cases gs with
    | nil => simpa using h g (by simp)
    | cons k gs =>
      have hrest := ih fun g hg => h g (by simp [hg])
      rw [listed_cons_cons]
      refine separated_append (h g (by simp)) ?_ (by simp [Lexeme.isBreak])
      exact (separated_cons rfl).mpr ((separated_cons rfl).mpr hrest)

theorem separated_bracketed {ls : List (Lexeme μ)} (h : Separated ls) : Separated (bracketed ls) :=
  separated_append ((separated_cons rfl).mpr h) (separated_singleton _) (by simp [Lexeme.isBreak])

section Members

variable {P : Lexeme μ → Prop}

theorem forall_mem_spaced (hblank : P (.blank ' ')) {ls : List (Lexeme μ)} (h : ∀ l ∈ ls, P l) :
    ∀ l ∈ spaced ls, P l := by
  intro l hl
  obtain ⟨m, hm, hl⟩ := List.mem_flatMap.mp hl
  rcases List.mem_pair.mp hl with rfl | rfl
  · exact hblank
  · exact h l hm

theorem forall_mem_listed (hblank : P (.blank ' ')) (hcomma : P (.sign ','))
    {gs : List (List (Lexeme μ))} (h : ∀ g ∈ gs, ∀ l ∈ g, P l) : ∀ l ∈ listed gs, P l := by
  induction gs with
  | nil => simp
  | cons g gs ih =>
    cases gs with
    | nil => simpa using h g (by simp)
    | cons k gs =>
      have hrest := ih fun g hg => h g (by simp [hg])
      rw [listed_cons_cons]
      simp only [List.forall_mem_append, List.forall_mem_cons]
      exact ⟨h g (by simp), hcomma, hblank, hrest⟩

theorem forall_mem_bracketed (hopen : P (.sign '(')) (hclose : P (.sign ')'))
    {ls : List (Lexeme μ)} (h : ∀ l ∈ ls, P l) : ∀ l ∈ bracketed ls, P l := by
  simp only [bracketed, List.cons_append, List.forall_mem_cons, List.forall_mem_append]
  exact ⟨hopen, h, hclose, by simp⟩

end Members

theorem formed_spaced {ls : List (Lexeme μ)} (h : ∀ l ∈ ls, l.IsFormed Q) :
    ∀ l ∈ spaced ls, l.IsFormed Q := forall_mem_spaced (by decide : isSpace ' ') h

theorem formed_listed {gs : List (List (Lexeme μ))} (h : ∀ g ∈ gs, ∀ l ∈ g, l.IsFormed Q) :
    ∀ l ∈ listed gs, l.IsFormed Q :=
  forall_mem_listed (by decide : isSpace ' ') (by decide : isSign ',') h

theorem formed_bracketed {ls : List (Lexeme μ)} (h : ∀ l ∈ ls, l.IsFormed Q) :
    ∀ l ∈ bracketed ls, l.IsFormed Q :=
  forall_mem_bracketed (by decide : isSign '(') (by decide : isSign ')') h

/-- The text of groups that are spelled one by one. -/
theorem toList_joined {α : Type} (text : α → String) (group : α → List (Lexeme μ)) (xs : List α)
    (h : ∀ x ∈ xs, (text x).toList = spell (group x)) :
    (Text.joined ", " (xs.map text)).toList = spell (listed (xs.map group)) := by
  induction xs with
  | nil => simp [Text.joined]
  | cons x xs ih =>
    have hx := h x (by simp)
    cases xs with
    | nil => simpa [Text.joined] using hx
    | cons y xs =>
      have hrest := ih fun x hx => h x (by simp [hx])
      simp only [Text.joined, List.map_cons, String.intercalate_cons_cons, String.toList_append,
        listed_cons_cons, spell_append, spell_cons] at hrest ⊢
      simp [hx, hrest]

def nameList (names : List String) : List (Lexeme μ) := listed (names.map fun n => [.name n])

def markList (values : List μ) : List (Lexeme μ) := listed (values.map fun v => [.mark v])

theorem formed_nameList (names : List String) : ∀ l ∈ (nameList names : List (Lexeme μ)), l.IsFormed Q :=
  formed_listed fun g hg => by
    obtain ⟨n, -, rfl⟩ := List.mem_map.mp hg
    simp

theorem separated_nameList (names : List String) : Separated (nameList names : List (Lexeme μ)) :=
  separated_listed _ fun g hg => by
    obtain ⟨n, -, rfl⟩ := List.mem_map.mp hg
    simp

theorem formed_markList (values : List μ) : ∀ l ∈ markList values, l.IsFormed Q :=
  formed_listed fun g hg => by
    obtain ⟨v, -, rfl⟩ := List.mem_map.mp hg
    simp

theorem separated_markList (values : List μ) : Separated (markList values) :=
  separated_listed _ fun g hg => by
    obtain ⟨v, -, rfl⟩ := List.mem_map.mp hg
    simp

@[simp] theorem toList_quoted (name : String) :
    (quoted name).toList = '\x60' :: doubled '\x60' name.toList ++ ['\x60'] := by
  simp [quoted, Text.replaceChar, doubled]

theorem toList_quotedList (names : List String) :
    (quotedList names).toList = spell (nameList names : List (Lexeme μ)) :=
  toList_joined quoted (fun n => [.name n]) names (by simp)

theorem toList_marks (values : List μ) :
    (marks values.length).toList = spell (markList values) := by
  have h := toList_joined (fun _ : μ => "?") (fun v => [.mark v]) values (by simp)
  simpa [marks, markList, ← List.map_const'] using h

namespace Phrase

theorem empty : Phrase Q [] ([] : List (Lexeme μ)) := ⟨rfl, by simp, separated_nil, by simp⟩

theorem append {cs ds : List Char} {ls ms : List (Lexeme μ)} (h : Phrase Q cs ls)
    (k : Phrase Q ds ms) : Phrase Q (cs ++ ds) (ls ++ ms) where
  text := by rw [h.text, k.text, spell_append]
  formed := List.forall_mem_append.mpr ⟨h.formed, k.formed⟩
  separated := separated_append h.separated k.separated k.opens
  opens := by
    cases ls with
    | nil => exact k.opens
    | cons l ls => exact h.opens

/-- Any lexemes after a break. -/
theorem cons {l : Lexeme μ} {ls : List (Lexeme μ)} (hb : l.isBreak) (hl : l.IsFormed Q)
    (hls : ∀ k ∈ ls, k.IsFormed Q) (hs : Separated ls) : Phrase Q (l.chars ++ spell ls) (l :: ls) where
  text := rfl
  formed := List.forall_mem_cons.mpr ⟨hl, hls⟩
  separated := (separated_cons hb).mpr hs
  opens := by simp [hb]

/-- A break before a phrase. -/
theorem broken {l : Lexeme μ} {cs : List Char} {ls : List (Lexeme μ)} (hb : l.isBreak)
    (hl : l.IsFormed Q) (h : Phrase Q cs ls) : Phrase Q (l.chars ++ cs) (l :: ls) := by
  rw [h.text]
  exact cons hb hl h.formed h.separated

/-- A break and a word before a phrase. -/
theorem word {l : Lexeme μ} {w : String} {cs : List Char} {ls : List (Lexeme μ)} (hb : l.isBreak)
    (hl : l.IsFormed Q) (hw : Lexeme.isWord w.toList) (h : Phrase Q cs ls) :
    Phrase Q (l.chars ++ (w.toList ++ cs)) (l :: .word w :: ls) := by
  have hformed : ∀ k ∈ (.word w :: ls : List (Lexeme μ)), k.IsFormed Q :=
    List.forall_mem_cons.mpr ⟨hw, h.formed⟩
  rw [h.text]
  exact cons hb hl hformed (separated_append (separated_singleton _) h.separated h.opens)

theorem ofSpaced (ls : List (Lexeme μ)) (hls : ∀ l ∈ ls, l.IsFormed Q) :
    Phrase Q (spell (spaced ls)) (spaced ls) where
  text := rfl
  formed := formed_spaced hls
  separated := separated_spaced ls
  opens := by cases ls <;> simp [Lexeme.isBreak]

/-- The same for the lexemes of a statement with values. -/
theorem ofWords (ls : List (Lexeme Json)) (hls : ∀ l ∈ ls, l.IsFormed Keeps) :
    Phrase Keeps (spell (spaced ls)) (spaced ls) := ofSpaced ls hls

theorem ofParentheses {ls : List (Lexeme μ)} (hls : ∀ l ∈ ls, l.IsFormed Q) (hs : Separated ls) :
    Phrase Q ('(' :: spell ls ++ [')']) (bracketed ls) where
  text := (spell_bracketed ls).symm
  formed := formed_bracketed hls
  separated := separated_bracketed hs
  opens := by simp [bracketed, Lexeme.isBreak]

theorem ofBracketed {ls : List (Lexeme μ)} (hls : ∀ l ∈ ls, l.IsFormed Q) (hs : Separated ls) :
    Phrase Q (' ' :: '(' :: spell ls ++ [')']) (.blank ' ' :: bracketed ls) :=
  broken (l := .blank ' ') rfl (by decide : isSpace ' ') (ofParentheses hls hs)

/-- Phrases of all members of a list, joined. -/
theorem flatMap {α : Type} {text : α → List Char} {group : α → List (Lexeme μ)} {xs : List α}
    (h : ∀ x ∈ xs, Phrase Q (text x) (group x)) : Phrase Q (xs.flatMap text) (xs.flatMap group) := by
  induction xs with
  | nil => exact empty
  | cons x xs ih =>
    rw [List.flatMap_cons, List.flatMap_cons]
    exact (h x (by simp)).append (ih fun x hx => h x (by simp [hx]))

/-- A statement is a word and a phrase. -/
theorem lex_word_iff {cs : List Char} {ls : List (Lexeme μ)} (h : Phrase Anything cs ls) (w : String)
    (hw : Lexeme.isWord w.toList) :
    lex (w.toList ++ cs) = some ((.word w :: ls).map Lexeme.bare) ↔ ∀ s, .literal s ∈ ls → Keeps s := by
  have hiff := lex_spell_iff (.word w :: ls) (List.forall_mem_cons.mpr ⟨hw, h.formed⟩)
    (separated_append (separated_singleton _) h.separated h.opens)
  rw [h.text]
  simpa using hiff

theorem lex_word {cs : List Char} {ls : List (Lexeme μ)} (h : Phrase Keeps cs ls) (w : String)
    (hw : Lexeme.isWord w.toList) : lex (w.toList ++ cs) = some ((.word w :: ls).map Lexeme.bare) := by
  have hlex := lex_spell (.word w :: ls) (List.forall_mem_cons.mpr ⟨hw, h.formed⟩)
    (separated_append (separated_singleton _) h.separated h.opens)
  rw [h.text]
  exact hlex

end Phrase

end SchemaRest.Sql
