import SchemaRest.Proofs.Sql.CreateLexemes
import SchemaRest.Proofs.Sql.StandardLexing

/-!
# Items of a creation

Between its outer parentheses a creation has items with commas between: the generated key, one item for
each column, the constraint of the key, and the constraints of the columns. `creation?` finds the items of
a text without knowledge of what was to be written. It gets back what the description says, so no name,
type, default or comment of a fit description adds an item, takes one away or runs into the next.
-/

namespace SchemaRest.Sql

/-! ## Splitting -/

/-- The parentheses that are open after a lexeme. -/
def Lexeme.depthAfter (depth : Nat) : Lexeme Unit → Nat
  | sign '(' => depth + 1
  | sign ')' => depth - 1
  | _ => depth

/-- The items up to the parenthesis that closes them, and what follows it. `depth` counts the inner
parentheses that are open, `item` holds what was read of an item before. -/
def itemsFrom (depth : Nat) (item : List (Lexeme Unit)) :
    List (Lexeme Unit) → Option (List (List (Lexeme Unit)) × List (Lexeme Unit))
  | [] => none
  | l :: rest =>
    if depth = 0 ∧ l = .sign ',' then (itemsFrom 0 [] rest).map fun p => (item :: p.1, p.2)
    else if depth = 0 ∧ l = .sign ')' then some ([item], rest)
    else itemsFrom (l.depthAfter depth) (item ++ [l]) rest

structure Creation where
  /-- What stands before the first parenthesis. -/
  before : List (Lexeme Unit)
  items : List (List (Lexeme Unit))
  /-- What stands behind the parenthesis that closes the items. -/
  after : List (Lexeme Unit)
  deriving DecidableEq, Repr

/-- The lexemes without blanks. -/
def dense (ls : List (Lexeme Unit)) : List (Lexeme Unit) := ls.filter fun
  | .blank _ => false
  | _ => true

def creationOf? (ls : List (Lexeme Unit)) : Option Creation :=
  match ls.dropWhile (· ≠ .sign '(') with
  | [] => none
  | _ :: body => (itemsFrom 0 [] body).map fun p => ⟨ls.takeWhile (· ≠ .sign '('), p.1, p.2⟩

/-- The items of a statement, its literals read by the standard rule. -/
def creation? (text : String) : Option Creation :=
  (lexStandard text.toList).bind fun ls => creationOf? (dense ls)

/-! ## Items that are meant -/

namespace ColumnSpec

/-- A column: its name, its type, its length, and what else is said of it. -/
def declarationItem (name : String) (c : ColumnSpec) : List (Lexeme Unit) :=
  .word name :: (Text.pieces ' ' c.type).map .word ++ c.lengthLexemes ++
    (if c.unsigned then [.word "UNSIGNED"] else []) ++
    (if c.notNull then [.word "NOT", .word "NULL"] else [.word "NULL"]) ++
    (match c.default with
      | some v => .word "DEFAULT" :: defaultValueLexemes v
      | none => []) ++
    (match c.comment with
      | some s => if s.isEmpty then [] else [.word "COMMENT", .literal s]
      | none => [])

def uniqueItem (table name : String) : List (Lexeme Unit) :=
  [.word "CONSTRAINT", .word ("UC_" ++ table ++ "_" ++ name), .word "UNIQUE"] ++ bracketed [.word name]

def referenceItem (table name : String) (r : Reference) : List (Lexeme Unit) :=
  [.word "CONSTRAINT", .word ("FK_" ++ r.table ++ "_" ++ table), .word "FOREIGN", .word "KEY"] ++
    bracketed [.word name] ++ [.word "REFERENCES", .word r.table] ++ bracketed [.word r.column]

/-- The constraints of a column that has any. -/
def constraintItems (table name : String) (c : ColumnSpec) : List (List (Lexeme Unit)) :=
  (if c.unique then [uniqueItem table name] else []) ++
    (c.reference.map (referenceItem table name)).toList

end ColumnSpec

namespace TableSpec

/-- The generated key, which is no declared column. -/
def keyItem (t : TableSpec) : List (Lexeme Unit) :=
  [.word t.key, .word "INT", .word "UNSIGNED", .word "NOT", .word "NULL", .word "AUTO_INCREMENT"]

def keyConstraintItem (t : TableSpec) : List (Lexeme Unit) :=
  [.word "CONSTRAINT", .word ("PK_" ++ t.name), .word "PRIMARY", .word "KEY"] ++ bracketed [.word t.key]

/-- What follows the generated key. -/
def laterItems (t : TableSpec) : List (List (Lexeme Unit)) :=
  t.columns.map (fun p => p.2.declarationItem p.1) ++
    t.keyConstraintItem :: t.columns.flatMap fun p => p.2.constraintItems t.name p.1

def creation (t : TableSpec) : Creation where
  before := [.word "CREATE", .word "TABLE", .word "IF", .word "NOT", .word "EXISTS", .word t.name]
  items := t.keyItem :: t.laterItems
  after := [.sign ';']

end TableSpec

/-! ## Items stay whole -/

/-- Neither a comma nor a parenthesis. -/
def Lexeme.IsPlain : Lexeme Unit → Prop
  | sign c => c ≠ ',' ∧ c ≠ '(' ∧ c ≠ ')'
  | _ => True

/-- Lexemes without a comma, every parenthesis among them closed. -/
inductive Whole : List (Lexeme Unit) → Prop
  | nil : Whole []
  | cons {l : Lexeme Unit} {ls : List (Lexeme Unit)} (hl : l.IsPlain) (h : Whole ls) : Whole (l :: ls)
  | bracketed {ls ms : List (Lexeme Unit)} (h : Whole ls) (hms : Whole ms) :
      Whole (Sql.bracketed ls ++ ms)

namespace Whole

theorem append {ls ms : List (Lexeme Unit)} (h : Whole ls) (hms : Whole ms) : Whole (ls ++ ms) := by
  induction h with
  | nil => exact hms
  | cons hl _ ih => exact .cons hl ih
  | @bracketed ls ns h _ _ ih =>
    rw [List.append_assoc]
    exact .bracketed h ih

theorem parentheses {ls : List (Lexeme Unit)} (h : Whole ls) : Whole (Sql.bracketed ls) := by
  simpa using Whole.bracketed h .nil

theorem words (ws : List String) : Whole (ws.map .word) := by
  induction ws with
  | nil => exact .nil
  | cons w ws ih => exact .cons trivial ih

end Whole

theorem depthAfter_plain {l : Lexeme Unit} (h : l.IsPlain) (depth : Nat) :
    l.depthAfter depth = depth := by
  unfold Lexeme.depthAfter
  split
  · exact absurd rfl h.2.1
  · exact absurd rfl h.2.2
  · rfl

theorem itemsFrom_plain {l : Lexeme Unit} (h : l.IsPlain) (depth : Nat) (item rest : List (Lexeme Unit)) :
    itemsFrom depth item (l :: rest) = itemsFrom depth (item ++ [l]) rest := by
  have hcomma : l ≠ .sign ',' := by
    rintro rfl
    exact h.1 rfl
  have hclose : l ≠ .sign ')' := by
    rintro rfl
    exact h.2.2 rfl
  simp [itemsFrom, hcomma, hclose, depthAfter_plain h]

/-- What is whole belongs to one item, however deep it stands. -/
theorem itemsFrom_whole {ls : List (Lexeme Unit)} (h : Whole ls) (depth : Nat)
    (item rest : List (Lexeme Unit)) :
    itemsFrom depth item (ls ++ rest) = itemsFrom depth (item ++ ls) rest := by
  induction h generalizing depth item rest with
  | nil => simp
  | @cons l ls hl _ ih =>
    rw [List.cons_append, itemsFrom_plain hl, ih, List.append_assoc]
    rfl
  | @bracketed ls ms _ _ ih ihms =>
    have hopen : itemsFrom depth item (.sign '(' :: (ls ++ .sign ')' :: (ms ++ rest))) =
        itemsFrom (depth + 1) (item ++ [.sign '(']) (ls ++ .sign ')' :: (ms ++ rest)) := by
      simp [itemsFrom, Lexeme.depthAfter]
    have hclose (item : List (Lexeme Unit)) : itemsFrom (depth + 1) item (.sign ')' :: (ms ++ rest)) =
        itemsFrom depth (item ++ [.sign ')']) (ms ++ rest) := by
      simp [itemsFrom, Lexeme.depthAfter]
    simp only [bracketed, List.cons_append, List.append_assoc, List.nil_append]
    rw [hopen, ih, hclose, ihms]
    simp

/-- Items with commas before all but the first are found again. -/
theorem itemsFrom_listed {item : List (Lexeme Unit)} {items : List (List (Lexeme Unit))}
    (hitem : Whole item) (hitems : ∀ i ∈ items, Whole i) (after : List (Lexeme Unit)) :
    itemsFrom 0 [] (item ++ items.flatMap (.sign ',' :: ·) ++ .sign ')' :: after) =
      some (item :: items, after) := by
  induction items generalizing item with
  | nil => simp [itemsFrom_whole hitem, itemsFrom]
  | cons next items ih =>
    obtain ⟨hnext, hitems⟩ := List.forall_mem_cons.mp hitems
    have hcomma (rest : List (Lexeme Unit)) : itemsFrom 0 item (.sign ',' :: rest) =
        (itemsFrom 0 [] rest).map fun p => (item :: p.1, p.2) := by
      simp [itemsFrom]
    rw [List.flatMap_cons, List.append_assoc, itemsFrom_whole hitem, List.nil_append,
      List.cons_append, List.cons_append, hcomma, ih hnext hitems]
    rfl

/-! ## The items of a description are whole -/

theorem whole_numberLexemes (s : String) : Whole (numberLexemes s) := by
  have hsign {c : Char} (h : c ≠ ',' ∧ c ≠ '(' ∧ c ≠ ')') (rest : List Char) :
      Whole [.sign c, .number (String.ofList rest)] := .cons h (.cons trivial .nil)
  unfold numberLexemes
  split
  · exact hsign (by decide) _
  · exact hsign (by decide) _
  · exact .cons trivial .nil

theorem whole_defaultValue (v : Json) : Whole (defaultValueLexemes v) := by
  cases v with
  | bool b => cases b <;> exact .cons trivial .nil
  | num n => exact whole_numberLexemes _
  | str s =>
    unfold defaultValueLexemes
    dsimp only
    split
    · exact whole_numberLexemes _
    · exact .cons trivial .nil
  | _ => exact .cons trivial .nil

namespace ColumnSpec

theorem whole_length (c : ColumnSpec) : Whole c.lengthLexemes := by
  unfold lengthLexemes
  cases c.length with
  | none => exact .nil
  | some n =>
    dsimp only
    split
    · exact .parentheses (.cons trivial .nil)
    · exact .nil

theorem whole_declaration (name : String) (c : ColumnSpec) : Whole (c.declarationItem name) := by
  have htype : Whole (.word name :: (Text.pieces ' ' c.type).map .word) := .cons trivial (.words _)
  unfold declarationItem
  refine (((htype.append c.whole_length).append ?_).append ?_).append ?_ |>.append ?_
  · cases c.unsigned with
    | true => exact .cons trivial .nil
    | false => exact .nil
  · cases c.notNull with
    | true => exact .cons trivial (.cons trivial .nil)
    | false => exact .cons trivial .nil
  · cases c.default with
    | none => exact .nil
    | some v => exact .cons trivial (whole_defaultValue v)
  · cases c.comment with
    | none => exact .nil
    | some s =>
      dsimp only
      split
      · exact .nil
      · exact .cons trivial (.cons trivial .nil)

theorem whole_unique (table name : String) : Whole (uniqueItem table name) :=
  .append (.words ["CONSTRAINT", "UC_" ++ table ++ "_" ++ name, "UNIQUE"])
    (.parentheses (.words [name]))

theorem whole_reference (table name : String) (r : Reference) : Whole (referenceItem table name r) :=
  .append (.append (.append
    (.words ["CONSTRAINT", "FK_" ++ r.table ++ "_" ++ table, "FOREIGN", "KEY"])
    (.parentheses (.words [name]))) (.words ["REFERENCES", r.table])) (.parentheses (.words [r.column]))

theorem whole_constraints (table name : String) (c : ColumnSpec) :
    ∀ i ∈ c.constraintItems table name, Whole i := by
  intro i hi
  unfold constraintItems at hi
  rcases List.mem_append.mp hi with hi | hi
  · split at hi
    · cases List.mem_singleton.mp hi
      exact whole_unique table name
    · cases hi
  · obtain ⟨r, -, rfl⟩ := Option.map_eq_some_iff.mp (Option.mem_toList.mp hi)
    exact whole_reference table name r

end ColumnSpec

namespace TableSpec

theorem whole_key (t : TableSpec) : Whole t.keyItem :=
  .words [t.key, "INT", "UNSIGNED", "NOT", "NULL", "AUTO_INCREMENT"]

theorem whole_keyConstraint (t : TableSpec) : Whole t.keyConstraintItem :=
  .append (.words ["CONSTRAINT", "PK_" ++ t.name, "PRIMARY", "KEY"]) (.parentheses (.words [t.key]))

theorem whole_later (t : TableSpec) : ∀ i ∈ t.laterItems, Whole i := by
  simp only [laterItems, List.forall_mem_append, List.forall_mem_cons, List.forall_mem_map]
  refine ⟨fun p _ => ColumnSpec.whole_declaration p.1 p.2, t.whole_keyConstraint, fun i hi => ?_⟩
  obtain ⟨p, -, hi⟩ := List.mem_flatMap.mp hi
  exact ColumnSpec.whole_constraints t.name p.1 p.2 i hi

end TableSpec

/-! ## The items are what is spelled -/

@[simp] theorem dense_nil : dense [] = [] := rfl

@[simp] theorem dense_append (ls ms : List (Lexeme Unit)) : dense (ls ++ ms) = dense ls ++ dense ms :=
  List.filter_append ls ms

@[simp] theorem dense_blank (c : Char) (ls : List (Lexeme Unit)) : dense (.blank c :: ls) = dense ls := rfl

@[simp] theorem dense_word (s : String) (ls : List (Lexeme Unit)) :
    dense (.word s :: ls) = .word s :: dense ls := rfl

@[simp] theorem dense_sign (c : Char) (ls : List (Lexeme Unit)) :
    dense (.sign c :: ls) = .sign c :: dense ls := rfl

@[simp] theorem dense_bracketed (ls : List (Lexeme Unit)) :
    dense (bracketed ls) = bracketed (dense ls) := by
  simp [bracketed]

@[simp] theorem dense_spaced (ls : List (Lexeme Unit)) : dense (spaced ls) = dense ls := by
  induction ls with
  | nil => rfl
  | cons l ls ih =>
    rw [spaced_cons, dense_blank]
    exact (dense_append [l] _).trans ((congrArg (dense [l] ++ ·) ih).trans (dense_append [l] ls).symm)

theorem dense_words (ws : List String) : dense (ws.map .word) = ws.map .word := by
  induction ws with
  | nil => rfl
  | cons w ws ih => simp [ih]

theorem dense_numberLexemes (s : String) : dense (numberLexemes s) = numberLexemes s := by
  unfold numberLexemes
  split <;> rfl

theorem dense_defaultValue (v : Json) : dense (defaultValueLexemes v) = defaultValueLexemes v := by
  cases v with
  | bool b => cases b <;> rfl
  | num n => exact dense_numberLexemes _
  | str s =>
    unfold defaultValueLexemes
    dsimp only
    split
    · exact dense_numberLexemes _
    · rfl
  | _ => rfl

namespace ColumnSpec

theorem dense_length (c : ColumnSpec) : dense c.lengthLexemes = c.lengthLexemes := by
  unfold lengthLexemes
  cases c.length with
  | none => rfl
  | some n =>
    dsimp only
    split <;> rfl

theorem dense_declaration (name : String) (c : ColumnSpec) :
    dense (c.declarationLexemes name) = .sign ',' :: c.declarationItem name := by
  have hnull : dense c.nullLexemes = (if c.unsigned then [.word "UNSIGNED"] else []) ++
      if c.notNull then [.word "NOT", .word "NULL"] else [.word "NULL"] := by
    unfold nullLexemes
    cases c.unsigned <;> cases c.notNull <;> rfl
  have hdefault : dense c.defaultLexemes = match c.default with
      | some v => .word "DEFAULT" :: defaultValueLexemes v
      | none => [] := by
    unfold defaultLexemes
    cases c.default with
    | none => rfl
    | some v => simp [dense_defaultValue]
  have hcomment : dense c.commentLexemes = match c.comment with
      | some s => if s.isEmpty then [] else [.word "COMMENT", .literal s]
      | none => [] := by
    unfold commentLexemes
    cases c.comment with
    | none => rfl
    | some s =>
      dsimp only
      split <;> rfl
  simp [declarationLexemes, declarationItem, typeLexemes, dense_words, dense_length, hnull, hdefault,
    hcomment]

theorem dense_constraints (table name : String) (c : ColumnSpec) :
    dense (c.uniqueLexemes table name ++ c.referenceLexemes table name) =
      (c.constraintItems table name).flatMap (.sign ',' :: ·) := by
  have hunique : dense (c.uniqueLexemes table name) =
      (if c.unique then [uniqueItem table name] else []).flatMap (.sign ',' :: ·) := by
    unfold uniqueLexemes uniqueItem
    split <;> simp
  have hreference : dense (c.referenceLexemes table name) =
      (c.reference.map (referenceItem table name)).toList.flatMap (.sign ',' :: ·) := by
    unfold referenceLexemes
    cases c.reference with
    | none => rfl
    | some r => simp [referenceItem]
  rw [dense_append, hunique, hreference, constraintItems, List.flatMap_append]

end ColumnSpec

theorem dense_flatMap {α : Type} (f : α → List (Lexeme Unit)) (xs : List α) :
    dense (xs.flatMap f) = xs.flatMap fun x => dense (f x) := List.filter_flatMap

namespace TableSpec

theorem dense_lexemes (t : TableSpec) : dense (.word "CREATE" :: t.lexemes) =
    t.creation.before ++ .sign '(' ::
      (t.keyItem ++ t.laterItems.flatMap (.sign ',' :: ·) ++ .sign ')' :: t.creation.after) := by
  have hdeclarations : dense (t.columns.flatMap fun p => p.2.declarationLexemes p.1) =
      (t.columns.map fun p => p.2.declarationItem p.1).flatMap (.sign ',' :: ·) := by
    rw [dense_flatMap, List.flatMap_map]
    exact congrArg (t.columns.flatMap ·) (funext fun p => ColumnSpec.dense_declaration p.1 p.2)
  have hconstraints : dense (t.columns.flatMap fun p =>
      p.2.uniqueLexemes t.name p.1 ++ p.2.referenceLexemes t.name p.1) =
      (t.columns.flatMap fun p => p.2.constraintItems t.name p.1).flatMap (.sign ',' :: ·) := by
    rw [dense_flatMap, List.flatMap_assoc]
    exact congrArg (t.columns.flatMap ·)
      (funext fun p => ColumnSpec.dense_constraints t.name p.1 p.2)
  rw [laterItems, List.flatMap_append, List.flatMap_cons, ← hdeclarations, ← hconstraints]
  simp [lexemes, headLexemes, keyLexemes, creation, keyItem, keyConstraintItem]

theorem length_laterItems (t : TableSpec) : t.laterItems.length = 1 + t.columns.length +
    (t.columns.filter (·.2.unique)).length + (t.columns.filter (·.2.reference.isSome)).length := by
  have hconstraints (columns : List (String × ColumnSpec)) :
      (columns.flatMap fun p => p.2.constraintItems t.name p.1).length =
        (columns.filter (·.2.unique)).length + (columns.filter (·.2.reference.isSome)).length := by
    induction columns with
    | nil => rfl
    | cons p rest ih =>
      rw [List.flatMap_cons, List.length_append, ih, ColumnSpec.constraintItems]
      cases hunique : p.2.unique <;> cases hreference : p.2.reference <;>
        simp [hunique, hreference] <;> omega
  simp only [laterItems, List.length_append, List.length_cons, List.length_map, hconstraints]
  omega

theorem creationOf?_open {before body : List (Lexeme Unit)} (h : ∀ l ∈ before, l ≠ .sign '(') :
    creationOf? (before ++ .sign '(' :: body) =
      (itemsFrom 0 [] body).map fun p => ⟨before, p.1, p.2⟩ := by
  have hbefore : ∀ l ∈ before, decide (l ≠ .sign '(') = true := fun l hl => decide_eq_true (h l hl)
  rw [creationOf?, List.dropWhile_append_of_pos hbefore, List.takeWhile_append_of_pos hbefore]
  simp

theorem creation?_of_check {t : TableSpec} (h : t.check = .ok ()) :
    creation? t.create = some t.creation := by
  have hlex : lexStandard t.create.toList = some (.word "CREATE" :: t.lexemes) := by
    rw [create_toList]
    exact (piece_afterCreate (t.check_iff.mp h)).lexStandard_word (by decide)
  have hopen : ∀ l ∈ t.creation.before, l ≠ .sign '(' := by simp [creation]
  rw [creation?, hlex, Option.bind_some, dense_lexemes, creationOf?_open hopen,
    itemsFrom_listed t.whole_key t.whole_later]
  rfl

/-- What is found between the parentheses of a creation is the key, the columns and their constraints,
each once and in order. -/
theorem creation?_create (t : TableSpec) (h : t.check = .ok ()) :
    creation? t.create = some t.creation ∧
      t.creation.items.length = 2 + t.columns.length + (t.columns.filter (·.2.unique)).length +
        (t.columns.filter (·.2.reference.isSome)).length := by
  refine ⟨creation?_of_check h, ?_⟩
  have hlength := t.length_laterItems
  rw [creation, List.length_cons]
  omega

/-- Quotes, commas and parentheses in free texts, and both constraints. -/
def orders : TableSpec :=
  ⟨"orders", none,
    [("note", { ColumnSpec.empty with
      type := "VARCHAR", length := some 40, default := some (.str "it's (a, b"), comment := some "'), x" }),
    ("owner", { ColumnSpec.empty with
      type := "INT", notNull := true, unique := true, unsigned := true,
      reference := some ⟨"users", "id"⟩ })]⟩

theorem creation?_orders : orders.check = .ok () ∧ creation? orders.create = some orders.creation ∧
    orders.creation.items =
      [[.word "id", .word "INT", .word "UNSIGNED", .word "NOT", .word "NULL", .word "AUTO_INCREMENT"],
        [.word "note", .word "VARCHAR", .sign '(', .number "40", .sign ')', .word "NULL",
          .word "DEFAULT", .literal "it's (a, b", .word "COMMENT", .literal "'), x"],
        [.word "owner", .word "INT", .word "UNSIGNED", .word "NOT", .word "NULL"],
        [.word "CONSTRAINT", .word "PK_orders", .word "PRIMARY", .word "KEY",
          .sign '(', .word "id", .sign ')'],
        [.word "CONSTRAINT", .word "UC_orders_owner", .word "UNIQUE",
          .sign '(', .word "owner", .sign ')'],
        [.word "CONSTRAINT", .word "FK_users_orders", .word "FOREIGN", .word "KEY",
          .sign '(', .word "owner", .sign ')', .word "REFERENCES", .word "users",
          .sign '(', .word "id", .sign ')']] :=
  ⟨rfl, (creation?_create orders rfl).1, by decide +kernel⟩

end TableSpec

end SchemaRest.Sql
