import SchemaRest.Proofs.Sql.CreateOrder

/-!
# Names in a creation

The items of a creation are columns and constraints. `Creation.columnNames` and `Creation.constraints`
read them off a statement; of a fit description they are the names that it gives. Names of columns are
compared without regard to the case of letters, and so is a declared name with that of the key, but not
with other declared names. `columnsNamed_of_check` says when the columns of a statement are told apart.
-/

namespace SchemaRest

namespace Text

theorem eqIgnoreCase_iff (a b : String) :
    eqIgnoreCase a b = true ↔ a.toList.map Char.toLower = b.toList.map Char.toLower := beq_iff_eq

theorem eqIgnoreCase_comm (a b : String) : eqIgnoreCase a b = eqIgnoreCase b a := by
  rw [Bool.eq_iff_iff, eqIgnoreCase_iff, eqIgnoreCase_iff, eq_comm]

theorem eqIgnoreCase_append_left (start a b : String) :
    eqIgnoreCase (start ++ a) (start ++ b) = eqIgnoreCase a b := by
  rw [Bool.eq_iff_iff, eqIgnoreCase_iff, eqIgnoreCase_iff, String.toList_append, String.toList_append,
    List.map_append, List.map_append, List.append_cancel_left_eq]

theorem eqIgnoreCase_append_right (a b rest : String) :
    eqIgnoreCase (a ++ rest) (b ++ rest) = eqIgnoreCase a b := by
  rw [Bool.eq_iff_iff, eqIgnoreCase_iff, eqIgnoreCase_iff, String.toList_append, String.toList_append,
    List.map_append, List.map_append, List.append_cancel_right_eq]

end Text

namespace Sql

/-! ## Reading -/

inductive ConstraintKind where
  | primaryKey
  | unique
  | foreignKey
  deriving DecidableEq, Repr

structure Constraint where
  kind : ConstraintKind
  name : String
  /-- The column it is about. -/
  column : String
  deriving DecidableEq, Repr

/-- What is said behind the name of a constraint. -/
def clauseOf? : List (Lexeme Unit) → Option (ConstraintKind × String)
  | .word "PRIMARY" :: .word "KEY" :: .sign '(' :: .word column :: _ => some (.primaryKey, column)
  | .word "UNIQUE" :: .sign '(' :: .word column :: _ => some (.unique, column)
  | .word "FOREIGN" :: .word "KEY" :: .sign '(' :: .word column :: _ => some (.foreignKey, column)
  | _ => none

/-- The constraint that an item is. -/
def constraintOf? : List (Lexeme Unit) → Option Constraint
  | .word "CONSTRAINT" :: .word name :: rest => (clauseOf? rest).map fun p => ⟨p.1, name, p.2⟩
  | _ => none

/-- The name of the column that an item is. -/
def columnOf? (item : List (Lexeme Unit)) : Option String :=
  match constraintOf? item, item with
  | none, .word name :: _ => some name
  | _, _ => none

namespace Creation

def columnNames (c : Creation) : List String := c.items.filterMap columnOf?

def constraints (c : Creation) : List Constraint := c.items.filterMap constraintOf?

end Creation

/-! ## Columns and constraints are told apart -/

/-- What follows the type of a column: its length, or a word. -/
inductive FollowsType : List (Lexeme Unit) → Prop
  | length (n : String) (rest : List (Lexeme Unit)) : FollowsType (.sign '(' :: .number n :: rest)
  | word (w : String) (hw : w ∈ ["UNSIGNED", "NOT", "NULL"]) (rest : List (Lexeme Unit)) :
      FollowsType (.word w :: rest)

namespace FollowsType

variable {ls : List (Lexeme Unit)}

theorem clauseOf?_eq_none (h : FollowsType ls) : clauseOf? ls = none := by
  cases h with
  | length n rest => rfl
  | word w hw rest =>
    simp only [List.mem_cons, List.not_mem_nil, or_false] at hw
    rcases hw with rfl | rfl | rfl <;> rfl

/-- No word makes a clause with a length behind it. -/
theorem clauseOf?_cons_eq_none (h : FollowsType ls) (word : String) : clauseOf? (.word word :: ls) = none := by
  have hkey (rest : List (Lexeme Unit)) : ¬FollowsType (.word "KEY" :: rest) := by
    rintro (_ | ⟨_, hw, _⟩)
    exact absurd hw (by decide)
  unfold clauseOf?
  split
  · next heq =>
    cases heq
    exact absurd h (hkey _)
  · next heq =>
    cases heq
    cases h
  · next heq =>
    cases heq
    exact absurd h (hkey _)
  · rfl

end FollowsType

theorem constraintOf?_eq_none {rest : List (Lexeme Unit)} (h : clauseOf? rest = none) (a b : String) :
    constraintOf? (.word a :: .word b :: rest) = none := by
  unfold constraintOf?
  split
  · next heq =>
    cases heq
    rw [h]
    rfl
  · rfl

namespace ColumnSpec

variable {c : ColumnSpec}

theorem declarationItem_eq (name : String) (c : ColumnSpec) : ∃ rest, FollowsType rest ∧
    c.declarationItem name = .word name :: (Text.pieces ' ' c.type).map .word ++ rest := by
  have hnull (rest : List (Lexeme Unit)) : FollowsType
      ((if c.unsigned then [.word "UNSIGNED"] else []) ++
        ((if c.notNull then [.word "NOT", .word "NULL"] else [.word "NULL"]) ++ rest)) := by
    cases c.unsigned with
    | true => exact .word "UNSIGNED" (by decide) _
    | false =>
      cases c.notNull with
      | true => exact .word "NOT" (by decide) _
      | false => exact .word "NULL" (by decide) _
  unfold declarationItem
  simp only [List.append_assoc]
  refine ⟨_, ?_, rfl⟩
  unfold lengthLexemes
  cases c.length with
  | none => exact hnull _
  | some n =>
    dsimp only
    split
    · exact .length _ _
    · exact hnull _

/-- Not even a column of the name `CONSTRAINT` is taken for a constraint. -/
theorem constraintOf?_declaration (h : isTypeName c.type) (name : String) :
    constraintOf? (c.declarationItem name) = none := by
  obtain ⟨rest, hrest, hitem⟩ := c.declarationItem_eq name
  rw [hitem]
  unfold isTypeName at h
  split at h
  · next a htype =>
    rw [htype]
    exact constraintOf?_eq_none hrest.clauseOf?_eq_none name a
  · next a b htype =>
    rw [htype]
    exact constraintOf?_eq_none (hrest.clauseOf?_cons_eq_none b) name a
  · cases h

theorem columnOf?_declaration (h : isTypeName c.type) (name : String) :
    columnOf? (c.declarationItem name) = some name := by
  obtain ⟨rest, -, hitem⟩ := c.declarationItem_eq name
  unfold columnOf?
  rw [constraintOf?_declaration h, hitem]
  rfl

/-- The constraints of a column. -/
def namedConstraints (table column : String) (c : ColumnSpec) : List Constraint :=
  (if c.unique then [⟨.unique, "UC_" ++ table ++ "_" ++ column, column⟩] else []) ++
    (c.reference.map fun r => ⟨.foreignKey, "FK_" ++ r.table ++ "_" ++ table, column⟩).toList

theorem filterMap_constraintItems (table column : String) (c : ColumnSpec) :
    (c.constraintItems table column).filterMap constraintOf? = c.namedConstraints table column ∧
      (c.constraintItems table column).filterMap columnOf? = [] := by
  unfold constraintItems namedConstraints
  cases c.unique <;> cases c.reference <;> exact ⟨rfl, rfl⟩

end ColumnSpec

namespace TableSpec

variable {t : TableSpec}

/-- The constraints of a description, the generated key first. -/
def namedConstraints (t : TableSpec) : List Constraint :=
  ⟨.primaryKey, "PK_" ++ t.name, t.key⟩ ::
    t.columns.flatMap fun p => p.2.namedConstraints t.name p.1

theorem constraintOf?_keyItem (t : TableSpec) : constraintOf? t.keyItem = none :=
  constraintOf?_eq_none rfl t.key "INT"

theorem columnOf?_keyItem (t : TableSpec) : columnOf? t.keyItem = some t.key := by
  unfold columnOf?
  rw [t.constraintOf?_keyItem]
  rfl

theorem columnNames_creation (h : t.Fit) : t.creation.columnNames = t.key :: t.columnNames := by
  have hcolumns : (t.columns.map fun p => p.2.declarationItem p.1).filterMap columnOf? =
      t.columnNames := by
    rw [List.filterMap_map, columnNames, ← List.filterMap_eq_map]
    exact List.filterMap_congr fun p hp => ColumnSpec.columnOf?_declaration (h.columns p hp).type p.1
  have hconstraints : (t.columns.flatMap fun p => p.2.constraintItems t.name p.1).filterMap
      columnOf? = [] := by
    rw [List.filterMap_flatMap]
    exact List.flatMap_eq_nil_iff.mpr fun p _ => (ColumnSpec.filterMap_constraintItems _ _ _).2
  rw [Creation.columnNames, creation, laterItems, List.filterMap_cons, t.columnOf?_keyItem,
    List.filterMap_append, hcolumns, List.filterMap_cons, hconstraints]
  exact congrArg (t.key :: ·) (List.append_nil t.columnNames)

theorem constraints_creation (h : t.Fit) : t.creation.constraints = t.namedConstraints := by
  have hcolumns : (t.columns.map fun p => p.2.declarationItem p.1).filterMap constraintOf? = [] := by
    rw [List.filterMap_map, List.filterMap_eq_nil_iff]
    exact fun p hp => ColumnSpec.constraintOf?_declaration (h.columns p hp).type p.1
  have hconstraints : (t.columns.flatMap fun p => p.2.constraintItems t.name p.1).filterMap
      constraintOf? = t.columns.flatMap fun p => p.2.namedConstraints t.name p.1 := by
    rw [List.filterMap_flatMap]
    exact congrArg (t.columns.flatMap ·)
      (funext fun p => (ColumnSpec.filterMap_constraintItems _ _ _).1)
  rw [Creation.constraints, creation, laterItems, List.filterMap_cons, t.constraintOf?_keyItem,
    List.filterMap_append, hcolumns, List.filterMap_cons, hconstraints]
  rfl

/-! ## Columns of one statement -/

/-- Names that are told apart where case does not count. -/
def Distinguished (names : List String) : Prop :=
  names.Pairwise fun a b => Text.eqIgnoreCase a b = false

instance (names : List String) : Decidable (Distinguished names) :=
  inferInstanceAs (Decidable (names.Pairwise fun a b => Text.eqIgnoreCase a b = false))

theorem distinguished_iff_of_nodup {names : List String} (h : names.Nodup) :
    Distinguished names ↔ ∀ a ∈ names, ∀ b ∈ names, Text.eqIgnoreCase a b = true → a = b := by
  have hsymm : Std.Symm fun a b => Text.eqIgnoreCase a b = false :=
    ⟨fun a b hab => by rwa [Text.eqIgnoreCase_comm]⟩
  constructor
  · intro hnames a ha b hb heq
    by_contra hne
    exact Bool.false_ne_true ((hnames.forall ha hb hne).symm.trans heq)
  · intro hnames
    refine h.imp_of_mem fun {a b} ha hb hne => ?_
    exact Bool.eq_false_iff.mpr fun heq => hne (hnames a ha b hb heq)

/-- The names of the columns of a statement. -/
structure ColumnsNamed (t : TableSpec) (c : Creation) : Prop where
  /-- The statement has the generated key and the columns that are declared, in order. -/
  names : c.columnNames = t.key :: t.columnNames
  /-- No declared column is mistaken for the key. -/
  key : ∀ name ∈ t.columnNames, Text.eqIgnoreCase name t.key = false
  /-- The columns are told apart just where those that are declared are. -/
  told_iff : Distinguished c.columnNames ↔ Distinguished t.columnNames
  /-- Names that are decoded come once each, so only the case of letters can be missing between them. -/
  decoded : ∀ v, decode v = .ok t → t.columnNames.Nodup ∧
    (Distinguished c.columnNames ↔
      ∀ a ∈ t.columnNames, ∀ b ∈ t.columnNames, Text.eqIgnoreCase a b = true → a = b)

theorem columnsNamed_of_check (h : t.check = .ok ()) :
    ∃ c, creation? t.create = some c ∧ ColumnsNamed t c := by
  have hfit := t.check_iff.mp h
  have hnames := columnNames_creation hfit
  have hkey : ∀ name ∈ t.columnNames, Text.eqIgnoreCase name t.key = false := by
    intro name hname
    obtain ⟨p, hp, rfl⟩ := List.mem_map.mp hname
    exact (hfit.columns p hp).distinct
  have htold : Distinguished t.creation.columnNames ↔ Distinguished t.columnNames := by
    rw [hnames, Distinguished, List.pairwise_cons]
    refine and_iff_right fun name hname => ?_
    rw [Text.eqIgnoreCase_comm]
    exact hkey name hname
  refine ⟨t.creation, creation?_of_check h, hnames, hkey, htold, fun v hv => ?_⟩
  have hnodup := nodup_of_decode hv
  exact ⟨hnodup, htold.trans (distinguished_iff_of_nodup hnodup)⟩

/-- A column that would be the key if the key had its usual name. -/
def keyRenamed : TableSpec :=
  ⟨"t", some "code", ["ID", "name"].map (·, { ColumnSpec.empty with type := "INT" })⟩

theorem columnsNamed_keyRenamed : keyRenamed.check = .ok () ∧
    ∃ c, creation? keyRenamed.create = some c ∧ ColumnsNamed keyRenamed c ∧
      c.columnNames = ["code", "ID", "name"] ∧ Distinguished c.columnNames := by
  obtain ⟨c, hread, hnamed⟩ := columnsNamed_of_check (t := keyRenamed) rfl
  exact ⟨rfl, c, hread, hnamed, hnamed.names, hnamed.told_iff.mpr (by decide +kernel)⟩

/-- Two columns whose names differ in case only. -/
def twins : TableSpec :=
  ⟨"t", none, ["NAME", "name"].map (·, { ColumnSpec.empty with type := "INT" })⟩

theorem twins_mistaken :
    decode (.obj [("columns", .obj [("NAME", .obj [("type", .str "INT")]),
      ("name", .obj [("type", .str "INT")])]), ("tableName", .str "t")]) = .ok twins ∧
    twins.check = .ok () ∧ ∃ c, creation? twins.create = some c ∧
      c.columnNames = ["id", "NAME", "name"] ∧ ¬Distinguished c.columnNames := by
  have hcheck : twins.check = .ok () := rfl
  have hnames := columnNames_creation (twins.check_iff.mp hcheck)
  refine ⟨rfl, hcheck, twins.creation, creation?_of_check hcheck, hnames, ?_⟩
  rw [hnames]
  decide +kernel

end TableSpec

end Sql

end SchemaRest
