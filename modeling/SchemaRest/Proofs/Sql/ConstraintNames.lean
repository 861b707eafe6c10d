import Mathlib.Data.List.Perm.Basic
import SchemaRest.Proofs.Sql.CreateNames

/-!
# Names of constraints

A constraint is named after the table and what it is about: the column that is unique, or the table that
is referenced. So the name of a foreign key says nothing of its column. `constraintsNamed_of_check` says
when the names of one statement or of two are the same, and when they are identifiers.
-/

namespace SchemaRest.Sql

/-! ## Joined names -/

/-- The same characters in other parts: the middle stands behind the one or before the other. -/
def Regrouped (a b c d : String) : Prop := ∃ middle, a = c ++ "_" ++ middle ∧ d = middle ++ "_" ++ b

theorem toList_joined_names (a b : String) : (a ++ "_" ++ b).toList = a.toList ++ '_' :: b.toList := by
  rw [String.toList_append, String.toList_append, List.append_assoc]
  rfl

theorem regrouped_iff {a b c d : String} : Regrouped a b c d ↔ ∃ middle,
    a.toList = c.toList ++ '_' :: middle ∧ d.toList = middle ++ '_' :: b.toList := by
  constructor
  · rintro ⟨middle, rfl, rfl⟩
    exact ⟨middle.toList, toList_joined_names c middle, toList_joined_names middle b⟩
  · rintro ⟨middle, ha, hd⟩
    refine ⟨String.ofList middle, String.toList_inj.mp ?_, String.toList_inj.mp ?_⟩
    · rw [toList_joined_names, String.toList_ofList, ha]
    · rw [toList_joined_names, String.toList_ofList, hd]

/-- Joined names are the same where their parts are, or where the parts are grouped otherwise. -/
theorem joined_eq_iff (a b c d : String) : a ++ "_" ++ b = c ++ "_" ++ d ↔
    (a = c ∧ b = d) ∨ Regrouped a b c d ∨ Regrouped c d a b := by
  rw [← String.toList_inj, toList_joined_names, toList_joined_names, List.append_eq_append_iff,
    regrouped_iff, regrouped_iff, ← String.toList_inj, ← String.toList_inj]
  constructor
  · rintro (⟨more, hc, hb⟩ | ⟨more, ha, hd⟩)
    · cases more with
      | nil =>
        rw [List.append_nil] at hc
        exact .inl ⟨hc.symm, (List.cons.inj hb).2⟩
      | cons x middle =>
        obtain ⟨rfl, hrest⟩ := List.cons.inj hb
        exact .inr (.inr ⟨middle, hc, hrest⟩)
    · cases more with
      | nil =>
        rw [List.append_nil] at ha
        exact .inl ⟨ha, (List.cons.inj hd).2.symm⟩
      | cons x middle =>
        obtain ⟨rfl, hrest⟩ := List.cons.inj hd
        exact .inr (.inl ⟨middle, ha, hrest⟩)
  · rintro (⟨ha, hb⟩ | ⟨middle, ha, hd⟩ | ⟨middle, hc, hb⟩)
    · exact .inl ⟨[], by rw [ha, List.append_nil], by rw [hb, List.nil_append]⟩
    · exact .inr ⟨'_' :: middle, ha, by rw [hd, List.cons_append]⟩
    · exact .inl ⟨'_' :: middle, hc, by rw [hb, List.cons_append]⟩

/-! ## Identifiers -/

/-- A character of an identifier. -/
def isNameChar (c : Char) : Bool := isLetter c || Text.isDigit c || c == '_' || c == '$'

/-- A text of characters of identifiers, of any length. -/
def isNameText (s : String) : Bool := s.toList.all isNameChar

theorem isNameText_append (a b : String) : isNameText (a ++ b) = (isNameText a && isNameText b) := by
  rw [isNameText, String.toList_append, List.all_append]
  rfl

theorem isNameText_of_isIdentifier {s : String} (h : isIdentifier s) : isNameText s := by
  unfold isIdentifier at h
  split at h
  · cases h
  · next c rest hs =>
    simp only [Bool.and_eq_true, Bool.or_eq_true] at h
    rw [isNameText, hs, List.all_cons, Bool.and_eq_true]
    refine ⟨?_, h.2⟩
    rcases h.1.1 with hc | hc <;> simp [isNameChar, hc]

/-- What looks like an identifier is one unless it is too long. -/
theorem isIdentifier_iff_length {s : String} {c : Char} (hc : s.toList.head? = some c)
    (hletter : isLetter c) (htext : isNameText s) : isIdentifier s ↔ s.length ≤ 64 := by
  obtain ⟨rest, hs⟩ := List.head?_eq_some_iff.mp hc
  have hlength : s.length = rest.length + 1 := by rw [← String.length_toList, hs, List.length_cons]
  have hrest : rest.all isNameChar := by
    rw [isNameText, hs, List.all_cons, Bool.and_eq_true] at htext
    exact htext.2
  unfold isIdentifier
  rw [hs, hlength]
  simp only [hletter, Bool.true_or, Bool.true_and, Bool.and_eq_true, decide_eq_true_eq]
  constructor
  · rintro ⟨h, -⟩
    omega
  · intro h
    exact ⟨by omega, hrest⟩

namespace TableSpec

variable {t u : TableSpec}

/-- A column has a reference. -/
def References (t : TableSpec) (column : String) (r : Reference) : Prop :=
  ∃ c, (column, c) ∈ t.columns ∧ c.reference = some r

def uniqueColumns (t : TableSpec) : List String := (t.columns.filter (·.2.unique)).map (·.1)

/-- The tables that are referenced, once for each column. -/
def referencedTables (t : TableSpec) : List String :=
  t.columns.filterMap fun p => p.2.reference.map (·.table)

theorem mem_namedConstraints {k : Constraint} : k ∈ t.namedConstraints ↔
    k = ⟨.primaryKey, "PK_" ++ t.name, t.key⟩ ∨ ∃ p ∈ t.columns,
      (p.2.unique = true ∧ k = ⟨.unique, "UC_" ++ t.name ++ "_" ++ p.1, p.1⟩) ∨
        ∃ r, p.2.reference = some r ∧ k = ⟨.foreignKey, "FK_" ++ r.table ++ "_" ++ t.name, p.1⟩ := by
  simp only [namedConstraints, List.mem_cons, List.mem_flatMap, ColumnSpec.namedConstraints,
    List.mem_append, Option.mem_toList, Option.map_eq_some_iff, List.mem_ite_nil_right,
    List.not_mem_nil, or_false, eq_comm (a := k)]

/-- Every name of a constraint looks like an identifier. -/
theorem isIdentifier_name_iff (h : t.Fit) {k : Constraint} (hk : k ∈ t.namedConstraints) :
    isIdentifier k.name ↔ k.name.length ≤ 64 := by
  have htable := isNameText_of_isIdentifier h.name
  have hjoined {start a b : String} (hstart : isNameText start) (ha : isNameText a)
      (hb : isNameText b) : isNameText (start ++ a ++ "_" ++ b) := by
    rw [isNameText_append, isNameText_append, isNameText_append, hstart, ha, hb]
    rfl
  rcases mem_namedConstraints.mp hk with rfl | ⟨p, hp, ⟨-, rfl⟩ | ⟨r, hr, rfl⟩⟩
  · apply isIdentifier_iff_length (c := 'P') (by simp) rfl
    rw [isNameText_append, htable]
    rfl
  · apply isIdentifier_iff_length (c := 'U') (by simp) rfl
    exact hjoined rfl htable (isNameText_of_isIdentifier (h.columns p hp).name)
  · apply isIdentifier_iff_length (c := 'F') (by simp) rfl
    exact hjoined rfl (isNameText_of_isIdentifier ((h.columns p hp).reference r hr).1) htable

/-! ## Names of one statement -/

/-- The names of the constraints, those of one kind after those of another. -/
theorem names_perm (t : TableSpec) : (t.namedConstraints.map (·.name)).Perm
    (("PK_" ++ t.name) :: ((t.uniqueColumns.map fun column => "UC_" ++ t.name ++ "_" ++ column) ++
      t.referencedTables.map fun table => "FK_" ++ table ++ "_" ++ t.name)) := by
  have hunique : (t.uniqueColumns.map fun column => "UC_" ++ t.name ++ "_" ++ column) =
      t.columns.flatMap fun p => if p.2.unique then ["UC_" ++ t.name ++ "_" ++ p.1] else [] := by
    unfold uniqueColumns
    induction t.columns with
    | nil => rfl
    | cons p columns ih =>
      rw [List.flatMap_cons, ← ih]
      cases hp : p.2.unique <;> simp [hp]
  have hforeign : (t.referencedTables.map fun table => "FK_" ++ table ++ "_" ++ t.name) =
      t.columns.flatMap fun p =>
        (p.2.reference.map fun r => "FK_" ++ r.table ++ "_" ++ t.name).toList := by
    rw [referencedTables, List.map_filterMap, List.filterMap_eq_flatMap_toList]
    simp only [Option.map_map, Function.comp_def]
  have hnames (p : String × ColumnSpec) : (p.2.namedConstraints t.name p.1).map (·.name) =
      (if p.2.unique then ["UC_" ++ t.name ++ "_" ++ p.1] else []) ++
        (p.2.reference.map fun r => "FK_" ++ r.table ++ "_" ++ t.name).toList := by
    unfold ColumnSpec.namedConstraints
    cases p.2.unique <;> cases p.2.reference <;> rfl
  rw [namedConstraints, List.map_cons, List.map_flatMap, hunique, hforeign]
  simp only [hnames]
  exact (List.flatMap_append_perm t.columns _ _).symm.cons _

/-- Kinds of constraints are told apart by how their names start. -/
theorem eqIgnoreCase_kinds (a b : String) : Text.eqIgnoreCase ("PK_" ++ a) ("UC_" ++ b) = false ∧
    Text.eqIgnoreCase ("PK_" ++ a) ("FK_" ++ b) = false ∧
    Text.eqIgnoreCase ("UC_" ++ a) ("FK_" ++ b) = false := by
  simp [Text.eqIgnoreCase]

theorem distinguished_names_iff (t : TableSpec) : Distinguished (t.namedConstraints.map (·.name)) ↔
    Distinguished t.uniqueColumns ∧ Distinguished t.referencedTables := by
  have hunique : (t.uniqueColumns.map fun column => "UC_" ++ t.name ++ "_" ++ column).Pairwise
      (fun a b => Text.eqIgnoreCase a b = false) ↔ Distinguished t.uniqueColumns := by
    rw [List.pairwise_map]
    simp only [Text.eqIgnoreCase_append_left]
    rfl
  have hforeign : (t.referencedTables.map fun table => "FK_" ++ table ++ "_" ++ t.name).Pairwise
      (fun a b => Text.eqIgnoreCase a b = false) ↔ Distinguished t.referencedTables := by
    rw [List.pairwise_map]
    simp only [Text.eqIgnoreCase_append_right, Text.eqIgnoreCase_append_left]
    rfl
  rw [Distinguished, (names_perm t).pairwise_iff fun h => by rwa [Text.eqIgnoreCase_comm],
    List.pairwise_cons, List.pairwise_append, hunique, hforeign]
  constructor
  · rintro ⟨-, hu, hf, -⟩
    exact ⟨hu, hf⟩
  · rintro ⟨hu, hf⟩
    refine ⟨?_, hu, hf, ?_⟩
    · intro name hname
      rcases List.mem_append.mp hname with h | h
      · obtain ⟨column, -, rfl⟩ := List.mem_map.mp h
        simp only [String.append_assoc]
        exact (eqIgnoreCase_kinds _ _).1
      · obtain ⟨table, -, rfl⟩ := List.mem_map.mp h
        simp only [String.append_assoc]
        exact (eqIgnoreCase_kinds _ _).2.1
    · intro a ha b hb
      obtain ⟨column, -, rfl⟩ := List.mem_map.mp ha
      obtain ⟨table, -, rfl⟩ := List.mem_map.mp hb
      simp only [String.append_assoc]
      exact (eqIgnoreCase_kinds _ _).2.2

/-! ## Names of two statements -/

/-- The names of the constraints of a statement. -/
structure ConstraintsNamed (t : TableSpec) (c : Creation) : Prop where
  /-- The key, then for each column in order what is unique and what is referenced. -/
  listed : c.constraints = t.namedConstraints
  /-- They are told apart just where the columns that are unique and the tables that are referenced are. -/
  told_iff : Distinguished (c.constraints.map (·.name)) ↔
    Distinguished t.uniqueColumns ∧ Distinguished t.referencedTables
  /-- A name is an identifier unless it is too long. -/
  identifier_iff : ∀ k ∈ c.constraints, isIdentifier k.name ↔ k.name.length ≤ 64

theorem constraintsNamed_creation (h : t.Fit) : ConstraintsNamed t t.creation where
  listed := constraints_creation h
  told_iff := by
    rw [constraints_creation h]
    exact distinguished_names_iff t
  identifier_iff := by
    rw [constraints_creation h]
    exact fun k hk => isIdentifier_name_iff h hk

theorem foreign_of_mem {k : Constraint} (hk : k ∈ t.namedConstraints) (hkind : k.kind = .foreignKey) :
    ∃ r, t.References k.column r ∧ k.name = "FK_" ++ (r.table ++ "_" ++ t.name) := by
  rcases mem_namedConstraints.mp hk with rfl | ⟨p, hp, ⟨-, rfl⟩ | ⟨r, hr, rfl⟩⟩
  · cases hkind
  · cases hkind
  · refine ⟨r, ⟨p.2, hp, hr⟩, ?_⟩
    simp only [String.append_assoc]

/-- When foreign keys of two tables have the same name. -/
structure ForeignNamed (t u : TableSpec) (k l : Constraint) : Prop where
  /-- Of the same table, where they lead to the same table. -/
  same : t.name = u.name → ∃ r s, t.References k.column r ∧ u.References l.column s ∧
    (k.name = l.name ↔ r.table = s.table)
  /-- Of tables of other names, where the names of the four tables can be grouped in two ways. -/
  other : t.name ≠ u.name → ∃ r s, t.References k.column r ∧ u.References l.column s ∧
    (k.name = l.name ↔
      Regrouped r.table t.name s.table u.name ∨ Regrouped s.table u.name r.table t.name)

theorem foreignNamed_of_mem {k l : Constraint} (hk : k ∈ t.namedConstraints)
    (hl : l ∈ u.namedConstraints) (hkind : k.kind = .foreignKey) (hlind : l.kind = .foreignKey) :
    ForeignNamed t u k l := by
  obtain ⟨r, hr, hkname⟩ := foreign_of_mem hk hkind
  obtain ⟨s, hs, hlname⟩ := foreign_of_mem hl hlind
  constructor
  · intro hname
    refine ⟨r, s, hr, hs, ?_⟩
    rw [hkname, hlname, hname]
    simp only [String.append_left_inj, String.append_right_inj]
  · intro hname
    refine ⟨r, s, hr, hs, ?_⟩
    rw [hkname, hlname, String.append_right_inj, joined_eq_iff]
    exact or_iff_right fun h => hname h.2

theorem constraintsNamed_of_check (ht : t.check = .ok ()) (hu : u.check = .ok ()) :
    ∃ c d, creation? t.create = some c ∧ creation? u.create = some d ∧
      ConstraintsNamed t c ∧ ConstraintsNamed u d ∧
      ∀ k ∈ c.constraints, ∀ l ∈ d.constraints, k.kind = .foreignKey → l.kind = .foreignKey →
        ForeignNamed t u k l := by
  have hfit := t.check_iff.mp ht
  have hfit' := u.check_iff.mp hu
  refine ⟨t.creation, u.creation, creation?_of_check ht, creation?_of_check hu,
    constraintsNamed_creation hfit, constraintsNamed_creation hfit', ?_⟩
  rw [constraints_creation hfit, constraints_creation hfit']
  exact fun k hk l hl => foreignNamed_of_mem hk hl

/-- A table whose columns reference the identifiers of tables. -/
def linking (name : String) (links : List (String × String)) : TableSpec :=
  ⟨name, none, links.map fun p =>
    (p.1, { ColumnSpec.empty with type := "INT", reference := some ⟨p.2, "id"⟩ })⟩

def shipped : TableSpec := linking "shipments" [("sender", "users"), ("carrier", "carriers")]

def noted : TableSpec := linking "notes" [("author", "users")]

theorem constraintsNamed_shipped : shipped.check = .ok () ∧ noted.check = .ok () ∧
    ∃ c d, creation? shipped.create = some c ∧ creation? noted.create = some d ∧
      c.constraints.map (·.name) = ["PK_shipments", "FK_users_shipments", "FK_carriers_shipments"] ∧
      Distinguished (c.constraints.map (·.name)) ∧ (∀ k ∈ c.constraints, isIdentifier k.name) ∧
      ∀ l ∈ d.constraints, l.kind = .foreignKey →
        ForeignNamed shipped noted ⟨.foreignKey, "FK_users_shipments", "sender"⟩ l := by
  obtain ⟨c, d, hread, hread', hnamed, -, hforeign⟩ :=
    constraintsNamed_of_check (t := shipped) (u := noted) rfl rfl
  refine ⟨rfl, rfl, c, d, hread, hread', ?_, hnamed.told_iff.mpr (by decide +kernel), ?_, ?_⟩
  · rw [hnamed.listed]
    rfl
  · intro k hk
    refine (hnamed.identifier_iff k hk).mpr ?_
    rw [hnamed.listed] at hk
    exact (by decide : ∀ k ∈ shipped.namedConstraints, k.name.length ≤ 64) k hk
  · intro l hl
    refine hforeign _ ?_ l hl rfl
    rw [hnamed.listed]
    decide

/-- A table with two columns that lead to one table. -/
def authored : TableSpec := linking "orders" [("created_by", "users"), ("updated_by", "users")]

/-- A table whose name is as long as an identifier may be. -/
def longNamed : TableSpec := linking (String.ofList (List.replicate 64 'a')) []

theorem authored_shared :
    (authored.check = .ok () ∧ ∃ c, creation? authored.create = some c ∧
      ⟨.foreignKey, "FK_users_orders", "created_by"⟩ ∈ c.constraints ∧
      ⟨.foreignKey, "FK_users_orders", "updated_by"⟩ ∈ c.constraints) ∧
    ((linking "b_c" [("x", "a")]).check = .ok () ∧ (linking "c" [("x", "a_b")]).check = .ok () ∧
      ∃ c d, creation? (linking "b_c" [("x", "a")]).create = some c ∧
        creation? (linking "c" [("x", "a_b")]).create = some d ∧
        ⟨.foreignKey, "FK_a_b_c", "x"⟩ ∈ c.constraints ∧
        ⟨.foreignKey, "FK_a_b_c", "x"⟩ ∈ d.constraints) ∧
    (longNamed.check = .ok () ∧ ∃ c, creation? longNamed.create = some c ∧
      ∃ k ∈ c.constraints, ¬isIdentifier k.name) := by
  have hread (t : TableSpec) (h : t.check = .ok ()) :
      creation? t.create = some t.creation ∧ t.creation.constraints = t.namedConstraints :=
    ⟨creation?_of_check h, constraints_creation (t.check_iff.mp h)⟩
  refine ⟨⟨rfl, authored.creation, (hread authored rfl).1, ?_⟩,
    ⟨rfl, rfl, _, _, (hread _ rfl).1, (hread _ rfl).1, ?_⟩,
    ⟨rfl, longNamed.creation, (hread longNamed rfl).1, ?_⟩⟩
  · rw [(hread authored rfl).2]
    decide
  · rw [(hread _ rfl).2, (hread _ rfl).2]
    decide
  · rw [(hread longNamed rfl).2]
    exact ⟨_, List.mem_cons_self, by decide⟩

end TableSpec

end SchemaRest.Sql
