import SchemaRest.Sql.CreateTable

/-!
# Descriptions fit to be created

What `TableSpec.check` accepts, as a property of the description.
-/

namespace SchemaRest.Sql

structure ColumnSpec.Fit (key column : String) (c : ColumnSpec) : Prop where
  name : isIdentifier column
  distinct : Text.eqIgnoreCase column key = false
  type : isTypeName c.type
  reference : ∀ r ∈ c.reference, isIdentifier r.table ∧ isIdentifier r.column

structure TableSpec.Fit (t : TableSpec) : Prop where
  name : isIdentifier t.name
  key : isIdentifier t.key
  columns : ∀ p ∈ t.columns, p.2.Fit t.key p.1

/-- A check and what comes after it both pass. -/
theorem checked_iff {ε : Type} {m k : Except ε Unit} :
    (m >>= fun _ => k) = .ok () ↔ m = .ok () ∧ k = .ok () := by
  cases m with
  | error e =>
    constructor
    · intro h
      cases h
    · rintro ⟨h, -⟩
      cases h
  | ok u => exact ⟨fun h => ⟨rfl, h⟩, fun h => h.2⟩

theorem checkIdentifier_iff (what value : String) :
    checkIdentifier what value = .ok () ↔ isIdentifier value := by
  unfold checkIdentifier
  cases isIdentifier value with
  | true => exact ⟨fun _ => rfl, fun _ => rfl⟩
  | false =>
    constructor
    · intro h
      cases h
    · intro h
      cases h

theorem checkReference_iff (r : Option Reference) :
    checkReference r = .ok () ↔ ∀ s ∈ r, isIdentifier s.table ∧ isIdentifier s.column := by
  cases r with
  | none => simp [checkReference]
  | some s => simp [checkReference, checked_iff, checkIdentifier_iff]

theorem checkColumn_iff (key name : String) (c : ColumnSpec) :
    checkColumn key name c = .ok () ↔ c.Fit key name := by
  unfold checkColumn
  rw [checked_iff, checkIdentifier_iff]
  constructor
  · rintro ⟨hname, h⟩
    cases hkey : Text.eqIgnoreCase name key with
    | true =>
      rw [hkey] at h
      cases h
    | false =>
      cases htype : isTypeName c.type with
      | false =>
        rw [hkey, htype] at h
        cases h
      | true =>
        rw [hkey, htype] at h
        exact ⟨hname, hkey, htype, (checkReference_iff _).mp h⟩
  · rintro ⟨hname, hkey, htype, hreference⟩
    refine ⟨hname, ?_⟩
    rw [hkey, htype]
    exact (checkReference_iff _).mpr hreference

theorem checkColumns_iff (key : String) (columns : List (String × ColumnSpec)) :
    checkColumns key columns = .ok () ↔ ∀ p ∈ columns, p.2.Fit key p.1 := by
  induction columns with
  | nil => simp [checkColumns]
  | cons p rest ih =>
    rw [checkColumns, checked_iff, checkColumn_iff, ih, List.forall_mem_cons]

theorem TableSpec.check_iff (t : TableSpec) : t.check = .ok () ↔ t.Fit := by
  unfold TableSpec.check
  rw [checked_iff, checked_iff, checkIdentifier_iff, checkIdentifier_iff, checkColumns_iff]
  exact ⟨fun ⟨hname, hkey, hcolumns⟩ => ⟨hname, hkey, hcolumns⟩, fun h => ⟨h.name, h.key, h.columns⟩⟩

end SchemaRest.Sql
