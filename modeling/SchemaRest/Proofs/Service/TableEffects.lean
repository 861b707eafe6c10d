import SchemaRest.Proofs.Service.Effects
import SchemaRest.Proofs.Sql.FilterTruth
import SchemaRest.Proofs.Sql.TablesNamed
import SchemaRest.Service.Table

/-!
# Effects of the handlers of a table

Each of the six handlers does nothing but send statements, and each statement names the table of
the handler and no other.
-/

namespace SchemaRest

def Sent.sql : Sent → String
  | .prepared sql _ => sql
  | .text sql => sql

/-- A statement that names one table and no other. -/
def NamesOnly (table : String) (s : Sent) : Prop := Sql.tablesNamed? s.sql = some [table]

/-- What a description of a query decides are the conditions and the order. -/
theorem QuerySpec.select_frame {spec : QuerySpec} {table : String} {columns : List String}
    {q : Sql.Select} (h : spec.select table columns = .ok q) :
    ∃ conditions orderBy, q = { Sql.Select.all table with columns, conditions, orderBy } := by
  unfold QuerySpec.select at h
  split at h
  · cases h
  · next s hs =>
    obtain ⟨conditions, -, rfl⟩ := Sql.compile_eq_ok_iff.mp hs
    split at h
    · cases h
      exact ⟨_, none, rfl⟩
    · next o _ =>
      cases h
      exact ⟨_, some (o.column, o.direction), rfl⟩

namespace Service

open Effect Sql

variable {settings : Settings} {table : String}

theorem sends_reported {α : Type} (h : Handler) {m : Effect DatabaseError α} {s : Statement}
    (hm : m.Sends (· = .ofStatement s)) (hs : tablesNamed? s.sql = some [table]) :
    (reported h m).Sends (NamesOnly table) := by
  refine (hm.mapFailure _).mono ?_
  rintro _ rfl
  exact hs

theorem sends_rows_of (h : Handler) {q : Select} (hq : q.table = table) :
    (reported h (Database.fetchAll q.rows)).Sends (NamesOnly table) :=
  sends_reported h (Database.sends_fetchAll _) (hq ▸ q.tablesNamed?_rows)

theorem sends_count_of (h : Handler) {q : Select} (hq : q.table = table) :
    (reported h (Database.count q.count)).Sends (NamesOnly table) :=
  sends_reported h (Database.sends_count _) (hq ▸ q.tablesNamed?_count)

theorem sends_list (c : Call) : (list settings table c).Sends (NamesOnly table) := by
  unfold list
  refine .bind (.look _) fun catalog => ?_
  refine .bind (sends_count_of .list rfl) fun total => ?_
  exact .bind (sends_rows_of .list rfl) fun items => .pure _

theorem sends_getOne (c : Call) : (getOne settings table c).Sends (NamesOnly table) := by
  unfold getOne
  refine .bind ?_ fun row => .pure _
  exact sends_reported .getOne (Database.sends_fetchFirst _) (Select.tablesNamed?_rows _)

theorem sends_create (c : Call) : (create table c).Sends (NamesOnly table) := by
  unfold create
  refine .bind (.ofExcept _) fun rows => ?_
  refine .bind ?_ fun p => .pure _
  exact sends_reported .create (Database.sends_execute _) (tablesNamed?_insert table rows)

theorem sends_update (c : Call) : (update table c).Sends (NamesOnly table) := by
  unfold update
  refine .bind (.ofExcept _) fun changes => ?_
  refine .bind ?_ fun p => .pure _
  exact sends_reported .update (Database.sends_execute _) (tablesNamed?_update table changes _ _)

theorem sends_delete (c : Call) : (delete table c).Sends (NamesOnly table) := by
  unfold delete
  refine .bind ?_ fun p => ?_
  · exact sends_reported .delete (Database.sends_execute _) (tablesNamed?_delete table _ _)
  · dsimp only
    split
    · exact .fail _
    · exact .pure _

theorem sends_query (c : Call) : (query settings table c).Sends (NamesOnly table) := by
  unfold query
  refine .bind (.ofExcept _) fun spec => ?_
  refine .bind_ofExcept fun q hq => ?_
  have htable : q.table = table := by
    obtain ⟨conditions, orderBy, rfl⟩ := QuerySpec.select_frame hq
    rfl
  split
  · refine .bind (sends_count_of .query htable) fun total => ?_
    exact .bind (sends_rows_of .query htable) fun items => .pure _
  · exact .bind (sends_rows_of .query htable) fun items => .pure _

end Service

end SchemaRest
