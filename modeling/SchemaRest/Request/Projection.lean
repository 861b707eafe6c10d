/-!
# Projections

Which columns of a table may be shown is a list per table; a table without a list, or with an empty
one, shows every column. Everywhere here an empty list of columns stands for all of them.
-/

namespace SchemaRest

/-- The columns that may be shown, by table. -/
abbrev VisibleColumns := List (String × List String)

namespace VisibleColumns

def allowed (settings : VisibleColumns) (table : String) : List String :=
  (settings.lookup table).getD []

/-- The columns to read when a request names some: of its columns those that may be shown, and all
that may be shown if it names none of them. -/
def select (settings : VisibleColumns) (table : String) (wanted : List String) : List String :=
  let allowed := allowed settings table
  if wanted.isEmpty then allowed
  else if allowed.isEmpty then wanted
  else
    let picked := wanted.filter allowed.contains
    if picked.isEmpty then allowed else picked

/-- Whether a column may be shown. -/
def shows (settings : VisibleColumns) (table column : String) : Bool :=
  let allowed := allowed settings table
  allowed.isEmpty || allowed.contains column

end VisibleColumns

end SchemaRest
