/-!
# Handlers

The closed set of things an endpoint can do. Six of them serve one table each; five administer the
whole service. A handler fixes its method, the shape of its path, the permission it asks for, and
the name and number its database failures are reported under.
-/

namespace SchemaRest

inductive Handler where
  | list
  | getOne
  | update
  | delete
  | create
  | query
  | listTables
  | getTable
  | refresh
  | rawQuery
  | createTable
  deriving DecidableEq, Repr

namespace Handler

/-- The handlers registered for every table, in the order of registration. -/
def tableScoped : List Handler := [list, getOne, update, delete, create, query]

def administrative : List Handler := [listTables, getTable, refresh, rawQuery, createTable]

def all : List Handler := tableScoped ++ administrative

def isTableScoped (h : Handler) : Bool := tableScoped.contains h

def method : Handler → String
  | list | getOne | listTables | getTable => "GET"
  | update => "PUT"
  | delete => "DELETE"
  | create | query | refresh | rawQuery | createTable => "POST"

/-- The path pattern below the API root. -/
def path (table : String) : Handler → String
  | list | create => "/" ++ table
  | getOne | update | delete => "/" ++ table ++ "/:id"
  | query => "/" ++ table ++ "/query"
  | listTables => "/table"
  | getTable => "/table/:tableName"
  | refresh => "/zero-code/refresh"
  | rawQuery => "/zero-code/raw-query"
  | createTable => "/zero-code/table"

/-- What the handler does to a table, in a permission. -/
def action : Handler → String
  | list | getOne | query => "select"
  | create => "create"
  | update => "update"
  | delete => "delete"
  | listTables | getTable | refresh | rawQuery | createTable => "*"

/-- The permission of the administrative handlers. -/
def adminPermission : String := "*:*"

def permission (table : String) (h : Handler) : String :=
  if h.isTableScoped then table ++ ":" ++ h.action else adminPermission

/-- The name failures are reported under. -/
def name : Handler → String
  | list => "get_all"
  | getOne => "get_one_by_id"
  | create => "create"
  | update => "update_one_by_id"
  | delete => "delete_one_by_id"
  | query => "query"
  | listTables => "list_tables"
  | getTable => "get_full_table"
  | refresh => "refresh"
  | rawQuery => "raw_query"
  | createTable => "create_table"

/-- The number of a database failure inside the handler. -/
def errorCode : Handler → Nat
  | list => 500001
  | create => 500002
  | update => 500003
  | getOne => 500004
  | delete => 500005
  | query => 500006
  | rawQuery => 500007
  | createTable => 500008
  | listTables | getTable | refresh => 500101

end Handler

end SchemaRest
