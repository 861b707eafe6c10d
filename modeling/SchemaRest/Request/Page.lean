import SchemaRest.Sql.Select
import SchemaRest.Json.Decode
import SchemaRest.Request.Target

/-!
# Pages

The window of rows a request asks for. The query string is read first, with a value out of range
ignored; a request body may then replace each part. A page without a positive size is the whole
table.
-/

namespace SchemaRest

structure Page where
  enabled : Bool
  index : Nat
  /-- No size above zero means no limit. -/
  size : Int
  deriving DecidableEq, Repr

/-- What a request body says about the page. -/
structure PageOverride where
  enabled : Option Bool
  size : Option Int
  index : Option Int
  deriving DecidableEq, Repr

def PageOverride.fields : List (Decode.Field PageOverride) :=
  [Decode.defaulted "pagination" (Decode.optional Decode.boolean)
      fun v o => { o with enabled := v },
    Decode.defaulted "itemsPerPage" (Decode.optional Decode.signed64)
      fun v o => { o with size := v },
    Decode.defaulted "pageIndex" (Decode.optional Decode.signed64)
      fun v o => { o with index := v }]

def PageOverride.decode : Json → Decoded PageOverride :=
  Decode.record "PaginationOverride" PageOverride.fields ⟨none, none, none⟩

namespace Page

def first : Page := ⟨true, 0, 20⟩

def ofQuery (query : QueryString) : Page where
  enabled := query.lookup "pagination" != some "false"
  index := ((query.lookup "pageIndex").bind (Text.natUpTo? Text.maxU64)).getD first.index
  size := ((query.lookup "itemsPerPage").bind (Text.intBetween? 1 Text.maxI64)).getD first.size

/-- What the body says counts; an index below zero is the first page. -/
def override (p : Page) : Option PageOverride → Page
  | none => p
  | some o =>
    { enabled := o.enabled.getD p.enabled
      size := o.size.getD p.size
      index := (o.index.map Int.toNat).getD p.index }

def limit (p : Page) : Option Nat := if 0 < p.size then some p.size.toNat else none

/-- Rows before the page; an offset beyond 64 bits stays at the greatest. -/
def offset (p : Page) : Option Nat := p.limit.map fun n => min (n * p.index) Text.maxU64

/-- The query with the page as its window. -/
def window (p : Page) (q : Sql.Select) : Sql.Select :=
  { q with limit := p.limit, offset := p.offset }

/-- How many pages of a size hold all items; one page without a limit holds them all. -/
def total (items : Nat) (size : Int) : Nat :=
  if size ≤ 0 then (if items = 0 then 0 else 1)
  else (items + size.toNat - 1) / size.toNat

/-- The answer to a request for a page. -/
def result (p : Page) (items : List Json) (totalItems : Nat) : Json :=
  .ofFields [("items", .arr items), ("pageIndex", .nat p.index), ("itemsPerPage", .int p.size),
    ("totalItems", .nat totalItems), ("totalPages", .nat (total totalItems p.size))]

end Page

end SchemaRest
