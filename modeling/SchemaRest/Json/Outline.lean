import SchemaRest.Json.Token

/-!
# Outlines and skipped values

An outline says which parts of a text are wanted. What is not wanted is skipped: it has to keep the
grammar, but it may be nested to any depth, its numbers may lie beyond the doubles, and its escapes
may name half a surrogate pair.
-/

namespace SchemaRest.Json

inductive Outline where
  | whole
  /-- Every field of an object, each in one outline. -/
  | entries (each : Outline)
  /-- The fields of some names; in an array, the items in the order of the fields. -/
  | record (fields : List (List String × Outline))

namespace Outline

/-- The outline of a field, if it is wanted. -/
def field? (key : String) : Outline → Option Outline
  | whole => some whole
  | entries each => some each
  | record fields => (fields.find? (·.1.contains key)).map (·.2)

/-- The outlines of the first items of an array; further ones are wanted whole. -/
def items : Outline → List Outline
  | record fields => fields.map (·.2)
  | _ => []

end Outline

/-! ## Skipping -/

/-- Goes past the closing quote of a string. -/
def skipString (state : StringState) : List Char → Option (List Char)
  | [] => none
  | c :: rest =>
    match state with
    | .plain =>
      if c = '"' then some rest
      else if c = '\\' then skipString .afterBackslash rest
      else if c.toNat < 0x20 then none
      else skipString .plain rest
    | .afterBackslash =>
      if c = 'u' then skipString (.hex 4 0) rest
      else if (simpleEscape? c).isSome then skipString .plain rest
      else none
    | .hex due value =>
      if (Text.hexValue? c).isNone then none
      else if 1 < due then skipString (.hex (due - 1) value) rest
      else skipString .plain rest

/-- Goes past a value that is no container. -/
def skipScalar : List Char → Option (List Char)
  | 'n' :: 'u' :: 'l' :: 'l' :: rest => some rest
  | 't' :: 'r' :: 'u' :: 'e' :: rest => some rest
  | 'f' :: 'a' :: 'l' :: 's' :: 'e' :: rest => some rest
  | '"' :: rest => skipString .plain rest
  | cs => (readNumeral cs).map (·.2)

inductive Container where
  | array
  | object
  deriving DecidableEq, Repr

/-- What has to come next while a value is skipped. -/
inductive Due where
  | value
  /-- The name of a field. -/
  | key
  /-- What follows a value inside its container. -/
  | next

/-- Goes past a value; `inside` holds the containers that are open, the innermost first. -/
def skipFrom : (fuel : Nat) → (inside : List Container) → Due → List Char → Option (List Char)
  | 0, _, _, _ => none
  | fuel + 1, inside, .value, cs =>
    match skipSpace cs with
    | '[' :: rest =>
      match skipSpace rest with
      | ']' :: rest => skipFrom fuel inside .next rest
      | rest => skipFrom fuel (.array :: inside) .value rest
    | '\x7b' :: rest =>
      match skipSpace rest with
      | '\x7d' :: rest => skipFrom fuel inside .next rest
      | rest => skipFrom fuel (.object :: inside) .key rest
    | cs =>
      match skipScalar cs with
      | some rest => skipFrom fuel inside .next rest
      | none => none
  | fuel + 1, inside, .key, cs =>
    match skipSpace cs with
    | '"' :: rest =>
      match skipString .plain rest with
      | none => none
      | some rest =>
        match skipSpace rest with
        | ':' :: rest => skipFrom fuel inside .value rest
        | _ => none
    | _ => none
  | _ + 1, [], .next, cs => some cs
  | fuel + 1, .array :: inside, .next, cs =>
    match skipSpace cs with
    | ',' :: rest => skipFrom fuel (.array :: inside) .value rest
    | ']' :: rest => skipFrom fuel inside .next rest
    | _ => none
  | fuel + 1, .object :: inside, .next, cs =>
    match skipSpace cs with
    | ',' :: rest => skipFrom fuel (.object :: inside) .key rest
    | '\x7d' :: rest => skipFrom fuel inside .next rest
    | _ => none

/-- Goes past a value after blanks. Every step but the last takes a character, so one unit of fuel
more than there are characters is enough. -/
def skipValue (fuel : Nat) (cs : List Char) : Option (List Char) := skipFrom fuel [] .value cs

end SchemaRest.Json
