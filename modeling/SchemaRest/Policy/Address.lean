import SchemaRest.Policy.Host

/-!
# Addresses of access services

An address is read with the freedom that people take in writing one: blanks around it, capitals in
the scheme and the host, backslashes, steps up the path, signs that need an escape. It is written in
one way only, and this is what messages show.

Addresses of `http` and `https` always have a host and a path. Those of other schemes may lack them;
they can be read and shown, but no request is made of them.
-/

namespace SchemaRest.Policy

/-- What follows the host. -/
inductive Path where
  /-- Each step after a slash; an empty last one is a final slash. -/
  | steps (all : List String)
  /-- A path without a slash in front, which is possible where there is no host. -/
  | plain (text : String)
  deriving DecidableEq, Repr

def Path.text : Path → String
  | .plain text => text
  | .steps all => String.join (all.map ("/" ++ ·))

structure Address where
  scheme : String
  /-- A user name and a password that are no text. All others are no part of the address. -/
  credentials : Option String
  /-- Empty where the slashes of a host stand without one. -/
  host : Option String
  /-- Left out where it is the usual one of the scheme. -/
  port : Option Nat
  path : Path
  query : Option String
  fragment : Option String
  deriving DecidableEq, Repr

namespace Address

/-! ## Escapes -/

def upperHex (n : Nat) : Char := (Text.hexDigit n).toUpper

def escapedByte (b : UInt8) : List Char := ['%', upperHex (b.toNat / 16), upperHex (b.toNat % 16)]

/-- Escapes control characters, everything outside ASCII and the characters of `special`. -/
def escaped (special : List Char) (cs : List Char) : String :=
  String.ofList (cs.flatMap fun c =>
    if c.toNat < 0x20 || 0x7E < c.toNat || special.contains c then
      (Target.bytesOf [c]).flatMap escapedByte
    else [c])

/-- What is escaped in the steps of a path. -/
def stepSigns : List Char := " \"#<>?\x60\x7b\x7d".toList

/-- What is escaped in user names and passwords. -/
def credentialSigns : List Char := stepSigns ++ "/:;=@[\\]^|".toList

/-! ## The scheme -/

/-- The scheme in lower case, and what follows its colon. -/
def scheme? (cs : List Char) : Option (String × List Char) := do
  let (scheme, rest) ← Text.cutChars ':' cs
  let first ← scheme.head?
  if first.isAlpha && scheme.all fun c => c.isAlphanum || c = '+' || c = '-' || c = '.' then
    some (String.ofList (scheme.map Char.toLower), rest)
  else none

/-- The port of an address that names none, for the schemes that requests can be made with. -/
def usualPort? (scheme : String) : Option Nat :=
  if scheme == "http" then some 80 else if scheme == "https" then some 443 else none

def isWeb (scheme : String) : Bool := (usualPort? scheme).isSome

/-- Whether a character ends what stands before the path. A backslash is a slash on the web. -/
def endsAuthority (web : Bool) (c : Char) : Bool :=
  c = '/' || c = '?' || c = '#' || (web && c = '\\')

/-! ## Credentials -/

def isText (cs : List Char) : Bool :=
  (Text.Utf8.strict? ⟨(Target.percentDecode (Target.bytesOf cs)).toArray⟩).isSome

/-- A user name and a password, both perhaps empty. -/
structure Credentials where
  user : List Char
  password : List Char

namespace Credentials

def isEmpty (c : Credentials) : Bool := c.user.isEmpty && c.password.isEmpty

/-- Whether the credentials can be sent apart from the address. -/
def isSent (c : Credentials) : Bool :=
  isText c.user && (!c.user.isEmpty || (!c.password.isEmpty && isText c.password))

def text (c : Credentials) : String :=
  escaped credentialSigns c.user ++
    (if c.password.isEmpty then "" else ":" ++ escaped credentialSigns c.password)

/-- What stays in the address. -/
def kept (c : Credentials) : Option String := if c.isEmpty || c.isSent then none else some c.text

end Credentials

/-- The credentials before the last `@` of what stands before the path, and the rest of the address.
Without any characters before the `@` there has to be a host. -/
def credentials? (web : Bool) (cs : List Char) : Option (Credentials × List Char) :=
  let authority := cs.takeWhile (!endsAuthority web ·)
  let host := (authority.reverse.takeWhile (· ≠ '@')).reverse
  if host.length = authority.length then some (⟨[], []⟩, cs)
  else
    let given := authority.take (authority.length - host.length - 1)
    let rest := cs.drop (given.length + 1)
    if given.isEmpty && host.isEmpty && !rest.isEmpty then none
    else
      let (user, password) := (Text.cutChars ':' given).getD (given, [])
      some (⟨user, password⟩, rest)

/-! ## Host and port -/

/-- The characters of the host: up to a colon outside brackets or the path. -/
def takeHost (web inBrackets : Bool) : List Char → List Char
  | [] => []
  | c :: rest =>
    if endsAuthority web c || (c = ':' && !inBrackets) then []
    else c :: takeHost web (c = '[' || (inBrackets && c ≠ ']')) rest

/-- A host of a scheme that is not of the web is any text but for some signs. -/
def plainHost? (cs : List Char) : Option String :=
  match cs with
  | '[' :: rest => Host.ofBrackets? rest
  | _ =>
    if cs.any fun c => c = '\x00' || " #/:<>?@[\\]^|".toList.contains c then none
    else some (escaped [] cs)

def host? (web : Bool) (cs : List Char) : Option String :=
  if web then Host.read? cs else plainHost? cs

/-- A port after a colon, the usual one left out, and what follows it. -/
def port? (scheme : String) (cs : List Char) : Option (Option Nat × List Char) :=
  match cs with
  | ':' :: cs =>
    let digits := cs.takeWhile Text.isDigit
    let rest := cs.drop digits.length
    if rest.head?.any (!endsAuthority true ·) then none
    else if digits.isEmpty then some (none, rest)
    else
      let n := Text.ofDigits digits
      if Text.maxU16 < n then none
      else some (if some n = usualPort? scheme then none else some n, rest)
  | cs => some (none, cs)

/-! ## Paths -/

/-- What a step is when escaped dots are read as dots. -/
def plainDots : List Char → List Char
  | '%' :: '2' :: 'e' :: rest => '.' :: plainDots rest
  | '%' :: '2' :: 'E' :: rest => '.' :: plainDots rest
  | c :: rest => c :: plainDots rest
  | [] => []

/-- Whether a step names a drive, such as `C:`. -/
def isDrive (step : String) : Bool :=
  match step.toList with
  | [letter, mark] => letter.isAlpha && (mark = ':' || mark = '|')
  | _ => false

/-- The steps without the last one. No step leads above a drive. -/
def up : (before : List String) → List String
  | [] => []
  | step :: before => if isDrive step then step :: before else before

/-- The steps without those that stay (`.`) and with those that lead up (`..`) carried out, onto
the steps before them, last first. -/
def walk (before : List String) : List (List Char) → List String
  | [] => before.reverse
  | step :: rest =>
    let leadsUp := plainDots step == ['.', '.']
    let stays := plainDots step == ['.']
    let before := if leadsUp then up before else before
    let step := if leadsUp || stays then "" else escaped stepSigns step
    if (leadsUp || stays) && !rest.isEmpty then walk before rest else walk (step :: before) rest

/-- The steps of a path after its first slash. -/
def stepsOf (cs : List Char) : Path := .steps (walk [] (Text.piecesFrom '/' [] cs))

/-! ## Reading and writing -/

/-- The text without what is ignored in an address. -/
def significant (text : String) : List Char :=
  let isEdge (c : Char) : Bool := c.toNat ≤ 0x20
  ((text.toList.dropWhile isEdge).reverse.dropWhile isEdge).reverse.filter fun c =>
    c ≠ '\t' && c ≠ '\n' && c ≠ '\r'

/-- An address with a query and a fragment, which stand at the end of `cs`. -/
def withTail (a : Address) (cs : List Char) : Address :=
  let query := cs.takeWhile (· ≠ '#')
  let fragment := cs.drop query.length
  let signs := if isWeb a.scheme then " \"#<>'" else " \"#<>"
  { a with
    query := if query.isEmpty then none else some (escaped signs.toList (query.drop 1))
    fragment := if fragment.isEmpty then none
      else some (escaped " \"<>\x60".toList (fragment.drop 1)) }

/-- The path at the front of a text, and what follows it. -/
def splitPath (cs : List Char) : List Char × List Char :=
  let path := cs.takeWhile fun c => c ≠ '?' && c ≠ '#'
  (path, cs.drop path.length)

/-- The path behind a host. On the web it has at least its first slash. -/
def pathOf (web : Bool) (cs : List Char) : Path :=
  if web then
    match cs.map fun c => if c = '\\' then '/' else c with
    | '/' :: rest => stepsOf rest
    | path => stepsOf path
  else
    match cs with
    | [] => .steps []
    | '/' :: rest => stepsOf rest
    | path => stepsOf path

/-- An address after the slashes that stand before its host. -/
def ofAuthority? (scheme : String) (cs : List Char) : Option Address := do
  let web := isWeb scheme
  let (credentials, cs) ← credentials? web cs
  let hostText := takeHost web false cs
  let cs := cs.drop hostText.length
  let host ← host? web hostText
  if host.isEmpty && (web || !credentials.isEmpty || cs.head? = some ':') then none
  let (port, cs) ← port? scheme cs
  let (path, tail) := splitPath cs
  some (withTail {
    scheme, host, port
    credentials := credentials.kept
    path := pathOf web path
    query := none
    fragment := none } tail)

/-- An address without a host. -/
def ofPath (scheme : String) (cs : List Char) : Address :=
  let (path, tail) := splitPath cs
  withTail {
    scheme
    credentials := none
    host := none
    port := none
    path := match path with
      | '/' :: rest => stepsOf rest
      | path => .plain (escaped [] path)
    query := none
    fragment := none } tail

def read? (text : String) : Option Address := do
  let (scheme, rest) ← scheme? (significant text)
  if isWeb scheme then ofAuthority? scheme (rest.dropWhile fun c => c = '/' || c = '\\')
  else match rest with
    | '/' :: '/' :: rest => ofAuthority? scheme rest
    | rest => some (ofPath scheme rest)

/-- What stands between the scheme and the path. Where there is no host, a path that would look like
one is kept from it by a step that stays. -/
def authorityText (a : Address) : String :=
  match a.host with
  | some host =>
    "//" ++ a.credentials.elim "" (· ++ "@") ++ host ++ a.port.elim "" fun n => ":" ++ Nat.repr n
  | none => if Text.startsWith "//" a.path.text then "/." else ""

def text (a : Address) : String :=
  a.scheme ++ ":" ++ a.authorityText ++ a.path.text ++ (a.query.elim "" ("?" ++ ·)) ++
    (a.fragment.elim "" ("#" ++ ·))

/-! ## Requests -/

/-- The longest address of a request, in bytes. -/
def longest : Nat := 65534

def hasHost (a : Address) : Bool := !(a.host.getD "").isEmpty

/-- Whether a request can be made of an address. -/
def isRequestable (a : Address) : Bool :=
  isWeb a.scheme && a.text.utf8ByteSize ≤ longest &&
    !(a.host.getD "").toList.any "\"\x60\x7b\x7d".toList.contains

end Address

end SchemaRest.Policy
