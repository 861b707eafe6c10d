import Mathlib.Data.List.TakeWhile
import SchemaRest.Config.Loader
import SchemaRest.Proofs.Json.Records

/-!
# The database that an address names

Settings without a name of their own take the name of the database from its address. An address has a
scheme and an authority, then perhaps a path, a query and a fragment, and the name is what the path says.
`namedBy_of_address` says what is taken in its place, and that it is the path's name unless there is no
path and a slash stands further on.
-/

namespace SchemaRest.Settings

/-! ## Addresses -/

/-- The signs that a path, a query and a fragment start with. -/
def isOpening (c : Char) : Bool := c == '/' || c == '?' || c == '#'

/-- An address in its parts: the scheme, the authority, and what follows it. -/
structure DatabaseAddress where
  scheme : List Char
  authority : List Char
  rest : List Char
  scheme_plain : ∀ c ∈ scheme, isOpening c = false
  authority_plain : ∀ c ∈ authority, isOpening c = false
  rest_opens : ∀ c ∈ rest.head?, isOpening c = true

namespace DatabaseAddress

def text (a : DatabaseAddress) : String :=
  String.ofList (a.scheme ++ ([':', '/', '/'] ++ (a.authority ++ a.rest)))

/-- The text up to a query or a fragment, unless it is empty. -/
def nameIn? (cs : List Char) : Option String :=
  let name := cs.takeWhile fun c => c ≠ '?' && c ≠ '#'
  if name.isEmpty then none else some (String.ofList name)

/-- The name that the path says, without its first slash. -/
def named? (a : DatabaseAddress) : Option String :=
  match a.rest with
  | '/' :: path => nameIn? path
  | _ => none

/-- Where there is no path, what follows the first slash in the query or the fragment. -/
def stray? (a : DatabaseAddress) : Option String :=
  match a.rest with
  | '/' :: _ => none
  | rest => nameIn? ((rest.dropWhile (· ≠ '/')).drop 1)

/-- No mark starts before the first slash but right in front of it. -/
theorem afterFirst?_scheme {scheme : List Char} (h : ∀ c ∈ scheme, isOpening c = false) (cs : List Char) :
    Text.afterFirst? [':', '/', '/'] (scheme ++ ([':', '/', '/'] ++ cs)) = some cs := by
  induction scheme with
  | nil => simp [Text.afterFirst?, List.isPrefixOf?]
  | cons c scheme ih =>
    obtain ⟨hc, hscheme⟩ := List.forall_mem_cons.mp h
    have hnone : [':', '/', '/'].isPrefixOf? (c :: (scheme ++ ([':', '/', '/'] ++ cs))) = none := by
      cases scheme with
      | nil => simp [List.isPrefixOf?]
      | cons d scheme =>
        have hd : isOpening d = false := hscheme d List.mem_cons_self
        have hslash : '/' ≠ d := by
          rintro rfl
          cases hd
        simp [List.isPrefixOf?, hslash]
    rw [List.cons_append, Text.afterFirst?, hnone]
    exact ih hscheme

theorem databaseOfUrl?_text (a : DatabaseAddress) : databaseOfUrl? a.text = a.named?.or a.stray? := by
  have hauthority : ∀ c ∈ a.authority, decide (c ≠ '/') = true := by
    intro c hc
    have hplain := a.authority_plain c hc
    simp only [isOpening, Bool.or_eq_false_iff, beq_eq_false_iff_ne] at hplain
    simp [hplain.1.1]
  have hread : databaseOfUrl? a.text = nameIn? ((a.rest.dropWhile (· ≠ '/')).drop 1) := by
    simp only [databaseOfUrl?, text, String.toList_ofList, afterFirst?_scheme a.scheme_plain,
      Option.getD_some, List.dropWhile_append_of_pos hauthority, nameIn?]
  rw [hread, named?, stray?]
  split
  · next path hrest => simp [hrest]
  · rfl

end DatabaseAddress

/-! ## What is missing -/

/-- Does not fail for want of a name of the database. -/
def Unblaming {α : Type} (r : Except SettingsError α) : Prop := r ≠ .error (.missing "DATABASE_NAME")

namespace Unblaming

variable {α β : Type}

theorem ok (a : α) : Unblaming (.ok a) := by
  intro h
  cases h

theorem error {e : SettingsError} (h : e ≠ .missing "DATABASE_NAME") :
    Unblaming (.error e : Except SettingsError α) := fun heq => h (Except.error.inj heq)

theorem bind {r : Except SettingsError α} {f : α → Except SettingsError β} (hr : Unblaming r)
    (hf : ∀ a, Unblaming (f a)) : Unblaming (r >>= f) := by
  cases r with
  | error e => exact error fun h => hr (congrArg Except.error h)
  | ok a => exact hf a

theorem require {s : Sources} {key : String} (h : key ≠ "DATABASE_NAME") : Unblaming (s.require key) := by
  unfold Sources.require
  split
  · exact ok _
  · exact error (by simpa using h)

theorem read {s : Sources} {key : String} {r : String → Option α} {problem : String} {default : α} :
    Unblaming (s.read key r problem default) := by
  unfold Sources.read
  split
  · exact ok _
  · split
    · exact ok _
    · exact error (by simp)

theorem decodeFile {s : Sources} {name : String} {outline : Json.Outline} {decode : Json → Decoded α} :
    Unblaming (s.decodeFile name outline decode) := by
  unfold Sources.decodeFile Sources.file
  cases s.files.lookup name with
  | none => exact error (by simp)
  | some text =>
    dsimp only
    split
    · exact ok _
    · exact error (by simp)

theorem loadVisible (s : Sources) : Unblaming (loadVisible s) := by
  unfold Settings.loadVisible
  split
  · exact ok _
  · exact decodeFile

theorem loadSecurity (s : Sources) : Unblaming (loadSecurity s) := by
  unfold Settings.loadSecurity
  dsimp only
  split
  · exact ok _
  split
  · exact bind (require (by simp)) fun _ => ok _
  split
  · exact bind (require (by simp)) fun _ => bind decodeFile fun _ => ok _
  · exact error (by simp)

theorem checkSecurity (security : Security) : Unblaming (checkSecurity security) := by
  unfold Settings.checkSecurity
  split
  · exact ok _
  · split
    · exact ok _
    · exact error (by simp)
  · split
    · exact error (by simp)
    · split
      · exact error (by simp)
      · exact ok _

theorem checkVisible (visible : VisibleColumns) : Unblaming (checkVisible visible) := by
  unfold Settings.checkVisible
  split
  · exact error (by simp)
  · exact ok _

/-- A check in front of what comes next. -/
theorem guard {p : Prop} [Decidable p] {e : SettingsError} {k : Except SettingsError α}
    (he : e ≠ .missing "DATABASE_NAME") (hk : Unblaming k) :
    Unblaming (if p then (.error e : Except SettingsError PUnit) >>= fun _ => k else k) := by
  split
  · exact bind (error he) fun _ => hk
  · exact hk

theorem check (t : Settings) : Unblaming t.check :=
  guard (by simp) <| guard (by simp) <| guard (by simp) <|
    bind (checkSecurity _) fun _ => checkVisible _

theorem load {s : Sources} (h : ∀ url, Unblaming (loadDatabase s url)) : Unblaming (load s) := by
  have hgather : Unblaming (gather s) :=
    bind (require (by simp)) fun url => bind (h url) fun _ => bind read fun _ => bind read fun _ =>
      bind read fun _ => bind (loadVisible s) fun _ => bind (loadSecurity s) fun _ => ok _
  exact bind hgather fun t => bind (check t) fun _ => ok t

end Unblaming

/-! ## What is taken -/

/-- The same texts, and a name for the database. -/
def Sources.naming (s : Sources) (name : String) : Sources :=
  { s with texts := ("DATABASE_NAME", name) :: s.texts }

section

variable (s : Sources) (name : String)

theorem get?_naming_other (key : String) (h : key ≠ "DATABASE_NAME") :
    (s.naming name).get? key = s.get? key := by
  simp [Sources.get?, Sources.naming, List.lookup_cons, beq_eq_false_iff_ne.mpr h]

theorem require_naming (key : String) (h : key ≠ "DATABASE_NAME") :
    (s.naming name).require key = s.require key := by
  rw [Sources.require, Sources.require, get?_naming_other s name key h]

theorem read_naming {α : Type} (key : String) (h : key ≠ "DATABASE_NAME") (r : String → Option α)
    (problem : String) (default : α) :
    (s.naming name).read key r problem default = s.read key r problem default := by
  rw [Sources.read, Sources.read, get?_naming_other s name key h]

theorem loadVisible_naming : loadVisible (s.naming name) = loadVisible s := by
  rw [loadVisible, loadVisible, get?_naming_other s name "TABLE_SETTINGS_PATH" (by simp)]
  rfl

theorem loadSecurity_naming : loadSecurity (s.naming name) = loadSecurity s := by
  have hfile {α : Type} (file : String) (outline : Json.Outline) (decode : Json → Decoded α) :
      (s.naming name).decodeFile file outline decode = s.decodeFile file outline decode := rfl
  have hget := get?_naming_other s name
  simp only [loadSecurity, hfile, hget "SECURITY_MODE" (by simp),
    hget "SECURITY_APP_IDENTIFIER" (by simp), require_naming s name "SECURITY_ENDPOINT" (by simp),
    require_naming s name "SECURITY_CONFIG_PATH" (by simp)]

end

variable {s : Sources} {url name other : String}

theorem loadDatabase_naming (h : Text.trimmed? other = some other) :
    loadDatabase (s.naming other) url = .ok other := by
  have hget : (s.naming other).get? "DATABASE_NAME" = some other := by
    simpa [Sources.get?, Sources.naming] using h
  rw [loadDatabase, hget]

/-- All but the name is read as it is with another name. -/
theorem gather_naming (hurl : s.require "DATABASE_URL" = .ok url) (hname : loadDatabase s url = .ok name)
    (hother : Text.trimmed? other = some other) :
    gather s = (gather (s.naming other)).map fun t => { t with database := name } := by
  have hurl' : (s.naming other).require "DATABASE_URL" = .ok url := by
    rw [require_naming s other "DATABASE_URL" (by simp), hurl]
  have hname' : loadDatabase (s.naming other) url = .ok other := loadDatabase_naming hother
  have hget := get?_naming_other s other
  simp only [gather, hurl, hurl', bind, Except.bind, hname, hname', loadVisible_naming, loadSecurity_naming,
    read_naming s other "PORT" (by simp), read_naming s other "DATABASE_MAX_CONNECTIONS" (by simp),
    read_naming s other "HIDE_SYSTEM_TABLES" (by simp),
    hget "DATABASE_CLIENT" (by simp), hget "SYSTEM_TABLE_PREFIX" (by simp), hget "API_ROOT" (by simp),
    hget "DOCS_CONTACT_EMAIL" (by simp), hget "DOCS_CONTACT_NAME" (by simp),
    hget "DOCS_CONTACT_URL" (by simp)]
  cases s.read "PORT" (Text.natUpTo? Text.maxU16) "a port number" 2000 with
  | error e => rfl
  | ok port =>
  cases s.read "DATABASE_MAX_CONNECTIONS" (Text.natUpTo? Text.maxU32) "a positive integer" 5 with
  | error e => rfl
  | ok connections =>
  cases s.read "HIDE_SYSTEM_TABLES" readTruth? "a boolean" false with
  | error e => rfl
  | ok hide =>
  cases loadVisible s with
  | error e => rfl
  | ok visible =>
  cases loadSecurity s with
  | error e => rfl
  | ok security => simp only [pure, Except.pure, Except.map]

theorem load_naming (hurl : s.require "DATABASE_URL" = .ok url) (hname : loadDatabase s url = .ok name)
    (hother : Text.trimmed? other = some other) :
    load s = (load (s.naming other)).map fun t => { t with database := name } := by
  rw [load, load, gather_naming hurl hname hother]
  cases gather (s.naming other) with
  | error e => rfl
  | ok t =>
    have hcheck : ({ t with database := name } : Settings).check = t.check := by
      simp only [Settings.check]
    simp only [Except.map, bind, Except.bind, hcheck]
    cases t.check with
    | error e => rfl
    | ok u => rfl

/-! ## Names from addresses -/

/-- The database takes its name from `name?`: without one it is missing, with one it is the name in whatever
settings are loaded, and all else is as if another name had been given. -/
structure NamedBy (s : Sources) (name? : Option String) : Prop where
  missing_iff : load s = .error (.missing "DATABASE_NAME") ↔ name? = none
  database : ∀ t, load s = .ok t → name? = some t.database
  taken : ∀ name, name? = some name → ∀ other, Text.trimmed? other = some other →
    load s = (load (s.naming other)).map fun t => { t with database := name }

theorem namedBy_of_taken {name? : Option String}
    (hmissing : load s = .error (.missing "DATABASE_NAME") ↔ name? = none)
    (htaken : ∀ name, name? = some name → ∀ other, Text.trimmed? other = some other →
      load s = (load (s.naming other)).map fun t => { t with database := name }) : NamedBy s name? where
  missing_iff := hmissing
  taken := htaken
  database t ht := by
    cases name? with
    | none => cases ht.symm.trans (hmissing.mpr rfl)
    | some name =>
      rw [htaken name rfl "x" (by decide)] at ht
      obtain ⟨u, -, rfl⟩ := map_eq_ok ht
      rfl

variable {a : DatabaseAddress}

theorem namedBy_read (hurl : s.get? "DATABASE_URL" = some a.text) (hname : s.get? "DATABASE_NAME" = none) :
    NamedBy s (a.named?.or a.stray?) := by
  have hrequire : s.require "DATABASE_URL" = .ok a.text := by rw [Sources.require, hurl]
  cases hnames : a.named?.or a.stray? with
  | none =>
    have hread : loadDatabase s a.text = .error (.missing "DATABASE_NAME") := by
      simp only [loadDatabase, hname, a.databaseOfUrl?_text, hnames]
    have hload : load s = .error (.missing "DATABASE_NAME") := by
      rw [load, gather, hrequire]
      change (loadDatabase s a.text >>= _) >>= _ = _
      rw [hread]
      rfl
    exact namedBy_of_taken (iff_of_true hload rfl) fun _ h => by cases h
  | some name =>
    have hread : loadDatabase s a.text = .ok name := by
      simp only [loadDatabase, hname, a.databaseOfUrl?_text, hnames]
    have hnaming (other : String) (h : Text.trimmed? other = some other) := load_naming hrequire hread h
    refine namedBy_of_taken (iff_of_false (fun hmissing => ?_) (by simp)) ?_
    · have hother : Text.trimmed? "x" = some "x" := by decide
      have hload : Unblaming (load (s.naming "x")) := .load fun _ => by
        rw [loadDatabase_naming hother]
        exact .ok _
      rw [hnaming "x" hother] at hmissing
      cases h : load (s.naming "x") with
      | error e =>
        rw [h] at hmissing
        cases hmissing
        exact hload h
      | ok t =>
        rw [h] at hmissing
        cases hmissing
    · rintro _ ⟨⟩ other hother
      exact hnaming other hother

/-- Settings without a name for the database take it from the address: the name that the path says, and
for an address without a path what follows a slash further on. So it is the name of the path just where
nothing is found further on. -/
theorem namedBy_of_address (hurl : s.get? "DATABASE_URL" = some a.text)
    (hname : s.get? "DATABASE_NAME" = none) :
    NamedBy s (a.named?.or a.stray?) ∧ (NamedBy s a.named? ↔ a.stray? = none) := by
  have hread := namedBy_read hurl hname
  refine ⟨hread, fun h => ?_, fun h => by simpa [h] using hread⟩
  have hmissing : a.named? = none ↔ a.named?.or a.stray? = none := h.missing_iff.symm.trans hread.missing_iff
  cases hnamed : a.named? with
  | none => simpa [hnamed] using hmissing
  | some name =>
    unfold DatabaseAddress.named? at hnamed
    unfold DatabaseAddress.stray?
    split at hnamed
    · rfl
    · cases hnamed

/-- An address and nothing else. -/
def Sources.address (text : String) : Sources := ⟨[("DATABASE_URL", text)], []⟩

/-- An address with a path, and with a slash in its query too. -/
def shopAddress : DatabaseAddress where
  scheme := "mysql".toList
  authority := "u:p@h:3306".toList
  rest := "/shop?ssl-ca=/etc/ca.pem".toList
  scheme_plain := by simp [isOpening]
  authority_plain := by simp [isOpening]
  rest_opens := by simp [isOpening]

theorem namedBy_shopAddress :
    (Sources.address shopAddress.text).get? "DATABASE_URL" = some shopAddress.text ∧
      (Sources.address shopAddress.text).get? "DATABASE_NAME" = none ∧
      shopAddress.named? = some "shop" ∧ NamedBy (.address shopAddress.text) (some "shop") ∧
      (load (.address shopAddress.text)).toOption.map Settings.database = some "shop" := by
  have hurl : (Sources.address shopAddress.text).get? "DATABASE_URL" = some shopAddress.text := by decide
  have hname : (Sources.address shopAddress.text).get? "DATABASE_NAME" = none := by decide
  have hnamed : shopAddress.named? = some "shop" := by decide
  have hnamedBy := (namedBy_of_address hurl hname).2.mpr rfl
  exact ⟨hurl, hname, hnamed, hnamed ▸ hnamedBy, by decide +kernel⟩

/-- An address without a path, and with a slash in its query. -/
def socketAddress : DatabaseAddress where
  scheme := "mysql".toList
  authority := "localhost".toList
  rest := "?socket=/tmp/mysql.sock".toList
  scheme_plain := by simp [isOpening]
  authority_plain := by simp [isOpening]
  rest_opens := by simp [isOpening]

/-- A file named in the query becomes the name of the database. -/
theorem socketAddress_misnamed :
    socketAddress.text = "mysql://localhost?socket=/tmp/mysql.sock" ∧
      (Sources.address socketAddress.text).get? "DATABASE_URL" = some socketAddress.text ∧
      (Sources.address socketAddress.text).get? "DATABASE_NAME" = none ∧ socketAddress.named? = none ∧
      ¬ NamedBy (.address socketAddress.text) socketAddress.named? ∧
      (load (.address socketAddress.text)).toOption.map Settings.database = some "tmp/mysql.sock" := by
  have hload : (load (.address socketAddress.text)).toOption.map Settings.database =
      some "tmp/mysql.sock" := by decide +kernel
  refine ⟨by decide, by decide, by decide, rfl, fun h => ?_, hload⟩
  rw [h.missing_iff.mpr rfl] at hload
  cases hload

end SchemaRest.Settings
