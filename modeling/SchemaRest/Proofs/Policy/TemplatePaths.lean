import SchemaRest.Proofs.Json.Pointer
import SchemaRest.Proofs.Policy.Answers
import SchemaRest.Proofs.Sql.Numeral

/-!
# Paths in templates

A template names a part of a value by segments behind `$.`, each later one after a point or in brackets.
The path is turned into the text of a pointer, and a pointer is a text of its own grammar: in its steps
`~1` is a slash, and then `~0` a tilde. `addresses_of_segments` says that both readings cancel out
whatever the segments are, so that a path addresses what its segments lead to, by the keys of objects and by
the indexes of arrays.
-/

namespace SchemaRest.Json

/-! ## Pointers -/

/-- Each `a` with a `b` behind it becomes `c`, from left to right. -/
def replacePair (a b c : Char) : List Char → List Char
  | x :: y :: rest =>
    if x = a ∧ y = b then c :: replacePair a b c rest else x :: replacePair a b c (y :: rest)
  | cs => cs

/-- A step as a pointer says it. -/
def unescapedStep (piece : List Char) : String :=
  String.ofList (replacePair '~' '0' '~' (replacePair '~' '1' '/' piece))

/-- The value at a pointer: the whole for the empty text, or what the steps behind the slashes lead to. -/
def atPointer? (v : Json) (pointer : String) : Option Json :=
  match pointer.toList with
  | [] => some v
  | '/' :: cs => v.at? ((Text.piecesFrom '/' [] cs).map unescapedStep)
  | _ => none

section

variable {a b c x : Char}

theorem replacePair_cons (h : x ≠ a) (cs : List Char) :
    replacePair a b c (x :: cs) = x :: replacePair a b c cs := by
  cases cs with
  | nil => simp [replacePair]
  | cons y cs => simp [replacePair, h]

theorem replacePair_pair (cs : List Char) :
    replacePair a b c (a :: b :: cs) = c :: replacePair a b c cs := by
  simp [replacePair]

theorem replacePair_miss {y : Char} (h : y ≠ b) (cs : List Char) :
    replacePair a b c (a :: y :: cs) = a :: replacePair a b c (y :: cs) := by
  simp [replacePair, h]

end

/-- How a character is written where slashes stand for themselves. -/
def tildeEscaped (c : Char) : List Char := if c = '~' then ['~', '0'] else [c]

/-- Once the slashes are back the tildes are still escaped, and no slash comes out of them. -/
theorem replacePair_slashes (cs : List Char) :
    replacePair '~' '1' '/' (cs.flatMap escapedChar) = cs.flatMap tildeEscaped := by
  induction cs with
  | nil => rfl
  | cons c cs ih =>
    rw [List.flatMap_cons, List.flatMap_cons]
    by_cases htilde : c = '~'
    · subst htilde
      change replacePair '~' '1' '/' ('~' :: '0' :: cs.flatMap escapedChar) = '~' :: '0' :: _
      rw [replacePair_miss (by decide), replacePair_cons (by decide), ih]
      rfl
    by_cases hslash : c = '/'
    · subst hslash
      change replacePair '~' '1' '/' ('~' :: '1' :: cs.flatMap escapedChar) = '/' :: _
      rw [replacePair_pair, ih]
      rfl
    · have hescaped : escapedChar c = [c] := by simp [escapedChar, htilde, hslash]
      have hplain : tildeEscaped c = [c] := by simp [tildeEscaped, htilde]
      rw [hescaped, hplain, List.singleton_append, replacePair_cons htilde, ih, List.singleton_append]

theorem replacePair_tildes (cs : List Char) :
    replacePair '~' '0' '~' (cs.flatMap tildeEscaped) = cs := by
  induction cs with
  | nil => rfl
  | cons c cs ih =>
    rw [List.flatMap_cons]
    by_cases htilde : c = '~'
    · subst htilde
      change replacePair '~' '0' '~' ('~' :: '0' :: cs.flatMap tildeEscaped) = _
      rw [replacePair_pair, ih]
    · have hplain : tildeEscaped c = [c] := by simp [tildeEscaped, htilde]
      rw [hplain, List.singleton_append, replacePair_cons htilde, ih]

/-- A pointer says the steps that it was written for. -/
theorem unescapedStep_escapedStep (step : String) : unescapedStep (escapedStep step).toList = step := by
  rw [unescapedStep, toList_escapedStep, replacePair_slashes, replacePair_tildes, String.ofList_toList]

theorem atPointer?_pointer (v : Json) (steps : List String) :
    v.atPointer? (pointer steps) = v.at? steps := by
  cases steps with
  | nil => rfl
  | cons step steps =>
    have hpieces := pieces_pointer step steps
    have htext : (pointer (step :: steps)).toList =
        '/' :: ((escapedStep step).toList ++ (pointer steps).toList) := by
      rw [toList_pointer, List.flatMap_cons, ← toList_pointer, List.cons_append]
    have hsteps : ((step :: steps).map fun s => (escapedStep s).toList).map unescapedStep = step :: steps := by
      rw [List.map_map]
      exact List.map_id''  unescapedStep_escapedStep _
    rw [atPointer?, htext]
    change v.at? ((Text.piecesFrom '/' [] _).map unescapedStep) = _
    rw [hpieces, hsteps]

/-- A path finds what the pointer it is turned into is at. -/
theorem atPath?_eq_atPointer? (v : Json) (path : String) :
    v.atPath? path = ((pathSteps? path).map pointer).bind v.atPointer? := by
  rw [atPath?, Option.bind_map]
  congr 1
  funext steps
  exact (atPointer?_pointer v steps).symm

/-! ## Indexes -/

/-- An index is read from digits alone, without a needless zero in front. -/
theorem index?_eq (step : String) :
    index? step = if step.toList.head? = some '0' ∧ step.toList.length ≠ 1 then none
      else (Text.digits? step.toList).filter (· ≤ Text.maxU64) := by
  have hsigns : "+".toList = ['+'] ∧ "0".toList = ['0'] := ⟨rfl, rfl⟩
  unfold index? Text.startsWith Text.natUpTo?
  rw [hsigns.1, hsigns.2, ← String.length_toList]
  cases step.toList with
  | nil => rfl
  | cons c cs =>
    by_cases hplus : c = '+'
    · subst hplus
      rfl
    · by_cases hzero : c = '0'
      · simp [hzero]
      · simp [hplus, hzero, Ne.symm hplus, Ne.symm hzero]

/-- An index has one spelling, without a sign and without leading zeros. -/
theorem index?_eq_some_iff {step : String} {i : Nat} :
    index? step = some i ↔ step = toString i ∧ i ≤ Text.maxU64 := by
  have hmax : ∀ {cs n}, (Text.digits? cs).filter (· ≤ Text.maxU64) = some n ↔
      Text.digits? cs = some n ∧ n ≤ Text.maxU64 := by simp
  rw [index?_eq]
  constructor
  · intro h
    split at h
    · cases h
    next hzero =>
    obtain ⟨hread, hi⟩ := hmax.mp h
    obtain ⟨hne, hdigits⟩ := Sql.digits_of_digits? hread
    have hvalue : Text.ofDigits step.toList = i := by
      unfold Text.digits? at hread
      split at hread
      · exact Option.some.inj hread
      · cases hread
    have htext := Sql.toDigits_ofDigits hdigits hne fun h => by_contra fun hlength => hzero ⟨h, hlength⟩
    refine ⟨?_, hi⟩
    rw [← String.toList_inj, ← htext, hvalue]
    exact (Nat.toList_repr).symm
  · rintro ⟨rfl, hi⟩
    have htext : (toString i).toList = Nat.toDigits 10 i := Nat.toList_repr
    have hzero : ¬ ((toString i).toList.head? = some '0' ∧ (toString i).toList.length ≠ 1) := by
      rintro ⟨hhead, hlength⟩
      rw [htext] at hhead hlength
      by_cases hi : i = 0
      · simp [hi] at hlength
      · exact Sql.head?_toDigits (by omega) hhead
    rw [if_neg hzero]
    exact hmax.mpr ⟨Sql.digits?_repr i, hi⟩

/-! ## Paths -/

/-- A segment of a path: some text without the signs that segments stand between. -/
structure IsSegment (segment : String) : Prop where
  nonempty : segment ≠ ""
  noPoint : '.' ∉ segment.toList
  noOpen : '[' ∉ segment.toList
  noClose : ']' ∉ segment.toList

instance (segment : String) : Decidable (IsSegment segment) :=
  decidable_of_iff (segment ≠ "" ∧ '.' ∉ segment.toList ∧ '[' ∉ segment.toList ∧ ']' ∉ segment.toList)
    ⟨fun ⟨h, hpoint, hopen, hclose⟩ => ⟨h, hpoint, hopen, hclose⟩,
      fun ⟨h, hpoint, hopen, hclose⟩ => ⟨h, hpoint, hopen, hclose⟩⟩

/-- A segment behind the first one: after a point or in brackets. -/
inductive Later where
  | dotted (segment : String)
  | bracketed (segment : String)

namespace Later

def segment : Later → String
  | dotted segment | bracketed segment => segment

def text : Later → String
  | dotted segment => "." ++ segment
  | bracketed segment => "[" ++ segment ++ "]"

end Later

/-- A path in writing. -/
def pathText (first : String) (later : List Later) : String :=
  "$." ++ (first ++ String.join (later.map Later.text))

/-- How segments are told apart: no closing bracket, and a point for every opening one. -/
def normalized (cs : List Char) : List Char := (cs.filter (· ≠ ']')).map fun c => if c = '[' then '.' else c

theorem normalized_append (cs ds : List Char) : normalized (cs ++ ds) = normalized cs ++ normalized ds := by
  simp [normalized]

theorem normalized_flatMap {α : Type} (l : List α) (f : α → List Char) :
    normalized (l.flatMap f) = l.flatMap fun a => normalized (f a) := by
  simp [normalized, List.filter_flatMap, List.map_flatMap]

theorem IsSegment.normalized_eq {segment : String} (h : IsSegment segment) :
    normalized segment.toList = segment.toList := by
  have hfilter : segment.toList.filter (· ≠ ']') = segment.toList := by
    refine List.filter_eq_self.mpr fun c hc => ?_
    simpa using ne_of_mem_of_not_mem hc h.noClose
  have hmap : ∀ c ∈ segment.toList, (if c = '[' then '.' else c) = c := fun c hc =>
    if_neg (ne_of_mem_of_not_mem hc h.noOpen)
  rw [normalized, hfilter, List.map_congr_left hmap, List.map_id']

theorem Later.normalized_text {l : Later} (h : IsSegment l.segment) :
    normalized l.text.toList = '.' :: l.segment.toList := by
  have hsegment := h.normalized_eq
  cases l with
  | dotted segment =>
    simp only [Later.segment] at hsegment
    rw [text, String.toList_append, normalized_append, hsegment]
    rfl
  | bracketed segment =>
    simp only [Later.segment] at hsegment
    rw [text, String.toList_append, String.toList_append, normalized_append, normalized_append, hsegment]
    exact List.append_nil _

/-- The steps of a path are its segments. -/
theorem pathSteps?_pathText {first : String} {later : List Later}
    (h : ∀ segment ∈ first :: later.map Later.segment, IsSegment segment) :
    pathSteps? (pathText first later) = some (first :: later.map Later.segment) := by
  have hlater : ∀ l ∈ later, IsSegment l.segment := fun l hl =>
    h _ (List.mem_cons_of_mem _ (List.mem_map_of_mem hl))
  have hnormalized : normalized (first ++ String.join (later.map Later.text)).toList =
      first.toList ++ (later.map fun l => l.segment.toList).flatMap ('.' :: ·) := by
    rw [String.toList_append, normalized_append, (h first List.mem_cons_self).normalized_eq, String.toList_join,
      List.flatMap_map, List.flatMap_map, normalized_flatMap]
    congr 1
    exact List.flatMap_congr fun l hl => l.normalized_text (hlater l hl)
  have htexts : (first :: later.map Later.segment).map String.toList =
      first.toList :: later.map fun l => l.segment.toList := by simp
  have hpoint : ∀ piece ∈ (first :: later.map Later.segment).map String.toList, '.' ∉ piece := by
    intro piece hpiece
    obtain ⟨segment, hsegment, rfl⟩ := List.mem_map.mp hpiece
    exact (h segment hsegment).noPoint
  have hkept : ((first :: later.map Later.segment).map String.toList).filter (!·.isEmpty) =
      (first :: later.map Later.segment).map String.toList := by
    refine List.filter_eq_self.mpr fun piece hpiece => ?_
    obtain ⟨segment, hsegment, rfl⟩ := List.mem_map.mp hpiece
    simpa using (h segment hsegment).nonempty
  have hpieces := Text.piecesFrom_flatMap (htexts ▸ hpoint)
  rw [pathSteps?, pathText, Text.after?_eq_some_iff.mpr rfl, Option.map_some]
  change some (((Text.piecesFrom '.' [] (normalized _)).filter _).map _) = _
  rw [hnormalized, hpieces, ← htexts, hkept, List.map_map]
  simp

/-- With a point between segments. -/
theorem pathText_dotted (first : String) (rest : List String) :
    pathText first (rest.map .dotted) = "$." ++ Text.joined "." (first :: rest) := by
  have hrest (first : String) : first.toList ++ rest.flatMap (fun s => '.' :: s.toList) =
      ['.'].intercalate ((first :: rest).map String.toList) := by
    induction rest generalizing first with
    | nil => simp
    | cons next rest ih => simpa [List.intercalate_cons_cons] using ih next
  have hdotted (l : String) : (Later.dotted l).text.toList = '.' :: l.toList := by
    rw [Later.text, String.toList_append]
    rfl
  rw [pathText, ← String.toList_inj, Text.joined, String.toList_append, String.toList_append,
    String.toList_append, String.toList_intercalate, String.toList_join, List.flatMap_map, List.flatMap_map]
  simp only [hdotted, hrest]
  rfl

/-- A path is as good as its segments: it finds what they lead to, by the text of a pointer, and a test of an
answer at the path passes where they lead to the expected value. -/
structure Addresses (path : String) (segments : List String) : Prop where
  found : ∀ v found : Json, v.atPath? path = some found ↔ v.Leads segments found
  byPointer : ∀ v : Json, v.atPath? path = ((pathSteps? path).map pointer).bind v.atPointer?
  tested : ∀ (t : AnswerTest) (v : Json), t.path = path → (Policy.testPassed t v = true ↔ Policy.Finds segments t.value v)

theorem addresses_of_steps {path : String} {segments : List String} (h : pathSteps? path = some segments) :
    Addresses path segments where
  found v found := by rw [atPath?, h, Option.bind_some, at?_eq_some_iff]
  byPointer v := v.atPath?_eq_atPointer? path
  tested t v hpath := Policy.testPassed_iff (hpath ▸ h)

/-- Segments lead from a value to the same place however they are written behind one another: with points
alone, or some of the later ones in brackets. An index among them is a numeral in its only spelling. What
does not start as a path leads nowhere. -/
theorem addresses_of_segments {first : String} {later : List Later}
    (h : ∀ segment ∈ first :: later.map Later.segment, IsSegment segment) :
    Addresses ("$." ++ Text.joined "." (first :: later.map Later.segment))
        (first :: later.map Later.segment) ∧
      Addresses (pathText first later) (first :: later.map Later.segment) ∧
      (∀ step i, index? step = some i ↔ step = toString i ∧ i ≤ Text.maxU64) ∧
      ∀ (v : Json) (path : String), Text.startsWith "$." path = false → v.atPath? path = none := by
  have hdotted : ((later.map Later.segment).map Later.dotted).map Later.segment =
      later.map Later.segment := by simp [Later.segment, Function.comp_def]
  have hsteps : pathSteps? (pathText first ((later.map Later.segment).map .dotted)) =
      some (first :: later.map Later.segment) := by
    rw [pathSteps?_pathText (by rwa [hdotted]), hdotted]
  rw [pathText_dotted] at hsteps
  refine ⟨addresses_of_steps hsteps, addresses_of_steps (pathSteps?_pathText h), ?_, ?_⟩
  · exact fun step i => index?_eq_some_iff
  · intro v path hpath
    rw [atPath?, pathSteps?, Text.after?_eq_none_iff.mpr hpath]
    rfl

/-- A key with a slash and the escape of one in it, then an index in brackets. -/
theorem addresses_slashes :
    (∀ segment ∈ "a/~1b" :: [Later.bracketed "1", .dotted "ok"].map Later.segment, IsSegment segment) ∧
      pathText "a/~1b" [.bracketed "1", .dotted "ok"] = "$.a/~1b[1].ok" ∧
      Addresses "$.a/~1b.1.ok" ["a/~1b", "1", "ok"] ∧ Addresses "$.a/~1b[1].ok" ["a/~1b", "1", "ok"] := by
  have hsegments : ∀ segment ∈ "a/~1b" :: [Later.bracketed "1", .dotted "ok"].map Later.segment,
      IsSegment segment := by decide
  obtain ⟨hdotted, htext, -⟩ := addresses_of_segments hsegments
  exact ⟨hsegments, by decide, hdotted, htext⟩

end SchemaRest.Json
