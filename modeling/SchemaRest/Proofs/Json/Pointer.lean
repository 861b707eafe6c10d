import SchemaRest.Json.Path
import SchemaRest.Proofs.Text.Split
import SchemaRest.Proofs.Text.Utf8
import SchemaRest.Request.Target

/-!
# References into a value

A reader of references that stay inside a value: a number sign, then the percent-encoded text of a
pointer. A pointer has a slash before every step, and inside a step `~1` stands for a slash and `~0`
for a tilde. Reading the pointer text of some steps gives the steps back, so a name is found where it
stands unless it has to be escaped.
-/

namespace SchemaRest.Json

/-- The characters of a step; a tilde has to be part of an escape. -/
def unescaped? : List Char → Option (List Char)
  | [] => some []
  | '~' :: '0' :: cs => (unescaped? cs).map ('~' :: ·)
  | '~' :: '1' :: cs => (unescaped? cs).map ('/' :: ·)
  | '~' :: _ => none
  | c :: cs => (unescaped? cs).map (c :: ·)

/-- The steps of a pointer. -/
def pointerSteps? : List Char → Option (List String)
  | [] => some []
  | '/' :: cs => (Text.piecesFrom '/' [] cs).mapM fun piece => (unescaped? piece).map String.ofList
  | _ => none

/-- The steps of a reference. -/
def fragment? (ref : String) : Option (List String) :=
  (Text.after? "#" ref).bind fun text => (Target.decodeSegment? text).bind fun pointer =>
    pointerSteps? pointer.toList

/-- The value a reference points at. -/
def resolve? (doc : Json) (ref : String) : Option Json := (fragment? ref).bind doc.at?

/-! ## Steps -/

/-- How a character is written inside a step. -/
def escapedChar (c : Char) : List Char :=
  if c = '~' then ['~', '0'] else if c = '/' then ['~', '1'] else [c]

theorem toList_escapedStep (step : String) :
    (escapedStep step).toList = step.toList.flatMap escapedChar := by
  rw [escapedStep, Text.replaceChar, Text.replaceChar, String.toList_ofList, String.toList_ofList,
    List.flatMap_assoc]
  congr 1
  funext c
  unfold escapedChar
  split
  · rfl
  · exact List.append_nil _

theorem unescaped?_cons {c : Char} (h : c ≠ '~') (cs : List Char) :
    unescaped? (c :: cs) = (unescaped? cs).map (c :: ·) := by
  rw [unescaped?]
  · exact fun _ hc _ => h hc
  · exact fun _ hc _ => h hc
  · exact h

theorem unescaped?_escapedChar (c : Char) (cs : List Char) :
    unescaped? (escapedChar c ++ cs) = (unescaped? cs).map (c :: ·) := by
  unfold escapedChar
  split
  · next h => rw [h]; rfl
  split
  · next h => rw [h]; rfl
  · next h _ => exact unescaped?_cons h cs

theorem unescaped?_escaped (cs : List Char) : unescaped? (cs.flatMap escapedChar) = some cs := by
  induction cs with
  | nil => rfl
  | cons c cs ih => rw [List.flatMap_cons, unescaped?_escapedChar, ih, Option.map_some]

theorem slash_not_mem_escapedStep (step : String) : '/' ∉ (escapedStep step).toList := by
  rw [toList_escapedStep, List.mem_flatMap]
  rintro ⟨c, -, hc⟩
  unfold escapedChar at hc
  split at hc
  · simp at hc
  split at hc
  · simp at hc
  · next h => exact h (List.mem_singleton.mp hc).symm

/-! ## Pointers -/

theorem slash_toList : "/".toList = ['/'] := rfl

theorem toList_pointer (steps : List String) :
    (pointer steps).toList = steps.flatMap fun s => '/' :: (escapedStep s).toList := by
  simp only [pointer, String.toList_join, List.flatMap_map, String.toList_append, slash_toList,
    List.cons_append, List.nil_append]

theorem pieces_pointer (s : String) (steps : List String) :
    Text.piecesFrom '/' [] ((escapedStep s).toList ++ (pointer steps).toList) =
      (s :: steps).map fun s => (escapedStep s).toList := by
  have hslash : ∀ piece ∈ (s :: steps).map fun s => (escapedStep s).toList, '/' ∉ piece := by
    intro piece hpiece
    obtain ⟨t, -, rfl⟩ := List.mem_map.mp hpiece
    exact slash_not_mem_escapedStep t
  have hpieces := Text.piecesFrom_flatMap hslash
  rw [List.flatMap_map] at hpieces
  rw [toList_pointer]
  exact hpieces

/-- Reading the pointer text of steps gives the steps. -/
theorem pointerSteps?_pointer (steps : List String) :
    pointerSteps? (pointer steps).toList = some steps := by
  have hread : ∀ s : String, (unescaped? (escapedStep s).toList).map String.ofList = some s := by
    intro s
    rw [toList_escapedStep, unescaped?_escaped, Option.map_some, String.ofList_toList]
  have hall : ∀ steps : List String, (steps.map fun s => (escapedStep s).toList).mapM
      (fun piece => (unescaped? piece).map String.ofList) = some steps := by
    intro steps
    induction steps with
    | nil => rfl
    | cons s steps ih => rw [List.map_cons, List.mapM_cons, hread, ih]; rfl
  cases steps with
  | nil => rfl
  | cons s steps =>
    have hpieces := pieces_pointer s steps
    rw [toList_pointer] at hpieces
    rw [toList_pointer, List.flatMap_cons, List.cons_append, pointerSteps?, hpieces, hall]

/-! ## References -/

theorem percentDecode_eq {bytes : List UInt8} (h : 37 ∉ bytes) :
    Target.percentDecode bytes = bytes := by
  fun_induction Target.percentDecode bytes <;> simp_all

theorem decodeSegment?_eq {text : String} (h : '%' ∉ text.toList) :
    Target.decodeSegment? text = some text := by
  have hbyte : 37 ∉ text.toUTF8.toList := fun hmem =>
    h (Text.Utf8.mem_toUTF8 (c := '%') (by decide) hmem)
  rw [Target.decodeSegment?, percentDecode_eq hbyte, Text.Utf8.strict?_toList_toUTF8]

/-- A name that stands for itself in a reference. -/
structure IsPlain (name : String) : Prop where
  noSlash : '/' ∉ name.toList
  noTilde : '~' ∉ name.toList
  noPercent : '%' ∉ name.toList

theorem IsPlain.escapedStep_eq {name : String} (h : IsPlain name) : escapedStep name = name := by
  have hchar : ∀ c ∈ name.toList, escapedChar c = [c] := by
    intro c hc
    have htilde : c ≠ '~' := ne_of_mem_of_not_mem hc h.noTilde
    have hslash : c ≠ '/' := ne_of_mem_of_not_mem hc h.noSlash
    rw [escapedChar, if_neg htilde, if_neg hslash]
  rw [← String.toList_inj, toList_escapedStep, List.flatMap_def, List.map_congr_left hchar,
    ← List.flatMap_def, List.flatMap_singleton']

theorem fragment?_pointer {steps : List String} (h : ∀ s ∈ steps, IsPlain s) :
    fragment? ("#" ++ pointer steps) = some steps := by
  have hpercent : '%' ∉ (pointer steps).toList := by
    rw [toList_pointer, List.mem_flatMap]
    rintro ⟨s, hs, hmem⟩
    rw [(h s hs).escapedStep_eq] at hmem
    rcases List.mem_cons.mp hmem with hmem | hmem
    · exact absurd hmem (by decide)
    · exact (h s hs).noPercent hmem
  rw [fragment?, Text.after?_eq_some_iff.mpr rfl, Option.bind_some, decodeSegment?_eq hpercent, Option.bind_some,
    pointerSteps?_pointer]

end SchemaRest.Json
