import SchemaRest.Json.Reader
import SchemaRest.Proofs.Json.Inside

/-!
# Texts in a value that is read

A text inside a value takes its characters from the text that the value is read from, and that has quotes
around it besides. So every text inside is shorter than the one around it, and texts embedded in one
another come to an end.
-/

namespace SchemaRest.Json

/-- Every text inside a value, and the value if it is a text, is shorter than `n`. -/
def TextsBelow (n : Nat) (v : Json) : Prop := ∀ s, v = .str s ∨ Inside (.str s) v → s.length < n

variable {n m : Nat} {v : Json}

theorem TextsBelow.mono (h : TextsBelow n v) (hle : n ≤ m) : TextsBelow m v :=
  fun s hs => Nat.lt_of_lt_of_le (h s hs) hle

theorem TextsBelow.part (h : TextsBelow n v) {u : Json} (hu : u ∈ v.parts) : TextsBelow n u :=
  fun s hs => h s (.inr (inside_iff.mpr ⟨u, hu, hs.imp_left Eq.symm⟩))

theorem TextsBelow.of_parts (hv : ∀ s, v ≠ .str s) (h : ∀ u ∈ v.parts, TextsBelow n u) : TextsBelow n v := by
  rintro s (rfl | hs)
  · exact absurd rfl (hv s)
  · obtain ⟨u, hu, hinside⟩ := inside_iff.mp hs
    exact h u hu s (hinside.imp_left Eq.symm)

theorem TextsBelow.null : TextsBelow n .null := .of_parts nofun nofun

theorem TextsBelow.bool (b : Bool) : TextsBelow n (.bool b) := .of_parts nofun nofun

theorem TextsBelow.num (x : Number) : TextsBelow n (.num x) := .of_parts nofun nofun

theorem TextsBelow.arr {items : List Json} (h : ∀ u ∈ items, TextsBelow n u) : TextsBelow n (.arr items) :=
  .of_parts nofun h

theorem TextsBelow.obj {fields : Fields} (h : ∀ p ∈ fields, TextsBelow n p.2) : TextsBelow n (.obj fields) :=
  .of_parts nofun (List.forall_mem_map.mpr h)

theorem TextsBelow.str {s : String} (h : s.length < n) : TextsBelow n (.str s) := by
  rintro t (ht | ht)
  · cases ht
    exact h
  · exact absurd ht not_inside_str

/-! ## Tokens -/

theorem skipSpace_length (cs : List Char) : (skipSpace cs).length ≤ cs.length :=
  (List.dropWhile_suffix _).length_le

variable {state : StringState} {high : Option Nat} {text cs rest : List Char} {c : Char} {s : String}

/-- A character of a literal ends it, or it gives one character of the text at most. -/
theorem readString_cons (h : readString state high text (c :: cs) = some (s, rest)) :
    (s = String.ofList text.reverse ∧ rest = cs) ∨
      ∃ state' high' text', text'.length ≤ text.length + 1 ∧
        readString state' high' text' cs = some (s, rest) := by
  unfold readString at h
  cases state with
  | plain =>
    dsimp only at h
    split at h
    · exact .inr ⟨_, _, _, Nat.le_succ _, h⟩
    split at h
    · cases h
    split at h
    · cases h
      exact .inl ⟨rfl, rfl⟩
    · exact .inr ⟨_, _, _, Nat.le_refl _, h⟩
  | afterBackslash =>
    dsimp only at h
    split at h
    · exact .inr ⟨_, _, _, Nat.le_succ _, h⟩
    split at h
    · cases h
    split at h
    · exact .inr ⟨_, _, _, Nat.le_refl _, h⟩
    · cases h
  | hex due value =>
    dsimp only at h
    split at h
    · cases h
    split at h
    · exact .inr ⟨_, _, _, Nat.le_succ _, h⟩
    split at h
    · split at h
      · exact .inr ⟨_, _, _, Nat.le_refl _, h⟩
      · cases h
    · split at h
      · exact .inr ⟨_, _, _, Nat.le_succ _, h⟩
      split at h
      · cases h
      · exact .inr ⟨_, _, _, Nat.le_refl _, h⟩

theorem readString_length (h : readString state high text cs = some (s, rest)) :
    s.length + rest.length < text.length + cs.length := by
  induction cs generalizing state high text with
  | nil => cases h
  | cons c cs ih =>
    rw [List.length_cons]
    rcases readString_cons h with ⟨rfl, rfl⟩ | ⟨state', high', text', htext, h'⟩
    · rw [String.length_ofList, List.length_reverse]
      omega
    · have hrest := ih h'
      omega

theorem readFraction_length {digits : Option (List Char)} (h : readFraction cs = some (digits, rest)) :
    rest.length ≤ cs.length := by
  unfold readFraction at h
  split at h
  · next after =>
    dsimp only at h
    split at h
    · cases h
    · cases h
      exact Nat.le_succ_of_le (List.dropWhile_suffix _).length_le
  · cases h
    exact Nat.le_refl _

/-- The digits of an exponent come after a sign or without one. -/
theorem readExponent_length {exponent : Option (Bool × List Char)}
    (h : readExponent cs = some (exponent, rest)) : rest.length ≤ cs.length := by
  have hdigits (digits after : List Char) (minus : Bool)
      (h : (if digits.isEmpty then none
        else some (some (minus, digits), after.dropWhile Text.isDigit)) = some (exponent, rest)) :
      rest.length ≤ after.length := by
    split at h
    · cases h
    · cases h
      exact (List.dropWhile_suffix _).length_le
  unfold readExponent at h
  split at h
  · next c after =>
    split at h
    · dsimp only at h
      split at h
      all_goals
        have hle := hdigits _ _ _ h
        simp only [List.length_cons] at hle ⊢
        omega
    · cases h
      exact Nat.le_refl _
  · cases h
    exact Nat.le_refl _

/-- A numeral has a sign or none, digits, and perhaps a fraction and an exponent. -/
theorem readNumeral_length {n : Numeral} (h : readNumeral cs = some (n, rest)) : rest.length ≤ cs.length := by
  have hparts {after between : List Char} {fraction : Option (List Char)}
      {exponent : Option (Bool × List Char)}
      (hfraction : readFraction (after.dropWhile Text.isDigit) = some (fraction, between))
      (hexponent : readExponent between = some (exponent, rest)) : rest.length ≤ after.length :=
    Nat.le_trans (readExponent_length hexponent)
      (Nat.le_trans (readFraction_length hfraction) (List.dropWhile_suffix _).length_le)
  unfold readNumeral at h
  dsimp only at h
  split at h
  · next after =>
    split at h
    · cases h
    · simp only [Option.bind_eq_bind, Option.bind_eq_some_iff] at h
      obtain ⟨fraction, hfraction, exponent, hexponent, hrest⟩ := h
      cases hrest
      exact Nat.le_succ_of_le (hparts hfraction hexponent)
  · split at h
    · cases h
    · simp only [Option.bind_eq_bind, Option.bind_eq_some_iff] at h
      obtain ⟨fraction, hfraction, exponent, hexponent, hrest⟩ := h
      cases hrest
      exact hparts hfraction hexponent

theorem readNumber_length {n : Number} (h : readNumber cs = some (n, rest)) : rest.length ≤ cs.length := by
  simp only [readNumber, Option.bind_eq_bind, Option.bind_eq_some_iff] at h
  obtain ⟨⟨numeral, after⟩, hnumeral, value, -, hrest⟩ := h
  cases hrest
  exact readNumeral_length hnumeral

/-! ## Values -/

/-- Texts inside of what is read are shorter than what it is read from, at some amount of fuel. -/
structure ReadsBelow (fuel : Nat) : Prop where
  value : ∀ {depth cs v rest}, readValue .whole depth fuel cs = some (v, rest) →
    TextsBelow cs.length v ∧ rest.length ≤ cs.length
  items : ∀ {depth before cs v rest n}, cs.length ≤ n → (∀ u ∈ before, TextsBelow n u) →
    readItems [] depth fuel before cs = some (v, rest) → TextsBelow n v ∧ rest.length ≤ cs.length
  fields : ∀ {depth before cs v rest n}, cs.length ≤ n → (∀ p ∈ before, TextsBelow n p.2) →
    readFields .whole depth fuel before cs = some (v, rest) → TextsBelow n v ∧ rest.length ≤ cs.length
  field : ∀ {depth before cs after rest n}, cs.length ≤ n → (∀ p ∈ before, TextsBelow n p.2) →
    readField .whole depth fuel before cs = some (after, rest) →
      (∀ p ∈ after, TextsBelow n p.2) ∧ rest.length ≤ cs.length

variable {fuel depth : Nat}

theorem ReadsBelow.value_succ (ih : ReadsBelow fuel) (h : readValue .whole depth (fuel + 1) cs = some (v, rest)) :
    TextsBelow cs.length v ∧ rest.length ≤ cs.length := by
  have hspace := skipSpace_length cs
  have hword (word : List Char) {after : List Char} (hcs : skipSpace cs = word ++ after) :
      after.length ≤ cs.length := by
    rw [hcs, List.length_append] at hspace
    omega
  unfold readValue at h
  split at h
  · cases h
  · next hcs =>
    cases h
    exact ⟨.null, hword ['n', 'u', 'l', 'l'] hcs⟩
  · next hcs =>
    cases h
    exact ⟨.bool true, hword ['t', 'r', 'u', 'e'] hcs⟩
  · next hcs =>
    cases h
    exact ⟨.bool false, hword ['f', 'a', 'l', 's', 'e'] hcs⟩
  · next hcs =>
    obtain ⟨⟨s, after⟩, hs, heq⟩ := Option.map_eq_some_iff.mp h
    cases heq
    dsimp only
    have hlength := readString_length hs
    rw [hcs] at hspace
    simp only [List.length_cons, List.length_nil] at hspace hlength
    exact ⟨.str (by omega), by omega⟩
  · next c inside _ _ _ _ hcs =>
    have hinside := skipSpace_length inside
    rw [hcs, List.length_cons] at hspace
    split at h
    · split at h
      · cases h
      split at h
      · next after hafter =>
        cases h
        rw [hafter, List.length_cons] at hinside
        exact ⟨.arr (List.forall_mem_nil _), by omega⟩
      · obtain ⟨hv, hrest⟩ := ih.items (n := cs.length) (by omega) (List.forall_mem_nil _) h
        exact ⟨hv, by omega⟩
    split at h
    · split at h
      · cases h
      split at h
      · next after hafter =>
        cases h
        rw [hafter, List.length_cons] at hinside
        exact ⟨.obj (List.forall_mem_nil _), by omega⟩
      · obtain ⟨hv, hrest⟩ := ih.fields (n := cs.length) (by omega) (List.forall_mem_nil _) h
        exact ⟨hv, by omega⟩
    · obtain ⟨⟨number, after⟩, hnumber, heq⟩ := Option.map_eq_some_iff.mp h
      cases heq
      dsimp only
      have hlength := readNumber_length hnumber
      rw [List.length_cons] at hlength
      exact ⟨.num number, by omega⟩

theorem ReadsBelow.items_succ (ih : ReadsBelow fuel) {before : List Json} (hn : cs.length ≤ n)
    (hbefore : ∀ u ∈ before, TextsBelow n u)
    (h : readItems [] depth (fuel + 1) before cs = some (v, rest)) :
    TextsBelow n v ∧ rest.length ≤ cs.length := by
  unfold readItems at h
  split at h
  · cases h
  · next u after hu =>
    obtain ⟨hitem, hafter⟩ := ih.value hu
    have hitems : ∀ u' ∈ u :: before, TextsBelow n u' :=
      List.forall_mem_cons.mpr ⟨hitem.mono hn, hbefore⟩
    have hspace := skipSpace_length after
    split at h
    · next next hnext =>
      rw [hnext, List.length_cons] at hspace
      obtain ⟨hv, hrest⟩ := ih.items (n := n) (by omega) hitems h
      exact ⟨hv, by omega⟩
    · next next hnext =>
      cases h
      rw [hnext, List.length_cons] at hspace
      exact ⟨.arr fun u' hu' => hitems u' (List.mem_reverse.mp hu'), by omega⟩
    · cases h

theorem ReadsBelow.field_succ (ih : ReadsBelow fuel) {before after : Fields} (hn : cs.length ≤ n)
    (hbefore : ∀ p ∈ before, TextsBelow n p.2)
    (h : readField .whole depth (fuel + 1) before cs = some (after, rest)) :
    (∀ p ∈ after, TextsBelow n p.2) ∧ rest.length ≤ cs.length := by
  have hspace := skipSpace_length cs
  unfold readField at h
  split at h
  · next inside hcs =>
    rw [hcs, List.length_cons] at hspace
    split at h
    · cases h
    · next key behind hkey =>
      have hbehind := readString_length hkey
      have hcolon := skipSpace_length behind
      rw [List.length_nil] at hbehind
      split at h
      · next given hgiven =>
        rw [hgiven, List.length_cons] at hcolon
        obtain ⟨⟨u, left⟩, hu, heq⟩ := Option.map_eq_some_iff.mp h
        cases heq
        dsimp only
        obtain ⟨hvalue, hleft⟩ := ih.value hu
        exact ⟨List.forall_mem_cons.mpr ⟨hvalue.mono (by omega), hbefore⟩, by omega⟩
      · cases h
  · cases h

theorem ReadsBelow.fields_succ (ih : ReadsBelow fuel) {before : Fields} (hn : cs.length ≤ n)
    (hbefore : ∀ p ∈ before, TextsBelow n p.2)
    (h : readFields .whole depth (fuel + 1) before cs = some (v, rest)) :
    TextsBelow n v ∧ rest.length ≤ cs.length := by
  unfold readFields at h
  split at h
  · cases h
  · next fields after hfield =>
    obtain ⟨hfields, hafter⟩ := ih.field hn hbefore hfield
    have hspace := skipSpace_length after
    split at h
    · next next hnext =>
      rw [hnext, List.length_cons] at hspace
      obtain ⟨hv, hrest⟩ := ih.fields (n := n) (by omega) hfields h
      exact ⟨hv, by omega⟩
    · next next hnext =>
      cases h
      rw [hnext, List.length_cons] at hspace
      exact ⟨.obj fun p hp => hfields p (List.mem_reverse.mp hp), by omega⟩
    · cases h

theorem readsBelow (fuel : Nat) : ReadsBelow fuel := by
  induction fuel with
  | zero =>
    refine ⟨fun h => ?_, fun _ _ h => ?_, fun _ _ h => ?_, fun _ _ h => ?_⟩
    · simp [readValue] at h
    · simp [readItems] at h
    · simp [readFields] at h
    · simp [readField] at h
  | succ fuel ih =>
    exact ⟨ih.value_succ, ih.items_succ, ih.fields_succ, ih.field_succ⟩

/-- Every text inside of what is written in a text is shorter than that text. -/
theorem textsBelow_of_readOutlined? {text : String} (h : readOutlined? .whole text = some v) :
    TextsBelow text.length v := by
  unfold readOutlined? readChars? at h
  split at h
  · next v' after hvalue =>
    split at h
    · cases h
      have hbelow := ((readsBelow _).value hvalue).1
      rwa [String.length_toList] at hbelow
    · cases h
  · cases h

end SchemaRest.Json
