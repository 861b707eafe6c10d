import SchemaRest.Decimal.Literal
import SchemaRest.Json.Printer
import SchemaRest.Proofs.Sql.Spelling

/-!
# Numerals

The texts of numbers that stand bare in a statement: whole numbers, the numbers of JSON values, and
texts that read as a finite number. Each is one numeral, with at most a sign in front.
-/

namespace SchemaRest.Sql

theorem isDigit_of_mem_repr (n : Nat) : ∀ c ∈ n.repr.toList, Text.isDigit c := by
  intro c hc
  rw [Nat.toList_repr] at hc
  have h := Nat.isDigit_of_mem_toDigits (b := 10) (by decide) (by decide) hc
  simpa [Text.isDigit, Char.isDigit, Char.le_def] using h

theorem repr_ne_nil (n : Nat) : n.repr.toList ≠ [] := by
  intro h
  exact Nat.repr_ne_empty (n := n) (String.toList_eq_nil_iff.mp h)

theorem isNumeral_repr (n : Nat) : IsNumeral n.repr.toList := by
  simpa using IsNumeral.mk _ [] [] (isDigit_of_mem_repr n) .none .none (.inl (repr_ne_nil n))

theorem digits?_repr (n : Nat) : Text.digits? n.repr.toList = some n := by
  have hdigits : n.repr.toList.all Text.isDigit := List.all_eq_true.mpr (isDigit_of_mem_repr n)
  have hvalue : Text.ofDigits n.repr.toList = n := by
    rw [Nat.toList_repr]
    simpa [Nat.ofDigitChars_eq_foldl, Text.ofDigits, Text.digitValue, Nat.mul_comm] using
      Nat.ofDigitChars_toDigits (n := n) (b := 10) (by decide) (by decide)
  have hne : n.repr.toList.isEmpty = false := by simp
  rw [Text.digits?, hdigits, hvalue, hne]
  rfl

theorem digitChar_digitValue {c : Char} (h : Text.isDigit c) : Nat.digitChar (Text.digitValue c) = c := by
  have hall : ∀ d < 10, Nat.digitChar d = Char.ofNat (48 + d) := by decide
  obtain ⟨hlow, hhigh⟩ := toNat_of_isDigit h
  rw [Text.digitValue, hall _ (by omega), Nat.add_sub_cancel' hlow, Char.ofNat_toNat]

/-- A numeral without a leading zero is how its number is written. -/
theorem toDigits_ofDigits {cs : List Char} (hdigits : ∀ c ∈ cs, Text.isDigit c) (hne : cs ≠ [])
    (hzero : cs.head? = some '0' → cs.length = 1) : Nat.toDigits 10 (Text.ofDigits cs) = cs := by
  induction cs using List.reverseRecOn with
  | nil => exact absurd rfl hne
  | append_singleton init c ih =>
    have hc : Text.isDigit c := hdigits c (by simp)
    have hlast : Text.digitValue c < 10 := by
      have hrange := toNat_of_isDigit hc
      unfold Text.digitValue
      omega
    have hsingle : Nat.toDigits 10 (Text.digitValue c) = [c] := by
      rw [Nat.toDigits_of_lt_base hlast, digitChar_digitValue hc]
    have hvalue : Text.ofDigits (init ++ [c]) = 10 * Text.ofDigits init + Text.digitValue c := by
      simp [Text.ofDigits, Nat.mul_comm]
    by_cases hinit : init = []
    · subst hinit
      simpa [Text.ofDigits] using hsingle
    have hhead : init.head? ≠ some '0' := by
      intro h
      have hlength := hzero (by simp [h])
      simp [hinit] at hlength
    have hread := ih (fun d hd => hdigits d (by simp [hd])) hinit (fun h => absurd h hhead)
    have hpos : 0 < Text.ofDigits init := by
      refine Nat.pos_of_ne_zero fun h => hhead ?_
      rw [← hread, h]
      rfl
    rw [hvalue, ← Nat.toDigits_append_toDigits (by decide) hpos hlast, hread, hsingle]

theorem head?_toDigits {n : Nat} (h : 0 < n) : (Nat.toDigits 10 n).head? ≠ some '0' := by
  induction n using Nat.strongRecOn with
  | ind n ih =>
    by_cases hn : n < 10
    · have hall : ∀ m < 10, 0 < m → [Nat.digitChar m].head? ≠ some '0' := by decide
      rw [Nat.toDigits_of_lt_base hn]
      exact hall n hn h
    · rw [Nat.toDigits_of_base_le (by decide) (by omega), List.head?_append_of_ne_nil _ Nat.toDigits_ne_nil]
      exact ih (n / 10) (by omega) (by omega)

/-! ## Numerals with a sign -/

/-- A numeral, perhaps behind a sign. -/
def IsSigned (cs : List Char) : Prop := IsNumeral (Decimal.sign cs).2

theorem sign_of_isNumeral {cs : List Char} (h : IsNumeral cs) : Decimal.sign cs = (false, cs) := by
  obtain ⟨c, ds, rfl, hstart⟩ := h.cons
  have hc := hstart []
  have hminus : c ≠ '-' := by
    rintro rfl
    simp [startsNumber, show Text.isDigit '-' = false by decide] at hc
  have hplus : c ≠ '+' := by
    rintro rfl
    simp [startsNumber, show Text.isDigit '+' = false by decide] at hc
  simp [Decimal.sign, hminus, hplus]

theorem sign_join (cs : List Char) :
    ∃ s, cs = s ++ (Decimal.sign cs).2 ∧ (s = [] ∨ s = ['+'] ∨ s = ['-']) := by
  unfold Decimal.sign
  split
  · exact ⟨['-'], rfl, .inr (.inr rfl)⟩
  · exact ⟨['+'], rfl, .inr (.inl rfl)⟩
  · exact ⟨[], rfl, .inl rfl⟩

theorem digits_of_digits? {cs : List Char} {n : Nat} (h : Text.digits? cs = some n) :
    cs ≠ [] ∧ ∀ c ∈ cs, Text.isDigit c := by
  unfold Text.digits? at h
  split at h
  · next hdigits =>
    simp only [Bool.and_eq_true, List.all_eq_true] at hdigits
    refine ⟨?_, hdigits.2⟩
    rintro rfl
    simp at hdigits
  · cases h

theorem isExponent_of_exponent? {cs : List Char} {e : Int} (h : Decimal.exponent? cs = some e) :
    IsExponent cs := by
  cases cs with
  | nil => exact .none
  | cons c rest =>
    simp only [Decimal.exponent?] at h
    split at h
    · next hc =>
      cases hdigits : Text.digits? (Decimal.sign rest).2 with
      | none =>
        rw [hdigits] at h
        cases h
      | some n =>
        obtain ⟨hne, hdigits⟩ := digits_of_digits? hdigits
        obtain ⟨s, hs, hsign⟩ := sign_join rest
        rw [hs]
        simp only [Bool.or_eq_true, decide_eq_true_eq] at hc
        exact .some c s _ hc hsign hne hdigits
    · cases h

theorem isDigit_of_mem_takeWhile (cs : List Char) :
    ∀ c ∈ cs.takeWhile Text.isDigit, Text.isDigit c := by
  intro c hc
  exact List.all_eq_true.mp List.all_takeWhile c hc

/-- Digits, a fraction and an exponent are what a literal is read from. -/
theorem isSigned_of_ofChars? {cs : List Char} {l : Decimal.Literal}
    (h : Decimal.Literal.ofChars? cs = some l) : IsSigned cs := by
  have hjoin : (Decimal.sign cs).2.takeWhile Text.isDigit ++
      (Decimal.sign cs).2.dropWhile Text.isDigit = (Decimal.sign cs).2 :=
    List.takeWhile_append_dropWhile
  have hwhole := isDigit_of_mem_takeWhile (Decimal.sign cs).2
  unfold IsSigned
  rw [← hjoin]
  simp only [Decimal.Literal.ofChars?] at h
  split at h
  · next rest hpoint =>
    dsimp only at h
    split at h
    · cases h
    · next hdigit =>
      obtain ⟨e, he, -⟩ := Option.map_eq_some_iff.mp h
      have hfraction := IsFraction.some _ (isDigit_of_mem_takeWhile rest)
      have hne : (Decimal.sign cs).2.takeWhile Text.isDigit ≠ [] ∨
          2 ≤ ('.' :: rest.takeWhile Text.isDigit).length := by
        by_cases hwhole : (Decimal.sign cs).2.takeWhile Text.isDigit = []
        · right
          cases hdigits : rest.takeWhile Text.isDigit with
          | nil => simp [hwhole, hdigits] at hdigit
          | cons d ds => simp
        · exact .inl hwhole
      have hnumeral := IsNumeral.mk _ _ _ hwhole hfraction (isExponent_of_exponent? he) hne
      rw [hpoint]
      simpa [List.append_assoc] using hnumeral
  · dsimp only at h
    split at h
    · cases h
    · next hdigit =>
      obtain ⟨e, he, -⟩ := Option.map_eq_some_iff.mp h
      have hne : (Decimal.sign cs).2.takeWhile Text.isDigit ≠ [] ∨ 2 ≤ ([] : List Char).length := by
        refine .inl fun hnil => ?_
        simp [hnil] at hdigit
      have hnumeral := IsNumeral.mk _ _ _ hwhole .none (isExponent_of_exponent? he) hne
      simpa using hnumeral

theorem isSigned_of_readsFinite {s : String} (h : Decimal.readsFinite s) : IsSigned s.toList := by
  unfold Decimal.readsFinite Decimal.read? at h
  obtain ⟨d, hd⟩ := Option.isSome_iff_exists.mp h
  obtain ⟨l, hl, -⟩ := Option.bind_eq_some_iff.mp hd
  exact isSigned_of_ofChars? hl

/-! ## Numbers of JSON values -/

theorem isSigned_of_minus {cs : List Char} (h : IsNumeral cs) : IsSigned ('-' :: cs) := h

theorem IsNumeral.isSigned {cs : List Char} (h : IsNumeral cs) : IsSigned cs := by
  rw [IsSigned, sign_of_isNumeral h]
  exact h

theorem isSigned_int (n : Int) : IsSigned (toString n).toList := by
  cases n with
  | ofNat n => exact (isNumeral_repr n).isSigned
  | negSucc n =>
    have htext : (toString (Int.negSucc n)).toList = '-' :: (n + 1).repr.toList := by
      change ("-" ++ (n + 1).repr).toList = _
      rw [String.toList_append]
      rfl
    rw [htext]
    exact isSigned_of_minus (isNumeral_repr (n + 1))

theorem isNumeral_positional {digits : List Char} (h : ∀ c ∈ digits, Text.isDigit c)
    (hne : digits ≠ []) (p : Int) : IsNumeral (Double.positional digits p) := by
  have hzero : Text.isDigit '0' := by decide
  have hzeros (n : Nat) : ∀ c ∈ List.replicate n '0', Text.isDigit c := by
    intro c hc
    rw [List.eq_of_mem_replicate hc]
    exact hzero
  unfold Double.positional
  dsimp only
  split
  · -- a whole number, with `.0` after it
    have hwhole : ∀ c ∈ digits ++ List.replicate p.toNat '0', Text.isDigit c :=
      List.forall_mem_append.mpr ⟨h, hzeros _⟩
    have hfraction := IsFraction.some ['0'] (List.forall_mem_singleton.mpr hzero)
    have hnumeral := IsNumeral.mk _ _ [] hwhole hfraction .none (.inl (by simp [hne]))
    simpa using hnumeral
  · split
    · next hlength =>
      have htake : ∀ c ∈ digits.take (digits.length - (-p).toNat), Text.isDigit c :=
        fun c hc => h c (List.mem_of_mem_take hc)
      have hdrop : ∀ c ∈ digits.drop (digits.length - (-p).toNat), Text.isDigit c :=
        fun c hc => h c (List.mem_of_mem_drop hc)
      have hnumeral := IsNumeral.mk _ _ [] htake (.some _ hdrop) .none (.inl (by
          intro hnil
          have := congrArg List.length hnil
          simp only [List.length_take, List.length_nil] at this
          omega))
      simpa using hnumeral
    · have hfraction := IsFraction.some (List.replicate ((-p).toNat - digits.length) '0' ++ digits)
        (List.forall_mem_append.mpr ⟨hzeros _, h⟩)
      have hnumeral := IsNumeral.mk ['0'] _ [] (List.forall_mem_singleton.mpr hzero) hfraction .none
        (.inl (by simp))
      simpa using hnumeral

theorem isNumeral_scientific {digits : List Char} (h : ∀ c ∈ digits, Text.isDigit c)
    (hne : digits ≠ []) (e : Int) : IsNumeral (Double.scientific digits e) := by
  have hexponent : IsExponent ('e' :: (if e < 0 then '-' else '+') :: e.natAbs.repr.toList) := by
    have hsign : [if e < 0 then '-' else '+'] = [] ∨ [if e < 0 then '-' else '+'] = ['+'] ∨
        [if e < 0 then '-' else '+'] = ['-'] := by split <;> simp
    exact .some 'e' _ _ (.inl rfl) hsign (repr_ne_nil _) (isDigit_of_mem_repr _)
  cases digits with
  | nil => exact absurd rfl hne
  | cons d rest =>
    obtain ⟨hd, hrest⟩ := List.forall_mem_cons.mp h
    have hwhole : ∀ c ∈ [d], Text.isDigit c := List.forall_mem_singleton.mpr hd
    cases rest with
    | nil => exact IsNumeral.mk [d] [] _ hwhole .none hexponent (.inl (by simp))
    | cons d' rest => exact IsNumeral.mk [d] _ _ hwhole (.some _ hrest) hexponent (.inl (by simp))

theorem isSigned_double (layout : Double.Layout) (d : Double) : IsSigned (layout.text d).toList := by
  have hbody : ∀ e : Int, IsNumeral (if layout.positionalFrom ≤ e && e < layout.positionalTo then
      Double.positional (Nat.repr d.shortest.1).toList d.shortest.2
      else Double.scientific (Nat.repr d.shortest.1).toList e) := by
    intro e
    split
    · exact isNumeral_positional (isDigit_of_mem_repr _) (repr_ne_nil _) _
    · exact isNumeral_scientific (isDigit_of_mem_repr _) (repr_ne_nil _) _
  unfold Double.Layout.text
  dsimp only
  rw [String.toList_ofList]
  split
  · exact isSigned_of_minus (hbody _)
  · exact (hbody _).isSigned

/-- The text of a number in a JSON value. -/
theorem isSigned_numberText (n : Number) : IsSigned (Json.numberText n).toList := by
  cases n with
  | int n => exact isSigned_int n
  | double d => exact isSigned_double Json.doubleLayout d

end SchemaRest.Sql
