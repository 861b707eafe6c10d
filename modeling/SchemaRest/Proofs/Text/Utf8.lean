import SchemaRest.Text.Utf8

/-!
# Bytes of a text

The bytes of a text are those of its characters, one after another, and reading them gives the text
back. A byte below 128 is the byte of a character of its own.
-/

namespace SchemaRest.Text.Utf8

theorem toList_loop_eq (bytes : ByteArray) (i : Nat) (done : List UInt8) :
    ByteArray.toList.loop bytes i done = done.reverse ++ bytes.data.toList.drop i := by
  fun_induction ByteArray.toList.loop bytes i done with
  | case1 i done h ih =>
    have hi : i < bytes.data.toList.length := by simpa using h
    rw [ih, List.drop_eq_getElem_cons hi]
    simp [ByteArray.get!, h]
  | case2 i done h =>
    rw [List.drop_eq_nil_of_le (by simpa using Nat.le_of_not_lt h), List.append_nil]

theorem toList_eq (bytes : ByteArray) : bytes.toList = bytes.data.toList := toList_loop_eq bytes 0 []

theorem toList_toUTF8 (text : String) :
    text.toUTF8.toList = text.toList.flatMap String.utf8EncodeChar := by
  rw [toList_eq, String.toUTF8_eq_toByteArray, ← String.utf8Encode_toList]
  exact List.toList_data_toByteArray

theorem toUTF8_ne_nil {text : String} (h : text ≠ "") : text.toUTF8.toList ≠ [] := by
  rw [toList_toUTF8]
  cases hchars : text.toList with
  | nil => exact absurd (String.toList_eq_nil_iff.mp hchars) h
  | cons c cs =>
    have hchar : String.utf8EncodeChar c ≠ [] := by
      refine List.ne_nil_of_length_pos ?_
      rw [String.length_utf8EncodeChar]
      exact c.utf8Size_pos
    rw [List.flatMap_cons]
    exact List.append_ne_nil_of_left_ne_nil hchar _

theorem strict?_toUTF8 (text : String) : strict? text.toUTF8 = some text := dif_pos text.isValidUTF8

/-- Reading does not care whether the bytes come as a list. -/
theorem strict?_toList_toUTF8 (text : String) : strict? ⟨text.toUTF8.toList.toArray⟩ = some text := by
  rw [toList_eq, Array.toArray_toList]
  exact strict?_toUTF8 text

theorem utf8EncodeChar_of_lt {c : Char} (h : c.toNat < 128) :
    String.utf8EncodeChar c = [UInt8.ofNat c.toNat] :=
  if_pos (Nat.le_of_lt_succ h)

/-- The bytes of the other characters are not below 128. -/
theorem le_of_mem_utf8EncodeChar {c : Char} (h : 128 ≤ c.toNat) {byte : UInt8}
    (hbyte : byte ∈ String.utf8EncodeChar c) : 128 ≤ byte.toNat := by
  have hvalue : ¬c.val.toNat ≤ 0x7f := Nat.not_le.mpr h
  have hsum : ∀ n k, 128 ≤ k → n + k < 256 → byte = UInt8.ofNat (n + k) → 128 ≤ byte.toNat := by
    rintro n k hk hn rfl
    rw [UInt8.toNat_ofNat']
    omega
  rw [String.utf8EncodeChar, if_neg hvalue] at hbyte
  split at hbyte
  · simp only [List.mem_cons, List.not_mem_nil, or_false] at hbyte
    rcases hbyte with h | h <;> exact hsum _ _ (by decide) (by omega) h
  split at hbyte <;> simp only [List.mem_cons, List.not_mem_nil, or_false] at hbyte
  · rcases hbyte with h | h | h <;> exact hsum _ _ (by decide) (by omega) h
  · rcases hbyte with h | h | h | h <;> exact hsum _ _ (by decide) (by omega) h

theorem mem_toUTF8 {c : Char} (hc : c.toNat < 128) {text : String}
    (h : UInt8.ofNat c.toNat ∈ text.toUTF8.toList) : c ∈ text.toList := by
  rw [toList_toUTF8] at h
  obtain ⟨d, hd, hbyte⟩ := List.mem_flatMap.mp h
  have hvalue : (UInt8.ofNat c.toNat).toNat = c.toNat :=
    UInt8.toNat_ofNat_of_lt' (Nat.lt_trans hc (by decide))
  by_cases hsmall : d.toNat < 128
  · rw [utf8EncodeChar_of_lt hsmall, List.mem_singleton] at hbyte
    have heq := congrArg UInt8.toNat hbyte
    rw [hvalue, UInt8.toNat_ofNat'] at heq
    have hcd : c.toNat = d.toNat := by omega
    rw [Char.toNat_inj.mp hcd]
    exact hd
  · have hlarge := le_of_mem_utf8EncodeChar (Nat.le_of_not_lt hsmall) hbyte
    omega

theorem toUTF8_of_forall_lt {text : String} (h : ∀ c ∈ text.toList, c.toNat < 128) :
    text.toUTF8.toList = text.toList.map fun c => UInt8.ofNat c.toNat := by
  rw [toList_toUTF8, List.flatMap_def, List.map_congr_left fun c hc => utf8EncodeChar_of_lt (h c hc),
    ← List.flatMap_def, List.map_eq_flatMap]

theorem foldl_step (cs : List Char) (h : ∀ c ∈ cs, c.toNat < 128) (text : List Char) :
    (cs.map fun c => UInt8.ofNat c.toNat).foldl step (text, none) = (cs.reverse ++ text, none) := by
  induction cs generalizing text with
  | nil => rfl
  | cons c cs ih =>
    obtain ⟨hc, hcs⟩ := List.forall_mem_cons.mp h
    have hbyte : (UInt8.ofNat c.toNat).toNat = c.toNat :=
      UInt8.toNat_ofNat_of_lt' (Nat.lt_trans hc (by decide))
    have hstep : step (text, none) (UInt8.ofNat c.toNat) = (c :: text, none) := by
      rw [step, hbyte, start, if_pos hc, Char.ofNat_toNat]
    rw [List.map_cons, List.foldl_cons, hstep, ih hcs, List.reverse_cons, List.append_assoc]
    rfl

/-- Text of one byte a character is read back leniently too. -/
theorem lossy_toUTF8 {text : String} (h : ∀ c ∈ text.toList, c.toNat < 128) :
    lossy text.toUTF8.toList = text := by
  rw [toUTF8_of_forall_lt h, lossy, foldl_step _ h, List.append_nil]
  show String.ofList text.toList.reverse.reverse = text
  rw [List.reverse_reverse, String.ofList_toList]

end SchemaRest.Text.Utf8
