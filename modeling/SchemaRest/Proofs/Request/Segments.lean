import SchemaRest.Policy.Address
import SchemaRest.Proofs.Json.Pointer

/-!
# Texts as path segments

How a text is written as a segment of a path: letters, digits and four marks stand for themselves, and
every other byte is escaped. Reading the segment gives the text back, and no slash is in it.
-/

namespace SchemaRest.Target

/-- Whether a byte stands for itself. -/
def isPlainByte (b : UInt8) : Bool :=
  let c := Char.ofNat b.toNat
  c.isAlphanum || c = '-' || c = '.' || c = '_' || c = '~'

def encodedByte (b : UInt8) : List Char :=
  if isPlainByte b then [Char.ofNat b.toNat] else Policy.Address.escapedByte b

def encodeSegment (text : String) : String := String.ofList (text.toUTF8.toList.flatMap encodedByte)

/-! ## What is written -/

/-- What holds of all 256 bytes one after another holds of every byte. -/
theorem forall_byte {P : UInt8 → Prop} (h : ∀ n : Fin 256, P (UInt8.ofNat n)) (b : UInt8) : P b := by
  have hb := h ⟨b.toNat, b.toNat_lt⟩
  rwa [UInt8.ofNat_toNat] at hb

theorem encodedByte_ascii (b : UInt8) : ∀ c ∈ encodedByte b, c.toNat < 128 ∧ c ≠ '/' := by
  have hall : (encodedByte b).all (fun c => c.toNat < 128 && c != '/') = true :=
    forall_byte (P := fun b => (encodedByte b).all (fun c => c.toNat < 128 && c != '/') = true)
      (by decide +kernel) b
  simpa using hall

theorem encodedByte_ne_nil (b : UInt8) : encodedByte b ≠ [] := by
  unfold encodedByte Policy.Address.escapedByte
  split <;> exact List.cons_ne_nil _ _

theorem mem_encodeSegment {text : String} {c : Char} (h : c ∈ (encodeSegment text).toList) :
    c.toNat < 128 ∧ c ≠ '/' := by
  rw [encodeSegment, String.toList_ofList] at h
  obtain ⟨b, -, hc⟩ := List.mem_flatMap.mp h
  exact encodedByte_ascii b c hc

theorem encodeSegment_ne_empty {text : String} (h : text ≠ "") : encodeSegment text ≠ "" := by
  intro hempty
  have hchars := congrArg String.toList hempty
  rw [encodeSegment, String.toList_ofList] at hchars
  obtain ⟨b, hb⟩ := List.exists_mem_of_ne_nil _ (Text.Utf8.toUTF8_ne_nil h)
  exact encodedByte_ne_nil b (List.flatMap_eq_nil_iff.mp hchars b hb)

/-! ## Reading it back -/

theorem percentDecode_cons {b : UInt8} (h : b ≠ 37) (rest : List UInt8) :
    percentDecode (b :: rest) = b :: percentDecode rest := by
  match rest with
  | [] => rfl
  | [c] => rfl
  | c :: d :: rest => rw [percentDecode, if_neg h]

/-- The bytes of characters of one byte each. -/
def asciiBytes (cs : List Char) : List UInt8 := cs.map fun c => UInt8.ofNat c.toNat

/-- An escape is read as the byte it stands for. -/
theorem hexValue?_escapedByte (b : UInt8) : ∃ h l, asciiBytes (Policy.Address.escapedByte b) = [37, h, l] ∧
    Text.hexValue? (Char.ofNat h.toNat) = some (b.toNat / 16) ∧
    Text.hexValue? (Char.ofNat l.toNat) = some (b.toNat % 16) := by
  refine ⟨_, _, rfl, ?_, ?_⟩
  · exact forall_byte (P := fun b => Text.hexValue? (Char.ofNat (UInt8.ofNat
      (Policy.Address.upperHex (b.toNat / 16)).toNat).toNat) = some (b.toNat / 16)) (by decide +kernel) b
  · exact forall_byte (P := fun b => Text.hexValue? (Char.ofNat (UInt8.ofNat
      (Policy.Address.upperHex (b.toNat % 16)).toNat).toNat) = some (b.toNat % 16)) (by decide +kernel) b

theorem asciiBytes_plain : ∀ b, isPlainByte b = true →
    UInt8.ofNat (Char.ofNat b.toNat).toNat = b ∧ b ≠ 37 :=
  forall_byte (by decide +kernel)

theorem percentDecode_encodedByte (b : UInt8) (rest : List UInt8) :
    percentDecode (asciiBytes (encodedByte b) ++ rest) = b :: percentDecode rest := by
  unfold encodedByte
  split
  · next hplain =>
    obtain ⟨hbyte, hpercent⟩ := asciiBytes_plain b hplain
    show percentDecode (UInt8.ofNat (Char.ofNat b.toNat).toNat :: rest) = _
    rw [hbyte, percentDecode_cons hpercent]
  · obtain ⟨h, l, hbytes, hhigh, hlow⟩ := hexValue?_escapedByte b
    have hvalue : b.toNat / 16 * 16 + b.toNat % 16 = b.toNat := by omega
    rw [hbytes]
    show percentDecode (37 :: h :: l :: rest) = _
    rw [percentDecode, if_pos rfl, hhigh, hlow]
    dsimp only
    rw [hvalue, UInt8.ofNat_toNat]

theorem percentDecode_encodedBytes (bytes : List UInt8) :
    percentDecode (asciiBytes (bytes.flatMap encodedByte)) = bytes := by
  induction bytes with
  | nil => rfl
  | cons b bytes ih =>
    rw [List.flatMap_cons, asciiBytes, List.map_append]
    exact (percentDecode_encodedByte b _).trans (congrArg (b :: ·) ih)

/-- A text is read back from its segment. -/
theorem decodeSegment?_encodeSegment (text : String) :
    decodeSegment? (encodeSegment text) = some text := by
  have hbytes : (encodeSegment text).toUTF8.toList =
      asciiBytes (text.toUTF8.toList.flatMap encodedByte) := by
    rw [Text.Utf8.toUTF8_of_forall_lt fun c hc => (mem_encodeSegment hc).1, encodeSegment,
      String.toList_ofList, asciiBytes]
  rw [decodeSegment?, hbytes, percentDecode_encodedBytes, Text.Utf8.strict?_toList_toUTF8]

/-- A text without a percent sign is the segment of itself only. -/
theorem eq_of_encodeSegment_eq {text fixed : String} (hfixed : '%' ∉ fixed.toList)
    (h : encodeSegment text = fixed) : text = fixed := by
  have hdecoded := decodeSegment?_encodeSegment text
  rw [h, Json.decodeSegment?_eq hfixed] at hdecoded
  exact (Option.some.inj hdecoded).symm

end SchemaRest.Target
