import SchemaRest.Proofs.Sql.Numeral

/-!
# JSON texts in literals

The text of a JSON value escapes by backslashes of its own, and never a single quote. So a literal of
such a text always ends where it should, even where it says another text.
-/

namespace SchemaRest.Sql

theorem closes_append {a b : List Char} (ha : closes a) (hb : closes b) : closes (a ++ b) := by
  induction a using escapes_induction with
  | nil => exact hb
  | last => simp [closes] at ha
  | escape c a ih =>
    simp only [closes, Bool.and_eq_true] at ha
    simp only [List.cons_append, closes, Bool.and_eq_true]
    exact ⟨ha.1, ih ha.2⟩
  | plain c a hslash ih =>
    rw [closes_cons hslash] at ha
    rw [List.cons_append, closes_cons hslash]
    exact ih ha

theorem closes_of_no_slash {s : List Char} (h : '\\' ∉ s) : closes s := by
  induction s with
  | nil => rfl
  | cons c s ih =>
    rw [closes_cons (Ne.symm (List.ne_of_not_mem_cons h))]
    exact ih (List.not_mem_of_not_mem_cons h)

theorem closes_flatMap {α : Type} {f : α → List Char} (xs : List α) (h : ∀ x ∈ xs, closes (f x)) :
    closes (xs.flatMap f) := by
  induction xs with
  | nil => rfl
  | cons x xs ih =>
    obtain ⟨hx, hxs⟩ := List.forall_mem_cons.mp h
    exact closes_append hx (ih hxs)

theorem closes_toList_append {a b : String} (ha : closes a.toList) (hb : closes b.toList) :
    closes (a ++ b).toList := by
  rw [String.toList_append]
  exact closes_append ha hb

theorem closes_push {a : String} {c : Char} (ha : closes a.toList) (hc : '\\' ∉ [c]) :
    closes (a.push c).toList := by
  rw [String.toList_push]
  exact closes_append ha (closes_of_no_slash hc)

/-! ## Numbers -/

theorem no_slash_of_digits {ds : List Char} (h : ∀ c ∈ ds, Text.isDigit c) : '\\' ∉ ds :=
  fun hmem => absurd (h '\\' hmem) (by decide)

theorem IsNumeral.no_slash {cs : List Char} (h : IsNumeral cs) : '\\' ∉ cs := by
  obtain ⟨whole, fraction, exponent, hw, hf, he, -⟩ := h
  have hfraction : '\\' ∉ fraction := by
    cases hf with
    | none => exact List.not_mem_nil
    | some digits h => exact List.not_mem_cons_of_ne_of_not_mem (by decide) (no_slash_of_digits h)
  have hexponent : '\\' ∉ exponent := by
    cases he with
    | none => exact List.not_mem_nil
    | some e sign digits he hs hne h =>
      have hletter : '\\' ≠ e := by rcases he with rfl | rfl <;> decide
      have hsign : '\\' ∉ sign := by rcases hs with rfl | rfl | rfl <;> decide
      exact List.not_mem_cons_of_ne_of_not_mem hletter (List.not_mem_append hsign (no_slash_of_digits h))
  exact List.not_mem_append (List.not_mem_append (no_slash_of_digits hw) hfraction) hexponent

theorem closes_number (n : Number) : closes (Json.numberText n).toList := by
  obtain ⟨sign, hjoin, hsign⟩ := sign_join (Json.numberText n).toList
  have hnumeral := IsNumeral.no_slash (isSigned_numberText n)
  have hslash : '\\' ∉ sign := by rcases hsign with rfl | rfl | rfl <;> decide
  rw [hjoin]
  exact closes_of_no_slash (List.not_mem_append hslash hnumeral)

/-! ## Strings -/

theorem hexDigit_ne_slash : ∀ n < 16, '\\' ≠ Text.hexDigit n := by decide

theorem no_slash_hexChars (width n : Nat) : '\\' ∉ Text.hexChars width n := by
  induction width generalizing n with
  | zero => exact List.not_mem_nil
  | succ width ih =>
    have hdigit := hexDigit_ne_slash (n % 16) (Nat.mod_lt n (by decide))
    exact List.not_mem_append (ih _) (by simpa using hdigit)

theorem closes_escaped (c : Char) : closes (Json.escaped c) := by
  unfold Json.escaped
  split_ifs with hquote hslash
  case neg => exact closes_of_no_slash (by simpa using Ne.symm hslash)
  all_goals first | rfl | exact closes_append rfl (closes_of_no_slash (no_slash_hexChars _ _))

theorem closes_quotedText (s : String) : closes (Json.quotedText s).toList := by
  rw [Json.quotedText, String.toList_ofList]
  exact closes_append (a := '"' :: s.toList.flatMap Json.escaped)
    ((closes_cons (by decide)).trans (closes_flatMap _ fun c _ => closes_escaped c)) rfl

/-! ## Values -/

theorem closes_separated {out : String} (h : closes out.toList) (first : Bool) :
    closes (if first then out else out.push ',').toList := by
  split
  · exact h
  · exact closes_push h (by decide)

mutual

theorem closes_write {out : String} (h : closes out.toList) :
    ∀ v, closes (Json.write out v).toList
  | .null => by
    rw [Json.write]
    exact closes_toList_append h (by decide)
  | .bool true => by
    rw [Json.write]
    exact closes_toList_append h (by decide)
  | .bool false => by
    rw [Json.write]
    exact closes_toList_append h (by decide)
  | .num n => by
    rw [Json.write]
    exact closes_toList_append h (closes_number n)
  | .str s => by
    rw [Json.write]
    exact closes_toList_append h (closes_quotedText s)
  | .arr items => by
    rw [Json.write]
    exact closes_push (closes_writeItems (closes_push h (by decide)) true items) (by decide)
  | .obj fields => by
    rw [Json.write]
    exact closes_push (closes_writeFields (closes_push h (by decide)) true fields) (by decide)

theorem closes_writeItems {out : String} (h : closes out.toList) (first : Bool) :
    ∀ items, closes (Json.writeItems out first items).toList
  | [] => by
    rw [Json.writeItems]
    exact h
  | v :: rest => by
    rw [Json.writeItems]
    exact closes_writeItems (closes_write (closes_separated h first) v) false rest

theorem closes_writeFields {out : String} (h : closes out.toList) (first : Bool) :
    ∀ fields, closes (Json.writeFields out first fields).toList
  | [] => by
    rw [Json.writeFields]
    exact h
  | (k, v) :: rest => by
    rw [Json.writeFields]
    have hkey := closes_toList_append (closes_separated h first) (closes_quotedText k)
    exact closes_writeFields (closes_write (closes_push hkey (by decide)) v) false rest

end

/-- The literal of a JSON text ends at the quote written last. -/
theorem closes_text (v : Json) : closes v.text.toList := closes_write rfl v

end SchemaRest.Sql
