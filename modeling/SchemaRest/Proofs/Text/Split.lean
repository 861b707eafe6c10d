import Mathlib.Data.List.Basic
import SchemaRest.Text.Split

/-!
# Pieces of a text

What lies between the occurrences of a character. Putting the character back before every piece gives the
text, and what does not have the character is one piece. Cutting a text once is cutting it at the first
occurrence.
-/

namespace SchemaRest.Text

variable {c : Char}

theorem flatMap_piecesFrom (c : Char) (piece cs : List Char) :
    (piecesFrom c piece cs).flatMap (c :: ·) = c :: (piece.reverse ++ cs) := by
  induction cs generalizing piece with
  | nil => simp [piecesFrom]
  | cons x cs ih =>
    rw [piecesFrom]
    split
    · next hx => simp [ih, hx]
    · simp [ih]

theorem piecesFrom_of_not_mem (piece : List Char) {p : List Char} (hp : c ∉ p) :
    piecesFrom c piece p = [piece.reverse ++ p] := by
  induction p generalizing piece with
  | nil => simp [piecesFrom]
  | cons x p ih =>
    have hx : x ≠ c := fun h => hp (h ▸ List.mem_cons_self)
    rw [piecesFrom, if_neg hx, ih _ (List.not_mem_of_not_mem_cons hp)]
    simp

theorem piecesFrom_append (piece : List Char) {p : List Char} (hp : c ∉ p) (cs : List Char) :
    piecesFrom c piece (p ++ c :: cs) = (piece.reverse ++ p) :: piecesFrom c [] cs := by
  induction p generalizing piece with
  | nil => simp [piecesFrom]
  | cons x p ih =>
    have hx : x ≠ c := fun h => hp (h ▸ List.mem_cons_self)
    rw [List.cons_append, piecesFrom, if_neg hx, ih _ (List.not_mem_of_not_mem_cons hp)]
    simp

/-- Pieces without the character, put behind one another with the character between them. -/
theorem piecesFrom_flatMap {piece : List Char} {pieces : List (List Char)}
    (h : ∀ p ∈ piece :: pieces, c ∉ p) :
    piecesFrom c [] (piece ++ pieces.flatMap (c :: ·)) = piece :: pieces := by
  induction pieces generalizing piece with
  | nil => simpa using piecesFrom_of_not_mem [] (h piece List.mem_cons_self)
  | cons next pieces ih =>
    obtain ⟨hpiece, hpieces⟩ := List.forall_mem_cons.mp h
    rw [List.flatMap_cons, List.cons_append, piecesFrom_append [] hpiece, ih hpieces]
    simp

/-- What stands on both sides of an occurrence is cut on its own. -/
theorem piecesFrom_append_cons (piece xs ys : List Char) :
    piecesFrom c piece (xs ++ c :: ys) = piecesFrom c piece xs ++ piecesFrom c [] ys := by
  induction xs generalizing piece with
  | nil => simp [piecesFrom]
  | cons x xs ih =>
    rw [List.cons_append, piecesFrom, piecesFrom]
    split <;> rw [ih]
    rfl

theorem piecesFrom_ne_nil (piece cs : List Char) : piecesFrom c piece cs ≠ [] := by
  induction cs generalizing piece with
  | nil => exact List.cons_ne_nil _ _
  | cons x cs ih =>
    rw [piecesFrom]
    split
    · exact List.cons_ne_nil _ _
    · exact ih _

theorem cutChars_eq_some_iff {cs a b : List Char} :
    cutChars c cs = some (a, b) ↔ cs = a ++ c :: b ∧ c ∉ a := by
  induction cs generalizing a with
  | nil => simp [cutChars]
  | cons x cs ih =>
    rw [cutChars]
    split
    · next hx =>
      subst hx
      cases a with
      | nil => simp
      | cons y a => simp +contextual
    · next hx =>
      cases a with
      | nil => simp [hx]
      | cons y a =>
        rw [Option.map_eq_some_iff]
        constructor
        · rintro ⟨p, hp, heq⟩
          cases heq
          obtain ⟨rfl, hmem⟩ := ih.mp hp
          exact ⟨rfl, by simp [hmem, Ne.symm hx]⟩
        · rintro ⟨heq, hmem⟩
          obtain ⟨rfl, rfl⟩ := List.cons.inj heq
          exact ⟨_, ih.mpr ⟨rfl, List.not_mem_of_not_mem_cons hmem⟩, rfl⟩

theorem cut?_eq_some_iff {s a b : String} :
    cut? c s = some (a, b) ↔ s.toList = a.toList ++ c :: b.toList ∧ c ∉ a.toList := by
  rw [← cutChars_eq_some_iff, cut?, Option.map_eq_some_iff]
  constructor
  · rintro ⟨p, hp, heq⟩
    cases heq
    rw [String.toList_ofList, String.toList_ofList, hp]
  · intro h
    exact ⟨_, h, by rw [String.ofList_toList, String.ofList_toList]⟩

theorem after?_eq_some_iff {head s rest : String} : after? head s = some rest ↔ head ++ rest = s := by
  rw [after?, Option.map_eq_some_iff, ← String.toList_inj, String.toList_append]
  simp only [List.isPrefixOf?_eq_some_iff_append_eq]
  constructor
  · rintro ⟨cs, hcs, rfl⟩
    rw [String.toList_ofList, hcs]
  · intro h
    exact ⟨rest.toList, h, String.ofList_toList⟩

theorem after?_eq_none_iff {head s : String} : after? head s = none ↔ startsWith head s = false := by
  rw [after?, Option.map_eq_none_iff, startsWith, ← List.isSome_isPrefixOf?_eq_isPrefixOf,
    Option.isSome_eq_false_iff, Option.isNone_iff_eq_none]

end SchemaRest.Text
