import Mathlib.Algebra.Order.Floor.Div
import SchemaRest.Request.Page

/-!
# Pages as windows

A page of some rows is the stretch of them from `size * index` up to `size * (index + 1)`, and all of them
without a positive size. The limit and the offset of a page cut out just that, also where the product is
beyond 64 bits and the offset stays at the greatest: there is no row that far. The pages of one size are
a partition of the rows, and the number of pages is that of the pages that are not empty.
-/

namespace SchemaRest

variable {α β : Type}

/-- The members at the positions from `low` up to `high`. -/
def between (low high : Int) (xs : List α) : List α :=
  (xs.zipIdx.filter fun p => low ≤ p.2 && (p.2 : Int) < high).map (·.1)

/-- The members behind an offset, as many as a limit allows. -/
def windowed (limit offset : Option Nat) (xs : List α) : List α :=
  match limit with
  | none => xs
  | some n => (xs.drop (offset.getD 0)).take n

theorem map_windowed (f : α → β) (limit offset : Option Nat) (xs : List α) :
    (windowed limit offset xs).map f = windowed limit offset (xs.map f) := by
  cases limit with
  | none => rfl
  | some n => rw [windowed, windowed, List.map_take, List.map_drop]

theorem filter_zipIdx (low high k : Nat) (xs : List α) :
    ((xs.zipIdx k).filter fun p => (low : Int) ≤ p.2 && (p.2 : Int) < high).map (·.1) =
      (xs.take (high - k)).drop (low - k) := by
  induction xs generalizing k with
  | nil => simp
  | cons x xs ih =>
    rw [List.zipIdx_cons]
    by_cases hhigh : k < high
    · have htake : high - k = high - (k + 1) + 1 := by omega
      by_cases hlow : low ≤ k
      · have hdrop : low - k = 0 := by omega
        have hrest : low - (k + 1) = 0 := by omega
        have hin : (decide ((low : Int) ≤ k) && decide ((k : Int) < high)) = true := by
          simp [hlow, hhigh]
        rw [List.filter_cons, if_pos hin, List.map_cons, ih, hdrop, hrest, htake, List.take_succ_cons]
        rfl
      · have hdrop : low - k = low - (k + 1) + 1 := by omega
        have hout : ¬(decide ((low : Int) ≤ k) && decide ((k : Int) < high)) = true := by
          simp [hlow]
        rw [List.filter_cons, if_neg hout, ih, hdrop, htake, List.take_succ_cons, List.drop_succ_cons]
    · have hempty : high - k = 0 := by omega
      have hrest : high - (k + 1) = 0 := by omega
      have hout : ¬(decide ((low : Int) ≤ k) && decide ((k : Int) < high)) = true := by
        simp [hhigh]
      rw [List.filter_cons, if_neg hout, ih, hempty, hrest, List.take_zero, List.take_zero,
        List.drop_nil, List.drop_nil]

theorem between_eq (low n : Nat) (xs : List α) :
    between low ((low + n : Nat) : Int) xs = (xs.drop low).take n := by
  have h := filter_zipIdx low (low + n) 0 xs
  rw [Nat.sub_zero, Nat.sub_zero, List.drop_take, Nat.add_sub_cancel_left] at h
  exact h

namespace Page

/-- The rows of a page. -/
def items (p : Page) (rows : List α) : List α :=
  if 0 < p.size then between (p.size * p.index) (p.size * (p.index + 1)) rows else rows

/-- How many pages of a size there are of `n` rows. -/
def count (n : Nat) (size : Int) : Nat :=
  if 0 < size then n ⌈/⌉ size.toNat else if 0 < n then 1 else 0

theorem total_eq (n : Nat) (size : Int) : total n size = count n size := by
  unfold total count
  by_cases h : 0 < size
  · rw [if_pos h, if_neg (Int.not_le.mpr h), Nat.ceilDiv_eq_add_pred_div]
  · rw [if_neg h, if_pos (Int.not_lt.mp h)]
    cases n <;> simp

theorem items_eq {p : Page} (h : 0 < p.size) (rows : List α) :
    p.items rows = (rows.drop (p.size.toNat * p.index)).take p.size.toNat := by
  have hsize : (p.size.toNat : Int) = p.size := Int.toNat_of_nonneg (Int.le_of_lt h)
  rw [items, if_pos h, ← between_eq, Nat.cast_add, Nat.cast_mul, hsize, Int.mul_add, Int.mul_one]

/-- There is an offset only with a limit. -/
theorem bind_offset (p : Page) : (p.limit.bind fun _ => p.offset) = p.offset := by
  unfold offset
  cases p.limit <;> rfl

/-- An offset that stays at the greatest is still behind all rows. -/
theorem windowed_window (p : Page) {rows : List α} (h : rows.length ≤ Text.maxU64) :
    windowed p.limit p.offset rows = p.items rows := by
  unfold offset limit
  split
  · next hsize =>
    rw [items_eq hsize, windowed, Option.map_some, Option.getD_some]
    by_cases hgreat : p.size.toNat * p.index ≤ Text.maxU64
    · rw [Nat.min_eq_left hgreat]
    · have hbehind : rows.length ≤ p.size.toNat * p.index := by omega
      rw [Nat.min_eq_right (by omega), List.drop_eq_nil_of_le h, List.drop_eq_nil_of_le hbehind]
  · next hsize => rw [items, if_neg hsize, windowed]

theorem take_eq_flatMap (size n : Nat) (xs : List α) :
    xs.take (size * n) = (List.range n).flatMap fun i => (xs.drop (size * i)).take size := by
  induction n with
  | zero => simp
  | succ n ih =>
    rw [Nat.mul_succ, List.take_add, ih, List.range_succ, List.flatMap_append, List.flatMap_singleton]

variable {p : Page} (h : 0 < p.size) (rows : List α)

include h

/-- The pages that are counted hold all rows, each once and in their order. -/
theorem flatMap_items :
    ((List.range (count rows.length p.size)).flatMap fun i => { p with index := i }.items rows) =
      rows := by
  have hitems : ∀ i, { p with index := i }.items rows =
      (rows.drop (p.size.toNat * i)).take p.size.toNat :=
    fun i => items_eq (p := { p with index := i }) h rows
  have hsize : 0 < p.size.toNat := by omega
  rw [funext hitems, ← take_eq_flatMap, count, if_pos h]
  exact List.take_of_length_le (le_smul_ceilDiv hsize)

/-- The pages that are counted are those with rows. -/
theorem items_ne_nil_iff : p.items rows ≠ [] ↔ p.index < count rows.length p.size := by
  have hsize : 0 < p.size.toNat := by omega
  rw [items_eq h, count, if_pos h, ← List.length_pos_iff, List.length_take, List.length_drop,
    ← Nat.not_le, ← Nat.not_le, ceilDiv_le_iff_le_mul hsize]
  omega

end Page

end SchemaRest
