import TestReach.Coverage.Total
import Mathlib.Algebra.BigOperators.Ring.List
import Mathlib.Algebra.Order.BigOperators.Group.List
import Mathlib.Algebra.Order.Field.Basic
import Mathlib.Algebra.Order.Ring.Rat
import Mathlib.Data.List.MinMax

/-!
# Exact totals

The mean that gives a report its total, taken of rational values. There it is a quotient of two
sums, in which a row without a weight adds nothing to either; so the order of the rows says nothing,
and the mean lies where the values lie that count. Whether it divides by zero is asked of numbers in
which such a quotient is told from all others.
-/

namespace TestReach.Coverage

/-- `totalPercent` in exact arithmetic: the same mean, of rational percents. -/
def exactMean (rows : List (Option Nat × ℚ)) : ℚ := weightedMean Nat.cast rows

def Counts (row : Option Nat × ℚ) : Prop := ∃ weight ∈ row.1, 0 < weight

instance : DecidablePred Counts := fun row =>
  inferInstanceAs (Decidable (∃ weight ∈ row.1, 0 < weight))

def counted (rows : List (Option Nat × ℚ)) : List (Option Nat × ℚ) :=
  rows.filter fun row => Counts row

@[simp] theorem mem_counted {row : Option Nat × ℚ} {rows : List (Option Nat × ℚ)} :
    row ∈ counted rows ↔ row ∈ rows ∧ Counts row := by
  simp [counted]

variable {rows more : List (Option Nat × ℚ)}

def weightOf (row : Option Nat × ℚ) : ℚ := (row.1.getD 0 : Nat)

def weightSum (rows : List (Option Nat × ℚ)) : ℚ := (rows.map weightOf).sum

def valueSum (rows : List (Option Nat × ℚ)) : ℚ := (rows.map fun row => weightOf row * row.2).sum

theorem weightOf_nonneg (row : Option Nat × ℚ) : 0 ≤ weightOf row := Nat.cast_nonneg _

theorem weightOf_pos {row : Option Nat × ℚ} (counts : Counts row) : 0 < weightOf row := by
  obtain ⟨weight, given, positive⟩ := counts
  rw [weightOf, Option.mem_def.1 given, Option.getD_some, Nat.cast_pos]
  exact positive

theorem weightOf_eq_zero {row : Option Nat × ℚ} (uncounted : ¬Counts row) : weightOf row = 0 := by
  obtain ⟨_ | weight, value⟩ := row
  · rfl
  · have zero : weight = 0 :=
      Nat.eq_zero_of_not_pos fun positive => uncounted ⟨weight, rfl, positive⟩
    simp [weightOf, zero]

theorem weightedSums_eq (sums : ℚ × ℚ) (rows : List (Option Nat × ℚ)) :
    weightedSums Nat.cast sums rows = (sums.1 + valueSum rows, sums.2 + weightSum rows) := by
  induction rows generalizing sums with
  | nil => simp [valueSum, weightSum]
  | cons row rows ih =>
    -- without a weight, of weight zero, or of a positive weight
    obtain ⟨_ | _ | weight, value⟩ := row
    · simp [ih, valueSum, weightSum, weightOf]
    · simp [ih, valueSum, weightSum, weightOf]
    · simp [ih, valueSum, weightSum, weightOf, add_assoc]

theorem exactMean_eq (rows : List (Option Nat × ℚ)) :
    exactMean rows = valueSum rows / weightSum rows := by
  -- The guard against weights that add up to zero needs no case of its own: a quotient by zero is
  -- zero here.
  have sums := weightedSums_eq (0, 0) rows
  rw [zero_add, zero_add] at sums
  rw [exactMean, weightedMean, sums]
  dsimp only
  split
  · rename_i zero
    rw [beq_iff_eq.1 zero, div_zero]
  · rfl

theorem weightSum_pos (some : ∃ row ∈ rows, Counts row) : 0 < weightSum rows := by
  obtain ⟨row, member, counts⟩ := some
  have nonneg : ∀ weight ∈ rows.map weightOf, 0 ≤ weight :=
    List.forall_mem_map.2 fun row _ => weightOf_nonneg row
  exact (weightOf_pos counts).trans_le
    (List.single_le_sum nonneg _ (List.mem_map_of_mem member))

theorem exactMean_mul_weightSum (some : ∃ row ∈ rows, Counts row) :
    exactMean rows * weightSum rows = valueSum rows := by
  rw [exactMean_eq, div_mul_cancel₀ _ (weightSum_pos some).ne']

theorem sum_counted {f : Option Nat × ℚ → ℚ} (nothing : ∀ row, ¬Counts row → f row = 0)
    (rows : List (Option Nat × ℚ)) : ((counted rows).map f).sum = (rows.map f).sum := by
  unfold counted
  induction rows with
  | nil => rfl
  | cons row rows ih =>
    by_cases counts : Counts row
    · simp [counts, ih]
    · simp [counts, ih, nothing row counts]

theorem exactMean_counted (rows : List (Option Nat × ℚ)) :
    exactMean (counted rows) = exactMean rows := by
  have weights : weightSum (counted rows) = weightSum rows :=
    sum_counted (fun _ => weightOf_eq_zero) rows
  have values : valueSum (counted rows) = valueSum rows :=
    sum_counted (fun row uncounted => by rw [weightOf_eq_zero uncounted, zero_mul]) rows
  rw [exactMean_eq, exactMean_eq, weights, values]

theorem exactMean_perm (same : rows.Perm more) : exactMean rows = exactMean more := by
  have weights : weightSum rows = weightSum more := (same.map weightOf).sum_eq
  have values : valueSum rows = valueSum more := (same.map _).sum_eq
  rw [exactMean_eq, exactMean_eq, weights, values]

theorem exactMean_uncounted (none : ∀ row ∈ rows, ¬Counts row) : exactMean rows = 0 := by
  have empty : counted rows = [] := by simpa [counted, List.filter_eq_nil_iff] using none
  rw [← exactMean_counted, empty]
  rfl

theorem sum_weighted_le {f g : Option Nat × ℚ → ℚ}
    (bound : ∀ row ∈ rows, Counts row → f row ≤ g row) :
    (rows.map fun row => weightOf row * f row).sum ≤
      (rows.map fun row => weightOf row * g row).sum := by
  apply List.sum_le_sum
  intro row member
  by_cases counts : Counts row
  · exact mul_le_mul_of_nonneg_left (bound row member counts) (weightOf_nonneg row)
  · rw [weightOf_eq_zero counts, zero_mul, zero_mul]

theorem le_exactMean {low : ℚ} (some : ∃ row ∈ rows, Counts row)
    (bound : ∀ row ∈ rows, Counts row → low ≤ row.2) : low ≤ exactMean rows := by
  rw [exactMean_eq, le_div_iff₀' (weightSum_pos some), weightSum, ← List.sum_map_mul_right]
  exact sum_weighted_le bound

theorem exactMean_le {high : ℚ} (some : ∃ row ∈ rows, Counts row)
    (bound : ∀ row ∈ rows, Counts row → row.2 ≤ high) : exactMean rows ≤ high := by
  rw [exactMean_eq, div_le_iff₀' (weightSum_pos some), weightSum, ← List.sum_map_mul_right]
  exact sum_weighted_le bound

theorem exactMean_append (some : ∃ row ∈ rows, Counts row) (others : ∃ row ∈ more, Counts row) :
    exactMean (rows ++ more) =
      (exactMean rows * weightSum rows + exactMean more * weightSum more) /
        (weightSum rows + weightSum more) := by
  rw [exactMean_mul_weightSum some, exactMean_mul_weightSum others, exactMean_eq]
  simp [valueSum, weightSum]

theorem exactMean_append_between (some : ∃ row ∈ rows, Counts row)
    (others : ∃ row ∈ more, Counts row) :
    min (exactMean rows) (exactMean more) ≤ exactMean (rows ++ more) ∧
      exactMean (rows ++ more) ≤ max (exactMean rows) (exactMean more) := by
  have first := weightSum_pos some
  have second := weightSum_pos others
  rw [exactMean_append some others, le_div_iff₀ (add_pos first second),
    div_le_iff₀ (add_pos first second), mul_add, mul_add]
  -- either mean times its own weights is compared by itself
  constructor
  · gcongr
    · exact min_le_left _ _
    · exact min_le_right _ _
  · gcongr
    · exact le_max_left _ _
    · exact le_max_right _ _

theorem exists_extremes (some : ∃ row ∈ rows, Counts row) :
    ∃ least ∈ rows, ∃ greatest ∈ rows, Counts least ∧ Counts greatest ∧
      ∀ row ∈ rows, Counts row → least.2 ≤ row.2 ∧ row.2 ≤ greatest.2 := by
  obtain ⟨row, member, counts⟩ := some
  have nonempty : counted rows ≠ [] := List.ne_nil_of_mem (mem_counted.2 ⟨member, counts⟩)
  obtain ⟨least, lowest⟩ :=
    Option.ne_none_iff_exists'.1 (mt (List.argmin_eq_none (f := Prod.snd)).1 nonempty)
  obtain ⟨greatest, highest⟩ :=
    Option.ne_none_iff_exists'.1 (mt (List.argmax_eq_none (f := Prod.snd)).1 nonempty)
  obtain ⟨low, lowCounts⟩ := mem_counted.1 (List.argmin_mem lowest)
  obtain ⟨high, highCounts⟩ := mem_counted.1 (List.argmax_mem highest)
  refine ⟨least, low, greatest, high, lowCounts, highCounts, fun row member counts => ?_⟩
  have listed : row ∈ counted rows := mem_counted.2 ⟨member, counts⟩
  exact ⟨List.le_of_mem_argmin listed lowest, List.le_of_mem_argmax listed highest⟩

/-- A rational number, or what a division by zero gives and every operation keeps. -/
inductive Checked
  | number (value : ℚ)
  | undefined
deriving DecidableEq

namespace Checked

def map₂ (f : ℚ → ℚ → ℚ) : Checked → Checked → Checked
  | number a, number b => number (f a b)
  | _, _ => undefined

instance : OfNat Checked 0 := ⟨number 0⟩

instance : Add Checked := ⟨map₂ (· + ·)⟩

instance : Mul Checked := ⟨map₂ (· * ·)⟩

instance : Div Checked := ⟨fun a b => if b = 0 then undefined else map₂ (· / ·) a b⟩

theorem zero_eq : (0 : Checked) = number 0 := rfl

theorem number_div {b : ℚ} (a : ℚ) (other : b ≠ 0) : number a / number b = number (a / b) :=
  if_neg (by simpa [zero_eq] using other)

def ofNat (n : Nat) : Checked := number n

def ofRow (row : Option Nat × ℚ) : Option Nat × Checked := (row.1, number row.2)

theorem weightedSums_ofRow (sums : ℚ × ℚ) (rows : List (Option Nat × ℚ)) :
    weightedSums ofNat (number sums.1, number sums.2) (rows.map ofRow) =
      (number (weightedSums Nat.cast sums rows).1, number (weightedSums Nat.cast sums rows).2) := by
  induction rows generalizing sums with
  | nil => rfl
  | cons row rows ih =>
    obtain ⟨_ | _ | weight, value⟩ := row
    · exact ih sums
    · exact ih sums
    · exact ih (sums.1 + (weight + 1 : Nat) * value, sums.2 + (weight + 1 : Nat))

end Checked

theorem weightedMean_checked (rows : List (Option Nat × ℚ)) :
    weightedMean Checked.ofNat (rows.map Checked.ofRow) = .number (exactMean rows) := by
  have sums := Checked.weightedSums_ofRow (0, 0) rows
  unfold exactMean weightedMean
  simp only [Checked.zero_eq, sums]
  by_cases zero : (weightedSums Nat.cast (0, 0) rows).2 = 0
  · simp [zero]
  · simp [zero, Checked.number_div]

/-- The mean of any rows is taken without a division by zero. It takes no notice of rows that do not
count, wherever they stand, nor of the order of the rows. Where no row counts it is zero; else it
lies between the least and the greatest of the values that count, and the mean of these rows and
others, some of which count too, lies between the means of the two. -/
theorem exactMean_bounded (rows : List (Option Nat × ℚ)) :
    weightedMean Checked.ofNat (rows.map Checked.ofRow) = .number (exactMean rows) ∧
      (∀ others : List (Option Nat × ℚ), counted others = counted rows →
        exactMean others = exactMean rows) ∧
      (∀ others : List (Option Nat × ℚ), others.Perm rows → exactMean others = exactMean rows) ∧
      ((∀ row ∈ rows, ¬Counts row) → exactMean rows = 0) ∧
      ((∃ row ∈ rows, Counts row) →
        (∃ least ∈ rows, ∃ greatest ∈ rows, Counts least ∧ Counts greatest ∧
          (∀ row ∈ rows, Counts row → least.2 ≤ row.2 ∧ row.2 ≤ greatest.2) ∧
          least.2 ≤ exactMean rows ∧ exactMean rows ≤ greatest.2) ∧
        ∀ more : List (Option Nat × ℚ), (∃ row ∈ more, Counts row) →
          min (exactMean rows) (exactMean more) ≤ exactMean (rows ++ more) ∧
            exactMean (rows ++ more) ≤ max (exactMean rows) (exactMean more)) := by
  refine ⟨weightedMean_checked rows, ?_, fun _ => exactMean_perm, exactMean_uncounted, ?_⟩
  · intro others same
    rw [← exactMean_counted others, same, exactMean_counted]
  · intro some
    obtain ⟨least, low, greatest, high, lowCounts, highCounts, between⟩ := exists_extremes some
    have above := le_exactMean some fun row member counts => (between row member counts).1
    have below := exactMean_le some fun row member counts => (between row member counts).2
    exact ⟨⟨least, low, greatest, high, lowCounts, highCounts, between, above, below⟩,
      fun more others => exactMean_append_between some others⟩

def mixedRows : List (Option Nat × ℚ) := [(none, 700), (some 10, 100), (some 0, -3), (some 20, 50)]

def laterRows : List (Option Nat × ℚ) := [(some 6, 1 / 2), (none, 0)]

theorem exactMean_bounded_mixed :
    (∃ row ∈ mixedRows, Counts row) ∧ (∃ row ∈ laterRows, Counts row) ∧
      exactMean mixedRows = 200 / 3 ∧ exactMean laterRows = 1 / 2 ∧
      exactMean (mixedRows ++ laterRows) = 2003 / 36 ∧
      weightedMean Checked.ofNat (mixedRows.map Checked.ofRow) = .number (exactMean mixedRows) ∧
      min (exactMean mixedRows) (exactMean laterRows) ≤ exactMean (mixedRows ++ laterRows) ∧
      exactMean (mixedRows ++ laterRows) ≤ max (exactMean mixedRows) (exactMean laterRows) := by
  have some : ∃ row ∈ mixedRows, Counts row := by decide
  have others : ∃ row ∈ laterRows, Counts row := by decide
  obtain ⟨checked, -, -, -, bounded⟩ := exactMean_bounded mixedRows
  exact ⟨some, others, by decide +kernel, by decide +kernel, by decide +kernel, checked,
    (bounded some).2 laterRows others⟩

end TestReach.Coverage
