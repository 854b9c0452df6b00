import TestReach.Coverage.Row

/-!
# Totals

The total of a report is the mean of its percents, each weighted by the size of its function. Rows
without a positive weight do not count.
-/

namespace TestReach.Coverage

variable {α : Type}

section Sums

variable [Add α] [Mul α] (size : Nat → α)

def weightedSums (sums : α × α) (rows : List (Option Nat × α)) : α × α :=
  rows.foldl
    (fun (weighted, total) (weight?, value) =>
      match weight? with
      | some (weight + 1) => (weighted + size (weight + 1) * value, total + size (weight + 1))
      | _ => (weighted, total))
    sums

@[simp] theorem weightedSums_nil (sums : α × α) : weightedSums size sums [] = sums := rfl

@[simp] theorem weightedSums_cons_none (sums : α × α) (value : α)
    (rows : List (Option Nat × α)) :
    weightedSums size sums ((none, value) :: rows) = weightedSums size sums rows := rfl

@[simp] theorem weightedSums_cons_zero (sums : α × α) (value : α)
    (rows : List (Option Nat × α)) :
    weightedSums size sums ((some 0, value) :: rows) = weightedSums size sums rows := rfl

@[simp] theorem weightedSums_cons_succ (sums : α × α) (weight : Nat) (value : α)
    (rows : List (Option Nat × α)) :
    weightedSums size sums ((some (weight + 1), value) :: rows) =
      weightedSums size (sums.1 + size (weight + 1) * value, sums.2 + size (weight + 1)) rows :=
  rfl

end Sums

/-- The weighted mean of values; without a weight it is zero. -/
def weightedMean [OfNat α 0] [Add α] [Mul α] [Div α] [BEq α] (size : Nat → α)
    (rows : List (Option Nat × α)) : α :=
  let (weighted, total) := weightedSums size (0, 0) rows
  if total == 0 then 0 else weighted / total

def totalPercent (rows : List Row) : Float :=
  weightedMean Float.ofNat (rows.map fun row => (row.weight?, row.percent))

def Report.ofRows (rows : List Row) : Report := ⟨rows, totalPercent rows⟩

end TestReach.Coverage
