/-!
# Totals

Counters are added up over devices, over reasons for drops, and over what still waits.
-/

namespace PmacFabric

/-- The sum of a count over all items. -/
def totalOf {α : Type} (count : α → Nat) : List α → Nat
  | [] => 0
  | item :: rest => count item + totalOf count rest

@[simp] theorem totalOf_nil {α : Type} (count : α → Nat) : totalOf count [] = 0 := rfl

@[simp] theorem totalOf_cons {α : Type} (count : α → Nat) (item : α) (rest : List α) :
    totalOf count (item :: rest) = count item + totalOf count rest := rfl

@[simp] theorem totalOf_append {α : Type} (count : α → Nat) (xs ys : List α) :
    totalOf count (xs ++ ys) = totalOf count xs + totalOf count ys := by
  induction xs with
  | nil => exact (Nat.zero_add _).symm
  | cons x xs ih => rw [List.cons_append, totalOf_cons, ih, totalOf_cons, Nat.add_assoc]

end PmacFabric
