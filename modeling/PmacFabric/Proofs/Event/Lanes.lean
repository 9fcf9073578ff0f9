/-!
# Items with hops ahead of them

All items that are under way wait in one queue, with the number of hops that each still has to make.
The queue mixes items that started at different times: an old item that has just made a hop stands
behind a new one that has made none. `inOrder` restores the order in which they started, if each
starts with the same number of hops: the fewer hops an item has ahead of it the older it is, and
items with equally many are as old as their order in the queue says.

Three laws say that it is this order that a queue keeps: items start at its end (`inOrder_append`),
a hop does not move an item (**`inOrder_hop`**), and items arrive from its front (`inOrder_arrive`).
-/

namespace PmacFabric

variable {α : Type}

/-- The items that have a number of hops ahead of them. -/
def lane (n : Nat) (items : List (Nat × α)) : List α :=
  (items.filter fun item => item.1 = n).map (·.2)

/-- The items that have at most so many hops ahead of them, oldest first. -/
def inOrder : Nat → List (Nat × α) → List α
  | 0, items => lane 0 items
  | n + 1, items => inOrder n items ++ lane (n + 1) items

section Lane

variable (n : Nat) (x : α) (items new : List (Nat × α))

theorem lane_append : lane n (items ++ new) = lane n items ++ lane n new := by
  rw [lane, List.filter_append, List.map_append]
  rfl

theorem lane_cons_self : lane n ((n, x) :: items) = x :: lane n items := by
  simp only [lane, List.filter_cons, decide_true, if_true, List.map_cons]

theorem lane_cons_ne {n m : Nat} (other : m ≠ n) (x : α) (items : List (Nat × α)) :
    lane n ((m, x) :: items) = lane n items := by
  simp only [lane, List.filter_cons, decide_eq_false other, Bool.false_eq_true, if_false]

/-- Items that all have the same way ahead are one lane. -/
theorem lane_map (data : List α) : lane n (data.map fun x => (n, x)) = data := by
  induction data with
  | nil => rfl
  | cons x rest ih => rw [List.map_cons, lane_cons_self, ih]

end Lane

theorem inOrder_nil (n : Nat) : inOrder n ([] : List (Nat × α)) = [] := by
  induction n with
  | zero => rfl
  | succ n ih =>
    rw [inOrder, ih]
    rfl

/-- Items with more hops ahead of them do not count. -/
theorem inOrder_cons_of_lt {n m : Nat} (above : n < m) (x : α) (items : List (Nat × α)) :
    inOrder n ((m, x) :: items) = inOrder n items := by
  induction n with
  | zero => exact lane_cons_ne (by omega) x items
  | succ n ih =>
    have below : n < m := by omega
    have other : m ≠ n + 1 := by omega
    rw [inOrder, inOrder, ih below, lane_cons_ne other]

/-- Items that have further to go are not among those nearby. -/
theorem inOrder_append_of_lt {n : Nat} (items : List (Nat × α)) {new : List (Nat × α)}
    (above : ∀ item ∈ new, n < item.1) : inOrder n (items ++ new) = inOrder n items := by
  have skipped : ∀ m, m ≤ n → lane m (items ++ new) = lane m items := by
    intro m hm
    have none_there : lane m new = [] := by
      rw [lane, List.map_eq_nil_iff, List.filter_eq_nil_iff]
      intro item mem same
      have := above item mem
      have := of_decide_eq_true same
      omega
    rw [lane_append, none_there, List.append_nil]
  induction n with
  | zero => exact skipped 0 (Nat.le_refl 0)
  | succ n ih =>
    have below : ∀ item ∈ new, n < item.1 := fun item mem => Nat.lt_of_succ_lt (above item mem)
    rw [inOrder, inOrder, ih below fun m hm => skipped m (Nat.le_succ_of_le hm),
      skipped (n + 1) (Nat.le_refl _)]

/-- **Items that start are the newest.** -/
theorem inOrder_append (n : Nat) (items : List (Nat × α)) (data : List α) :
    inOrder n (items ++ data.map fun x => (n, x)) = inOrder n items ++ data := by
  cases n with
  | zero => rw [inOrder, inOrder, lane_append, lane_map]
  | succ n =>
    have above : ∀ item ∈ data.map fun x => (n + 1, x), n < item.1 := by
      intro item mem
      obtain ⟨x, _, rfl⟩ := List.mem_map.mp mem
      exact Nat.lt_succ_self n
    rw [inOrder, inOrder, inOrder_append_of_lt items above, lane_append, lane_map,
      List.append_assoc]

/-- **A hop keeps the order**: the item leaves the front of its lane for the end of the next. -/
theorem inOrder_hop {n m : Nat} (within : m < n) (x : α) (items : List (Nat × α)) :
    inOrder n ((m + 1, x) :: items) = inOrder n (items ++ [(m, x)]) := by
  induction n with
  | zero => cases within
  | succ n ih =>
    rw [inOrder, inOrder]
    rcases Nat.lt_succ_iff_lt_or_eq.mp within with below | rfl
    · have here : m + 1 ≠ n + 1 := by omega
      have later : lane (n + 1) [(m, x)] = [] := lane_cons_ne (by omega) x []
      rw [ih below, lane_cons_ne here, lane_append, later, List.append_nil]
    · have last : inOrder m (items ++ [(m, x)]) = inOrder m items ++ [x] :=
        inOrder_append m items [x]
      have later : lane (m + 1) [(m, x)] = [] := lane_cons_ne (by omega) x []
      rw [inOrder_cons_of_lt (Nat.lt_succ_self m), last, lane_cons_self, lane_append, later,
        List.append_nil, List.append_assoc]
      rfl

/-- **The item that arrives is the oldest.** -/
theorem inOrder_arrive (n : Nat) (x : α) (items : List (Nat × α)) :
    inOrder n ((0, x) :: items) = x :: inOrder n items := by
  induction n with
  | zero => exact lane_cons_self 0 x items
  | succ n ih =>
    rw [inOrder, inOrder, ih, lane_cons_ne (Nat.succ_ne_zero n).symm]
    rfl

/-- The order has every item once, if none is farther away. -/
theorem inOrder_perm {n : Nat} {items : List (Nat × α)} (near : ∀ item ∈ items, item.1 ≤ n) :
    (inOrder n items).Perm (items.map (·.2)) := by
  have added : ∀ (n m : Nat) (x : α) (items : List (Nat × α)), m ≤ n →
      (inOrder n ((m, x) :: items)).Perm (x :: inOrder n items) := by
    intro n m x items hm
    induction n with
    | zero =>
      cases Nat.le_zero.mp hm
      rw [inOrder_arrive]
    | succ n ih =>
      rw [inOrder, inOrder]
      rcases Nat.le_succ_iff.mp hm with below | rfl
      · have other : m ≠ n + 1 := by omega
        rw [lane_cons_ne other]
        exact (ih below).append_right _
      · rw [inOrder_cons_of_lt (Nat.lt_succ_self n), lane_cons_self]
        exact List.perm_middle
  induction items with
  | nil =>
    rw [inOrder_nil]
    exact .nil
  | cons item rest ih =>
    have below := ih fun other mem => near other (List.mem_cons_of_mem item mem)
    exact (added n item.1 item.2 rest (near item List.mem_cons_self)).trans (below.cons item.2)

end PmacFabric
