import PmacFabric.Total

/-!
# Laws of totals

How a total follows a change of one item (`totalOf_set`, `totalOf_exchange`), a change of the way to
count, and a choice among the items; what it is if one item counts at most (`totalOf_eq_of_alone`);
and how the items bound it (`totalOf_le`).
-/

namespace PmacFabric

/-! ## Totals after a change -/

/-- A total grows as the changed item does. -/
theorem totalOf_set {α : Type} {count : α → Nat} {old new : α} {gain : Nat}
    (grows : count new = count old + gain) {xs : List α} {i : Nat} (here : xs[i]? = some old) :
    totalOf count (xs.set i new) = totalOf count xs + gain := by
  induction xs generalizing i with
  | nil => cases here
  | cons x rest ih =>
    cases i with
    | zero =>
      have same : x = old := Option.some.inj here
      rw [List.set_cons_zero, totalOf_cons, totalOf_cons, grows, same]
      omega
    | succ i =>
      rw [List.set_cons_succ, totalOf_cons, totalOf_cons, ih here]
      omega

/-- Changing one item by a gain changes the total by that gain. -/
theorem totalOf_modify {α : Type} {count : α → Nat} {f : α → α} {gain : Nat}
    (grows : ∀ x, count (f x) = count x + gain) {xs : List α} {i : Nat} (within : i < xs.length) :
    totalOf count (xs.modify i f) = totalOf count xs + gain := by
  induction xs generalizing i with
  | nil => cases within
  | cons x rest ih =>
    cases i with
    | zero =>
      rw [List.modify_zero_cons, totalOf_cons, totalOf_cons, grows]
      omega
    | succ i =>
      rw [List.modify_succ_cons, totalOf_cons, totalOf_cons, ih (Nat.lt_of_succ_lt_succ within)]
      omega

/-- A change that no item counts changes no total. -/
theorem totalOf_modify_of_keeps {α : Type} {count : α → Nat} {f : α → α}
    (keeps : ∀ x, count (f x) = count x) (xs : List α) (i : Nat) :
    totalOf count (xs.modify i f) = totalOf count xs := by
  have grows : ∀ x, count (f x) = count x + 0 := keeps
  by_cases within : i < xs.length
  · exact totalOf_modify grows within
  · rw [List.modify_eq_self (Nat.not_lt.mp within)]

/-- Totals are equal where all items count the same. -/
theorem totalOf_congr {α : Type} {count count' : α → Nat} {xs : List α}
    (same : ∀ x ∈ xs, count x = count' x) : totalOf count xs = totalOf count' xs := by
  induction xs with
  | nil => rfl
  | cons x rest ih =>
    rw [totalOf_cons, totalOf_cons, same x List.mem_cons_self,
      ih fun y mem => same y (List.mem_cons_of_mem _ mem)]

/-- Items can be counted where they come from. -/
theorem totalOf_map {α β : Type} (count : β → Nat) (f : α → β) (xs : List α) :
    totalOf count (xs.map f) = totalOf (fun x => count (f x)) xs := by
  induction xs with
  | nil => rfl
  | cons x rest ih => rw [List.map_cons, totalOf_cons, totalOf_cons, ih]

/-- Items that are left out count nothing. -/
theorem totalOf_filter {α : Type} (count : α → Nat) (p : α → Bool) (xs : List α) :
    totalOf count (xs.filter p) = totalOf (fun x => if p x then count x else 0) xs := by
  induction xs with
  | nil => rfl
  | cons x rest ih =>
    cases kept : p x with
    | true => rw [List.filter_cons_of_pos kept, totalOf_cons, totalOf_cons, ih, if_pos kept]
    | false =>
      have dropped : ¬ p x = true := by rw [kept]; exact Bool.false_ne_true
      rw [List.filter_cons_of_neg dropped, totalOf_cons, ih, if_neg dropped, Nat.zero_add]

/-- Items without an image count nothing. -/
theorem totalOf_filterMap {α β : Type} (count : β → Nat) (f : α → Option β) (xs : List α) :
    totalOf count (xs.filterMap f) = totalOf (fun x => (f x).elim 0 count) xs := by
  induction xs with
  | nil => rfl
  | cons x rest ih =>
    cases found : f x with
    | none =>
      rw [List.filterMap_cons_none found, totalOf_cons, ih, found, Option.elim_none, Nat.zero_add]
    | some y =>
      rw [List.filterMap_cons_some found, totalOf_cons, totalOf_cons, ih, found, Option.elim_some]

/-- The items that are counted may be exchanged: what one loses the total loses, too. -/
theorem totalOf_exchange {α : Type} (count : α → Nat) {old : α} (new : α) {xs : List α} {i : Nat}
    (here : xs[i]? = some old) :
    totalOf count (xs.set i new) + count old = totalOf count xs + count new := by
  induction xs generalizing i with
  | nil => cases here
  | cons x rest ih =>
    cases i with
    | zero =>
      have same : x = old := Option.some.inj here
      rw [List.set_cons_zero, totalOf_cons, totalOf_cons, same]
      omega
    | succ i =>
      have later := ih here
      rw [List.set_cons_succ, totalOf_cons, totalOf_cons]
      omega

/-- A total does not depend on the order. -/
theorem totalOf_perm {α : Type} (count : α → Nat) {xs ys : List α} (perm : xs.Perm ys) :
    totalOf count xs = totalOf count ys := by
  induction perm with
  | nil => rfl
  | cons x _ ih => rw [totalOf_cons, totalOf_cons, ih]
  | swap x y rest =>
    simp only [totalOf_cons]
    omega
  | trans _ _ ih ih' => exact ih.trans ih'

/-- Lists that are joined have their lengths in total. -/
theorem length_flatMap {α β : Type} (f : α → List β) (xs : List α) :
    (xs.flatMap f).length = totalOf (fun x => (f x).length) xs := by
  induction xs with
  | nil => rfl
  | cons x rest ih => rw [List.flatMap_cons, List.length_append, totalOf_cons, ih]

/-- Lists that are joined have an item as often as it is in all of them. -/
theorem count_flatMap {α β : Type} [BEq β] (y : β) (f : α → List β) (xs : List α) :
    (xs.flatMap f).count y = totalOf (fun x => (f x).count y) xs := by
  induction xs with
  | nil => rfl
  | cons x rest ih => rw [List.flatMap_cons, List.count_append, totalOf_cons, ih]

/-! ## Totals of few items -/

/-- Items that count nothing total nothing. -/
theorem totalOf_eq_zero {α : Type} {count : α → Nat} {xs : List α}
    (none : ∀ x ∈ xs, count x = 0) : totalOf count xs = 0 := by
  induction xs with
  | nil => rfl
  | cons x rest ih =>
    rw [totalOf_cons, none x List.mem_cons_self, ih fun y mem => none y (List.mem_cons_of_mem x mem)]

/-- A total is the count of the only item that counts. -/
theorem totalOf_eq_of_alone {α : Type} {count : α → Nat} {xs : List α} {x : α}
    (distinct : xs.Nodup) (mem : x ∈ xs) (others : ∀ y ∈ xs, y ≠ x → count y = 0) :
    totalOf count xs = count x := by
  induction xs with
  | nil => cases mem
  | cons y rest ih =>
    obtain ⟨fresh, distinct⟩ := List.nodup_cons.mp distinct
    have later : ∀ z ∈ rest, z ≠ x → count z = 0 :=
      fun z listed => others z (List.mem_cons_of_mem y listed)
    rw [totalOf_cons]
    rcases List.mem_cons.mp mem with rfl | listed
    · rw [totalOf_eq_zero fun z listed => later z listed fun same => fresh (same ▸ listed),
        Nat.add_zero]
    · have first : y ≠ x := fun same => fresh (same ▸ listed)
      rw [others y List.mem_cons_self first, ih distinct listed later, Nat.zero_add]

/-! ## Bounds -/

/-- No item counts more than the total. -/
theorem le_totalOf {α : Type} (count : α → Nat) {x : α} {xs : List α} (mem : x ∈ xs) :
    count x ≤ totalOf count xs := by
  induction xs with
  | nil => cases mem
  | cons y rest ih =>
    rw [totalOf_cons]
    rcases List.mem_cons.mp mem with rfl | later
    · exact Nat.le_add_right _ _
    · exact Nat.le_trans (ih later) (Nat.le_add_left _ _)

/-- Items that count more total more. -/
theorem totalOf_mono {α : Type} {count count' : α → Nat} {xs : List α}
    (each : ∀ x ∈ xs, count x ≤ count' x) : totalOf count xs ≤ totalOf count' xs := by
  induction xs with
  | nil => exact Nat.le_refl 0
  | cons x rest ih =>
    rw [totalOf_cons, totalOf_cons]
    exact Nat.add_le_add (each x List.mem_cons_self)
      (ih fun y mem => each y (List.mem_cons_of_mem x mem))

/-- A bound of every item bounds the total. -/
theorem totalOf_le {α : Type} {f : α → Nat} {items : List α} {bound : Nat}
    (each : ∀ item ∈ items, f item ≤ bound) : totalOf f items ≤ items.length * bound := by
  induction items with
  | nil => exact Nat.zero_le _
  | cons item rest ih =>
    have first := each item List.mem_cons_self
    have others := ih fun other mem => each other (List.mem_cons_of_mem item mem)
    rw [totalOf_cons, List.length_cons, Nat.succ_mul]
    omega

/-- A bound of every numbered item bounds the total. -/
theorem totalOf_range_le {α : Type} {f : α → Nat} {g : Nat → α} {n bound : Nat}
    (each : ∀ i < n, f (g i) ≤ bound) : totalOf f ((List.range n).map g) ≤ n * bound := by
  have total : totalOf f ((List.range n).map g) ≤ ((List.range n).map g).length * bound := by
    apply totalOf_le
    intro item mem
    obtain ⟨i, hi, rfl⟩ := List.mem_map.mp mem
    exact each i (List.mem_range.mp hi)
  rwa [List.length_map, List.length_range] at total

/-- A total is small if at most one item is more than the bound. -/
theorem totalOf_range_le_add {f : Nat → Nat} {n bound extra : Nat}
    (each : ∀ i < n, f i ≤ bound + extra)
    (only : ∀ i < n, ∀ j < n, bound < f i → bound < f j → i = j) :
    totalOf f (List.range n) ≤ n * bound + extra := by
  induction n with
  | zero => exact Nat.zero_le _
  | succ n ih =>
    rw [List.range_succ, totalOf_append, totalOf_cons, totalOf_nil, Nat.succ_mul]
    by_cases large : bound < f n
    · have others : totalOf f ((List.range n).map id) ≤ n * bound := by
        refine totalOf_range_le fun i hi => Nat.not_lt.mp fun more => ?_
        have same := only i (Nat.lt_succ_of_lt hi) n (Nat.lt_succ_self n) more large
        exact Nat.ne_of_lt hi same
      rw [List.map_id] at others
      have last := each n (Nat.lt_succ_self n)
      omega
    · have others := ih (fun i hi => each i (Nat.lt_succ_of_lt hi)) fun i hi j hj =>
        only i (Nat.lt_succ_of_lt hi) j (Nat.lt_succ_of_lt hj)
      omega

/-- Many items that are not too small have a large total. -/
theorem le_totalOf_range {f : Nat → Nat} {n bound : Nat} (each : ∀ i < n, bound ≤ f i) :
    n * bound ≤ totalOf f (List.range n) := by
  induction n with
  | zero => exact Nat.le_of_eq (Nat.zero_mul bound)
  | succ n ih =>
    have others := ih fun i hi => each i (Nat.lt_succ_of_lt hi)
    have last := each n (Nat.lt_succ_self n)
    rw [List.range_succ, totalOf_append, totalOf_cons, totalOf_nil, Nat.succ_mul]
    omega

end PmacFabric
