import IPv6.Table.Addresses
import Mathlib.Data.List.Basic
/-!
Stable sorting. A stably sorted list is known by two things: it is in order, and rows that compare as
equal stand as they stood before. So one pass by a key after a pass by another is a single sort by the
first key and then the other, and passes by any number of keys are a single sort by all of them.
-/

namespace IPv6.Table

variable {Row : Type}

/-- Rows in the order of a comparison, equal ones left in their order. -/
def sortBy (order : Row → Row → Ordering) (rows : List Row) : List Row :=
  rows.mergeSort fun left right => (order left right).isLE

/-- The rows that are equal to one of them in an order. -/
def equalTo (order : Row → Row → Ordering) (row : Row) (rows : List Row) : List Row :=
  rows.filter fun other => order row other == .eq

/-- In order, and equal rows as they stand in the rows that were sorted. -/
structure IsStableSort (order : Row → Row → Ordering) (rows sorted : List Row) : Prop where
  ordered : sorted.Pairwise fun left right => (order left right).isLE
  stable : ∀ row, equalTo order row sorted = equalTo order row rows

theorem sortBy_perm (order : Row → Row → Ordering) (rows : List Row) :
    (sortBy order rows).Perm rows := List.mergeSort_perm rows _

theorem mem_equalTo {order : Row → Row → Ordering} {row other : Row} {rows : List Row} :
    other ∈ equalTo order row rows ↔ other ∈ rows ∧ order row other = .eq := by
  simp [equalTo]

section Order

variable {order : Row → Row → Ordering} [Std.TransCmp order]

theorem isLE_of_equal {row left right : Row} (first : order row left = .eq)
    (second : order row right = .eq) : (order left right).isLE := by
  rw [← Std.TransCmp.congr_left first, second]
  rfl

theorem isLE_total (left right : Row) :
    ((order left right).isLE || (order right left).isLE) = true := by
  have swap : order right left = (order left right).swap := Std.OrientedCmp.eq_swap
  rw [swap]
  cases order left right <;> rfl

theorem sortBy_isStableSort (rows : List Row) : IsStableSort order rows (sortBy order rows) where
  ordered := List.pairwise_mergeSort (fun _ _ _ => Std.TransCmp.isLE_trans) isLE_total rows
  stable row := by
    have alike : (equalTo order row rows).Pairwise fun left right => (order left right).isLE := by
      apply List.pairwise_of_forall_mem_list
      intro left inLeft right inRight
      exact isLE_of_equal (mem_equalTo.mp inLeft).2 (mem_equalTo.mp inRight).2
    -- The class is a sorted part of the rows, so a stable sort keeps it; and no other row is in it.
    have kept : (equalTo order row rows).Sublist (sortBy order rows) :=
      List.sublist_mergeSort (fun _ _ _ => Std.TransCmp.isLE_trans) isLE_total alike
        List.filter_sublist
    have inside : (equalTo order row rows).Sublist (equalTo order row (sortBy order rows)) := by
      have filtered := kept.filter fun other => order row other == .eq
      simpa [equalTo] using filtered
    have count := ((sortBy_perm order rows).filter fun other => order row other == .eq).length_eq
    exact (inside.eq_of_length count.symm).symm

theorem mem_iff_of_equalTo_eq {left right : List Row}
    (same : ∀ row, equalTo order row left = equalTo order row right) (row : Row) :
    row ∈ left ↔ row ∈ right := by
  have self : order row row = .eq := Std.ReflCmp.compare_self
  have inClass (rows : List Row) : row ∈ equalTo order row rows ↔ row ∈ rows := by
    simp [mem_equalTo, self]
  rw [← inClass left, same, inClass]

/-- Rows in the same order with the same classes of equal rows stand in the same places. -/
theorem eq_of_equalTo_eq {left right : List Row}
    (ordered : left.Pairwise fun first second => (order first second).isLE)
    (ordered' : right.Pairwise fun first second => (order first second).isLE)
    (same : ∀ row, equalTo order row left = equalTo order row right) : left = right := by
  have member := mem_iff_of_equalTo_eq same
  induction left generalizing right with
  | nil =>
    cases right with
    | nil => rfl
    | cons second _ => exact absurd ((member second).mpr List.mem_cons_self) List.not_mem_nil
  | cons first rest ih =>
    cases right with
    | nil => exact absurd ((member first).mp List.mem_cons_self) List.not_mem_nil
    | cons second rest' =>
      have self (row : Row) : order row row = .eq := Std.ReflCmp.compare_self
      rw [List.pairwise_cons] at ordered ordered'
      have forward : (order first second).isLE := by
        rcases List.mem_cons.mp ((member second).mpr List.mem_cons_self) with rfl | later
        · simp [self]
        · exact ordered.1 second later
      have backward : (order second first).isLE := by
        rcases List.mem_cons.mp ((member first).mp List.mem_cons_self) with rfl | later
        · simp [self]
        · exact ordered'.1 first later
      have level : order first second = .eq := Std.OrientedCmp.isLE_antisymm forward backward
      -- The two heads are equal in the order, so they begin the same class.
      have head : first = second := by
        have heads := same first
        simp only [equalTo, List.filter_cons, self, level, beq_self_eq_true, if_true] at heads
        exact (List.cons.inj heads).1
      subst head
      have tails (row : Row) : equalTo order row rest = equalTo order row rest' := by
        have both := same row
        simp only [equalTo, List.filter_cons] at both
        split at both
        · exact (List.cons.inj both).2
        · exact both
      rw [ih ordered.2 ordered'.2 tails (mem_iff_of_equalTo_eq tails)]

theorem IsStableSort.eq_sortBy {rows sorted : List Row}
    (isSorted : IsStableSort order rows sorted) : sorted = sortBy order rows := by
  have other : IsStableSort order rows (sortBy order rows) := sortBy_isStableSort rows
  apply eq_of_equalTo_eq isSorted.ordered other.ordered
  intro row
  rw [isSorted.stable, other.stable]

end Order

/-! ## Passes -/

section Passes

variable {first second : Row → Row → Ordering}

theorem equalTo_compareLex (row : Row) (rows : List Row) :
    equalTo (compareLex first second) row rows =
      equalTo second row (equalTo first row rows) := by
  rw [equalTo, equalTo, equalTo, List.filter_filter]
  apply List.filter_congr
  intro other _
  rw [compareLex]
  cases first row other <;> cases second row other <;> rfl

variable [Std.TransCmp first]

/-- Rows in a first order whose classes are in a second one are in the order of both. -/
theorem pairwise_compareLex {rows : List Row}
    (ordered : rows.Pairwise fun left right => (first left right).isLE)
    (classes : ∀ row, (equalTo first row rows).Pairwise fun left right => (second left right).isLE) :
    rows.Pairwise fun left right => (compareLex first second left right).isLE := by
  rw [List.pairwise_iff_forall_sublist] at ordered ⊢
  intro left right pair
  have before := ordered pair
  rw [compareLex, Ordering.isLE_then_iff_or]
  cases place : first left right with
  | lt => exact .inl rfl
  | gt => simp [place] at before
  | eq =>
    have self : first left left = .eq := Std.ReflCmp.compare_self
    have together : [left, right].Sublist (equalTo first left rows) := by
      have filtered := pair.filter fun other => first left other == .eq
      simpa [equalTo, self, place] using filtered
    exact .inr ⟨rfl, List.pairwise_iff_forall_sublist.mp (classes left) together⟩

variable [Std.TransCmp second]

theorem sortBy_sortBy (rows : List Row) :
    sortBy first (sortBy second rows) = sortBy (compareLex first second) rows := by
  have inner : IsStableSort second rows (sortBy second rows) := sortBy_isStableSort rows
  have outer : IsStableSort first (sortBy second rows) (sortBy first (sortBy second rows)) :=
    sortBy_isStableSort _
  apply IsStableSort.eq_sortBy
  constructor
  · apply pairwise_compareLex outer.ordered
    intro row
    rw [outer.stable]
    exact inner.ordered.filter _
  · intro row
    calc
      _ = equalTo second row (equalTo first row (sortBy second rows)) := by
        rw [equalTo_compareLex, outer.stable]
      _ = equalTo first row (equalTo second row (sortBy second rows)) := by
        simp only [equalTo, List.filter_filter, Bool.and_comm]
      _ = equalTo second row (equalTo first row rows) := by
        rw [inner.stable]
        simp only [equalTo, List.filter_filter, Bool.and_comm]
      _ = equalTo (compareLex first second) row rows := (equalTo_compareLex row rows).symm

end Passes

/-! ## Keys -/

/-- By several keys, the first the most significant. -/
def compareByKeys : List (Row → Nat) → Row → Row → Ordering
  | [] => fun _ _ => .eq
  | key :: keys => compareLex (compareOn key) (compareByKeys keys)

instance transCmp_compareByKeys (keys : List (Row → Nat)) : Std.TransCmp (compareByKeys keys) := by
  induction keys with
  | nil => exact { eq_swap := rfl, isLE_trans := fun _ _ => rfl }
  | cons key keys ih => exact inferInstanceAs (Std.TransCmp (compareLex _ _))

theorem sortOn_eq_sortBy (key : Row → Nat) (rows : List Row) :
    sortOn key rows = sortBy (compareOn key) rows := by
  have same (left right : Row) :
      decide (key left ≤ key right) = (compareOn key left right).isLE := by
    rw [compareOn, Bool.eq_iff_iff, decide_eq_true_iff, Nat.isLE_compare]
  simp only [sortOn, sortBy, same]

/-- One stable pass a key, the least significant first, is a single sort by all the keys. -/
theorem sortByKeys_eq_sortBy (keys : List (Row → Nat)) (rows : List Row) :
    sortByKeys keys rows = sortBy (compareByKeys keys) rows := by
  induction keys with
  | nil =>
    have level : rows.Pairwise fun left right => (compareByKeys [] left right).isLE :=
      List.pairwise_of_forall fun _ _ => rfl
    exact (List.mergeSort_of_pairwise level).symm
  | cons key keys ih =>
    calc
      sortByKeys (key :: keys) rows = sortOn key (sortByKeys keys rows) := rfl
      _ = sortBy (compareOn key) (sortBy (compareByKeys keys) rows) := by rw [ih, sortOn_eq_sortBy]
      _ = sortBy (compareByKeys (key :: keys)) rows := sortBy_sortBy rows

end IPv6.Table
