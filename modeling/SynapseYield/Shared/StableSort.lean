import Mathlib.Data.List.Sort
import Mathlib.Order.Lattice

set_option autoImplicit false

-- Sorting by a key so that items with one key keep their order, and the last item up to a bound.
namespace Shared.StableSort

variable {α κ : Type} [LinearOrder κ] (key : α → κ)

def sortBy (xs : List α) : List α := xs.insertionSort (fun x y => key x ≤ key y)

def asOf (bound : κ) (xs : List α) : Option α :=
  ((sortBy key xs).filter (key · ≤ bound)).getLast?

variable {key} {x : α} {xs : List α}

theorem mem_sortBy : x ∈ sortBy key xs ↔ x ∈ xs := List.mem_insertionSort _

theorem sortBy_sorted : (sortBy key xs).Pairwise fun x y => key x ≤ key y := by
  have : IsTrans α fun x y => key x ≤ key y := ⟨fun _ _ _ => le_trans⟩
  have : Std.Total fun x y : α => key x ≤ key y := ⟨fun x y => le_total (key x) (key y)⟩
  exact List.pairwise_insertionSort _ xs

theorem sortBy_sortBy : sortBy key (sortBy key xs) = sortBy key xs :=
  sortBy_sorted.insertionSort_eq

theorem sortBy_map {β : Type} (key : β → κ) (f : α → β) (xs : List α) :
    sortBy key (xs.map f) = (sortBy (key ∘ f) xs).map f :=
  (List.map_insertionSort _ _ f xs fun _ _ _ _ => Iff.rfl).symm

theorem insert_congr {key' : α → κ} (same : ∀ y ∈ x :: xs, key y = key' y) :
    xs.orderedInsert (fun x y => key x ≤ key y) x =
      xs.orderedInsert (fun x y => key' x ≤ key' y) x := by
  induction xs with
  | nil => rfl
  | cons y xs ih =>
    obtain ⟨head, next, tail⟩ := by simpa only [List.forall_mem_cons] using same
    rw [List.orderedInsert_cons, List.orderedInsert_cons, head, next,
      ih (List.forall_mem_cons.mpr ⟨head, tail⟩)]

theorem sortBy_congr {key' : α → κ} (same : ∀ x ∈ xs, key x = key' x) :
    sortBy key xs = sortBy key' xs := by
  induction xs with
  | nil => rfl
  | cons x xs ih =>
    obtain ⟨head, tail⟩ := List.forall_mem_cons.mp same
    change List.orderedInsert _ x (sortBy key xs) = List.orderedInsert _ x (sortBy key' xs)
    rw [ih tail]
    refine insert_congr (List.forall_mem_cons.mpr ⟨head, fun y member => ?_⟩)
    exact tail y (mem_sortBy.mp member)

theorem insert_front (least : ∀ y ∈ xs, key x ≤ key y) :
    xs.orderedInsert (fun x y => key x ≤ key y) x = x :: xs := by
  cases xs with
  | nil => rfl
  | cons y xs => exact List.orderedInsert_cons_of_le _ xs (least y List.mem_cons_self)

theorem filter_insert {p : α → Bool} (sorted : xs.Pairwise fun x y => key x ≤ key y) :
    (xs.orderedInsert (fun x y => key x ≤ key y) x).filter p =
      if p x then (xs.filter p).orderedInsert (fun x y => key x ≤ key y) x else xs.filter p := by
  induction xs with
  | nil => cases holds : p x <;> simp [holds]
  | cons y xs ih =>
    obtain ⟨least, sorted⟩ := List.pairwise_cons.mp sorted
    by_cases le : key x ≤ key y
    · rw [List.orderedInsert_cons_of_le _ xs le]
      cases holds : p x with
      | false => simp [List.filter_cons, holds]
      | true =>
        rw [if_pos rfl, insert_front, List.filter_cons_of_pos holds]
        intro z member
        obtain rfl | member := List.mem_cons.mp (List.mem_of_mem_filter member)
        · exact le
        · exact le.trans (least z member)
    · rw [List.orderedInsert_of_not_le _ xs le]
      cases kept : p y with
      | false =>
        rw [List.filter_cons_of_neg (by simp [kept]), ih sorted,
          List.filter_cons_of_neg (by simp [kept])]
      | true =>
        rw [List.filter_cons_of_pos kept, ih sorted, List.filter_cons_of_pos kept]
        cases p x with
        | false => rfl
        | true => simp [le]

theorem filter_sortBy (p : α → Bool) (xs : List α) :
    (sortBy key xs).filter p = sortBy key (xs.filter p) := by
  induction xs with
  | nil => rfl
  | cons x xs ih =>
    change (List.orderedInsert _ x (sortBy key xs)).filter p = _
    rw [filter_insert sortBy_sorted, ih]
    cases holds : p x with
    | false => rw [List.filter_cons_of_neg (by simp [holds])]; rfl
    | true => rw [List.filter_cons_of_pos holds]; rfl

theorem insert_stable {r : α → α → Prop} (first : ∀ y ∈ xs, r x y)
    (ordered : xs.Pairwise fun x y => key x < key y ∨ key x = key y ∧ r x y) :
    (xs.orderedInsert (fun x y => key x ≤ key y) x).Pairwise
      fun x y => key x < key y ∨ key x = key y ∧ r x y := by
  induction xs with
  | nil => simp
  | cons y xs ih =>
    obtain ⟨least, rest⟩ := List.pairwise_cons.mp ordered
    obtain ⟨head, tail⟩ := List.forall_mem_cons.mp first
    by_cases le : key x ≤ key y
    · rw [List.orderedInsert_cons_of_le _ xs le]
      refine List.pairwise_cons.mpr ⟨?_, ordered⟩
      intro z member
      have below : key x ≤ key z := by
        obtain rfl | member := List.mem_cons.mp member
        · exact le
        · rcases least z member with less | ⟨same, -⟩
          · exact le.trans less.le
          · exact same ▸ le
      rcases below.lt_or_eq with less | same
      · exact .inl less
      · exact .inr ⟨same, first z member⟩
    · rw [List.orderedInsert_of_not_le _ xs le]
      refine List.pairwise_cons.mpr ⟨?_, ih tail rest⟩
      intro z member
      obtain rfl | member := (List.mem_orderedInsert _).mp member
      · exact .inl (not_le.mp le)
      · exact least z member

theorem sortBy_stable {r : α → α → Prop} (ordered : xs.Pairwise r) :
    (sortBy key xs).Pairwise fun x y => key x < key y ∨ key x = key y ∧ r x y := by
  induction xs with
  | nil => exact .nil
  | cons x xs ih =>
    obtain ⟨first, rest⟩ := List.pairwise_cons.mp ordered
    exact insert_stable (fun y member => first y (mem_sortBy.mp member)) (ih rest)

variable {bound : κ}

theorem asOf_filter (p : α → Bool) (visible : ∀ x ∈ xs, key x ≤ bound → p x = true) :
    asOf key bound (xs.filter p) = asOf key bound xs := by
  unfold asOf
  rw [← filter_sortBy, List.filter_filter]
  congr 1
  refine List.filter_congr fun x member => ?_
  by_cases within : key x ≤ bound
  · simp [within, visible x (mem_sortBy.mp member) within]
  · simp [within]

theorem asOf_sortBy : asOf key bound (sortBy key xs) = asOf key bound xs := by
  rw [asOf, sortBy_sortBy, asOf]

theorem asOf_map {β : Type} (key : β → κ) (f : α → β) (bound : κ) (xs : List α) :
    asOf key bound (xs.map f) = (asOf (key ∘ f) bound xs).map f := by
  rw [asOf, sortBy_map, List.filter_map, List.getLast?_map]
  rfl

theorem asOf_mem (found : asOf key bound xs = some x) : x ∈ xs ∧ key x ≤ bound := by
  obtain ⟨member, within⟩ := List.mem_filter.mp (List.mem_of_getLast? found)
  exact ⟨mem_sortBy.mp member, of_decide_eq_true within⟩

theorem asOf_last {r : α → α → Prop} (ordered : xs.Pairwise r) (refl : r x x)
    (found : asOf key bound xs = some x) {y : α} (member : y ∈ xs) (within : key y ≤ bound) :
    key y < key x ∨ key y = key x ∧ r y x := by
  have stable : (sortBy key xs).Pairwise _ := sortBy_stable ordered
  have sorted := stable.filter (key · ≤ bound)
  obtain ⟨before, split⟩ := List.getLast?_eq_some_iff.mp found
  have visible : y ∈ (sortBy key xs).filter (key · ≤ bound) :=
    List.mem_filter.mpr ⟨mem_sortBy.mpr member, decide_eq_true within⟩
  rw [split] at sorted visible
  obtain earlier | last := List.mem_append.mp visible
  · exact (List.pairwise_append.mp sorted).2.2 y earlier x (List.mem_singleton_self x)
  · obtain rfl := List.mem_singleton.mp last
    exact .inr ⟨rfl, refl⟩

end Shared.StableSort
