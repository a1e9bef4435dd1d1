import Mathlib.Data.List.Forall2
import Mathlib.Data.List.ReduceOption

set_option autoImplicit false

namespace Shared.Outcome

variable {ε α β γ : Type}

theorem bind_ok {x : Except ε α} {f : α → Except ε β} {b : β} :
    x >>= f = .ok b ↔ ∃ a, x = .ok a ∧ f a = .ok b := by
  cases x with
  | ok a => simp [bind, Except.bind]
  | error e => simp [bind, Except.bind]

theorem andThen_ok {x : Except ε Unit} {y : Except ε β} {b : β} :
    (x >>= fun _ => y) = .ok b ↔ x = .ok () ∧ y = .ok b := by
  rw [bind_ok]
  exact ⟨fun ⟨(), first, second⟩ => ⟨first, second⟩, fun ⟨first, second⟩ => ⟨(), first, second⟩⟩

theorem pure_ok {a b : α} : (pure a : Except ε α) = .ok b ↔ a = b := by
  simp [pure, Except.pure]

theorem map_ok {f : α → β} {x : Except ε α} {b : β} :
    f <$> x = .ok b ↔ ∃ a, x = .ok a ∧ f a = b := by
  cases x with
  | ok a => simp [Functor.map, Except.map]
  | error e => simp [Functor.map, Except.map]

theorem mapM_ok {f : α → Except ε β} {xs : List α} {ys : List β} :
    xs.mapM f = .ok ys ↔ List.Forall₂ (fun x y => f x = .ok y) xs ys := by
  induction xs generalizing ys with
  | nil =>
    rw [List.mapM_nil, pure_ok, List.forall₂_nil_left_iff, eq_comm]
  | cons x xs ih =>
    simp only [List.mapM_cons, bind_ok, pure_ok, ih]
    constructor
    · rintro ⟨y, head, rest, tail, rfl⟩
      exact .cons head tail
    · rintro (_ | ⟨head, tail⟩)
      exact ⟨_, head, _, tail, rfl⟩

theorem exists_mapM_ok {f : α → Except ε β} {xs : List α} :
    (∃ ys, xs.mapM f = .ok ys) ↔ ∀ x ∈ xs, ∃ y, f x = .ok y := by
  simp only [mapM_ok]
  induction xs with
  | nil => simp
  | cons x xs ih =>
    rw [List.forall_mem_cons, ← ih]
    constructor
    · rintro ⟨_, _ | ⟨head, tail⟩⟩
      exact ⟨⟨_, head⟩, _, tail⟩
    · rintro ⟨⟨y, head⟩, ys, tail⟩
      exact ⟨y :: ys, .cons head tail⟩

theorem mem_of_mapM_ok {f : α → Except ε β} {xs : List α} {ys : List β}
    (mapped : xs.mapM f = .ok ys) {y : β} : y ∈ ys ↔ ∃ x ∈ xs, f x = .ok y := by
  rw [mapM_ok] at mapped
  induction mapped with
  | nil => simp
  | @cons x z xs ys head tail ih =>
    rw [List.mem_cons, List.exists_mem_cons_iff, ih, head, Except.ok.injEq, eq_comm]

theorem forM_ok {f : α → Except ε Unit} {xs : List α} :
    xs.forM f = .ok () ↔ ∀ x ∈ xs, f x = .ok () := by
  induction xs with
  | nil => exact iff_of_true rfl (List.forall_mem_nil _)
  | cons x xs ih =>
    change (f x >>= fun _ => xs.forM f) = .ok () ↔ _
    rw [andThen_ok, List.forall_mem_cons, ih]

theorem exists_forall₂ {related : α → β → Prop} {xs : List α}
    (each : ∀ x ∈ xs, ∃ y, related x y) : ∃ ys, List.Forall₂ related xs ys := by
  induction xs with
  | nil => exact ⟨[], .nil⟩
  | cons x xs ih =>
    obtain ⟨head, tail⟩ := List.forall_mem_cons.mp each
    obtain ⟨y, holds⟩ := head
    obtain ⟨ys, all⟩ := ih tail
    exact ⟨y :: ys, .cons holds all⟩

theorem forall₂_right {related : α → β → Prop} {xs : List α} {ys : List β}
    (all : List.Forall₂ related xs ys) {x : α} (member : x ∈ xs) : ∃ y ∈ ys, related x y := by
  induction all with
  | nil => cases member
  | @cons x' y xs ys head _ ih =>
    obtain rfl | member := List.mem_cons.mp member
    · exact ⟨y, List.mem_cons_self, head⟩
    · obtain ⟨y, present, holds⟩ := ih member
      exact ⟨y, List.mem_cons_of_mem _ present, holds⟩

theorem forall₂_left {related : α → β → Prop} {xs : List α} {ys : List β}
    (all : List.Forall₂ related xs ys) {y : β} (member : y ∈ ys) : ∃ x ∈ xs, related x y :=
  forall₂_right all.flip member

theorem forall₂_reduceOption {related : α → β → Prop} {xs : List (Option α)}
    {ys : List (Option β)} (all : List.Forall₂ (Option.Rel related) xs ys) :
    List.Forall₂ related xs.reduceOption ys.reduceOption := by
  induction all with
  | nil => exact .nil
  | cons head _ ih =>
    cases head with
    | none => simpa using ih
    | some holds => simpa using ⟨holds, ih⟩

end Shared.Outcome
