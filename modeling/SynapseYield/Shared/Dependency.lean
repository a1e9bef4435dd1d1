import Mathlib.Logic.Relation
import Mathlib.Data.List.Basic

set_option autoImplicit false

-- edge a b: a depends on b.
namespace Shared.Dependency

variable {α : Type} {edge finer : α → α → Prop}

def Cyclic (edge : α → α → Prop) : Prop := ∃ a, Relation.TransGen edge a a

-- No chain of dependencies that starts here goes on for ever.
def Founded (edge : α → α → Prop) (a : α) : Prop := Acc (fun b a => edge a b) a

theorem Founded.intro {a : α} (below : ∀ b, edge a b → Founded edge b) : Founded edge a :=
  Acc.intro a below

theorem Founded.not_loop {a : α} (founded : Founded edge a) : ¬ Relation.TransGen edge a a := by
  induction founded with
  | intro a _ ih =>
    intro loop
    obtain ⟨b, first, back⟩ := Relation.TransGen.head'_iff.mp loop
    exact ih b first (Relation.TransGen.tail' back first)

theorem not_cyclic (founded : ∀ a, Founded edge a) : ¬ Cyclic edge := by
  rintro ⟨a, loop⟩
  exact (founded a).not_loop loop

theorem Cyclic.mono (subset : ∀ a b, finer a b → edge a b) (cyclic : Cyclic finer) :
    Cyclic edge := by
  obtain ⟨a, loop⟩ := cyclic
  exact ⟨a, Relation.TransGen.mono subset a a loop⟩

def Layered (edge : α → α → Prop) (layers : List (List α)) : Prop :=
  ∀ (i : Nat) (layer : List α), layers[i]? = some layer → ∀ a ∈ layer, ∀ b, edge a b →
    ∃ j < i, ∃ earlier, layers[j]? = some earlier ∧ b ∈ earlier

theorem Layered.nil : Layered edge [] := by
  intro i layer found
  simp at found

theorem Layered.snoc {layers : List (List α)} {last : List α} (layered : Layered edge layers)
    (ready : ∀ a ∈ last, ∀ b, edge a b → b ∈ layers.flatten) :
    Layered edge (layers ++ [last]) := by
  intro i layer found a member b depends
  by_cases before : i < layers.length
  · rw [List.getElem?_append_left before] at found
    obtain ⟨j, earlier, other, there, present⟩ := layered i layer found a member b depends
    refine ⟨j, earlier, other, ?_, present⟩
    rw [List.getElem?_append_left (Nat.lt_trans earlier before), there]
  · obtain ⟨inside, here⟩ := List.getElem?_eq_some_iff.mp found
    obtain rfl : i = layers.length := by simp at inside; omega
    obtain rfl : last = layer := by simpa using here
    obtain ⟨other, chosen, present⟩ := List.mem_flatten.mp (ready a member b depends)
    obtain ⟨j, bound, there⟩ := List.getElem_of_mem chosen
    refine ⟨j, bound, other, ?_, present⟩
    rw [List.getElem?_append_left bound, List.getElem?_eq_getElem bound, there]

section Prefix

variable {before rest : List (List α)} {layer : List α} {a b : α}

theorem Layered.ready (layered : Layered edge (before ++ layer :: rest)) (member : a ∈ layer)
    (depends : edge a b) : b ∈ before.flatten := by
  obtain ⟨j, earlier, other, there, present⟩ :=
    layered before.length layer (by simp) a member b depends
  rw [List.getElem?_append_left earlier] at there
  exact List.mem_flatten.mpr ⟨other, List.mem_of_getElem? there, present⟩

theorem Layered.closed (layered : Layered edge (before ++ rest)) (member : a ∈ before.flatten)
    (depends : edge a b) : b ∈ before.flatten := by
  obtain ⟨layer, listed, member⟩ := List.mem_flatten.mp member
  obtain ⟨i, inside, here⟩ := List.getElem_of_mem listed
  have found : (before ++ rest)[i]? = some layer := by
    rw [List.getElem?_append_left inside, List.getElem?_eq_getElem inside, here]
  obtain ⟨j, earlier, other, there, present⟩ := layered i layer found a member b depends
  rw [List.getElem?_append_left (Nat.lt_trans earlier inside)] at there
  exact List.mem_flatten.mpr ⟨other, List.mem_of_getElem? there, present⟩

theorem Layered.below (layered : Layered edge (before ++ layer :: rest)) (member : a ∈ layer)
    (depends : Relation.TransGen edge a b) : b ∈ before.flatten := by
  induction depends with
  | single first => exact layered.ready member first
  | tail _ last ih => exact layered.closed ih last

end Prefix

end Shared.Dependency
