import Mathlib.Algebra.GroupWithZero.Nat
import Mathlib.Data.List.Basic
import Mathlib.Logic.Relation

set_option autoImplicit false

-- Depth first search with a stack of nodes to visit.
namespace Shared.Search

section Closed

variable {α : Type} {next : α → List α} {target : α} {seen stack : List α}

abbrev Leads (next : α → List α) : α → α → Prop := Relation.ReflTransGen fun a b => b ∈ next a

-- What has been seen is not the target, and leads on to what is seen or stacked.
def Closed (next : α → List α) (target : α) (seen stack : List α) : Prop :=
  ∀ node ∈ seen, node ≠ target ∧ ∀ b ∈ next node, b ∈ seen ∨ b ∈ stack

theorem Closed.escapes (closed : Closed next target seen stack) {node : α} (leads : Leads next node target)
    (old : node ∈ seen) : ∃ b ∈ stack, Leads next b target := by
  induction leads using Relation.ReflTransGen.head_induction_on with
  | refl => exact absurd rfl (closed target old).1
  | @head a b first rest ih =>
    obtain inside | waiting := (closed a old).2 b first
    · exact ih inside
    · exact ⟨b, waiting, rest⟩

theorem Closed.pop {current : α} (closed : Closed next target seen (current :: stack))
    (old : current ∈ seen) : Closed next target seen stack := by
  intro node member
  refine ⟨(closed node member).1, fun b successor => ?_⟩
  obtain inside | waiting := (closed node member).2 b successor
  · exact .inl inside
  · obtain rfl | waiting := List.mem_cons.mp waiting
    · exact .inl old
    · exact .inr waiting

theorem Closed.visit {current : α} (closed : Closed next target seen (current :: stack))
    (other : current ≠ target) :
    Closed next target (current :: seen) ((next current).reverse ++ stack) := by
  intro node member
  obtain rfl | member := List.mem_cons.mp member
  · exact ⟨other, fun b successor =>
      .inr (List.mem_append_left _ (List.mem_reverse.mpr successor))⟩
  · refine ⟨(closed node member).1, fun b successor => ?_⟩
    obtain inside | waiting := (closed node member).2 b successor
    · exact .inl (List.mem_cons_of_mem _ inside)
    · obtain rfl | waiting := List.mem_cons.mp waiting
      · exact .inl List.mem_cons_self
      · exact .inr (List.mem_append_right _ waiting)

end Closed

variable {α : Type} [DecidableEq α] (next : α → List α) (target : α)

-- Whether the target comes off the stack. The last successor of a node is visited first.
def reaches : Nat → List α → List α → Bool
  | 0, _, _ => false
  | _ + 1, _, [] => false
  | fuel + 1, seen, current :: stack =>
    if current = target then true
    else if current ∈ seen then reaches fuel seen stack
    else reaches fuel (current :: seen) ((next current).reverse ++ stack)

-- The pops that are left: what is stacked, and what the nodes not seen yet will stack.
def cost (nodes seen stack : List α) : Nat :=
  stack.length + ((nodes.filter (· ∉ seen)).map fun node => (next node).length).sum

variable {next target} {nodes seen stack : List α}

theorem cost_pop {current : α} :
    cost next nodes seen (current :: stack) = cost next nodes seen stack + 1 := by
  simp only [cost, List.length_cons]
  omega

theorem cost_visit {current : α} (distinct : nodes.Nodup)
    (known : ∀ node, next node ≠ [] → node ∈ nodes) (fresh : current ∉ seen) :
    cost next nodes (current :: seen) ((next current).reverse ++ stack) =
      cost next nodes seen stack := by
  have left : nodes.filter (· ∉ current :: seen) = (nodes.filter (· ∉ seen)).erase current := by
    rw [List.Nodup.erase_eq_filter (distinct.filter _), List.filter_filter]
    refine List.filter_congr fun node _ => ?_
    simp [bne, BEq.beq]
  unfold cost
  rw [List.length_append, List.length_reverse, left]
  by_cases member : current ∈ nodes
  · have unseen : current ∈ nodes.filter (· ∉ seen) := by simp [member, fresh]
    have total := (List.perm_cons_erase unseen).map fun node => (next node).length
    rw [total.sum_nat, List.map_cons, List.sum_cons]
    omega
  · have stacked : next current = [] := by
      by_contra some
      exact member (known current some)
    rw [List.erase_of_not_mem fun found => member (List.mem_of_mem_filter found), stacked]
    simp

theorem reaches_iff {fuel : Nat} (distinct : nodes.Nodup)
    (known : ∀ node, next node ≠ [] → node ∈ nodes) (closed : Closed next target seen stack)
    (enough : cost next nodes seen stack < fuel) :
    reaches next target fuel seen stack = true ↔ ∃ node ∈ stack, Leads next node target := by
  induction fuel generalizing seen stack with
  | zero => omega
  | succ fuel ih =>
    cases stack with
    | nil => simp [reaches]
    | cons current stack =>
      rw [cost_pop] at enough
      rw [reaches]
      split
      next same => exact iff_of_true rfl ⟨current, List.mem_cons_self, same ▸ .refl⟩
      next other =>
        split
        next old =>
          rw [ih (closed.pop old) (by omega)]
          constructor
          · rintro ⟨node, member, leads⟩
            exact ⟨node, List.mem_cons_of_mem _ member, leads⟩
          · rintro ⟨node, member, leads⟩
            obtain rfl | member := List.mem_cons.mp member
            · exact (closed.pop old).escapes leads old
            · exact ⟨node, member, leads⟩
        next fresh =>
          rw [ih (closed.visit other) (by rw [cost_visit distinct known fresh]; omega)]
          constructor
          · rintro ⟨node, member, leads⟩
            obtain successor | member := List.mem_append.mp member
            · exact ⟨current, List.mem_cons_self, leads.head (List.mem_reverse.mp successor)⟩
            · exact ⟨node, List.mem_cons_of_mem _ member, leads⟩
          · rintro ⟨node, member, leads⟩
            obtain rfl | member := List.mem_cons.mp member
            · exact (closed.visit other).escapes leads List.mem_cons_self
            · exact ⟨node, List.mem_append_right _ member, leads⟩

end Shared.Search
