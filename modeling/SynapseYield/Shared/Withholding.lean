import Mathlib.Data.List.Basic
import Mathlib.Data.List.Infix

set_option autoImplicit false

-- A text that comes in pieces, and is withheld as long as it may still turn out to be something.
namespace Shared.Withholding

variable {α : Type}

section Compatible

-- One of the two begins with the other.
def Compatible (a b : List α) : Prop := a <+: b ∨ b <+: a

variable {a b c : List α}

theorem Compatible.front (compatible : Compatible b c) (front : a <+: b) : Compatible a c := by
  obtain before | after := compatible
  · exact .inl (front.trans before)
  · exact List.prefix_or_prefix_of_prefix front after

theorem Compatible.cut {x : α} (compatible : Compatible (a ++ x :: b) c) (absent : x ∉ c) :
    c <+: a := by
  obtain before | after := compatible
  · exact absurd (before.subset (List.mem_append_right _ List.mem_cons_self)) absent
  · obtain front | front := List.prefix_or_prefix_of_prefix after (List.prefix_append a (x :: b))
    · exact front
    · obtain ⟨rest, rfl⟩ := front
      obtain ⟨more, same⟩ := after
      rw [List.append_assoc, List.append_cancel_left_eq] at same
      cases rest with
      | nil => exact (List.append_nil a).symm ▸ List.prefix_rfl
      | cons head rest =>
        obtain ⟨rfl, -⟩ := List.cons.inj same
        exact absurd (List.mem_append_right _ List.mem_cons_self) absent

end Compatible

variable {held : List α → Bool} {total pending piece : List α} {sent : List (List α)}

-- Of the text so far, nothing has been sent while it is held, and all since it is not.
structure Withheld (held : List α → Bool) (total pending : List α) (holding : Bool)
    (sent : List (List α)) : Prop where
  holds : holding = held total
  pending : pending = if holding then total else []
  sent : sent.flatten = if holding then [] else total

theorem Withheld.nil (possible : held [] = true) : Withheld held [] [] true [] :=
  ⟨possible.symm, rfl, rfl⟩

theorem Withheld.hold (withheld : Withheld held total pending true sent)
    (still : held (pending ++ piece) = true) :
    Withheld held (total ++ piece) (pending ++ piece) true sent := by
  obtain ⟨-, rfl, empty⟩ := withheld
  exact ⟨still.symm, rfl, empty⟩

theorem Withheld.release (withheld : Withheld held total pending true sent)
    (freed : held (pending ++ piece) = false) :
    Withheld held (total ++ piece) [] false (sent ++ [pending ++ piece]) := by
  obtain ⟨-, rfl, empty⟩ := withheld
  refine ⟨freed.symm, rfl, ?_⟩
  rw [List.flatten_append, empty]
  exact List.append_nil _

theorem Withheld.pass (withheld : Withheld held total pending false sent)
    (closed : ∀ front rest, held (front ++ rest) = true → held front = true) :
    Withheld held (total ++ piece) pending false (sent ++ [piece]) := by
  obtain ⟨free, rfl, whole⟩ := withheld
  have free' : false = held (total ++ piece) := by
    rw [eq_comm, ← Bool.not_eq_true]
    intro again
    exact nomatch free.trans (closed _ _ again)
  refine ⟨free', rfl, ?_⟩
  rw [List.flatten_append, whole]
  exact congrArg (total ++ ·) (List.append_nil _)

end Shared.Withholding
