import Mathlib.Data.List.Basic

set_option autoImplicit false

namespace Shared

variable {state label : Type}

-- A recorded move of a state machine; the first one has no source.
structure Entry (state label : Type) where
  source? : Option state
  target : state
  label : label
deriving DecidableEq, Repr

-- The record of a machine that is now in the last state: each entry leaves the state
-- that the one before it entered, along an edge unless its label may repeat a state.
inductive Trail (initial : state) (edge : state → state → Prop) (repeats : label → Prop) :
    List (Entry state label) → state → Prop where
  | opened (tag : label) : Trail initial edge repeats [⟨none, initial, tag⟩] initial
  | moved {entries : List (Entry state label)} {current next : state} (tag : label)
      (before : Trail initial edge repeats entries current) (along : edge current next) :
      Trail initial edge repeats (entries ++ [⟨some current, next, tag⟩]) next
  | repeated {entries : List (Entry state label)} {current : state} {tag : label}
      (before : Trail initial edge repeats entries current) (may : repeats tag) :
      Trail initial edge repeats (entries ++ [⟨some current, current, tag⟩]) current

namespace Trail

variable {initial : state} {edge : state → state → Prop} {repeats : label → Prop}
  {entries : List (Entry state label)} {current : state}

theorem last_target (trail : Trail initial edge repeats entries current) :
    ∃ entry ∈ entries, entry.target = current := by
  cases trail with
  | opened tag => exact ⟨_, List.mem_singleton_self _, rfl⟩
  | moved tag before along => exact ⟨_, List.mem_append_right _ (List.mem_singleton_self _), rfl⟩
  | repeated before may => exact ⟨_, List.mem_append_right _ (List.mem_singleton_self _), rfl⟩

theorem stays (trail : Trail initial edge repeats entries current) {final : state}
    (stuck : ∀ next, ¬ edge final next) {entry : Entry state label} (member : entry ∈ entries)
    (entered : entry.target = final) : current = final := by
  induction trail with
  | opened tag =>
    rw [List.mem_singleton.mp member] at entered
    exact entered
  | moved tag before along ih =>
    rcases List.mem_append.mp member with earlier | last
    · rw [ih earlier] at along
      exact absurd along (stuck _)
    · rw [List.mem_singleton.mp last] at entered
      exact entered
  | repeated before may ih =>
    rcases List.mem_append.mp member with earlier | last
    · exact ih earlier
    · rw [List.mem_singleton.mp last] at entered
      exact entered

theorem split_last {before earlier rest : List (Entry state label)} {last entry : Entry state label}
    (split : before ++ [last] = earlier ++ entry :: rest) :
    (before = earlier ∧ last = entry) ∨ ∃ between, before = earlier ++ entry :: between := by
  rcases List.eq_nil_or_concat rest with rfl | ⟨between, final, rfl⟩
  · obtain ⟨same, final⟩ := List.append_inj' split rfl
    exact .inl ⟨same, List.head_eq_of_cons_eq final⟩
  · have grouped : before ++ [last] = (earlier ++ entry :: between) ++ [final] := by simpa using split
    exact .inr ⟨between, (List.append_inj' grouped rfl).1⟩

theorem gated (trail : Trail initial edge repeats entries current) {gate target : state}
    (later : initial ≠ target) (only : ∀ source, edge source target → source = gate)
    {earlier rest : List (Entry state label)} {entry : Entry state label}
    (split : entries = earlier ++ entry :: rest) (entered : entry.target = target) :
    ∃ passed ∈ earlier, passed.target = gate := by
  induction trail generalizing earlier rest entry with
  | opened tag =>
    rcases split_last ((List.nil_append _).trans split) with ⟨-, rfl⟩ | ⟨_, empty⟩
    · exact absurd entered later
    · simp at empty
  | moved tag before along ih =>
    rcases split_last split with ⟨rfl, rfl⟩ | ⟨_, inside⟩
    · obtain rfl := entered
      obtain ⟨passed, member, reached⟩ := before.last_target
      exact ⟨passed, member, reached.trans (only _ along)⟩
    · exact ih inside entered
  | repeated before may ih =>
    rcases split_last split with ⟨rfl, rfl⟩ | ⟨_, inside⟩
    · obtain ⟨last, member, reached⟩ := before.last_target
      obtain ⟨start, tail, whole⟩ := List.append_of_mem member
      obtain ⟨passed, found, through⟩ := ih whole (reached.trans entered)
      exact ⟨passed, whole ▸ List.mem_append_left _ found, through⟩
    · exact ih inside entered

end Trail

end Shared
