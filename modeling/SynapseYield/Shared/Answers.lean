import Mathlib.Data.List.Basic
import Mathlib.Data.List.Nodup
import Mathlib.Data.List.Perm.Basic

set_option autoImplicit false

-- Calls with ids, and the answers to them.
namespace Shared.Answers

variable {κ : Type}

-- An entry without calls is of none.
inductive Entry (κ : Type) where
  | calls (ids : List κ)
  | answer (id : κ)

def Entry.called : Entry κ → List κ
  | .calls ids => ids
  | .answer _ => []

def Entry.answered : Entry κ → List κ
  | .calls _ => []
  | .answer id => [id]

def called (entries : List (Entry κ)) : List κ := entries.flatMap Entry.called

def answered (entries : List (Entry κ)) : List κ := entries.flatMap Entry.answered

-- Every call is answered once and at once, and nothing else is answered.
inductive WellFormed : List (Entry κ) → Prop where
  | nil : WellFormed []
  | block {ids answers : List κ} {rest : List (Entry κ)} (each : answers.Perm ids)
      (wellFormed : WellFormed rest) : WellFormed (.calls ids :: (answers.map .answer ++ rest))

variable {entries before after rest : List (Entry κ)} {ids : List κ}

@[simp] theorem called_nil : called ([] : List (Entry κ)) = [] := rfl

@[simp] theorem called_cons (entry : Entry κ) :
    called (entry :: entries) = entry.called ++ called entries := List.flatMap_cons

@[simp] theorem called_append : called (before ++ after) = called before ++ called after :=
  List.flatMap_append

@[simp] theorem called_answers : called (ids.map Entry.answer) = [] := by
  induction ids with
  | nil => rfl
  | cons id ids ih => exact ih

@[simp] theorem answered_cons (entry : Entry κ) :
    answered (entry :: entries) = entry.answered ++ answered entries := List.flatMap_cons

@[simp] theorem answered_append :
    answered (before ++ after) = answered before ++ answered after := List.flatMap_append

@[simp] theorem answered_answers : answered (ids.map Entry.answer) = ids := by
  induction ids with
  | nil => rfl
  | cons id ids ih => exact congrArg (id :: ·) ih

theorem WellFormed.append (first : WellFormed before) (second : WellFormed after) :
    WellFormed (before ++ after) := by
  induction first with
  | nil => exact second
  | block each _ ih =>
    rw [List.cons_append, List.append_assoc]
    exact .block each ih

theorem WellFormed.plain (wellFormed : WellFormed rest) :
    WellFormed (.calls [] :: rest) := .block (.refl []) wellFormed

theorem WellFormed.perm (wellFormed : WellFormed entries) :
    (answered entries).Perm (called entries) := by
  induction wellFormed with
  | nil => exact .refl _
  | block each _ ih => simpa [Entry.answered, Entry.called] using each.append ih

theorem WellFormed.suffix (wellFormed : WellFormed (before ++ after)) :
    ∃ orphans rest, after = orphans.map .answer ++ rest ∧ WellFormed rest ∧
      orphans ⊆ called before := by
  generalize whole : before ++ after = entries at wellFormed
  induction wellFormed generalizing before with
  | nil =>
    obtain ⟨rfl, rfl⟩ := List.append_eq_nil_iff.mp whole
    exact ⟨[], [], rfl, .nil, List.nil_subset _⟩
  | @block ids answers tail each wellFormed ih =>
    cases before with
    | nil => exact ⟨[], _, whole, .block each wellFormed, List.nil_subset _⟩
    | cons first before =>
      obtain ⟨rfl, split⟩ := List.cons.inj whole
      obtain ⟨more, cut, rfl⟩ | ⟨more, cut, whole⟩ := List.append_eq_append_iff.mp split
      · obtain ⟨seen, orphans, rfl, rfl, rfl⟩ := List.map_eq_append_iff.mp cut
        refine ⟨orphans, tail, rfl, wellFormed, fun id member => ?_⟩
        rw [called_cons]
        exact List.mem_append_left _ (each.mem_iff.mp (List.mem_append_right _ member))
      · obtain ⟨orphans, rest, same, ended, gone⟩ := ih whole.symm
        refine ⟨orphans, rest, same, ended, fun id member => ?_⟩
        rw [cut, called_cons, called_append]
        exact List.mem_append_right _ (List.mem_append_right _ (gone member))

end Shared.Answers
