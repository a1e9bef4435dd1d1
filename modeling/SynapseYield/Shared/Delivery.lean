import Mathlib.Data.List.Basic
import SynapseYield.Shared.Program

set_option autoImplicit false

namespace Shared

variable {ε σ α β ρ : Type}

-- A step that owes a request, and sends one: the steps after it are reached only where it passes.
structure Duty (ρ : Type) where
  due : Option ρ
  sent : Option ρ
  passes : Bool

def delivered : List (Duty ρ) → List ρ
  | [] => []
  | step :: rest => step.sent.toList ++ if step.passes then delivered rest else []

theorem delivered_append (steps more : List (Duty ρ)) :
    delivered (steps ++ more) =
      delivered steps ++ if steps.all Duty.passes then delivered more else [] := by
  induction steps with
  | nil => simp [delivered]
  | cons step rest ih =>
    cases passes : step.passes with
    | true => simp [delivered, passes, ih]
    | false => simp [delivered, passes]

def Unbroken (steps : List (Duty ρ)) : Prop :=
  ∀ before step later, steps = before ++ step :: later →
    (∃ other ∈ later, other.due.isSome = true) → step.passes = true

theorem unbroken_cons {step : Duty ρ} {rest : List (Duty ρ)} :
    Unbroken (step :: rest) ↔
      ((∃ other ∈ rest, other.due.isSome = true) → step.passes = true) ∧ Unbroken rest := by
  constructor
  · intro unbroken
    refine ⟨unbroken [] step rest rfl, fun before other later place => ?_⟩
    exact unbroken (step :: before) other later (by rw [place, List.cons_append])
  · rintro ⟨first, unbroken⟩ before other later place
    obtain _ | ⟨head, before⟩ := before
    · obtain ⟨rfl, rfl⟩ := List.cons.inj place
      exact first
    · exact unbroken before other later (List.cons.inj place).2

theorem delivered_length {steps : List (Duty ρ)}
    (owed : ∀ step ∈ steps, step.due = none → step.sent = none) :
    (delivered steps).length ≤ (steps.filterMap Duty.due).length := by
  induction steps with
  | nil => exact Nat.le_refl 0
  | cons step rest ih =>
    obtain ⟨first, owed⟩ := List.forall_mem_cons.mp owed
    have fewer := ih owed
    rw [delivered, List.length_append]
    have shorter : (if step.passes then delivered rest else []).length ≤ (delivered rest).length := by
      split <;> simp
    cases due : step.due with
    | none =>
      rw [first due, List.filterMap_cons_none due]
      simp only [Option.toList_none, List.length_nil]
      omega
    | some request =>
      rw [List.filterMap_cons_some due, List.length_cons]
      have one : step.sent.toList.length ≤ 1 := by cases step.sent <;> simp
      omega

theorem nothing_due {steps : List (Duty ρ)} :
    steps.filterMap Duty.due = [] ↔ ¬ ∃ other ∈ steps, other.due.isSome = true := by
  simp [List.filterMap_eq_nil_iff]

theorem delivered_iff {steps : List (Duty ρ)}
    (owed : ∀ step ∈ steps, step.due = none → step.sent = none) :
    delivered steps = steps.filterMap Duty.due ↔
      (∀ step ∈ steps, step.sent = step.due) ∧ Unbroken steps := by
  induction steps with
  | nil =>
    refine iff_of_true rfl ⟨List.forall_mem_nil _, fun before step later place => ?_⟩
    simp at place
  | cons step rest ih =>
    obtain ⟨first, owed⟩ := List.forall_mem_cons.mp owed
    have waits : (if step.passes then delivered rest else []) = rest.filterMap Duty.due ↔
        delivered rest = rest.filterMap Duty.due ∧
          ((∃ other ∈ rest, other.due.isSome = true) → step.passes = true) := by
      cases step.passes with
      | true => simp
      | false =>
        simp only [Bool.false_eq_true, if_false, imp_false, ← nothing_due, eq_comm (a := [])]
        refine ⟨fun nothing => ⟨?_, nothing⟩, And.right⟩
        have fewer := delivered_length owed
        rw [nothing] at fewer ⊢
        exact List.length_eq_zero_iff.mp (Nat.le_zero.mp fewer)
    have goes : (if step.passes then delivered rest else []) = rest.filterMap Duty.due ↔
        (∀ other ∈ rest, other.sent = other.due) ∧ Unbroken (step :: rest) := by
      rw [waits, ih owed, unbroken_cons, and_assoc, and_comm (a := Unbroken rest)]
    rw [List.forall_mem_cons, and_assoc, ← goes, delivered]
    cases due : step.due with
    | none =>
      rw [first due, List.filterMap_cons_none due]
      simp
    | some request =>
      rw [List.filterMap_cons_some due]
      cases sent : step.sent with
      | some other => simp
      | none =>
        refine iff_of_false (fun same => ?_) nofun
        have fewer : (if step.passes then delivered rest else []).length ≤
            (rest.filterMap Duty.due).length := by
          have all := delivered_length owed
          split
          · exact all
          · exact Nat.zero_le _
        have longer := congrArg List.length same
        simp only [Option.toList_none, List.nil_append, List.length_cons] at longer
        omega

-- A program that appends requests to a log, and returns or raises.
def Sends (log : σ → List ρ) (requests : List ρ) (passes : Bool) (x : EStateM ε σ α) : Prop :=
  ∀ s, log (leaves (x s)) = log s ++ requests ∧ returned (x s) = passes

namespace Sends

variable {log : σ → List ρ}

theorem pure (a : α) : Sends log [] true (Pure.pure a : EStateM ε σ α) :=
  fun _ => ⟨(List.append_nil _).symm, rfl⟩

theorem throw (e : ε) : Sends log [] false (MonadExcept.throw e : EStateM ε σ α) :=
  fun _ => ⟨(List.append_nil _).symm, rfl⟩

theorem modified {f : σ → σ} {requests : List ρ} (appends : ∀ s, log (f s) = log s ++ requests) :
    Sends log requests true (modify f : EStateM ε σ PUnit) := fun s => ⟨appends s, rfl⟩

theorem bind {x : EStateM ε σ α} {f : α → EStateM ε σ β} {requests more : List ρ}
    {passes ends : Bool} (first : Sends log requests passes x)
    (rest : ∀ a, Sends log more ends (f a)) :
    Sends log (requests ++ if passes then more else []) (passes && ends) (x >>= f) := by
  intro s
  obtain ⟨sent, ended⟩ := first s
  rw [bind_run]
  cases run : x s with
  | ok a s' =>
    rw [run] at sent ended
    subst ended
    obtain ⟨later, ended⟩ := rest a s'
    refine ⟨?_, ended⟩
    rw [later, show log s' = _ from sent]
    simp [returned]
  | error e s' =>
    rw [run] at sent ended
    subst ended
    exact ⟨by simpa [returned] using sent, rfl⟩

theorem quietly {x : EStateM ε σ α} {f : α → EStateM ε σ β} {requests : List ρ}
    {passes ends : Bool} (first : Sends log requests passes x)
    (rest : ∀ a, Sends log [] ends (f a)) : Sends log requests (passes && ends) (x >>= f) := by
  simpa using first.bind rest

theorem forM {rows : List β} {f : β → EStateM ε σ PUnit} {duty : β → Duty ρ}
    (each : ∀ row, Sends log (duty row).sent.toList (duty row).passes (f row)) :
    Sends log (delivered (rows.map duty)) ((rows.map duty).all Duty.passes) (rows.forM f) := by
  induction rows with
  | nil => exact .pure ()
  | cons row rest ih =>
    exact (each row).bind fun _ => ih

end Sends

end Shared
