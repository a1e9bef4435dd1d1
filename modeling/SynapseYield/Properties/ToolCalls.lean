import Mathlib.Data.List.Flatten
import Mathlib.Data.List.Pairwise
import SynapseYield.Agent.Loop

set_option autoImplicit false

namespace SynapseYield.Agent.Loop

open Shared JsonText

variable {registry : ToolRegistry}

section Sorting

variable {calledOk : List PyString} {toolCalls : List ToolCall} {call : ToolCall}

-- A call that is neither of the compact tool nor of one that is done
def executable (registry : ToolRegistry) (calledOk : List PyString) (call : ToolCall) : Bool :=
  decide (call.name ≠ "compact") &&
    ! (decide (call.name ∈ calledOk) && ! isRepeatable registry call.name)

theorem toExecute_sortCall (sorted : Sorted) :
    (sortCall registry calledOk sorted call).toExecute =
      sorted.toExecute ++ [call].filter (executable registry calledOk) := by
  rw [sortCall]
  split
  next compact => simp [executable, compact]
  next other =>
    split
    next done => simp [executable, done]
    next open_ =>
      have fits : executable registry calledOk call = true := by
        simp only [executable, other, decide_not, decide_false, Bool.not_false, Bool.true_and,
          Bool.not_eq_true', Bool.and_eq_false_iff, decide_eq_false_iff_not]
        by_contra both
        simp only [not_or, Decidable.not_not, Bool.not_eq_false'] at both
        exact open_ ⟨both.1, by simpa using both.2⟩
      simp [fits]

theorem toExecute_foldl (sorted : Sorted) :
    (toolCalls.foldl (sortCall registry calledOk) sorted).toExecute =
      sorted.toExecute ++ toolCalls.filter (executable registry calledOk) := by
  induction toolCalls generalizing sorted with
  | nil => exact (List.append_nil _).symm
  | cons call rest ih =>
    rw [List.foldl_cons, ih, toExecute_sortCall, List.append_assoc, ← List.filter_append]
    rfl

theorem toExecute_eq :
    (sortCalls registry calledOk toolCalls).toExecute =
      toolCalls.filter (executable registry calledOk) :=
  toExecute_foldl _

end Sorting

section Batches

variable {toolCalls currentRo : List ToolCall} {batches : List Batch}

theorem flush_calls : (flush batches currentRo).flatMap Batch.calls =
    batches.flatMap Batch.calls ++ currentRo := by
  rw [flush]
  split
  next none_left => rw [List.isEmpty_iff.mp none_left, List.append_nil]
  next => rw [List.flatMap_append, List.flatMap_singleton]

theorem addCall_calls (split : List Batch × List ToolCall) (call : ToolCall) :
    (addCall registry split call).1.flatMap Batch.calls ++ (addCall registry split call).2 =
      split.1.flatMap Batch.calls ++ split.2 ++ [call] := by
  rw [addCall]
  split
  next => exact (List.append_assoc _ _ _).symm
  next => rw [List.flatMap_append, flush_calls, List.flatMap_singleton, List.append_nil]

theorem batchesOf_calls : (batchesOf registry toolCalls).flatMap Batch.calls = toolCalls := by
  have kept (split : List Batch × List ToolCall) :
      (toolCalls.foldl (addCall registry) split).1.flatMap Batch.calls ++
        (toolCalls.foldl (addCall registry) split).2 =
        split.1.flatMap Batch.calls ++ split.2 ++ toolCalls := by
    induction toolCalls generalizing split with
    | nil => exact (List.append_nil _).symm
    | cons call rest ih =>
      rw [List.foldl_cons, ih, addCall_calls, List.append_assoc]
      rfl
  rw [batchesOf, flush_calls]
  exact kept ([], [])

theorem launches_calls (clear : Nat) :
    ((launches registry toolCalls clear).flatMap Batch.calls).Sublist toolCalls := by
  unfold launches
  split
  · exact List.Sublist.refl _
  · have taken := (List.take_sublist clear (batchesOf registry toolCalls)).flatMap Batch.calls
    rwa [batchesOf_calls] at taken

end Batches

section Times

variable {time later : Nat} {batches : List Batch} {runs : List (List Execution)}

theorem RanAll.calls (ran : RanAll time batches runs later) :
    runs.flatten.map (·.call) = batches.flatMap Batch.calls := by
  induction ran with
  | nil => rfl
  | cons ran _ ih => rw [List.flatten_cons, List.map_append, List.flatMap_cons, ran.calls, ih]

theorem RanAll.times (ran : RanAll time batches runs later) :
    time ≤ later ∧ ∀ execution ∈ runs.flatten,
      time ≤ execution.started ∧ execution.started < execution.finished ∧
        execution.finished ≤ later := by
  induction ran with
  | nil => exact ⟨Nat.le_refl _, List.forall_mem_nil _⟩
  | cons ran _ ih =>
    obtain ⟨onwards, within⟩ := ih
    refine ⟨ran.advances.trans onwards, fun execution member => ?_⟩
    rw [List.flatten_cons, List.mem_append] at member
    rcases member with first | rest
    · exact ⟨ran.begun _ first, ran.lasting _ first, (ran.ended _ first).trans onwards⟩
    · obtain ⟨begun, lasting, ended⟩ := within execution rest
      exact ⟨ran.advances.trans begun, lasting, ended⟩

end Times

section Runs

def Again (registry : ToolRegistry) (first second : Execution) : Prop :=
  first.call.name = second.call.name ∧ isRepeatable registry first.call.name = false

-- None of the executions of a tool begins after one of them succeeded.
def Once (registry : ToolRegistry) (history : List Execution) : Prop :=
  ∀ first ∈ history, ∀ second ∈ history, Again registry first second →
    first.succeeded = true → second.started < first.finished

/-- A response whose calls of one tool do not succeed before another of them is executed: no earlier
one, and none at all beside another in a parallel batch. -/
structure Careful (registry : ToolRegistry) (runs : List (List Execution)) : Prop where
  across : runs.Pairwise fun first second => ∀ one ∈ first, ∀ other ∈ second,
    Again registry one other → one.succeeded = false
  within : ∀ run ∈ runs, run.Pairwise fun one other => Again registry one other →
    one.succeeded = false ∧ other.succeeded = false

-- What a turn appends: its notices, and then the results of what it executed, in the order of the
-- response.
def InOrder (t : Transition) : Prop :=
  ∃ notices, t.after.messages =
    t.before.messages ++ notices ++ t.turn.runs.flatten.map Execution.message ∧
      (t.turn.runs.flatten.map (·.call)).Sublist t.turn.toolCalls

structure Recorded (state : State) : Prop where
  names : ∀ execution ∈ state.history, execution.succeeded = true →
    execution.call.name ∈ state.calledOk
  lasting : ∀ execution ∈ state.history, execution.started < execution.finished
  past : ∀ execution ∈ state.history, execution.finished ≤ state.time

variable {state after : State} {turn : Turn} {executions : List Execution}

theorem finalize_all (state : State) :
    executions.foldl State.finalize state =
      { state with
        calledOk := (executions.foldl State.finalize state).calledOk
        messages := state.messages ++ executions.map Execution.message
        history := state.history ++ executions } ∧
      ∀ name, name ∈ (executions.foldl State.finalize state).calledOk ↔
        name ∈ state.calledOk ∨
          ∃ execution ∈ executions, execution.succeeded = true ∧ execution.call.name = name := by
  induction executions generalizing state with
  | nil => simp
  | cons execution rest ih =>
    obtain ⟨fields, names⟩ := ih (state.finalize execution)
    rw [List.foldl_cons]
    refine ⟨?_, fun name => ?_⟩
    · rw [fields]
      simp [State.finalize]
    · rw [names, List.exists_mem_cons_iff, ← or_assoc]
      refine or_congr_left ?_
      rw [State.finalize]
      dsimp only
      split
      next ok => rw [List.mem_cons, or_comm, ok]; simp [eq_comm]
      next failed => simp [failed]

theorem Again.symm {first second : Execution} (again : Again registry first second) :
    Again registry second first :=
  ⟨again.1.symm, again.1 ▸ again.2⟩

theorem once_batch (lasting : ∀ execution ∈ executions, execution.started < execution.finished)
    (careful : executions.Pairwise fun one other => Again registry one other →
      one.succeeded = false ∧ other.succeeded = false) :
    Once registry executions := by
  refine List.Pairwise.forall_of_forall_of_flip (fun one member _ _ => lasting one member)
    (careful.imp fun {one other} apart again ok => ?_)
    (careful.imp fun {one other} apart again ok => ?_)
  · rw [(apart again).1] at ok
    cases ok
  · rw [(apart again.symm).2] at ok
    cases ok

theorem RanAll.once {time later : Nat} {batches : List Batch} {runs : List (List Execution)}
    (ran : RanAll time batches runs later) (careful : Careful registry runs) :
    Once registry runs.flatten := by
  induction ran with
  | nil => exact fun first member => absurd member List.not_mem_nil
  | cons ran rest ih =>
    obtain ⟨across, within⟩ := careful
    obtain ⟨before, across⟩ := List.pairwise_cons.mp across
    obtain ⟨own, within⟩ := List.forall_mem_cons.mp within
    have later_once := ih ⟨across, within⟩
    have times := rest.times.2
    intro first left second right again ok
    rw [List.flatten_cons, List.mem_append] at left right
    rcases left with left | left
    · rcases right with right | right
      · exact once_batch ran.lasting own first left second right again ok
      · obtain ⟨run, listed, member⟩ := List.mem_flatten.mp right
        rw [before run listed first left second member again] at ok
        cases ok
    · rcases right with right | right
      · have ended := ran.ended second right
        have lasting := ran.lasting second right
        have begun := times first left
        omega
      · exact later_once first left second right again ok

structure Effect (registry : ToolRegistry) (before : State) (executions : List Execution)
    (after : State) : Prop where
  history : after.history = before.history ++ executions
  names : ∀ name, name ∈ after.calledOk ↔ name ∈ before.calledOk ∨
    ∃ execution ∈ executions, execution.succeeded = true ∧ execution.call.name = name
  onwards : before.time ≤ after.time
  times : ∀ execution ∈ executions, before.time ≤ execution.started ∧
    execution.started < execution.finished ∧ execution.finished ≤ after.time
  allowed : ∀ execution ∈ executions, executable registry before.calledOk execution.call = true

theorem Step.effect (step : Step registry state turn after) :
    Effect registry state turn.runs.flatten after ∧ InOrder ⟨state, turn, after⟩ ∧
      (Careful registry turn.runs → Once registry turn.runs.flatten) := by
  cases step with
  | cancelled set idle =>
    rw [idle]
    refine ⟨⟨by simp, by simp, Nat.le_refl _, List.forall_mem_nil _, List.forall_mem_nil _⟩, ?_, ?_⟩
    · refine ⟨[], ?_, ?_⟩
      · rw [idle]
        simp
      · rw [idle]
        exact List.nil_sublist _
    · exact fun _ first member => absurd member List.not_mem_nil
  | @processed later clear ran =>
    obtain ⟨fields, names⟩ := @finalize_all turn.runs.flatten
      { state with messages := state.messages ++
          (sortCalls registry state.calledOk turn.toolCalls).notices }
    have executed := @launches_calls registry
      (sortCalls registry state.calledOk turn.toolCalls).toExecute turn.clear
    rw [← ran.calls, toExecute_eq] at executed
    refine ⟨⟨?_, names, ran.times.1, ran.times.2, fun execution member => ?_⟩, ?_, ran.once⟩
    · exact congrArg State.history fields
    · have listed := executed.subset (List.mem_map_of_mem member)
      exact (List.mem_filter.mp listed).2
    · exact ⟨_, congrArg State.messages fields, executed.trans List.filter_sublist⟩

theorem Effect.recorded (effect : Effect registry state executions after)
    (recorded : Recorded state) : Recorded after := by
  refine ⟨fun execution member ok => ?_, fun execution member => ?_, fun execution member => ?_⟩
  all_goals rw [effect.history, List.mem_append] at member
  · rw [effect.names]
    rcases member with old | new
    · exact .inl (recorded.names execution old ok)
    · exact .inr ⟨execution, new, ok, rfl⟩
  · rcases member with old | new
    · exact recorded.lasting execution old
    · exact (effect.times execution new).2.1
  · rcases member with old | new
    · exact (recorded.past execution old).trans effect.onwards
    · exact (effect.times execution new).2.2

theorem Effect.once (effect : Effect registry state executions after) (recorded : Recorded state)
    (before : Once registry state.history) (during : Once registry executions) :
    Once registry after.history := by
  intro first left second right again ok
  rw [effect.history, List.mem_append] at left right
  rcases left with left | left
  · rcases right with right | right
    · exact before first left second right again ok
    · have done := recorded.names first left ok
      have allowed := effect.allowed second right
      rw [executable, ← again.1, decide_eq_true done, again.2] at allowed
      simp at allowed
  · rcases right with right | right
    · have past := recorded.past second right
      have lasting := recorded.lasting second right
      have begun := effect.times first left
      omega
    · exact during first left second right again ok

theorem Run.held {transitions : List Transition} (run : Run registry transitions state)
    (careful : ∀ t ∈ transitions, Careful registry t.turn.runs) :
    Recorded state ∧ Once registry state.history ∧ ∀ t ∈ transitions, InOrder t := by
  induction run with
  | nil =>
    have empty : ∀ {p : Execution → Prop}, ∀ execution ∈ ([] : List Execution), p execution :=
      List.forall_mem_nil _
    exact ⟨⟨empty, empty, empty⟩, empty, List.forall_mem_nil _⟩
  | @snoc past t _ step ih =>
    obtain ⟨earlier, last⟩ := List.forall_mem_append.mp careful
    obtain ⟨recorded, once, ordered⟩ := ih earlier
    obtain ⟨effect, inOrder, during⟩ := step.effect
    refine ⟨effect.recorded recorded, effect.once recorded once (during ?_), ?_⟩
    · exact last t (List.mem_singleton_self t)
    · refine List.forall_mem_append.mpr ⟨ordered, fun other member => ?_⟩
      rw [List.mem_singleton.mp member]
      exact inOrder

/-- In a run of careful responses no tool that is not to be repeated is executed again after it
succeeded, and every response's results are appended in the order of its calls. -/
theorem run_once {transitions : List Transition} (run : Run registry transitions state)
    (careful : ∀ t ∈ transitions, Careful registry t.turn.runs) :
    Once registry state.history ∧ ∀ t ∈ transitions, InOrder t :=
  (run.held careful).2

theorem Step.executed (step : Step registry state turn after) :
    (turn.runs.flatten.map (·.call)).Sublist
      (turn.toolCalls.filter (executable registry state.calledOk)) := by
  obtain ⟨effect, ⟨notices, -, ordered⟩, -⟩ := step.effect
  have passed : (turn.runs.flatten.map (·.call)).filter (executable registry state.calledOk) =
      turn.runs.flatten.map (·.call) := by
    refine List.filter_eq_self.mpr fun call listed => ?_
    obtain ⟨execution, member, rfl⟩ := List.mem_map.mp listed
    exact effect.allowed execution member
  rw [← passed]
  exact ordered.filter _

def Distinct (registry : ToolRegistry) (calls : List ToolCall) : Prop :=
  calls.Pairwise fun one other => one.name = other.name → isRepeatable registry one.name = true

theorem Step.careful (step : Step registry state turn after)
    (distinct : Distinct registry (turn.toolCalls.filter (executable registry state.calledOk))) :
    Careful registry turn.runs := by
  have apart : turn.runs.flatten.Pairwise fun one other => ¬ Again registry one other := by
    refine (List.pairwise_map.mp (distinct.sublist step.executed)).imp fun same again => ?_
    obtain ⟨names, once⟩ := again
    rw [same names] at once
    cases once
  obtain ⟨within, across⟩ := List.pairwise_flatten.mp apart
  refine ⟨across.imp fun none one member other listed again => ?_, fun run member => ?_⟩
  · exact absurd again (none one member other listed)
  · exact (within run member).imp fun none again => absurd again none

theorem Run.steps {transitions : List Transition} (run : Run registry transitions state) :
    ∀ t ∈ transitions, Step registry t.before t.turn t.after := by
  induction run with
  | nil => exact List.forall_mem_nil _
  | snoc _ step ih => exact List.forall_mem_append.mpr ⟨ih, List.forall_mem_singleton.mpr step⟩

theorem run_once_of_distinct {transitions : List Transition}
    (run : Run registry transitions state) (distinct : ∀ t ∈ transitions,
      Distinct registry (t.turn.toolCalls.filter (executable registry t.before.calledOk))) :
    Once registry state.history := by
  have careful : ∀ t ∈ transitions, Careful registry t.turn.runs := fun t member =>
    (run.steps t member).careful (distinct t member)
  exact (run.held careful).2.1

end Runs

section Backtests

def sampleRegistry (name : PyString) : Option ToolDef :=
  if name = "read_file" then some ⟨true, true⟩ else some ⟨false, false⟩

def readFile (id : PyString) : ToolCall := ⟨id, "read_file", []⟩

def backtest (id : PyString) : ToolCall := ⟨id, "backtest", []⟩

def mixedTurn : Turn where
  toolCalls := [readFile "a", readFile "b", backtest "c"]
  cancelled := false
  clear := 2
  runs := [[⟨readFile "a", "text", 1, 3⟩, ⟨readFile "b", "text", 0, 2⟩], [⟨backtest "c", "done", 4, 5⟩]]

def doubledTurn : Turn where
  toolCalls := [backtest "c", backtest "d"]
  cancelled := false
  clear := 2
  runs := [[⟨backtest "c", "done", 0, 1⟩], [⟨backtest "d", "done", 1, 2⟩]]

def freshState : State := ⟨[], [], [], 0⟩

theorem mixed_once : ∃ state, Run sampleRegistry [⟨freshState, mixedTurn, state⟩] state ∧
    Once sampleRegistry state.history := by
  have first : Ran ⟨true, [readFile "a", readFile "b"]⟩ 0
      [⟨readFile "a", "text", 1, 3⟩, ⟨readFile "b", "text", 0, 2⟩] 4 :=
    ⟨rfl, by simp, by simp, by simp, by decide⟩
  have second : Ran ⟨false, [backtest "c"]⟩ 4 [⟨backtest "c", "done", 4, 5⟩] 5 :=
    ⟨rfl, by simp, by simp, by simp, by decide⟩
  have ran : RanAll 0 _ mixedTurn.runs 5 := .cons first (.cons second (.nil 5))
  have step : Step sampleRegistry freshState mixedTurn _ := .processed rfl ran
  have run := @Run.snoc sampleRegistry [] ⟨freshState, mixedTurn, _⟩ .nil step
  refine ⟨_, run, (run_once run fun t member => ?_).1⟩
  rw [List.mem_singleton.mp member]
  have repeatable : isRepeatable sampleRegistry "read_file" = true := by decide
  have different : ("read_file" : PyString) ≠ "backtest" := by decide
  constructor
  · simp [mixedTurn, Again, readFile, backtest, different]
  · simp [mixedTurn, Again, readFile, repeatable]

theorem doubled_again : ∃ state, Run sampleRegistry [⟨freshState, doubledTurn, state⟩] state ∧
    ¬ Once sampleRegistry state.history := by
  have first : Ran ⟨false, [backtest "c"]⟩ 0 [⟨backtest "c", "done", 0, 1⟩] 1 :=
    ⟨rfl, by simp, by simp, by simp, by decide⟩
  have second : Ran ⟨false, [backtest "d"]⟩ 1 [⟨backtest "d", "done", 1, 2⟩] 2 :=
    ⟨rfl, by simp, by simp, by simp, by decide⟩
  have ran : RanAll 0 _ doubledTurn.runs 2 := .cons first (.cons second (.nil 2))
  have step : Step sampleRegistry freshState doubledTurn _ := .processed rfl ran
  have run := @Run.snoc sampleRegistry [] ⟨freshState, doubledTurn, _⟩ .nil step
  refine ⟨_, run, fun once => ?_⟩
  have late := once ⟨backtest "c", "done", 0, 1⟩ (by simp [doubledTurn, freshState, State.finalize])
    ⟨backtest "d", "done", 1, 2⟩ (by simp [doubledTurn, freshState, State.finalize])
    ⟨rfl, by decide⟩ (by decide +kernel)
  exact absurd late (by decide)

end Backtests

end SynapseYield.Agent.Loop
