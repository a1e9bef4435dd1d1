import SynapseYield.Runtime.Scheduler

set_option autoImplicit false

namespace SynapseYield.Runtime

open Shared

namespace Scheduler

section Sets

variable {scheduler : Scheduler}

theorem mem_addJob {job : Nat} {row : Registered} :
    row ∈ (scheduler.addJob job).jobs.rows ↔
      row = ⟨(scheduler.heap job).id, job, scheduler.registrations⟩ ∨
        (row ∈ scheduler.jobs.rows ∧ row.id ≠ (scheduler.heap job).id) := by
  unfold addJob
  dsimp only
  rw [Table.mem_modify, Table.find?_ensure, if_pos rfl]
  refine or_congr ⟨?_, ?_⟩ (and_congr_left fun other => ⟨fun member => ?_, fun member => ?_⟩)
  · rintro ⟨old, found, rfl⟩
    cases Option.some.inj found
    cases present : scheduler.jobs.find? (scheduler.heap job).id with
    | none => rfl
    | some old =>
      simp only [Option.getD_some, Registered.mk.injEq, and_true]
      exact Table.find?_key present
  · rintro rfl
    refine ⟨_, rfl, ?_⟩
    cases present : scheduler.jobs.find? (scheduler.heap job).id with
    | none => rfl
    | some old =>
      simp only [Option.getD_some, Registered.mk.injEq, and_true]
      exact Table.find?_key present
  · obtain present | rfl := Table.mem_ensure member
    · exact present
    · exact absurd rfl other
  · have found := Table.find?_ensure scheduler.jobs
      ⟨(scheduler.heap job).id, job, scheduler.registrations⟩ row.id
    rw [if_neg other, Table.find?_of_mem member] at found
    exact Table.find?_mem found

theorem computeSleepMs_bound {jobs : List Job} {nowMs maxRecheckMs : Int}
    (sleeps : 0 < computeSleepMs jobs nowMs maxRecheckMs) :
    computeSleepMs jobs nowMs maxRecheckMs ≤ maxRecheckMs ∧
      ∀ job ∈ jobs, nowMs + computeSleepMs jobs nowMs maxRecheckMs ≤ job.nextRunAt := by
  unfold computeSleepMs at sleeps ⊢
  cases earliest : earliestNextRun jobs with
  | none =>
    obtain rfl : jobs = [] := by simpa [earliestNextRun] using earliest
    exact ⟨le_refl _, List.forall_mem_nil _⟩
  | some first =>
    obtain ⟨-, least⟩ := List.min?_eq_some_iff.mp earliest
    simp only [earliest] at sleeps ⊢
    split at sleeps
    next => omega
    next future =>
      rw [if_neg future]
      refine ⟨min_le_right .., fun job member => ?_⟩
      have before := least job.nextRunAt (List.mem_map_of_mem member)
      omega

theorem mem_removeJob {id : PyString} {row : Registered} :
    row ∈ (scheduler.removeJob id).jobs.rows ↔ row ∈ scheduler.jobs.rows ∧ row.id ≠ id :=
  Table.mem_erase ..

end Sets

variable [PyText]

structure Transition where
  before : Scheduler
  event : Event
  after : Scheduler

inductive Run (first : Scheduler) : List Transition → Scheduler → Prop where
  | nil : Run first [] first
  | snoc {past : List Transition} {t : Transition} (run : Run first past t.before)
      (stepped : t.before.step t.event = some t.after) : Run first (past ++ [t]) t.after

-- A registration is removed, is replaced, or is of the one-shot that has fired, and was there when
-- its fire began.
def Ends (t : Transition) (row : Registered) : Prop :=
  match t.event with
  | .removeJob id => row.id = id
  | .addJob job => row.id = (t.before.heap job).id
  | .fired => ∃ nowMs began rest, t.before.phase = .firing nowMs row.job began rest ∧
      (t.before.heap row.job).intervalMs = none ∧ row.registration < began
  | _ => False

def Kept (t : Transition) : Prop :=
  ∀ row ∈ t.before.jobs.rows, row ∉ t.after.jobs.rows → Ends t row

-- While nothing has woken the loop, it sleeps no longer than to the earliest run.
def Prompt (scheduler : Scheduler) : Prop :=
  ∀ nowMs sleepMs, scheduler.phase = .sleeping nowMs sleepMs → sleepMs ≤ scheduler.maxRecheckMs ∧
    (scheduler.wakeup = false → ∀ row ∈ scheduler.jobs.rows,
      nowMs + sleepMs ≤ (scheduler.heap row.job).nextRunAt)

-- Under the id of the one-shot that is being fired stands that job, as it stood before the fire, or
-- none.
def Owned (scheduler : Scheduler) : Prop :=
  ∀ nowMs job began rest, scheduler.phase = .firing nowMs job began rest →
    (scheduler.heap job).intervalMs = none →
      ∀ row ∈ scheduler.jobs.rows, row.id = (scheduler.heap job).id →
        row.job = job ∧ row.registration < began

section Steps

omit [PyText]

theorem fireNext_jobs (scheduler : Scheduler) (nowMs : Int) (jobs : List Nat) :
    (scheduler.fireNext nowMs jobs).jobs = scheduler.jobs := by
  cases jobs <;> rfl

theorem check_jobs (scheduler : Scheduler) (nowMs : Int) :
    (scheduler.check nowMs).jobs = scheduler.jobs := by
  unfold check
  split
  · rfl
  · dsimp only
    split
    · rfl
    · exact fireNext_jobs ..

theorem start_jobs (scheduler : Scheduler) : scheduler.start.jobs = scheduler.jobs := by
  unfold start
  split <;> rfl

end Steps

theorem kept_of_same {t : Transition} (same : t.after.jobs = t.before.jobs)
    (other : t.event ≠ .fired) : Kept t ↔ (t.event = .fired → Owned t.before) :=
  iff_of_true (fun _ member left => absurd (same ▸ member) left) fun fired => absurd fired other

theorem settle_once {scheduler : Scheduler} {nowMs : Int} {job : Nat}
    (once : (scheduler.heap job).intervalMs = none) :
    (scheduler.settle nowMs job).jobs = scheduler.jobs.erase (scheduler.heap job).id := by
  simp only [settle, once]

theorem settle_recurring {scheduler : Scheduler} {nowMs interval : Int} {job : Nat}
    (recurs : (scheduler.heap job).intervalMs = some interval) :
    (scheduler.settle nowMs job).jobs = scheduler.jobs := by
  simp only [settle, recurs]

theorem kept_fired {scheduler : Scheduler} {nowMs : Int} {job began : Nat} {rest : List Nat}
    (phase : scheduler.phase = .firing nowMs job began rest) :
    Kept ⟨scheduler, .fired, (scheduler.settle nowMs job).fireNext nowMs rest⟩ ↔
      Owned scheduler := by
  cases recurs : (scheduler.heap job).intervalMs with
  | some interval =>
    refine iff_of_true (fun row member left => ?_) fun nowMs' job' began' rest' same once => ?_
    · rw [fireNext_jobs, settle_recurring recurs] at left
      exact absurd member left
    · obtain ⟨-, rfl, -, -⟩ := LoopPhase.firing.inj (phase.symm.trans same)
      rw [recurs] at once
      cases once
  | none =>
    constructor
    · intro kept nowMs' job' began' rest' same once row member named
      obtain ⟨-, rfl, rfl, -⟩ := LoopPhase.firing.inj (phase.symm.trans same)
      have left : row ∉ ((scheduler.settle nowMs job).fireNext nowMs rest).jobs.rows := by
        rw [fireNext_jobs, settle_once recurs, Table.mem_erase]
        exact fun stays => stays.2 named
      obtain ⟨_, _, _, same', -, earlier⟩ := kept row member left
      obtain ⟨-, rfl, rfl, -⟩ := LoopPhase.firing.inj (phase.symm.trans same')
      exact ⟨rfl, earlier⟩
    · intro owned row member left
      have named : row.id = (scheduler.heap job).id := by
        by_contra other
        refine left ?_
        rw [fireNext_jobs, settle_once recurs, Table.mem_erase]
        exact ⟨member, other⟩
      obtain ⟨rfl, earlier⟩ := owned nowMs job began rest phase recurs row member named
      exact ⟨nowMs, began, rest, phase, recurs, earlier⟩

theorem kept_iff {t : Transition} (stepped : t.before.step t.event = some t.after) :
    Kept t ↔ (t.event = .fired → Owned t.before) := by
  obtain ⟨before, event, after⟩ := t
  dsimp only at stepped ⊢
  cases event with
  | start =>
    obtain rfl := Option.some.inj stepped
    exact kept_of_same (start_jobs before) nofun
  | stop =>
    obtain rfl := Option.some.inj stepped
    exact kept_of_same rfl nofun
  | addJob job =>
    obtain rfl := Option.some.inj stepped
    refine iff_of_true (fun row member left => ?_) nofun
    by_contra other
    exact left (mem_addJob.mpr (.inr ⟨member, other⟩))
  | removeJob id =>
    obtain rfl := Option.some.inj stepped
    refine iff_of_true (fun row member left => ?_) nofun
    by_contra other
    exact left (mem_removeJob.mpr ⟨member, other⟩)
  | wake =>
    dsimp only [step] at stepped
    split at stepped
    next =>
      obtain rfl := Option.some.inj stepped
      exact kept_of_same rfl nofun
    next => cases stepped
  | check nowMs =>
    dsimp only [step] at stepped
    split at stepped
    next =>
      obtain rfl := Option.some.inj stepped
      exact kept_of_same (check_jobs before nowMs) nofun
    next => cases stepped
  | fired =>
    dsimp only [step] at stepped
    split at stepped
    next nowMs job began rest phase =>
      obtain rfl := Option.some.inj stepped
      rw [forall_prop_of_true rfl]
      exact kept_fired phase
    next => cases stepped

omit [PyText] in
theorem prompt_awake {scheduler : Scheduler}
    (awake : ∀ nowMs sleepMs, scheduler.phase ≠ .sleeping nowMs sleepMs) : Prompt scheduler :=
  fun nowMs sleepMs sleeping => absurd sleeping (awake nowMs sleepMs)

omit [PyText] in
theorem fireNext_awake (scheduler : Scheduler) (nowMs : Int) (jobs : List Nat) :
    Prompt (scheduler.fireNext nowMs jobs) := by
  refine prompt_awake ?_
  cases jobs with
  | nil => exact fun _ _ => nofun
  | cons job rest => exact fun _ _ => nofun

omit [PyText] in
theorem check_prompt (scheduler : Scheduler) (nowMs : Int) : Prompt (scheduler.check nowMs) := by
  unfold check
  split
  · exact prompt_awake fun _ _ => nofun
  · dsimp only
    split
    next sleeps =>
      rintro nowMs' sleepMs' sleeping
      obtain ⟨rfl, rfl⟩ := LoopPhase.sleeping.inj sleeping
      obtain ⟨capped, before⟩ := computeSleepMs_bound sleeps
      refine ⟨capped, fun _ row member => before _ ?_⟩
      exact List.mem_map_of_mem (List.mem_map_of_mem member)
    next => exact fireNext_awake _ _ _

theorem step_prompt {scheduler after : Scheduler} {event : Event} (prompt : Prompt scheduler)
    (stepped : scheduler.step event = some after) : Prompt after := by
  cases event with
  | start =>
    obtain rfl := Option.some.inj stepped
    unfold start
    split
    · exact prompt_awake fun _ _ => nofun
    · exact prompt
  | stop =>
    obtain rfl := Option.some.inj stepped
    exact prompt_awake fun _ _ => nofun
  | addJob job =>
    obtain rfl := Option.some.inj stepped
    intro nowMs sleepMs sleeping
    exact ⟨(prompt nowMs sleepMs sleeping).1, nofun⟩
  | removeJob id =>
    obtain rfl := Option.some.inj stepped
    intro nowMs sleepMs sleeping
    obtain ⟨capped, before⟩ := prompt nowMs sleepMs sleeping
    refine ⟨capped, fun quiet row member => ?_⟩
    exact before (Bool.or_eq_false_iff.mp quiet).1 row (mem_removeJob.mp member).1
  | wake =>
    dsimp only [step] at stepped
    split at stepped
    next =>
      obtain rfl := Option.some.inj stepped
      refine prompt_awake fun _ _ => ?_
      dsimp only
      split <;> exact nofun
    next => cases stepped
  | check nowMs =>
    dsimp only [step] at stepped
    split at stepped
    next =>
      obtain rfl := Option.some.inj stepped
      exact check_prompt scheduler nowMs
    next => cases stepped
  | fired =>
    dsimp only [step] at stepped
    split at stepped
    next =>
      obtain rfl := Option.some.inj stepped
      exact fireNext_awake _ _ _
    next => cases stepped

theorem run_prompt {first scheduler : Scheduler} {past : List Transition}
    (run : Run first past scheduler) (prompt : Prompt first) : Prompt scheduler := by
  induction run with
  | nil => exact prompt
  | snoc run stepped ih => exact step_prompt ih stepped

theorem jobs_kept_iff {heap : Nat → Job} {maxRecheckMs : Int} {past : List Transition}
    {scheduler : Scheduler} (run : Run (new heap maxRecheckMs) past scheduler) :
    ((∀ t ∈ past, Kept t ∧ Prompt t.after) ↔ ∀ t ∈ past, t.event = .fired → Owned t.before) := by
  have steps : ∀ t ∈ past, t.before.step t.event = some t.after ∧ Prompt t.after := by
    have begun : Prompt (new heap maxRecheckMs) := prompt_awake fun _ _ => nofun
    induction run with
    | nil => exact List.forall_mem_nil _
    | @snoc past t run stepped ih =>
      refine List.forall_mem_append.mpr ⟨ih, List.forall_mem_singleton.mpr ⟨stepped, ?_⟩⟩
      exact step_prompt (run_prompt run begun) stepped
  refine forall₂_congr fun t member => ?_
  obtain ⟨stepped, prompt⟩ := steps t member
  rw [and_iff_left prompt, kept_iff stepped]

section Replaced

omit [PyText]

-- A one-shot, and the job that its fire puts in its place.
def watchJobs : Nat → Job
  | 0 => ⟨"watch", 0, "once"⟩
  | _ => ⟨"watch", 60000, "interval:60000"⟩

def watchAdded : Scheduler := (new watchJobs 300000).start.addJob 0

def watchFiring : Scheduler := (watchAdded.check 0).addJob 1

theorem watchFiring_phase : watchFiring.phase = .firing 0 0 1 [] := by decide +kernel

theorem watchFiring_replaced : (⟨"watch", 1, 1⟩ : Registered) ∈ watchFiring.jobs.rows := by
  decide +kernel

theorem watchFiring_run :
    let _ := asciiText
    ∃ past after, Run (new watchJobs 300000) (past ++ [⟨watchFiring, .fired, after⟩]) after ∧
      watchFiring.step .fired = some after := by
  intro _
  have started : Run (new watchJobs 300000) _ (new watchJobs 300000).start :=
    Run.nil.snoc (t := ⟨_, .start, _⟩) rfl
  have added : Run (new watchJobs 300000) _ watchAdded := started.snoc (t := ⟨_, .addJob 0, _⟩) rfl
  have checked : Run (new watchJobs 300000) _ (watchAdded.check 0) :=
    added.snoc (t := ⟨_, .check 0, _⟩) rfl
  have replaced : Run (new watchJobs 300000) _ watchFiring :=
    checked.snoc (t := ⟨_, .addJob 1, _⟩) rfl
  have fired : watchFiring.step .fired = some ((watchFiring.settle 0 0).fireNext 0 []) := by
    rw [step, watchFiring_phase]
  exact ⟨_, _, replaced.snoc (t := ⟨_, .fired, _⟩) fired, fired⟩

theorem jobs_kept_fails :
    let _ := asciiText
    ¬ ∀ (heap : Nat → Job) (maxRecheckMs : Int) (past : List Transition) (scheduler : Scheduler),
      Run (new heap maxRecheckMs) past scheduler → ∀ t ∈ past, Kept t ∧ Prompt t.after := by
  intro _ kept
  obtain ⟨past, after, run, fired⟩ := watchFiring_run
  obtain ⟨kept, -⟩ := kept watchJobs 300000 _ after run _ (List.mem_append_right _ List.mem_cons_self)
  have owned := (kept_iff fired).mp kept rfl
  have once : (watchJobs 0).intervalMs = none := by decide +kernel
  have own := owned 0 0 1 [] watchFiring_phase once _ watchFiring_replaced rfl
  exact absurd own.1 Nat.one_ne_zero

def watchFired : Scheduler := watchAdded.check 0

theorem watchFired_phase : watchFired.phase = .firing 0 0 1 [] := by decide +kernel

theorem watchFired_jobs : watchFired.jobs.rows = [⟨"watch", 0, 0⟩] := by decide +kernel

theorem jobs_kept_iff_watch :
    let _ := asciiText
    ∃ past scheduler, Run (new watchJobs 300000) past scheduler ∧
      past.map Transition.event = [.start, .addJob 0, .check 0, .fired] ∧
      scheduler.jobs.rows = [] ∧ ∀ t ∈ past, Kept t ∧ Prompt t.after := by
  intro _
  have started : Run (new watchJobs 300000) _ (new watchJobs 300000).start :=
    Run.nil.snoc (t := ⟨_, .start, _⟩) rfl
  have added : Run (new watchJobs 300000) _ watchAdded := started.snoc (t := ⟨_, .addJob 0, _⟩) rfl
  have checked : Run (new watchJobs 300000) _ watchFired := added.snoc (t := ⟨_, .check 0, _⟩) rfl
  have fired : watchFired.step .fired = some ((watchFired.settle 0 0).fireNext 0 []) := by
    rw [step, watchFired_phase]
  have run := checked.snoc (t := ⟨_, .fired, _⟩) fired
  refine ⟨_, _, run, rfl, by decide +kernel, (jobs_kept_iff run).mpr ?_⟩
  intro t member event
  have last : t.before = watchFired := by
    simp only [List.mem_append, List.mem_singleton, List.not_mem_nil, false_or] at member
    obtain (((rfl | rfl) | rfl) | rfl) := member
    · cases event
    · cases event
    · cases event
    · rfl
  rw [last]
  intro nowMs job began rest phase _ row listed _
  rw [watchFired_phase] at phase
  cases phase
  rw [watchFired_jobs, List.mem_singleton] at listed
  subst listed
  exact ⟨rfl, Nat.zero_lt_one⟩

end Replaced

end Scheduler

end SynapseYield.Runtime
