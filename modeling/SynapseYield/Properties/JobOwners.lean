import SynapseYield.Properties.Ticks
import SynapseYield.Runtime.JobStore

set_option autoImplicit false

namespace SynapseYield.Runtime

open Shared Live JsonText

-- payload["broker"]
def WatchJob.broker (job : WatchJob) : Option PyString :=
  match job.payload with
  | none => none
  | some payload =>
    match payload.lookup ("broker" : PyString) with
    | some (.str broker) => some broker
    | _ => none

def durable : Option Text → List WatchJob
  | none => []
  | some text => (JobStore.parse text).toOption.getD []

def LoopRunner.schedules (runner : LoopRunner) : Prop :=
  ∃ trigger ∈ runner.triggers, trigger.kind ≠ .event

structure StartsOwn (runner : LoopRunner) (file : Option Text) (began : LoopStart) : Prop where
  registered : ∀ job ∈ began.registered, job.broker = some runner.broker
  supplied : began.outcome = .ok true → runner.schedules →
    ∃ job ∈ began.registered, job.broker = some runner.broker
  kept : ∀ other, other ≠ runner.broker → ∀ job ∈ durable file, job.broker = some other →
    job ∈ durable began.file

section Triggers

variable {runner : LoopRunner} {nowMs : Int} {jobs : List WatchJob}

theorem jobOf_broker {index : Nat} {trigger : Trigger} {intervalMs : Int} {job : WatchJob}
    (made : runner.jobOf nowMs index trigger intervalMs = .ok job) :
    job.broker = some runner.broker := by
  obtain ⟨interval, -, made⟩ := Outcome.bind_ok.mp made
  cases made
  rfl

theorem jobsFrom_cons {index : Nat} {trigger : Trigger} {rest : List Trigger}
    (made : runner.jobsFrom nowMs index (trigger :: rest) = .ok jobs) :
    ∃ later, runner.jobsFrom nowMs (index + 1) rest = .ok later ∧
      ((runner.cadence trigger = none ∧ jobs = later) ∨
        ∃ job, job.broker = some runner.broker ∧ jobs = job :: later) := by
  rw [LoopRunner.jobsFrom] at made
  split at made
  next silent => exact ⟨jobs, made, .inl ⟨silent, rfl⟩⟩
  next =>
    obtain ⟨job, first, made⟩ := Outcome.bind_ok.mp made
    obtain ⟨later, others, made⟩ := Outcome.bind_ok.mp made
    cases made
    exact ⟨later, others, .inr ⟨job, jobOf_broker first, rfl⟩⟩

theorem jobsFrom_broker {index : Nat} {triggers : List Trigger}
    (made : runner.jobsFrom nowMs index triggers = .ok jobs) :
    ∀ job ∈ jobs, job.broker = some runner.broker := by
  induction triggers generalizing index jobs with
  | nil =>
    cases made
    exact List.forall_mem_nil _
  | cons trigger rest ih =>
    obtain ⟨later, others, ⟨-, rfl⟩ | ⟨job, own, rfl⟩⟩ := jobsFrom_cons made
    · exact ih others
    · exact List.forall_mem_cons.mpr ⟨own, ih others⟩

theorem cadence_isNone {trigger : Trigger} :
    runner.cadence trigger = none ↔ trigger.kind = .event := by
  unfold LoopRunner.cadence
  cases trigger.kind <;> simp

theorem jobsFrom_nil {index : Nat} {triggers : List Trigger}
    (made : runner.jobsFrom nowMs index triggers = .ok []) :
    ∀ trigger ∈ triggers, trigger.kind = .event := by
  induction triggers generalizing index with
  | nil => exact List.forall_mem_nil _
  | cons trigger rest ih =>
    obtain ⟨later, others, ⟨silent, rfl⟩ | ⟨job, -, impossible⟩⟩ := jobsFrom_cons made
    · exact List.forall_mem_cons.mpr ⟨cadence_isNone.mp silent, ih others⟩
    · cases impossible

end Triggers

section Starts

variable {runner : LoopRunner} {access : JobStore.Access} {file : Option Text} {nowMs : Int}

theorem load_durable {jobs : List WatchJob} {left : Option Text}
    (loaded : JobStore.load access file = (.ok jobs, left)) : jobs = durable file ∧ left = file := by
  unfold JobStore.load at loaded
  split at loaded
  next => cases loaded
  next =>
    cases file with
    | none =>
      cases loaded
      exact ⟨rfl, rfl⟩
    | some text =>
      dsimp only at loaded
      split at loaded
      next read =>
        split at read
        next => cases read
        next =>
          cases loaded
          exact ⟨by rw [durable, read]; rfl, rfl⟩
      next => cases loaded

theorem load_readable (statable : access.unstatable = false) (readable : access.unreadable = false)
    (stored : durable file ≠ []) : JobStore.load access file = (.ok (durable file), file) := by
  unfold JobStore.load
  rw [statable]
  cases file with
  | none => rfl
  | some text =>
    simp only [readable, Bool.false_eq_true, if_false]
    cases read : JobStore.parse text with
    | ok jobs =>
      rw [durable, read]
      rfl
    | error raised =>
      rw [durable, read] at stored
      exact absurd rfl stored

-- Either what the store has, or what the triggers give.
variable (runner access file nowMs) in
theorem resolveJobs_cases :
    runner.resolveJobs none nowMs access file = (.ok (durable file), file) ∧ durable file ≠ [] ∨
      (runner.resolveJobs none nowMs access file).1 = runner.jobsFromTriggers nowMs := by
  unfold LoopRunner.resolveJobs
  dsimp only
  split
  next job rest left loaded =>
    obtain ⟨same, rfl⟩ := load_durable loaded
    rw [← same]
    exact .inl ⟨rfl, List.cons_ne_nil _ _⟩
  next =>
    refine .inr ?_
    split
    next raised made => exact made.symm
    next made => exact made.symm
    next job rest made => exact made.symm

variable [PyText] {host : LoopHost}

-- What a start needs: where the mandate lets it begin, the store has no job of another broker.
def Unshared (runner : LoopRunner) (host : LoopHost) (file : Option Text) : Prop :=
  ∀ now, host.admits = .ok (some now) → ∀ job ∈ durable file, job.broker = some runner.broker

omit [PyText] in
theorem StartsOwn.idle {outcome : Except PyError Bool} (idle : outcome ≠ .ok true) :
    StartsOwn runner file ⟨[], outcome, file⟩ :=
  ⟨List.forall_mem_nil _, fun started => absurd started idle, fun _ _ _ stored _ => stored⟩

theorem StartsOwn.resolved {now : TickTime}
    (own : ∀ job ∈ durable file, job.broker = some runner.broker)
    (admitted : host.admits = .ok (some now)) :
    StartsOwn runner file (runner.runLoop none host file) := by
  have kept (other : PyString) (different : other ≠ runner.broker) (after : Option Text) :
      ∀ job ∈ durable file, job.broker = some other → job ∈ durable after :=
    fun job stored named =>
      absurd (Option.some.inj (named.symm.trans (own job stored))) different
  unfold LoopRunner.runLoop
  rw [admitted]
  dsimp only
  obtain ⟨resumed, stored⟩ | made :=
    resolveJobs_cases runner host.access file now.epochMs
  · rw [resumed]
    obtain ⟨job, rest, shape⟩ := List.exists_cons_of_ne_nil stored
    have first : job ∈ durable file := shape ▸ List.mem_cons_self
    exact ⟨own, fun _ _ => ⟨job, first, own job first⟩, fun other different =>
      kept other different file⟩
  · split
    next raised left resolved =>
      exact ⟨List.forall_mem_nil _, nofun, fun other different => kept other different left⟩
    next jobs left resolved =>
      rw [resolved] at made
      have mine := jobsFrom_broker made.symm
      refine ⟨mine, fun _ ⟨trigger, given, timed⟩ => ?_, fun other different =>
        kept other different left⟩
      cases jobs with
      | nil => exact absurd (jobsFrom_nil made.symm trigger given) timed
      | cons job rest => exact ⟨job, List.mem_cons_self, mine job List.mem_cons_self⟩

theorem StartsOwn.of_unshared (unshared : Unshared runner host file) :
    StartsOwn runner file (runner.runLoop none host file) := by
  cases admitted : host.admits with
  | error raised =>
    unfold LoopRunner.runLoop
    rw [admitted]
    exact .idle nofun
  | ok now =>
    cases now with
    | none =>
      unfold LoopRunner.runLoop
      rw [admitted]
      exact .idle (fun same => by cases same)
    | some now => exact .resolved (unshared now admitted) admitted

theorem StartsOwn.unshared (statable : host.access.unstatable = false)
    (readable : host.access.unreadable = false)
    (owns : StartsOwn runner file (runner.runLoop none host file)) :
    Unshared runner host file := by
  intro now admitted job stored
  have nonempty : durable file ≠ [] := List.ne_nil_of_mem stored
  refine owns.registered job ?_
  have loaded := load_readable statable readable nonempty
  obtain ⟨first, rest, shape⟩ := List.exists_cons_of_ne_nil nonempty
  rw [shape] at loaded stored
  unfold LoopRunner.runLoop LoopRunner.resolveJobs
  rw [admitted]
  dsimp only
  rw [loaded]
  exact stored

end Starts

section Runs

variable [PyText]

def LoopWorld.after (events : List LoopEvent) : LoopWorld :=
  events.foldl LoopWorld.step .first

theorem LoopWorld.after_snoc (events : List LoopEvent) (event : LoopEvent) :
    LoopWorld.after (events ++ [event]) = (LoopWorld.after events).step event :=
  List.foldl_append

def LoopWorld.Owned (world : LoopWorld) : Prop :=
  ∀ broker, ∀ job ∈ world.schedulers broker, job.broker = some broker

omit [PyText] in
theorem mem_addJob {jobs : List WatchJob} {job added : WatchJob} (member : job ∈ addJob jobs added) :
    job = added ∨ job ∈ jobs := by
  unfold addJob at member
  split at member
  next =>
    obtain ⟨old, listed, rfl⟩ := List.mem_map.mp member
    split
    next => exact .inl rfl
    next => exact .inr listed
  next =>
    rw [List.mem_append, List.mem_singleton] at member
    exact member.symm

omit [PyText] in
theorem mem_addJobs {added jobs : List WatchJob} {job : WatchJob}
    (member : job ∈ added.foldl addJob jobs) : job ∈ added ∨ job ∈ jobs := by
  induction added generalizing jobs with
  | nil => exact .inr member
  | cons first rest ih =>
    obtain later | earlier := ih member
    · exact .inl (List.mem_cons_of_mem _ later)
    · obtain rfl | old := mem_addJob earlier
      · exact .inl List.mem_cons_self
      · exact .inr old

def LoopWorld.Allows (world : LoopWorld) : LoopEvent → Prop
  | .start runner host => Unshared runner host world.file
  | _ => True

theorem LoopWorld.Owned.step {world : LoopWorld} {event : LoopEvent} (owned : world.Owned)
    (allowed : world.Allows event) : (world.step event).Owned := by
  cases event with
  | start runner host =>
    have owns := StartsOwn.of_unshared allowed
    intro broker job member
    simp only [LoopWorld.step, Function.update_apply] at member
    split at member
    next same =>
      subst same
      exact (mem_addJobs member).elim (owns.registered job) (owned _ job)
    next => exact owned broker job member
  | stop broker => exact owned
  | relaunch other =>
    intro broker job member
    simp only [LoopWorld.step, Function.update_apply] at member
    split at member
    next => cases member
    next => exact owned broker job member

theorem LoopWorld.owned_after (events : List LoopEvent)
    (allowed : ∀ before event rest, events = before ++ event :: rest →
      (LoopWorld.after before).Allows event) : (LoopWorld.after events).Owned := by
  induction events using List.reverseRecOn with
  | nil => exact fun _ _ member => by cases member
  | append_singleton before event ih =>
    rw [LoopWorld.after_snoc]
    refine (ih fun earlier next rest shape => ?_).step (allowed before event [] rfl)
    exact allowed earlier next (rest ++ [event]) (by rw [shape, List.append_assoc]; rfl)

theorem starts_own_jobs (events : List LoopEvent) :
    ((∀ before event rest, events = before ++ event :: rest →
        (LoopWorld.after before).Allows event) →
      (LoopWorld.after events).Owned ∧
        ∀ before runner host rest, events = before ++ .start runner host :: rest →
          StartsOwn runner (LoopWorld.after before).file
            (runner.runLoop none host (LoopWorld.after before).file)) ∧
    ∀ before runner host rest, events = before ++ .start runner host :: rest →
      host.access.unstatable = false → host.access.unreadable = false →
      (StartsOwn runner (LoopWorld.after before).file
          (runner.runLoop none host (LoopWorld.after before).file) ↔
        Unshared runner host (LoopWorld.after before).file) :=
  ⟨fun allowed => ⟨LoopWorld.owned_after events allowed, fun before runner host rest shape =>
    .of_unshared (allowed before (.start runner host) rest shape)⟩,
    fun _ _ _ _ _ statable readable => ⟨StartsOwn.unshared statable readable, .of_unshared⟩⟩

end Runs

section Counterexample

def quickAccess : JobStore.Access := ⟨false, false, false, false, false⟩

def juneStart : LoopHost :=
  ⟨.ok ⟨2026 * 372 + 6 * 31 + 2, 0, juneMoment⟩, .ok (some juneMandate),
    none, quickAccess, true⟩

def minuteRunner (broker : PyString) : LoopRunner := ⟨broker, [⟨.interval, 60000⟩], 0⟩

theorem second_start_resumes :
    let _ := asciiText
    ((minuteRunner "ibkr").runLoop none juneStart
      (LoopWorld.after [.start (minuteRunner "robinhood") juneStart]).file).registered.map
        WatchJob.broker = [some ("robinhood" : PyString)] := by
  decide +kernel

theorem starts_own_jobs_fails :
    ¬ ∀ (_ : PyText) (before : List LoopEvent) (runner : LoopRunner) (host : LoopHost),
      StartsOwn runner (LoopWorld.after before).file
        (runner.runLoop none host (LoopWorld.after before).file) := by
  intro all
  have owns := (all asciiText [.start (minuteRunner "robinhood") juneStart] (minuteRunner "ibkr")
    juneStart).registered
  have listed := second_start_resumes ▸ List.mem_singleton_self (some ("robinhood" : PyString))
  obtain ⟨job, member, named⟩ := List.mem_map.mp listed
  exact absurd (named.symm.trans (owns job member)) (by decide)

end Counterexample

end SynapseYield.Runtime
