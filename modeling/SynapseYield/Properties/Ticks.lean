import SynapseYield.Runtime.Runner
import SynapseYield.Shared.Interleaving
import SynapseYield.Shared.Outcome

set_option autoImplicit false

namespace SynapseYield.Runtime

open Shared Live

-- The first attribute that the scan finds says that the report is safe.
def ProvenSafe (report : Attributes) : Prop :=
  (∃ before name later, safeAttributes = before ++ name :: later ∧
    report name = some (.ok true) ∧ ∀ other ∈ before, report other = none) ∨
  (∀ name ∈ safeAttributes, report name = none) ∧
    ∃ before name later, unsafeAttributes = before ++ name :: later ∧
      report name = some (.ok false) ∧ ∀ other ∈ before, report other = none

theorem reportIsUnsafe_iff {report : Option Attributes} :
    reportIsUnsafe report = .ok false ↔ ∃ seen, report = some seen ∧ ProvenSafe seen := by
  cases report with
  | none => simp [reportIsUnsafe]
  | some seen =>
    have reads (names : List PyString) (holds : Bool) :
        firstAttribute seen names = some (.ok holds) ↔
          ∃ before name later, names = before ++ name :: later ∧
            seen name = some (.ok holds) ∧ ∀ other ∈ before, seen other = none :=
      List.findSome?_eq_some_iff
    have absent : firstAttribute seen safeAttributes = none ↔
        ∀ name ∈ safeAttributes, seen name = none := List.findSome?_eq_none_iff
    simp only [Option.some.injEq, exists_eq_left', ProvenSafe, ← reads, ← absent]
    cases safe : firstAttribute seen safeAttributes with
    | some holds =>
      simp only [reportIsUnsafe, safe, Outcome.map_ok]
      simp
    | none =>
      cases harmful : firstAttribute seen unsafeAttributes with
      | some holds => simp [reportIsUnsafe, safe, harmful]
      | none => simp [reportIsUnsafe, safe, harmful]

-- The latch _flatten_fired, and the sweeps of the runner.
structure RunnerWorld where
  fired : Bool
  sweeps : Nat

def RunnerWorld.answers (world : RunnerWorld) : (op : TickOp) → op.Reply → RunnerWorld → Prop
  | .testAndFire, fired, world' => fired = world.fired ∧ world' = { world with fired := true }
  | .flatten _, _, world' => world' = { world with sweeps := world.sweeps + 1 }
  | _, _, world' => world' = world

def runnerSurroundings : Surroundings TickOp.Reply RunnerWorld where
  answers := RunnerWorld.answers
  moves _ _ := False

variable [PyText]

inductive TickPhase where
  | begun
  | timed (now : TickTime)
  | running (now : TickTime)
  | mandated (mandate : Mandate) (now : TickTime)
  | safe (mandate : Mandate) (now : TickTime)
  | firing
  | closed

def Unexpired (mandate : Mandate) (now : TickTime) : Prop :=
  ∃ expires, parseExpiry mandate.consent.expiresAt = .ok (some expires) ∧ now.instant < expires

theorem mandateIsExpired_false {mandate : Mandate} {now : TickTime} :
    mandateIsExpired mandate now = .ok false ↔ Unexpired mandate now := by
  simp only [mandateIsExpired, Unexpired, Outcome.bind_ok]
  constructor
  · rintro ⟨expiry, parsed, later⟩
    cases expiry with
    | none => simp [pure, Except.pure] at later
    | some expires =>
      refine ⟨expires, parsed, ?_⟩
      simpa [pure, Except.pure] using later
  · rintro ⟨expires, parsed, later⟩
    exact ⟨some expires, parsed, by simpa [pure, Except.pure] using later⟩

-- The agent is called once, after each check has passed. A sweep follows the latch.
def tickProtocol (broker : PyString) : Protocol TickOp.Reply where
  Phase := TickPhase
  allows phase op := match op with
    | .callAgent _ _ => ∃ mandate now, phase = .safe mandate now ∧ Unexpired mandate now
    | .flatten _ => phase = .firing
    | _ => True
  next phase op := match op with
    | .clock => fun reply => match phase, reply with
      | .begun, .ok now => .timed now
      | _, _ => phase
    | .haltFlag key => fun reply => match phase, reply with
      | .timed now, .ok false => if key = broker then .running now else phase
      | _, _ => phase
    | .loadMandate key => fun reply => match phase, reply with
      | .running now, .ok (some mandate) => if key = broker then .mandated mandate now else phase
      | _, _ => phase
    | .reconcile key => fun reply => match phase, reply with
      | .mandated mandate now, .ok report =>
        match reportIsUnsafe report with
        | .ok false => if key = broker then .safe mandate now else phase
        | _ => phase
      | _, _ => phase
    | .testAndFire => fun fired => if fired then phase else .firing
    | .flatten _ => fun _ => .closed
    | .callAgent _ _ => fun _ => .closed
    | _ => fun _ => phase

def TickOp.incidental : TickOp → Prop
  | .heartbeat _ _ => True
  | .newId => True
  | .writeAudit _ => True
  | .tripHalt _ _ _ => True
  | _ => False

section Protocol

variable {broker : PyString} {phase : TickPhase}

theorem incidental_unnoticed (phase : TickPhase) (op : TickOp) (incidental : op.incidental) :
    (tickProtocol broker).allows phase op ∧
      ∀ reply, (tickProtocol broker).next phase op reply = phase := by
  cases op with
  | heartbeat runnerId nowMs => exact ⟨trivial, fun _ => rfl⟩
  | newId => exact ⟨trivial, fun _ => rfl⟩
  | writeAudit event => exact ⟨trivial, fun _ => rfl⟩
  | tripHalt source reason key => exact ⟨trivial, fun _ => rfl⟩
  | _ => cases incidental

abbrev Ticks {α : Type} (broker : PyString) (post : α → TickPhase → Prop) (phase : TickPhase)
    (x : TickProgram α) : Prop :=
  (tickProtocol broker).Obeys post (fun _ _ => True) phase x

theorem Ticks.incidental {α : Type} {x : TickProgram α} (uses : x.Uses TickOp.incidental) :
    Ticks broker (fun _ _ => True) phase x :=
  (uses.obeys (incidental_unnoticed phase)).mono (fun _ _ _ => trivial) fun _ _ _ => trivial

theorem Ticks.after {α β : Type} {x : TickProgram α} {f : α → TickProgram β}
    {post : β → TickPhase → Prop} (uses : x.Uses TickOp.incidental)
    (rest : ∀ a, Ticks broker post phase (f a)) : Ticks broker post phase (x >>= f) :=
  uses.obeys_bind (incidental_unnoticed phase) (fun _ => trivial) rest

theorem Ticks.settled {α β : Type} {result : Except PyError α} {f : α → TickProgram β}
    {post : β → TickPhase → Prop} (rest : ∀ a, result = .ok a → Ticks broker post phase (f a)) :
    Ticks broker post phase (Process.ofExcept result >>= f) := by
  cases result with
  | error raised => trivial
  | ok a => exact rest a rfl

omit [PyText] in
theorem swallowed_uses {α : Type} (result : Except PyError α) :
    (swallowed result).Uses TickOp.incidental := by
  cases result with
  | ok a => trivial
  | error raised =>
    unfold swallowed
    dsimp only
    split <;> trivial

theorem Ticks.caught {α β : Type} {reply : Except Failure α} {f : Except Failure α → TickProgram β}
    {post : β → TickPhase → Prop} (rest : Ticks broker post phase (f reply)) :
    Ticks broker post phase (Runtime.caught reply >>= f) := by
  cases reply with
  | ok a => exact rest
  | error raised =>
    unfold Runtime.caught
    dsimp only
    split
    · exact rest
    · trivial

theorem Ticks.ask {β : Type} {op : TickOp} {f : op.Reply → TickProgram β}
    {post : β → TickPhase → Prop} (allowed : (tickProtocol broker).allows phase op)
    (rest : ∀ reply, Ticks broker post ((tickProtocol broker).next phase op reply) (f reply)) :
    Ticks broker post phase (Process.ask op >>= f) := ⟨allowed, rest⟩

variable {runner : LiveRunner}

omit [PyText] in
theorem audit_incidental (kind : TickKind) (outcome : LiveActionOutcome) (intent : PyString)
    (error : Option PyString) :
    (runner.audit kind outcome intent error).Uses TickOp.incidental :=
  .bind (.ask trivial) fun _ => .bind (.ask trivial) fun _ => .bind (swallowed_uses _) fun _ =>
    trivial

omit [PyText] in
theorem audited_uses {α : Type} (kind : TickKind) (outcome : LiveActionOutcome) (intent : PyString)
    (error : Option PyString) (result : PyValue → α) :
    (runner.audit kind outcome intent error >>= fun auditId =>
      (pure (result auditId) : TickProgram α)).Uses TickOp.incidental :=
  .bind (audit_incidental ..) fun _ => trivial

theorem runPreemptiveSweep_ticks :
    Ticks broker (fun _ _ => True) phase runner.runPreemptiveSweep := by
  unfold LiveRunner.runPreemptiveSweep
  split
  next =>
    refine Ticks.ask trivial fun fired => ?_
    cases fired with
    | true => trivial
    | false =>
      refine Ticks.ask rfl fun reply => Ticks.caught ?_
      cases reply with
      | ok done => trivial
      | error raised => exact Ticks.incidental (audited_uses ..)
  next => trivial

theorem haltedResult_ticks : Ticks broker (fun _ _ => True) phase runner.haltedResult :=
  runPreemptiveSweep_ticks.bind fun _ _ _ => Ticks.incidental (audited_uses ..)

theorem expiredResult_ticks : Ticks broker (fun _ _ => True) phase runner.expiredResult :=
  Ticks.incidental (.bind (.ask trivial) fun _ => .bind (swallowed_uses _) fun _ => audited_uses ..)

theorem next_reconcile {mandate : Mandate} {now : TickTime} {report : Option Attributes}
    (safe : reportIsUnsafe report = .ok false) :
    (tickProtocol broker).next (.mandated mandate now) (.reconcile broker) (.ok report) =
      .safe mandate now := by
  simp [tickProtocol, safe]

theorem runReconcile_ticks {mandate : Mandate} {now : TickTime} :
    Ticks runner.broker (fun aborted s => aborted = none → s = .safe mandate now)
      (.mandated mandate now) runner.runReconcile := by
  unfold LiveRunner.runReconcile
  refine Ticks.ask trivial fun reply => Ticks.caught ?_
  cases reply with
  | error raised => exact Ticks.after (audit_incidental ..) fun _ => .done nofun
  | ok report =>
    refine Ticks.settled fun harmful ruled => ?_
    cases harmful with
    | true => exact Ticks.after (audit_incidental ..) fun _ => .done nofun
    | false => exact .done fun _ => next_reconcile ruled

theorem invokeAndAudit_ticks {mandate : Mandate} {now : TickTime} (unexpired : Unexpired mandate now) :
    Ticks runner.broker (fun _ _ => True) (.safe mandate now) (runner.invokeAndAudit mandate now) := by
  refine Ticks.settled fun prompt made => ?_
  refine Ticks.ask ⟨mandate, now, rfl, unexpired⟩ fun reply => Ticks.caught ?_
  cases reply with
  | ok agentResult => exact Ticks.incidental (audited_uses ..)
  | error raised => exact Ticks.incidental (audited_uses ..)

theorem mandated_ticks {mandate : Mandate} {now : TickTime} :
    Ticks runner.broker (fun _ _ => True) (.mandated mandate now) (do
      if ← Process.ofExcept (mandateIsExpired mandate now) then runner.expiredResult
      else match ← runner.runReconcile with
        | some aborted => return aborted
        | none => runner.invokeAndAudit mandate now) := by
  refine Ticks.settled fun expired ruled => ?_
  cases expired with
  | true => exact expiredResult_ticks
  | false =>
    refine runReconcile_ticks.bind fun aborted s safe => ?_
    cases aborted with
    | some result => trivial
    | none =>
      rw [safe rfl]
      exact invokeAndAudit_ticks (mandateIsExpired_false.mp ruled)

theorem tick_ticks : Ticks runner.broker (fun _ _ => True) .begun runner.tick := by
  refine Ticks.ask trivial fun reply => Ticks.settled fun now read => ?_
  subst read
  refine Ticks.after (.bind (.ask trivial) fun _ => .bind (swallowed_uses _) fun _ => trivial)
    fun _ => ?_
  refine Ticks.ask trivial fun reply => Ticks.settled fun halted read => ?_
  subst read
  cases halted with
  | true => exact haltedResult_ticks
  | false =>
    refine Ticks.ask trivial fun reply => Ticks.settled fun mandate read => ?_
    subst read
    cases mandate with
    | none => exact Ticks.incidental (audited_uses ..)
    | some mandate =>
      have mandated : (tickProtocol runner.broker).next
          ((tickProtocol runner.broker).next (.timed now) (.haltFlag runner.broker) (.ok false))
          (.loadMandate runner.broker) (.ok (some mandate)) = .mandated mandate now := by
        simp [tickProtocol]
      exact mandated ▸ mandated_ticks

theorem runOnce_ticks (runner : LiveRunner) :
    Ticks runner.broker (fun _ _ => True) .begun runner.runOnce :=
  tick_ticks.bind fun _ _ _ => .ofExcept (fun _ _ => trivial) fun _ _ => trivial

end Protocol

section Runs

abbrev TickEvents := List (Sigma TickOp.Reply)

def TickOp.callsAgent : TickOp → Bool
  | .callAgent _ _ => true
  | _ => false

def Uncalled (events : TickEvents) : Prop := ∀ event ∈ events, event.1.callsAgent = false

def Behind (broker : PyString) (phase : TickPhase) (events : TickEvents) : Prop :=
  match phase with
  | .begun => Uncalled events
  | .timed now => Uncalled events ∧ ⟨.clock, .ok now⟩ ∈ events
  | .running now =>
    Uncalled events ∧ ⟨.clock, .ok now⟩ ∈ events ∧ ⟨.haltFlag broker, .ok false⟩ ∈ events
  | .mandated mandate now =>
    Uncalled events ∧ ⟨.clock, .ok now⟩ ∈ events ∧ ⟨.haltFlag broker, .ok false⟩ ∈ events ∧
      ⟨.loadMandate broker, .ok (some mandate)⟩ ∈ events
  | .safe mandate now =>
    Uncalled events ∧ ⟨.clock, .ok now⟩ ∈ events ∧ ⟨.haltFlag broker, .ok false⟩ ∈ events ∧
      ⟨.loadMandate broker, .ok (some mandate)⟩ ∈ events ∧
        ∃ report, ⟨.reconcile broker, .ok (some report)⟩ ∈ events ∧ ProvenSafe report
  | _ => True

omit [PyText] in
theorem Uncalled.next {events : TickEvents} {op : TickOp} (uncalled : Uncalled events)
    (other : op.callsAgent = false) (reply : op.Reply) : Uncalled (events ++ [⟨op, reply⟩]) := by
  intro event member
  obtain present | new := List.mem_append.mp member
  · exact uncalled event present
  · rw [List.mem_singleton.mp new]
    exact other

omit [PyText] in
theorem Behind.mono {broker : PyString} {events : TickEvents} {phase : TickPhase} {op : TickOp}
    (behind : Behind broker phase events) (other : op.callsAgent = false) (reply : op.Reply) :
    Behind broker phase (events ++ [⟨op, reply⟩]) := by
  have kept {event : Sigma TickOp.Reply} (present : event ∈ events) :
      event ∈ events ++ [⟨op, reply⟩] := List.mem_append_left _ present
  cases phase with
  | begun => exact behind.next other reply
  | timed now => exact ⟨behind.1.next other reply, kept behind.2⟩
  | running now =>
    obtain ⟨uncalled, timed, running⟩ := behind
    exact ⟨uncalled.next other reply, kept timed, kept running⟩
  | mandated mandate now =>
    obtain ⟨uncalled, timed, running, mandated⟩ := behind
    exact ⟨uncalled.next other reply, kept timed, kept running, kept mandated⟩
  | safe mandate now =>
    obtain ⟨uncalled, timed, running, mandated, report, reconciled, proven⟩ := behind
    exact ⟨uncalled.next other reply, kept timed, kept running, kept mandated, report,
      kept reconciled, proven⟩
  | firing => trivial
  | closed => trivial

theorem Behind.next {broker : PyString} {events : TickEvents} {phase : TickPhase} (op : TickOp)
    (reply : op.Reply) (behind : Behind broker phase events) :
    Behind broker ((tickProtocol broker).next phase op reply) (events ++ [⟨op, reply⟩]) := by
  have last : (⟨op, reply⟩ : Sigma TickOp.Reply) ∈ events ++ [⟨op, reply⟩] :=
    List.mem_append_right _ List.mem_cons_self
  cases op with
  | callAgent sessionId prompt => trivial
  | flatten key => trivial
  | testAndFire =>
    cases reply with
    | true =>
      have kept : Behind broker phase (events ++ [⟨.testAndFire, true⟩]) := behind.mono rfl _
      exact kept
    | false => trivial
  | clock =>
    have kept : Behind broker phase (events ++ [⟨.clock, reply⟩]) := behind.mono rfl reply
    dsimp only [tickProtocol]
    split
    · exact ⟨kept, last⟩
    · exact kept
  | haltFlag key =>
    have kept : Behind broker phase (events ++ [⟨.haltFlag key, reply⟩]) := behind.mono rfl reply
    dsimp only [tickProtocol]
    split
    next =>
      split
      next own =>
        subst own
        exact ⟨kept.1, kept.2, last⟩
      next => exact kept
    next => exact kept
  | loadMandate key =>
    have kept : Behind broker phase (events ++ [⟨.loadMandate key, reply⟩]) := behind.mono rfl reply
    dsimp only [tickProtocol]
    split
    next =>
      split
      next own =>
        subst own
        exact ⟨kept.1, kept.2.1, kept.2.2, last⟩
      next => exact kept
    next => exact kept
  | reconcile key =>
    have kept : Behind broker phase (events ++ [⟨.reconcile key, reply⟩]) := behind.mono rfl reply
    dsimp only [tickProtocol]
    split
    next =>
      split
      next ruled =>
        obtain ⟨report, rfl, proven⟩ := reportIsUnsafe_iff.mp ruled
        split
        next own =>
          subst own
          exact ⟨kept.1, kept.2.1, kept.2.2.1, kept.2.2.2, report, last, proven⟩
        next => exact kept
      next => exact kept
    next => exact kept
  | heartbeat runnerId nowMs => exact behind.mono rfl reply
  | newId => exact behind.mono rfl reply
  | writeAudit event => exact behind.mono rfl reply
  | tripHalt source reason key => exact behind.mono rfl reply

abbrev TickTransition := Transition Unit RunnerWorld PyError TickOp.Reply PyDict

abbrev TickConfig := Config Unit RunnerWorld PyError TickOp.Reply PyDict

abbrev TickRun (runner : LiveRunner) (past : List TickTransition) (c : TickConfig) : Prop :=
  Run runnerSurroundings (fun _ => runner.runOnce) ⟨false, 0⟩ past c

omit [PyText] in
def sweeps (t : TickTransition) : Bool :=
  match t.action with
  | .perform _ (.flatten _) _ => true
  | _ => false

theorem world_sweeps {runner : LiveRunner} {past : List TickTransition} {c : TickConfig}
    (run : TickRun runner past c) : c.world.sweeps = past.countP sweeps := by
  induction run with
  | nil => rfl
  | @snoc past t run step ih =>
    obtain ⟨origin, action, after⟩ := t
    dsimp only at run step ih ⊢
    rw [List.countP_append, List.countP_singleton, ← ih]
    cases step with
    | start id call fresh => rfl
    | @perform id call op next reply world reached answered =>
      cases op with
      | flatten key =>
        rw [show world = _ from answered]
        rfl
      | testAndFire =>
        obtain ⟨-, rfl⟩ := answered
        rfl
      | _ =>
        obtain rfl := answered
        rfl
    | move moved => cases moved

-- A sweep is under way only where the latch was set for it.
structure Latched (world : RunnerWorld) (phases : Nat → Option TickPhase) : Prop where
  once : world.sweeps ≤ 1
  idle : world.fired = false → world.sweeps = 0 ∧ ∀ id, phases id ≠ some .firing
  firing : ∀ id, phases id = some .firing →
    world.sweeps = 0 ∧ ∀ other, phases other = some .firing → other = id

omit [PyText] in
theorem Latched.without {world : RunnerWorld} {phases : Nat → Option TickPhase} {id : Nat}
    {phase : Option TickPhase} (latched : Latched world phases) (other : phase ≠ some .firing) :
    Latched world (Function.update phases id phase) := by
  have stays {i : Nat} (firing : Function.update phases id phase i = some .firing) :
      phases i = some .firing := by
    by_cases same : i = id
    · subst same
      rw [Function.update_self] at firing
      exact absurd firing other
    · rwa [Function.update_of_ne same] at firing
  refine ⟨latched.once, fun unset => ?_, fun i firing => ?_⟩
  · obtain ⟨none, idle⟩ := latched.idle unset
    exact ⟨none, fun i firing => idle i (stays firing)⟩
  · obtain ⟨none, alone⟩ := latched.firing i (stays firing)
    exact ⟨none, fun j firing => alone j (stays firing)⟩

omit [PyText] in
theorem Latched.fire {world : RunnerWorld} {phases : Nat → Option TickPhase} {id : Nat}
    (latched : Latched world phases) (unset : world.fired = false) :
    Latched { world with fired := true } (Function.update phases id (some .firing)) := by
  obtain ⟨none, idle⟩ := latched.idle unset
  have alone (i : Nat) (firing : Function.update phases id (some .firing) i = some .firing) :
      i = id := by
    by_contra apart
    rw [Function.update_of_ne apart] at firing
    exact idle i firing
  refine ⟨latched.once, nofun, fun i firing => ⟨none, fun j again => ?_⟩⟩
  rw [alone i firing, alone j again]

omit [PyText] in
theorem Latched.sweep {world : RunnerWorld} {phases : Nat → Option TickPhase} {id : Nat}
    (latched : Latched world phases) (firing : phases id = some .firing) :
    Latched { world with sweeps := world.sweeps + 1 }
      (Function.update phases id (some .closed)) := by
  obtain ⟨none, alone⟩ := latched.firing id firing
  have others (i : Nat) : Function.update phases id (some .closed) i ≠ some .firing := by
    intro again
    by_cases same : i = id
    · subst same
      rw [Function.update_self] at again
      cases again
    · rw [Function.update_of_ne same] at again
      exact same (alone i again)
  refine ⟨by rw [none], fun unset => ?_, fun i again => absurd again (others i)⟩
  exact absurd firing ((latched.idle unset).2 id)

theorem next_firing {broker : PyString} {phase : TickPhase} {op : TickOp} {reply : op.Reply}
    (other : op ≠ .testAndFire) (firing : (tickProtocol broker).next phase op reply = .firing) :
    phase = .firing := by
  cases op with
  | testAndFire => exact absurd rfl other
  | flatten key => cases firing
  | callAgent sessionId prompt => cases firing
  | clock =>
    dsimp only [tickProtocol] at firing
    split at firing
    next => cases firing
    next => exact firing
  | haltFlag key =>
    dsimp only [tickProtocol] at firing
    split at firing
    next => split at firing <;> cases firing
    next => exact firing
  | loadMandate key =>
    dsimp only [tickProtocol] at firing
    split at firing
    next => split at firing <;> cases firing
    next => exact firing
  | reconcile key =>
    dsimp only [tickProtocol] at firing
    split at firing
    next =>
      split at firing
      next => split at firing <;> cases firing
      next => cases firing
    next => exact firing
  | _ => exact firing

theorem Latched.next {runner : LiveRunner} {world world' : RunnerWorld}
    {phases : Nat → Option TickPhase} {id : Nat} {phase : TickPhase} {op : TickOp} {reply : op.Reply}
    (latched : Latched world phases) (reached : phases id = some phase)
    (allowed : (tickProtocol runner.broker).allows phase op)
    (answered : world.answers op reply world') :
    Latched world' (Function.update phases id
      (some ((tickProtocol runner.broker).next phase op reply))) := by
  have unnoticed (same : world' = world) (other : op ≠ .testAndFire) :
      Latched world' (Function.update phases id
        (some ((tickProtocol runner.broker).next phase op reply))) := by
    subst same
    by_cases firing : (tickProtocol runner.broker).next phase op reply = .firing
    · rwa [firing, ← next_firing other firing, ← reached, Function.update_eq_self]
    · exact latched.without fun again => firing (Option.some.inj again)
  cases op with
  | testAndFire =>
    obtain ⟨fired, sweeps⟩ := world
    obtain ⟨rfl, rfl⟩ := answered
    cases reply with
    | false => exact latched.fire rfl
    | true =>
      have stays : Function.update phases id (some phase) = phases := by
        rw [← reached, Function.update_eq_self]
      rw [show (tickProtocol runner.broker).next phase .testAndFire true = phase from rfl, stays]
      exact latched
  | flatten key =>
    obtain rfl := answered
    obtain rfl := allowed
    exact latched.sweep reached
  | _ => exact unnoticed answered nofun

theorem latched {runner : LiveRunner} {past : List TickTransition} {c : TickConfig}
    (run : TickRun runner past c) :
    Latched c.world (c.phases (tickProtocol runner.broker) (fun _ => .begun) past) := by
  have start : Latched ⟨false, 0⟩ fun _ => none := ⟨Nat.zero_le 1, fun _ => ⟨rfl, by simp⟩, by simp⟩
  have within (before : List TickTransition) (t : TickTransition) (later : List TickTransition)
      (place : past = before ++ t :: later) : ∃ later, past = before ++ t :: later := ⟨later, place⟩
  refine Run.invariant (fun _ => runOnce_ticks runner) start ?_ ?_ (fun _ moved => by cases moved) run within
  · exact fun _ latched _ => latched.without nofun
  · intro past t id op reply phase _ acted latched reached allowed answered
    have kept := latched.next reached allowed answered
    refine ⟨kept, fun _ => ?_⟩
    rw [← Function.update_idem]
    exact kept.without nofun

def Cleared (runner : LiveRunner) (events : TickEvents) : Prop :=
  ∃ now mandate expires report,
    ⟨.clock, .ok now⟩ ∈ events ∧
    ⟨.haltFlag runner.broker, .ok false⟩ ∈ events ∧
    ⟨.loadMandate runner.broker, .ok (some mandate)⟩ ∈ events ∧
    parseExpiry mandate.consent.expiresAt = .ok (some expires) ∧ now.instant < expires ∧
    ⟨.reconcile runner.broker, .ok (some report)⟩ ∈ events ∧ ProvenSafe report

theorem ticks_fail_closed {runner : LiveRunner} {past : List TickTransition} {c : TickConfig}
    (run : TickRun runner past c) :
    past.countP sweeps ≤ 1 ∧
    ∀ before t later id sessionId prompt reply, past = before ++ t :: later →
      t.action = .perform id (.callAgent sessionId prompt) reply →
      Uncalled (eventsOf id before) ∧ Cleared runner (eventsOf id before) := by
  refine ⟨world_sweeps run ▸ (latched run).once, ?_⟩
  intro before t later id sessionId prompt reply place acted
  obtain ⟨_, _, _, mandate, now, safe, expires, parsed, unexpired⟩ :=
    run.allowed (fun _ => runOnce_ticks runner) place acted
  have behind : Behind runner.broker (.safe mandate now) (eventsOf id before) := by
    have first : Behind runner.broker .begun [] := List.forall_mem_nil _
    rw [← safe]
    exact Protocol.after_induction first (fun op reply => Behind.next op reply) _
  obtain ⟨uncalled, timed, running, mandated, report, reconciled, proven⟩ := behind
  exact ⟨uncalled, now, mandate, expires, report, timed, running, mandated, parsed, unexpired,
    reconciled, proven⟩

section Witness

omit [PyText]

def juneMandate : Mandate where
  schemaVersion := 1
  hardCaps := {
    accountFundingUsd := .finite 1000
    maxOrderNotionalUsd := .finite 500
    maxTotalExposureUsd := .finite 1000
    maxLeverage := .finite 1
    allowedInstruments := [.equity]
    maxTradesPerDay := 5 }
  universeConstraint := {
    assetClasses := [.usEquity]
    minMarketCapUsd := none
    minAvgDailyVolumeUsd := none
    excludeSymbols := [] }
  consent := {
    createdAt := "2026-06-01T00:00:00Z"
    consentTokenSha256 := "00"
    broker := "robinhood"
    accountRef := "primary"
    expiresAt := "2026-06-28T00:00:00Z" }

def juneRunner : LiveRunner := ⟨"robinhood", "live-robinhood", true⟩

def juneMoment : AsciiString := ⟨"2026-06-02T00:00:00+00:00", rfl⟩

def juneAnswers : (op : TickOp) → op.Reply
  | .clock => .ok ⟨2026 * 372 + 6 * 31 + 2, 0, juneMoment⟩
  | .heartbeat _ _ => .ok ()
  | .haltFlag _ => .ok false
  | .loadMandate _ => .ok (some juneMandate)
  | .reconcile _ => .ok (some fun name => if name = "is_safe" then some (.ok true) else none)
  | .newId => noText
  | .writeAudit _ => .ok .none
  | .tripHalt _ _ _ => .ok ()
  | .testAndFire => true
  | .flatten _ => .ok ()
  | .callAgent _ _ => .ok none

def RunnerWorld.pick (script : (op : TickOp) → op.Reply) (world : RunnerWorld) :
    (op : TickOp) → op.Reply × RunnerWorld
  | .testAndFire => (world.fired, { world with fired := true })
  | .flatten broker => (script (.flatten broker), { world with sweeps := world.sweeps + 1 })
  | op => (script op, world)

theorem RunnerWorld.pick_answers (script : (op : TickOp) → op.Reply) (world : RunnerWorld)
    (op : TickOp) : world.answers op (world.pick script op).1 (world.pick script op).2 := by
  cases op with
  | testAndFire => exact ⟨rfl, rfl⟩
  | _ => rfl

def callsNext : TickProgram PyDict → Bool
  | .perform (.callAgent _ _) _ => true
  | _ => false

theorem callsNext_iff {x : TickProgram PyDict} (next : callsNext x = true) :
    ∃ sessionId prompt rest, x = .perform (.callAgent sessionId prompt) rest := by
  unfold callsNext at next
  split at next
  next sessionId prompt rest => exact ⟨sessionId, prompt, rest, rfl⟩
  next => cases next

theorem juneTick_checked :
    let _ := asciiText
    callsNext (Process.advance (RunnerWorld.pick juneAnswers) 5 ⟨false, 0⟩ juneRunner.runOnce).2 =
      true := by
  decide +kernel

theorem juneTick_run :
    let _ := asciiText
    ∃ past c sessionId prompt rest, TickRun juneRunner past c ∧
      c.running 0 = some ((), .perform (.callAgent sessionId prompt) rest) := by
  intro _
  have start : Step runnerSurroundings (fun _ => juneRunner.runOnce)
      (⟨⟨false, 0⟩, fun _ => none⟩ : TickConfig) (.start 0 ()) _ := .start 0 () rfl
  obtain ⟨checks, run, -⟩ := Run.advance (RunnerWorld.pick_answers juneAnswers) 5
    (Run.nil.snoc (t := ⟨_, _, _⟩) start) (Function.update_self ..)
  obtain ⟨sessionId, prompt, rest, next⟩ := callsNext_iff juneTick_checked
  refine ⟨_, _, sessionId, prompt, rest, run, ?_⟩
  dsimp only
  rw [Function.update_self]
  exact congrArg (fun x => some ((), x)) next

theorem ticks_fail_closed_june :
    let _ := asciiText
    ∃ before : List TickTransition,
      Uncalled (eventsOf 0 before) ∧ Cleared juneRunner (eventsOf 0 before) := by
  intro _
  obtain ⟨past, c, sessionId, prompt, rest, run, reached⟩ := juneTick_run
  have call : Step runnerSurroundings (fun _ => juneRunner.runOnce) c
      (.perform 0 (.callAgent sessionId prompt) (.ok none)) _ := .perform (.ok none) reached rfl
  obtain ⟨-, cleared⟩ := ticks_fail_closed (run.snoc (t := ⟨_, _, _⟩) call)
  exact ⟨past, cleared past _ [] 0 sessionId prompt (.ok none) rfl rfl⟩

end Witness

end Runs

end SynapseYield.Runtime
