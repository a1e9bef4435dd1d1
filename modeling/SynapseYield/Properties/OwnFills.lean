import SynapseYield.Properties.Reconciliation
import SynapseYield.Properties.Ticks

set_option autoImplicit false

namespace SynapseYield.Runtime

open Shared Live Outcome

structure AcceptedOrder where
  symbol : PyString
  identity : PyString

-- The state file, the broker's truth, the orders of the turns so far, the reports that reconcile
-- has returned, and the truth that the last safe one has read.
structure AgentWorld where
  stored : Option PyValue
  truth : BrokerTruth
  accepted : List AcceptedOrder
  reports : List ReconcileReport
  snapshot : Option BrokerTruth

variable [PyText]

-- The positions and the open orders that are not of these orders stay as they are.
structure Caused (accepted : List AcceptedOrder) (before after : BrokerTruth) : Prop where
  positions : ∀ row, (∀ order ∈ accepted, positionSymbol row ≠ .ok (some order.symbol)) →
    (row ∈ before.positions ↔ row ∈ after.positions)
  orders : ∀ row, (∀ order ∈ accepted, orderIdentity row ≠ .ok (some order.identity)) →
    (row ∈ before.orders ↔ row ∈ after.orders)

def AgentWorld.reconciled (world : AgentWorld) (report : ReconcileReport)
    (state : Option PyValue) : AgentWorld :=
  { world with
    stored := state.orElse fun _ => world.stored
    reports := world.reports ++ [report]
    snapshot := if report.isSafe then some world.truth else world.snapshot }

-- The runner reconciles against the state file. A turn of the agent places orders, and may see
-- some of them filled.
def AgentWorld.answers (world : AgentWorld) : (op : TickOp) → op.Reply → AgentWorld → Prop
  | .reconcile key, reply, world' => ∃ ts disk,
    (∃ report state, reconcile key world.stored world.truth ts disk = .ok (report, state) ∧
      reply = .ok (some report.attributes) ∧ world' = world.reconciled report state) ∨
    (∃ raised message, reconcile key world.stored world.truth ts disk = .error raised ∧
      reply = .error ⟨raised, message⟩ ∧ world' = world)
  | .callAgent _ _, _, world' => ∃ placed truth,
    Caused (world.accepted ++ placed) world.truth truth ∧
      world' = { world with accepted := world.accepted ++ placed, truth }
  | _, _, world' => world' = world

def AgentWorld.moves (world world' : AgentWorld) : Prop :=
  ∃ truth, Caused world.accepted world.truth truth ∧ world' = { world with truth }

def agentSurroundings : Surroundings TickOp.Reply AgentWorld where
  answers := AgentWorld.answers
  moves := AgentWorld.moves

abbrev AgentTransition := Transition Unit AgentWorld PyError TickOp.Reply PyDict

abbrev AgentConfig := Config Unit AgentWorld PyError TickOp.Reply PyDict

abbrev AgentRun (runner : LiveRunner) (truth : BrokerTruth) (past : List AgentTransition)
    (c : AgentConfig) : Prop :=
  Run agentSurroundings (fun _ => runner.runOnce) ⟨none, truth, [], [], none⟩ past c

-- Every quantity that the broker reports is the one that was recorded last, and every order that
-- was recorded is still open, or was confirmed.
structure Undisturbed (snapshot now : BrokerTruth) : Prop where
  positions : ∀ recorded reported, holdings snapshot.positions = .ok recorded →
    holdings now.positions = .ok reported →
      ∀ entry ∈ reported, Matches (lastUnder recorded entry.1) entry.2
  orders : ∀ order ∈ snapshot.orders, isConfirmed order = .ok true ∨
    ∃ identity, orderIdentity order = .ok (some identity) ∧
      ∃ row ∈ now.orders, orderIdentity row = .ok (some identity)

omit [PyText] in
theorem isSafe_iff {report : ReconcileReport} :
    report.isSafe = true ↔ ∀ delta ∈ report.deltas, delta.kind.halting = false := by
  simp [ReconcileReport.isSafe, ReconcileReport.requiresHalt]

theorem identified_iff {orders : List PyDict} {entries : List (Option (PyString × PyDict))}
    (read : orders.mapM identified = .ok entries) {identity : PyString} :
    (lastUnder entries.reduceOption identity).isSome = true ↔
      ∃ row ∈ orders, orderIdentity row = .ok (some identity) := by
  constructor
  · intro found
    obtain ⟨row, last⟩ := Option.isSome_iff_exists.mp found
    have entry := (List.reduceOption_mem_iff).mp (mem_of_lastUnder last)
    obtain ⟨row', member, named⟩ := (mem_of_mapM_ok read).mp entry
    obtain ⟨identity', named, paired⟩ := Outcome.bind_ok.mp named
    obtain ⟨rfl, -⟩ : identity' = some identity ∧ row' = row := by
      simpa [pure, Except.pure] using paired
    exact ⟨row', member, named⟩
  · rintro ⟨row, member, named⟩
    exact identified_found read member named

theorem classifyOrder_halting {byId : PyString → Option PyDict} {order : PyDict}
    {delta : ReconcileDelta} (classified : classifyOrder byId order = .ok delta) :
    delta.kind.halting = false ↔ isConfirmed order = .ok true ∨
      ∃ identity, orderIdentity order = .ok (some identity) ∧ (byId identity).isSome = true := by
  simp only [classifyOrder, Outcome.bind_ok] at classified
  obtain ⟨identity, named, coid, -, rest⟩ := classified
  split at rest
  next identity' order' found =>
    obtain ⟨identity, rfl, found⟩ := Option.bind_eq_some_iff.mp found
    obtain ⟨order'', present, -⟩ := Option.map_eq_some_iff.mp found
    rw [← Outcome.pure_ok.mp rest]
    exact iff_of_true rfl (.inr ⟨identity, named, Option.isSome_of_eq_some present⟩)
  next absent =>
    have missed : ¬ ∃ identity, orderIdentity order = .ok (some identity) ∧
        (byId identity).isSome = true := by
      rintro ⟨identity', named', present⟩
      obtain rfl : identity = some identity' := Except.ok.inj (named.symm.trans named')
      obtain ⟨order', found⟩ := Option.isSome_iff_exists.mp present
      simp [found] at absent
    obtain ⟨confirmed, ruled, rest⟩ := Outcome.bind_ok.mp rest
    rw [ruled, or_iff_left missed]
    split at rest
    next holds =>
      rw [← Outcome.pure_ok.mp rest, holds]
      exact iff_of_true rfl rfl
    next fails =>
      rw [← Outcome.pure_ok.mp rest]
      exact iff_of_false Bool.noConfusion fun holds => fails (Except.ok.inj holds)

theorem diffOrders_halting {recorded now : List PyDict} {deltas : List ReconcileDelta}
    (diffed : diffOrders recorded now = .ok deltas) :
    (∀ delta ∈ deltas, delta.kind.halting = false) ↔
      ∀ order ∈ recorded, isConfirmed order = .ok true ∨
        ∃ identity, orderIdentity order = .ok (some identity) ∧
          ∃ row ∈ now, orderIdentity row = .ok (some identity) := by
  obtain ⟨entries, read, classified⟩ := Outcome.bind_ok.mp diffed
  simp only [← identified_iff read]
  constructor
  · intro harmless order member
    obtain ⟨delta, present, result⟩ := forall₂_right (mapM_ok.mp classified) member
    exact (classifyOrder_halting result).mp (harmless delta present)
  · intro kept delta member
    obtain ⟨order, present, result⟩ := (mem_of_mapM_ok classified).mp member
    exact (classifyOrder_halting result).mpr (kept order present)

theorem diffPositions_halting {recorded now : List PyDict} {deltas : List ReconcileDelta}
    (diffed : diffPositions recorded now = .ok deltas) :
    (∀ delta ∈ deltas, delta.kind.halting = false) ↔
      ∀ known reported, holdings recorded = .ok known → holdings now = .ok reported →
        ∀ entry ∈ reported, Matches (lastUnder known entry.1) entry.2 := by
  obtain ⟨known, reported, read, seen, explained⟩ := diffPositions_ok diffed
  constructor
  · intro harmless known' reported' read' seen' entry member
    obtain rfl := Except.ok.inj (read.symm.trans read')
    obtain rfl := Except.ok.inj (seen.symm.trans seen')
    obtain ⟨delta, present, explains⟩ := forall₂_right explained member
    by_contra differs
    have harmless := harmless delta present
    rw [explains.unknown differs] at harmless
    cases harmless
  · intro kept delta member
    obtain ⟨entry, present, explains⟩ := forall₂_left explained member
    rw [explains.matched (kept known reported read seen entry present)]
    rfl

theorem reconcile_safe_iff {key key' : PyString} {snapshot now : BrokerTruth} {ts' : PyString}
    {ts : AsciiString} {disk : Except PyError Unit} {report : ReconcileReport}
    {state : Option PyValue}
    (returned : reconcile key (some (stateDocument key' snapshot ts')) now ts disk =
      .ok (report, state)) : report.isSafe = true ↔ Undisturbed snapshot now := by
  obtain ⟨orders, positions, openOrders, held, diffed, -, -⟩ := reconcile_ok returned
  obtain ⟨prior, loaded, recordedOrders, recordedPositions⟩ := loadState_document key' snapshot ts'
  rw [loaded] at openOrders held diffed
  obtain rfl := Except.ok.inj (recordedOrders.symm.trans openOrders)
  obtain rfl := Except.ok.inj (recordedPositions.symm.trans held)
  simp only [diff, Outcome.bind_ok, Outcome.pure_ok] at diffed
  obtain ⟨orderDeltas, ordersDiffed, positionDeltas, positionsDiffed, deltas⟩ := diffed
  rw [isSafe_iff, ← deltas, List.forall_mem_append, diffOrders_halting ordersDiffed,
    diffPositions_halting positionsDiffed]
  exact ⟨fun ⟨kept, same⟩ => ⟨same, kept⟩, fun ⟨same, kept⟩ => ⟨kept, same⟩⟩

theorem reconcile_cold {key : PyString} {now : BrokerTruth} {ts : AsciiString}
    {disk : Except PyError Unit} {report : ReconcileReport} {state : Option PyValue}
    (returned : reconcile key none now ts disk = .ok (report, state)) : report.isSafe = true := by
  obtain ⟨orders, positions, -, -, diffed, -, -⟩ := reconcile_ok returned
  have deltas : report.deltas = [] := (Except.ok.inj diffed).symm
  rw [isSafe_iff, deltas]
  exact List.forall_mem_nil _

-- The state file holds the truth that the last safe report has read.
def Recorded (world : AgentWorld) : Prop :=
  match world.snapshot with
  | none => world.stored = none
  | some truth => ∃ key ts, world.stored = some (stateDocument key truth ts)

def UndisturbedAt (world : AgentWorld) : Prop :=
  ∀ snapshot ∈ world.snapshot, Undisturbed snapshot world.truth

theorem Recorded.safe_iff {world : AgentWorld} {key : PyString} {ts : AsciiString}
    {disk : Except PyError Unit} {report : ReconcileReport} {state : Option PyValue}
    (recorded : Recorded world)
    (returned : reconcile key world.stored world.truth ts disk = .ok (report, state)) :
    report.isSafe = true ↔ UndisturbedAt world := by
  unfold Recorded at recorded
  unfold UndisturbedAt
  cases before : world.snapshot with
  | none =>
    simp only [before] at recorded
    rw [recorded] at returned
    exact iff_of_true (reconcile_cold returned) nofun
  | some snapshot =>
    simp only [before] at recorded
    obtain ⟨key', ts', stored⟩ := recorded
    rw [stored] at returned
    rw [reconcile_safe_iff returned]
    simp

theorem Recorded.reconciled {world : AgentWorld} {key : PyString} {ts : AsciiString}
    {disk : Except PyError Unit} {report : ReconcileReport} {state : Option PyValue}
    (recorded : Recorded world)
    (returned : reconcile key world.stored world.truth ts disk = .ok (report, state)) :
    Recorded (world.reconciled report state) := by
  obtain ⟨-, -, -, -, -, persists, preserves⟩ := reconcile_ok returned
  unfold AgentWorld.reconciled Recorded
  cases safe : report.isSafe with
  | true =>
    rw [(persists safe).1]
    exact ⟨key, ts.val, rfl⟩
  | false =>
    rw [preserves safe]
    exact recorded

structure Unflagged (report : ReconcileReport) : Prop where
  fills : ∀ delta ∈ report.deltas, delta.kind ≠ .unknownFill
  orders : ∀ delta ∈ report.deltas, delta.kind ≠ .midOrderAmbiguous
  unblocked : reportIsUnsafe (some report.attributes) = .ok false

omit [PyText] in
theorem unflagged_iff {report : ReconcileReport} : Unflagged report ↔ report.isSafe = true := by
  have ruled := report.reportIsUnsafe
  constructor
  · intro unflagged
    rw [unflagged.unblocked, Except.ok.injEq] at ruled
    simp [ReconcileReport.isSafe, ← ruled]
  · intro safe
    have harmless := isSafe_iff.mp safe
    refine ⟨?_, ?_, ?_⟩
    · intro delta member fill
      have halts := harmless delta member
      rw [fill] at halts
      cases halts
    · intro delta member ambiguous
      have halts := harmless delta member
      rw [ambiguous] at halts
      cases halts
    · rw [ruled]
      simpa [ReconcileReport.isSafe] using safe

def Reconciles (t : AgentTransition) : Prop :=
  ∃ id key seen, t.action = .perform id (.reconcile key) (.ok seen)

structure Reports (t : AgentTransition) : Prop where
  recorded : Recorded t.after.world
  safe : (∀ report ∈ t.after.world.reports, report.isSafe = true) ↔
    (∀ report ∈ t.before.world.reports, report.isSafe = true) ∧
      (Reconciles t → UndisturbedAt t.before.world)

theorem Reports.quiet {t : AgentTransition} (recorded : Recorded t.before.world)
    (quiet : ¬ Reconciles t) (stored : t.after.world.stored = t.before.world.stored)
    (snapshot : t.after.world.snapshot = t.before.world.snapshot)
    (reports : t.after.world.reports = t.before.world.reports) : Reports t where
  recorded := by
    unfold Recorded at recorded ⊢
    rwa [snapshot, stored]
  safe := by
    rw [reports]
    exact (and_iff_left fun acts => absurd acts quiet).symm

theorem step_reports {runner : LiveRunner} {t : AgentTransition}
    (recorded : Recorded t.before.world)
    (step : Step agentSurroundings (fun _ => runner.runOnce) t.before t.action t.after) :
    Reports t := by
  obtain ⟨before, action, after⟩ := t
  dsimp only at recorded step
  cases step with
  | start id call fresh => exact .quiet recorded (fun ⟨_, _, _, acted⟩ => by cases acted) rfl rfl rfl
  | move moved =>
    obtain ⟨truth, -, rfl⟩ := moved
    exact .quiet recorded (fun ⟨_, _, _, acted⟩ => by cases acted) rfl rfl rfl
  | @perform id call op next reply world reached answered =>
    cases op with
    | reconcile key =>
      obtain ⟨ts, disk, returns | fails⟩ := answered
      · obtain ⟨report, state, returned, rfl, rfl⟩ := returns
        refine ⟨recorded.reconciled returned, ?_⟩
        rw [← recorded.safe_iff returned, forall_prop_of_true ⟨id, key, _, rfl⟩]
        simp only [AgentWorld.reconciled, List.forall_mem_append, List.forall_mem_singleton]
      · obtain ⟨raised, message, -, rfl, rfl⟩ := fails
        exact .quiet recorded (fun ⟨_, _, _, acted⟩ => by cases acted) rfl rfl rfl
    | callAgent sessionId prompt =>
      obtain ⟨placed, truth, -, rfl⟩ := answered
      exact .quiet recorded (fun ⟨_, _, _, acted⟩ => by cases acted) rfl rfl rfl
    | _ =>
      obtain rfl := answered
      exact .quiet recorded (fun ⟨_, _, _, acted⟩ => by cases acted) rfl rfl rfl

theorem run_reports {runner : LiveRunner} {truth : BrokerTruth} {past : List AgentTransition}
    {c : AgentConfig} (run : AgentRun runner truth past c) :
    Recorded c.world ∧ ((∀ report ∈ c.world.reports, report.isSafe = true) ↔
      ∀ t ∈ past, Reconciles t → UndisturbedAt t.before.world) := by
  induction run with
  | nil => exact ⟨rfl, by simp⟩
  | @snoc past t run step ih =>
    obtain ⟨recorded, safe⟩ := ih
    have reports := step_reports recorded step
    refine ⟨reports.recorded, ?_⟩
    rw [reports.safe, safe, List.forall_mem_append, List.forall_mem_singleton]

theorem never_flagged_iff {runner : LiveRunner} {truth : BrokerTruth} {past : List AgentTransition}
    {c : AgentConfig} (run : AgentRun runner truth past c) :
    (∀ report ∈ c.world.reports, Unflagged report) ↔
      ∀ t ∈ past, Reconciles t → UndisturbedAt t.before.world := by
  simp only [unflagged_iff]
  exact (run_reports run).2

def NeverFlagged : Prop :=
  ∀ (runner : LiveRunner) (truth : BrokerTruth) (past : List AgentTransition) (c : AgentConfig),
    AgentRun runner truth past c → ∀ report ∈ c.world.reports, Unflagged report

section Bought

omit [PyText]

def oneShare : PyDict := fields [("symbol", .str "NVDA"), ("qty", .float (.finite 1))]

def nvdaOrder : AcceptedOrder := ⟨"NVDA", "1"⟩

def BrokerTruth.bought (truth : BrokerTruth) : BrokerTruth where
  orders := truth.orders
  positions := truth.positions ++ [oneShare]
  balance := truth.balance
  decoded := by
    obtain ⟨orders, positions, balance⟩ := truth.decoded
    refine ⟨orders, fun row member => ?_, balance⟩
    obtain member | new := List.mem_append.mp member
    · exact positions row member
    · rw [List.mem_singleton.mp new]
      rfl

theorem bought_caused (accepted : List AcceptedOrder) (truth : BrokerTruth) :
    @Caused asciiText (accepted ++ [nvdaOrder]) truth truth.bought := by
  let _ := asciiText
  refine ⟨fun row other => ?_, fun _ _ => Iff.rfl⟩
  have apart : row ≠ oneShare := by
    rintro rfl
    exact other nvdaOrder (List.mem_append_right _ List.mem_cons_self) rfl
  simp [BrokerTruth.bought, apart]

-- Each turn buys one share, and has it filled at once.
def AgentWorld.pick (world : AgentWorld) : (op : TickOp) → op.Reply × AgentWorld
  | .reconcile key =>
    match @reconcile asciiText key world.stored world.truth noTime (.ok ()) with
    | .ok (report, state) => (.ok (some report.attributes), world.reconciled report state)
    | .error raised => (.error ⟨raised, .empty⟩, world)
  | .callAgent _ _ =>
    (.ok none, { world with accepted := world.accepted ++ [nvdaOrder], truth := world.truth.bought })
  | op => (juneAnswers op, world)

theorem AgentWorld.pick_answers (world : AgentWorld) (op : TickOp) :
    @AgentWorld.answers asciiText world op (world.pick op).1 (world.pick op).2 := by
  let _ := asciiText
  cases op with
  | reconcile key =>
    refine ⟨noTime, .ok (), ?_⟩
    dsimp only [pick]
    split
    next report state returned => exact .inl ⟨report, state, returned, rfl, rfl⟩
    next raised fails => exact .inr ⟨raised, .empty, fails, rfl, rfl⟩
  | callAgent sessionId prompt => exact ⟨[nvdaOrder], world.truth.bought, bought_caused .., rfl⟩
  | _ => rfl

def coldWorld : AgentWorld := ⟨none, noTruth, [], [], none⟩

theorem twoTicks_halt :
    let _ := asciiText
    (Process.advance AgentWorld.pick 5 (Process.advance AgentWorld.pick 8 coldWorld
      juneRunner.runOnce).1 juneRunner.runOnce).1.reports.any ReconcileReport.requiresHalt =
        true := by
  decide +kernel

theorem firstTick_unflagged :
    let _ := asciiText
    (Process.advance AgentWorld.pick 8 coldWorld juneRunner.runOnce).1.reports.map
      ReconcileReport.requiresHalt = [false] := by
  decide +kernel

theorem twoTicks_run :
    let _ := asciiText
    ∃ past c, AgentRun juneRunner noTruth past c ∧ ¬ ∀ report ∈ c.world.reports, Unflagged report := by
  intro _
  have cold : AgentRun juneRunner noTruth [] ⟨coldWorld, fun _ => none⟩ := .nil
  obtain ⟨_, run⟩ := cold.started 0 rfl ()
  obtain ⟨_, run, -⟩ := run.advance AgentWorld.pick_answers 8 (Function.update_self ..)
  obtain ⟨_, run⟩ := run.started 1 rfl ()
  obtain ⟨_, run, -⟩ := run.advance AgentWorld.pick_answers 5 (Function.update_self ..)
  refine ⟨_, _, run, fun unflagged => ?_⟩
  obtain ⟨report, member, halts⟩ := List.any_eq_true.mp twoTicks_halt
  have safe := unflagged_iff.mp (unflagged report member)
  rw [ReconcileReport.isSafe, halts] at safe
  cases safe

-- The runner is blocked by the share that its own turn has bought.
theorem neverFlagged_fails : ¬ @NeverFlagged asciiText := by
  intro never
  let _ := asciiText
  obtain ⟨past, c, run, flagged⟩ := twoTicks_run
  exact flagged (never juneRunner noTruth past c run)

theorem firstTick_run :
    let _ := asciiText
    ∃ past c, AgentRun juneRunner noTruth past c ∧ c.world.reports ≠ [] ∧
      ∀ report ∈ c.world.reports, Unflagged report := by
  intro _
  have cold : AgentRun juneRunner noTruth [] ⟨coldWorld, fun _ => none⟩ := .nil
  obtain ⟨_, run⟩ := cold.started 0 rfl ()
  obtain ⟨_, run, -⟩ := run.advance AgentWorld.pick_answers 8 (Function.update_self ..)
  have quiet : (Process.advance AgentWorld.pick 8 coldWorld juneRunner.runOnce).1.reports.map
      ReconcileReport.requiresHalt = [false] := firstTick_unflagged
  refine ⟨_, _, run, fun none => ?_, fun report member => ?_⟩
  · dsimp only at none
    rw [none] at quiet
    cases quiet
  · have halts : report.requiresHalt ∈ [false] := quiet ▸ List.mem_map_of_mem member
    rw [unflagged_iff, ReconcileReport.isSafe, List.mem_singleton.mp halts]
    rfl

theorem never_flagged_iff_firstTick :
    let _ := asciiText
    ∃ past c, AgentRun juneRunner noTruth past c ∧ c.world.reports ≠ [] ∧
      ∀ t ∈ past, Reconciles t → UndisturbedAt t.before.world := by
  intro _
  obtain ⟨past, c, run, reported, unflagged⟩ := firstTick_run
  exact ⟨past, c, run, reported, (never_flagged_iff run).mp unflagged⟩

end Bought

end SynapseYield.Runtime
