import SynapseYield.Runtime.Reconcile

set_option autoImplicit false

namespace SynapseYield.Runtime

open Shared Live

-- A reading of the clock, with its epoch milliseconds and its text in seconds.
structure TickTime where
  instant : ℚ
  epochMs : Int
  iso : AsciiString

-- The truth values of the attributes of a reconcile report, or the error of reading one.
abbrev Attributes := PyString → Option (Except PyError Bool)

-- What the agent caller returns: nothing where it is false, and what dict() makes of it.
abbrev AgentResult := Option (Except PyError PyDict)

inductive TickKind where
  | orderPlaced
  | orderRejected
  | breach
  | haltTripped
deriving DecidableEq, Repr

structure TickEvent where
  kind : TickKind
  sessionId : PyString
  outcome : LiveActionOutcome
  server : PyString
  intentNormalized : PyString
  error : Option PyString
  auditId : PyString

-- The audit_id of the record that was written.
def TickEvent.recordedId (event : TickEvent) : Option PyValue → PyValue
  | none => .none
  | some (.dict record) => PyDict.get record "audit_id"
  | some _ => .str event.auditId

-- testAndFire reads _flatten_fired and sets it: no await stands between the two.
inductive TickOp where
  | clock
  | heartbeat (runnerId : PyString) (nowMs : Int)
  | haltFlag (broker : PyString)
  | loadMandate (broker : PyString)
  | reconcile (broker : PyString)
  | newId
  | writeAudit (event : TickEvent)
  | tripHalt (source reason broker : PyString)
  | testAndFire
  | flatten (broker : PyString)
  | callAgent (sessionId prompt : PyString)

@[reducible] def TickOp.Reply : TickOp → Type
  | .clock => Except PyError TickTime
  | .heartbeat _ _ => Except PyError Unit
  | .haltFlag _ => Except PyError Bool
  | .loadMandate _ => Except PyError (Option Mandate)
  | .reconcile _ => Except Failure (Option Attributes)
  | .newId => AsciiString
  | .writeAudit _ => Except PyError PyValue
  | .tripHalt _ _ _ => Except PyError Unit
  | .testAndFire => Bool
  | .flatten _ => Except Failure Unit
  | .callAgent _ _ => Except Failure AgentResult

abbrev TickProgram (α : Type) := Process PyError TickOp.Reply α

inductive TickOutcome where
  | halted
  | noMandate
  | expired
  | reconcileUnsafe
  | reconcileError
  | invoked
  | error
deriving DecidableEq, Repr

def TickOutcome.value : TickOutcome → PyString
  | .halted => "halted"
  | .noMandate => "no_mandate"
  | .expired => "expired"
  | .reconcileUnsafe => "reconcile_unsafe"
  | .reconcileError => "reconcile_error"
  | .invoked => "invoked"
  | .error => "error"

structure TickResult where
  outcome : TickOutcome
  broker : PyString
  reason : PyString := .empty
  agentResult : AgentResult := none
  auditId : PyValue := .none

def TickResult.toDict (result : TickResult) : Except PyError PyDict := do
  let agentResult ← match result.agentResult with
    | some made => PyValue.dict <$> made
    | none => .ok .none
  return fields [
    ("outcome", .str result.outcome.value),
    ("broker", .str result.broker),
    ("reason", .str result.reason),
    ("agent_result", agentResult),
    ("audit_id", result.auditId)]

def safeAttributes : List PyString := ["safe_to_trade", "is_safe", "safe", "ok", "clean"]

def unsafeAttributes : List PyString :=
  ["unsafe", "ambiguous", "has_discrepancies", "discrepancies"]

-- The first of these attributes that the report has.
def firstAttribute (report : Attributes) (names : List PyString) : Option (Except PyError Bool) :=
  names.findSome? report

def reportIsUnsafe : Option Attributes → Except PyError Bool
  | none => .ok true
  | some report =>
    match firstAttribute report safeAttributes, firstAttribute report unsafeAttributes with
    | some holds, _ => (! ·) <$> holds
    | none, some holds => holds
    | none, none => .ok true

-- What the runner sees of the report that reconcile builds.
def ReconcileReport.attributes (report : ReconcileReport) : Attributes :=
  fun name => if name = "is_safe" then some (.ok report.isSafe) else none

theorem ReconcileReport.reportIsUnsafe (report : ReconcileReport) :
    Runtime.reportIsUnsafe (some report.attributes) = .ok report.requiresHalt := by
  have found : firstAttribute report.attributes safeAttributes = some (.ok report.isSafe) := by
    rfl
  simp [Runtime.reportIsUnsafe, found, isSafe, Functor.map, Except.map]

section Expiry

variable [PyText]

-- datetime.min and datetime.max
def datetimeMin : PyString := "0001-01-01T00:00:00"

def datetimeMax : PyString := "9999-12-31T23:59:59.999999"

-- astimezone(timezone.utc)
def astimezone (instant : ℚ) : Except PyError ℚ :=
  if (PyText.fromisoformat datetimeMin).any (· ≤ instant) ∧
      (PyText.fromisoformat datetimeMax).any (instant ≤ ·) then .ok instant
  else .error .overflowError

def normalizeZ (raw : PyString) : PyString :=
  match raw.points.getLast? with
  | some c => if c = 90 ∨ c = 122 then (⟨raw.points.dropLast⟩ : PyString) ++ "+00:00" else raw
  | none => raw

def parseExpiry (raw : PyString) : Except PyError (Option ℚ) :=
  if raw.strip = .empty then .ok none
  else match PyText.fromisoformat (normalizeZ raw.strip) with
    | none => .ok none
    | some parsed => some <$> astimezone parsed

def mandateIsExpired (mandate : Mandate) (now : TickTime) : Except PyError Bool := do
  match ← parseExpiry mandate.consent.expiresAt with
  | none => return true
  | some expires => return expires ≤ now.instant

def commaJoin : List PyString → PyString
  | [] => "(none)"
  | first :: rest => rest.foldl (fun text item => text ++ ", " ++ item) first

def floatText (x : Number) : Except PyError PyString := (PyValue.float x).toStr

def optFloatText : Option Number → Except PyError PyString
  | some x => floatText x
  | none => PyValue.none.toStr

def promptOpening : PyString :=
  "You are running an AUTONOMOUS live-trading tick under a bounded " ++
  "mandate. Trade freely INSIDE the limits below; you must NEVER place an " ++
  "order that would breach any limit — defer instead. The enforcement " ++
  "gate and kill switch are hard backstops outside your control.\n\n"

def promptEnding : PyString :=
  "\n\nAssess the current opportunity set, then act within the mandate. If no " ++
  "action is warranted this tick, hold and explain why."

def pinMandatePrompt (broker : PyString) (mandate : Mandate) (now : TickTime) :
    Except PyError PyString := do
  let caps := mandate.hardCaps
  let permitted := mandate.universeConstraint
  let funding ← floatText caps.accountFundingUsd
  let orderNotional ← floatText caps.maxOrderNotionalUsd
  let exposure ← floatText caps.maxTotalExposureUsd
  let leverage ← floatText caps.maxLeverage
  let trades ← (PyValue.int caps.maxTradesPerDay).toStr
  let marketCap ← optFloatText permitted.minMarketCapUsd
  let dailyVolume ← optFloatText permitted.minAvgDailyVolumeUsd
  let rows : List (PyString × PyString) := [
    ("Broker: ", broker),
    ("\nTick time (UTC): ", now.iso.val),
    ("\nMandate expires (UTC): ", mandate.consent.expiresAt),
    ("\n\n=== HARD CAPS (vibe-enforced; broker funding is the absolute ceiling) ===\n", .empty),
    ("- Account funding (USD): ", funding),
    ("\n- Max single-order notional (USD): ", orderNotional),
    ("\n- Max total exposure (USD): ", exposure),
    ("\n- Max gross leverage: ", leverage),
    ("\n- Allowed instruments: ", commaJoin (caps.allowedInstruments.map InstrumentType.value)),
    ("\n- Max trades per UTC day: ", trades),
    ("\n\n=== DISCOVERY UNIVERSE (pick symbols within these structural filters) ===\n", .empty),
    ("- Asset classes: ", commaJoin (permitted.assetClasses.map AssetClass.value)),
    ("\n- Min market cap (USD): ", marketCap),
    ("\n- Min avg daily volume (USD): ", dailyVolume),
    ("\n- Excluded symbols (hard denylist): ", commaJoin permitted.excludeSymbols)]
  return promptOpening ++ ⟨rows.flatMap fun row => (row.1 ++ row.2).points⟩ ++ promptEnding

end Expiry

-- The result of a call, or what except Exception catches of it.
def caught {α : Type} : Except Failure α → TickProgram (Except Failure α)
  | .ok a => return .ok a
  | .error raised =>
    if raised.error.isException then return .error raised else throw raised.error

-- A call whose exceptions are logged and dropped.
def swallowed {α : Type} : Except PyError α → TickProgram (Option α)
  | .ok a => return some a
  | .error raised => if raised.isException then return none else throw raised

structure LiveRunner where
  broker : PyString
  sessionId : PyString
  -- submit_fn is not None
  submits : Bool

namespace LiveRunner

variable (runner : LiveRunner)

def runnerId : PyString := runner.broker

def audit (kind : TickKind) (outcome : LiveActionOutcome) (intent : PyString)
    (error : Option PyString := none) : TickProgram PyValue := do
  let event : TickEvent := {
    kind, outcome, error
    sessionId := runner.sessionId
    server := runner.broker
    intentNormalized := intent
    auditId := newAuditId (← Process.ask .newId) }
  return event.recordedId (← swallowed (← Process.ask (.writeAudit event)))

def writeHeartbeat (now : TickTime) : TickProgram Unit := do
  let _ ← swallowed (← Process.ask (.heartbeat runner.runnerId now.epochMs))

def runPreemptiveSweep : TickProgram Unit := do
  if runner.submits then
    if ! (← Process.ask .testAndFire) then
      match ← caught (← Process.ask (.flatten runner.broker)) with
      | .ok _ => return ()
      | .error raised =>
        let _ ← runner.audit .breach .error
          "preemptive halt sweep failed — not retried (no-retry §8.5)" (some raised.message)

def haltedResult : TickProgram TickResult := do
  runner.runPreemptiveSweep
  let auditId ← runner.audit .haltTripped .blocked "tick aborted — kill switch tripped"
  return { outcome := .halted, broker := runner.broker, reason := "kill switch tripped", auditId }

def noMandateResult : TickProgram TickResult := do
  let auditId ← runner.audit .orderRejected .blocked "tick aborted — no valid mandate on file"
  return { outcome := .noMandate, broker := runner.broker, reason := "no valid mandate", auditId }

def expiredResult : TickProgram TickResult := do
  let _ ← swallowed (← Process.ask
    (.tripHalt "file" "mandate expired — proactive runner stop" runner.broker))
  let auditId ← runner.audit .haltTripped .blocked
    "mandate expired — proactive stop, authority revoked"
  return {
    outcome := .expired
    broker := runner.broker
    reason := "mandate expired — proactive stop"
    auditId }

-- none where it is safe to go on.
def runReconcile : TickProgram (Option TickResult) := do
  match ← caught (← Process.ask (.reconcile runner.broker)) with
  | .error raised =>
    let auditId ← runner.audit .breach .blocked "reconcile failed — tick aborted (fail-closed)"
      (some raised.message)
    return some {
      outcome := .reconcileError
      broker := runner.broker
      reason := "reconcile raised; tick aborted"
      auditId }
  | .ok report =>
    if ← Process.ofExcept (reportIsUnsafe report) then
      let auditId ← runner.audit .breach .blocked
        "reconcile flagged unsafe/ambiguous — no auto-resend"
      return some {
        outcome := .reconcileUnsafe
        broker := runner.broker
        reason := "reconcile flagged unsafe/ambiguous broker state"
        auditId }
    else return none

variable [PyText]

def invokeAndAudit (mandate : Mandate) (now : TickTime) : TickProgram TickResult := do
  let prompt ← Process.ofExcept (pinMandatePrompt runner.broker mandate now)
  match ← caught (← Process.ask (.callAgent runner.sessionId prompt)) with
  | .error raised =>
    let auditId ← runner.audit .breach .error "autonomous tick — agent invocation error"
      (some raised.message)
    return { outcome := .error, broker := runner.broker, reason := raised.message, auditId }
  | .ok agentResult =>
    let auditId ← runner.audit .orderPlaced .accepted "autonomous tick completed"
    return { outcome := .invoked, broker := runner.broker, agentResult, auditId }

def tick : TickProgram TickResult := do
  let now ← Process.ofExcept (← Process.ask .clock)
  runner.writeHeartbeat now
  if ← Process.ofExcept (← Process.ask (.haltFlag runner.broker)) then runner.haltedResult
  else match ← Process.ofExcept (← Process.ask (.loadMandate runner.broker)) with
    | none => runner.noMandateResult
    | some mandate =>
      if ← Process.ofExcept (mandateIsExpired mandate now) then runner.expiredResult
      else match ← runner.runReconcile with
        | some aborted => return aborted
        | none => runner.invokeAndAudit mandate now

-- run_once: every result goes through to_dict.
def runOnce : TickProgram PyDict := do
  Process.ofExcept (← runner.tick).toDict

end LiveRunner

end SynapseYield.Runtime
