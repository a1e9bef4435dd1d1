import SynapseYield.Live.OrderGuard
import SynapseYield.Live.SdkOrderGate

set_option autoImplicit false

namespace SynapseYield.Live

open Shared

-- What a gate makes of the broker's answer to an order: error is none where it took the order.
structure Placement where
  response : PyDict
  error : Option PyString
  result : PyValue

-- What a gate checks after the preflight: the order at its notional, the positions, the balance.
structure Snapshot where
  intent : OrderIntent
  positions : PyValue
  balance : PyValue

-- The ceremony of both gates, by what they do in their own way.
structure Ceremony where
  gate : Gate
  snapshot : Mandate → Program (Except Denial Snapshot)
  review : Mandate → Snapshot → Program (Option PyDict)
  arguments : PyDict
  judge : Except Failure PyValue → Except PyError Placement
  request : PyDict
  gateDecision : Option PyDict → PyDict
  answer : PyValue → Option PyValue → Program PyValue
  snapshotReads : ∀ mandate, (snapshot mandate).Uses Operation.reads
  reviewAdvises : ∀ mandate taken, (review mandate taken).Uses Operation.advises
  answerQuiet : ∀ result record, (answer result record).Uses fun _ => False

namespace Ceremony

variable [PyText]

def rule [Trading] (ceremony : Ceremony) : Program Ruling := do
  match ← preflight ceremony.gate.broker with
  | .error denial => return .deny denial
  | .ok mandate => do
    match ← ceremony.snapshot mandate with
    | .error denial => return .deny denial
    | .ok taken => checkOrder ceremony.gate mandate taken.intent taken.positions taken.balance

-- The audit row of an order that was forwarded.
def forwarded (ceremony : Ceremony) (mandate : Mandate) (intent : OrderIntent)
    (advisory : Option PyDict) (placement : Placement) : PyString → PyString → LiveActionEvent :=
  .about ceremony.gate
    (if placement.error.isSome then .orderRejected else .orderPlaced)
    (if placement.error.isSome then .error else .accepted)
    (some mandate) (some intent) (some ceremony.request) (some placement.response)
    (ceremony.gateDecision advisory) placement.error

def settle (ceremony : Ceremony) (mandate : Mandate) (intent : OrderIntent)
    (advisory : Option PyDict) (placement : Placement) : Program PyValue := do
  if placement.error = none then
    let _ ← incrementDailyCount ceremony.gate.broker
  let record ← audit (ceremony.forwarded mandate intent advisory placement)
  ceremony.answer placement.result record

def allow (ceremony : Ceremony) (mandate : Mandate) (taken : Snapshot) : Program PyValue := do
  let advisory ← ceremony.review mandate taken
  let placement ← attempt (ceremony.judge (← ask (.forward ceremony.arguments)))
  ceremony.settle mandate taken.intent advisory placement

def carryOut (ceremony : Ceremony) : Ruling → Program PyValue
  | .deny denial => ceremony.gate.deny denial
  | .breach event mandate intent => ceremony.gate.denyBreach event mandate intent
  | .allow mandate intent positions balance =>
    ceremony.allow mandate { intent, positions, balance }

def execute [Trading] (ceremony : Ceremony) : Program PyValue := do
  ceremony.carryOut (← ceremony.rule)

end Ceremony

section Gates

variable [PyText]

def LiveOrderGuardTool.judge : Except Failure PyValue → Except PyError Placement
  | .error failure => .error failure.error
  | .ok forwarded => do
    let response := safeJson forwarded
    let failed ← isErrorEnvelope response
    return {
      response
      error := if failed then
        some (errorMessage response "broker forward returned an error") else none
      result := forwarded }

def LiveOrderGuardTool.snapshot [Trading] (tool : LiveOrderGuardTool) (kwargs : PyDict)
    (mandate : Mandate) : Program (Except Denial Snapshot) := do
  match tool.extract kwargs with
  | none =>
    return .error {
      reason := "order intent could not be parsed"
      checked := ["mandate", "expiry", "halt_flag", "intent"]
      mandate }
  | some intent => do
    match ← tool.normalizeIntentNotional intent with
    | none =>
      return .error {
        reason := "quantity order notional could not be priced (fail-closed)"
        checked := ["mandate", "expiry", "halt_flag", "intent", "quote"]
        mandate }
    | some intent => do
      let positions ← readFirst (tool.readTools "positions" "get_positions")
      let balance ← readFirst (tool.readTools "account" "get_account")
      return .ok { intent, positions, balance }

theorem LiveOrderGuardTool.snapshot_reads [Trading] (tool : LiveOrderGuardTool)
    (kwargs : PyDict) (mandate : Mandate) :
    (tool.snapshot kwargs mandate).Uses Operation.reads := by
  unfold snapshot
  cases tool.extract kwargs with
  | none => trivial
  | some intent =>
    refine .bind (normalizeNotional_reads _ _ (tool.quotePrice_reads intent)) fun normalized => ?_
    cases normalized with
    | none => trivial
    | some intent =>
      exact .bind (readFirst_reads _) fun _ => .bind (readFirst_reads _) fun _ => trivial

omit [PyText] in
theorem LiveOrderGuardTool.embedLiveAction_quiet (forwarded : PyValue) (record : Option PyValue) :
    (embedLiveAction forwarded record).Uses fun _ => False := by
  unfold embedLiveAction
  split
  · exact encoded_quiet _
  · trivial

def LiveOrderGuardTool.ceremony [Trading] (tool : LiveOrderGuardTool) (kwargs : PyDict) :
    Ceremony where
  gate := tool.gate
  snapshot := tool.snapshot kwargs
  review mandate taken := advisoryReview taken.intent taken.positions taken.balance mandate
  arguments := tool.filterArguments kwargs
  judge := judge
  request := kwargs
  gateDecision := allowed
  answer := embedLiveAction
  snapshotReads := tool.snapshot_reads kwargs
  reviewAdvises _ _ := advisoryReview_advises _ _ _ _
  answerQuiet := embedLiveAction_quiet

def SdkOrder.judge (reply : Except Failure PyValue) : Except PyError Placement := do
  let result ← placed reply
  let failed ← isError result
  return {
    response := responseOf result
    error := if failed then some (errorText result) else none
    result }

def SdkOrder.snapshot (order : SdkOrder) (mandate : Mandate) :
    Program (Except Denial Snapshot) := do
  match ← normalizeNotional order.intent with
  | none =>
    return .error {
      reason := "quantity order notional could not be priced (fail-closed)"
      checked := ["mandate", "expiry", "halt_flag", "quote"]
      mandate
      intent := order.intent }
  | some intent => do
    let positions ← safeRead "get_positions"
    let balance ← safeRead "get_account_snapshot"
    return .ok { intent, positions, balance }

theorem SdkOrder.snapshot_reads (order : SdkOrder) (mandate : Mandate) :
    (order.snapshot mandate).Uses Operation.reads := by
  refine .bind (normalizeNotional_reads _ _ (quotePrice_reads order.intent)) fun normalized => ?_
  cases normalized with
  | none => trivial
  | some intent =>
    exact .bind (safeRead_reads _) fun _ => .bind (safeRead_reads _) fun _ => trivial

def SdkOrder.ceremony (order : SdkOrder) : Ceremony where
  gate := order.gate
  snapshot := order.snapshot
  review _ _ := return none
  arguments := order.placeKwargs
  judge := judge
  request := order.placeKwargs
  gateDecision _ := allowed
  answer result record := return withRecord result record
  snapshotReads := order.snapshot_reads
  reviewAdvises _ _ := trivial
  answerQuiet _ _ := trivial

theorem LiveOrderGuardTool.rule_ceremony [Trading] (tool : LiveOrderGuardTool) (kwargs : PyDict) :
    tool.rule kwargs = (tool.ceremony kwargs).rule := by
  unfold rule Ceremony.rule
  refine congrArg _ (funext fun ready => ?_)
  cases ready with
  | error denial => rfl
  | ok mandate =>
    simp only [ceremony, snapshot]
    cases tool.extract kwargs with
    | none => rfl
    | some intent =>
      simp only [bind_assoc]
      refine congrArg _ (funext fun normalized => ?_)
      cases normalized with
      | none => rfl
      | some intent => simp

theorem LiveOrderGuardTool.allow_ceremony [Trading] (tool : LiveOrderGuardTool) (kwargs : PyDict)
    (mandate : Mandate) (taken : Snapshot) :
    tool.allow mandate taken.intent kwargs taken.positions taken.balance =
      (tool.ceremony kwargs).allow mandate taken := by
  unfold allow Ceremony.allow
  refine congrArg _ (funext fun advisory => congrArg _ (funext fun reply => ?_))
  cases reply with
  | error failure => rfl
  | ok forwarded =>
    simp only [ceremony, judge, bind, Except.bind, pure, Except.pure]
    cases isErrorEnvelope (safeJson forwarded) with
    | error raised => rfl
    | ok failed => cases failed <;> rfl

theorem LiveOrderGuardTool.execute_ceremony [Trading] (tool : LiveOrderGuardTool)
    (kwargs : PyDict) : tool.execute kwargs = (tool.ceremony kwargs).execute := by
  unfold execute Ceremony.execute
  rw [rule_ceremony]
  refine congrArg _ (funext fun ruling => ?_)
  cases ruling with
  | deny denial => rfl
  | breach event mandate intent => rfl
  | allow mandate intent positions balance =>
    exact tool.allow_ceremony kwargs mandate { intent, positions, balance }

theorem SdkOrder.rule_ceremony [Trading] (order : SdkOrder) :
    order.rule = order.ceremony.rule := by
  unfold rule Ceremony.rule
  refine congrArg _ (funext fun ready => ?_)
  cases ready with
  | error denial => rfl
  | ok mandate =>
    simp only [ceremony, snapshot, bind_assoc]
    refine congrArg _ (funext fun normalized => ?_)
    cases normalized with
    | none => rfl
    | some intent => simp

theorem SdkOrder.allow_ceremony (order : SdkOrder) (mandate : Mandate) (taken : Snapshot) :
    order.allow mandate taken.intent = order.ceremony.allow mandate taken := by
  unfold allow Ceremony.allow
  simp only [ceremony, pure_bind]
  refine congrArg _ (funext fun reply => ?_)
  simp only [judge, attempt, Process.ofExcept_bind, bind_assoc]
  refine congrArg _ (funext fun result => congrArg _ (funext fun failed => ?_))
  cases failed with
  | true => rfl
  | false => rfl

theorem SdkOrder.execute_ceremony [Trading] (order : SdkOrder) :
    order.execute = order.ceremony.execute := by
  unfold execute Ceremony.execute
  rw [rule_ceremony]
  refine congrArg _ (funext fun ruling => ?_)
  cases ruling with
  | deny denial => rfl
  | breach event mandate intent => rfl
  | allow mandate intent positions balance =>
    exact order.allow_ceremony mandate { intent, positions, balance }

end Gates

end SynapseYield.Live
