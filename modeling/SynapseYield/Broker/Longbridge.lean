import SynapseYield.Harness.OrderService

set_option autoImplicit false

namespace SynapseYield

structure LongbridgeBrokerConfig where
  mode : String := "paper"
  enableOrderSubmission : Bool := false
  enableLiveTrading : Bool := false

inductive CancelOutcome where
  | requested
  | unknown (error : String)
  | failed (error : String)
deriving DecidableEq, Repr

-- The behaviour of the SDK: what each submit call and each cancel call ends with,
-- in the order in which the calls are made.
structure LongbridgeGateway where
  submitOutcome : Nat → SubmitOutcome
  cancelOutcome : String → CancelOutcome := fun _ => .requested

-- str.upper and str.isalnum of the characters a push can contain.
structure CharacterTables where
  upper : Char → List Char := fun c => [c.toUpper]
  isAlnum : Char → Bool := Char.isAlphanum
  lower : Char → List Char := fun c => [c.toLower]

structure LongbridgeBroker where
  gateway : LongbridgeGateway
  config : LongbridgeBrokerConfig := {}
  characters : CharacterTables := {}

namespace Longbridge

open OrderService

def brokerName : String := "longbridge"

def submissionSafetyError (broker : LongbridgeBroker) : Option String :=
  let mode := String.ofList (broker.config.mode.toList.flatMap broker.characters.lower)
  if mode ≠ "paper" ∧ mode ≠ "live" then
    some s!"Unsupported Longbridge mode: {broker.config.mode}"
  else if !broker.config.enableOrderSubmission then some "External order submission is disabled"
  else if mode = "live" ∧ !broker.config.enableLiveTrading then some "Live trading is disabled"
  else none

def statusMapping : List (String × OrderStatus) :=
  [("NEW", .submitted), ("NOTREPORTED", .submitting), ("REPLACEDNOTREPORTED", .submitting),
    ("PROTECTEDNOTREPORTED", .submitting), ("VARIETIESNOTREPORTED", .submitting),
    ("WAITTONEW", .submitting), ("PENDINGNEW", .submitting), ("WAITTOREPLACE", .submitted),
    ("PENDINGREPLACE", .submitted), ("REPLACED", .submitted), ("PARTIALFILLED", .partiallyFilled),
    ("PARTIALLYFILLED", .partiallyFilled), ("FILLED", .filled), ("WAITTOCANCEL", .cancelPending),
    ("PENDINGCANCEL", .cancelPending), ("CANCELED", .cancelled), ("CANCELLED", .cancelled),
    ("REJECTED", .failed), ("EXPIRED", .cancelled), ("PARTIALWITHDRAWAL", .cancelled)]

def mapOrderStatus (characters : CharacterTables) (value : Option String) : Option OrderStatus :=
  match value with
  | none => none
  | some text =>
    let normalized := (text.toList.flatMap characters.upper).filter characters.isAlnum
    match statusMapping.find? fun entry => entry.1.toList = normalized with
    | some entry => some entry.2
    | none =>
      (statusMapping.find? fun entry => entry.1.toList.isSuffixOf normalized).map Prod.snd

-- A push: each key with the str of its value, none where the value is None.
abbrev Payload := List (String × Option String)

def payloadValue (payload : Payload) (names : List String) : Option String :=
  match names.find? fun name => payload.any fun entry => entry.1 == name with
  | some name => (payload.find? fun entry => entry.1 == name).bind Prod.snd
  | none => none

def recordBrokerEvent (traceId orderId eventType : String) : Exec Unit := do
  let order ← getOrder orderId
  let w ← get
  addBrokerEvent
    { traceId, brokerName, brokerOrderId := order.brokerOrderId, eventType, processedAt := w.now }

def submitRequest (order : Order) : LongbridgeSubmitRequest :=
  { clientOrderId := order.clientOrderId, symbol := order.symbol, side := order.side
    orderType := order.orderType, quantity := order.quantity, timeInForce := order.timeInForce
    limitPrice := order.limitPrice, triggerPrice := order.triggerPrice }

def gatewaySubmit (gateway : LongbridgeGateway) (request : LongbridgeSubmitRequest) :
    Exec SubmitOutcome := do
  let w ← get
  let outcome := gateway.submitOutcome w.gatewayCalls.length
  set { w with gatewayCalls := w.gatewayCalls ++ [GatewayCall.mk request outcome] }
  pure outcome

-- The branches of submit_order after the gateway call.
def recordOutcome (broker : LongbridgeBroker) (traceId orderId : String) :
    SubmitOutcome → Exec BrokerOrderResult
  | .unknown _ => do
    transitionOrder traceId orderId .reconciling "LONGBRIDGE_SUBMIT_RESULT_UNKNOWN"
    recordBrokerEvent traceId orderId "SUBMIT_UNKNOWN"
    pure
      { accepted := false
        message := "Longbridge submit result is unknown; reconciliation required" }
  | .refused error => do
    transitionOrder traceId orderId .failed "LONGBRIDGE_ORDER_FAILED"
    recordBrokerEvent traceId orderId "SUBMIT_FAILED"
    pure { accepted := false, message := s!"Longbridge rejected order: {error}" }
  | .accepted brokerOrderId => do
    updateOrder orderId (fun row => { row with brokerOrderId := some brokerOrderId })
      (brokerOrderId_keepsId brokerOrderId)
    transitionOrder traceId orderId .submitted "LONGBRIDGE_ORDER_SUBMITTED"
    recordBrokerEvent traceId orderId "ORDER_ACCEPTED"
    pure
      { accepted := true, brokerOrderId := some brokerOrderId
        message := s!"Order accepted by Longbridge {broker.config.mode} account" }

def submitOrder (broker : LongbridgeBroker) (traceId orderId : String) : Exec BrokerOrderResult := do
  let order ← getOrder orderId
  if order.status ≠ .riskApproved then
    pure
      { accepted := false
        message := s!"Order status {order.status.value} is not submittable" }
  else
    match submissionSafetyError broker with
    | some safetyError =>
      recordEvent traceId "LONGBRIDGE_SUBMISSION_BLOCKED" orderId
      pure { accepted := false, message := safetyError }
    | none =>
      transitionOrder traceId orderId .submitting "LONGBRIDGE_ORDER_SUBMITTING"
      let outcome ← gatewaySubmit broker.gateway (submitRequest order)
      recordOutcome broker traceId orderId outcome

def cancelOrder (broker : LongbridgeBroker) (traceId orderId : String) : Exec BrokerOrderResult := do
  let order ← getOrder orderId
  if order.status ≠ .submitted ∧ order.status ≠ .partiallyFilled then
    pure
      { accepted := false, brokerOrderId := order.brokerOrderId
        message := s!"Order status {order.status.value} is not cancellable" }
  else
    match order.brokerOrderId with
    | none => pure { accepted := false, message := "Missing broker order id" }
    | some brokerOrderId =>
      transitionOrder traceId orderId .cancelPending "LONGBRIDGE_CANCEL_PENDING"
      match broker.gateway.cancelOutcome brokerOrderId with
      | .unknown error =>
        transitionOrder traceId orderId .reconciling "LONGBRIDGE_CANCEL_RESULT_UNKNOWN"
        pure
          { accepted := false, brokerOrderId := some brokerOrderId
            message := s!"Longbridge cancel result is unknown: {error}" }
      | .failed error =>
        transitionOrder traceId orderId .reconciling "LONGBRIDGE_CANCEL_FAILED"
        pure
          { accepted := false, brokerOrderId := some brokerOrderId
            message := s!"Longbridge cancel failed: {error}" }
      | .requested =>
        recordBrokerEvent traceId orderId "CANCEL_REQUESTED"
        pure
          { accepted := true, brokerOrderId := some brokerOrderId
            message := "Longbridge cancel request accepted" }

def handleOrderEvent (broker : LongbridgeBroker) (payload : Payload) (traceId : Option String) :
    Exec (Option String) := do
  let brokerOrderId := payloadValue payload ["order_id", "broker_order_id"]
  let eventTraceId ← orNewId traceId "trace_push"
  let w ← get
  let found := w.db.orders.rows.find? fun order =>
    order.brokerOrderId = some (brokerOrderId.getD "None")
  addBrokerEvent
    { traceId := eventTraceId, brokerName, brokerOrderId
      brokerFillId := payloadValue payload ["trade_id", "broker_fill_id"]
      eventType := "ORDER_CHANGED", processedAt := w.now }
  match found with
  | none => pure none
  | some order =>
    match mapOrderStatus broker.characters (payloadValue payload ["status", "order_status"]) with
    | none => pure (some order.orderId)
    | some target =>
      if target = order.status then pure (some order.orderId)
      else
        transitionOrder eventTraceId order.orderId target "LONGBRIDGE_ORDER_PUSH"
        if target = .filled then enqueueEvent eventTraceId "ORDER_FILLED" "ORDER" order.orderId
        else if target = .cancelled then
          enqueueEvent eventTraceId "ORDER_CANCELLED" "ORDER" order.orderId
        else pure ()
        pure (some order.orderId)

end Longbridge

end SynapseYield
