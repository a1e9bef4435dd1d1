import SynapseYield.Broker.Longbridge

set_option autoImplicit false

namespace SynapseYield.Longbridge

open Shared OrderService

variable {broker : LongbridgeBroker} {traceId orderId : String} {w w' : World} {order : Order}

-- The order after the gateway has answered its submit request.
def answered (outcome : SubmitOutcome) (row : Order) : Order :=
  match outcome with
  | .accepted brokerOrderId =>
    { row with status := .submitted, brokerOrderId := some brokerOrderId }
  | .unknown _ => { row with status := .reconciling }
  | .refused _ => { row with status := .failed }

theorem answered_orderId (outcome : SubmitOutcome) (row : Order) :
    (answered outcome row).orderId = row.orderId := by
  cases outcome <;> rfl

theorem answered_restatus (outcome : SubmitOutcome) (status : OrderStatus) (row : Order) :
    answered outcome { row with status } = answered outcome row := by
  cases outcome <;> rfl

-- The request is sent, and its answer written to the order.
structure Sent (order : Order) (outcome : SubmitOutcome) (w w' : World) : Prop where
  orders : w'.db.orders = w.db.orders.modify order.orderId
    { apply := answered outcome, keeps := answered_orderId outcome }
  gatewayCalls : w'.gatewayCalls = w.gatewayCalls ++ [⟨submitRequest order, outcome⟩]
  serial : w'.serial = w.serial
  autoflush : w'.autoflush = w.autoflush

theorem recordBrokerEvent_run (eventType : String) (found : w.db.orders.find? orderId = some order) :
    recordBrokerEvent traceId orderId eventType w =
      .ok () { w with db := { w.db with brokerEvents := w.db.brokerEvents ++
        [{ traceId, brokerName, brokerOrderId := order.brokerOrderId, eventType
           processedAt := w.now }] } } := by
  rw [recordBrokerEvent, bind_of_ok (getOrder_ok.mpr ⟨found, rfl⟩),
    bind_of_ok (get_ok.mpr ⟨rfl, rfl⟩)]
  rfl

theorem closed_run (w : World) (target : OrderStatus) (auditEvent brokerEvent : String)
    (result : BrokerOrderResult) (found : w.db.orders.find? orderId = some order)
    (allowed : target ∈ allowedOrderTransitions order.status) :
    ∃ auditLogs brokerEvents, (do
        transitionOrder traceId orderId target auditEvent
        recordBrokerEvent traceId orderId brokerEvent
        pure result : Exec BrokerOrderResult) w = .ok result { w with db := { w.db with
          orders := w.db.orders.modify orderId
            { apply := fun row => { row with status := target } }
          auditLogs, brokerEvents } } := by
  have moved : transitionOrder traceId orderId target auditEvent w = .ok () _ :=
    transitionOrder_ok.mpr ⟨order, found, allowed, rfl⟩
  have stored : (w.db.orders.modify orderId
      { apply := fun row => { row with status := target } }).find? orderId =
        some { order with status := target } := by
    rw [Table.find?_modify_self, found]
    rfl
  rw [bind_of_ok moved, bind_of_ok (recordBrokerEvent_run brokerEvent stored)]
  exact ⟨_, _, rfl⟩

theorem recordOutcome_run (broker : LongbridgeBroker) (traceId : String) (w : World)
    (outcome : SubmitOutcome) (found : w.db.orders.find? orderId = some order)
    (submitting : order.status = .submitting) :
    ∃ result auditLogs brokerEvents,
      recordOutcome broker traceId orderId outcome w = .ok result { w with db := { w.db with
        orders := w.db.orders.modify orderId
          { apply := answered outcome, keeps := answered_orderId outcome }
        auditLogs, brokerEvents } } ∧
      (result.accepted ↔ ∃ brokerOrderId, outcome = .accepted brokerOrderId) ∧
      ∀ brokerOrderId, result.brokerOrderId = some brokerOrderId ↔
        outcome = .accepted brokerOrderId := by
  cases outcome with
  | unknown error =>
    obtain ⟨auditLogs, brokerEvents, run⟩ := closed_run w .reconciling
      "LONGBRIDGE_SUBMIT_RESULT_UNKNOWN" "SUBMIT_UNKNOWN" _ found
      (by simp [submitting, allowedOrderTransitions])
    exact ⟨_, auditLogs, brokerEvents, run, by simp, by simp⟩
  | refused error =>
    obtain ⟨auditLogs, brokerEvents, run⟩ := closed_run w .failed "LONGBRIDGE_ORDER_FAILED"
      "SUBMIT_FAILED" _ found (by simp [submitting, allowedOrderTransitions])
    exact ⟨_, auditLogs, brokerEvents, run, by simp, by simp⟩
  | accepted brokerOrderId =>
    let numbered : World := { w with db := { w.db with
      orders := w.db.orders.modify orderId
        { apply := fun row => { row with brokerOrderId := some brokerOrderId } } } }
    have stored : numbered.db.orders.find? orderId =
        some { order with brokerOrderId := some brokerOrderId } :=
      (Table.find?_modify_self _ _ _).trans (congrArg _ found)
    obtain ⟨auditLogs, brokerEvents, run⟩ := closed_run numbered .submitted
      "LONGBRIDGE_ORDER_SUBMITTED" "ORDER_ACCEPTED" _ stored
      (by simp [submitting, allowedOrderTransitions])
    have orders : numbered.db.orders.modify orderId
        { apply := fun row => { row with status := .submitted } } =
          w.db.orders.modify orderId { apply := answered (.accepted brokerOrderId) } :=
      Table.modify_modify _ _ _ _
    rw [orders] at run
    exact ⟨_, auditLogs, brokerEvents, run, by simp, by simp⟩

theorem submitOrder_run (traceId : String) (found : w.db.orders.find? orderId = some order)
    (approved : order.status = .riskApproved) (safe : submissionSafetyError broker = none) :
    ∃ result auditLogs brokerEvents,
      submitOrder broker traceId orderId w = .ok result { w with
        db := { w.db with
          orders := w.db.orders.modify order.orderId
            { apply := answered (broker.gateway.submitOutcome w.gatewayCalls.length)
              keeps := answered_orderId _ }
          auditLogs, brokerEvents }
        gatewayCalls := w.gatewayCalls ++
          [⟨submitRequest order, broker.gateway.submitOutcome w.gatewayCalls.length⟩] } ∧
      (result.accepted ↔ ∃ brokerOrderId,
        broker.gateway.submitOutcome w.gatewayCalls.length = .accepted brokerOrderId) ∧
      ∀ brokerOrderId, result.brokerOrderId = some brokerOrderId ↔
        broker.gateway.submitOutcome w.gatewayCalls.length = .accepted brokerOrderId := by
  obtain rfl : order.orderId = orderId := Table.find?_key found
  let submitting : World := { w with
    db := { w.db with
      orders := w.db.orders.modify order.orderId
        { apply := fun row => { row with status := .submitting } }
      auditLogs := w.db.auditLogs ++
        [{ traceId, actorType := "HARNESS", actorName := "OrderService"
           eventType := "LONGBRIDGE_ORDER_SUBMITTING", orderId := some order.orderId
           previousState := some order.status, nextState := some .submitting }] } }
  have moved : transitionOrder traceId order.orderId .submitting "LONGBRIDGE_ORDER_SUBMITTING" w =
      .ok () submitting :=
    transitionOrder_ok.mpr ⟨order, found, by simp [approved, allowedOrderTransitions], rfl⟩
  let outcome := broker.gateway.submitOutcome w.gatewayCalls.length
  let called : World := { submitting with
    gatewayCalls := w.gatewayCalls ++ [⟨submitRequest order, outcome⟩] }
  have sent : gatewaySubmit broker.gateway (submitRequest order) submitting = .ok outcome called := rfl
  have stored : called.db.orders.find? order.orderId = some { order with status := .submitting } :=
    (Table.find?_modify_self _ _ _).trans (congrArg _ found)
  obtain ⟨result, auditLogs, brokerEvents, run, answers⟩ :=
    recordOutcome_run broker traceId called outcome stored rfl
  have orders : called.db.orders.modify order.orderId
      { apply := answered outcome, keeps := answered_orderId outcome } =
        w.db.orders.modify order.orderId
          { apply := answered outcome, keeps := answered_orderId outcome } :=
    (Table.modify_modify _ _ _ _).trans
      (congrArg _ (RowUpdate.ext (funext (answered_restatus outcome .submitting))))
  refine ⟨result, auditLogs, brokerEvents, ?_, answers⟩
  rw [submitOrder, bind_of_ok (getOrder_ok.mpr ⟨found, rfl⟩)]
  simp only [approved, ne_eq, not_true_eq_false, if_false, safe]
  rw [bind_of_ok moved, bind_of_ok sent, run, orders]

theorem submitOrder_sent (traceId : String) (found : w.db.orders.find? orderId = some order)
    (approved : order.status = .riskApproved) (safe : submissionSafetyError broker = none) :
    ∃ result w', submitOrder broker traceId orderId w = .ok result w' ∧
      Sent order (broker.gateway.submitOutcome w.gatewayCalls.length) w w' ∧
      (result.accepted ↔ ∃ brokerOrderId,
        broker.gateway.submitOutcome w.gatewayCalls.length = .accepted brokerOrderId) := by
  obtain ⟨result, auditLogs, brokerEvents, run, accepted, -⟩ :=
    submitOrder_run traceId found approved safe
  exact ⟨result, _, run, ⟨rfl, rfl, rfl, rfl⟩, accepted⟩

theorem submitOrder_blocked (traceId : String) {safetyError : String}
    (found : w.db.orders.find? orderId = some order) (approved : order.status = .riskApproved)
    (blocked : submissionSafetyError broker = some safetyError) :
    ∃ result w', submitOrder broker traceId orderId w = .ok result w' ∧ result.accepted = false ∧
      w'.gatewayCalls = w.gatewayCalls ∧ w'.db.orders = w.db.orders := by
  rw [submitOrder, bind_of_ok (getOrder_ok.mpr ⟨found, rfl⟩)]
  simp only [approved, ne_eq, not_true_eq_false, if_false, blocked]
  exact ⟨_, _, rfl, rfl, rfl, rfl⟩

theorem submitOrder_returns (broker : LongbridgeBroker) (traceId : String)
    (found : w.db.orders.find? orderId = some order) :
    ∃ result w', submitOrder broker traceId orderId w = .ok result w' := by
  by_cases approved : order.status = .riskApproved
  · cases safe : submissionSafetyError broker with
    | some safetyError =>
      obtain ⟨result, w', run, -, -⟩ := submitOrder_blocked traceId found approved safe
      exact ⟨result, w', run⟩
    | none =>
      obtain ⟨result, auditLogs, brokerEvents, run, -⟩ :=
        submitOrder_run traceId found approved safe
      exact ⟨result, _, run⟩
  · rw [submitOrder, bind_of_ok (getOrder_ok.mpr ⟨found, rfl⟩), if_pos approved]
    exact ⟨_, _, rfl⟩

end SynapseYield.Longbridge
