import SynapseYield.Broker.LongbridgeOperations
import SynapseYield.Harness.Operations

set_option autoImplicit false

namespace SynapseYield.Longbridge

open Shared OrderService

variable {broker : LongbridgeBroker} {traceId orderId : String} {w w' : World} {order : Order}

-- The order a push is about, and the status it maps to.
def pushedOrder (db : Database) (payload : Payload) : Option Order :=
  db.orders.rows.find? fun order =>
    order.brokerOrderId = some ((payloadValue payload ["order_id", "broker_order_id"]).getD "None")

def pushedTarget (broker : LongbridgeBroker) (payload : Payload) : Option OrderStatus :=
  mapOrderStatus broker.characters (payloadValue payload ["status", "order_status"])

-- The outbox event of a push that ends an order.
def finalEvents (status : OrderStatus) : List String :=
  if status = .filled then ["ORDER_FILLED"]
  else if status = .cancelled then ["ORDER_CANCELLED"]
  else []

def orderEvent (traceId orderId eventType : String) : OutboxEvent :=
  { traceId, eventType, aggregateType := "ORDER", aggregateId := orderId, status := .pending }

def restatus (target : OrderStatus) : RowUpdate String Order Order.orderId where
  apply := fun row => { row with status := target }
  keeps := OrderService.status_keepsId target

-- A push that would move its order, and where to.
def pushMove (broker : LongbridgeBroker) (db : Database) (payload : Payload) :
    Option (Order × OrderStatus) :=
  match pushedOrder db payload, pushedTarget broker payload with
  | some order, some target => if target = order.status then none else some (order, target)
  | _, _ => none

-- What one call does to the orders, the outbox and the calls of the gateway.
inductive Step (broker : LongbridgeBroker) (operation : Operation) (w w' : World) : Prop
  | quiet (orders : w'.db.orders = w.db.orders) (outbox : w'.db.outboxEvents = w.db.outboxEvents)
      (calls : w'.gatewayCalls = w.gatewayCalls)
  | sent (order : Order) (outcome : SubmitOutcome)
      (stored : w.db.orders.find? order.orderId = some order)
      (approved : order.status = .riskApproved) (safe : submissionSafetyError broker = none)
      (answer : Sent order outcome w w') (outbox : w'.db.outboxEvents = w.db.outboxEvents)
  | withdrawn (order : Order) (target : OrderStatus)
      (stored : w.db.orders.find? order.orderId = some order)
      (live : order.status = .submitted ∨ order.status = .partiallyFilled)
      (pending : target = .cancelPending ∨ target = .reconciling)
      (orders : w'.db.orders = w.db.orders.modify order.orderId (restatus target))
      (outbox : w'.db.outboxEvents = w.db.outboxEvents)
      (calls : w'.gatewayCalls = w.gatewayCalls)
  | pushed (order : Order) (target : OrderStatus) (payload : Payload) (given : Option String)
      (traceId : String) (push : operation = .handleOrderEvent broker payload given)
      (move : pushMove broker w.db payload = some (order, target))
      (allowed : target ∈ allowedOrderTransitions order.status)
      (orders : w'.db.orders = w.db.orders.modify order.orderId (restatus target))
      (outbox : w'.db.outboxEvents =
        w.db.outboxEvents ++ (finalEvents target).map (orderEvent traceId order.orderId))
      (calls : w'.gatewayCalls = w.gatewayCalls)

theorem Step.refl (broker : LongbridgeBroker) (operation : Operation) (w : World) :
    Step broker operation w w := .quiet rfl rfl rfl

theorem getOrder_missing (missing : w.db.orders.find? orderId = none) :
    getOrder orderId w = .error (.noSuchRow "orders") w := by
  rw [getOrder, bind_of_ok (get_ok.mpr ⟨rfl, rfl⟩), missing]
  rfl

theorem transitionOrder_run (w : World) (traceId eventType : String) (target : OrderStatus)
    (found : w.db.orders.find? orderId = some order)
    (allowed : target ∈ allowedOrderTransitions order.status) :
    ∃ auditLogs, transitionOrder traceId orderId target eventType w = .ok () { w with db :=
      { w.db with orders := w.db.orders.modify orderId (restatus target), auditLogs } } :=
  ⟨_, transitionOrder_ok.mpr ⟨order, found, allowed, rfl⟩⟩

theorem find?_restatus (found : w.db.orders.find? orderId = some order) (target : OrderStatus) :
    (w.db.orders.modify orderId (restatus target)).find? orderId =
      some { order with status := target } :=
  (Table.find?_modify_self _ _ _).trans (congrArg _ found)

theorem submitOrder_step (broker : LongbridgeBroker) (traceId orderId : String)
    (operation : Operation) (w : World) :
    Step broker operation w (leaves (submitOrder broker traceId orderId w)) := by
  cases found : w.db.orders.find? orderId with
  | none =>
    rw [submitOrder, bind_of_error (getOrder_missing found)]
    exact .refl broker operation w
  | some order =>
    obtain rfl : order.orderId = orderId := Table.find?_key found
    by_cases approved : order.status = .riskApproved
    · cases safe : submissionSafetyError broker with
      | some safetyError =>
        obtain ⟨result, w', run, -, -⟩ := submitOrder_blocked traceId found approved safe
        rw [submitOrder, bind_of_ok (getOrder_ok.mpr ⟨found, rfl⟩)]
        simp only [approved, ne_eq, not_true_eq_false, if_false, safe]
        exact .quiet rfl rfl rfl
      | none =>
        obtain ⟨result, auditLogs, brokerEvents, run, -⟩ :=
          submitOrder_run traceId found approved safe
        rw [run]
        exact .sent order _ found approved safe ⟨rfl, rfl, rfl, rfl⟩ rfl
    · rw [submitOrder, bind_of_ok (getOrder_ok.mpr ⟨found, rfl⟩), if_pos approved]
      exact .refl broker operation w

theorem cancelOrder_step (broker : LongbridgeBroker) (traceId orderId : String)
    (operation : Operation) (w : World) :
    Step broker operation w (leaves (cancelOrder broker traceId orderId w)) := by
  cases found : w.db.orders.find? orderId with
  | none =>
    rw [cancelOrder, bind_of_error (getOrder_missing found)]
    exact .refl broker operation w
  | some order =>
    obtain rfl : order.orderId = orderId := Table.find?_key found
    rw [cancelOrder, bind_of_ok (getOrder_ok.mpr ⟨found, rfl⟩)]
    split
    next => exact .refl broker operation w
    next cancellable =>
      have live : order.status = .submitted ∨ order.status = .partiallyFilled := by tauto
      cases order.brokerOrderId with
      | none => exact .refl broker operation w
      | some brokerOrderId =>
        obtain ⟨auditLogs, moved⟩ : ∃ auditLogs, transitionOrder traceId order.orderId
            .cancelPending "LONGBRIDGE_CANCEL_PENDING" w = .ok () { w with db := { w.db with
              orders := w.db.orders.modify order.orderId (restatus .cancelPending), auditLogs } } :=
          transitionOrder_run w _ _ _ found
            (by obtain live | live := live <;> simp [live, allowedOrderTransitions])
        have stored := find?_restatus found .cancelPending
        simp only [bind_of_ok moved]
        -- Both failures of the cancel request move the order on from CANCEL_PENDING.
        have reconciled : ∀ (eventType : String) (result : BrokerOrderResult),
            Step broker operation w (leaves ((do
              transitionOrder traceId order.orderId .reconciling eventType
              pure result : Exec BrokerOrderResult) { w with db := { w.db with
                orders := w.db.orders.modify order.orderId (restatus .cancelPending)
                auditLogs } })) := by
          intro eventType result
          let pending : World := { w with db := { w.db with
            orders := w.db.orders.modify order.orderId (restatus .cancelPending), auditLogs } }
          obtain ⟨auditLogs, closed⟩ := transitionOrder_run pending traceId eventType .reconciling
            stored (by simp [allowedOrderTransitions])
          rw [bind_of_ok closed]
          exact .withdrawn order .reconciling found live (.inr rfl) (Table.modify_modify _ _ _ _) rfl rfl
        cases broker.gateway.cancelOutcome brokerOrderId with
        | unknown error => exact reconciled _ _
        | failed error => exact reconciled _ _
        | requested =>
          simp only
          rw [bind_of_ok (recordBrokerEvent_run _ stored)]
          exact .withdrawn order .cancelPending found live (.inl rfl) rfl rfl rfl

theorem mapOrderStatus_mapped {characters : CharacterTables} {value : Option String}
    {target : OrderStatus} (mapped : mapOrderStatus characters value = some target) :
    target ∈ statusMapping.map Prod.snd := by
  unfold mapOrderStatus at mapped
  split at mapped
  next => cases mapped
  next text =>
    dsimp only at mapped
    split at mapped
    next entry found =>
      rw [← Option.some.inj mapped]
      exact List.mem_map_of_mem (List.mem_of_find?_eq_some found)
    next =>
      obtain ⟨entry, found, rfl⟩ := Option.map_eq_some_iff.mp mapped
      exact List.mem_map_of_mem (List.mem_of_find?_eq_some found)

theorem pushMove_stored {target : OrderStatus} {payload : Payload}
    (move : pushMove broker w.db payload = some (order, target)) :
    w.db.orders.find? order.orderId = some order ∧ target ≠ order.status ∧
      target ∈ statusMapping.map Prod.snd := by
  unfold pushMove at move
  split at move
  next found given =>
    split at move
    next => cases move
    next changes =>
      cases move
      exact ⟨Table.find?_of_mem (List.mem_of_find?_eq_some found), changes,
        mapOrderStatus_mapped given⟩
  next => cases move

theorem handleOrderEvent_run (broker : LongbridgeBroker) (payload : Payload)
    (traceId : Option String) (w : World) :
    ∃ eventTraceId serial brokerEvents,
      match pushMove broker w.db payload with
      | none => ∃ result, handleOrderEvent broker payload traceId w =
          .ok result { w with db := { w.db with brokerEvents }, serial }
      | some (order, target) =>
        if target ∈ allowedOrderTransitions order.status then
          ∃ auditLogs, handleOrderEvent broker payload traceId w = .ok (some order.orderId)
            { w with
              db := { w.db with
                orders := w.db.orders.modify order.orderId (restatus target)
                auditLogs, brokerEvents
                outboxEvents := w.db.outboxEvents ++
                  (finalEvents target).map (orderEvent eventTraceId order.orderId) }
              serial }
        else handleOrderEvent broker payload traceId w =
          .error (.invalidOrderTransition order.status target)
            { w with db := { w.db with brokerEvents }, serial } := by
  obtain ⟨serial, -, trace⟩ := orNewId_run traceId "trace_push" w
  let eventTraceId := resolvedId traceId "trace_push" w.serial
  let noted : World := { w with
    db := { w.db with brokerEvents := w.db.brokerEvents ++
      [{ traceId := eventTraceId, brokerName
         brokerOrderId := payloadValue payload ["order_id", "broker_order_id"]
         brokerFillId := payloadValue payload ["trade_id", "broker_fill_id"]
         eventType := "ORDER_CHANGED", processedAt := w.now }] }
    serial }
  refine ⟨eventTraceId, serial, noted.db.brokerEvents, ?_⟩
  rw [handleOrderEvent, bind_of_ok trace, bind_of_ok (get_ok.mpr ⟨rfl, rfl⟩),
    bind_of_ok (show addBrokerEvent _ { w with serial } = .ok () noted from modify_ok.mpr rfl)]
  rw [show (w.db.orders.rows.find? fun order => decide (order.brokerOrderId = some ((payloadValue
    payload ["order_id", "broker_order_id"]).getD "None"))) = pushedOrder w.db payload from rfl,
    show mapOrderStatus broker.characters (payloadValue payload ["status", "order_status"]) =
      pushedTarget broker payload from rfl]
  unfold pushMove
  cases found : pushedOrder w.db payload with
  | none => exact ⟨_, rfl⟩
  | some order =>
    cases pushedTarget broker payload with
    | none => exact ⟨_, rfl⟩
    | some target =>
      dsimp only
      by_cases same : target = order.status
      · rw [if_pos same, if_pos same]
        exact ⟨_, rfl⟩
      · have stored : noted.db.orders.find? order.orderId = some order :=
          Table.find?_of_mem (List.mem_of_find?_eq_some found)
        rw [if_neg same, if_neg same]
        dsimp only
        by_cases allowed : target ∈ allowedOrderTransitions order.status
        · obtain ⟨auditLogs, moved⟩ := transitionOrder_run noted eventTraceId
            "LONGBRIDGE_ORDER_PUSH" target stored allowed
          rw [if_pos allowed, bind_of_ok moved]
          refine ⟨auditLogs, ?_⟩
          by_cases filled : target = .filled
          · simp only [filled, if_true, finalEvents]
            rfl
          · by_cases cancelled : target = .cancelled
            · simp only [cancelled, finalEvents, if_true]
              rfl
            · simp only [filled, cancelled, if_false, finalEvents, List.map_nil, List.append_nil]
              rfl
        · have refused : transitionOrder eventTraceId order.orderId target "LONGBRIDGE_ORDER_PUSH"
              noted = .error (.invalidOrderTransition order.status target) noted := by
            rw [transitionOrder, bind_of_ok (getOrder_ok.mpr ⟨stored, rfl⟩), assertOrderTransition,
              if_neg allowed]
            rfl
          rw [if_neg allowed, bind_of_error refused]

theorem handleOrderEvent_step (broker : LongbridgeBroker) (payload : Payload)
    (traceId : Option String) (w : World) :
    Step broker (.handleOrderEvent broker payload traceId) w
      (leaves (handleOrderEvent broker payload traceId w)) := by
  obtain ⟨eventTraceId, serial, brokerEvents, run⟩ := handleOrderEvent_run broker payload traceId w
  cases move : pushMove broker w.db payload with
  | none =>
    simp only [move] at run
    obtain ⟨result, run⟩ := run
    rw [run]
    exact .quiet rfl rfl rfl
  | some moved =>
    obtain ⟨order, target⟩ := moved
    simp only [move] at run
    split at run
    next allowed =>
      obtain ⟨auditLogs, run⟩ := run
      rw [run]
      exact .pushed order target payload traceId eventTraceId rfl move allowed rfl rfl rfl
    next =>
      rw [run]
      exact .quiet rfl rfl rfl

-- The calls that go to the broker.
inductive Via (broker : LongbridgeBroker) : Operation → Prop
  | submit (traceId orderId : String) (quote : MarketQuote) :
      Via broker (.submitOrder (.longbridge broker) traceId orderId quote)
  | cancel (traceId orderId : String) :
      Via broker (.cancelOrder (.longbridge broker) traceId orderId)
  | push (payload : Payload) (traceId : Option String) :
      Via broker (.handleOrderEvent broker payload traceId)

theorem Via.step {operation : Operation} (via : Via broker operation) (w : World) :
    Step broker operation w (leaves (operation.body w)) := by
  have kept : ∀ {α : Type} (x : Exec α), Step broker operation w (leaves (x w)) →
      Step broker operation w (leaves (discarded x w)) := by
    intro α x step
    cases run : x w with
    | ok a w' =>
      rw [discarded, bind_of_ok run]
      rwa [run] at step
    | error raised w' =>
      rw [discarded, bind_of_error run]
      rwa [run] at step
  cases via with
  | submit traceId orderId quote => exact kept _ (submitOrder_step broker traceId orderId _ w)
  | cancel traceId orderId => exact kept _ (cancelOrder_step broker traceId orderId _ w)
  | push payload traceId => exact kept _ (handleOrderEvent_step broker payload traceId w)

-- A broker on a paper account, an approved order for it, and the order with the broker.
def paperAccount (outcome : SubmitOutcome) : LongbridgeBroker where
  gateway := { submitOutcome := fun _ => outcome }
  config := { enableOrderSubmission := true }

def approvedTen : World :=
  perform (.runRiskCheck {} "t" "ord_0" none none)
    (perform (.createOrder "t" (limitIntent .buy .limit 10 100)) (cashOnly 5000))

def submittedTen : World :=
  perform (.submitOrder (.longbridge (paperAccount (.accepted "lb_0"))) "t" "ord_0" (quoteAt 100))
    approvedTen

end SynapseYield.Longbridge
