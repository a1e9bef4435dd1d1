import Mathlib.Algebra.Order.BigOperators.Group.List
import SynapseYield.Broker.LongbridgeSteps
import SynapseYield.Harness.Lifecycle

set_option autoImplicit false

namespace SynapseYield.Longbridge

open Shared OrderService

variable {broker : LongbridgeBroker} {operation : Operation} {w w' : World}

def Permitted (broker : LongbridgeBroker) : Prop :=
  let mode := String.ofList (broker.config.mode.toList.flatMap broker.characters.lower)
  (mode = "paper" ∨ mode = "live") ∧ broker.config.enableOrderSubmission ∧
    (mode = "live" → broker.config.enableLiveTrading)

instance (broker : LongbridgeBroker) : Decidable (Permitted broker) := by
  unfold Permitted
  infer_instance

theorem submissionSafetyError_none : submissionSafetyError broker = none ↔ Permitted broker := by
  unfold submissionSafetyError Permitted
  dsimp only
  split
  next unsupported => simp [unsupported]
  next supported =>
    have known : ∀ mode : String, ¬ (mode ≠ "paper" ∧ mode ≠ "live") → mode = "paper" ∨ mode = "live" := by
      intro mode; tauto
    split
    next disabled => simp_all
    next enabled =>
      split
      next dead => simp_all
      next => simp_all

-- One turn of the adapter. A caller keeps the session after a call that raised, or rolls the
-- call back as the push handler does, and may commit between two calls.
inductive Turn (w : World) : World → Prop
  | called (broker : LongbridgeBroker) (operation : Operation) (via : Via broker operation) :
      Turn w (leaves (operation.body w))
  | dropped (broker : LongbridgeBroker) (operation : Operation) (via : Via broker operation)
      (raised : PyException) (mid : World) (run : operation.body w = .error raised mid) :
      Turn w { mid with db := w.db, unflushed := [] }
  | committed : Turn w w.opened

def Traffic : World → World → Prop := Relation.ReflTransGen Turn

theorem Via.raised_uncalled (via : Via broker operation) {raised : PyException} {mid : World}
    (run : operation.body w = .error raised mid) : mid.gatewayCalls = w.gatewayCalls := by
  have quiet := Lifecycle.uncalled_bookkeeping w.gatewayCalls
  cases via with
  | submit traceId orderId quote =>
    cases found : w.db.orders.find? orderId with
    | none =>
      have missing : submitOrder broker traceId orderId w = .error (.noSuchRow "orders") w := by
        rw [submitOrder, bind_of_error (getOrder_missing found)]
      cases (bind_of_error missing).symm.trans run
      rfl
    | some order =>
      obtain ⟨result, w', returns⟩ := submitOrder_returns broker traceId found
      cases (bind_of_ok returns).symm.trans run
  | cancel traceId orderId =>
    have kept := (quiet.writes.longbridge_cancelOrder broker traceId orderId).discarded w rfl
    exact (congrArg (fun result => (leaves result).gatewayCalls) run).symm.trans kept
  | push payload traceId =>
    have kept := (quiet.writes.handleOrderEvent broker payload traceId).discarded w rfl
    exact (congrArg (fun result => (leaves result).gatewayCalls) run).symm.trans kept

def submittable (db : Database) (clientOrderId : String) : ℤ :=
  db.orders.sum fun row =>
    if row.clientOrderId = clientOrderId ∧ row.status = .riskApproved then 1 else 0

def sentUnder (clientOrderId : String) (calls : List GatewayCall) : ℕ :=
  calls.countP fun call => call.request.clientOrderId = clientOrderId

theorem submittable_moved {update : RowUpdate String Order Order.orderId} {order : Order}
    (found : w.db.orders.find? order.orderId = some order)
    (orders : w'.db.orders = w.db.orders.modify order.orderId update)
    (left : (update.apply order).status ≠ .riskApproved) (clientOrderId : String) :
    submittable w'.db clientOrderId = submittable w.db clientOrderId -
      if order.clientOrderId = clientOrderId ∧ order.status = .riskApproved then 1 else 0 := by
  unfold submittable
  rw [orders, Table.sum_modify _ _ _ _ found]
  simp only [left, and_false, if_false, zero_sub]
  exact (sub_eq_add_neg _ _).symm

theorem submittable_restatus {order : Order} {target : OrderStatus}
    (found : w.db.orders.find? order.orderId = some order)
    (orders : w'.db.orders = w.db.orders.modify order.orderId (restatus target))
    (left : target ≠ .riskApproved) (clientOrderId : String) :
    submittable w'.db clientOrderId ≤ submittable w.db clientOrderId := by
  rw [submittable_moved found orders left]
  split <;> omega

theorem Step.spent (step : Step broker operation w w') :
    ∃ next, w'.gatewayCalls = w.gatewayCalls ++ next ∧
      (∀ clientOrderId, sentUnder clientOrderId next + submittable w'.db clientOrderId ≤
        submittable w.db clientOrderId) ∧
      ∀ call ∈ next, Permitted broker ∧ ∃ order ∈ w.db.orders.rows,
        order.status = .riskApproved ∧ call.request = submitRequest order := by
  cases step with
  | quiet orders outbox calls =>
    refine ⟨[], by simp [calls], fun clientOrderId => ?_, by simp⟩
    simp [sentUnder, submittable, orders]
  | sent order outcome stored approved safe answer outbox =>
    refine ⟨_, answer.gatewayCalls, fun clientOrderId => ?_, ?_⟩
    · have left : (answered outcome order).status ≠ .riskApproved := by
        cases outcome <;> simp [answered]
      rw [submittable_moved stored answer.orders left]
      by_cases same : order.clientOrderId = clientOrderId <;>
        simp [sentUnder, submitRequest, same, approved]
    · intro call sent
      obtain rfl := List.mem_singleton.mp sent
      exact ⟨submissionSafetyError_none.mp safe, order, Table.find?_mem stored, approved, rfl⟩
  | withdrawn order target stored live pending orders outbox calls =>
    refine ⟨[], by simp [calls], fun clientOrderId => ?_, by simp⟩
    have left : target ≠ .riskApproved := by obtain rfl | rfl := pending <;> simp
    simpa [sentUnder] using submittable_restatus stored orders left clientOrderId
  | pushed order target payload given traceId push move allowed orders outbox calls =>
    obtain ⟨stored, -, mapped⟩ := pushMove_stored move
    refine ⟨[], by simp [calls], fun clientOrderId => ?_, by simp⟩
    have left : target ≠ .riskApproved := by
      rintro rfl
      simp [statusMapping] at mapped
    simpa [sentUnder] using submittable_restatus stored orders left clientOrderId

theorem Turn.spent (turn : Turn w w') :
    ∃ next, w'.gatewayCalls = w.gatewayCalls ++ next ∧
      ∀ clientOrderId, sentUnder clientOrderId next + submittable w'.db clientOrderId ≤
        submittable w.db clientOrderId := by
  cases turn with
  | called broker operation via =>
    obtain ⟨next, calls, spent, -⟩ := (via.step w).spent
    exact ⟨next, calls, spent⟩
  | dropped broker operation via raised mid run =>
    exact ⟨[], by simp [via.raised_uncalled run], fun clientOrderId => by simp [sentUnder]⟩
  | committed => exact ⟨[], by simp [World.opened], fun clientOrderId => by simp [sentUnder, World.opened]⟩

theorem Traffic.spent (traffic : Traffic w w') :
    ∃ made, w'.gatewayCalls = w.gatewayCalls ++ made ∧
      ∀ clientOrderId, sentUnder clientOrderId made + submittable w'.db clientOrderId ≤
        submittable w.db clientOrderId := by
  induction traffic with
  | refl => exact ⟨[], by simp, fun clientOrderId => by simp [sentUnder]⟩
  | tail _ turn ih =>
    obtain ⟨made, calls, spent⟩ := ih
    obtain ⟨next, called, spends⟩ := turn.spent
    refine ⟨made ++ next, by rw [called, calls, List.append_assoc], fun clientOrderId => ?_⟩
    have before := spent clientOrderId
    have after := spends clientOrderId
    simp only [sentUnder, List.countP_append, Nat.cast_add] at before after ⊢
    omega

theorem submittable_nonneg (db : Database) (clientOrderId : String) :
    0 ≤ submittable db clientOrderId := by
  refine List.sum_nonneg fun value member => ?_
  obtain ⟨row, -, rfl⟩ := List.mem_map.mp member
  split <;> decide

-- client_order_id is unique, so only the order itself counts.
theorem submittable_order {db : Database} (unique : db.UniqueColumns) {order : Order}
    (stored : order ∈ db.orders.rows) :
    submittable db order.clientOrderId = if order.status = .riskApproved then 1 else 0 := by
  unfold submittable
  rw [Table.sum_only _ _ stored]
  · simp
  · intro other present apart
    refine if_neg fun ⟨same, _⟩ => apart ?_
    exact congrArg Order.orderId (List.inj_on_of_nodup_map unique.2.1 present stored same)

theorem submitted_once {start w : World} (unique : start.db.UniqueColumns)
    (traffic : Traffic start w) :
    (∃ made, w.gatewayCalls = start.gatewayCalls ++ made ∧
      ∀ order ∈ start.db.orders.rows, sentUnder order.clientOrderId made ≤
        if order.status = .riskApproved then 1 else 0) ∧
    ∀ broker operation, Via broker operation → ∃ next,
      (leaves (operation.body w)).gatewayCalls = w.gatewayCalls ++ next ∧
      ∀ call ∈ next, Permitted broker ∧ ∃ order ∈ w.db.orders.rows,
        order.status = .riskApproved ∧ call.request = submitRequest order := by
  constructor
  · obtain ⟨made, calls, spent⟩ := traffic.spent
    refine ⟨made, calls, fun order stored => ?_⟩
    have bound := spent order.clientOrderId
    have left := submittable_nonneg w.db order.clientOrderId
    rw [submittable_order unique stored] at bound
    split at bound <;> simp only [*, if_true, if_false] <;> omega
  · intro broker operation via
    obtain ⟨next, calls, -, approved⟩ := (via.step w).spent
    exact ⟨next, calls, approved⟩

def submitAgain (w : World) : World :=
  leaves ((Operation.submitOrder (.longbridge (paperAccount (.accepted "lb_0"))) "t" "ord_0"
    (quoteAt 100)).body w)

theorem submitAgain_turn (w : World) : Turn w (submitAgain w) := .called _ _ (.submit _ _ _)

theorem submitted_once_paper :
    (∃ made, (submitAgain (submitAgain approvedTen)).gatewayCalls =
        approvedTen.gatewayCalls ++ made ∧
      ∀ order ∈ approvedTen.db.orders.rows, sentUnder order.clientOrderId made ≤
        if order.status = .riskApproved then 1 else 0) ∧
    (submitAgain (submitAgain approvedTen)).gatewayCalls.length = 1 :=
  ⟨(submitted_once (by decide +kernel)
    (.tail (.single (submitAgain_turn _)) (submitAgain_turn _))).1, by decide +kernel⟩

end SynapseYield.Longbridge

namespace SynapseYield.Longbridge

open Shared OrderService

variable {broker : LongbridgeBroker} {operation : Operation} {w w' : World} {orderId : String}

def statusOf (db : Database) (orderId : String) : Option OrderStatus :=
  (db.orders.find? orderId).map Order.status

-- The outbox event that the status of an order calls for, and the ones enqueued for it.
def ending (db : Database) (orderId : String) : List String :=
  (statusOf db orderId).elim [] finalEvents

def announced (orderId : String) (events : List OutboxEvent) : List String :=
  (events.filter fun event => event.aggregateId = orderId ∧
    (event.eventType = "ORDER_FILLED" ∨ event.eventType = "ORDER_CANCELLED")).map
      OutboxEvent.eventType

theorem announced_append (orderId : String) (events next : List OutboxEvent) :
    announced orderId (events ++ next) = announced orderId events ++ announced orderId next := by
  simp [announced]

theorem finalEvents_cases (status : OrderStatus) : finalEvents status = ["ORDER_FILLED"] ∨
    finalEvents status = ["ORDER_CANCELLED"] ∨ finalEvents status = [] := by
  cases status <;> simp [finalEvents]

theorem announced_orderEvents (traceId orderId about : String) (status : OrderStatus) :
    announced about ((finalEvents status).map (orderEvent traceId orderId)) =
      if about = orderId then finalEvents status else [] := by
  obtain events | events | events := finalEvents_cases status <;> rw [events] <;>
  · by_cases same : about = orderId
    · simp [announced, orderEvent, same]
    · have other : orderId ≠ about := fun hit => same hit.symm
      simp [announced, orderEvent, same, other]

theorem ending_moved {order : Order} {update : RowUpdate String Order Order.orderId}
    (found : w.db.orders.find? order.orderId = some order)
    (orders : w'.db.orders = w.db.orders.modify order.orderId update) (orderId : String) :
    ending w'.db orderId = if orderId = order.orderId then finalEvents (update.apply order).status
      else ending w.db orderId := by
  unfold ending statusOf
  rw [orders, Table.find?_modify]
  by_cases same : orderId = order.orderId
  · simp [same, found]
  · simp [same]

theorem ending_found {order : Order} (found : w.db.orders.find? order.orderId = some order) :
    ending w.db order.orderId = finalEvents order.status := by
  simp [ending, statusOf, found]

theorem Step.announced (step : Step broker operation w w') :
    ∃ next, w'.db.outboxEvents = w.db.outboxEvents ++ next ∧
      ∀ orderId, ending w.db orderId ++ announced orderId next = ending w'.db orderId := by
  cases step with
  | quiet orders outbox calls =>
    exact ⟨[], by simp [outbox], fun orderId => by simp [Longbridge.announced, ending, statusOf, orders]⟩
  | sent order outcome stored approved safe answer outbox =>
    refine ⟨[], by simp [outbox], fun orderId => ?_⟩
    rw [ending_moved stored answer.orders]
    split
    next same => 
      rw [same, ending_found stored, approved]
      cases outcome <;> rfl
    next => simp [Longbridge.announced]
  | withdrawn order target stored live pending orders outbox calls =>
    refine ⟨[], by simp [outbox], fun orderId => ?_⟩
    rw [ending_moved stored orders]
    split
    next same =>
      rw [same, ending_found stored]
      obtain live | live := live <;> obtain rfl | rfl := pending <;> rw [live] <;> rfl
    next => simp [Longbridge.announced]
  | pushed order target payload given traceId push move allowed orders outbox calls =>
    obtain ⟨stored, -, -⟩ := pushMove_stored move
    refine ⟨_, outbox, fun orderId => ?_⟩
    rw [ending_moved stored orders, announced_orderEvents]
    split
    next same =>
      -- A status with a final event has no way out.
      have unended : finalEvents order.status = [] := by
        unfold finalEvents
        split
        next filled => simp [filled, allowedOrderTransitions] at allowed
        next =>
          split
          next cancelled => simp [cancelled, allowedOrderTransitions] at allowed
          next => rfl
      rw [same, ending_found stored, unended]
      rfl
    next => simp

theorem Turn.announced (turn : Turn w w') :
    ∃ next, w'.db.outboxEvents = w.db.outboxEvents ++ next ∧
      ∀ orderId, ending w.db orderId ++ announced orderId next = ending w'.db orderId := by
  cases turn with
  | called broker operation via => exact (via.step w).announced
  | dropped broker operation via raised mid run =>
    exact ⟨[], by simp, fun orderId => by simp [Longbridge.announced]⟩
  | committed => exact ⟨[], by simp [World.opened], fun orderId => by simp [Longbridge.announced, World.opened]⟩

theorem Traffic.announced (traffic : Traffic w w') :
    ∃ added, w'.db.outboxEvents = w.db.outboxEvents ++ added ∧
      ∀ orderId, ending w.db orderId ++ announced orderId added = ending w'.db orderId := by
  induction traffic with
  | refl => exact ⟨[], by simp, fun orderId => by simp [Longbridge.announced]⟩
  | tail _ turn ih =>
    obtain ⟨added, events, before⟩ := ih
    obtain ⟨next, enqueued, after⟩ := turn.announced
    refine ⟨added ++ next, by rw [enqueued, events, List.append_assoc], fun orderId => ?_⟩
    rw [announced_append, ← List.append_assoc, before, after]

theorem ending_filled {db : Database} : ending db orderId = ["ORDER_FILLED"] ↔
    statusOf db orderId = some .filled := by
  unfold ending
  cases statusOf db orderId with
  | none => simp
  | some status => cases status <;> simp [finalEvents]

theorem ending_cancelled {db : Database} : ending db orderId = ["ORDER_CANCELLED"] ↔
    statusOf db orderId = some .cancelled := by
  unfold ending
  cases statusOf db orderId with
  | none => simp
  | some status => cases status <;> simp [finalEvents]

theorem ending_cases (db : Database) (orderId : String) : ending db orderId = ["ORDER_FILLED"] ∨
    ending db orderId = ["ORDER_CANCELLED"] ∨ ending db orderId = [] := by
  unfold ending
  cases statusOf db orderId with
  | none => simp
  | some status => exact finalEvents_cases status

theorem announced_iff {db db' : Database} {events : List String}
    (same : ending db orderId ++ events = ending db' orderId) :
    ("ORDER_FILLED" ∈ events ↔
      statusOf db orderId ≠ some .filled ∧ statusOf db' orderId = some .filled) ∧
    ("ORDER_CANCELLED" ∈ events ↔
      statusOf db orderId ≠ some .cancelled ∧ statusOf db' orderId = some .cancelled) ∧
    events.length ≤ 1 := by
  simp only [Ne, ← ending_filled, ← ending_cancelled, ← same]
  have whole := ending_cases db' orderId
  rw [← same] at whole
  obtain before | before | before := ending_cases db orderId <;> rw [before] at whole ⊢
  · simp at whole
    simp [whole]
  · simp at whole
    simp [whole]
  · obtain whole | whole | whole := whole <;> simp at whole <;> simp [whole]

theorem finalEvent_once {start w : World} (traffic : Traffic start w) :
    (∃ added, w.db.outboxEvents = start.db.outboxEvents ++ added ∧
      ∀ orderId, (announced orderId added).length ≤ 1) ∧
    ∀ w', Turn w w' → ∃ next, w'.db.outboxEvents = w.db.outboxEvents ++ next ∧ ∀ orderId,
      ("ORDER_FILLED" ∈ announced orderId next ↔
        statusOf w.db orderId ≠ some .filled ∧ statusOf w'.db orderId = some .filled) ∧
      ("ORDER_CANCELLED" ∈ announced orderId next ↔
        statusOf w.db orderId ≠ some .cancelled ∧ statusOf w'.db orderId = some .cancelled) := by
  constructor
  · obtain ⟨added, events, whole⟩ := traffic.announced
    exact ⟨added, events, fun orderId => (announced_iff (whole orderId)).2.2⟩
  · intro w' turn
    obtain ⟨next, events, whole⟩ := turn.announced
    refine ⟨next, events, fun orderId => ?_⟩
    obtain ⟨filled, cancelled, -⟩ := announced_iff (whole orderId)
    exact ⟨filled, cancelled⟩

def pushOf (status : String) (w : World) : World :=
  leaves ((Operation.handleOrderEvent (paperAccount (.accepted "lb_0"))
    [("order_id", some "lb_0"), ("status", some status)] (some "t")).body w)

theorem pushOf_turn (status : String) (w : World) : Turn w (pushOf status w) :=
  .called _ _ (.push _ _)

theorem finalEvent_once_filled :
    (∃ added, (pushOf "Filled" (pushOf "Filled" (submitAgain approvedTen))).db.outboxEvents =
        approvedTen.db.outboxEvents ++ added ∧
      ∀ orderId, (announced orderId added).length ≤ 1) ∧
    announced "ord_0" (pushOf "Filled" (pushOf "Filled" (submitAgain approvedTen))).db.outboxEvents =
      ["ORDER_FILLED"] :=
  ⟨(finalEvent_once (.tail (.tail (.single (submitAgain_turn _)) (pushOf_turn _ _))
    (pushOf_turn _ _))).1, by decide +kernel⟩

end SynapseYield.Longbridge
