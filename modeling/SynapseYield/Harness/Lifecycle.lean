import SynapseYield.Harness.Operations
import Mathlib.Data.List.Induction

set_option autoImplicit false

namespace SynapseYield

open Shared

-- An invariant of the orders and the audit log: what the order store does to them keeps
-- it, it does not look at the other tables, and ids may be drawn at any time.
structure Bookkeeping (inv : World → Prop) : Prop where
  elsewhere : ∀ {w w' : World}, inv w → w'.db.orders = w.db.orders →
    w'.db.auditLogs = w.db.auditLogs → w'.gatewayCalls = w.gatewayCalls →
    w.serial ≤ w'.serial → inv w'
  recorded : ∀ {w : World} {row : AuditLog}, row.nextState = none → inv w →
    inv { w with db := { w.db with auditLogs := w.db.auditLogs ++ [row] } }
  noted : ∀ {w : World} {orderId : String} {update : RowUpdate String Order Order.orderId},
    (∀ order, (update.apply order).status = order.status) → inv w →
    inv { w with db := { w.db with orders := w.db.orders.modify orderId update } }
  created : ∀ {w : World} {order : Order} {orders : Table String Order Order.orderId}
    {row : AuditLog}, w.db.orders.insert? order = some orders → order.status = .created →
    row.orderId = some order.orderId → row.previousState = none →
    row.nextState = some .created → inv w →
    inv { w with
      db := { w.db with orders, auditLogs := w.db.auditLogs ++ [row] }
      unflushed := w.unflushed ++ [order.orderId] }
  repeated : ∀ {w : World} {order : Order} {row : AuditLog}, order ∈ w.db.orders.rows →
    row.eventType = "ORDER_IDEMPOTENCY_HIT" → row.orderId = some order.orderId →
    row.previousState = some order.status → row.nextState = some order.status → inv w →
    inv { w with db := { w.db with auditLogs := w.db.auditLogs ++ [row] } }
  moved : ∀ {w : World} {order : Order} {target : OrderStatus} {row : AuditLog}
    {update : RowUpdate String Order Order.orderId},
    w.db.orders.find? order.orderId = some order →
    target ∈ allowedOrderTransitions order.status → (update.apply order).status = target →
    row.orderId = some order.orderId → row.previousState = some order.status →
    row.nextState = some target → inv w →
    inv { w with db := { w.db with
      orders := w.db.orders.modify order.orderId update
      auditLogs := w.db.auditLogs ++ [row] } }

-- The same for the programs that also call the gateway.
structure Lifecycle (inv : World → Prop) : Prop extends Bookkeeping inv where
  called : ∀ {w : World} {call : GatewayCall}, inv w →
    inv { w with gatewayCalls := w.gatewayCalls ++ [call] }

-- What a write to any other table leaves as it is.
def kept (w : World) : Table String Order Order.orderId × List AuditLog ×
    List StrategySignal × List GatewayCall × ℕ :=
  (w.db.orders, w.db.auditLogs, w.db.strategySignals, w.gatewayCalls, w.serial)

theorem kept_eq {w w' : World} : kept w' = kept w ↔ w'.db.orders = w.db.orders ∧
    w'.db.auditLogs = w.db.auditLogs ∧ w'.db.strategySignals = w.db.strategySignals ∧
    w'.gatewayCalls = w.gatewayCalls ∧ w'.serial = w.serial := by
  simp only [kept, Prod.mk.injEq]

-- What holds of programs made of the writes below: an invariant kept, an exception not raised.
structure Writes (holds : {α : Type} → Exec α → Prop) : Prop where
  pure : ∀ {α : Type} (a : α), holds (pure a : Exec α)
  get : holds (get : Exec World)
  throw : ∀ {α : Type} {raised : PyException}, raised.refusal = false →
    holds (throw raised : Exec α)
  bind : ∀ {α β : Type} {x : Exec α} {f : α → Exec β}, holds x → (∀ a, holds (f a)) →
    holds (x >>= f)
  newId : ∀ idPrefix, holds (newId idPrefix)
  flush : holds flush
  written : ∀ {f : World → World}, (∀ w, kept (f w) = kept w) → holds (modify f : Exec PUnit)
  updateOrder : ∀ orderId f keeps, (∀ order, (f order).status = order.status) →
    holds (updateOrder orderId f keeps)
  recordEvent : ∀ traceId eventType orderId, holds (OrderService.recordEvent traceId eventType orderId)
  addAudit : ∀ traceId eventType orderId, holds (TradeExecutor.addAudit traceId eventType orderId)
  createOrderFromIntent : ∀ traceId intent, holds (OrderService.createOrderFromIntent traceId intent)
  transitionOrder : ∀ traceId orderId target eventType,
    holds (OrderService.transitionOrder traceId orderId target eventType)

-- Where the writes to orders and audit log need no condition, each program is taken apart.
theorem writes_of_parts {holds : {α : Type} → Exec α → Prop}
    (pure : ∀ {α : Type} (a : α), holds (pure a : Exec α))
    (get : holds (get : Exec World))
    (throw : ∀ {α : Type} {raised : PyException}, raised.refusal = false →
      holds (throw raised : Exec α))
    (bind : ∀ {α β : Type} {x : Exec α} {f : α → Exec β}, holds x → (∀ a, holds (f a)) →
      holds (x >>= f))
    (newId : ∀ idPrefix, holds (newId idPrefix)) (flush : holds flush)
    (addOrder : ∀ order, holds (addOrder order))
    (written : ∀ {f : World → World},
      (∀ w, (f w).db.strategySignals = w.db.strategySignals) → holds (modify f : Exec PUnit)) :
    Writes holds where
  pure := pure
  get := get
  throw := throw
  bind := bind
  newId := newId
  flush := flush
  written := fun same => written fun w => (kept_eq.mp (same w)).2.2.1
  updateOrder := fun _ _ _ _ => written fun _ => rfl
  recordEvent := fun _ _ _ => written fun _ => rfl
  addAudit := fun _ _ _ => written fun _ => rfl
  createOrderFromIntent := by
    intro traceId intent
    refine bind (bind get fun w => ?_) fun _ => bind get fun w => ?_
    · split
      next => exact flush
      next => exact pure ()
    cases OrderService.findByIdempotencyKey w
        (OrderService.idempotencyKey intent.toIntentFields) with
    | some existing => exact bind (written fun _ => rfl) fun _ => pure _
    | none =>
      exact bind (newId "ord") fun _ => bind (newId "client") fun _ => bind (addOrder _) fun _ =>
        bind (written fun _ => rfl) fun _ => pure _
  transitionOrder := by
    intro traceId orderId target eventType
    refine bind (bind get fun w => ?_) fun order => bind ?_ fun _ =>
      bind (written fun _ => rfl) fun _ => written fun _ => rfl
    · cases w.db.orders.find? orderId with
      | some order => exact pure order
      | none => exact throw rfl
    · cases allowed : assertOrderTransition order.status target with
      | ok u => exact pure u
      | error raised => exact throw (assertOrderTransition_error allowed)

namespace Writes

variable {holds : {α : Type} → Exec α → Prop} (closed : Writes holds)

include closed

omit closed in
theorem either {α : Type} {condition : Prop} [Decidable condition] {x y : Exec α} (first : holds x)
    (second : holds y) : holds (if condition then x else y) := by
  split
  next => exact first
  next => exact second

theorem liftExcept {α : Type} {x : Except PyException α}
    (refuses : ∀ raised, x = .error raised → raised.refusal = false) : holds (liftExcept x) := by
  cases x with
  | ok a => exact closed.pure a
  | error raised => exact closed.throw (refuses raised rfl)

theorem getOrder (orderId : String) : holds (getOrder orderId) := by
  refine closed.bind closed.get fun w => ?_
  cases w.db.orders.find? orderId with
  | some order => exact closed.pure order
  | none => exact closed.throw rfl

theorem orNewId (given : Option String) (idPrefix : String) :
    holds (orNewId given idPrefix) := by
  cases given with
  | some id => exact either (closed.newId idPrefix) (closed.pure _)
  | none => exact closed.newId idPrefix

theorem enqueueEvent (traceId eventType aggregateType aggregateId : String) :
    holds (OrderService.enqueueEvent traceId eventType aggregateType aggregateId) :=
  closed.written fun _ => rfl

theorem runRiskCheck (config : RiskConfig) (traceId orderId : String)
    (quote : Option MarketQuote) (marketIsOpen : Option Bool) :
    holds (OrderService.runRiskCheck config traceId orderId quote marketIsOpen) := by
  refine closed.bind (closed.getOrder orderId) fun order => closed.bind closed.get fun w => closed.bind (closed.newId "risk") fun _ => ?_
  refine closed.bind (closed.written fun _ => rfl) fun _ => ?_
  refine closed.bind closed.flush fun _ => closed.bind (closed.updateOrder _ _ _ fun _ => rfl) fun _ => ?_
  refine closed.bind (closed.transitionOrder _ _ _ _) fun _ => ?_
  exact either (closed.bind (closed.enqueueEvent _ _ _ _) fun _ => closed.pure _) (closed.pure _)

section LocalSim

theorem localSim_recordBrokerEvent (traceId orderId eventType : String)
    (brokerFillId : Option String) :
    holds (LocalSim.recordBrokerEvent traceId orderId eventType brokerFillId) :=
  closed.bind (closed.getOrder orderId) fun _ => closed.bind closed.get fun _ =>
    closed.written fun _ => rfl

theorem reserveResources (config : LocalSimConfig) (traceId orderId : String)
    (quote : MarketQuote) : holds (LocalSim.reserveResources config traceId orderId quote) := by
  refine closed.bind (closed.getOrder orderId) fun order => closed.bind (closed.bind closed.get fun _ => closed.pure _) fun found => ?_
  cases found with
  | none => exact closed.pure _
  | some account =>
    refine either (closed.bind (closed.liftExcept fun _ => LocalSim.reservedCash_error) fun reserved => either (closed.pure _) ?_) (either ?_ ?_)
    · exact closed.bind (closed.written fun _ => rfl) fun _ =>
        closed.bind (closed.recordEvent _ _ _) fun _ => closed.pure _
    · exact closed.bind (closed.recordEvent _ _ _) fun _ => closed.pure _
    · refine closed.bind (closed.bind closed.get fun _ => closed.pure _) fun held => ?_
      cases held with
      | none => exact closed.pure _
      | some position =>
        refine either (closed.pure _) (closed.bind (closed.written fun _ => rfl)
          fun _ => closed.bind (closed.recordEvent _ _ _) fun _ => closed.pure _)

theorem releaseResources (config : LocalSimConfig) (traceId orderId : String) :
    holds (LocalSim.releaseResources config traceId orderId) := by
  refine closed.bind (closed.getOrder orderId) fun order => closed.bind ?_ fun _ => closed.recordEvent _ _ _
  refine closed.bind (closed.bind closed.get fun _ => closed.pure _) fun found => ?_
  cases found with
  | none => exact closed.throw rfl
  | some account =>
    refine either (closed.bind (closed.liftExcept fun _ => LocalSim.reservedCash_error) fun reserved => ?_) (either (closed.pure _) ?_)
    · exact closed.written fun _ => rfl
    · refine closed.bind (closed.bind closed.get fun _ => closed.pure _) fun held => ?_
      cases held with
      | none => exact closed.throw rfl
      | some position => exact closed.written fun _ => rfl

theorem bookFill (config : LocalSimConfig) (order : Order) (price : ℚ) (position : Position) :
    holds (LocalSim.bookFill config order price position) := by
  refine either (closed.bind (closed.liftExcept fun _ => LocalSim.reservedCash_error) fun reserved => ?_) ?_
  · exact closed.bind (closed.written fun _ => rfl) fun _ =>
      closed.written fun _ => rfl
  · exact closed.bind (closed.written fun _ => rfl) fun _ =>
      closed.written fun _ => rfl

theorem applyFill (config : LocalSimConfig) (traceId orderId : String) (price : ℚ) :
    holds (LocalSim.applyFill config traceId orderId price) := by
  refine closed.bind (closed.getOrder orderId) fun order => closed.bind (closed.bind closed.get fun _ => closed.pure _) fun found => ?_
  cases found with
  | none => exact closed.throw rfl
  | some account =>
    refine closed.bind closed.get fun w => closed.bind (closed.newId "fill") fun _ => closed.bind (closed.newId "ls_fill") fun _ => ?_
    refine closed.bind (closed.written fun _ => rfl) fun _ => ?_
    refine closed.bind (closed.bind (closed.written fun _ => rfl) fun _ =>
      closed.bind closed.get fun _ => closed.pure _) fun position => ?_
    refine closed.bind (closed.bookFill _ _ _ _) fun _ => ?_
    refine closed.bind (closed.updateOrder _ _ _ fun _ => rfl) fun _ => ?_
    refine closed.bind closed.flush fun _ => closed.bind closed.get fun flushed => ?_
    refine closed.bind (closed.written fun _ => rfl) fun _ => ?_
    refine closed.bind (closed.bind closed.get fun _ => closed.pure _) fun refreshed => ?_
    cases refreshed with
    | none => exact closed.throw rfl
    | some account =>
      refine closed.bind (closed.written fun _ => rfl) fun _ => ?_
      refine closed.bind (closed.transitionOrder _ _ _ _) fun _ => ?_
      refine closed.bind (closed.recordEvent _ _ _) fun _ => ?_
      refine closed.bind (closed.localSim_recordBrokerEvent _ _ _ _) fun _ => ?_
      exact closed.bind (closed.enqueueEvent _ _ _ _) fun _ => closed.enqueueEvent _ _ _ _

theorem localSim_submitOrder (config : LocalSimConfig) (traceId orderId : String)
    (quote : MarketQuote) : holds (LocalSim.submitOrder config traceId orderId quote) := by
  refine closed.bind (closed.getOrder orderId) fun order => either (closed.pure _) (either ?_ ?_)
  · exact closed.bind (closed.transitionOrder _ _ _ _) fun _ => closed.pure _
  · refine closed.bind (closed.reserveResources _ _ _ _) fun refused => ?_
    cases refused with
    | some error => exact closed.bind (closed.transitionOrder _ _ _ _) fun _ => closed.pure _
    | none =>
      refine closed.bind (closed.newId "ls_order") fun _ => closed.bind (closed.transitionOrder _ _ _ _) fun _ => ?_
      refine closed.bind (closed.updateOrder _ _ _ fun _ => rfl) fun _ => ?_
      refine closed.bind (closed.transitionOrder _ _ _ _) fun _ => ?_
      refine closed.bind (closed.localSim_recordBrokerEvent _ _ _ _) fun _ => ?_
      cases LocalSim.fillPrice order quote with
      | some price => exact closed.bind (closed.applyFill _ _ _ _) fun _ => closed.pure _
      | none => exact closed.pure _

theorem fillOrders (config : LocalSimConfig) (traceId : String) (quote : MarketQuote)
    (orderIds : List String) : holds (LocalSim.fillOrders config traceId quote orderIds) := by
  induction orderIds with
  | nil => exact closed.pure _
  | cons orderId rest ih =>
    refine closed.bind (closed.getOrder orderId) fun order => ?_
    cases LocalSim.fillPrice order quote with
    | none => exact ih
    | some price => exact closed.bind (closed.applyFill _ _ _ _) fun _ => closed.bind ih fun _ => closed.pure _

theorem processQuote (config : LocalSimConfig) (rowOrder : RowOrder) (traceId : String)
    (quote : MarketQuote) : holds (LocalSim.processQuote config rowOrder traceId quote) :=
  closed.bind closed.get fun _ => closed.fillOrders _ _ _ _

theorem localSim_cancelOrder (config : LocalSimConfig) (traceId orderId : String) :
    holds (LocalSim.cancelOrder config traceId orderId) := by
  refine closed.bind (closed.getOrder orderId) fun order => either (closed.pure _) ?_
  refine closed.bind (closed.transitionOrder _ _ _ _) fun _ => ?_
  refine closed.bind (closed.releaseResources _ _ _) fun _ => ?_
  refine closed.bind (closed.transitionOrder _ _ _ _) fun _ => ?_
  refine closed.bind (closed.localSim_recordBrokerEvent _ _ _ _) fun _ => ?_
  exact closed.bind (closed.enqueueEvent _ _ _ _) fun _ => closed.pure _

end LocalSim

section Longbridge

theorem longbridge_recordBrokerEvent (traceId orderId eventType : String) :
    holds (Longbridge.recordBrokerEvent traceId orderId eventType) :=
  closed.bind (closed.getOrder orderId) fun _ => closed.bind closed.get fun _ =>
    closed.written fun _ => rfl

theorem longbridge_cancelOrder (broker : LongbridgeBroker) (traceId orderId : String) :
    holds (Longbridge.cancelOrder broker traceId orderId) := by
  refine closed.bind (closed.getOrder orderId) fun order => either (closed.pure _) ?_
  cases order.brokerOrderId with
  | none => exact closed.pure _
  | some brokerOrderId =>
    refine closed.bind (closed.transitionOrder _ _ _ _) fun _ => ?_
    cases broker.gateway.cancelOutcome brokerOrderId with
    | unknown error => exact closed.bind (closed.transitionOrder _ _ _ _) fun _ => closed.pure _
    | failed error => exact closed.bind (closed.transitionOrder _ _ _ _) fun _ => closed.pure _
    | requested => exact closed.bind (closed.longbridge_recordBrokerEvent _ _ _) fun _ => closed.pure _

theorem handleOrderEvent (broker : LongbridgeBroker) (payload : Longbridge.Payload)
    (traceId : Option String) : holds (Longbridge.handleOrderEvent broker payload traceId) := by
  refine closed.bind (closed.orNewId traceId "trace_push") fun eventTraceId => closed.bind closed.get fun w => ?_
  refine closed.bind (closed.written fun _ => rfl) fun _ => ?_
  cases w.db.orders.rows.find? fun order =>
      order.brokerOrderId = some ((Longbridge.payloadValue payload ["order_id", "broker_order_id"]).getD "None") with
  | none => exact closed.pure _
  | some order =>
    cases Longbridge.mapOrderStatus broker.characters
        (Longbridge.payloadValue payload ["status", "order_status"]) with
    | none => exact closed.pure _
    | some target =>
      refine either (closed.pure _) (closed.bind (closed.transitionOrder _ _ _ _) fun _ => ?_)
      exact either (closed.bind (closed.enqueueEvent _ _ _ _) fun _ => closed.pure _)
        (either (closed.bind (closed.enqueueEvent _ _ _ _) fun _ => closed.pure _) (closed.pure _))

theorem longbridge_submitOrder (called : ∀ gateway request,
    holds (Longbridge.gatewaySubmit gateway request)) (broker : LongbridgeBroker)
    (traceId orderId : String) :
    holds (Longbridge.submitOrder broker traceId orderId) := by
  refine closed.bind (closed.getOrder orderId) fun order => either (closed.pure _) ?_
  cases Longbridge.submissionSafetyError broker with
  | some error => exact closed.bind (closed.recordEvent _ _ _) fun _ => closed.pure _
  | none =>
    refine closed.bind (closed.transitionOrder _ _ _ _) fun _ => ?_
    refine closed.bind (called _ _) fun outcome => ?_
    cases outcome with
    | unknown error =>
      exact closed.bind (closed.transitionOrder _ _ _ _) fun _ =>
        closed.bind (closed.longbridge_recordBrokerEvent _ _ _) fun _ => closed.pure _
    | refused error =>
      exact closed.bind (closed.transitionOrder _ _ _ _) fun _ =>
        closed.bind (closed.longbridge_recordBrokerEvent _ _ _) fun _ => closed.pure _
    | accepted brokerOrderId =>
      refine closed.bind (closed.updateOrder _ _ _ fun _ => rfl) fun _ => ?_
      exact closed.bind (closed.transitionOrder _ _ _ _) fun _ =>
        closed.bind (closed.longbridge_recordBrokerEvent _ _ _) fun _ => closed.pure _

end Longbridge

section TradeExecutor

variable {executor : TradeExecutor} (submits : ∀ traceId orderId quote,
  holds (executor.broker.submitOrder traceId orderId quote))

include submits

theorem submitBracketOrder (traceId accountId symbol : String) (quantity : Decimal)
    (orderType : OrderType) (triggerPrice : Decimal) (signalId : String) :
    holds (executor.submitBracketOrder traceId accountId symbol quantity orderType triggerPrice
      signalId) :=
  closed.bind (closed.liftExcept fun _ => OrderIntent.validate_error) fun _ =>
    closed.bind (closed.createOrderFromIntent _ _) fun _ =>
      closed.bind (closed.transitionOrder _ _ _ _) fun _ =>
        closed.bind (closed.liftExcept fun _ => MarketQuote.validate_error) fun _ =>
          closed.bind (submits _ _ _) fun _ => closed.pure _

theorem submitChild (traceId accountId : String) (proposal : LLMTradeProposal)
    (orderType : OrderType) (price : Option Decimal) (signalId : String) :
    holds (executor.submitChild traceId accountId proposal orderType price signalId) := by
  unfold TradeExecutor.submitChild
  cases TradeExecutor.truthy price with
  | none => exact closed.pure _
  | some trigger =>
    exact either (closed.bind (closed.submitBracketOrder submits _ _ _ _ _ _ _) fun _ => closed.pure _) (closed.pure _)

theorem submitChildren (proposal : LLMTradeProposal) (decision : HumanApprovalDecision)
    (accountId traceId threadId : String) (placed : TradeExecutor.PlacedOrder)
    (result : BrokerOrderResult) :
    holds (executor.submitChildren proposal decision accountId traceId threadId placed
      result) := by
  refine closed.bind (closed.submitChild submits _ _ _ _ _ _) fun _ => ?_
  refine closed.bind (closed.submitChild submits _ _ _ _ _ _) fun _ => ?_
  refine closed.bind (closed.addAudit _ _ _) fun _ => ?_
  exact closed.bind (closed.getOrder _) fun _ => closed.pure _

theorem submitPlaced (refuses : ∀ message,
    holds (MonadExcept.throw (PyException.runtimeError message) : Exec LLMTradingRunResult)) (proposal : LLMTradeProposal) (decision : HumanApprovalDecision)
    (accountId traceId threadId : String) (placed : TradeExecutor.PlacedOrder) :
    holds (executor.submitPlaced proposal decision accountId traceId threadId placed) :=
  closed.bind (submits _ _ _) fun _ => either (refuses _) (closed.submitChildren submits _ _ _ _ _ _ _)

end TradeExecutor

end Writes

namespace Bookkeeping

variable {inv : World → Prop} (closed : Bookkeeping inv)

include closed

section Session

theorem newId (idPrefix : String) : Keeps inv (newId idPrefix) :=
  .bind_get fun w holds => closed.elsewhere holds rfl rfl rfl (Nat.le_succ w.serial)

theorem flush : Keeps inv flush := by
  refine .bind_get fun w holds => ?_
  split
  next => exact closed.elsewhere holds rfl rfl rfl (Nat.le_refl w.serial)
  next => exact holds

theorem autoflush : Keeps inv autoflush := by
  refine .bind_get fun w holds => ?_
  split
  next => exact closed.flush w holds
  next => exact holds

theorem written {f : World → World} (same : ∀ w, (f w).db.orders = w.db.orders ∧
      (f w).db.auditLogs = w.db.auditLogs ∧ (f w).gatewayCalls = w.gatewayCalls ∧
      (f w).serial = w.serial) : Keeps inv (modify f : Exec PUnit) :=
  .modified fun w holds =>
    have ⟨orders, auditLogs, gatewayCalls, serial⟩ := same w
    closed.elsewhere holds orders auditLogs gatewayCalls serial.ge

theorem updateOrder (orderId : String) (f : Order → Order)
    (keeps : ∀ order, (f order).orderId = order.orderId)
    (status : ∀ order, (f order).status = order.status) :
    Keeps inv (updateOrder orderId f keeps) :=
  .modified fun _ holds => closed.noted status holds

end Session

section OrderService

theorem recordEvent (traceId eventType orderId : String) :
    Keeps inv (OrderService.recordEvent traceId eventType orderId) :=
  .modified fun _ holds => closed.recorded rfl holds

theorem transitionOrder (traceId orderId : String) (target : OrderStatus) (eventType : String) :
    Keeps inv (OrderService.transitionOrder traceId orderId target eventType) := by
  intro w holds
  cases run : OrderService.transitionOrder traceId orderId target eventType w with
  | ok u w' =>
    obtain ⟨order, found, allowed, rfl⟩ := OrderService.transitionOrder_ok.mp run
    obtain rfl := Table.find?_key found
    exact closed.moved found allowed rfl rfl rfl rfl holds
  | error raised w' =>
    rw [leaves_error, OrderService.transitionOrder_error run]
    exact holds

theorem addOrder {order : Order} {traceId eventType : String} (fresh : order.status = .created) :
    Keeps inv (do
      addOrder order
      OrderService.audit traceId eventType (some order.orderId) none (some .created)
      pure order.orderId) := by
  intro w holds
  rw [bind_run]
  cases run : SynapseYield.addOrder order w with
  | ok u w' =>
    obtain ⟨orders, inserted, rfl⟩ := addOrder_ok.mp run
    exact @created _ closed w order orders _ inserted fresh rfl rfl rfl holds
  | error raised w' =>
    rw [addOrder_error run]
    exact holds

theorem createOrderFromIntent (traceId : String) (intent : OrderIntent) :
    Keeps inv (OrderService.createOrderFromIntent traceId intent) := by
  refine .bind closed.autoflush fun _ => .bind_get fun w holds => ?_
  cases hit : OrderService.findByIdempotencyKey w
      (OrderService.idempotencyKey intent.toIntentFields) with
  | some existing =>
    have stored : existing ∈ w.db.orders.rows := List.mem_of_find?_eq_some hit
    exact closed.repeated stored rfl rfl rfl rfl holds
  | none =>
    exact Keeps.bind (closed.newId "ord") (fun orderId => .bind (closed.newId "client") fun clientOrderId =>
      closed.addOrder rfl) w holds

end OrderService

theorem writes : Writes (fun x => Keeps inv x) where
  pure := .pure
  get := .get
  throw := fun _ => .throw _
  bind := .bind
  newId := closed.newId
  flush := closed.flush
  written := fun same => closed.written fun w =>
    have ⟨orders, auditLogs, _, calls⟩ := kept_eq.mp (same w)
    ⟨orders, auditLogs, calls⟩
  updateOrder := closed.updateOrder
  recordEvent := closed.recordEvent
  addAudit := fun _ _ _ => .modified fun _ holds => closed.recorded rfl holds
  createOrderFromIntent := closed.createOrderFromIntent
  transitionOrder := closed.transitionOrder

section TradeExecutor

theorem placeOrder (executor : TradeExecutor) (proposal : LLMTradeProposal)
    (accountId traceId : String) (marketIsOpen : Option Bool) :
    Keeps inv (executor.placeOrder proposal accountId traceId marketIsOpen) := by
  refine .bind (closed.newId "sig") fun signalId => .bind (keeps_liftExcept _) fun side => ?_
  refine .bind (closed.written fun _ => ⟨rfl, rfl, rfl, rfl⟩) fun _ => .bind closed.flush fun _ => ?_
  refine .bind (keeps_liftExcept _) fun intent => .bind (closed.createOrderFromIntent _ _) fun orderId => ?_
  refine .bind (keeps_liftExcept _) fun quote => .bind (closed.writes.runRiskCheck _ _ _ _ _) fun _ => ?_
  exact .bind (keeps_getOrder orderId) fun checked => .ite (.throw _) (.pure _)

theorem doExecute {executor : TradeExecutor} (submits : ∀ traceId orderId quote,
    Keeps inv (executor.broker.submitOrder traceId orderId quote)) (proposal : LLMTradeProposal) (decision : HumanApprovalDecision)
    (accountId traceId threadId : String) (marketIsOpen : Option Bool) :
    Keeps inv (executor.doExecute proposal decision accountId traceId threadId marketIsOpen) := by
  refine .bind .get fun w => ?_
  cases executor.findExistingOrder w.db traceId proposal.symbol with
  | some existing => exact .pure _
  | none =>
    exact .bind (closed.placeOrder _ _ _ _ _) fun _ => closed.writes.submitPlaced submits (fun _ => .throw _) _ _ _ _ _ _

end TradeExecutor

end Bookkeeping

namespace Lifecycle

variable {inv : World → Prop} (closed : Lifecycle inv)

include closed

section Longbridge

theorem longbridge_submitOrder (broker : LongbridgeBroker) (traceId orderId : String) :
    Keeps inv (Longbridge.submitOrder broker traceId orderId) :=
  closed.writes.longbridge_submitOrder
    (fun _ _ => .bind_get fun _ holds => closed.called holds) broker traceId orderId

end Longbridge

section Broker

theorem adapter_submitOrder (broker : Broker) (traceId orderId : String) (quote : MarketQuote) :
    Keeps inv (broker.adapter.submitOrder traceId orderId quote) := by
  cases broker with
  | localSim config => exact closed.writes.localSim_submitOrder config traceId orderId quote
  | longbridge broker => exact closed.longbridge_submitOrder broker traceId orderId

theorem adapter_cancelOrder (broker : Broker) (traceId orderId : String) :
    Keeps inv (broker.adapter.cancelOrder traceId orderId) := by
  cases broker with
  | localSim config => exact closed.writes.localSim_cancelOrder config traceId orderId
  | longbridge broker => exact closed.writes.longbridge_cancelOrder broker traceId orderId

end Broker

section Runs

-- Ids drawn and calls made stay, also when the transaction is rolled back.
structure Grown (w w' : World) : Prop where
  serial : w.serial ≤ w'.serial
  gatewayCalls : w.gatewayCalls <+: w'.gatewayCalls

omit closed in
theorem uncalled_bookkeeping (calls : List GatewayCall) :
    Bookkeeping fun w => w.gatewayCalls = calls where
  elsewhere := fun same _ _ calls _ => calls.trans same
  recorded := fun _ same => same
  noted := fun _ same => same
  created := fun _ _ _ _ _ same => same
  repeated := fun _ _ _ _ _ same => same
  moved := fun _ _ _ _ _ _ same => same

omit closed in
theorem grown_lifecycle (w : World) : Lifecycle (Grown w) where
  elsewhere := fun grown _ _ calls serial =>
    ⟨grown.serial.trans serial, calls ▸ grown.gatewayCalls⟩
  recorded := fun _ grown => ⟨grown.serial, grown.gatewayCalls⟩
  noted := fun _ grown => ⟨grown.serial, grown.gatewayCalls⟩
  created := fun _ _ _ _ _ grown => ⟨grown.serial, grown.gatewayCalls⟩
  repeated := fun _ _ _ _ _ grown => ⟨grown.serial, grown.gatewayCalls⟩
  moved := fun _ _ _ _ _ _ grown => ⟨grown.serial, grown.gatewayCalls⟩
  called := fun grown => ⟨grown.serial, grown.gatewayCalls.trans (List.prefix_append _ _)⟩

theorem rolledBack {w mid : World} (grown : Grown w mid) (holds : inv w) :
    inv { mid with db := w.db, unflushed := [] } := by
  obtain ⟨calls, whole⟩ := grown.gatewayCalls
  have called : inv { w with gatewayCalls := mid.gatewayCalls } := by
    rw [← whole]
    clear whole
    induction calls using List.reverseRecOn with
    | nil => simpa using holds
    | append_singleton calls call ih =>
      have next := @Lifecycle.called _ closed _ call ih
      simpa using next
  exact closed.elsewhere called rfl rfl rfl grown.serial

theorem transaction {α : Type} {body : Exec α} (grown : ∀ w, Keeps (Grown w) body)
    (kept : Keeps inv body) : Keeps inv (transaction body) := by
  intro w holds
  have opened : inv w.opened := closed.elsewhere holds rfl rfl rfl le_rfl
  have grows : Grown w w.opened := ⟨le_rfl, List.prefix_refl _⟩
  cases run : SynapseYield.transaction body w with
  | ok result w' =>
    obtain ⟨mid, inner, -, rfl⟩ := transaction_ok run
    have after := kept w.opened opened
    rw [inner] at after
    exact closed.elsewhere after rfl rfl rfl le_rfl
  | error raised w' =>
    obtain ⟨mid, inner, rfl⟩ := transaction_error run
    have whole : Keeps (Grown w) (do let result ← body; flush; pure result) :=
      .bind (grown w) fun _ => .bind (grown_lifecycle w).flush fun _ => .pure _
    have after := whole w.opened grows
    rw [inner] at after
    exact closed.rolledBack after holds

theorem execute (broker : Broker) (executor : TradeExecutor) (proposal : LLMTradeProposal)
    (decision : HumanApprovalDecision) (accountId : String) (traceId threadId : Option String)
    (marketIsOpen : Option Bool) :
    Keeps inv ({ executor with broker := broker.adapter }.execute proposal decision accountId traceId
      threadId marketIsOpen) :=
  .bind (closed.writes.orNewId _ _) fun _ => .bind (closed.writes.orNewId _ _) fun _ =>
    closed.transaction
      (fun w => (grown_lifecycle w).doExecute ((grown_lifecycle w).adapter_submitOrder broker)
        _ _ _ _ _ _)
      (closed.doExecute (closed.adapter_submitOrder broker) _ _ _ _ _ _)

theorem body (operation : Operation) : Keeps inv operation.body := by
  cases operation with
  | createOrder => exact (closed.createOrderFromIntent _ _).discarded
  | runRiskCheck => exact (closed.writes.runRiskCheck _ _ _ _ _).discarded
  | transitionOrder => exact closed.transitionOrder _ _ _ _
  | recordEvent => exact closed.recordEvent _ _ _
  | enqueueEvent => exact closed.writes.enqueueEvent _ _ _ _
  | submitOrder => exact (closed.adapter_submitOrder _ _ _ _).discarded
  | processQuote => exact (closed.writes.processQuote _ _ _ _).discarded
  | cancelOrder => exact (closed.adapter_cancelOrder _ _ _).discarded
  | handleOrderEvent => exact (closed.writes.handleOrderEvent _ _ _).discarded
  | execute => exact .pure ()
  | elapse => exact .pure ()

theorem perform (operation : Operation) {w : World} (holds : inv w) : inv (perform operation w) := by
  cases operation with
  | execute broker executor proposal decision accountId traceId threadId marketIsOpen =>
    exact closed.execute broker executor _ _ _ _ _ _ w holds
  | elapse now => exact closed.elsewhere holds rfl rfl rfl le_rfl
  | _ => exact closed.transaction (fun w => (grown_lifecycle w).body _) (closed.body _) w holds

theorem calls {w w' : World} (calls : Calls w w') (holds : inv w) : inv w' := by
  induction calls with
  | refl => exact holds
  | tail _ last ih =>
    obtain ⟨operation, rfl⟩ := last
    exact closed.body operation _ ih

theorem unitOfWork {w w' : World} (work : UnitOfWork w w') (holds : inv w) : inv w' := by
  have opened : inv w.opened := closed.elsewhere holds rfl rfl rfl le_rfl
  cases work with
  | performed operation => exact closed.perform operation holds
  | committed made unique => exact closed.elsewhere (closed.calls made opened) rfl rfl rfl le_rfl
  | rolledBack made =>
    have grows : Grown w w.opened := ⟨le_rfl, List.prefix_refl _⟩
    exact closed.rolledBack ((grown_lifecycle w).calls made grows) holds

theorem works {w w' : World} (works : Relation.ReflTransGen UnitOfWork w w') (holds : inv w) :
    inv w' := by
  induction works with
  | refl => exact holds
  | tail _ last ih => exact closed.unitOfWork last ih

end Runs

end Lifecycle

end SynapseYield
