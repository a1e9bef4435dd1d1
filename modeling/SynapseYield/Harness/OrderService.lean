import SynapseYield.Risk.Engine

set_option autoImplicit false

namespace SynapseYield.OrderService

open Shared

-- The sha256 of this text is taken to be free of collisions, so the text stands for it.
def idempotencyKey (intent : IntentFields) : String :=
  "|".intercalate
    [intent.accountId, intent.strategyName.getD "", intent.sourceSignalId.getD "", intent.symbol,
      intent.side.value, intent.quantity.str,
      match intent.limitPrice with
      | some price => if price.coefficient = 0 then "" else price.str
      | none => ""]

def audit (traceId eventType : String) (orderId : Option String)
    (previousState nextState : Option OrderStatus) : Exec Unit :=
  addAuditLog
    { traceId, actorType := "HARNESS", actorName := "OrderService", eventType, orderId
      previousState, nextState }

def enqueueEvent (traceId eventType aggregateType aggregateId : String) : Exec Unit :=
  addOutboxEvent { traceId, eventType, aggregateType, aggregateId, status := .pending }

def recordEvent (traceId eventType orderId : String) : Exec Unit :=
  audit traceId eventType (some orderId) none none

-- Rows a query can see: without autoflush the pending ones are not in the database yet.
def findByIdempotencyKey (w : World) (key : String) : Option Order :=
  w.db.orders.rows.find? fun order =>
    order.idempotencyKey == key && !w.unflushed.contains order.orderId

def createOrderFromIntent (traceId : String) (intent : OrderIntent) : Exec String := do
  let key := idempotencyKey intent.toIntentFields
  autoflush
  let w ← get
  match findByIdempotencyKey w key with
  | some existing =>
    audit traceId "ORDER_IDEMPOTENCY_HIT" (some existing.orderId) (some existing.status)
      (some existing.status)
    pure existing.orderId
  | none =>
    let orderId ← newId "ord"
    let clientOrderId ← newId "client"
    addOrder
      { intent with orderId, clientOrderId, idempotencyKey := key, createdAt := w.now }
    audit traceId "ORDER_CREATED" (some orderId) none (some .created)
    pure orderId

theorem status_keepsId (target : OrderStatus) :
    ∀ row : Order, { row with status := target }.orderId = row.orderId := fun _ => rfl

theorem brokerOrderId_keepsId (brokerOrderId : String) :
    ∀ row : Order, { row with brokerOrderId := some brokerOrderId }.orderId = row.orderId :=
  fun _ => rfl

def transitionOrder (traceId orderId : String) (target : OrderStatus) (eventType : String) :
    Exec Unit := do
  let order ← getOrder orderId
  liftExcept (assertOrderTransition order.status target)
  updateOrder orderId fun row => { row with status := target }
  audit traceId eventType (some orderId) (some order.status) (some target)

-- The intent run_risk_check rebuilds from the columns of the order.
def riskIntent (order : Order) : IntentFields :=
  { order.toIntentFields with strategyName := none, triggerPrice := none }

def runRiskCheck (config : RiskConfig) (traceId orderId : String) (quote : Option MarketQuote)
    (marketIsOpen : Option Bool) : Exec RiskDecision := do
  let order ← getOrder orderId
  let w ← get
  let result := RiskEngine.check config w.db w.now (riskIntent order) (some orderId) quote
    marketIsOpen
  let riskDecisionId ← newId "risk"
  let decision : RiskDecision :=
    { riskDecisionId, traceId, signalId := order.sourceSignalId
      decision := if result.approved then .approved else .rejected
      reasonCode := result.reasonCode, message := result.message
      checkedRules := result.checkedRules, inputSnapshot := result.inputSnapshot }
  addRiskDecision decision
  flush
  updateOrder orderId fun row => { row with riskDecisionId := some riskDecisionId }
  transitionOrder traceId orderId (if result.approved then .riskApproved else .riskRejected)
    "RISK_CHECK_COMPLETED"
  if result.approved then enqueueEvent traceId "ORDER_READY_TO_SUBMIT" "ORDER" orderId
  else pure ()
  pure decision

theorem audit_ok {traceId eventType : String} {orderId : Option String}
    {previous next : Option OrderStatus} {w w' : World} {u : Unit} :
    audit traceId eventType orderId previous next w = .ok u w' ↔
      w' = { w with db := { w.db with auditLogs := w.db.auditLogs ++
        [{ traceId, actorType := "HARNESS", actorName := "OrderService", eventType, orderId
           previousState := previous, nextState := next }] } } := by
  rw [audit, addAuditLog, modify_ok, eq_comm]

theorem enqueueEvent_ok {traceId eventType aggregateType aggregateId : String} {w w' : World}
    {u : Unit} :
    enqueueEvent traceId eventType aggregateType aggregateId w = .ok u w' ↔
      w' = { w with db := { w.db with outboxEvents := w.db.outboxEvents ++
        [{ traceId, eventType, aggregateType, aggregateId, status := .pending }] } } := by
  rw [enqueueEvent, addOutboxEvent, modify_ok, eq_comm]

theorem assertOrderTransition_ok {current target : OrderStatus} {u : Unit} :
    assertOrderTransition current target = .ok u ↔ target ∈ allowedOrderTransitions current := by
  unfold assertOrderTransition
  split
  next allowed => simp [allowed]
  next refused => simp [refused]

theorem transitionOrder_ok {traceId orderId eventType : String} {target : OrderStatus}
    {w w' : World} {u : Unit} :
    transitionOrder traceId orderId target eventType w = .ok u w' ↔
      ∃ order, w.db.orders.find? orderId = some order ∧
        target ∈ allowedOrderTransitions order.status ∧
        w' = { w with db := { w.db with
          orders := w.db.orders.modify orderId
            { apply := fun row => { row with status := target } }
          auditLogs := w.db.auditLogs ++
            [{ traceId, actorType := "HARNESS", actorName := "OrderService", eventType
               orderId := some orderId, previousState := some order.status
               nextState := some target }] } } := by
  simp only [transitionOrder, bind_ok, getOrder_ok, liftExcept_ok, updateOrder, modify_ok, audit_ok,
    assertOrderTransition_ok]
  constructor
  · rintro ⟨order, _, ⟨found, rfl⟩, _, _, ⟨allowed, rfl⟩, _, _, rfl, rfl⟩
    exact ⟨order, found, allowed, rfl⟩
  · rintro ⟨order, found, allowed, rfl⟩
    exact ⟨order, w, ⟨found, rfl⟩, (), w, ⟨allowed, rfl⟩, ⟨⟩, _, rfl, rfl⟩

theorem transitionOrder_error {traceId orderId eventType : String} {target : OrderStatus}
    {raised : PyException} {w w' : World}
    (run : transitionOrder traceId orderId target eventType w = .error raised w') : w' = w := by
  rw [transitionOrder, bind_run] at run
  cases found : getOrder orderId w with
  | ok order mid =>
    obtain ⟨-, rfl⟩ := getOrder_ok.mp found
    simp only [found, bind_run] at run
    cases allowed : assertOrderTransition order.status target with
    | ok u => rw [allowed] at run; cases run
    | error refused =>
      rw [allowed] at run
      cases run
      rfl
  | error other mid =>
    simp only [found] at run
    cases run
    exact getOrder_error found

-- The row create_order_from_intent writes for a new order.
def newOrder (intent : OrderIntent) (serial : Nat) (now : Int) : Order :=
  { intent with
    orderId := idText "ord" serial
    clientOrderId := idText "client" (serial + 1)
    idempotencyKey := idempotencyKey intent.toIntentFields
    createdAt := now }

theorem createOrder_ok {traceId orderId : String} {intent : OrderIntent} {w w' : World}
    (run : createOrderFromIntent traceId intent w = .ok orderId w') :
    ∃ pending, (pending = w.unflushed ∨ (w.autoflush ∧ pending = [])) ∧
      ((∃ existing auditLogs,
        findByIdempotencyKey { w with unflushed := pending } (idempotencyKey intent.toIntentFields) =
          some existing ∧ orderId = existing.orderId ∧
        w' = { w with db := { w.db with auditLogs }, unflushed := pending }) ∨
      (∃ orders auditLogs,
        findByIdempotencyKey { w with unflushed := pending } (idempotencyKey intent.toIntentFields) =
          none ∧
        w.db.orders.insert? (newOrder intent w.serial w.now) = some orders ∧
        orderId = idText "ord" w.serial ∧
        w' = { w with
          db := { w.db with orders, auditLogs }
          unflushed := pending ++ [orderId]
          serial := w.serial + 2 })) := by
  simp only [createOrderFromIntent, bind_ok, get_ok] at run
  obtain ⟨_, flushed, flushing, _, _, ⟨rfl, rfl⟩, run⟩ := run
  obtain ⟨pending, how, rfl⟩ : ∃ pending, (pending = w.unflushed ∨ (w.autoflush ∧ pending = [])) ∧
      flushed = { w with unflushed := pending } := by
    simp only [autoflush, bind_ok, get_ok] at flushing
    obtain ⟨_, _, ⟨rfl, rfl⟩, flushing⟩ := flushing
    split at flushing
    next auto => exact ⟨[], .inr ⟨auto, rfl⟩, (flush_ok.mp flushing).2⟩
    next => exact ⟨w.unflushed, .inl rfl, (pure_ok.mp flushing).2.symm⟩
  refine ⟨pending, how, ?_⟩
  cases hit : findByIdempotencyKey { w with unflushed := pending }
      (idempotencyKey intent.toIntentFields) with
  | some existing =>
    simp only [hit, bind_ok, audit_ok, pure_ok] at run
    obtain ⟨_, _, rfl, rfl, rfl⟩ := run
    exact .inl ⟨existing, _, rfl, rfl, rfl⟩
  | none =>
    simp only [hit, bind_ok, newId_ok, addOrder_ok, audit_ok, pure_ok] at run
    obtain ⟨_, _, ⟨rfl, rfl⟩, _, _, ⟨rfl, rfl⟩, _, _, ⟨orders, inserted, rfl⟩, _, _, rfl, rfl,
      rfl⟩ := run
    exact .inr ⟨orders, _, rfl, inserted, rfl, rfl⟩

-- No stored order has the key of the intent.
def Unseen (db : Database) (fields : IntentFields) : Prop :=
  ∀ order ∈ db.orders.rows, order.idempotencyKey ≠ idempotencyKey fields

theorem createOrder_new {traceId orderId : String} {intent : OrderIntent} {w w' : World}
    (run : createOrderFromIntent traceId intent w = .ok orderId w')
    (unseen : Unseen w.db intent.toIntentFields) :
    ∃ orders auditLogs unflushed, w.db.orders.insert? (newOrder intent w.serial w.now) = some orders ∧
      orderId = idText "ord" w.serial ∧
      w' = { w with
        db := { w.db with orders, auditLogs }
        unflushed := unflushed
        serial := w.serial + 2 } := by
  obtain ⟨pending, -, ⟨existing, _, hit, -⟩ | ⟨orders, _, -, inserted, rfl, rfl⟩⟩ := createOrder_ok run
  · have stored : existing ∈ w.db.orders.rows := List.mem_of_find?_eq_some hit
    have key := List.find?_some hit
    simp only [Bool.and_eq_true, beq_iff_eq] at key
    exact absurd key.1 (unseen existing stored)
  · exact ⟨orders, _, _, inserted, rfl, rfl⟩

theorem createOrder_returns (traceId : String) {intent : OrderIntent} {w : World}
    (unseen : Unseen w.db intent.toIntentFields)
    (unused : ∀ order ∈ w.db.orders.rows, order.orderId ≠ idText "ord" w.serial)
    (flushable : w.autoflush → w.db.UniqueColumns) :
    ∃ orderId w', createOrderFromIntent traceId intent w = .ok orderId w' := by
  obtain ⟨pending, flushed⟩ : ∃ unflushed, autoflush w = .ok () { w with unflushed } := by
    rw [autoflush, bind_of_ok (get_ok.mpr ⟨rfl, rfl⟩)]
    split
    next auto => exact ⟨[], flush_ok.mpr ⟨flushable auto, rfl⟩⟩
    next => exact ⟨w.unflushed, rfl⟩
  have missing : findByIdempotencyKey { w with unflushed := pending }
      (idempotencyKey intent.toIntentFields) = none := by
    rw [findByIdempotencyKey, List.find?_eq_none]
    intro order member
    simp [unseen order member]
  obtain ⟨orders, inserted⟩ : ∃ orders,
      w.db.orders.insert? (newOrder intent w.serial w.now) = some orders :=
    Table.insert?_returns unused
  rw [createOrderFromIntent, bind_of_ok flushed, bind_of_ok (get_ok.mpr ⟨rfl, rfl⟩), missing]
  simp only [bind_ok, newId_ok, addOrder_ok, audit_ok, pure_ok]
  exact ⟨_, _, _, _, ⟨rfl, rfl⟩, _, _, ⟨rfl, rfl⟩, (), _, ⟨orders, inserted, rfl⟩, (), _, rfl, rfl,
    rfl⟩

def verdict (approved : Bool) : OrderStatus := if approved then .riskApproved else .riskRejected

def readyEvents (traceId orderId : String) (approved : Bool) : List OutboxEvent :=
  if approved then
    [{ traceId, eventType := "ORDER_READY_TO_SUBMIT", aggregateType := "ORDER"
       aggregateId := orderId, status := .pending }]
  else []

theorem created_of_verdict {status : OrderStatus} {approved : Bool}
    (allowed : verdict approved ∈ allowedOrderTransitions status) : status = .created := by
  cases approved <;> cases status <;> simp_all [verdict, allowedOrderTransitions]

theorem runRiskCheck_ok {config : RiskConfig} {traceId orderId : String}
    {quote : Option MarketQuote} {marketIsOpen : Option Bool} {w w' : World}
    {decision : RiskDecision}
    (run : runRiskCheck config traceId orderId quote marketIsOpen w = .ok decision w') :
    ∃ order approved auditLogs riskDecisions,
      w.db.orders.find? orderId = some order ∧ order.status = .created ∧
      approved = (RiskEngine.check config w.db w.now (riskIntent order) (some orderId) quote
        marketIsOpen).approved ∧
      w.db.UniqueColumns ∧
      w' = { w with
        db := { w.db with
          auditLogs, riskDecisions
          orders := w.db.orders.modify orderId { apply := fun row =>
            { row with
              status := verdict approved
              riskDecisionId := some (idText "risk" w.serial) } }
          outboxEvents := w.db.outboxEvents ++ readyEvents traceId orderId approved }
        unflushed := []
        serial := w.serial + 1 } := by
  simp only [runRiskCheck, addRiskDecision, updateOrder, bind_ok, getOrder_ok, get_ok, newId_ok,
    modify_ok, flush_ok] at run
  obtain ⟨order, _, ⟨found, rfl⟩, _, _, ⟨rfl, rfl⟩, _, _, ⟨rfl, rfl⟩, _, _, rfl, _, _,
    ⟨unique, rfl⟩, _, _, rfl, _, _, moved, rest⟩ := run
  obtain ⟨checked, stored, allowed, rfl⟩ := transitionOrder_ok.mp moved
  simp only [Table.find?_modify_self, found, Option.map_some, Option.some.injEq] at stored
  subst stored
  simp only [Table.modify_modify] at rest
  cases approved : (RiskEngine.check config w.db w.now (riskIntent order) (some orderId) quote
    marketIsOpen).approved with
  | true =>
    simp only [approved, if_true] at allowed rest
    simp only [bind_ok, enqueueEvent_ok, pure_ok] at rest
    obtain ⟨_, _, rfl, -, rfl⟩ := rest
    exact ⟨order, true, _, _, found, @created_of_verdict _ true allowed, approved.symm, unique, rfl⟩
  | false =>
    simp only [approved, Bool.false_eq_true, if_false] at allowed rest
    obtain ⟨-, rfl⟩ := pure_ok.mp rest
    have unsent : w.db.outboxEvents ++ readyEvents traceId orderId false = w.db.outboxEvents :=
      List.append_nil _
    exact ⟨order, false, _, _, found, @created_of_verdict _ false allowed, approved.symm, unique,
      by rw [unsent]; rfl⟩

theorem runRiskCheck_verdict {config : RiskConfig} {traceId orderId : String}
    {quote : Option MarketQuote} {marketIsOpen : Option Bool} {w w' : World} {order : Order}
    {decision : RiskDecision}
    (run : runRiskCheck config traceId orderId quote marketIsOpen w = .ok decision w')
    (found : w.db.orders.find? orderId = some order) :
    ∃ checked, w'.db.orders.find? orderId = some checked ∧
      checked.status = verdict (RiskEngine.check config w.db w.now (riskIntent order) (some orderId)
        quote marketIsOpen).approved := by
  obtain ⟨_, approved, _, _, found', -, rfl, -, rfl⟩ := runRiskCheck_ok run
  obtain rfl := Option.some.inj (found.symm.trans found')
  exact ⟨_, (Table.find?_modify_self _ _ _).trans (congrArg _ found), rfl⟩

theorem verdict_allowed (approved : Bool) :
    verdict approved ∈ allowedOrderTransitions .created := by
  cases approved <;> simp [verdict, allowedOrderTransitions]

theorem runRiskCheck_returns (config : RiskConfig) (traceId : String) {orderId : String}
    (quote : Option MarketQuote) (marketIsOpen : Option Bool) {w : World} {order : Order}
    (found : w.db.orders.find? orderId = some order) (created : order.status = .created)
    (unique : w.db.UniqueColumns) :
    ∃ decision w', runRiskCheck config traceId orderId quote marketIsOpen w = .ok decision w' := by
  refine returns_bind (getOrder_ok.mpr ⟨found, rfl⟩) (returns_bind (get_ok.mpr ⟨rfl, rfl⟩) ?_)
  generalize RiskEngine.check config w.db w.now (riskIntent order) (some orderId) quote
    marketIsOpen = result
  have allowed := created ▸ verdict_allowed result.approved
  refine returns_bind (newId_ok.mpr ⟨rfl, rfl⟩) (returns_then (modify_ok.mpr rfl) ?_)
  refine returns_then (flush_ok.mpr ⟨unique, rfl⟩) (returns_then (modify_ok.mpr rfl) ?_)
  refine returns_then (transitionOrder_ok.mpr
    ⟨{ order with riskDecisionId := some (idText "risk" w.serial) }, ?_, allowed, rfl⟩) ?_
  · rw [Table.find?_modify_self, found]
    rfl
  · cases result.approved with
    | true => exact returns_then (enqueueEvent_ok.mpr rfl) ⟨_, _, rfl⟩
    | false => exact ⟨_, _, rfl⟩

end SynapseYield.OrderService
