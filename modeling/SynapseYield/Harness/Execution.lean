import SynapseYield.Harness.Lifecycle

set_option autoImplicit false

namespace SynapseYield.TradeExecutor

open Shared OrderService

variable {executor : TradeExecutor} {proposal : LLMTradeProposal} {accountId traceId : String}
  {marketIsOpen : Option Bool} {w w' : World}

-- uuid4 ids are new: no stored order was made with one that is still to be drawn.
structure UnusedIds (w : World) : Prop where
  orderId : ∀ order ∈ w.db.orders.rows, ∀ n, w.serial ≤ n → order.orderId ≠ idText "ord" n
  clientOrderId : ∀ order ∈ w.db.orders.rows, ∀ n, w.serial ≤ n →
    order.clientOrderId ≠ idText "client" n

structure FreshIds (w : World) : Prop extends UnusedIds w where
  signalId : ∀ fields : IntentFields, ∀ n, w.serial ≤ n →
    fields.sourceSignalId = some (idText "sig" n) → Unseen w.db fields

theorem FreshIds.later (fresh : FreshIds w) (same : w'.db = w.db) (serial : w.serial ≤ w'.serial) :
    FreshIds w' where
  orderId := fun order member n later =>
    fresh.orderId order (same ▸ member) n (serial.trans later)
  clientOrderId := fun order member n later =>
    fresh.clientOrderId order (same ▸ member) n (serial.trans later)
  signalId := fun fields n later named => same ▸ fresh.signalId fields n (serial.trans later) named

theorem execute_run (executor : TradeExecutor) (proposal : LLMTradeProposal)
    (decision : HumanApprovalDecision) (accountId : String) (traceId threadId : Option String)
    (marketIsOpen : Option Bool) (w : World) :
    ∃ resolvedThreadId serial, w.serial ≤ serial ∧
      executor.execute proposal decision accountId traceId threadId marketIsOpen w =
        transaction (executor.doExecute proposal decision accountId
          (resolvedId traceId "trace" w.serial) resolvedThreadId marketIsOpen)
          { w with serial } := by
  obtain ⟨serial, later, trace⟩ := orNewId_run traceId "trace" w
  obtain ⟨serial', later', thread⟩ := orNewId_run threadId "thread" { w with serial }
  refine ⟨resolvedId threadId "thread" serial, serial', later.trans later', ?_⟩
  rw [execute, bind_of_ok trace, bind_of_ok thread]

def riskFields (proposal : LLMTradeProposal) (accountId : String) (side : OrderSide) :
    IntentFields :=
  { accountId, symbol := proposal.symbol, side, orderType := proposal.orderType
    quantity := proposal.quantity, limitPrice := proposal.limitPrice }

structure Placeable (executor : TradeExecutor) (proposal : LLMTradeProposal) (accountId : String)
    (marketIsOpen : Option Bool) (w : World) (side : OrderSide) (quote : MarketQuote) : Prop where
  sided : orderSide proposal.action = .ok side
  priced : ∃ limit positive, proposal.limitPrice = some limit ∧
    quote = .atPrice proposal.symbol limit.value positive
  approved : (RiskEngine.check executor.riskConfig w.db w.now (riskFields proposal accountId side)
    none (some quote) marketIsOpen).approved

-- An approved order of the executor, with the ids drawn for it.
structure Approved (fields : IntentFields) (serial : Nat) (order : Order) : Prop where
  made : order.toIntentFields = fields
  orderId : order.orderId = idText "ord" serial
  clientOrderId : order.clientOrderId = idText "client" (serial + 1)
  idempotencyKey : order.idempotencyKey = idempotencyKey fields
  status : order.status = .riskApproved
  brokerOrderId : order.brokerOrderId = none
  unfilled : order.filledQuantity = 0

-- One order more, and no change to the tables of the broker.
structure Appended (order : Order) (w w' : World) : Prop where
  rows : w'.db.orders.rows = w.db.orders.rows ++ [order]
  accounts : w'.db.accounts = w.db.accounts
  positions : w'.db.positions = w.db.positions
  fills : w'.db.fills = w.db.fills
  gatewayCalls : w'.gatewayCalls = w.gatewayCalls
  autoflush : w'.autoflush = w.autoflush

theorem Appended.stored {order : Order} (appended : Appended order w w') :
    w'.db.orders.find? order.orderId = some order := by
  rw [Table.find?_eq_some, appended.rows]
  simp

-- The order itself is left out of the counts, so the verdict is that of the state before it.
theorem Appended.check {order : Order} (appended : Appended order w w') (config : RiskConfig)
    (now : Int) {intent intent' : IntentFields} (quote : Option MarketQuote)
    (marketIsOpen : Option Bool) (same : RiskEngine.SameRisk intent intent') :
    (RiskEngine.check config w'.db now intent' (some order.orderId) quote marketIsOpen).approved =
      (RiskEngine.check config w.db now intent none quote marketIsOpen).approved := by
  refine RiskEngine.check_congr appended.accounts appended.positions (fun counted => ?_) same
  have unique := w'.db.orders.unique
  rw [appended.rows, List.map_append, List.nodup_append] at unique
  rw [RiskEngine.countOrders, RiskEngine.countOrders, appended.rows, List.countP_append]
  have self : List.countP (fun row => counted row && (some order.orderId != some row.orderId))
      [order] = 0 := by simp
  rw [self, Nat.add_zero]
  apply List.countP_congr
  intro row member
  have other : row.orderId ≠ order.orderId :=
    unique.2.2 _ (List.mem_map_of_mem member) _ (by simp)
  simp [other.symm]

theorem mainPrice_quoted {quote : MarketQuote}
    (quoted : MarketQuote.validate proposal.symbol (mainPrice proposal) (some (mainPrice proposal))
      (some (mainPrice proposal)) = .ok quote) :
    ∃ limit positive, proposal.limitPrice = some limit ∧
      quote = .atPrice proposal.symbol limit.value positive := by
  obtain ⟨positive, rfl⟩ := MarketQuote.validate_atPrice.mp quoted
  cases limited : proposal.limitPrice with
  | none => simp [mainPrice, limited] at positive
  | some limit =>
    have price : mainPrice proposal = limit.value := by simp [mainPrice, limited]
    simp only [price] at positive ⊢
    exact ⟨limit, positive, rfl, rfl⟩

theorem createOrder_grown {intent : OrderIntent} {orderId : String}
    (created : createOrderFromIntent traceId intent w = .ok orderId w')
    (unseen : Unseen w.db intent.toIntentFields) :
    Appended (newOrder intent w.serial w.now) w w' ∧
      orderId = (newOrder intent w.serial w.now).orderId ∧ w'.serial = w.serial + 2 ∧
      w'.now = w.now := by
  obtain ⟨orders, _, _, inserted, rfl, rfl⟩ := createOrder_new created unseen
  exact ⟨⟨((Table.insert?_eq_some _ _ _).mp inserted).2, rfl, rfl, rfl, rfl, rfl⟩, rfl, rfl, rfl⟩

theorem checkedOrder_ok {config : RiskConfig} {intent : OrderIntent} {orderId : String}
    {quote : Option MarketQuote} {decision : RiskDecision} {checked : Order} {mid : World}
    (created : createOrderFromIntent traceId intent w = .ok orderId mid)
    (checking : runRiskCheck config traceId orderId quote marketIsOpen mid = .ok decision w')
    (stored : w'.db.orders.find? orderId = some checked) (approved : checked.status = .riskApproved)
    (unseen : Unseen w.db intent.toIntentFields) :
    orderId = checked.orderId ∧ Approved intent.toIntentFields w.serial checked ∧
      Appended checked w w' ∧ w'.serial = w.serial + 3 ∧
      ∀ intent', RiskEngine.SameRisk intent' intent.toIntentFields →
        (RiskEngine.check config w.db w.now intent' none quote marketIsOpen).approved := by
  obtain ⟨grown, named, serial, now⟩ := createOrder_grown created unseen
  obtain ⟨order, verdict, _, _, found, -, same, -, rfl⟩ := runRiskCheck_ok checking
  obtain rfl := Option.some.inj (found.symm.trans (named ▸ grown.stored))
  rw [Table.find?_modify_self, found, Option.map_some, Option.some.injEq] at stored
  subst stored
  cases verdict with
  | false => cases approved
  | true =>
    have rows := Table.rows_modify_last grown.rows { apply := fun row =>
      { row with status := .riskApproved, riskDecisionId := some (idText "risk" mid.serial) } }
    subst named
    refine ⟨rfl, ⟨rfl, rfl, rfl, rfl, rfl, rfl, rfl⟩, { grown with rows := rows }, ?_, fun intent' risk => ?_⟩
    · rw [serial]
    · have copied : RiskEngine.SameRisk intent' (riskIntent (newOrder intent w.serial w.now)) :=
        ⟨risk.accountId, risk.symbol, risk.side, risk.quantity, risk.limitPrice⟩
      rw [grown.check config mid.now quote marketIsOpen copied, now] at same
      exact same.symm

theorem placeOrder_ok {placed : PlacedOrder} (fresh : FreshIds w)
    (run : executor.placeOrder proposal accountId traceId marketIsOpen w = .ok placed w') :
    ∃ side order, Placeable executor proposal accountId marketIsOpen w side placed.quote ∧
      w.db.UniqueColumns ∧ placed.signalId = idText "sig" w.serial ∧
      placed.orderId = order.orderId ∧
      Approved (executor.intentFields proposal accountId side placed.signalId) (w.serial + 1) order ∧
      Appended order w w' ∧ w'.serial = w.serial + 4 := by
  simp only [placeOrder, addStrategySignal, bind_ok, newId_ok, liftExcept_ok, modify_ok, flush_ok]
    at run
  obtain ⟨_, _, ⟨rfl, rfl⟩, side, _, ⟨sided, rfl⟩, _, _, rfl, _, _, ⟨unique, rfl⟩, intent, _,
    ⟨valid, rfl⟩, orderId, mid, created, quote, _, ⟨quoted, rfl⟩, decision, checkedWorld, checking,
    checked, _, gotten, rest⟩ := run
  obtain ⟨stored, rfl⟩ := getOrder_ok.mp gotten
  split at rest
  next => exact absurd rest throw_ok
  next approved =>
    obtain ⟨rfl, rfl⟩ := pure_ok.mp rest
    have made := OrderIntent.validate_ok valid
    have unseen : Unseen w.db intent.toIntentFields :=
      made ▸ fresh.signalId (executor.intentFields proposal accountId side _) _ le_rfl rfl
    obtain ⟨named, fresh', appended, serial, verdict⟩ :=
      checkedOrder_ok created checking stored (not_not.mp approved) unseen
    rw [made] at fresh'
    refine ⟨side, checked, ⟨sided, mainPrice_quoted quoted, ?_⟩, unique, rfl, named, fresh', ?_,
      serial⟩
    · apply verdict
      rw [made]
      exact ⟨rfl, rfl, rfl, rfl, rfl⟩
    · exact { appended with }

theorem Appended.unique {order : Order} (appended : Appended order w w')
    (unique : w.db.UniqueColumns)
    (key : ∀ row ∈ w.db.orders.rows, row.idempotencyKey ≠ order.idempotencyKey)
    (client : ∀ row ∈ w.db.orders.rows, row.clientOrderId ≠ order.clientOrderId)
    (unsent : order.brokerOrderId = none) : w'.db.UniqueColumns := by
  rw [Database.uniqueColumns_append appended.rows]
  exact ⟨unique, key, client, by simp [unsent]⟩

theorem Placeable.valid {side : OrderSide} {quote : MarketQuote}
    (placeable : Placeable executor proposal accountId marketIsOpen w side quote)
    (signalId : String) :
    ∃ intent, OrderIntent.validate (executor.intentFields proposal accountId side signalId) =
      .ok intent := by
  obtain ⟨limit, positive, limited, -⟩ := placeable.priced
  have trading : proposal.action ≠ .hold := by
    intro held
    have sided := placeable.sided
    rw [held] at sided
    cases sided
  refine OrderIntent.validate_returns (proposal.trade_quantity trading) ?_ (by simp [intentFields])
    fun _ => by simp [intentFields, limited]
  intro price given
  simp only [intentFields, limited, Option.mem_some_iff] at given
  exact given ▸ positive

theorem checkedOrder_returns (w : World) (config : RiskConfig) (traceId : String)
    {intent : OrderIntent} {quote : Option MarketQuote} (unique : w.db.UniqueColumns)
    (unseen : Unseen w.db intent.toIntentFields)
    (orderIds : ∀ row ∈ w.db.orders.rows, row.orderId ≠ idText "ord" w.serial)
    (clientIds : ∀ row ∈ w.db.orders.rows, row.clientOrderId ≠ idText "client" (w.serial + 1))
    (approved : (RiskEngine.check config w.db w.now intent.toIntentFields none quote
      marketIsOpen).approved) :
    ∃ orderId mid decision w' checked, createOrderFromIntent traceId intent w = .ok orderId mid ∧
      runRiskCheck config traceId orderId quote marketIsOpen mid = .ok decision w' ∧
      w'.db.orders.find? orderId = some checked ∧ checked.status = .riskApproved := by
  obtain ⟨orderId, mid, created⟩ := createOrder_returns traceId unseen orderIds fun _ => unique
  obtain ⟨grown, rfl, -, now⟩ := createOrder_grown created unseen
  obtain ⟨decision, w', checking⟩ := runRiskCheck_returns config traceId quote marketIsOpen
    grown.stored rfl (grown.unique unique unseen clientIds rfl)
  obtain ⟨checked, stored, status⟩ := runRiskCheck_verdict checking grown.stored
  have copied : RiskEngine.SameRisk intent.toIntentFields
      (riskIntent (newOrder intent w.serial w.now)) := ⟨rfl, rfl, rfl, rfl, rfl⟩
  rw [grown.check config mid.now quote marketIsOpen copied, now, approved] at status
  exact ⟨_, mid, decision, w', checked, created, checking, stored, status⟩

theorem placeOrder_returns {side : OrderSide} {quote : MarketQuote} (fresh : FreshIds w)
    (unique : w.db.UniqueColumns)
    (placeable : Placeable executor proposal accountId marketIsOpen w side quote) :
    ∃ placed w', executor.placeOrder proposal accountId traceId marketIsOpen w = .ok placed w' := by
  obtain ⟨limit, positive, limited, rfl⟩ := placeable.priced
  obtain ⟨intent, valid⟩ := placeable.valid (idText "sig" w.serial)
  have made := OrderIntent.validate_ok valid
  have unseen : Unseen w.db intent.toIntentFields :=
    made ▸ fresh.signalId (executor.intentFields proposal accountId side _) _ le_rfl rfl
  let signalled : World := { w with
    db := { w.db with strategySignals := w.db.strategySignals ++
      [executor.buildSignal (idText "sig" w.serial) traceId proposal side] }
    unflushed := []
    serial := w.serial + 1 }
  have approved : (RiskEngine.check executor.riskConfig signalled.db signalled.now
      intent.toIntentFields none (some (.atPrice proposal.symbol limit.value positive))
      marketIsOpen).approved := by
    rw [← placeable.approved]
    refine RiskEngine.check_congr rfl rfl (fun _ => rfl) ?_
    rw [made]
    exact ⟨rfl, rfl, rfl, rfl, rfl⟩
  obtain ⟨orderId, mid, decision, w', checked, created, checking, stored, status⟩ :=
    checkedOrder_returns signalled executor.riskConfig traceId unique unseen
      (fun row member => fresh.orderId row member _ (Nat.le_succ _))
      (fun row member => fresh.clientOrderId row member _ (Nat.le_add_right _ 2)) approved
  have price : mainPrice proposal = limit.value := by simp [mainPrice, limited]
  refine returns_bind (newId_ok.mpr ⟨rfl, rfl⟩) (returns_bind (liftExcept_ok.mpr
    ⟨placeable.sided, rfl⟩) (returns_then (modify_ok.mpr rfl) ?_))
  refine returns_then (flush_ok.mpr ⟨unique, rfl⟩) (returns_bind (liftExcept_ok.mpr ⟨valid, rfl⟩) ?_)
  refine returns_bind created (returns_bind (liftExcept_ok.mpr ⟨?_, rfl⟩)
    (returns_bind checking (returns_bind (getOrder_ok.mpr ⟨stored, rfl⟩) ?_)))
  · rw [price]
    exact MarketQuote.validate_atPrice.mpr ⟨positive, rfl⟩
  · simp only [status, ne_eq, not_true_eq_false, if_false]
    exact ⟨_, _, rfl⟩

section Children

variable {symbol signalId orderId : String} {quantity trigger : Decimal} {orderType : OrderType}
  {price : Option Decimal} {result : BrokerOrderResult}

-- A stored order with the key of the child would be approved only as long as it is CREATED.
def Unawaited (db : Database) (fields : IntentFields) : Prop :=
  ∀ row ∈ db.orders.rows, row.idempotencyKey = idempotencyKey fields → row.status ≠ .created

theorem approveBracket_ok {intent : OrderIntent} {mid : World} {u : Unit}
    (created : createOrderFromIntent traceId intent w = .ok orderId mid)
    (approved : transitionOrder traceId orderId .riskApproved "BRACKET_AUTO_APPROVED" mid = .ok u w')
    (unawaited : Unawaited w.db intent.toIntentFields) :
    ∃ order, orderId = order.orderId ∧ Approved intent.toIntentFields w.serial order ∧
      Appended order w w' ∧ w'.serial = w.serial + 2 := by
  obtain ⟨order, found, allowed, rfl⟩ := transitionOrder_ok.mp approved
  obtain ⟨_, -, ⟨existing, _, hit, rfl, rfl⟩ | ⟨orders, _, -, inserted, rfl, rfl⟩⟩ := createOrder_ok created
  · have member : existing ∈ w.db.orders.rows := List.mem_of_find?_eq_some hit
    have key := List.find?_some hit
    simp only [Bool.and_eq_true, beq_iff_eq] at key
    obtain rfl := Option.some.inj ((Table.find?_of_mem member).symm.trans found)
    have status := unawaited existing member key.1
    revert status allowed
    cases existing.status <;> simp [allowedOrderTransitions]
  · have rows := Table.rows_modify_last ((Table.insert?_eq_some _ _ _).mp inserted).2
      { apply := fun row => { row with status := .riskApproved } }
    exact ⟨{ newOrder intent w.serial w.now with status := .riskApproved }, rfl,
      ⟨rfl, rfl, rfl, rfl, rfl, rfl, rfl⟩, ⟨rows, rfl, rfl, rfl, rfl, rfl⟩, rfl⟩

theorem submitBracketOrder_ok
    (run : executor.submitBracketOrder traceId accountId symbol quantity orderType trigger signalId w
      = .ok (orderId, result) w')
    (unawaited : Unawaited w.db
      (executor.bracketFields accountId symbol quantity orderType trigger signalId)) :
    ∃ order positive mid, orderId = order.orderId ∧
      Approved (executor.bracketFields accountId symbol quantity orderType trigger signalId) w.serial
        order ∧
      Appended order w mid ∧ mid.serial = w.serial + 2 ∧
      executor.broker.submitOrder traceId order.orderId (.atPrice symbol trigger.value positive) mid =
        .ok result w' := by
  simp only [submitBracketOrder, bind_ok, liftExcept_ok, pure_ok] at run
  obtain ⟨intent, _, ⟨valid, rfl⟩, _, _, created, _, mid, approved, quote, _, ⟨quoted, rfl⟩, _, _,
    submitted, same, rfl⟩ := run
  obtain ⟨rfl, rfl⟩ := Prod.mk.inj same
  obtain ⟨positive, rfl⟩ := MarketQuote.validate_atPrice.mp quoted
  have made := OrderIntent.validate_ok valid
  obtain ⟨order, rfl, fresh, appended, serial⟩ :=
    approveBracket_ok created approved (made ▸ unawaited)
  exact ⟨order, positive, mid, rfl, made ▸ fresh, appended, serial, submitted⟩

theorem submitBracketOrder_returns (w : World) (traceId : String) (positive : 0 < trigger.value)
    (large : 0 < quantity.value)
    (unseen : Unseen w.db
      (executor.bracketFields accountId symbol quantity orderType trigger signalId))
    (orderIds : ∀ row ∈ w.db.orders.rows, row.orderId ≠ idText "ord" w.serial)
    (flushable : w.autoflush → w.db.UniqueColumns)
    (submits : ∀ order mid, Appended order w mid → Approved (executor.bracketFields accountId symbol
        quantity orderType trigger signalId) w.serial order → mid.serial = w.serial + 2 →
      ∃ result w', executor.broker.submitOrder traceId order.orderId
        (.atPrice symbol trigger.value positive) mid = .ok result w') :
    ∃ child w', executor.submitBracketOrder traceId accountId symbol quantity orderType trigger
      signalId w = .ok child w' := by
  obtain ⟨intent, valid⟩ : ∃ intent, OrderIntent.validate
      (executor.bracketFields accountId symbol quantity orderType trigger signalId) = .ok intent :=
    OrderIntent.validate_returns large (by simpa [bracketFields] using positive)
      (by simpa [bracketFields] using positive) fun _ => by simp [bracketFields]
  have made := OrderIntent.validate_ok valid
  obtain ⟨orderId, mid, created⟩ := createOrder_returns traceId (made ▸ unseen) orderIds flushable
  obtain ⟨grown, rfl, -, -⟩ := createOrder_grown created (made ▸ unseen)
  have approved : transitionOrder traceId _ .riskApproved "BRACKET_AUTO_APPROVED" mid = .ok () _ :=
    transitionOrder_ok.mpr ⟨_, grown.stored, by simp [newOrder, allowedOrderTransitions], rfl⟩
  obtain ⟨order, named, fresh, appended, serial⟩ := approveBracket_ok created approved
    fun row member same => absurd same ((made ▸ unseen : Unseen w.db intent.toIntentFields) row member)
  obtain ⟨result, w', submitted⟩ := submits order _ appended (made ▸ fresh) serial
  rw [← named] at submitted
  refine returns_bind (liftExcept_ok.mpr ⟨valid, rfl⟩) (returns_bind created (returns_then approved
    (returns_bind (liftExcept_ok.mpr ⟨?_, rfl⟩) (returns_bind submitted ⟨_, _, rfl⟩))))
  exact MarketQuote.validate_atPrice.mpr ⟨positive, rfl⟩

-- The trigger of the child that is submitted for a price of the proposal.
def childTrigger (proposal : LLMTradeProposal) (price : Option Decimal) : List Decimal :=
  if proposal.action = .buy then (truthy price).toList else []

def childTriggers (proposal : LLMTradeProposal) : List Decimal :=
  childTrigger proposal proposal.takeProfitPrice ++ childTrigger proposal proposal.stopLossPrice

def childKey (executor : TradeExecutor) (proposal : LLMTradeProposal)
    (accountId signalId : String) (trigger : Decimal) : String :=
  idempotencyKey (executor.bracketFields accountId proposal.symbol proposal.quantity .stopLimit
    trigger signalId)

theorem truthy_nonzero (given : truthy price = some trigger) :
    trigger.coefficient ≠ 0 := by
  have kept := (Option.filter_eq_some_iff.mp given).2
  simpa using kept

theorem childTrigger_nonzero (given : trigger ∈ childTrigger proposal price) :
    trigger.coefficient ≠ 0 := by
  unfold childTrigger at given
  split at given
  · exact truthy_nonzero (Option.mem_toList.mp given)
  · simp at given

theorem childTrigger_single (asked : childTrigger proposal price ≠ []) :
    ∃ trigger, childTrigger proposal price = [trigger] := by
  unfold childTrigger at asked ⊢
  split at asked
  next buying =>
    rw [if_pos buying]
    cases given : truthy price with
    | none => simp [given] at asked
    | some trigger => exact ⟨trigger, rfl⟩
  next => exact absurd rfl asked

theorem childTriggers_buy (given : trigger ∈ childTriggers proposal) :
    proposal.action = .buy := by
  by_contra other
  simp [childTriggers, childTrigger, other] at given

theorem childKey_injective {trigger' : Decimal} (nonzero : trigger.coefficient ≠ 0)
    (nonzero' : trigger'.coefficient ≠ 0) :
    executor.childKey proposal accountId signalId trigger =
        executor.childKey proposal accountId signalId trigger' ↔ trigger.str = trigger'.str := by
  simp only [childKey, idempotencyKey, bracketFields, String.intercalate_cons_cons,
    String.intercalate_singleton, String.append_right_inj, nonzero, nonzero', if_false]

-- A BUY and its children have different sides in their keys.
theorem childKey_main (trigger : Decimal) :
    idempotencyKey (executor.intentFields proposal accountId .buy signalId) ≠
      executor.childKey proposal accountId signalId trigger := by
  simp only [childKey, idempotencyKey, bracketFields, intentFields, String.intercalate_cons_cons,
    String.intercalate_singleton, String.append_assoc, OrderSide.value, ne_eq, String.append_right_inj]
  intro same
  have sides := congrArg String.toList same
  simp at sides

theorem mainKey_other {side : OrderSide}
    (sided : orderSide proposal.action = .ok side) (given : trigger ∈ childTriggers proposal) :
    idempotencyKey (executor.intentFields proposal accountId side signalId) ≠
      executor.childKey proposal accountId signalId trigger := by
  have buying : orderSide proposal.action = .ok .buy := by rw [childTriggers_buy given]; rfl
  obtain rfl : OrderSide.buy = side := Except.ok.inj (buying.symm.trans sided)
  exact childKey_main trigger

theorem childKeys_distinct (executor : TradeExecutor) (proposal : LLMTradeProposal)
    (accountId signalId : String) :
    ((childTriggers proposal).map (executor.childKey proposal accountId signalId)).Nodup ↔
      ((childTriggers proposal).map Decimal.str).Nodup := by
  have nonzero : ∀ trigger ∈ childTriggers proposal, trigger.coefficient ≠ 0 := fun _ member =>
    (List.mem_append.mp member).elim childTrigger_nonzero childTrigger_nonzero
  unfold List.Nodup
  rw [List.pairwise_map, List.pairwise_map]
  refine List.Pairwise.iff_of_mem fun member member' => ?_
  exact not_congr (childKey_injective (nonzero _ member) (nonzero _ member'))

theorem submitChild_ok {child : Option (String × BrokerOrderResult)}
    (run : executor.submitChild traceId accountId proposal orderType price signalId w =
      .ok child w')
    (unawaited : ∀ trigger ∈ childTrigger proposal price, Unawaited w.db (executor.bracketFields
      accountId proposal.symbol proposal.quantity orderType trigger signalId)) :
    (childTrigger proposal price = [] ∧ child = none ∧ w' = w) ∨
    ∃ trigger order positive mid result, childTrigger proposal price = [trigger] ∧
      child = some (order.orderId, result) ∧
      Approved (executor.bracketFields accountId proposal.symbol proposal.quantity orderType
        trigger signalId) w.serial order ∧
      Appended order w mid ∧ mid.serial = w.serial + 2 ∧
      executor.broker.submitOrder traceId order.orderId
        (.atPrice proposal.symbol trigger.value positive) mid = .ok result w' := by
  unfold submitChild at run
  cases given : truthy price with
  | none =>
    simp only [given] at run
    obtain ⟨rfl, rfl⟩ := pure_ok.mp run
    exact .inl ⟨by simp [childTrigger, given], rfl, rfl⟩
  | some trigger =>
    simp only [given] at run
    split at run
    next buy =>
      have asked : childTrigger proposal price = [trigger] := by simp [childTrigger, buy, given]
      obtain ⟨⟨orderId, result⟩, _, submitted, rest⟩ := bind_ok.mp run
      obtain ⟨rfl, rfl⟩ := pure_ok.mp rest
      obtain ⟨order, positive, mid, rfl, approved, appended, serial, sent⟩ :=
        submitBracketOrder_ok submitted (unawaited trigger (by simp [asked]))
      exact .inr ⟨trigger, order, positive, mid, result, asked, rfl, approved, appended, serial, sent⟩
    next idle =>
      obtain ⟨rfl, rfl⟩ := pure_ok.mp run
      exact .inl ⟨by simp [childTrigger, idle], rfl, rfl⟩

end Children

section Completed

variable {decision : HumanApprovalDecision} {threadId : String} {completed : LLMTradingRunResult}

theorem submitPlaced_ok {placed : PlacedOrder}
    (run : executor.submitPlaced proposal decision accountId traceId threadId placed w =
      .ok completed w') :
    ∃ result sent, executor.broker.submitOrder traceId placed.orderId placed.quote w =
        .ok result sent ∧ result.accepted = true ∧
      executor.submitChildren proposal decision accountId traceId threadId placed result sent =
        .ok completed w' := by
  obtain ⟨result, sent, submitted, rest⟩ := bind_ok.mp run
  split at rest
  next => exact absurd rest throw_ok
  next accepted => exact ⟨result, sent, submitted, by simpa using accepted, rest⟩

theorem submitChildren_ok {placed : PlacedOrder} {result : BrokerOrderResult}
    (run : executor.submitChildren proposal decision accountId traceId threadId placed result w =
      .ok completed w') :
    ∃ takeProfit mid stopLoss last auditLogs,
      executor.submitChild traceId accountId proposal .limitIfTouched proposal.takeProfitPrice
        placed.signalId w = .ok takeProfit mid ∧
      executor.submitChild traceId accountId proposal .stopLimit proposal.stopLossPrice
        placed.signalId mid = .ok stopLoss last ∧
      w' = { last with db := { last.db with auditLogs } } ∧
      completed.orderId = placed.orderId ∧
      completed.riskDecisionId = some placed.riskDecisionId ∧
      completed.brokerOrderId = result.brokerOrderId ∧
      completed.takeProfitOrderId = takeProfit.map Prod.fst ∧
      completed.stopLossOrderId = stopLoss.map Prod.fst := by
  simp only [submitChildren, addAudit, addAuditLog, bind_ok, modify_ok, getOrder_ok, pure_ok] at run
  obtain ⟨takeProfit, mid, first, stopLoss, last, second, _, _, rfl, _, _, ⟨-, rfl⟩, rfl, rfl⟩ := run
  exact ⟨takeProfit, mid, stopLoss, last, _, first, second, rfl, rfl, rfl, rfl, rfl, rfl⟩

theorem doExecute_ok
    (run : executor.doExecute proposal decision accountId traceId threadId marketIsOpen w =
      .ok completed w') :
    (∃ existing, executor.findExistingOrder w.db traceId proposal.symbol = some existing ∧
      w' = w ∧ completed.orderId = existing.orderId ∧
      completed.riskDecisionId = existing.riskDecisionId ∧
      completed.brokerOrderId = existing.brokerOrderId ∧
      completed.takeProfitOrderId = none ∧ completed.stopLossOrderId = none) ∨
    (executor.findExistingOrder w.db traceId proposal.symbol = none ∧
      ∃ placed mid, executor.placeOrder proposal accountId traceId marketIsOpen w =
          .ok placed mid ∧
        executor.submitPlaced proposal decision accountId traceId threadId placed mid =
          .ok completed w') := by
  obtain ⟨_, _, fetched, rest⟩ := bind_ok.mp run
  obtain ⟨rfl, rfl⟩ := get_ok.mp fetched
  cases found : executor.findExistingOrder w.db traceId proposal.symbol with
  | some existing =>
    simp only [found] at rest
    obtain ⟨rfl, rfl⟩ := pure_ok.mp rest
    exact .inl ⟨existing, rfl, rfl, rfl, rfl, rfl, rfl, rfl⟩
  | none =>
    simp only [found] at rest
    exact .inr ⟨rfl, bind_ok.mp rest⟩

theorem execute_ok {givenTraceId givenThreadId : Option String}
    (run : executor.execute proposal decision accountId givenTraceId givenThreadId marketIsOpen w =
      .ok completed w') :
    ∃ threadId serial mid, w.serial ≤ serial ∧
      executor.doExecute proposal decision accountId (resolvedId givenTraceId "trace" w.serial)
        threadId marketIsOpen { w with serial, unflushed := [] } = .ok completed mid ∧
      mid.db.UniqueColumns ∧ w' = { mid with unflushed := [] } := by
  obtain ⟨threadId, serial, later, executed⟩ := execute_run executor proposal decision accountId
    givenTraceId givenThreadId marketIsOpen w
  rw [executed] at run
  obtain ⟨mid, inner, unique, rfl⟩ := transaction_ok run
  exact ⟨threadId, serial, mid, later, inner, unique, rfl⟩

end Completed

theorem cashOnly_fresh (cash : ℚ) : FreshIds (cashOnly cash) where
  orderId := by simp [cashOnly, Table.empty]
  clientOrderId := by simp [cashOnly, Table.empty]
  signalId := by simp [cashOnly, Table.empty, Unseen]

end SynapseYield.TradeExecutor
