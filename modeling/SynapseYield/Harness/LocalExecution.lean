import SynapseYield.Broker.LocalEffects
import SynapseYield.Harness.Execution

set_option autoImplicit false

namespace SynapseYield.TradeExecutor

open Shared OrderService LocalSim

variable {executor : TradeExecutor} {config : LocalSimConfig} {proposal : LLMTradeProposal}
  {accountId traceId signalId : String} {orderType : OrderType} {price : Option Decimal}
  {w w' : World}

-- No order is put back to CREATED, and new orders are past it.
def Advanced (db db' : Database) : Prop :=
  ∀ row ∈ db'.orders.rows, row.status = .created → row ∈ db.orders.rows

theorem Advanced.trans {db mid db' : Database} (first : Advanced db mid)
    (second : Advanced mid db') : Advanced db db' :=
  fun row member created => first row (second row member created) created

theorem Advanced.unawaited {db db' : Database} {fields : IntentFields}
    (advanced : Advanced db db') (before : Unawaited db fields) : Unawaited db' fields :=
  fun row member same created => before row (advanced row member created) same created

theorem Advanced.of_modified {db db' : Database} {orderId : String}
    {update : RowUpdate String Order Order.orderId}
    (orders : db'.orders = db.orders.modify orderId update)
    (past : ∀ row, (update.apply row).status ≠ .created) : Advanced db db' := by
  intro row member created
  rw [orders, Table.mem_modify] at member
  obtain ⟨old, -, rfl⟩ | ⟨stored, -⟩ := member
  · exact absurd created (past old)
  · exact stored

theorem Appended.advanced {order : Order} (appended : Appended order w w')
    (approved : order.status = .riskApproved) : Advanced w.db w'.db := by
  intro row member created
  rw [appended.rows] at member
  obtain stored | new := List.mem_append.mp member
  · exact stored
  · rw [List.mem_singleton.mp new, approved] at created
    cases created

-- What the simulator did with an approved order.
inductive Submitted (config : LocalSimConfig) (order : Order) (quote : MarketQuote) :
    Bool → Database → Database → Prop
  | failed {db db'} (changed : Restatused order .failed db db') :
      Submitted config order quote false db db'
  | rested {db db'} (accepted : Accepted config order quote db db')
      (unmatched : fillPrice order quote = none) : Submitted config order quote true db db'
  | filled {db mid db'} (price : ℚ) (accepted : Accepted config order quote db mid)
      (matched : fillPrice order quote = some price) (submitted : Order)
      (same : submitted.toOrderIntent = order.toOrderIntent)
      (sameId : submitted.orderId = order.orderId)
      (settled : Settled config submitted price mid db') :
      Submitted config order quote true db db'

theorem submitOrder_submitted {order : Order} {quote : MarketQuote} {result : BrokerOrderResult}
    (run : LocalSim.submitOrder config traceId order.orderId quote w = .ok result w')
    (stored : w.db.orders.find? order.orderId = some order)
    (approved : order.status = .riskApproved) :
    Submitted config order quote result.accepted w.db w'.db := by
  obtain ⟨_, found, rest⟩ := submitOrder_ok run
  obtain rfl := Option.some.inj (stored.symm.trans found)
  obtain ⟨unapproved, -, -⟩ | ⟨refused, failed⟩ | ⟨taken, mid, accepted, rest⟩ := rest
  · exact absurd approved unapproved
  · rw [refused]
    exact .failed failed
  · rw [taken]
    cases matched : fillPrice order quote with
    | none =>
      simp only [matched] at rest
      subst rest
      exact .rested accepted matched
    | some price =>
      simp only [matched] at rest
      obtain ⟨submitted, sameId, settled⟩ := rest
      obtain ⟨brokerOrderId, rfl⟩ := accepted.submitted (sameId ▸ settled.stored)
      exact .filled price accepted matched
        { order with status := .submitted, brokerOrderId := some brokerOrderId } rfl rfl settled

theorem Submitted.advanced {order : Order} {quote : MarketQuote} {taken : Bool}
    {db db' : Database} (submitted : Submitted config order quote taken db db') :
    Advanced db db' := by
  cases submitted with
  | failed changed =>
    obtain ⟨_, orders⟩ := changed.orders
    exact .of_modified orders fun _ => nofun
  | rested accepted _ =>
    obtain ⟨_, orders⟩ := accepted.orders
    exact .of_modified orders fun _ => nofun
  | filled price accepted _ submitted same sameId settled =>
    obtain ⟨_, orders⟩ := accepted.orders
    exact (Advanced.of_modified orders fun _ => nofun).trans
      (.of_modified settled.orders fun _ => nofun)

theorem child_matched {order : Order} {symbol : String} {quantity trigger : Decimal}
    (made : order.toIntentFields =
      executor.bracketFields accountId symbol quantity orderType trigger signalId)
    (bracket : orderType = .limitIfTouched ∨ orderType = .stopLimit)
    (positive : 0 < trigger.value) :
    fillPrice order (.atPrice symbol trigger.value positive) = some trigger.value := by
  have side : order.side = .sell := congrArg IntentFields.side made
  have type : order.orderType = orderType := congrArg IntentFields.orderType made
  have limit : order.limitPrice = some trigger := congrArg IntentFields.limitPrice made
  obtain rfl | rfl := bracket <;>
    simp [fillPrice, type, side, limit, MarketQuote.bid, MarketQuote.atPrice]

theorem Submitted.unrested {order : Order} {quote : MarketQuote} {taken : Bool} {fillAt : ℚ}
    {db db' : Database} (submitted : Submitted config order quote taken db db')
    (matched : fillPrice order quote = some fillAt) :
    ∃ stored, db'.orders.find? order.orderId = some stored ∧ stored.status ≠ .submitted := by
  cases submitted with
  | failed changed =>
    obtain ⟨_, orders⟩ := changed.orders
    rw [orders, Table.find?_modify_self, changed.stored]
    exact ⟨_, rfl, nofun⟩
  | rested accepted unmatched =>
    rw [unmatched] at matched
    cases matched
  | filled price accepted _ submitted same sameId settled =>
    rw [← sameId, settled.orders, Table.find?_modify_self, settled.stored]
    exact ⟨_, rfl, nofun⟩

theorem Submitted.fills {order : Order} {quote : MarketQuote} {taken : Bool}
    {db db' : Database} (submitted : Submitted config order quote taken db db') :
    ∃ added, db'.fills = db.fills ++ added ∧ ∀ fill ∈ added, fill.side = order.side := by
  cases submitted with
  | failed changed => exact ⟨[], by simp [changed.fills], by simp⟩
  | rested accepted _ => exact ⟨[], by simp [accepted.fills], by simp⟩
  | filled price accepted _ submitted same sameId settled =>
    obtain ⟨fill, fills, -, -, side, -⟩ := settled.fills
    exact ⟨[fill], by rw [fills, accepted.fills], by simp [side, same]⟩

theorem Submitted.funded {order : Order} {quote : MarketQuote} {db db' : Database}
    (submitted : Submitted config order quote true db db') (buying : order.side = .buy) :
    ∃ account, db.accounts.find? order.accountId = some account ∧
      reserveAmount config order.toOrderIntent quote.ask ≤ account.cashAvailable := by
  cases submitted with
  | rested accepted _ =>
    obtain ⟨account, found, enough⟩ := accepted.funds
    exact ⟨account, found, enough buying⟩
  | filled _ accepted =>
    obtain ⟨account, found, enough⟩ := accepted.funds
    exact ⟨account, found, enough buying⟩

theorem Submitted.keys {order : Order} {quote : MarketQuote} {taken : Bool} {db db' : Database}
    (submitted : Submitted config order quote taken db db') :
    db'.orders.rows.map Order.idempotencyKey = db.orders.rows.map Order.idempotencyKey := by
  have modified : ∀ (orders : Table String Order Order.orderId) (orderId : String)
      (update : RowUpdate String Order Order.orderId),
      (∀ row, (update.apply row).idempotencyKey = row.idempotencyKey) →
      (orders.modify orderId update).rows.map Order.idempotencyKey =
        orders.rows.map Order.idempotencyKey := by
    intro orders orderId update same
    rw [Table.modify, List.map_map]
    refine List.map_congr_left fun row _ => ?_
    simp only [Function.comp_apply]
    split
    next => exact same row
    next => rfl
  cases submitted with
  | failed changed =>
    obtain ⟨_, orders⟩ := changed.orders
    rw [orders]
    exact modified _ _ _ fun _ => rfl
  | rested accepted _ =>
    obtain ⟨_, orders⟩ := accepted.orders
    rw [orders]
    exact modified _ _ _ fun _ => rfl
  | filled price accepted _ submitted same sameId settled =>
    obtain ⟨_, orders⟩ := accepted.orders
    rw [settled.orders, modified _ _ _ fun _ => rfl, orders]
    exact modified _ _ _ fun _ => rfl

-- What submitting one of the children does at the simulator.
inductive ChildRun (executor : TradeExecutor) (config : LocalSimConfig)
    (proposal : LLMTradeProposal) (accountId signalId : String) (orderType : OrderType)
    (price : Option Decimal) : Option String → World → World → Prop
  | unasked {w : World} (given : childTrigger proposal price = []) :
      ChildRun executor config proposal accountId signalId orderType price none w w
  | submitted {w mid w' : World} (trigger : Decimal) (order : Order) (positive : 0 < trigger.value)
      (taken : Bool) (asked : childTrigger proposal price = [trigger])
      (approved : Approved (executor.bracketFields accountId proposal.symbol proposal.quantity
        orderType trigger signalId) w.serial order)
      (appended : Appended order w mid)
      (sent : Submitted config order (.atPrice proposal.symbol trigger.value positive) taken mid.db
        w'.db) :
      ChildRun executor config proposal accountId signalId orderType price (some order.orderId) w w'

theorem submitChild_run {child : Option (String × BrokerOrderResult)}
    (routed : executor.broker = LocalSim.adapter config)
    (run : executor.submitChild traceId accountId proposal orderType price signalId w =
      .ok child w')
    (unawaited : ∀ fields : IntentFields, fields.sourceSignalId = some signalId →
      Unawaited w.db fields) :
    ChildRun executor config proposal accountId signalId orderType price (child.map Prod.fst) w
      w' := by
  obtain ⟨given, rfl, rfl⟩ | ⟨trigger, order, positive, mid, result, asked, rfl, approved, appended,
    -, sent⟩ := submitChild_ok run fun trigger _ => unawaited _ rfl
  · exact .unasked given
  · rw [routed] at sent
    exact .submitted trigger order positive result.accepted asked approved appended
      (submitOrder_submitted sent appended.stored approved.status)

theorem ChildRun.advanced {child : Option String}
    (run : ChildRun executor config proposal accountId signalId orderType price child w w') :
    Advanced w.db w'.db := by
  cases run with
  | unasked => exact fun _ stored _ => stored
  | submitted trigger order positive taken asked approved appended sent =>
    exact (appended.advanced approved.status).trans sent.advanced

theorem ChildRun.unrested {child : Option String}
    (run : ChildRun executor config proposal accountId signalId orderType price child w w')
    (bracket : orderType = .limitIfTouched ∨ orderType = .stopLimit) :
    (child = none ∧ childTrigger proposal price = [] ∧ w' = w) ∨
      ∃ orderId stored, child = some orderId ∧ childTrigger proposal price ≠ [] ∧
        w'.db.orders.find? orderId = some stored ∧ stored.status ≠ .submitted := by
  cases run with
  | unasked given => exact .inl ⟨rfl, given, rfl⟩
  | submitted trigger order positive taken asked approved appended sent =>
    obtain ⟨stored, found, status⟩ := sent.unrested (child_matched approved.made bracket positive)
    exact .inr ⟨order.orderId, stored, rfl, by simp [asked], found, status⟩

theorem ChildRun.positive {child : Option String}
    (run : ChildRun executor config proposal accountId signalId orderType price child w w') :
    ∀ trigger ∈ childTrigger proposal price, 0 < trigger.value := by
  cases run with
  | unasked given => simp [given]
  | submitted trigger order positive taken asked approved appended sent => simpa [asked] using positive

theorem ChildRun.keys {child : Option String}
    (run : ChildRun executor config proposal accountId signalId orderType price child w w') :
    w'.db.orders.rows.map Order.idempotencyKey = w.db.orders.rows.map Order.idempotencyKey ++
      (childTrigger proposal price).map (executor.childKey proposal accountId signalId) := by
  cases run with
  | unasked given => simp [given]
  | submitted trigger order positive taken asked approved appended sent =>
    rw [sent.keys, appended.rows, List.map_append, asked, List.map_singleton, List.map_singleton,
      approved.idempotencyKey]
    rfl

theorem childTexts_differ {takeProfitId stopLossId : Option String} {mid : World}
    {takeProfit stopLoss : Decimal}
    (first : ChildRun executor config proposal accountId signalId .limitIfTouched
      proposal.takeProfitPrice takeProfitId w mid)
    (second : ChildRun executor config proposal accountId signalId .stopLimit
      proposal.stopLossPrice stopLossId mid w')
    (unique : w'.db.UniqueColumns)
    (profit : childTrigger proposal proposal.takeProfitPrice = [takeProfit])
    (loss : childTrigger proposal proposal.stopLossPrice = [stopLoss]) :
    takeProfit.str ≠ stopLoss.str := by
  intro same
  have nonzero : takeProfit.coefficient ≠ 0 := childTrigger_nonzero (by rw [profit]; simp)
  have nonzero' : stopLoss.coefficient ≠ 0 := childTrigger_nonzero (by rw [loss]; simp)
  have keys := unique.1
  rw [second.keys, first.keys, profit, loss, List.nodup_append] at keys
  refine keys.2.2 (executor.childKey proposal accountId signalId takeProfit) (by simp)
    (executor.childKey proposal accountId signalId stopLoss) (by simp) ?_
  exact (childKey_injective nonzero nonzero').mpr same

theorem mainOrder_matched {order : Order} {limit : Decimal} (buying : order.side = .buy)
    (limited : order.limitPrice = some limit) (positive : 0 < limit.value) (symbol : String) :
    fillPrice order (.atPrice symbol limit.value positive) = some limit.value := by
  simp [fillPrice, buying, limited, MarketQuote.ask, MarketQuote.atPrice]

theorem submitPlaced_run {decision : HumanApprovalDecision} {threadId : String}
    {marketIsOpen : Option Bool} {placed : PlacedOrder} {mid : World}
    {completed : LLMTradingRunResult} (routed : executor.broker = LocalSim.adapter config)
    (fresh : FreshIds w)
    (placing : executor.placeOrder proposal accountId traceId marketIsOpen w = .ok placed mid)
    (submitting : executor.submitPlaced proposal decision accountId traceId threadId placed mid =
      .ok completed w') :
    ∃ side order sent between last auditLogs,
      Placeable executor proposal accountId marketIsOpen w side placed.quote ∧
      Approved (executor.intentFields proposal accountId side placed.signalId) (w.serial + 1) order ∧
      Appended order w mid ∧ Submitted config order placed.quote true mid.db sent.db ∧
      ChildRun executor config proposal accountId placed.signalId .limitIfTouched
        proposal.takeProfitPrice completed.takeProfitOrderId sent between ∧
      ChildRun executor config proposal accountId placed.signalId .stopLimit
        proposal.stopLossPrice completed.stopLossOrderId between last ∧
      w' = { last with db := { last.db with auditLogs } } ∧ completed.orderId = order.orderId := by
  obtain ⟨side, order, placeable, -, drawn, orderId, approved, appended, -⟩ :=
    placeOrder_ok fresh placing
  obtain ⟨result, sent, submitted, taken, children⟩ := submitPlaced_ok submitting
  obtain ⟨takeProfit, between, stopLoss, last, auditLogs, first, second, rfl, main, -, -, profitId,
    lossId⟩ := submitChildren_ok children
  rw [routed, orderId] at submitted
  have accepted := submitOrder_submitted submitted appended.stored approved.status
  have unawaited : ∀ fields : IntentFields, fields.sourceSignalId = some placed.signalId →
      Unawaited sent.db fields := by
    intro fields named
    refine ((appended.advanced approved.status).trans accepted.advanced).unawaited ?_
    exact fun row member same =>
      absurd same (fresh.signalId fields _ le_rfl (drawn ▸ named) row member)
  have firstRun := submitChild_run routed first unawaited
  have secondRun := submitChild_run routed second fun fields named =>
    firstRun.advanced.unawaited (unawaited fields named)
  rw [← profitId] at firstRun
  rw [← lossId] at secondRun
  rw [taken] at accepted
  exact ⟨side, order, sent, between, last, auditLogs, placeable, approved, appended, accepted,
    firstRun, secondRun, rfl, main.trans orderId⟩

end SynapseYield.TradeExecutor
