import SynapseYield.Broker.LongbridgeOperations
import SynapseYield.Harness.Execution

set_option autoImplicit false

namespace SynapseYield

open Shared OrderService Longbridge

def SubmitOutcome.brokerOrderId : SubmitOutcome → Option String
  | .accepted brokerOrderId => some brokerOrderId
  | .unknown _ => none
  | .refused _ => none

-- An order as it was sent to the gateway, and what the gateway answered.
structure Filing where
  order : Order
  outcome : SubmitOutcome

namespace Filing

def row (filing : Filing) : Order := answered filing.outcome filing.order

def call (filing : Filing) : GatewayCall := ⟨submitRequest filing.order, filing.outcome⟩

def key (filing : Filing) : String := filing.order.idempotencyKey

theorem row_orderId (filing : Filing) : filing.row.orderId = filing.order.orderId :=
  answered_orderId filing.outcome filing.order

theorem row_clientOrderId (filing : Filing) :
    filing.row.clientOrderId = filing.order.clientOrderId := by
  obtain ⟨order, outcome⟩ := filing
  cases outcome <;> rfl

theorem row_idempotencyKey (filing : Filing) : filing.row.idempotencyKey = filing.key := by
  obtain ⟨order, outcome⟩ := filing
  cases outcome <;> rfl

theorem row_brokerOrderId (filing : Filing) (unsent : filing.order.brokerOrderId = none) :
    filing.row.brokerOrderId = filing.outcome.brokerOrderId := by
  obtain ⟨order, outcome⟩ := filing
  cases outcome with
  | accepted id => rfl
  | unknown error => exact unsent
  | refused error => exact unsent

theorem row_status (filing : Filing) :
    filing.row.status ≠ .created ∧ filing.row.status ≠ .riskApproved := by
  obtain ⟨order, outcome⟩ := filing
  cases outcome <;> exact ⟨nofun, nofun⟩

end Filing

-- What the gateway answers to the next submit requests.
def answers (broker : LongbridgeBroker) (w : World) (count : Nat) : List SubmitOutcome :=
  (List.range' w.gatewayCalls.length count).map broker.gateway.submitOutcome

def Drawn (idPrefix : String) (w w' : World) (id : String) : Prop :=
  ∃ n, w.serial ≤ n ∧ n < w'.serial ∧ id = idText idPrefix n

-- From w to w' these orders were created, approved and sent to the gateway.
structure Filed (broker : LongbridgeBroker) (filings : List Filing) (w w' : World) : Prop where
  rows : w'.db.orders.rows = w.db.orders.rows ++ filings.map Filing.row
  gatewayCalls : w'.gatewayCalls = w.gatewayCalls ++ filings.map Filing.call
  outcomes : filings.map Filing.outcome = answers broker w filings.length
  unsent : ∀ filing ∈ filings, filing.order.brokerOrderId = none
  orderIds : ∀ filing ∈ filings, Drawn "ord" w w' filing.order.orderId
  clientOrderIds : ∀ filing ∈ filings, Drawn "client" w w' filing.order.clientOrderId
  clients : (filings.map fun filing => filing.order.clientOrderId).Nodup
  serial : w.serial ≤ w'.serial
  autoflush : w'.autoflush = w.autoflush

namespace Filed

variable {broker : LongbridgeBroker} {filings more : List Filing} {w w' w'' : World}

theorem none (w : World) : Filed broker [] w w where
  rows := by simp
  gatewayCalls := by simp
  outcomes := rfl
  unsent := by simp
  orderIds := by simp
  clientOrderIds := by simp
  clients := by simp
  serial := le_rfl
  autoflush := rfl

theorem one {fields : IntentFields} {serial : Nat} {order : Order} {outcome : SubmitOutcome}
    {mid : World} (approved : TradeExecutor.Approved fields serial order)
    (appended : TradeExecutor.Appended order w mid) (sent : Sent order outcome mid w')
    (answer : outcome = broker.gateway.submitOutcome w.gatewayCalls.length)
    (first : w.serial ≤ serial) (last : serial + 2 ≤ mid.serial) :
    Filed broker [⟨order, outcome⟩] w w' where
  rows := by
    rw [sent.orders]
    exact Table.rows_modify_last appended.rows _
  gatewayCalls := by rw [sent.gatewayCalls, appended.gatewayCalls]; rfl
  outcomes := by simp [answers, answer]
  unsent := by simp [approved.brokerOrderId]
  orderIds := by
    simp only [List.mem_singleton, forall_eq]
    exact ⟨serial, first, by rw [sent.serial]; omega, approved.orderId⟩
  clientOrderIds := by
    simp only [List.mem_singleton, forall_eq]
    exact ⟨serial + 1, by omega, by rw [sent.serial]; omega, approved.clientOrderId⟩
  clients := by simp
  serial := by rw [sent.serial]; omega
  autoflush := sent.autoflush.trans appended.autoflush

theorem answers_append (filed : Filed broker filings w w') (count : Nat) :
    answers broker w (filings.length + count) =
      answers broker w filings.length ++ answers broker w' count := by
  have calls : w'.gatewayCalls.length = w.gatewayCalls.length + filings.length := by
    simp [filed.gatewayCalls]
  rw [answers, answers, answers, calls, ← List.map_append, List.range'_append_1]

theorem trans (first : Filed broker filings w w') (second : Filed broker more w' w'') :
    Filed broker (filings ++ more) w w'' where
  rows := by rw [second.rows, first.rows, List.map_append, List.append_assoc]
  gatewayCalls := by rw [second.gatewayCalls, first.gatewayCalls, List.map_append, List.append_assoc]
  outcomes := by
    rw [List.map_append, first.outcomes, second.outcomes, List.length_append, first.answers_append]
  unsent := fun filing member => (List.mem_append.mp member).elim (first.unsent filing)
    (second.unsent filing)
  orderIds := by
    intro filing member
    obtain member | member := List.mem_append.mp member
    · obtain ⟨n, low, high, same⟩ := first.orderIds filing member
      exact ⟨n, low, high.trans_le second.serial, same⟩
    · obtain ⟨n, low, high, same⟩ := second.orderIds filing member
      exact ⟨n, first.serial.trans low, high, same⟩
  clientOrderIds := by
    intro filing member
    obtain member | member := List.mem_append.mp member
    · obtain ⟨n, low, high, same⟩ := first.clientOrderIds filing member
      exact ⟨n, low, high.trans_le second.serial, same⟩
    · obtain ⟨n, low, high, same⟩ := second.clientOrderIds filing member
      exact ⟨n, first.serial.trans low, high, same⟩
  clients := by
    rw [List.map_append, List.nodup_append]
    refine ⟨first.clients, second.clients, ?_⟩
    intro earlier before later after same
    obtain ⟨filing, member, rfl⟩ := List.mem_map.mp before
    obtain ⟨filing', member', rfl⟩ := List.mem_map.mp after
    obtain ⟨n, _, high, drawn⟩ := first.clientOrderIds filing member
    obtain ⟨n', low, _, drawn'⟩ := second.clientOrderIds filing' member'
    have : n = n' := idText_injective "client" (drawn.symm.trans (same.trans drawn'))
    omega
  serial := first.serial.trans second.serial
  autoflush := second.autoflush.trans first.autoflush

theorem row_cases (filed : Filed broker filings w w') {row : Order}
    (member : row ∈ w'.db.orders.rows) :
    row ∈ w.db.orders.rows ∨ ∃ filing ∈ filings, filing.row = row := by
  rw [filed.rows] at member
  exact (List.mem_append.mp member).imp_right List.mem_map.mp

theorem unusedIds (filed : Filed broker filings w w') (unused : TradeExecutor.UnusedIds w) :
    TradeExecutor.UnusedIds w' where
  orderId := by
    intro row member n later
    obtain stored | ⟨filing, added, rfl⟩ := filed.row_cases member
    · exact unused.orderId row stored n (filed.serial.trans later)
    · obtain ⟨n', _, high, drawn⟩ := filed.orderIds filing added
      rw [filing.row_orderId, drawn]
      intro same
      have := idText_injective "ord" same
      omega
  clientOrderId := by
    intro row member n later
    obtain stored | ⟨filing, added, rfl⟩ := filed.row_cases member
    · exact unused.clientOrderId row stored n (filed.serial.trans later)
    · obtain ⟨n', _, high, drawn⟩ := filed.clientOrderIds filing added
      rw [filing.row_clientOrderId, drawn]
      intro same
      have := idText_injective "client" same
      omega

theorem unawaited (filed : Filed broker filings w w') {fields : IntentFields}
    (before : TradeExecutor.Unawaited w.db fields) : TradeExecutor.Unawaited w'.db fields := by
  intro row member same
  obtain stored | ⟨filing, -, rfl⟩ := filed.row_cases member
  · exact before row stored same
  · exact filing.row_status.1

theorem unseen (filed : Filed broker filings w w') {fields : IntentFields}
    (before : Unseen w.db fields) (other : idempotencyKey fields ∉ filings.map Filing.key) :
    Unseen w'.db fields := by
  intro row member same
  obtain stored | ⟨filing, added, rfl⟩ := filed.row_cases member
  · exact before row stored same
  · rw [filing.row_idempotencyKey] at same
    exact other (List.mem_map.mpr ⟨filing, added, same⟩)

theorem numbers (filed : Filed broker filings w w') :
    w'.db.orders.rows.filterMap Order.brokerOrderId =
      w.db.orders.rows.filterMap Order.brokerOrderId ++
        (answers broker w filings.length).filterMap SubmitOutcome.brokerOrderId := by
  rw [filed.rows, List.filterMap_append, ← filed.outcomes, List.filterMap_map, List.filterMap_map]
  congr 1
  exact List.filterMap_congr fun filing member =>
    filing.row_brokerOrderId (filed.unsent filing member)

theorem uniqueColumns (filed : Filed broker filings w w') (unused : TradeExecutor.UnusedIds w)
    (unique : w.db.UniqueColumns)
    (unseen : ∀ key ∈ filings.map Filing.key, ∀ row ∈ w.db.orders.rows, row.idempotencyKey ≠ key) :
    w'.db.UniqueColumns ↔ (filings.map Filing.key).Nodup ∧
      (w.db.orders.rows.filterMap Order.brokerOrderId ++
        (answers broker w filings.length).filterMap SubmitOutcome.brokerOrderId).Nodup := by
  have keys : (filings.map Filing.row).map Order.idempotencyKey = filings.map Filing.key := by
    rw [List.map_map]
    exact List.map_congr_left fun filing _ => filing.row_idempotencyKey
  have clients : (filings.map Filing.row).map Order.clientOrderId =
      filings.map fun filing => filing.order.clientOrderId := by
    rw [List.map_map]
    exact List.map_congr_left fun filing _ => filing.row_clientOrderId
  rw [Database.UniqueColumns, filed.numbers, filed.rows, List.map_append, List.map_append, keys,
    clients, List.nodup_append, List.nodup_append]
  constructor
  · rintro ⟨⟨-, distinct, -⟩, -, numbered⟩
    exact ⟨distinct, numbered⟩
  · rintro ⟨distinct, numbered⟩
    refine ⟨⟨unique.1, distinct, ?_⟩, ⟨unique.2.1, filed.clients, ?_⟩, numbered⟩
    · intro stored before key after same
      obtain ⟨row, member, rfl⟩ := List.mem_map.mp before
      exact unseen key after row member same
    · intro stored before client after same
      obtain ⟨row, member, rfl⟩ := List.mem_map.mp before
      obtain ⟨filing, added, rfl⟩ := List.mem_map.mp after
      obtain ⟨n, low, -, drawn⟩ := filed.clientOrderIds filing added
      exact unused.clientOrderId row member n low (same.trans drawn)

end Filed

namespace TradeExecutor

variable {executor : TradeExecutor} {broker : LongbridgeBroker} {proposal : LLMTradeProposal}
  {accountId traceId signalId : String} {orderType : OrderType} {price : Option Decimal}
  {w w' : World}

section Programs

variable {child : Option (String × BrokerOrderResult)}
  (routed : executor.broker = Longbridge.adapter broker)
  (safe : submissionSafetyError broker = none)

include routed safe

theorem submitOrder_filed {fields : IntentFields} {serial : Nat} {order : Order}
    {quote : MarketQuote} {result : BrokerOrderResult} {mid : World}
    (submitted : executor.broker.submitOrder traceId order.orderId quote mid = .ok result w')
    (approved : Approved fields serial order) (appended : Appended order w mid)
    (first : w.serial ≤ serial) (last : serial + 2 ≤ mid.serial) :
    Filed broker [⟨order, broker.gateway.submitOutcome w.gatewayCalls.length⟩] w w' ∧
      (result.accepted ↔ ∃ brokerOrderId,
        broker.gateway.submitOutcome w.gatewayCalls.length = .accepted brokerOrderId) := by
  obtain ⟨_, _, run, sent, accepted⟩ :=
    submitOrder_sent traceId appended.stored approved.status safe
  rw [routed, show (Longbridge.adapter broker).submitOrder traceId order.orderId quote mid =
    Longbridge.submitOrder broker traceId order.orderId mid from rfl, run] at submitted
  cases submitted
  rw [appended.gatewayCalls] at sent accepted
  exact ⟨.one approved appended sent rfl first last, accepted⟩

theorem submitOrder_answers (traceId : String) (quote : MarketQuote) {order : Order} {mid : World}
    (appended : Appended order w mid) (approved : order.status = .riskApproved) :
    ∃ result w', executor.broker.submitOrder traceId order.orderId quote mid = .ok result w' := by
  obtain ⟨result, w', run, -, -⟩ :=
    submitOrder_sent traceId appended.stored approved safe
  rw [routed]
  exact ⟨result, w', run⟩

theorem submitChild_filed
    (run : executor.submitChild traceId accountId proposal orderType price signalId w =
      .ok child w')
    (unawaited : ∀ fields : IntentFields, fields.sourceSignalId = some signalId →
      Unawaited w.db fields) :
    ∃ filings, Filed broker filings w w' ∧
      filings.map Filing.key =
        (childTrigger proposal price).map (executor.childKey proposal accountId signalId) ∧
      ∀ trigger ∈ childTrigger proposal price, 0 < trigger.value := by
  obtain ⟨unasked, -, rfl⟩ | ⟨trigger, order, positive, mid, result, asked, -, approved, appended,
    serial, sent⟩ := submitChild_ok run fun trigger _ => unawaited _ rfl
  · rw [unasked]
    exact ⟨[], .none _, rfl, by simp⟩
  · have filed := (submitOrder_filed routed safe sent approved appended le_rfl serial.ge).1
    rw [asked]
    refine ⟨_, filed, ?_, by simpa using positive⟩
    simp only [List.map_cons, List.map_nil, Filing.key, approved.idempotencyKey]
    rfl

theorem submitChild_returns (w : World) (traceId accountId : String) (orderType : OrderType)
    (positive : ∀ trigger ∈ childTrigger proposal price, 0 < trigger.value)
    (unseen : ∀ trigger ∈ childTrigger proposal price, ∀ row ∈ w.db.orders.rows,
      row.idempotencyKey ≠ executor.childKey proposal accountId signalId trigger)
    (unused : UnusedIds w) (unique : w.db.UniqueColumns) :
    ∃ child w', executor.submitChild traceId accountId proposal orderType price signalId w =
      .ok child w' := by
  unfold submitChild
  cases given : truthy price with
  | none => exact ⟨_, _, rfl⟩
  | some trigger =>
    simp only
    split
    next buy =>
      have asked : trigger ∈ childTrigger proposal price := by simp [childTrigger, buy, given]
      have large : 0 < proposal.quantity.value := proposal.trade_quantity (by simp [buy])
      have fresh : Unseen w.db (executor.bracketFields accountId proposal.symbol
        proposal.quantity orderType trigger signalId) := unseen trigger asked
      obtain ⟨child, w', submitted⟩ := submitBracketOrder_returns w traceId
        (positive trigger asked) large fresh
        (fun row member => unused.orderId row member _ le_rfl) (fun _ => unique)
        fun order mid appended approved _ =>
          submitOrder_answers routed safe traceId _ appended approved.status
      exact returns_bind submitted ⟨_, _, rfl⟩
    next => exact ⟨_, _, rfl⟩

theorem submitChildren_filed {decision : HumanApprovalDecision} {threadId : String}
    {placed : PlacedOrder} {result : BrokerOrderResult} {completed : LLMTradingRunResult}
    (run : executor.submitChildren proposal decision accountId traceId threadId placed result w =
      .ok completed w')
    (unawaited : ∀ fields : IntentFields, fields.sourceSignalId = some placed.signalId →
      Unawaited w.db fields) :
    ∃ filings, Filed broker filings w w' ∧
      filings.map Filing.key =
        (childTriggers proposal).map (executor.childKey proposal accountId placed.signalId) ∧
      ∀ trigger ∈ childTriggers proposal, 0 < trigger.value := by
  obtain ⟨_, _, _, _, _, takeProfit, stopLoss, rfl, -⟩ := submitChildren_ok run
  obtain ⟨filings, filed, keys, positive⟩ := submitChild_filed routed safe takeProfit unawaited
  obtain ⟨more, filed', keys', positive'⟩ := submitChild_filed routed safe stopLoss
    fun fields signal => filed.unawaited (unawaited fields signal)
  refine ⟨filings ++ more, { filed.trans filed' with }, ?_, ?_⟩
  · rw [List.map_append, keys, keys', childTriggers, List.map_append]
  · intro trigger member
    exact (List.mem_append.mp member).elim (positive trigger) (positive' trigger)

theorem submitChildren_returns (w : World) (decision : HumanApprovalDecision)
    (accountId traceId threadId : String) (placed : PlacedOrder) (result : BrokerOrderResult)
    (positive : ∀ trigger ∈ childTriggers proposal, 0 < trigger.value)
    (distinct : ((childTriggers proposal).map
      (executor.childKey proposal accountId placed.signalId)).Nodup)
    (numbered : (w.db.orders.rows.filterMap Order.brokerOrderId ++
      (answers broker w (childTriggers proposal).length).filterMap
        SubmitOutcome.brokerOrderId).Nodup)
    (unseen : ∀ trigger ∈ childTriggers proposal, ∀ row ∈ w.db.orders.rows,
      row.idempotencyKey ≠ executor.childKey proposal accountId placed.signalId trigger)
    (unawaited : ∀ fields : IntentFields, fields.sourceSignalId = some placed.signalId →
      Unawaited w.db fields)
    (unused : UnusedIds w) (unique : w.db.UniqueColumns)
    (stored : ∃ order, w.db.orders.find? placed.orderId = some order) :
    ∃ completed w', executor.submitChildren proposal decision accountId traceId threadId placed
      result w = .ok completed w' := by
  unfold childTriggers at positive distinct numbered unseen
  rw [List.map_append, List.nodup_append] at distinct
  obtain ⟨takeProfit, mid, first⟩ := submitChild_returns routed safe w traceId accountId
    .limitIfTouched (fun trigger member => positive trigger (List.mem_append_left _ member))
    (fun trigger member => unseen trigger (List.mem_append_left _ member)) unused unique
  obtain ⟨filings, filed, keys, -⟩ := submitChild_filed routed safe first unawaited
  have counted : filings.length = (childTrigger proposal proposal.takeProfitPrice).length := by
    simpa using congrArg List.length keys
  have between : mid.db.UniqueColumns := by
    rw [filed.uniqueColumns unused unique ?_, keys, counted]
    · refine ⟨distinct.1, numbered.sublist (List.Sublist.append_left ?_ _)⟩
      rw [List.length_append, answers, answers, ← List.range'_append_1, List.map_append]
      exact (List.sublist_append_left _ _).filterMap _
    · rw [keys]
      intro key member
      obtain ⟨trigger, asked, rfl⟩ := List.mem_map.mp member
      exact unseen trigger (List.mem_append_left _ asked)
  have others : ∀ trigger ∈ childTrigger proposal proposal.stopLossPrice,
      executor.childKey proposal accountId placed.signalId trigger ∉ filings.map Filing.key := by
    rw [keys]
    intro trigger member earlier
    exact distinct.2.2 _ earlier _ (List.mem_map_of_mem member) rfl
  obtain ⟨stopLoss, last, second⟩ := submitChild_returns routed safe mid traceId accountId
    .stopLimit (fun trigger member => positive trigger (List.mem_append_right _ member))
    (fun trigger member => filed.unseen (unseen trigger (List.mem_append_right _ member))
      (others trigger member))
    (filed.unusedIds unused) between
  obtain ⟨more, filed', -, -⟩ := submitChild_filed routed safe second
    fun fields signal => filed.unawaited (unawaited fields signal)
  obtain ⟨order, found⟩ := stored
  have kept : last.db.orders.find? placed.orderId = some order := by
    rw [Table.find?_eq_some, (filed.trans filed').rows]
    exact ⟨List.mem_append_left _ (Table.find?_mem found), Table.find?_key found⟩
  exact returns_bind first (returns_bind second (returns_then (modify_ok.mpr rfl)
    (returns_bind (getOrder_ok.mpr ⟨kept, rfl⟩) ⟨_, _, rfl⟩)))

end Programs

end TradeExecutor

end SynapseYield
