import SynapseYield.Harness.LocalExecution
import SynapseYield.Harness.LongbridgeExecution

set_option autoImplicit false

namespace SynapseYield

open Shared OrderService

-- What the lookup of an earlier order goes by.
def Order.origin (order : Order) : String × Option String := (order.orderId, order.sourceSignalId)

section Signals

variable {signals : List StrategySignal}

def Signalled (signals : List StrategySignal) (w : World) : Prop := w.db.strategySignals = signals

theorem signalled_newId (idPrefix : String) : Keeps (Signalled signals) (newId idPrefix) :=
  .bind_get fun _ same => same

theorem signalled_flush : Keeps (Signalled signals) flush := by
  refine .bind_get fun w same => ?_
  split
  next => exact same
  next => exact same

theorem signalled_addOrder (order : Order) : Keeps (Signalled signals) (addOrder order) := by
  refine .bind_get fun w same => ?_
  cases w.db.orders.insert? order with
  | some orders => exact same
  | none => exact same

theorem signalled_writes : Writes (fun x => Keeps (Signalled signals) x) :=
  writes_of_parts .pure .get (fun _ => .throw _) .bind signalled_newId signalled_flush signalled_addOrder
    fun strategySignals => .modified fun w same => (strategySignals w).trans same

theorem signalled_submitOrder (broker : Broker) (traceId orderId : String) (quote : MarketQuote) :
    Keeps (Signalled signals) (broker.adapter.submitOrder traceId orderId quote) := by
  cases broker with
  | localSim config => exact signalled_writes.localSim_submitOrder config traceId orderId quote
  | longbridge broker =>
    exact signalled_writes.longbridge_submitOrder (fun _ _ => .bind_get fun _ same => same) broker
      traceId orderId

end Signals

-- What a broker writes into the row of an order: its status, and perhaps a number.
structure Rewrites (number : Option String) (update : RowUpdate String Order Order.orderId) :
    Prop where
  intent : ∀ row, (update.apply row).toOrderIntent = row.toOrderIntent
  riskDecisionId : ∀ row, (update.apply row).riskDecisionId = row.riskDecisionId
  clientOrderId : ∀ row, (update.apply row).clientOrderId = row.clientOrderId
  idempotencyKey : ∀ row, (update.apply row).idempotencyKey = row.idempotencyKey
  brokerOrderId : ∀ row, (update.apply row).brokerOrderId = number.or row.brokerOrderId
  past : ∀ row, (update.apply row).status ≠ .created

namespace LocalSim

variable {config : LocalSimConfig} {traceId : String} {order : Order} {quote : MarketQuote}
  {result : BrokerOrderResult} {w w' : World}

theorem submitOrder_modified
    (run : submitOrder config traceId order.orderId quote w = .ok result w')
    (stored : w.db.orders.find? order.orderId = some order)
    (approved : order.status = .riskApproved) :
    ∃ number update, w'.db.orders = w.db.orders.modify order.orderId update ∧
      Rewrites number update ∧
      ((number = none ∧ result.accepted = false) ∨
        (result.accepted = true ∧ result.brokerOrderId = number ∧
          ∃ n, w.serial ≤ n ∧ n < w'.serial ∧ number = some (idText "ls_order" n))) := by
  simp only [submitOrder, bind_ok, getOrder_ok] at run
  obtain ⟨_, _, ⟨found, rfl⟩, rest⟩ := run
  obtain rfl := Option.some.inj (stored.symm.trans found)
  rw [if_neg (not_not.mpr approved)] at rest
  have failing : Rewrites none { apply := fun row : Order => { row with status := .failed } } :=
    ⟨fun _ => rfl, fun _ => rfl, fun _ => rfl, fun _ => rfl, fun _ => rfl, fun _ held => by cases held⟩
  split at rest
  next =>
    simp only [bind_ok, transitionOrder_ok, pure_ok] at rest
    obtain ⟨_, _, ⟨_, -, -, rfl⟩, rfl, rfl⟩ := rest
    exact ⟨none, _, rfl, failing, .inl ⟨rfl, rfl⟩⟩
  next =>
    obtain ⟨refusal, reservedWorld, reserving, rest⟩ := bind_ok.mp rest
    have kept : reservedWorld.db.orders = w.db.orders := by
      obtain ⟨-, rfl⟩ | ⟨-, _, -, -, same⟩ := reserveResources_ok reserving
      · rfl
      · exact same
    have drawn : w.serial ≤ reservedWorld.serial :=
      (Preserves.of_keeps ((Lifecycle.grown_lifecycle w).writes.reserveResources _ _ _ _) _ _ _
        reserving ⟨le_rfl, List.prefix_refl _⟩).serial
    cases refusal with
    | some message =>
      simp only [bind_ok, transitionOrder_ok, pure_ok] at rest
      obtain ⟨_, _, ⟨_, -, -, rfl⟩, rfl, rfl⟩ := rest
      rw [← kept]
      exact ⟨none, _, rfl, failing, .inl ⟨rfl, rfl⟩⟩
    | none =>
      simp only [recordBrokerEvent, addBrokerEvent, updateOrder, bind_ok, newId_ok,
        transitionOrder_ok, modify_ok, getOrder_ok, get_ok] at rest
      obtain ⟨brokerOrderId, _, ⟨rfl, rfl⟩, _, _, ⟨_, _, -, rfl⟩, _, _, rfl, _, _,
        ⟨_, _, -, rfl⟩, _, _, ⟨_, _, ⟨-, rfl⟩, _, _, ⟨rfl, rfl⟩, rfl⟩, rest⟩ := rest
      simp only [Table.modify_modify, kept] at rest
      refine ⟨some (idText "ls_order" reservedWorld.serial), ?_⟩
      cases matched : fillPrice order quote with
      | none =>
        simp only [matched, pure_ok] at rest
        obtain ⟨rfl, rfl⟩ := rest
        exact ⟨_, rfl, ⟨fun _ => rfl, fun _ => rfl, fun _ => rfl, fun _ => rfl, fun _ => rfl,
          fun _ held => by cases held⟩, .inr ⟨rfl, rfl, _, drawn, Nat.lt_succ_self _, rfl⟩⟩
      | some price =>
        simp only [matched, bind_ok, pure_ok] at rest
        obtain ⟨_, _, filling, rfl, rfl⟩ := rest
        obtain ⟨submitted, found', settled⟩ := applyFill_ok filling
        have named : submitted.orderId = order.orderId := Table.find?_key found'
        have orders := settled.orders
        rw [named, Table.modify_modify] at orders
        have later := (Preserves.of_keeps ((Lifecycle.grown_lifecycle _).writes.applyFill _ _ _ _) _
          _ _ filling ⟨le_rfl, List.prefix_refl _⟩).serial
        exact ⟨_, orders, ⟨fun _ => rfl, fun _ => rfl, fun _ => rfl, fun _ => rfl, fun _ => rfl,
          fun _ held => by cases held⟩, .inr ⟨rfl, rfl, _, drawn, later, rfl⟩⟩

end LocalSim

namespace TradeExecutor

variable {executor : TradeExecutor} {broker : Broker} {proposal : LLMTradeProposal}
  {accountId traceId signalId : String} {marketIsOpen : Option Bool} {order : Order}
  {quote : MarketQuote} {result : BrokerOrderResult} {w w' : World}

-- What a broker makes of an approved order it is given.
structure Handled (order : Order) (result : BrokerOrderResult) (w w' : World) : Prop where
  origins : w'.db.orders.rows.map Order.origin = w.db.orders.rows.map Order.origin
  others : ∀ row ∈ w.db.orders.rows, row.orderId ≠ order.orderId → row ∈ w'.db.orders.rows
  advanced : Advanced w.db w'.db
  numbered : result.accepted → ∃ row, w'.db.orders.find? order.orderId = some row ∧
    row.riskDecisionId = order.riskDecisionId ∧ row.brokerOrderId = result.brokerOrderId

theorem Handled.of_modified {number : Option String}
    {update : RowUpdate String Order Order.orderId}
    (stored : w.db.orders.find? order.orderId = some order)
    (orders : w'.db.orders = w.db.orders.modify order.orderId update)
    (rewrites : Rewrites number update)
    (numbered : result.accepted → result.brokerOrderId = number ∧ number.isSome) :
    Handled order result w w' where
  origins := by
    rw [orders]
    refine Table.map_modify _ _ _ _ fun row => ?_
    rw [Order.origin, Order.origin, update.keeps, rewrites.intent]
  others := by
    intro row member other
    rw [orders, Table.mem_modify]
    exact .inr ⟨member, other⟩
  advanced := .of_modified orders rewrites.past
  numbered := by
    intro accepted
    obtain ⟨same, given⟩ := numbered accepted
    refine ⟨update.apply order, ?_, rewrites.riskDecisionId order, ?_⟩
    · rw [orders, Table.find?_modify_self, stored, Option.map_some]
    · rw [rewrites.brokerOrderId, same, Option.or_of_isSome given]

theorem answered_rewrites (outcome : SubmitOutcome) :
    Rewrites outcome.brokerOrderId
      { apply := Longbridge.answered outcome, keeps := Longbridge.answered_orderId outcome } := by
  cases outcome <;>
    exact ⟨fun _ => rfl, fun _ => rfl, fun _ => rfl, fun _ => rfl, fun _ => rfl, fun _ held => by cases held⟩

theorem Handled.of_refused (orders : w'.db.orders = w.db.orders)
    (refused : result.accepted = false) : Handled order result w w' where
  origins := by rw [orders]
  others := fun row member _ => orders ▸ member
  advanced := fun row member _ => orders ▸ member
  numbered := by simp [refused]

theorem submitOrder_handled
    (run : broker.adapter.submitOrder traceId order.orderId quote w = .ok result w')
    (stored : w.db.orders.find? order.orderId = some order)
    (approved : order.status = .riskApproved) : Handled order result w w' := by
  cases broker with
  | localSim config =>
    obtain ⟨number, update, orders, rewrites, given⟩ :=
      LocalSim.submitOrder_modified run stored approved
    refine .of_modified stored orders rewrites fun accepted => ?_
    obtain ⟨-, refused⟩ | ⟨-, same, _, -, -, drawn⟩ := given
    · rw [refused] at accepted
      cases accepted
    · exact ⟨same, by rw [drawn]; rfl⟩
  | longbridge broker =>
    cases safe : Longbridge.submissionSafetyError broker with
    | some safetyError =>
      obtain ⟨_, _, blocked, refused, -, orders⟩ :=
        Longbridge.submitOrder_blocked traceId stored approved safe
      cases blocked.symm.trans run
      exact .of_refused orders refused
    | none =>
      obtain ⟨_, _, _, sent, accepted, numbered⟩ :=
        Longbridge.submitOrder_run traceId stored approved safe
      cases sent.symm.trans run
      refine .of_modified stored rfl (answered_rewrites _) fun taken => ?_
      obtain ⟨brokerOrderId, outcome⟩ := accepted.mp taken
      rw [(numbered brokerOrderId).mpr outcome, outcome]
      exact ⟨rfl, rfl⟩

theorem runRiskCheck_decided {config : RiskConfig} {orderId : String}
    {quote : Option MarketQuote} {decision : RiskDecision} {checked : Order}
    (run : runRiskCheck config traceId orderId quote marketIsOpen w = .ok decision w')
    (stored : w'.db.orders.find? orderId = some checked) :
    checked.riskDecisionId = some decision.riskDecisionId := by
  simp only [runRiskCheck, addRiskDecision, updateOrder, bind_ok, getOrder_ok, get_ok, newId_ok,
    modify_ok, flush_ok] at run
  obtain ⟨order, _, ⟨found, rfl⟩, _, _, ⟨rfl, rfl⟩, _, _, ⟨rfl, rfl⟩, _, _, rfl, _, _,
    ⟨-, rfl⟩, _, _, rfl, _, decided, moved, rest⟩ := run
  have kept : w'.db.orders = decided.db.orders ∧
      decision.riskDecisionId = idText "risk" w.serial := by
    split at rest
    next =>
      simp only [bind_ok, enqueueEvent_ok, pure_ok] at rest
      obtain ⟨_, _, rfl, rfl, rfl⟩ := rest
      exact ⟨rfl, rfl⟩
    next =>
      obtain ⟨rfl, rfl⟩ := pure_ok.mp rest
      exact ⟨rfl, rfl⟩
  obtain ⟨_, -, -, rfl⟩ := transitionOrder_ok.mp moved
  rw [kept.1, Table.modify_modify, Table.find?_modify_self, found, Option.map_some,
    Option.some.injEq] at stored
  rw [← stored, kept.2]

theorem placeOrder_placed {placed : PlacedOrder}
    (run : executor.placeOrder proposal accountId traceId marketIsOpen w = .ok placed w') :
    ∃ side, w'.db.strategySignals = w.db.strategySignals ++
        [executor.buildSignal placed.signalId traceId proposal side] ∧
      ∀ order, w'.db.orders.find? placed.orderId = some order →
        order.riskDecisionId = some placed.riskDecisionId := by
  simp only [placeOrder, addStrategySignal, bind_ok, newId_ok, liftExcept_ok, modify_ok, flush_ok]
    at run
  obtain ⟨_, _, ⟨rfl, rfl⟩, side, _, ⟨-, rfl⟩, _, _, rfl, _, _, ⟨-, rfl⟩, intent, _,
    ⟨-, rfl⟩, orderId, mid, created, quote, _, ⟨-, rfl⟩, decision, _, checking, checked, _,
    gotten, rest⟩ := run
  obtain ⟨stored, rfl⟩ := getOrder_ok.mp gotten
  split at rest
  next => exact absurd rest throw_ok
  next =>
    obtain ⟨rfl, rfl⟩ := pure_ok.mp rest
    refine ⟨side, ?_, fun order found => runRiskCheck_decided checking found⟩
    have signalled := Preserves.of_keeps (signalled_writes.createOrderFromIntent traceId intent) _ _ _
      created rfl
    exact Preserves.of_keeps (signalled_writes.runRiskCheck _ _ _ _ _) _ _ _ checking signalled

-- Orders of one signal were added after the ones that were there.
structure Grew (signalId : String) (orderIds : List String) (w w' : World) : Prop where
  origins : w'.db.orders.rows.map Order.origin =
    w.db.orders.rows.map Order.origin ++ orderIds.map fun orderId => (orderId, some signalId)
  kept : ∀ row ∈ w.db.orders.rows, row ∈ w'.db.orders.rows
  advanced : Advanced w.db w'.db

theorem Grew.none (signalId : String) (w : World) : Grew signalId [] w w where
  origins := by simp
  kept := fun _ member => member
  advanced := fun _ member _ => member

theorem Grew.trans {orderIds more : List String} {w'' : World}
    (first : Grew signalId orderIds w w') (second : Grew signalId more w' w'') :
    Grew signalId (orderIds ++ more) w w'' where
  origins := by rw [second.origins, first.origins, List.map_append, List.append_assoc]
  kept := fun row member => second.kept row (first.kept row member)
  advanced := first.advanced.trans second.advanced

theorem Handled.grew {mid : World} (handled : Handled order result mid w')
    (appended : Appended order w mid) (approved : order.status = .riskApproved)
    (signal : order.sourceSignalId = some signalId) : Grew signalId [order.orderId] w w' where
  origins := by
    rw [handled.origins, appended.rows, List.map_append, List.map_singleton, List.map_singleton,
      Order.origin, signal]
  kept := by
    intro row member
    have unique := mid.db.orders.unique
    rw [appended.rows, List.map_append, List.nodup_append] at unique
    refine handled.others row ?_ ?_
    · rw [appended.rows]
      exact List.mem_append_left _ member
    · exact unique.2.2 _ (List.mem_map_of_mem member) _ (by simp)
  advanced := (appended.advanced approved).trans handled.advanced

theorem submitChild_grew {orderType : OrderType} {price : Option Decimal}
    {child : Option (String × BrokerOrderResult)} (routed : executor.broker = broker.adapter)
    (run : executor.submitChild traceId accountId proposal orderType price signalId w =
      .ok child w')
    (unawaited : ∀ fields : IntentFields, fields.sourceSignalId = some signalId →
      Unawaited w.db fields) :
    ∃ orderIds, orderIds.length = (childTrigger proposal price).length ∧
      Grew signalId orderIds w w' := by
  obtain ⟨unasked, -, rfl⟩ | ⟨trigger, order, positive, mid, result, asked, -, approved, appended,
    -, sent⟩ := submitChild_ok run fun trigger _ => unawaited _ rfl
  · exact ⟨[], by rw [unasked, List.length_nil, List.length_nil], .none signalId _⟩
  · rw [routed] at sent
    have handled := submitOrder_handled sent appended.stored approved.status
    have signal : order.sourceSignalId = some signalId :=
      congrArg IntentFields.sourceSignalId approved.made
    exact ⟨[order.orderId], by rw [asked]; rfl, handled.grew appended approved.status signal⟩

-- What the first call of a trace leaves for the lookup of the later ones.
structure HandedOver (completed : LLMTradingRunResult) (signal : StrategySignal)
    (children : List String) (w w' : World) : Prop where
  origins : w'.db.orders.rows.map Order.origin = w.db.orders.rows.map Order.origin ++
    (completed.orderId :: children).map fun orderId => (orderId, some signal.signalId)
  strategySignals : w'.db.strategySignals = w.db.strategySignals ++ [signal]
  main : ∃ row ∈ w'.db.orders.rows, row.orderId = completed.orderId ∧
    row.riskDecisionId = completed.riskDecisionId ∧ row.brokerOrderId = completed.brokerOrderId

theorem submitPlaced_handedOver {decision : HumanApprovalDecision} {threadId : String}
    {placed : PlacedOrder} {mid : World} {completed : LLMTradingRunResult}
    (routed : executor.broker = broker.adapter) (fresh : FreshIds w)
    (placing : executor.placeOrder proposal accountId traceId marketIsOpen w = .ok placed mid)
    (submitting : executor.submitPlaced proposal decision accountId traceId threadId placed mid =
      .ok completed w') :
    ∃ side children, children.length = (childTriggers proposal).length ∧
      HandedOver completed (executor.buildSignal (idText "sig" w.serial) traceId proposal side)
        children w w' := by
  obtain ⟨side, order, -, -, drawn, orderId, approved, appended, -⟩ := placeOrder_ok fresh placing
  obtain ⟨side', signals, decided⟩ := placeOrder_placed placing
  obtain ⟨result, sent, submitted, taken, submitChildren⟩ := submitPlaced_ok submitting
  obtain ⟨takeProfit, between, stopLoss, last, auditLogs, first, second, rfl, main, decision', number,
    -, -⟩ := submitChildren_ok submitChildren
  rw [routed, orderId] at submitted
  have handled := submitOrder_handled submitted appended.stored approved.status
  have signal : order.sourceSignalId = some placed.signalId :=
    congrArg IntentFields.sourceSignalId approved.made
  have placedRow := handled.grew appended approved.status signal
  have unawaited : ∀ fields : IntentFields, fields.sourceSignalId = some placed.signalId →
      Unawaited sent.db fields := by
    intro fields named
    refine placedRow.advanced.unawaited fun row member same => ?_
    exact absurd same (fresh.signalId fields _ le_rfl (drawn ▸ named) row member)
  obtain ⟨profitIds, profits, firstGrew⟩ := submitChild_grew routed first unawaited
  obtain ⟨lossIds, losses, secondGrew⟩ := submitChild_grew routed second fun fields named =>
    firstGrew.advanced.unawaited (unawaited fields named)
  have whole := placedRow.trans (firstGrew.trans secondGrew)
  refine ⟨side', profitIds ++ lossIds, ?_, ?_, ?_, ?_⟩
  · rw [childTriggers, List.length_append, List.length_append, profits, losses]
  · rw [main, orderId, ← drawn]
    exact whole.origins
  · rw [← drawn]
    refine Preserves.of_keeps (signalled_writes.submitPlaced (fun traceId orderId quote => ?_)
      (fun _ => .throw _) proposal decision accountId traceId threadId placed) _ _ _ submitting signals
    rw [routed]
    exact signalled_submitOrder broker traceId orderId quote
  · obtain ⟨row, found, sameDecision, sameNumber⟩ := handled.numbered taken
    have decidedOn := decided order (by rw [orderId]; exact appended.stored)
    refine ⟨row, secondGrew.kept row (firstGrew.kept row (Table.find?_mem found)), ?_, ?_, ?_⟩
    · rw [main, orderId, Table.find?_key found]
    · rw [sameDecision, decidedOn, decision']
    · rw [sameNumber, number]

end TradeExecutor

end SynapseYield
