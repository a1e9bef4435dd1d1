import SynapseYield.Broker.LongbridgeSteps
import SynapseYield.Harness.Execution

set_option autoImplicit false

namespace SynapseYield

open Shared OrderService

variable {w w' : World}

def traded (status : OrderStatus) : Prop := status = .filled ∨ status = .partiallyFilled

instance (status : OrderStatus) : Decidable (traded status) := by
  unfold traded
  infer_instance

structure Executed (order : Order) : Prop where
  filled : order.status = .filled →
    order.filledQuantity = order.quantity.value ∧ order.avgFillPrice ≠ none
  partially : order.status = .partiallyFilled →
    0 < order.filledQuantity ∧ order.filledQuantity < order.quantity.value

instance (order : Order) : Decidable (Executed order) :=
  decidable_of_iff
    ((order.status = .filled →
        order.filledQuantity = order.quantity.value ∧ order.avgFillPrice ≠ none) ∧
      (order.status = .partiallyFilled →
        0 < order.filledQuantity ∧ order.filledQuantity < order.quantity.value))
    ⟨fun ⟨filled, partially⟩ => ⟨filled, partially⟩,
      fun executed => ⟨executed.filled, executed.partially⟩⟩

abbrev AllExecuted (w : World) : Prop := ∀ order ∈ w.db.orders.rows, Executed order

theorem Executed.of_untraded {order : Order} (untraded : ¬ traded order.status) :
    Executed order where
  filled := fun filled => absurd (.inl filled) untraded
  partially := fun partially => absurd (.inr partially) untraded

theorem AllExecuted.same (executed : AllExecuted w) (orders : w'.db.orders = w.db.orders) :
    AllExecuted w' := by
  rwa [AllExecuted, orders]

theorem AllExecuted.modified {orderId : String} {update : RowUpdate String Order Order.orderId}
    (executed : AllExecuted w) (orders : w'.db.orders = w.db.orders.modify orderId update)
    (each : ∀ row, Executed row → Executed (update.apply row)) : AllExecuted w' := by
  intro order member
  rw [orders, Table.mem_modify] at member
  obtain ⟨old, found, rfl⟩ | ⟨kept, -⟩ := member
  · exact each old (executed old (Table.find?_mem found))
  · exact executed order kept

theorem AllExecuted.inserted {order : Order} (executed : AllExecuted w)
    (inserted : w.db.orders.insert? order = some w'.db.orders) (fresh : Executed order) :
    AllExecuted w' := by
  intro row member
  rw [((Table.insert?_eq_some _ _ _).mp inserted).2] at member
  rcases List.mem_append.mp member with old | new
  · exact executed row old
  · rwa [List.mem_singleton.mp new]

section OrderService

theorem createOrder_executed (traceId : String) (intent : OrderIntent) :
    Preserves AllExecuted (createOrderFromIntent traceId intent) := by
  intro w orderId w' run executed
  obtain ⟨_, -, ⟨_, _, -, -, rfl⟩ | ⟨orders, _, -, inserted, -, rfl⟩⟩ := createOrder_ok run
  · exact executed.same rfl
  · exact executed.inserted inserted (.of_untraded (by simp [newOrder, traded]))

theorem runRiskCheck_executed (config : RiskConfig) (traceId orderId : String)
    (quote : Option MarketQuote) (marketIsOpen : Option Bool) :
    Preserves AllExecuted (runRiskCheck config traceId orderId quote marketIsOpen) := by
  intro w decision w' run executed
  obtain ⟨_, approved, _, _, -, -, -, -, rfl⟩ := runRiskCheck_ok run
  exact executed.modified rfl fun row _ =>
    .of_untraded (by cases approved <;> simp [verdict, traded])

theorem transitionOrder_executed (traceId orderId : String) {target : OrderStatus}
    (eventType : String) (untraded : ¬ traded target) :
    Preserves AllExecuted (transitionOrder traceId orderId target eventType) := by
  intro w u w' run executed
  obtain ⟨_, -, -, rfl⟩ := transitionOrder_ok.mp run
  exact executed.modified rfl fun row _ => .of_untraded untraded

end OrderService

section LocalSim

open LocalSim

theorem Settled.executed {config : LocalSimConfig} {order : Order} {price : ℚ} {db : Database}
    {w' : World} (settled : Settled config order price db w'.db)
    (executed : AllExecuted { w' with db }) : AllExecuted w' :=
  executed.modified settled.orders fun row _ =>
    { filled := fun _ => ⟨rfl, by simp⟩
      partially := nofun }

theorem localSim_submitOrder_executed (config : LocalSimConfig) (traceId orderId : String)
    (quote : MarketQuote) :
    Preserves AllExecuted (LocalSim.submitOrder config traceId orderId quote) := by
  intro w result w' run executed
  obtain ⟨order, found, ⟨-, -, rfl⟩ | ⟨-, failed⟩ | ⟨-, mid, accepted, rest⟩⟩ := submitOrder_ok run
  · exact executed
  · obtain ⟨_, orders⟩ := failed.orders
    exact executed.modified orders fun row _ => .of_untraded (by simp [traded])
  · obtain ⟨_, orders⟩ := accepted.orders
    have resting : AllExecuted { w' with db := mid } :=
      executed.modified orders fun row _ => .of_untraded (by simp [traded])
    cases matched : fillPrice order quote with
    | none =>
      simp only [matched] at rest
      exact resting.same (by rw [rest])
    | some price =>
      simp only [matched] at rest
      obtain ⟨submitted, -, settled⟩ := rest
      exact Settled.executed settled resting

theorem fillOrders_executed (config : LocalSimConfig) (traceId : String) (quote : MarketQuote)
    (orderIds : List String) :
    Preserves AllExecuted (fillOrders config traceId quote orderIds) := by
  induction orderIds with
  | nil => exact .pure _
  | cons orderId rest ih =>
    refine .bind (.of_keeps (keeps_getOrder orderId)) fun order => ?_
    cases fillPrice order quote with
    | none => exact ih
    | some price =>
      refine .bind ?_ fun _ => .bind ih fun _ => .pure _
      intro w u w' run executed
      obtain ⟨_, -, settled⟩ := applyFill_ok run
      exact Settled.executed settled executed

theorem processQuote_executed (config : LocalSimConfig) (rowOrder : RowOrder) (traceId : String)
    (quote : MarketQuote) :
    Preserves AllExecuted (LocalSim.processQuote config rowOrder traceId quote) :=
  .bind .get fun _ => fillOrders_executed _ _ _ _

theorem localSim_cancelOrder_executed (config : LocalSimConfig) (traceId orderId : String) :
    Preserves AllExecuted (LocalSim.cancelOrder config traceId orderId) := by
  intro w result w' run executed
  obtain rfl | ⟨order, -, cancelled⟩ := cancelOrder_ok run
  · exact executed
  · exact executed.modified cancelled.orders fun row _ => .of_untraded (by simp [traded])

end LocalSim

section Longbridge

open Longbridge

def NoFill (broker : LongbridgeBroker) (db : Database) (payload : Payload) : Prop :=
  ∀ order target, pushMove broker db payload = some (order, target) →
    target ∈ allowedOrderTransitions order.status → ¬ traded target

theorem Step.executed {broker : LongbridgeBroker} {operation : Operation}
    (step : Step broker operation w w')
    (unfilled : ∀ payload traceId, operation = .handleOrderEvent broker payload traceId →
      NoFill broker w.db payload)
    (executed : AllExecuted w) : AllExecuted w' := by
  cases step with
  | quiet orders => exact executed.same orders
  | sent order outcome stored approved safe answer =>
    exact executed.modified answer.orders fun row _ =>
      .of_untraded (by cases outcome <;> simp [answered, traded])
  | withdrawn order target stored live pending orders =>
    exact executed.modified orders fun row _ =>
      .of_untraded (by obtain rfl | rfl := pending <;> simp [restatus, traded])
  | pushed order target payload given traceId push move allowed orders =>
    exact executed.modified orders fun row _ =>
      .of_untraded (unfilled payload given push order target move allowed)

theorem longbridge_submitOrder_executed (broker : LongbridgeBroker) (traceId orderId : String) :
    Preserves AllExecuted (Longbridge.submitOrder broker traceId orderId) :=
  .of_keeps fun w executed =>
    Step.executed (submitOrder_step broker traceId orderId (.elapse 0) w) nofun executed

theorem longbridge_cancelOrder_executed (broker : LongbridgeBroker) (traceId orderId : String) :
    Preserves AllExecuted (Longbridge.cancelOrder broker traceId orderId) :=
  .of_keeps fun w executed =>
    Step.executed (cancelOrder_step broker traceId orderId (.elapse 0) w) nofun executed

end Longbridge

section TradeExecutor

theorem adapter_submitOrder_executed (broker : Broker) (traceId orderId : String)
    (quote : MarketQuote) :
    Preserves AllExecuted (broker.adapter.submitOrder traceId orderId quote) := by
  cases broker with
  | localSim config => exact localSim_submitOrder_executed config traceId orderId quote
  | longbridge broker => exact longbridge_submitOrder_executed broker traceId orderId

theorem adapter_cancelOrder_executed (broker : Broker) (traceId orderId : String) :
    Preserves AllExecuted (broker.adapter.cancelOrder traceId orderId) := by
  cases broker with
  | localSim config => exact localSim_cancelOrder_executed config traceId orderId
  | longbridge broker => exact longbridge_cancelOrder_executed broker traceId orderId

theorem newId_executed (idPrefix : String) : Preserves AllExecuted (newId idPrefix) := by
  intro w id w' run executed
  obtain ⟨-, rfl⟩ := newId_ok.mp run
  exact executed

theorem flush_executed : Preserves AllExecuted flush := by
  intro w u w' run executed
  obtain ⟨-, rfl⟩ := flush_ok.mp run
  exact executed

variable {executor : TradeExecutor} (submits : ∀ traceId orderId quote,
  Preserves AllExecuted (executor.broker.submitOrder traceId orderId quote))

theorem placeOrder_executed (proposal : LLMTradeProposal) (accountId traceId : String)
    (marketIsOpen : Option Bool) :
    Preserves AllExecuted (executor.placeOrder proposal accountId traceId marketIsOpen) := by
  refine .bind (newId_executed "sig") fun signalId =>
    .bind (.of_keeps (keeps_liftExcept _)) fun side => ?_
  refine .bind (.modified fun _ executed => executed) fun _ => .bind flush_executed fun _ => ?_
  refine .bind (.of_keeps (keeps_liftExcept _)) fun intent =>
    .bind (createOrder_executed _ _) fun orderId => ?_
  refine .bind (.of_keeps (keeps_liftExcept _)) fun quote =>
    .bind (runRiskCheck_executed _ _ _ _ _) fun _ => ?_
  exact .bind (.of_keeps (keeps_getOrder orderId)) fun _ => .ite (.throw _) (.pure _)

include submits

theorem submitChild_executed (traceId accountId : String) (proposal : LLMTradeProposal)
    (orderType : OrderType) (price : Option Decimal) (signalId : String) :
    Preserves AllExecuted
      (executor.submitChild traceId accountId proposal orderType price signalId) := by
  unfold TradeExecutor.submitChild
  cases TradeExecutor.truthy price with
  | none => exact .pure _
  | some trigger =>
    refine .ite (.bind ?_ fun _ => .pure _) (.pure _)
    refine .bind (.of_keeps (keeps_liftExcept _)) fun _ =>
      .bind (createOrder_executed _ _) fun _ => ?_
    refine .bind (transitionOrder_executed _ _ _ (by simp [traded])) fun _ => ?_
    exact .bind (.of_keeps (keeps_liftExcept _)) fun _ =>
      .bind (submits _ _ _) fun _ => .pure _

theorem doExecute_executed (proposal : LLMTradeProposal) (decision : HumanApprovalDecision)
    (accountId traceId threadId : String) (marketIsOpen : Option Bool) :
    Preserves AllExecuted
      (executor.doExecute proposal decision accountId traceId threadId marketIsOpen) := by
  refine .bind .get fun w => ?_
  cases executor.findExistingOrder w.db traceId proposal.symbol with
  | some existing => exact .pure _
  | none =>
    refine .bind (placeOrder_executed _ _ _ _) fun _ =>
      .bind (submits _ _ _) fun _ => .ite (.throw _) ?_
    refine .bind (submitChild_executed submits _ _ _ _ _ _) fun _ =>
      .bind (submitChild_executed submits _ _ _ _ _ _) fun _ => ?_
    refine .bind (.modified fun _ executed => executed) fun _ => ?_
    exact .bind (.of_keeps (keeps_getOrder _)) fun _ => .pure _

end TradeExecutor

section Runs

theorem transaction_executed {α : Type} {body : Exec α} (executed : AllExecuted w)
    (returns : ∀ result w', body w.opened = .ok result w' → AllExecuted w.opened → AllExecuted w') :
    AllExecuted (leaves (transaction body w)) := by
  cases run : transaction body w with
  | ok result w' =>
    obtain ⟨mid, inner, -, rfl⟩ := transaction_ok run
    exact returns result mid inner executed
  | error raised w' =>
    obtain ⟨mid, -, rfl⟩ := transaction_error run
    exact executed

-- The calls other than a push that fills an order; the last case is a caller that writes such
-- a status itself.
def Unfilling : Operation → World → Prop
  | .handleOrderEvent broker payload _, w => NoFill broker w.db payload
  | .transitionOrder _ _ target _, _ => ¬ traded target
  | _, _ => True

theorem perform_executed {operation : Operation} (unfilling : Unfilling operation w)
    (executed : AllExecuted w) : AllExecuted (perform operation w) := by
  cases operation with
  | createOrder =>
    exact transaction_executed executed ((createOrder_executed _ _).discarded w.opened)
  | runRiskCheck =>
    exact transaction_executed executed ((runRiskCheck_executed _ _ _ _ _).discarded w.opened)
  | transitionOrder =>
    exact transaction_executed executed (transitionOrder_executed _ _ _ unfilling w.opened)
  | recordEvent | enqueueEvent =>
    refine transaction_executed executed fun u mid run before => ?_
    obtain rfl := modify_ok.mp run
    exact before
  | submitOrder =>
    exact transaction_executed executed ((adapter_submitOrder_executed _ _ _ _).discarded w.opened)
  | processQuote =>
    exact transaction_executed executed ((processQuote_executed _ _ _ _).discarded w.opened)
  | cancelOrder =>
    exact transaction_executed executed ((adapter_cancelOrder_executed _ _ _).discarded w.opened)
  | handleOrderEvent broker payload traceId =>
    refine transaction_executed executed fun u mid run before => ?_
    have via : Longbridge.Via broker (.handleOrderEvent broker payload traceId) := .push _ _
    have step := via.step w.opened
    rw [run] at step
    refine Step.executed step ?_ before
    rintro _ _ ⟨⟩
    exact unfilling
  | execute broker executor proposal decision accountId traceId threadId marketIsOpen =>
    obtain ⟨resolvedThreadId, serial, -, run⟩ := TradeExecutor.execute_run
      { executor with broker := broker.adapter } proposal decision accountId traceId threadId
      marketIsOpen w
    dsimp only [perform]
    rw [run]
    exact transaction_executed (w := { w with serial }) executed
      (doExecute_executed (adapter_submitOrder_executed broker) _ _ _ _ _ _ _)
  | elapse => exact executed

theorem run_executed {start w : World} (run : Run Unfilling start w)
    (executed : AllExecuted start) : AllExecuted w :=
  run.keeps (fun _ _ => perform_executed) executed

def pushedFilled : World :=
  perform (.handleOrderEvent (Longbridge.paperAccount (.accepted "lb_0"))
      [("order_id", some "lb_0"), ("status", some "Filled")] (some "t"))
    Longbridge.submittedTen

theorem pushedFilled_run : Run (fun _ _ => True) (cashOnly 5000) pushedFilled := by
  apply Run.followed (.followed (.followed (.followed .refl _ trivial) _ trivial) _ trivial) _ trivial

theorem pushedFilled_unexecuted :
    Run (fun _ _ => True) (cashOnly 5000) pushedFilled ∧ AllExecuted (cashOnly 5000) ∧
      ¬ AllExecuted pushedFilled :=
  ⟨pushedFilled_run, by decide +kernel, by decide +kernel⟩

def simulatedFill : World :=
  perform (.submitOrder (.localSim {}) "t" "ord_0" (quoteAt 90)) Longbridge.approvedTen

theorem run_executed_simulated :
    AllExecuted simulatedFill ∧ simulatedFill.db.orders.rows.map Order.status = [.filled] :=
  ⟨run_executed (show Run Unfilling Longbridge.approvedTen simulatedFill from
    .followed .refl _ trivial) (by decide +kernel), by decide +kernel⟩

end Runs

end SynapseYield
