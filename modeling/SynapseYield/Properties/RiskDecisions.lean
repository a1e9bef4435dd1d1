import SynapseYield.Harness.Operations
import SynapseYield.Properties.LiveOrders
import SynapseYield.Risk.Rules

set_option autoImplicit false

namespace SynapseYield.OrderService

open Shared

variable {config : RiskConfig} {traceId orderId : String} {quote : Option MarketQuote}
  {marketIsOpen : Option Bool} {w : World} {order : Order}

-- The world in which run_risk_check consults the state machine.
def rewired (orderId : String) (decision : RiskDecision) (w : World) : World :=
  { w with
    db := { w.db with
      riskDecisions := w.db.riskDecisions ++ [decision]
      orders := w.db.orders.modify orderId
        { apply := fun row => { row with riskDecisionId := some (idText "risk" w.serial) } } }
    unflushed := []
    serial := w.serial + 1 }

theorem transitionOrder_refused (traceId eventType : String) {target : OrderStatus}
    (found : w.db.orders.find? orderId = some order)
    (refused : target ∉ allowedOrderTransitions order.status) :
    transitionOrder traceId orderId target eventType w =
      .error (.invalidOrderTransition order.status target) w := by
  rw [transitionOrder, bind_of_ok (getOrder_ok.mpr ⟨found, rfl⟩), assertOrderTransition,
    if_neg refused]
  rfl

def riskResult (config : RiskConfig) (orderId : String) (order : Order)
    (quote : Option MarketQuote) (marketIsOpen : Option Bool) (w : World) : RiskCheckResult :=
  RiskEngine.check config w.db w.now (riskIntent order) (some orderId) quote marketIsOpen

def storedDecision (traceId : String) (order : Order) (result : RiskCheckResult) (w : World) :
    RiskDecision :=
  { riskDecisionId := idText "risk" w.serial, traceId, signalId := order.sourceSignalId
    decision := if result.approved then .approved else .rejected
    reasonCode := result.reasonCode, message := result.message
    checkedRules := result.checkedRules, inputSnapshot := result.inputSnapshot }

theorem runRiskCheck_run (config : RiskConfig) (traceId : String) (quote : Option MarketQuote)
    (marketIsOpen : Option Bool) (found : w.db.orders.find? orderId = some order)
    (unique : w.db.UniqueColumns) :
    let result := riskResult config orderId order quote marketIsOpen w
    let decision := storedDecision traceId order result w
    runRiskCheck config traceId orderId quote marketIsOpen w = (do
      transitionOrder traceId orderId (verdict result.approved) "RISK_CHECK_COMPLETED"
      if result.approved then enqueueEvent traceId "ORDER_READY_TO_SUBMIT" "ORDER" orderId
      else pure ()
      pure decision) (rewired orderId decision w) := by
  have flushed (mid : World) (same : mid.db.orders = w.db.orders) :
      flush mid = .ok () { mid with unflushed := [] } :=
    flush_ok.mpr ⟨by rwa [Database.UniqueColumns, same], rfl⟩
  rw [runRiskCheck, bind_of_ok (getOrder_ok.mpr ⟨found, rfl⟩), bind_of_ok (get_ok.mpr ⟨rfl, rfl⟩),
    bind_of_ok (newId_ok.mpr ⟨rfl, rfl⟩), addRiskDecision,
    bind_of_ok (modify_ok (u := ⟨⟩).mpr rfl)]
  refine (bind_of_ok (flushed _ ?_)).trans ?_
  · rfl
  · rfl

theorem runRiskCheck_broken (config : RiskConfig) (traceId : String) (quote : Option MarketQuote)
    (marketIsOpen : Option Bool) (found : w.db.orders.find? orderId = some order)
    (broken : ¬ w.db.UniqueColumns) :
    ∃ w', runRiskCheck config traceId orderId quote marketIsOpen w =
      .error (.integrityError "orders") w' := by
  rw [runRiskCheck, bind_of_ok (getOrder_ok.mpr ⟨found, rfl⟩), bind_of_ok (get_ok.mpr ⟨rfl, rfl⟩),
    bind_of_ok (newId_ok.mpr ⟨rfl, rfl⟩), addRiskDecision,
    bind_of_ok (modify_ok (u := ⟨⟩).mpr rfl)]
  have refused (mid : World) (same : mid.db.orders = w.db.orders) :
      flush mid = .error (.integrityError "orders") mid := by
    rw [flush, bind_of_ok (get_ok.mpr ⟨rfl, rfl⟩), if_neg (by rwa [Database.UniqueColumns, same])]
    rfl
  refine ⟨_, bind_of_error (refused _ ?_)⟩
  rfl

def RaisesUnchanged (config : RiskConfig) (traceId orderId : String) (quote : Option MarketQuote)
    (marketIsOpen : Option Bool) (w : World) : Prop :=
  ∀ current target w', runRiskCheck config traceId orderId quote marketIsOpen w =
      .error (.invalidOrderTransition current target) w' →
    w'.db.orders.find? orderId = w.db.orders.find? orderId

theorem raisesUnchanged_iff (config : RiskConfig) (traceId : String) (quote : Option MarketQuote)
    (marketIsOpen : Option Bool) (found : w.db.orders.find? orderId = some order)
    (fresh : order.riskDecisionId ≠ some (idText "risk" w.serial)) :
    RaisesUnchanged config traceId orderId quote marketIsOpen w ↔
      order.status = .created ∨ ¬ w.db.UniqueColumns := by
  by_cases unique : w.db.UniqueColumns
  · have run := runRiskCheck_run config traceId quote marketIsOpen found unique
    dsimp only at run
    generalize riskResult config orderId order quote marketIsOpen w = result at run
    have stored (decision : RiskDecision) : (rewired orderId decision w).db.orders.find? orderId =
        some { order with riskDecisionId := some (idText "risk" w.serial) } :=
      (Table.find?_modify_self _ _ _).trans (congrArg _ found)
    rw [or_iff_left (not_not.mpr unique)]
    constructor
    · intro unchanged
      by_contra late
      have forbidden : verdict result.approved ∉ allowedOrderTransitions order.status :=
        fun allowed => late (created_of_verdict allowed)
      have refused (decision : RiskDecision) :=
        transitionOrder_refused traceId "RISK_CHECK_COMPLETED" (stored decision) forbidden
      have same := unchanged _ _ _ (run.trans (bind_of_error (refused _)))
      rw [stored, found, Option.some.injEq] at same
      exact fresh (congrArg Order.riskDecisionId same).symm
    · intro created current target w' failed
      have moved (decision : RiskDecision) : ∃ w', transitionOrder traceId orderId
          (verdict result.approved) "RISK_CHECK_COMPLETED" (rewired orderId decision w) = .ok () w' :=
        ⟨_, transitionOrder_ok.mpr ⟨_, stored decision, created ▸ verdict_allowed _, rfl⟩⟩
      obtain ⟨_, moved⟩ := moved (storedDecision traceId order result w)
      rw [run, bind_of_ok moved] at failed
      cases approved : result.approved <;> simp only [approved] at failed <;> cases failed
  · refine iff_of_true (fun current target w' failed => ?_) (.inr unique)
    obtain ⟨_, broken⟩ := runRiskCheck_broken config traceId quote marketIsOpen found unique
    rw [broken] at failed
    cases failed

def createdOrder : World := perform (.createOrder "t" (limitIntent .buy .limit 10 100)) (cashOnly 5000)

theorem raisesUnchanged_created :
    RaisesUnchanged {} "t" "ord_0" (some (quoteAt 100)) none createdOrder := by
  have stored : (createdOrder.db.orders.find? "ord_0").isSome := by decide +kernel
  have whole : (createdOrder.db.orders.find? "ord_0").all fun order =>
      order.status = .created ∧ order.riskDecisionId = none := by decide +kernel
  obtain ⟨order, found⟩ := Option.isSome_iff_exists.mp stored
  obtain ⟨created, unchecked⟩ : order.status = .created ∧ order.riskDecisionId = none := by
    simpa [found] using whole
  exact (raisesUnchanged_iff {} "t" (some (quoteAt 100)) none found (by simp [unchecked])).mpr
    (.inl created)

def approvedOrder : World :=
  perform (.runRiskCheck {} "t" "ord_0" (some (quoteAt 100)) none) createdOrder

theorem secondCheck_rewires :
    ¬ RaisesUnchanged {} "t" "ord_0" (some (quoteAt 100)) none approvedOrder := by
  intro unchanged
  have rewires : (leaves (runRiskCheck {} "t" "ord_0" (some (quoteAt 100)) none
      approvedOrder)).db.orders.find? "ord_0" ≠ approvedOrder.db.orders.find? "ord_0" := by
    decide +kernel
  have refused : (match runRiskCheck {} "t" "ord_0" (some (quoteAt 100)) none approvedOrder with
      | .error (.invalidOrderTransition _ _) _ => true
      | _ => false) = true := by decide +kernel
  split at refused
  next current target w' run =>
    rw [run] at rewires
    exact rewires (unchanged current target w' run)
  next => cases refused

end SynapseYield.OrderService

namespace SynapseYield.RiskEngine

open Shared

variable {config : RiskConfig} {db : Database} {now : Int} {intent : IntentFields}
  {excluded : Option String} {quote : Option MarketQuote} {marketIsOpen : Option Bool}

def executableStatuses : List OrderStatus :=
  [.submitting, .submitted, .partiallyFilled, .cancelPending, .reconciling]

-- Those of them that the rule on open orders leaves out.
def parkedStatuses : List OrderStatus := [.cancelPending, .reconciling]

-- No other order with the exposure of the intent is in one of the statuses.
def NoneOpen (db : Database) (intent : IntentFields) (excluded : Option String)
    (statuses : List OrderStatus) : Prop :=
  ∀ order ∈ db.orders.rows, sameExposure intent order → some order.orderId ≠ excluded →
    order.status ∉ statuses

instance (statuses : List OrderStatus) : Decidable (NoneOpen db intent excluded statuses) := by
  unfold NoneOpen
  infer_instance

theorem countOrders_zero {counted : Order → Bool} :
    countOrders db excluded counted = 0 ↔
      ∀ order ∈ db.orders.rows, counted order → excluded = some order.orderId := by
  simp [countOrders, List.countP_eq_zero]

theorem executable_cases {status : OrderStatus} (executable : status ∈ executableStatuses) :
    status ∈ openStatuses ∨ status ∈ parkedStatuses := by
  cases status <;> simp_all [executableStatuses, openStatuses, parkedStatuses]

theorem noneOpen_executable_iff
    (approved : (check config db now intent excluded quote marketIsOpen).approved) :
    NoneOpen db intent excluded executableStatuses ↔
      NoneOpen db intent excluded parkedStatuses := by
  have unopened := countOrders_zero.mp (check_approved approved).1.unopened
  constructor
  · intro none order member exposed other parked
    refine none order member exposed other ?_
    simp only [parkedStatuses, List.mem_cons, List.not_mem_nil, or_false] at parked
    obtain parked | parked := parked <;> simp [executableStatuses, parked]
  · intro unparked order member exposed other executable
    obtain opened | parked := executable_cases executable
    · refine other (unopened order member ?_).symm
      simp [exposed, opened]
    · exact unparked order member exposed other parked

-- A submit request whose result is unknown, and then two minutes without a call.
def reconcilingBuy : World :=
  perform (.elapse 120000000)
    (perform (.submitOrder (.longbridge TradeExecutor.timingOut) "t" "ord_0" (quoteAt 100))
      (perform (.runRiskCheck {} "t" "ord_0" none none)
        (perform (.createOrder "t" (limitIntent .buy .limit 10 100)) (cashOnly 5000))))

theorem reconcilingBuy_run : Run (fun _ _ => True) (cashOnly 5000) reconcilingBuy := by
  apply Run.followed (.followed (.followed (.followed .refl _ trivial) _ trivial) _ trivial) _ trivial

theorem reconcilingBuy_approved :
    Relation.ReflTransGen UnitOfWork (cashOnly 5000) reconcilingBuy ∧
      (check {} reconcilingBuy.db reconcilingBuy.now
        (limitIntent .buy .limit 10 100).toIntentFields none none none).approved ∧
      ¬ NoneOpen reconcilingBuy.db (limitIntent .buy .limit 10 100).toIntentFields none
        executableStatuses :=
  ⟨reconcilingBuy_run.works, by decide +kernel, by decide +kernel⟩

def filledBuy : World :=
  perform (.elapse 120000000)
    (perform (.submitOrder (.localSim {}) "t" "ord_0" (quoteAt 100))
      (perform (.runRiskCheck {} "t" "ord_0" none none)
        (perform (.createOrder "t" (limitIntent .buy .limit 10 100)) (cashOnly 5000))))

theorem noneOpen_executable_filled :
    filledBuy.db.orders.rows.map Order.status = [.filled] ∧
      NoneOpen filledBuy.db (limitIntent .buy .limit 10 100).toIntentFields none
        executableStatuses := by
  have approved : (check {} filledBuy.db filledBuy.now
      (limitIntent .buy .limit 10 100).toIntentFields none none none).approved := by decide +kernel
  exact ⟨by decide +kernel, (noneOpen_executable_iff approved).mpr (by decide +kernel)⟩

end SynapseYield.RiskEngine
