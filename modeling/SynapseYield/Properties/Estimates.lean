import SynapseYield.Broker.LocalReturns
import SynapseYield.Properties.Solvency
import SynapseYield.Risk.Rules

set_option autoImplicit false

namespace SynapseYield

open Shared OrderService

section Decisions

variable {config : RiskConfig} {traceId orderId : String} {quote : Option MarketQuote}
  {marketIsOpen : Option Bool} {w w' : World} {order : Order} {decision : RiskDecision}

theorem OrderService.runRiskCheck_decision
    (run : runRiskCheck config traceId orderId quote marketIsOpen w = .ok decision w')
    (found : w.db.orders.find? orderId = some order) (approved : decision.decision = .approved) :
    (RiskEngine.check config w.db w.now (riskIntent order) (some orderId) quote
      marketIsOpen).approved ∧
    decision.inputSnapshot = (RiskEngine.check config w.db w.now (riskIntent order)
      (some orderId) quote marketIsOpen).inputSnapshot ∧
    decision ∈ w'.db.riskDecisions := by
  simp only [runRiskCheck, addRiskDecision, updateOrder, bind_ok, getOrder_ok, get_ok, newId_ok,
    modify_ok, flush_ok, transitionOrder_ok] at run
  obtain ⟨_, _, ⟨found', rfl⟩, _, _, ⟨rfl, rfl⟩, _, _, ⟨rfl, rfl⟩, _, _, rfl, _, _, ⟨-, rfl⟩, _, _,
    rfl, _, _, ⟨_, -, -, rfl⟩, rest⟩ := run
  obtain rfl := Option.some.inj (found.symm.trans found')
  generalize RiskEngine.check config w.db w.now (riskIntent order) (some orderId) quote
    marketIsOpen = result at rest
  cases verdict : result.approved with
  | true =>
    simp only [verdict, if_true, bind_ok, enqueueEvent_ok, pure_ok] at rest
    obtain ⟨_, _, rfl, rfl, rfl⟩ := rest
    exact ⟨rfl, rfl, by simp⟩
  | false =>
    simp only [verdict, Bool.false_eq_true, if_false, pure_ok] at rest
    obtain ⟨rfl, -⟩ := rest
    simp at approved

end Decisions

namespace LocalSim

variable {riskConfig : RiskConfig} {config : LocalSimConfig} {traceId checkTraceId orderId : String}
  {quote : MarketQuote} {marketIsOpen : Option Bool} {w checked w' : World} {order : Order}
  {decision : RiskDecision}

structure Reserves (config : LocalSimConfig) (traceId orderId : String) (quote : MarketQuote)
    (w : World) : Prop where
  reserved : ∃ w', reserveResources config traceId orderId quote w = .ok none w'
  accepted : ∀ result w', submitOrder config traceId orderId quote w = .ok result w' →
    result.accepted

-- The cash at hand covers the estimate of the risk engine and the commission on it.
def CommissionCovered (config : LocalSimConfig) (order : Order) (quote : MarketQuote)
    (db : Database) : Prop :=
  order.side = .buy → ∀ account ∈ db.accounts.find? order.accountId,
    RiskEngine.estimateOrderValue (riskIntent order) (some quote) +
      commission config (RiskEngine.estimateOrderValue (riskIntent order) (some quote)) ≤
        account.cashAvailable

instance (config : LocalSimConfig) (order : Order) (quote : MarketQuote) (db : Database) :
    Decidable (CommissionCovered config order quote db) := by
  unfold CommissionCovered
  infer_instance

theorem reserveAmount_estimate (config : LocalSimConfig) (quote : MarketQuote)
    (buying : order.side = .buy) :
    reserveAmount config order.toOrderIntent quote.ask =
      RiskEngine.estimateOrderValue (riskIntent order) (some quote) +
        commission config (RiskEngine.estimateOrderValue (riskIntent order) (some quote)) := by
  cases limited : order.limitPrice <;>
    simp [reserveAmount, RiskEngine.estimateOrderValue, riskIntent, limited, buying]

theorem submitOrder_reserved {result : BrokerOrderResult}
    (found : w.db.orders.find? orderId = some order) (approved : order.status = .riskApproved)
    (symbol : quote.symbol = order.symbol)
    (reserving : reserveResources config traceId orderId quote w = .ok none checked)
    (run : submitOrder config traceId orderId quote w = .ok result w') : result.accepted := by
  rw [submitOrder, bind_of_ok (getOrder_ok.mpr ⟨found, rfl⟩)] at run
  simp only [approved, symbol, ne_eq, not_true_eq_false, if_false] at run
  rw [bind_of_ok reserving] at run
  obtain ⟨_, _, -, run⟩ := bind_ok.mp run
  obtain ⟨_, _, -, run⟩ := bind_ok.mp run
  obtain ⟨_, _, -, run⟩ := bind_ok.mp run
  obtain ⟨_, _, -, run⟩ := bind_ok.mp run
  obtain ⟨_, _, -, run⟩ := bind_ok.mp run
  cases matched : fillPrice order quote with
  | none =>
    simp only [matched, pure_ok] at run
    rw [← run.1]
  | some price =>
    simp only [matched, bind_ok, pure_ok] at run
    obtain ⟨_, _, -, rfl, -⟩ := run
    rfl

theorem availableQuantity_riskIntent (db : Database) (order : Order) :
    RiskEngine.availableQuantity db (riskIntent order) =
      match db.positions.find? (order.accountId, order.symbol) with
      | some position => position.availableQuantity
      | none => 0 := rfl

theorem available_position {db : Database}
    (enough : order.quantity.value ≤ RiskEngine.availableQuantity db (riskIntent order)) :
    ∃ position, db.positions.find? (order.accountId, order.symbol) = some position ∧
      order.quantity.value ≤ position.availableQuantity := by
  rw [availableQuantity_riskIntent] at enough
  cases held : db.positions.find? (order.accountId, order.symbol) with
  | none =>
    rw [held] at enough
    exact absurd order.quantity_pos enough.not_gt
  | some position =>
    rw [held] at enough
    exact ⟨position, rfl, enough⟩

theorem reserves_iff (traceId : String) (found : w.db.orders.find? orderId = some order)
    (checking : runRiskCheck riskConfig checkTraceId orderId (some quote) marketIsOpen w =
      .ok decision checked)
    (approved : decision.decision = .approved) (unchanged : w'.db = checked.db) :
    Reserves config traceId orderId quote w' ↔ CommissionCovered config order quote w.db := by
  obtain ⟨passing, -, -⟩ := runRiskCheck_decision checking found approved
  obtain ⟨passed, -⟩ := RiskEngine.check_approved passing
  obtain ⟨account, held, screened⟩ := passed.account
  obtain ⟨_, verdict, auditLogs, riskDecisions, found', -, same, -, rfl⟩ := runRiskCheck_ok checking
  obtain rfl := Option.some.inj (found.symm.trans found')
  rw [passing] at same
  subst same
  let decided : Order := { order with
    status := .riskApproved, riskDecisionId := some (idText "risk" w.serial) }
  have stored : w'.db.orders.find? orderId = some decided := by
    rw [unchanged]
    exact (Table.find?_modify_self _ _ _).trans (congrArg _ found)
  have held' : w'.db.accounts.find? decided.accountId = some account := by
    rw [unchanged]
    exact held
  constructor
  · intro reserves buying account' member
    obtain rfl := Option.some.inj (held.symm.trans member)
    obtain ⟨_, reserving⟩ := reserves.reserved
    obtain ⟨refused, -⟩ | ⟨-, _, stored', reserved, -⟩ := reserveResources_ok reserving
    · exact absurd rfl refused
    · obtain rfl := Option.some.inj (stored.symm.trans stored')
      obtain ⟨_, held'', enough⟩ := reserved.funds
      obtain rfl := Option.some.inj (held'.symm.trans held'')
      rw [← reserveAmount_estimate config quote buying]
      exact enough buying
  · intro covered
    obtain ⟨last, reserving⟩ := reserveResources_passes config traceId stored held'
      (fun buying => by
        rw [reserveAmount_estimate config quote buying]
        exact covered buying account held)
      (fun plain => by
        rw [unchanged]
        exact available_position (screened.shares (of_decide_eq_true plain).1))
    exact ⟨⟨last, reserving⟩, fun result w' run =>
      submitOrder_reserved stored rfl (screened.symbol quote rfl) reserving run⟩

def createdTen : World :=
  perform (.createOrder "t" (limitIntent .buy .limit 10 100)) (cashOnly 1000)

def quotedTen : World :=
  leaves (runRiskCheck {} "t" "ord_0" (some (quoteAt 100)) none createdTen)

theorem quotedTen_run : ∃ decision,
    runRiskCheck {} "t" "ord_0" (some (quoteAt 100)) none createdTen = .ok decision quotedTen ∧
      decision.decision = .approved := by
  have given : (answer (runRiskCheck {} "t" "ord_0" (some (quoteAt 100)) none
      createdTen)).map RiskDecision.decision = some .approved := by decide +kernel
  obtain ⟨decision, given, verdict⟩ := Option.map_eq_some_iff.mp given
  exact ⟨decision, ok_of_answer given, verdict⟩

def charged : LocalSimConfig where
  commissionRate := 1 / 1000

theorem commission_unreserved : ∃ decision,
    runRiskCheck {} "t" "ord_0" (some (quoteAt 100)) none createdTen = .ok decision quotedTen ∧
      decision.decision = .approved ∧ ¬ Reserves charged "t" "ord_0" (quoteAt 100) quotedTen := by
  obtain ⟨decision, run, approved⟩ := quotedTen_run
  refine ⟨decision, run, approved, fun reserves => ?_⟩
  obtain ⟨w', reserving⟩ := reserves.reserved
  have refused : answer (reserveResources charged "t" "ord_0" (quoteAt 100) quotedTen) ≠
      some none := by decide +kernel
  rw [reserving] at refused
  exact refused rfl

theorem reserves_free : Reserves {} "t" "ord_0" (quoteAt 100) quotedTen := by
  obtain ⟨decision, run, approved⟩ := quotedTen_run
  have stored : (createdTen.db.orders.find? "ord_0").isSome := by decide +kernel
  have covers : (createdTen.db.orders.find? "ord_0").all fun order =>
      CommissionCovered {} order (quoteAt 100) createdTen.db := by decide +kernel
  obtain ⟨order, found⟩ := Option.isSome_iff_exists.mp stored
  have covered : CommissionCovered {} order (quoteAt 100) createdTen.db := by
    simpa [found] using covers
  exact (reserves_iff "t" found run approved rfl).mpr covered

section Fills

variable {meets : Database → Order → ℚ → Prop} {db db' : Database} {price : ℚ}

theorem find?_modified_intent {update : RowUpdate String Order Order.orderId} {changed : String}
    (stored : db.orders.find? orderId = some order)
    (orders : db'.orders = db.orders.modify changed update)
    (kept : ∀ row, (update.apply row).toOrderIntent = row.toOrderIntent ∧
      (update.apply row).idempotencyKey = row.idempotencyKey) :
    ∃ row, db'.orders.find? orderId = some row ∧ row.toOrderIntent = order.toOrderIntent ∧
      row.idempotencyKey = order.idempotencyKey := by
  rw [orders, Table.find?_modify]
  split
  next same =>
    rw [← same, stored]
    exact ⟨_, rfl, kept order⟩
  next => exact ⟨order, stored, rfl, rfl⟩

theorem Step.intent_kept (step : Step config meets db db')
    (stored : db.orders.find? orderId = some order) :
    ∃ row, db'.orders.find? orderId = some row ∧ row.toOrderIntent = order.toOrderIntent ∧
      row.idempotencyKey = order.idempotencyKey := by
  cases step with
  | quiet same => exact ⟨order, by rw [same.orders, stored], rfl, rfl⟩
  | created added fresh =>
    refine ⟨order, ?_, rfl, rfl⟩
    have unused := ((Table.insert?_eq_some _ _ _).mp fresh.inserted).1
    rw [Table.find?_insert fresh.inserted, if_neg, stored]
    rintro rfl
    exact unused (List.mem_map.mpr ⟨order, Table.find?_mem stored, Table.find?_key stored⟩)
  | restatused other target changed =>
    obtain ⟨_, orders⟩ := changed.orders
    exact find?_modified_intent stored orders fun _ => ⟨rfl, rfl⟩
  | rested other quote accepted unmatched =>
    obtain ⟨_, orders⟩ := accepted.orders
    exact find?_modified_intent stored orders fun _ => ⟨rfl, rfl⟩
  | crossed other submitted quote price accepted matched met settled same =>
    obtain ⟨_, orders⟩ := accepted.orders
    obtain ⟨row, stored', intent, key⟩ := find?_modified_intent stored orders fun _ => ⟨rfl, rfl⟩
    obtain ⟨row', stored'', intent', key'⟩ :=
      find?_modified_intent stored' settled.orders fun _ => ⟨rfl, rfl⟩
    exact ⟨row', stored'', intent'.trans intent, key'.trans key⟩
  | settled other quote price resting matched met settled =>
    exact find?_modified_intent stored settled.orders fun _ => ⟨rfl, rfl⟩
  | cancelled other cancelled => exact find?_modified_intent stored cancelled.orders fun _ => ⟨rfl, rfl⟩

theorem Step.fill_added (step : Step config meets db db') :
    db'.fills = db.fills ∨ ∃ filled quote price fill,
      db.orders.find? filled.orderId = some filled ∧ fillPrice filled quote = some price ∧
      meets db filled price ∧ db'.fills = db.fills ++ [fill] ∧ fill.orderId = filled.orderId ∧
      fill.quantity = filled.quantity.value ∧ fill.price = price := by
  cases step with
  | quiet same => exact .inl same.fills
  | created added fresh => exact .inl fresh.fills
  | restatused other target changed => exact .inl changed.fills
  | rested other quote accepted unmatched => exact .inl accepted.fills
  | crossed filled submitted quote price accepted matched met settled same =>
    obtain ⟨_, rfl⟩ := accepted.submitted (same ▸ settled.stored)
    obtain ⟨fill, fills, named, -, -, quantity, priced, -⟩ := settled.fills
    rw [accepted.fills] at fills
    exact .inr ⟨filled, quote, price, fill, accepted.stored, matched, met, fills, named, quantity,
      priced⟩
  | settled filled quote price resting matched met settled =>
    obtain ⟨fill, fills, named, -, -, quantity, priced, -⟩ := settled.fills
    exact .inr ⟨filled, quote, price, fill, settled.stored, matched, met, fills, named, quantity,
      priced⟩
  | cancelled other cancelled => exact .inl cancelled.fills

end Fills

section Bounds

variable {db db' : Database} {given : Option MarketQuote}

-- The price at which the risk engine values a BUY: its limit, or else the ask.
def estimatePrice (intent : IntentFields) (quote : Option MarketQuote) : Option ℚ :=
  match intent.limitPrice with
  | some limit => some limit.value
  | none => quote.map MarketQuote.ask

def WithinEstimate (order : Order) (quote : Option MarketQuote) :
    Database → Order → ℚ → Prop := fun _ filled price =>
  filled.orderId = order.orderId → filled.orderType = .market →
    ∃ estimated, estimatePrice order.toIntentFields quote = some estimated ∧ price ≤ estimated

theorem estimate_priced (buying : order.side = .buy) {estimated : ℚ}
    (priced : estimatePrice order.toIntentFields given = some estimated) :
    RiskEngine.estimateOrderValue (riskIntent order) given = order.quantity.value * estimated := by
  cases limited : order.limitPrice with
  | none =>
    cases given with
    | none => simp [estimatePrice, limited] at priced
    | some quote =>
      obtain rfl : quote.ask = estimated := by simpa [estimatePrice, limited] using priced
      simp [RiskEngine.estimateOrderValue, riskIntent, limited, buying]
  | some limit =>
    obtain rfl : limit.value = estimated := by simpa [estimatePrice, limited] using priced
    simp [RiskEngine.estimateOrderValue, riskIntent, limited]

theorem estimatePrice_positive {estimated : ℚ}
    (priced : estimatePrice order.toIntentFields given = some estimated) : 0 < estimated := by
  cases limited : order.limitPrice with
  | none =>
    cases given with
    | none => simp [estimatePrice, limited] at priced
    | some quote =>
      obtain rfl : quote.ask = estimated := by simpa [estimatePrice, limited] using priced
      exact quote.ask_positive
  | some limit =>
    obtain rfl : limit.value = estimated := by simpa [estimatePrice, limited] using priced
    exact order.limit_pos limit limited

structure Bounded (order : Order) (estimate : ℚ) (fills : List Fill) (db : Database) : Prop where
  stored : ∃ row, db.orders.find? order.orderId = some row ∧
    row.toOrderIntent = order.toOrderIntent
  fills : ∃ added, db.fills = fills ++ added ∧
    ∀ fill ∈ added, fill.orderId = order.orderId → fill.quantity * fill.price ≤ estimate

theorem Bounded.step {fills : List Fill} (buying : order.side = .buy)
    (bounded : Bounded order (RiskEngine.estimateOrderValue (riskIntent order) given) fills db)
    (step : Step config (WithinEstimate order given) db db') :
    Bounded order (RiskEngine.estimateOrderValue (riskIntent order) given) fills db' := by
  obtain ⟨row, stored, intent⟩ := bounded.stored
  obtain ⟨added, whole, below⟩ := bounded.fills
  obtain ⟨row', stored', intent', -⟩ := step.intent_kept stored
  refine ⟨⟨row', stored', intent'.trans intent⟩, ?_⟩
  obtain same | ⟨filled, quote, price, fill, found, matched, met, fills', named, quantity, priced⟩ :=
    step.fill_added
  · exact ⟨added, same.trans whole, below⟩
  · refine ⟨added ++ [fill], by rw [fills', whole, List.append_assoc], fun other member own => ?_⟩
    obtain old | new := List.mem_append.mp member
    · exact below other old own
    · obtain rfl := List.mem_singleton.mp new
      have same : filled.orderId = order.orderId := named.symm.trans own
      rw [same, stored, Option.some.injEq] at found
      subst found
      rw [quantity, priced, congrArg (fun row : OrderIntent => row.quantity.value) intent]
      have buying' : row.side = .buy :=
        (congrArg (fun row : OrderIntent => row.side) intent).trans buying
      have bounds : ∃ estimated, estimatePrice order.toIntentFields given = some estimated ∧
          price ≤ estimated := by
        by_cases market : row.orderType = .market
        · exact met same market
        · obtain ⟨limit, limited, under⟩ := fillPrice_limit_buy buying' market matched
          refine ⟨limit.value, ?_, under⟩
          have limited' : order.limitPrice = some limit :=
            (congrArg (fun row : OrderIntent => row.limitPrice) intent).symm.trans limited
          simp [estimatePrice, limited']
      obtain ⟨estimated, valued, under⟩ := bounds
      rw [estimate_priced buying valued]
      exact mul_le_mul_of_nonneg_left under order.quantity_pos.le

theorem fills_withinEstimate (found : w.db.orders.find? orderId = some order)
    (buying : order.side = .buy)
    (checking : runRiskCheck riskConfig checkTraceId orderId given marketIsOpen w =
      .ok decision checked)
    (approved : decision.decision = .approved)
    (run : Run (Allowed config (WithinEstimate order given)) checked w') :
    ∃ estimate, decision ∈ checked.db.riskDecisions ∧
      decision.inputSnapshot.estimatedValue = some estimate ∧
      estimate ≤ riskConfig.maxSingleOrderValue ∧
      (estimatePrice order.toIntentFields given ≠ none → 0 < estimate) ∧
      ∀ fill ∈ w'.db.fills.drop checked.db.fills.length, fill.orderId = orderId →
        fill.quantity * fill.price ≤ estimate := by
  obtain rfl : order.orderId = orderId := Table.find?_key found
  obtain ⟨passing, snapshot, recorded⟩ := runRiskCheck_decision checking found approved
  obtain ⟨passed, estimated⟩ := RiskEngine.check_approved passing
  obtain ⟨account, -, screened⟩ := passed.account
  refine ⟨RiskEngine.estimateOrderValue (riskIntent order) given, recorded, snapshot ▸ estimated,
    screened.value, fun priced => ?_, ?_⟩
  · obtain ⟨price, valued⟩ := Option.ne_none_iff_exists'.mp priced
    rw [estimate_priced buying valued]
    exact mul_pos order.quantity_pos (estimatePrice_positive valued)
  · have start : Bounded order (RiskEngine.estimateOrderValue (riskIntent order) given)
        checked.db.fills checked.db := by
      have step : Step config anyFill w.db checked.db := runRiskCheck_step checking
      obtain ⟨row, stored, intent, -⟩ := step.intent_kept found
      obtain ⟨_, _, _, _, _, -, -, -, rfl⟩ := runRiskCheck_ok checking
      exact ⟨⟨row, stored, intent⟩, [], by simp, by simp⟩
    have bounded := (run_steps run).keeps (fun _ _ step inv => inv.step buying step) start
    obtain ⟨added, whole, below⟩ := bounded.fills
    rw [whole, List.drop_left]
    exact below

def marketTen : OrderIntent where
  accountId := "acct"
  symbol := "AAPL.US"
  side := .buy
  orderType := .market
  quantity := wholeShares 10
  quantity_pos := by simp [wholeShares_value]
  limit_pos := no_price_pos
  trigger_pos := no_price_pos
  limit_required := by simp

def marketCreated : World := perform (.createOrder "t" marketTen) (cashOnly 5000)

def marketApproved : World :=
  leaves (runRiskCheck {} "t" "ord_0" (some (quoteAt 100)) none marketCreated)

def marketFilled (quote : MarketQuote) : World :=
  perform (.submitOrder (.localSim {}) "t" "ord_0" quote) marketApproved

theorem marketApproved_run : ∃ decision,
    runRiskCheck {} "t" "ord_0" (some (quoteAt 100)) none marketCreated =
        .ok decision marketApproved ∧
      decision.decision = .approved ∧ decision.inputSnapshot.estimatedValue = some 1000 := by
  have given : (answer (runRiskCheck {} "t" "ord_0" (some (quoteAt 100)) none
      marketCreated)).map (fun decision =>
        (decision.decision, decision.inputSnapshot.estimatedValue)) =
      some (.approved, some 1000) := by decide +kernel
  obtain ⟨decision, given, same⟩ := Option.map_eq_some_iff.mp given
  obtain ⟨verdict, estimated⟩ := Prod.mk.inj same
  exact ⟨decision, ok_of_answer given, verdict, estimated⟩

theorem marketFill_aboveEstimate : (∃ decision,
    runRiskCheck {} "t" "ord_0" (some (quoteAt 100)) none marketCreated =
        .ok decision marketApproved ∧
      decision.decision = .approved ∧ decision.inputSnapshot.estimatedValue = some 1000) ∧
    ∃ fill ∈ (marketFilled (quoteAt 120)).db.fills.drop marketApproved.db.fills.length,
      fill.orderId = "ord_0" ∧ fill.side = .buy ∧ fill.quantity * fill.price = 1200 :=
  ⟨marketApproved_run, by decide +kernel⟩

theorem fills_withinEstimate_market : ∃ estimate : ℚ, 0 < estimate ∧
    ∀ fill ∈ (marketFilled (quoteAt 100)).db.fills.drop marketApproved.db.fills.length,
      fill.orderId = "ord_0" → fill.quantity * fill.price ≤ estimate := by
  obtain ⟨decision, checking, approved, -⟩ := marketApproved_run
  have stored : (marketCreated.db.orders.find? "ord_0").isSome := by decide +kernel
  have buys : (marketCreated.db.orders.find? "ord_0").all fun order =>
      order.side = .buy ∧ estimatePrice order.toIntentFields (some (quoteAt 100)) = some 100 := by
    decide +kernel
  have fills : (marketApproved.opened.db.orders.find? "ord_0").all fun order =>
      fillPrice order (quoteAt 100) = some 100 := by decide +kernel
  obtain ⟨order, found⟩ := Option.isSome_iff_exists.mp stored
  obtain ⟨buying, priced⟩ : order.side = .buy ∧
      estimatePrice order.toIntentFields (some (quoteAt 100)) = some 100 := by
    simpa [found] using buys
  have within : SubmitMeets (WithinEstimate order (some (quoteAt 100))) "ord_0" (quoteAt 100)
      marketApproved.opened := by
    intro row price found' _ _ matched _ _
    have filled : fillPrice row (quoteAt 100) = some 100 := by simpa [found'] using fills
    exact ⟨100, priced, (Option.some.inj (matched.symm.trans filled)).le⟩
  obtain ⟨estimate, -, -, -, positive, below⟩ := fills_withinEstimate found buying checking approved
    (.followed .refl (.submitOrder (.localSim {}) "t" "ord_0" (quoteAt 100)) ⟨rfl, within⟩)
  exact ⟨estimate, positive (by simp [priced]), below⟩

end Bounds

end LocalSim

end SynapseYield
