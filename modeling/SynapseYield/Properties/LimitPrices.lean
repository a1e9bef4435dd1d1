import SynapseYield.Properties.Estimates

set_option autoImplicit false

namespace SynapseYield.LocalSim

open Shared OrderService

variable {config : LocalSimConfig} {traceId orderId : String} {quote : MarketQuote} {price : ℚ}
  {order : Order} {db db' : Database} {w w' : World}

def WithinLimit (order : IntentFields) (price : ℚ) : Prop :=
  ∀ limit ∈ order.limitPrice,
    (order.side = .buy → price ≤ limit.value) ∧ (order.side = .sell → limit.value ≤ price)

instance (order : IntentFields) (price : ℚ) : Decidable (WithinLimit order price) := by
  unfold WithinLimit
  infer_instance

-- The quote is no worse than the limit where nothing else holds the order to it: for a market
-- order, and for a stop that sells.
def QuoteWithin (order : IntentFields) (quote : MarketQuote) : Prop :=
  ∀ limit ∈ order.limitPrice,
    (order.orderType = .market → order.side = .buy → quote.ask ≤ limit.value) ∧
    (order.orderType = .market ∨ order.orderType = .stopLimit → order.side = .sell →
      limit.value ≤ quote.bid)

instance (order : IntentFields) (quote : MarketQuote) : Decidable (QuoteWithin order quote) := by
  unfold QuoteWithin
  infer_instance

theorem fillPrice_within_iff (order : Order) (quote : MarketQuote) :
    (∀ price ∈ fillPrice order quote, WithinLimit order.toIntentFields price) ↔
      QuoteWithin order.toIntentFields quote := by
  cases limited : order.limitPrice with
  | none => simp [WithinLimit, QuoteWithin, limited]
  | some limit =>
    cases side : order.side <;> cases kind : order.orderType
    case buy.market => simp [fillPrice, WithinLimit, QuoteWithin, limited, side, kind]
    case sell.market => simp [fillPrice, WithinLimit, QuoteWithin, limited, side, kind]
    case sell.stopLimit =>
      simp only [fillPrice, WithinLimit, QuoteWithin, limited, side, kind]
      by_cases fires : quote.bid ≤ limit.value
      · simp [fires]
      · simpa [fires] using (not_le.mp fires).le
    case buy.limit | buy.limitIfTouched | buy.stopLimit =>
      by_cases covers : quote.ask ≤ limit.value <;>
        simp [fillPrice, WithinLimit, QuoteWithin, limited, side, kind, covers]
    case sell.limit | sell.limitIfTouched =>
      by_cases covers : limit.value ≤ quote.bid <;>
        simp [fillPrice, WithinLimit, QuoteWithin, limited, side, kind, covers]

abbrev limitMeets : Database → Order → ℚ → Prop := fun _ order price =>
  WithinLimit order.toIntentFields price

-- The quote of a call, for each order that the call may fill.
def QuotesWithin : Operation → World → Prop
  | .submitOrder _ _ orderId quote, w =>
    ∀ order ∈ w.db.orders.find? orderId, QuoteWithin order.toIntentFields quote
  | .processQuote _ _ _ quote, w =>
    ∀ order ∈ restingOrders w.db quote.symbol, QuoteWithin order.toIntentFields quote
  | _, _ => True

def QuotedAllowed (config : LocalSimConfig) (operation : Operation) (w : World) : Prop :=
  Allowed config anyFill operation w ∧ QuotesWithin operation w

theorem Settled.intent_of {filled : Order} (settled : Settled config filled price db db')
    (stored : db'.orders.find? orderId = some order) :
    ∃ row, db.orders.find? orderId = some row ∧ order.toOrderIntent = row.toOrderIntent := by
  rw [settled.orders, Table.find?_modify] at stored
  split at stored
  next same =>
    obtain ⟨row, found, rfl⟩ := Option.map_eq_some_iff.mp stored
    exact ⟨row, same ▸ found, rfl⟩
  next => exact ⟨order, stored, rfl⟩

theorem fillsMeet_limit {orderIds : List String}
    (within : ∀ orderId ∈ orderIds, ∀ order, w.db.orders.find? orderId = some order →
      QuoteWithin order.toIntentFields quote) :
    FillsMeet limitMeets config traceId quote orderIds w := by
  induction orderIds generalizing w with
  | nil => trivial
  | cons orderId rest ih =>
    obtain ⟨first, others⟩ := List.forall_mem_cons.mp within
    intro order found
    cases matched : fillPrice order quote with
    | none => exact ih others
    | some price =>
      refine ⟨(fillPrice_within_iff order quote).mpr (first order found) price matched, ?_⟩
      intro w' filling
      obtain ⟨_, -, settled⟩ := applyFill_ok filling
      refine ih fun other member row stored => ?_
      obtain ⟨before, held, same⟩ := settled.intent_of stored
      rw [congrArg OrderIntent.toIntentFields same]
      exact others other member before held

theorem QuotedAllowed.limit {operation : Operation} (allowed : QuotedAllowed config operation w) :
    Allowed config limitMeets operation w := by
  obtain ⟨allowed, within⟩ := allowed
  cases operation with
  | submitOrder broker traceId orderId quote =>
    cases broker with
    | localSim used =>
      refine ⟨allowed.1, fun order price found _ _ matched => ?_⟩
      exact (fillPrice_within_iff order quote).mpr (within order found) price matched
    | longbridge => exact allowed.elim
  | processQuote used rowOrder traceId quote =>
    refine ⟨allowed.1, fillsMeet_limit fun orderId member order found => ?_⟩
    obtain ⟨row, stored, rfl⟩ := List.mem_map.mp member
    have resting := (rowOrder.perm _).mem_iff.mp stored
    have same := Table.find?_of_mem (List.mem_filter.mp resting).1
    obtain rfl := Option.some.inj (same.symm.trans found)
    exact within row resting
  | cancelOrder broker traceId orderId =>
    cases broker with
    | localSim used => exact allowed
    | longbridge => exact allowed.elim
  | createOrder | runRiskCheck | elapse => exact allowed
  | transitionOrder | recordEvent | enqueueEvent | handleOrderEvent | execute =>
    exact allowed.elim

def FilledWithin (start : Nat) (db : Database) : Prop :=
  ∀ fill ∈ db.fills.drop start, ∃ order, db.orders.find? fill.orderId = some order ∧
    WithinLimit order.toIntentFields fill.price

theorem FilledWithin.step {start : Nat} (within : FilledWithin start db)
    (step : Step config limitMeets db db') : FilledWithin start db' := by
  have kept : ∀ fill ∈ db.fills.drop start, ∃ order,
      db'.orders.find? fill.orderId = some order ∧
        WithinLimit order.toIntentFields fill.price := by
    intro fill member
    obtain ⟨order, stored, limit⟩ := within fill member
    obtain ⟨row, stored', same, -⟩ := step.intent_kept stored
    exact ⟨row, stored', congrArg OrderIntent.toIntentFields same ▸ limit⟩
  intro fill member
  obtain same | ⟨filled, quote, price, added, stored, -, met, fills, named, -, priced⟩ :=
    step.fill_added
  · exact kept fill (same ▸ member)
  · rw [fills] at member
    rw [List.drop_append] at member
    obtain old | new := List.mem_append.mp member
    · exact kept fill old
    · obtain rfl := List.mem_singleton.mp (List.mem_of_mem_drop new)
      obtain ⟨row, stored', same, -⟩ := step.intent_kept stored
      rw [named, priced]
      exact ⟨row, stored', congrArg OrderIntent.toIntentFields same ▸ met⟩

theorem fills_withinLimit (run : Run (QuotedAllowed config) w w') :
    FilledWithin w.db.fills.length w'.db := by
  have limited : Run (Allowed config limitMeets) w w' := by
    induction run with
    | refl => exact .refl
    | tail _ last ih =>
      obtain ⟨operation, allowed, rfl⟩ := last
      exact ih.followed operation allowed.limit
  refine (run_steps limited).keeps (fun _ _ step within => within.step step) ?_
  intro fill member
  simp at member

def stopResting : World :=
  [ .createOrder "t" (limitIntent .buy .limit 10 100),
    .runRiskCheck {} "t" "ord_0" (some (quoteAt 100)) none,
    .submitOrder (.localSim {}) "t" "ord_0" (quoteAt 100),
    .createOrder "t" (limitIntent .sell .stopLimit 10 98),
    .elapse 1000000000,
    .runRiskCheck {} "t" "ord_6" (some (quoteAt 100)) none,
    .submitOrder (.localSim {}) "t" "ord_6" (quoteAt 100) ].foldl
      (fun w operation => perform operation w) (cashOnly 5000)

theorem fills_withinLimit_stop :
    FilledWithin stopResting.db.fills.length
        (perform (.processQuote {} {} "t" (quoteAt 98)) stopResting).db ∧
      (perform (.processQuote {} {} "t" (quoteAt 98)) stopResting).db.fills.length =
        stopResting.db.fills.length + 1 := by
  have within : ∀ order ∈ restingOrders stopResting.db "AAPL.US",
      QuoteWithin order.toIntentFields (quoteAt 98) := by decide +kernel
  have allowed : QuotedAllowed {} (.processQuote {} {} "t" (quoteAt 98)) stopResting :=
    ⟨⟨rfl, fillsMeet_any _ _ _ _ _⟩, within⟩
  exact ⟨fills_withinLimit (.followed .refl _ allowed), by decide +kernel⟩

theorem stop_tradesThrough : ¬ ∀ w w' : World, Run (Allowed {} anyFill) w w' →
    FilledWithin w.db.fills.length w'.db := by
  intro holds
  have within := holds _ _
    (.followed .refl (.processQuote {} {} "t" (quoteAt 90)) ⟨rfl, fillsMeet_any _ _ _ _ _⟩ :
      Run _ stopResting _)
  have sold : ((perform (.processQuote {} {} "t" (quoteAt 90)) stopResting).db.fills.drop
      stopResting.db.fills.length).map (fun fill => (fill.orderId, fill.price)) =
        [("ord_6", 90)] := by decide +kernel
  have stop : ((perform (.processQuote {} {} "t" (quoteAt 90)) stopResting).db.orders.find?
      "ord_6").all fun order => ¬ WithinLimit order.toIntentFields 90 := by decide +kernel
  obtain ⟨fill, member, same⟩ := List.mem_map.mp (sold ▸ List.mem_singleton_self ("ord_6", (90 : ℚ)))
  obtain ⟨order, stored, limit⟩ := within fill member
  obtain ⟨named, priced⟩ := Prod.mk.inj same
  rw [named] at stored
  rw [priced] at limit
  simp [stored, limit] at stop

end SynapseYield.LocalSim
