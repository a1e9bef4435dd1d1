import SynapseYield.Broker.LocalEffects
import SynapseYield.Harness.Operations

set_option autoImplicit false

namespace SynapseYield.LocalSim

open Shared OrderService

variable {config : LocalSimConfig} {order : Order} {quote : MarketQuote} {price : ℚ}
  {db db' : Database} {target : OrderStatus}

def limitCost (config : LocalSimConfig) (order : OrderIntent) : ℚ :=
  match order.limitPrice with
  | some limit =>
    order.quantity.value * limit.value + commission config (order.quantity.value * limit.value)
  | none => 0

def chargedTo (accountId : String) (order : OrderIntent) (amount : ℚ) : ℚ :=
  if order.side = .buy ∧ order.accountId = accountId then amount else 0

def restingCost (config : LocalSimConfig) (accountId : String) (order : OrderIntent) : ℚ :=
  chargedTo accountId order (limitCost config order)

theorem reserveAmount_limitCost {order : OrderIntent} (limited : order.limitPrice ≠ none)
    (price : ℚ) : reserveAmount config order price = limitCost config order := by
  cases given : order.limitPrice with
  | none => exact absurd given limited
  | some limit => simp [reserveAmount, limitCost, given]

theorem fillPrice_none (unmatched : fillPrice order quote = none) : order.orderType ≠ .market := by
  intro market
  simp [fillPrice, market] at unmatched

theorem fillPrice_unlimited_buy (buying : order.side = .buy) (unlimited : order.limitPrice = none)
    (matched : fillPrice order quote = some price) : price = quote.ask := by
  unfold fillPrice at matched
  split at matched
  next => simpa [buying] using matched.symm
  next => simp [unlimited] at matched

theorem reserveAmount_matched (buying : order.side = .buy)
    (matched : fillPrice order quote = some price) :
    reserveAmount config order.toOrderIntent quote.ask =
      reserveAmount config order.toOrderIntent price := by
  cases limited : order.limitPrice with
  | none => rw [fillPrice_unlimited_buy buying limited matched]
  | some limit => exact reserveAmount_limit config _ limited _ _

def frozenOf (db : Database) (accountId : String) : Option ℚ :=
  (db.accounts.find? accountId).map Account.cashFrozen

theorem filledAccount_cashFrozen (order : OrderIntent) (price avgCost : ℚ) (row : Account) :
    (filledAccount config order price avgCost row).cashFrozen =
      row.cashFrozen - if order.side = .buy then reserveAmount config order price else 0 := by
  by_cases buying : order.side = .buy
  · simp [filledAccount_buy config price avgCost row buying, boughtAccount, buying]
  · simp [filledAccount_sell config price avgCost row buying, soldAccount, buying]

theorem Accepted.frozen (accepted : Accepted config order quote db db') (accountId : String) :
    frozenOf db' accountId = (frozenOf db accountId).map
      (· + chargedTo accountId order.toOrderIntent
        (reserveAmount config order.toOrderIntent quote.ask)) := by
  rw [frozenOf, accepted.accountRow, frozenOf, Option.map_map, Option.map_map]
  congr 1
  funext row
  by_cases charged : order.side = .buy ∧ order.accountId = accountId <;>
    simp [charged, chargedTo, frozenAccount]

theorem Settled.frozen (settled : Settled config order price db db') (accountId : String) :
    frozenOf db' accountId = (frozenOf db accountId).map
      (· - chargedTo accountId order.toOrderIntent
        (reserveAmount config order.toOrderIntent price)) := by
  rw [frozenOf, settled.accountRow, frozenOf, Option.map_map, Option.map_map]
  congr 1
  funext row
  by_cases same : order.accountId = accountId <;>
    by_cases buying : order.side = .buy <;>
      simp [same, buying, chargedTo, revalued, filledAccount_cashFrozen]

theorem Cancelled.frozen (cancelled : Cancelled config order db db') (accountId : String) :
    frozenOf db' accountId = (frozenOf db accountId).map
      (· - chargedTo accountId order.toOrderIntent
        (reserveAmount config order.toOrderIntent 0)) := by
  rw [frozenOf, cancelled.accountRow, frozenOf, Option.map_map, Option.map_map]
  congr 1
  funext row
  by_cases charged : order.side = .buy ∧ order.accountId = accountId <;>
    simp [charged, chargedTo, thawedAccount]

-- No market order rests, and the cash frozen since the start is the cost of what does.
structure FrozenCash (config : LocalSimConfig) (start db : Database) : Prop where
  unmarketed : ∀ order ∈ db.orders.rows, order.status = .submitted → order.orderType ≠ .market
  frozen : ∀ accountId, frozenOf db accountId = (frozenOf start accountId).map
    (· + restingSum db (restingCost config accountId))

theorem FrozenCash.limited {start : Database} (inv : FrozenCash config start db)
    (member : order ∈ db.orders.rows) (submitted : order.status = .submitted) :
    order.limitPrice ≠ none :=
  order.limit_required (inv.unmarketed order member submitted)

theorem FrozenCash.step (inv : FrozenCash config db db') {meets : Database → Order → ℚ → Prop}
    {next : Database} (step : Step config meets db' next) : FrozenCash config db next := by
  cases step with
  | quiet same =>
    refine ⟨by rw [same.orders]; exact inv.unmarketed, fun accountId => ?_⟩
    rw [frozenOf, same.accounts, same.resting]
    exact inv.frozen accountId
  | created order fresh =>
    refine ⟨fun row member submitted => ?_, fun accountId => ?_⟩
    · rw [((Table.insert?_eq_some _ _ _).mp fresh.inserted).2] at member
      rcases List.mem_append.mp member with old | new
      · exact inv.unmarketed row old submitted
      · rw [List.mem_singleton.mp new, fresh.status] at submitted
        cases submitted
    · rw [frozenOf, fresh.accounts, fresh.resting]
      exact inv.frozen accountId
  | restatused order target changed =>
    obtain ⟨_, orders⟩ := changed.orders
    refine ⟨fun row member submitted => ?_, fun accountId => ?_⟩
    · rcases mem_modified changed.stored orders member with rfl | ⟨old, -⟩
      · have after := changed.after
        simp_all [untraded]
      · exact inv.unmarketed row old submitted
    · rw [frozenOf, changed.accounts, changed.resting]
      exact inv.frozen accountId
  | rested order quote accepted unmatched =>
    have limited := order.limit_required (fillPrice_none unmatched)
    obtain ⟨_, orders⟩ := accepted.orders
    refine ⟨fun row member submitted => ?_, fun accountId => ?_⟩
    · rcases mem_modified accepted.stored orders member with rfl | ⟨old, -⟩
      · exact fillPrice_none unmatched
      · exact inv.unmarketed row old submitted
    · rw [accepted.frozen, inv.frozen, accepted.resting, reserveAmount_limitCost limited,
        Option.map_map]
      congr 1
      funext frozen
      simp [restingCost, add_assoc]
  | crossed order submitted quote price accepted matched met settled same =>
    obtain ⟨_, rfl⟩ := accepted.submitted (same ▸ settled.stored)
    obtain ⟨_, orders⟩ := accepted.orders
    refine ⟨fun row member resting => ?_, fun accountId => ?_⟩
    · rcases mem_modified settled.stored settled.orders member with rfl | ⟨old, other⟩
      · cases resting
      · rcases mem_modified accepted.stored orders old with rfl | ⟨older, -⟩
        · exact absurd rfl other
        · exact inv.unmarketed row older resting
    · rw [settled.frozen, accepted.frozen, inv.frozen, settled.resting rfl, accepted.resting,
        Option.map_map, Option.map_map]
      congr 1
      funext frozen
      by_cases buying : order.side = .buy
      · simp [reserveAmount_matched buying matched]
      · simp [chargedTo, buying]
  | settled order quote price resting matched met settled =>
    have limited := inv.limited (Table.find?_mem settled.stored) resting
    refine ⟨fun row member submitted => ?_, fun accountId => ?_⟩
    · rcases mem_modified settled.stored settled.orders member with rfl | ⟨old, -⟩
      · cases submitted
      · exact inv.unmarketed row old submitted
    · rw [settled.frozen, inv.frozen, settled.resting resting, reserveAmount_limitCost limited,
        Option.map_map]
      congr 1
      funext frozen
      simp [restingCost, add_sub_assoc]
  | cancelled order cancelled =>
    have limited := inv.limited (Table.find?_mem cancelled.stored) cancelled.submitted
    refine ⟨fun row member submitted => ?_, fun accountId => ?_⟩
    · rcases mem_modified cancelled.stored cancelled.orders member with rfl | ⟨old, -⟩
      · cases submitted
      · exact inv.unmarketed row old submitted
    · rw [cancelled.frozen, inv.frozen, cancelled.resting, reserveAmount_limitCost limited,
        Option.map_map]
      congr 1
      funext frozen
      simp [restingCost, add_sub_assoc]

def unpriced : PyException := .valueError "Market order reservation requires a quote"

theorem getOrder_raises (orderId : String) : NeverRaises unpriced (getOrder orderId) := by
  refine .bind .get fun w => ?_
  cases w.db.orders.find? orderId with
  | none => exact .throw (by simp [unpriced])
  | some order => exact .pure order

theorem transitionOrder_raises (traceId orderId eventType : String) (target : OrderStatus) :
    NeverRaises unpriced (transitionOrder traceId orderId target eventType) := by
  refine .bind (getOrder_raises orderId) fun order => .bind ?_ fun _ =>
    .bind (.modified _) fun _ => .modified _
  unfold assertOrderTransition
  split
  next => exact .pure ()
  next => exact .throw (by simp [unpriced])

theorem recordBrokerEvent_raises (traceId orderId eventType : String) (fillId : Option String) :
    NeverRaises unpriced (recordBrokerEvent traceId orderId eventType fillId) :=
  .bind (getOrder_raises orderId) fun _ => .bind .get fun _ => .modified _

theorem accountMissing_unpriced (accountId : String) :
    PyException.valueError (accountMissing accountId) ≠ unpriced := by
  intro same
  have first := congrArg (fun text => text.toList.head?) (PyException.valueError.inj same)
  simp [accountMissing, toString] at first

theorem positionMissing_unpriced (accountId symbol : String) :
    PyException.valueError s!"Position {accountId}/{symbol} does not exist" ≠ unpriced := by
  intro same
  have first := congrArg (fun text => text.toList.head?) (PyException.valueError.inj same)
  simp [toString] at first

theorem giveBack_raises (limited : order.side = .buy → order.limitPrice ≠ none) :
    NeverRaises unpriced (giveBack config order) := by
  refine .bind (.bind .get fun _ => .pure _) fun account => ?_
  cases account with
  | none => exact .throw (accountMissing_unpriced _)
  | some account =>
    dsimp only
    split
    next buying =>
      obtain ⟨limit, priced⟩ := Option.ne_none_iff_exists'.mp (limited buying)
      rw [reservedCash_limit config order priced]
      exact .bind (.pure _) fun _ => .modified _
    next =>
      split
      next => exact .pure _
      next =>
        refine .bind (.bind .get fun _ => .pure _) fun position => ?_
        cases position with
        | none => exact .throw (positionMissing_unpriced _ _)
        | some position => exact .modified _

theorem cancelOrder_raises {w w' : World} (traceId orderId : String)
    (limited : ∀ order ∈ w.db.orders.rows, order.status = .submitted → order.limitPrice ≠ none) :
    cancelOrder config traceId orderId w ≠ .error unpriced w' := by
  refine NeverRaises.bind_at (getOrder_raises orderId _) (fun order _ _ got => ?_) _
  obtain ⟨stored, rfl⟩ := getOrder_ok.mp got
  split
  next => exact NeverRaises.pure _ _ _
  next resting =>
    rw [not_not] at resting
    have priced := limited order (Table.find?_mem stored) resting
    refine NeverRaises.bind_at (transitionOrder_raises _ _ _ _ _) (fun _ _ _ moved => ?_) _
    obtain ⟨_, -, -, rfl⟩ := transitionOrder_ok.mp moved
    refine NeverRaises.bind_at ?_ (fun _ _ _ _ => ?_) _
    · refine NeverRaises.bind_at (getOrder_raises orderId _) (fun pending _ _ got => ?_)
      obtain ⟨pendingStored, rfl⟩ := getOrder_ok.mp got
      -- The pending row is the stored one under another status, so its limit price is known.
      simp only [Table.find?_modify_self, stored, Option.map_some, Option.some.injEq]
        at pendingStored
      subst pendingStored
      exact NeverRaises.bind (giveBack_raises fun _ => priced) (fun _ => .modified _) _ _
    · exact NeverRaises.bind (transitionOrder_raises _ _ _ _)
        (fun _ => .bind (recordBrokerEvent_raises _ _ _ _) fun _ =>
          .bind (.modified _) fun _ => .pure _) _ _

theorem restingSum_idle {M : Type} [AddCommGroup M] (value : OrderIntent → M)
    (idle : ∀ order ∈ db.orders.rows, order.status ≠ .submitted) : restingSum db value = 0 := by
  apply List.sum_eq_zero
  intro amount member
  obtain ⟨order, stored, rfl⟩ := List.mem_map.mp member
  simp [idle order stored]

theorem FrozenCash.start (config : LocalSimConfig)
    (idle : ∀ order ∈ db.orders.rows, order.status ≠ .submitted) : FrozenCash config db db where
  unmarketed order member submitted := absurd submitted (idle order member)
  frozen accountId := by simp [restingSum_idle _ idle]

theorem frozenCash_correct {w w' : World} (run : Run (Allowed config anyFill) w w')
    (idle : ∀ order ∈ w.db.orders.rows, order.status ≠ .submitted) :
    (∀ accountId account, w.db.accounts.find? accountId = some account →
      ∃ account', w'.db.accounts.find? accountId = some account' ∧
        account'.cashFrozen =
          account.cashFrozen + restingSum w'.db (restingCost config accountId)) ∧
    (∀ order ∈ w'.db.orders.rows, order.status = .submitted →
      order.orderType ≠ .market ∧ order.limitPrice ≠ none) ∧
    (∀ traceId orderId raised, cancelOrder config traceId orderId w'.opened ≠
      .error unpriced raised) ∧
    (∀ order ∈ w'.db.orders.rows, order.status = .submitted → ∀ (quote : MarketQuote) price,
      reservedCash config order (some quote) none = .ok (limitCost config order.toOrderIntent) ∧
      reservedCash config order none (some price) = .ok (limitCost config order.toOrderIntent) ∧
      reservedCash config order none none = .ok (limitCost config order.toOrderIntent)) ∧
    (∀ (order : Order) quote price, order.side = .buy → fillPrice order quote = some price →
      reservedCash config order (some quote) none = reservedCash config order none (some price)) := by
  have inv : FrozenCash config w.db w'.db :=
    (run_steps run).keeps (fun _ _ step inv => inv.step step) (.start config idle)
  refine ⟨?_, ?_, ?_, ?_, ?_⟩
  · intro accountId account found
    have frozen := inv.frozen accountId
    rw [frozenOf, frozenOf, found] at frozen
    obtain ⟨account', found', same⟩ := Option.map_eq_some_iff.mp frozen
    exact ⟨account', found', same⟩
  · exact fun order member submitted =>
      ⟨inv.unmarketed order member submitted, inv.limited member submitted⟩
  · exact fun traceId orderId raised =>
      cancelOrder_raises traceId orderId fun _ => inv.limited
  · intro order member submitted quote price
    have limited := inv.limited member submitted
    obtain ⟨limit, priced⟩ := Option.ne_none_iff_exists'.mp limited
    simp only [reservedCash_quote, reservedCash_execution, reservedCash_limit config order priced,
      reserveAmount_limitCost limited, and_self]
  · intro order quote price buying matched
    rw [reservedCash_quote, reservedCash_execution, reserveAmount_matched buying matched]

def restingBuy : World :=
  perform (.submitOrder (.localSim {}) "t" "ord_0" (quoteAt 120))
    (perform (.runRiskCheck {} "t" "ord_0" none none)
      (perform (.createOrder "t" (limitIntent .buy .limit 10 100)) (cashOnly 5000)))

theorem restingBuy_run : Run (Allowed {} anyFill) (cashOnly 5000) restingBuy := by
  apply Run.followed (.followed (.followed .refl _ trivial) _ trivial)
  exact ⟨rfl, submitMeets_any _ _ _⟩

theorem frozenCash_correct_resting :
    ∃ account', restingBuy.db.accounts.find? "acct" = some account' ∧
      account'.cashFrozen = 0 + restingSum restingBuy.db (restingCost {} "acct") :=
  (frozenCash_correct restingBuy_run (by simp [cashOnly, Table.empty])).1 "acct"
    { accountId := "acct", cashAvailable := 5000, equity := 5000 } (by decide +kernel)

example : restingSum restingBuy.db (restingCost {} "acct") = 1000 := by decide +kernel

end SynapseYield.LocalSim
