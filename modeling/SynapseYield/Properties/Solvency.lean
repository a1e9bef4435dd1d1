import SynapseYield.Properties.Shares

set_option autoImplicit false

namespace SynapseYield.LocalSim

open Shared OrderService

variable {config : LocalSimConfig} {order : Order} {quote : MarketQuote} {price : ℚ}
  {db db' : Database} {target : OrderStatus} {accountId : String}

def availableOf (db : Database) (accountId : String) : Option ℚ :=
  (db.accounts.find? accountId).map Account.cashAvailable

theorem commission_mono (config : LocalSimConfig) {less more : ℚ} (le : less ≤ more) :
    commission config less ≤ commission config more := by
  unfold commission
  split
  next => exact le_rfl
  next => exact max_le_max_right _ (mul_le_mul_of_nonneg_right le config.rate_nonneg)

theorem commission_nonneg (config : LocalSimConfig) (grossAmount : ℚ) :
    0 ≤ commission config grossAmount := by
  unfold commission
  split
  next => exact le_rfl
  next => exact config.minimum_nonneg.trans (le_max_right _ _)

theorem fillCost_mono (config : LocalSimConfig) (order : OrderIntent) {less more : ℚ}
    (le : less ≤ more) : fillCost config order less ≤ fillCost config order more := by
  have gross := mul_le_mul_of_nonneg_left le order.quantity_pos.le
  exact add_le_add gross (commission_mono config gross)

theorem limitCost_nonneg (config : LocalSimConfig) (order : OrderIntent) :
    0 ≤ limitCost config order := by
  unfold limitCost
  cases given : order.limitPrice with
  | none => exact le_rfl
  | some limit =>
    exact add_nonneg (mul_nonneg order.quantity_pos.le (order.limit_pos limit given).le)
      (commission_nonneg config _)

theorem restingCost_nonneg (config : LocalSimConfig) (accountId : String) (order : OrderIntent) :
    0 ≤ restingCost config accountId order := by
  unfold restingCost chargedTo
  split
  next => exact limitCost_nonneg config order
  next => exact le_rfl

theorem fillPrice_limit_buy (buying : order.side = .buy) (unmarketed : order.orderType ≠ .market)
    (matched : fillPrice order quote = some price) :
    ∃ limit, order.limitPrice = some limit ∧ price ≤ limit.value := by
  cases limited : order.limitPrice with
  | none => exact absurd limited (order.limit_required unmarketed)
  | some limit =>
    simp only [fillPrice, unmarketed, if_false, limited, buying, reduceCtorEq, and_false,
      if_true] at matched
    split at matched
    next covers => exact ⟨limit, rfl, by rw [← Option.some.inj matched]; exact covers⟩
    next => cases matched

def availableChange (config : LocalSimConfig) (order : OrderIntent) (price : ℚ) : ℚ :=
  if order.side = .buy then reserveAmount config order price - fillCost config order price
  else order.quantity.value * price - commission config (order.quantity.value * price)

theorem Accepted.available (accepted : Accepted config order quote db db') (accountId : String) :
    availableOf db' accountId = (availableOf db accountId).map
      (· - chargedTo accountId order.toOrderIntent
        (reserveAmount config order.toOrderIntent quote.ask)) := by
  rw [availableOf, accepted.accountRow, availableOf, Option.map_map, Option.map_map]
  congr 1
  funext row
  by_cases charged : order.side = .buy ∧ order.accountId = accountId <;>
    simp [charged, chargedTo, frozenAccount]

theorem Cancelled.available (cancelled : Cancelled config order db db') (accountId : String) :
    availableOf db' accountId = (availableOf db accountId).map
      (· + chargedTo accountId order.toOrderIntent
        (reserveAmount config order.toOrderIntent 0)) := by
  rw [availableOf, cancelled.accountRow, availableOf, Option.map_map, Option.map_map]
  congr 1
  funext row
  by_cases charged : order.side = .buy ∧ order.accountId = accountId <;>
    simp [charged, chargedTo, thawedAccount]

theorem Settled.available (settled : Settled config order price db db') (accountId : String) :
    availableOf db' accountId = (availableOf db accountId).map
      (· + if order.accountId = accountId then availableChange config order.toOrderIntent price
        else 0) := by
  rw [availableOf, settled.accountRow, availableOf, Option.map_map, Option.map_map]
  congr 1
  funext row
  by_cases same : order.accountId = accountId
  · by_cases buying : order.side = .buy
    · simp [same, buying, revalued, filledAccount_buy config price _ row buying, boughtAccount,
        availableChange, fillCost]
    · simp [same, buying, revalued, filledAccount_sell config price _ row buying, soldAccount,
        availableChange]
  · simp [same]

-- A market buy that names a limit below the ask reserves too little, and the commission of
-- a sale can exceed its proceeds: both fills must find the difference in available cash.
def payable (config : LocalSimConfig) (db : Database) (order : Order) (price : ℚ) : Prop :=
  ∀ cash, availableOf db order.accountId = some cash →
    (order.side = .buy → order.orderType = .market →
      (∀ limit ∈ order.limitPrice, limit.value < price →
        fillCost config order.toOrderIntent price ≤ cash)) ∧
    (order.side ≠ .buy →
      commission config (order.quantity.value * price) ≤ order.quantity.value * price + cash)

structure Solvent (config : LocalSimConfig) (start db : Database) : Prop
    extends FrozenCash config start db where
  available : ∀ accountId cash, availableOf db accountId = some cash → 0 ≤ cash

theorem reserveAmount_covers (config : LocalSimConfig) (order : OrderIntent) {price limit : ℚ}
    (covers : price ≤ limit) (limited : (order.limitPrice.map Decimal.value).getD price = limit) :
    fillCost config order price ≤ reserveAmount config order price := by
  unfold reserveAmount
  rw [limited]
  exact fillCost_mono config order covers

theorem crossed_nonneg {cash : ℚ} (stored : availableOf db order.accountId = some cash)
    (funds : order.side = .buy → reserveAmount config order.toOrderIntent price ≤ cash)
    (matched : fillPrice order quote = some price) (met : payable config db order price) :
    0 ≤ cash - (if order.side = .buy then reserveAmount config order.toOrderIntent price else 0) +
      availableChange config order.toOrderIntent price := by
  obtain ⟨market, sale⟩ := met cash stored
  unfold availableChange
  by_cases buying : order.side = .buy
  · have affordable : fillCost config order.toOrderIntent price ≤ cash := by
      by_cases marketed : order.orderType = .market
      · cases limited : order.limitPrice with
        | none =>
          have covers := reserveAmount_covers config order.toOrderIntent (le_refl price)
            (by simp [limited])
          exact covers.trans (funds buying)
        | some limit =>
          by_cases below : limit.value < price
          · exact market buying marketed limit limited below
          · have covers := reserveAmount_covers config order.toOrderIntent (not_lt.mp below)
              (by simp [limited])
            exact covers.trans (funds buying)
      · obtain ⟨limit, limited, below⟩ := fillPrice_limit_buy buying marketed matched
        exact (reserveAmount_covers config order.toOrderIntent below (by simp [limited])).trans
          (funds buying)
    simp only [buying, if_true]
    linarith
  · have proceeds := sale buying
    simp only [buying, if_false]
    linarith

theorem settled_nonneg {cash : ℚ} (stored : availableOf db order.accountId = some cash)
    (before : 0 ≤ cash) (unmarketed : order.orderType ≠ .market)
    (matched : fillPrice order quote = some price) (met : payable config db order price) :
    0 ≤ cash + availableChange config order.toOrderIntent price := by
  unfold availableChange
  by_cases buying : order.side = .buy
  · obtain ⟨limit, limited, below⟩ := fillPrice_limit_buy buying unmarketed matched
    have covers := reserveAmount_covers config order.toOrderIntent below (by simp [limited])
    simp only [buying, if_true]
    linarith
  · have proceeds := (met cash stored).2 buying
    simp only [buying, if_false]
    linarith

theorem Accepted.funded (accepted : Accepted config order quote db db') {cash : ℚ}
    (stored : availableOf db order.accountId = some cash) (buying : order.side = .buy) :
    reserveAmount config order.toOrderIntent quote.ask ≤ cash := by
  obtain ⟨account, found, funds⟩ := accepted.funds
  rw [availableOf, found] at stored
  rw [← Option.some.inj stored]
  exact funds buying

theorem Solvent.step {start : Database} (inv : Solvent config start db)
    (step : Step config (payable config) db db') : Solvent config start db' := by
  refine { inv.toFrozenCash.step step with available := fun accountId cash found => ?_ }
  cases step with
  | quiet same =>
    rw [availableOf, same.accounts] at found
    exact inv.available accountId cash found
  | created order fresh =>
    rw [availableOf, fresh.accounts] at found
    exact inv.available accountId cash found
  | restatused order target changed =>
    rw [availableOf, changed.accounts] at found
    exact inv.available accountId cash found
  | rested order quote accepted unmatched =>
    rw [accepted.available] at found
    obtain ⟨old, stored, rfl⟩ := Option.map_eq_some_iff.mp found
    have before := inv.available accountId old stored
    unfold chargedTo
    split
    next charged =>
      obtain ⟨buying, rfl⟩ := charged
      exact sub_nonneg.mpr (accepted.funded stored buying)
    next => rwa [sub_zero]
  | crossed order submitted quote price accepted matched met settled same =>
    obtain ⟨_, rfl⟩ := accepted.submitted (same ▸ settled.stored)
    rw [settled.available, accepted.available] at found
    obtain ⟨_, reserved, rfl⟩ := Option.map_eq_some_iff.mp found
    obtain ⟨old, stored, rfl⟩ := Option.map_eq_some_iff.mp reserved
    by_cases own : order.accountId = accountId
    · subst own
      have funds : order.side = .buy →
          reserveAmount config order.toOrderIntent price ≤ old := fun buying => by
        rw [← reserveAmount_matched buying matched]
        exact accepted.funded stored buying
      have nonneg := crossed_nonneg stored funds matched met
      by_cases buying : order.side = .buy
      · simpa [chargedTo, buying, reserveAmount_matched buying matched] using nonneg
      · simpa [chargedTo, buying] using nonneg
    · simpa [chargedTo, own] using inv.available accountId old stored
  | settled order quote price resting matched met settled =>
    rw [settled.available] at found
    obtain ⟨old, stored, rfl⟩ := Option.map_eq_some_iff.mp found
    have before := inv.available accountId old stored
    have unmarketed := inv.unmarketed order (Table.find?_mem settled.stored) resting
    split
    next own =>
      subst own
      exact settled_nonneg stored before unmarketed matched met
    next => rwa [add_zero]
  | cancelled order cancelled =>
    rw [cancelled.available] at found
    obtain ⟨old, stored, rfl⟩ := Option.map_eq_some_iff.mp found
    have before := inv.available accountId old stored
    have limited := inv.limited (Table.find?_mem cancelled.stored) cancelled.submitted
    rw [reserveAmount_limitCost limited]
    exact add_nonneg before (restingCost_nonneg config accountId order.toOrderIntent)

theorem boughtTen_payable :
    SubmitMeets (payable {}) "ord_0" (quoteAt 100) approvedBuy.opened := by
  intro order price found _ _ _ cash _
  have limit : (approvedBuy.opened.db.orders.find? "ord_0").all
      (fun order => order.side = .buy ∧ order.orderType ≠ .market) := by decide +kernel
  rw [found] at limit
  simp only [Option.all_some, decide_eq_true_eq] at limit
  exact ⟨fun _ market => absurd market limit.2, fun selling => absurd limit.1 selling⟩

-- A market order whose limit of 50 sets the reservation, filled at an ask of 200.
def overdrawn : World :=
  perform (.submitOrder (.localSim {}) "t" "ord_0" (quoteAt 200))
    (perform (.runRiskCheck {} "t" "ord_0" none none)
      (perform (.createOrder "t" (limitIntent .buy .market 10 50)) (cashOnly 1000)))

end SynapseYield.LocalSim
