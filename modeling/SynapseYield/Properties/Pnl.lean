import SynapseYield.Properties.NetFills
import SynapseYield.Shared.Holdings

set_option autoImplicit false

namespace SynapseYield.LocalSim

open Shared OrderService

variable {config : LocalSimConfig} {order : Order} {quote : MarketQuote} {price : ℚ}
  {db db' : Database} {target : OrderStatus} {accountId symbol : String}

def tradeOf (fill : Fill) : Trade ℚ :=
  if fill.side = .buy then .bought fill.quantity (fill.quantity * fill.price + fill.commission)
  else .sold fill.quantity

-- The shares of an account under weighted-average costing, from its fills alone.
def holdingOf (db : Database) (accountId symbol : String) : Holding ℚ :=
  Holding.after ((fillsIn db accountId symbol).map tradeOf)

def avgCostOf (db : Database) (accountId symbol : String) : ℚ :=
  (positionOf db.positions accountId symbol).avgCost

def costBasis (position : Position) : ℚ := position.quantity * position.avgCost

-- Only MARKET and LIMIT orders of the account fill.
def plainFills (accountId : String) (_ : Database) (order : Order) (_ : ℚ) : Prop :=
  order.accountId = accountId → order.orderType = .market ∨ order.orderType = .limit

theorem plainFills_unbracketed {order : Order}
    (met : order.orderType = .market ∨ order.orderType = .limit) :
    isBracketOrder order.toOrderIntent = false := by
  rcases met with plain | plain <;> simp [isBracketOrder, plain]

def MarkedToMarket (position : Position) : Prop :=
  position.unrealizedPnl = position.marketValue - costBasis position

structure ProfitAndLoss (initial : ℚ) (db : Database) (accountId : String) : Prop where
  shares : SharesConsistent db accountId
  traced : Traced db
  stands : ∀ symbol, Holding.Stands (held db accountId symbol) (avgCostOf db accountId symbol)
    (holdingOf db accountId symbol)
  marked : ∀ position ∈ db.positions.rows, position.accountId = accountId →
    MarkedToMarket position
  cash : ∀ account, db.accounts.find? accountId = some account →
    account.cashAvailable + account.cashFrozen + positionSum db accountId costBasis =
      initial + account.realizedPnl
  equity : ∀ account, db.accounts.find? accountId = some account →
    account.equity = account.cashAvailable + account.cashFrozen + totalMarketValue db accountId
  unrealized : ∀ account, db.accounts.find? accountId = some account →
    account.unrealizedPnl = positionSum db accountId Position.unrealizedPnl

theorem filledPosition_marked (order : OrderIntent) (price : ℚ) (row : Position) :
    MarkedToMarket (filledPosition config order price row) := by
  unfold filledPosition
  split <;> rfl

theorem held_nonneg (shares : SharesConsistent db accountId) (symbol : String) :
    0 ≤ held db accountId symbol := by
  have resting : 0 ≤ restingSum db (reservedShares accountId symbol) :=
    restingSum_nonneg (reservedShares_nonneg accountId symbol)
  linarith [shares.accounted symbol, shares.nonneg symbol]

theorem Settled.sale_covered (settled : Settled config order price db db')
    (submitted : order.status = .submitted) (shares : SharesConsistent db order.accountId)
    (plain : plainSell order.toOrderIntent) :
    order.quantity.value ≤ held db order.accountId order.symbol := by
  have resting := settled.resting submitted (reservedShares order.accountId order.symbol)
  have remaining : 0 ≤ restingSum db' (reservedShares order.accountId order.symbol) :=
    restingSum_nonneg (reservedShares_nonneg _ _)
  have own : reservedShares order.accountId order.symbol order.toOrderIntent =
      order.quantity.value := by simp [reservedShares, plain]
  rw [own] at resting
  linarith [shares.accounted order.symbol, shares.nonneg order.symbol]

theorem filledPosition_bought {row : Position} (order : OrderIntent) (price : ℚ)
    (buying : order.side = .buy) (nonneg : 0 ≤ row.quantity) :
    (filledPosition config order price row).quantity = row.quantity + order.quantity.value ∧
      (filledPosition config order price row).avgCost =
        (row.quantity * row.avgCost + fillCost config order price) /
          (row.quantity + order.quantity.value) := by
  have some : ¬ row.quantity + order.quantity.value ≤ 0 := by linarith [order.quantity_pos]
  rw [filledPosition_buy config price row buying]
  exact ⟨rfl, if_neg some⟩

theorem soldPosition_stands {row : Position} {holding : Holding ℚ} {quantity : ℚ}
    (stands : Holding.Stands row.quantity row.avgCost holding) (some : 0 < quantity)
    (covered : quantity ≤ row.quantity) :
    Holding.Stands (soldPosition row quantity).quantity (soldPosition row quantity).avgCost
      (holding.trade (.sold quantity)) := by
  have shares : row.quantity ≠ 0 := by linarith
  by_cases left : row.quantity - quantity ≤ 0
  · have all : quantity = row.quantity := by linarith
    have sold : holding.trade (.sold quantity) = Holding.none := by
      rw [all, stands.shares]
      exact Holding.sold_out (stands.shares ▸ shares)
    rw [soldPosition, if_pos left, sold]
    exact ⟨rfl, by simp [Holding.none]⟩
  · rw [soldPosition, if_neg left]
    exact stands.sold shares quantity

theorem Settled.stands (settled : Settled config order price db db')
    (submitted : order.status = .submitted) (shares : SharesConsistent db accountId)
    (met : plainFills accountId db order price)
    (stands : ∀ symbol, Holding.Stands (held db accountId symbol) (avgCostOf db accountId symbol)
      (holdingOf db accountId symbol)) (symbol : String) :
    Holding.Stands (held db' accountId symbol) (avgCostOf db' accountId symbol)
      (holdingOf db' accountId symbol) := by
  obtain ⟨fill, side, quantity, priced, charge, fills⟩ := settled.fillsIn accountId symbol
  have row := settled.positionRow accountId symbol
  by_cases same : order.accountId = accountId ∧ order.symbol = symbol
  · obtain ⟨rfl, rfl⟩ := same
    have traded : holdingOf db' order.accountId order.symbol =
        (holdingOf db order.accountId order.symbol).trade (tradeOf fill) := by
      rw [holdingOf, fills, if_pos ⟨rfl, rfl⟩, List.map_append, List.map_singleton,
        Holding.after_append]
      rfl
    rw [if_pos ⟨rfl, rfl⟩] at row
    rw [traded, held, avgCostOf, row]
    have before := stands order.symbol
    have nonneg := held_nonneg shares order.symbol
    by_cases buying : order.side = .buy
    · have trade : tradeOf fill =
          .bought order.quantity.value (fillCost config order.toOrderIntent price) := by
        simp [tradeOf, side, buying, quantity, priced, charge, fillCost]
      obtain ⟨shares', cost⟩ := @filledPosition_bought config _ order.toOrderIntent price buying
        nonneg
      rw [trade, shares', cost]
      exact before.bought _ _ (by linarith [order.quantity_pos])
    · have trade : tradeOf fill = .sold order.quantity.value := by
        simp [tradeOf, side, buying, quantity]
      have plain : plainSell order.toOrderIntent :=
        (plainSell_or_bracket buying).resolve_right
          (by simp [plainFills_unbracketed (met rfl)])
      rw [trade, filledPosition_sell config price _ buying]
      exact soldPosition_stands before order.quantity_pos
        (settled.sale_covered submitted shares plain)
  · have traded : holdingOf db' accountId symbol = holdingOf db accountId symbol := by
      rw [holdingOf, fills, if_neg same, List.append_nil]
      rfl
    rw [if_neg same] at row
    rw [traded, held, avgCostOf, row]
    exact stands symbol

theorem costBasis_filled (order : OrderIntent) (price : ℚ) {row : Position}
    (nonneg : 0 ≤ row.quantity) (covered : order.side ≠ .buy → order.quantity.value ≤ row.quantity)
    (account : Account) :
    cashAmount config order price +
        (costBasis (filledPosition config order price row) - costBasis row) =
      (filledAccount config order price row.avgCost account).realizedPnl -
        account.realizedPnl := by
  by_cases buying : order.side = .buy
  · obtain ⟨shares, cost⟩ := @filledPosition_bought config row order price buying nonneg
    have some : row.quantity + order.quantity.value ≠ 0 := by linarith [order.quantity_pos]
    rw [filledAccount_buy config price _ _ buying, costBasis, shares, cost,
      mul_div_cancel₀ _ some]
    simp only [cashAmount, buying, if_true, boughtAccount, costBasis, fillCost]
    ring
  · have sold : costBasis (filledPosition config order price row) =
        (row.quantity - order.quantity.value) * row.avgCost := by
      rw [filledPosition_sell config price _ buying]
      by_cases left : row.quantity - order.quantity.value ≤ 0
      · have all : row.quantity - order.quantity.value = 0 := by linarith [covered buying]
        simp [costBasis, valuedAt, soldPosition, all]
      · simp [costBasis, valuedAt, soldPosition, left]
    rw [filledAccount_sell config price _ _ buying, sold]
    simp only [cashAmount, buying, if_false, soldAccount, costBasis]
    ring

theorem Settled.marked (settled : Settled config order price db db')
    (marked : ∀ position ∈ db.positions.rows, position.accountId = accountId →
      MarkedToMarket position) :
    ∀ position ∈ db'.positions.rows, position.accountId = accountId →
      MarkedToMarket position := by
  intro position member own
  rw [settled.positions, Table.mem_modify] at member
  rcases member with ⟨old, -, rfl⟩ | ⟨kept, -⟩
  · exact filledPosition_marked _ _ _
  · rcases Table.mem_ensure kept with stored | rfl
    · exact marked position stored own
    · simp [MarkedToMarket, emptyPosition, costBasis]

theorem ProfitAndLoss.settled {initial : ℚ} (inv : ProfitAndLoss initial db accountId)
    (settled : Settled config order price db db') (submitted : order.status = .submitted)
    (met : plainFills accountId db order price) : ProfitAndLoss initial db' accountId := by
  have unheld : order.accountId = accountId → bracketUnheld db order price := by
    intro own bracket
    simp [plainFills_unbracketed (met own)] at bracket
  have basis := @Settled.positionSum _ _ _ _ _ settled accountId costBasis
    (by simp [costBasis, emptyPosition])
  refine ⟨inv.shares.settled settled submitted unheld, settled.traced inv.traced,
    settled.stands submitted inv.shares met inv.stands, settled.marked inv.marked, ?_, ?_, ?_⟩
  all_goals
    intro account found
    rw [settled.accountRow] at found
    obtain ⟨old, stored, rfl⟩ := Option.map_eq_some_iff.mp found
    have owner : old.accountId = accountId := Table.find?_key stored
  · have before := inv.cash old stored
    by_cases own : order.accountId = accountId
    · subst own
      have covered : order.side ≠ .buy →
          order.quantity.value ≤ held db order.accountId order.symbol := fun selling =>
        settled.sale_covered submitted inv.shares
          ((plainSell_or_bracket selling).resolve_right
            (by simp [plainFills_unbracketed (met rfl)]))
      have moved := @costBasis_filled config order.toOrderIntent price _
        (held_nonneg inv.shares order.symbol) covered old
      have cash := @filledAccount_cash config order.toOrderIntent price
        (positionOf db.positions order.accountId order.symbol).avgCost old
      simp only [if_true] at basis
      simp only [if_true, revalued]
      rw [basis]
      linarith
    · simp only [own, if_false, add_zero] at basis ⊢
      rw [basis]
      exact before
  · by_cases own : order.accountId = accountId
    · simp only [own, if_true, revalued, filledAccount_id, owner]
    · simp only [own, if_false]
      rw [settled.otherMarketValue own]
      exact inv.equity old stored
  · by_cases own : order.accountId = accountId
    · simp only [own, if_true, revalued, filledAccount_id, owner, totalUnrealizedPnl_sum]
    · simp only [own, if_false]
      rw [settled.positionSum accountId (fun _ _ => rfl), if_neg own, add_zero]
      exact inv.unrealized old stored

theorem ProfitAndLoss.moved {initial : ℚ} (inv : ProfitAndLoss initial db accountId)
    (shares : SharesConsistent db' accountId) (traced : Traced db')
    (holdings : ∀ symbol, held db' accountId symbol = held db accountId symbol ∧
      avgCostOf db' accountId symbol = avgCostOf db accountId symbol ∧
      fillsIn db' accountId symbol = fillsIn db accountId symbol)
    (marked : ∀ position ∈ db'.positions.rows, position.accountId = accountId →
      MarkedToMarket position)
    (basis : positionSum db' accountId costBasis = positionSum db accountId costBasis)
    (value : positionSum db' accountId Position.marketValue =
      positionSum db accountId Position.marketValue)
    (unrealized : positionSum db' accountId Position.unrealizedPnl =
      positionSum db accountId Position.unrealizedPnl)
    (rows : ∀ account', db'.accounts.find? accountId = some account' →
      ∃ account, db.accounts.find? accountId = some account ∧
        account'.cashAvailable + account'.cashFrozen =
          account.cashAvailable + account.cashFrozen ∧
        account'.equity = account.equity ∧ account'.realizedPnl = account.realizedPnl ∧
        account'.unrealizedPnl = account.unrealizedPnl) :
    ProfitAndLoss initial db' accountId := by
  refine ⟨shares, traced, fun symbol => ?_, marked, ?_, ?_, ?_⟩
  · obtain ⟨heldSame, avgCost, fills⟩ := holdings symbol
    rw [heldSame, avgCost, holdingOf, fills]
    exact inv.stands symbol
  all_goals
    intro account' found
    obtain ⟨account, stored, cash, equity, realized, open'⟩ := rows account' found
  · rw [cash, realized, basis]
    exact inv.cash account stored
  · rw [cash, equity, totalMarketValue_sum, value, ← totalMarketValue_sum]
    exact inv.equity account stored
  · rw [open', unrealized]
    exact inv.unrealized account stored

theorem ProfitAndLoss.accepted {initial : ℚ} (inv : ProfitAndLoss initial db accountId)
    (accepted : Accepted config order quote db db') : ProfitAndLoss initial db' accountId := by
  refine inv.moved (inv.shares.accepted accepted)
    (inv.traced.same accepted.fills fun fill _ => accepted.owners fill.orderId)
    (fun symbol => ⟨accepted.position_same (fun _ _ => rfl) _ _,
      accepted.position_same (fun _ _ => rfl) _ _,
      fillsIn_same accepted.fills (fun fill _ => accepted.owners fill.orderId) _ _⟩)
    ?_ (accepted.positionSum _ fun _ _ => rfl) (accepted.positionSum _ fun _ _ => rfl)
    (accepted.positionSum _ fun _ _ => rfl) ?_
  · intro position member own
    rw [accepted.positions] at member
    split at member
    next =>
      rw [Table.mem_modify] at member
      rcases member with ⟨old, stored, rfl⟩ | ⟨kept, -⟩
      · exact inv.marked old (Table.find?_mem stored) own
      · exact inv.marked position kept own
    next => exact inv.marked position member own
  · intro account' found
    rw [accepted.accountRow] at found
    obtain ⟨account, stored, rfl⟩ := Option.map_eq_some_iff.mp found
    refine ⟨account, stored, ?_⟩
    split <;> simp [frozenAccount]

theorem ProfitAndLoss.cancelled {initial : ℚ} (inv : ProfitAndLoss initial db accountId)
    (cancelled : Cancelled config order db db') : ProfitAndLoss initial db' accountId := by
  refine inv.moved (inv.shares.cancelled cancelled)
    (inv.traced.same cancelled.fills fun fill _ => cancelled.owners fill.orderId)
    (fun symbol => ⟨cancelled.position_same (fun _ _ => rfl) _ _,
      cancelled.position_same (fun _ _ => rfl) _ _,
      fillsIn_same cancelled.fills (fun fill _ => cancelled.owners fill.orderId) _ _⟩)
    ?_ (cancelled.positionSum _ fun _ _ => rfl) (cancelled.positionSum _ fun _ _ => rfl)
    (cancelled.positionSum _ fun _ _ => rfl) ?_
  · intro position member own
    rw [cancelled.positions] at member
    split at member
    next =>
      rw [Table.mem_modify] at member
      rcases member with ⟨old, stored, rfl⟩ | ⟨kept, -⟩
      · exact inv.marked old (Table.find?_mem stored) own
      · exact inv.marked position kept own
    next => exact inv.marked position member own
  · intro account' found
    rw [cancelled.accountRow] at found
    obtain ⟨account, stored, rfl⟩ := Option.map_eq_some_iff.mp found
    refine ⟨account, stored, ?_⟩
    split
    next =>
      refine ⟨?_, rfl, rfl, rfl⟩
      simp only [thawedAccount]
      ring
    next => simp

theorem ProfitAndLoss.untouched {initial : ℚ} (inv : ProfitAndLoss initial db accountId)
    (accounts : db'.accounts = db.accounts) (positions : db'.positions = db.positions)
    (fills : db'.fills = db.fills)
    (owners : ∀ fill ∈ db.fills, ownerOf db' fill.orderId = ownerOf db fill.orderId)
    (shares : SharesConsistent db' accountId) : ProfitAndLoss initial db' accountId := by
  refine inv.moved shares (inv.traced.same fills owners) (fun symbol => ?_) ?_ ?_ ?_ ?_ ?_
  · exact ⟨by rw [held, held, positions], by rw [avgCostOf, avgCostOf, positions],
      fillsIn_same fills owners _ _⟩
  · rw [positions]
    exact inv.marked
  all_goals try rw [positionSum, positionSum, positions]
  rw [accounts]
  exact fun account found => ⟨account, found, rfl, rfl, rfl, rfl⟩

theorem ProfitAndLoss.step {initial : ℚ} (inv : ProfitAndLoss initial db accountId)
    (step : Step config (plainFills accountId) db db') : ProfitAndLoss initial db' accountId := by
  have shares : SharesConsistent db' accountId := inv.shares.step
    (fun _ _ _ met own bracket => by simp [plainFills_unbracketed (met own)] at bracket) step
  cases step with
  | quiet same =>
    exact inv.untouched same.accounts same.positions same.fills
      (fun _ _ => by rw [ownerOf, ownerOf, same.orders]) shares
  | created order fresh =>
    exact inv.untouched fresh.accounts fresh.positions fresh.fills (fresh.owners inv.traced) shares
  | restatused order target changed =>
    exact inv.untouched changed.accounts changed.positions changed.fills
      (fun fill _ => changed.owners fill.orderId) shares
  | rested order quote accepted => exact inv.accepted accepted
  | crossed order submitted quote price accepted matched met settled same =>
    obtain ⟨_, rfl⟩ := accepted.submitted (same ▸ settled.stored)
    exact (inv.accepted accepted).settled settled rfl met
  | settled order quote price resting matched met settled => exact inv.settled settled resting met
  | cancelled order cancelled => exact inv.cancelled cancelled

theorem ProfitAndLoss.steps {initial : ℚ}
    (steps : Steps config (plainFills accountId) db db')
    (start : ProfitAndLoss initial db accountId) : ProfitAndLoss initial db' accountId := by
  induction steps with
  | refl => exact start
  | tail _ last inv => exact inv.step last

theorem marked_sum (marked : ∀ position ∈ db.positions.rows, position.accountId = accountId →
    MarkedToMarket position) :
    positionSum db accountId Position.unrealizedPnl =
      positionSum db accountId Position.marketValue - positionSum db accountId costBasis := by
  unfold positionSum Table.sum
  generalize db.positions.rows = rows at marked ⊢
  induction rows with
  | nil => simp
  | cons head rest ih =>
    have tail := ih fun position member => marked position (List.mem_cons_of_mem _ member)
    simp only [List.map_cons, List.sum_cons, tail]
    by_cases own : head.accountId = accountId
    · have first : MarkedToMarket head := marked head List.mem_cons_self own
      simp only [own, if_true]
      rw [first]
      ring
    · simp [own]

structure Unopened (db : Database) (accountId : String) : Prop where
  positions : ∀ position ∈ db.positions.rows, position.accountId ≠ accountId
  orders : ∀ order ∈ db.orders.rows, order.accountId = accountId →
    (order.status = .submitted → order.side = .buy) ∧ order.filledQuantity = 0
  fills : ∀ fill ∈ db.fills, ownerOf db fill.orderId ≠ some accountId
  traced : Traced db

theorem Unopened.position (unopened : Unopened db accountId) (symbol : String) :
    positionOf db.positions accountId symbol = emptyPosition accountId symbol := by
  have missing : db.positions.find? (accountId, symbol) = none := by
    rw [Table.find?_eq_none]
    exact fun row stored key => unopened.positions row stored (congrArg Prod.fst key)
  rw [positionOf, missing]
  rfl

theorem Unopened.positionSum (unopened : Unopened db accountId) (value : Position → ℚ) :
    positionSum db accountId value = 0 := by
  apply List.sum_eq_zero
  intro amount member
  obtain ⟨row, stored, rfl⟩ := List.mem_map.mp member
  exact if_neg (unopened.positions row stored)

theorem Unopened.shares (unopened : Unopened db accountId) : SharesConsistent db accountId := by
  refine ⟨fun symbol => ?_, fun symbol => ?_, fun order member own _ => ?_⟩
  · have none : restingSum db (reservedShares accountId symbol) = 0 := by
      apply List.sum_eq_zero
      intro amount member
      obtain ⟨order, stored, rfl⟩ := List.mem_map.mp member
      by_cases own : order.accountId = accountId
      · have buys := (unopened.orders order stored own).1
        simp only [reservedShares, plainSell]
        split
        next submitted => simp [buys submitted]
        next => rfl
      · simp [reservedShares, own]
    rw [none, sellable, held, unopened.position]
    exact add_zero 0
  · rw [sellable, unopened.position]
    exact le_rfl
  · exact (unopened.orders order member own).2

theorem Unopened.fillsIn (unopened : Unopened db accountId) (symbol : String) :
    fillsIn db accountId symbol = [] := by
  rw [LocalSim.fillsIn, List.filter_eq_nil_iff]
  intro fill member
  simp [unopened.fills fill member]

theorem Unopened.start (unopened : Unopened db accountId) {account : Account}
    (found : db.accounts.find? accountId = some account) (realized : account.realizedPnl = 0)
    (unrealized : account.unrealizedPnl = 0)
    (equity : account.equity = account.cashAvailable + account.cashFrozen) :
    ProfitAndLoss (account.cashAvailable + account.cashFrozen) db accountId where
  shares := unopened.shares
  traced := unopened.traced
  stands := by
    intro symbol
    rw [held, avgCostOf, unopened.position, holdingOf, unopened.fillsIn]
    exact ⟨rfl, by simp [emptyPosition, Holding.after, Holding.none]⟩
  marked := fun position member own => absurd own (unopened.positions position member)
  cash := by
    intro stored same
    rw [found] at same
    obtain rfl := Option.some.inj same
    rw [unopened.positionSum, realized]
  equity := by
    intro stored same
    rw [found] at same
    obtain rfl := Option.some.inj same
    rw [totalMarketValue_sum, unopened.positionSum, equity, add_zero]
  unrealized := by
    intro stored same
    rw [found] at same
    obtain rfl := Option.some.inj same
    rw [unopened.positionSum, unrealized]

theorem profitAndLoss_correct {w w' : World} {account : Account}
    (run : Run (Allowed config (plainFills accountId)) w w') (unopened : Unopened w.db accountId)
    (found : w.db.accounts.find? accountId = some account) (realized : account.realizedPnl = 0)
    (unrealized : account.unrealizedPnl = 0)
    (equity : account.equity = account.cashAvailable + account.cashFrozen) :
    (∃ account', w'.db.accounts.find? accountId = some account' ∧
      account'.equity = account.cashAvailable + account.cashFrozen + account'.realizedPnl +
        account'.unrealizedPnl) ∧
    ∀ symbol,
      held w'.db accountId symbol = (holdingOf w'.db accountId symbol).shares ∧
      held w'.db accountId symbol * avgCostOf w'.db accountId symbol =
        (holdingOf w'.db accountId symbol).cost := by
  have steps := run_steps run
  have inv := ProfitAndLoss.steps steps (unopened.start found realized unrealized equity)
  refine ⟨?_, fun symbol => ⟨(inv.stands symbol).shares, (inv.stands symbol).cost⟩⟩
  have kept := steps.accounts_kept accountId
  rw [found, Option.isSome_some, Option.isSome_iff_exists] at kept
  obtain ⟨account', found'⟩ := kept
  refine ⟨account', found', ?_⟩
  rw [inv.equity account' found', inv.unrealized account' found', marked_sum inv.marked,
    totalMarketValue_sum]
  linarith [inv.cash account' found']

theorem boughtTen_plain :
    SubmitMeets (plainFills "acct") "ord_0" (quoteAt 100) approvedBuy.opened := by
  intro order price found _ _ _ _
  have limit : (approvedBuy.opened.db.orders.find? "ord_0").all
      (fun order => order.orderType = .limit) := by decide +kernel
  rw [found] at limit
  exact .inr (by simpa using limit)

theorem cashOnly_unopened (cash : ℚ) (accountId : String) :
    Unopened (cashOnly cash).db accountId where
  positions := by simp [cashOnly, Table.empty]
  orders := by simp [cashOnly, Table.empty]
  fills := by simp [cashOnly]
  traced := by simp [Traced, cashOnly]

theorem profitAndLoss_correct_bought :
    ∃ account', boughtTen.db.accounts.find? "acct" = some account' ∧
      account'.equity = 5000 + 0 + account'.realizedPnl + account'.unrealizedPnl :=
  (profitAndLoss_correct (boughtTen_run boughtTen_plain) (cashOnly_unopened 5000 "acct")
    (show (cashOnly 5000).db.accounts.find? "acct" =
      some { accountId := "acct", cashAvailable := 5000, equity := 5000 } by decide +kernel)
    rfl rfl (by simp)).1

end SynapseYield.LocalSim
