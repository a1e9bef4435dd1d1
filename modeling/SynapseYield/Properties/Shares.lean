import Mathlib.Algebra.Order.BigOperators.Group.List
import SynapseYield.Properties.CashLedger

set_option autoImplicit false

namespace SynapseYield.LocalSim

open Shared OrderService

variable {config : LocalSimConfig} {order : Order} {quote : MarketQuote} {price : ℚ}
  {db db' : Database} {target : OrderStatus} {accountId symbol : String}

def held (db : Database) (accountId symbol : String) : ℚ :=
  (positionOf db.positions accountId symbol).quantity

def sellable (db : Database) (accountId symbol : String) : ℚ :=
  (positionOf db.positions accountId symbol).availableQuantity

def reservedShares (accountId symbol : String) (order : OrderIntent) : ℚ :=
  if plainSell order ∧ order.accountId = accountId ∧ order.symbol = symbol then
    order.quantity.value
  else 0

theorem reservedShares_nonneg (accountId symbol : String) (order : OrderIntent) :
    0 ≤ reservedShares accountId symbol order := by
  unfold reservedShares
  split
  next => exact order.quantity_pos.le
  next => exact le_rfl

theorem restingSum_nonneg {value : OrderIntent → ℚ} (nonneg : ∀ order, 0 ≤ value order) :
    0 ≤ restingSum db value := by
  apply List.sum_nonneg
  intro amount member
  obtain ⟨order, -, rfl⟩ := List.mem_map.mp member
  split
  next => exact nonneg _
  next => exact le_rfl

theorem positionOf_map {positions positions' : Table (String × String) Position Position.key}
    {change : Position → Position}
    (rows : positions'.find? (accountId, symbol) =
      (positions.find? (accountId, symbol)).map change)
    (empty : change (emptyPosition accountId symbol) = emptyPosition accountId symbol ∨
      positions.find? (accountId, symbol) ≠ none) :
    positionOf positions' accountId symbol = change (positionOf positions accountId symbol) := by
  unfold positionOf
  rw [rows]
  cases found : positions.find? (accountId, symbol) with
  | none =>
    rcases empty with same | stored
    · exact same.symm
    · exact absurd found stored
  | some row => rfl

theorem Accepted.shares_locked (accepted : Accepted config order quote db db')
    (accountId symbol : String) :
    held db' accountId symbol = held db accountId symbol ∧
      sellable db' accountId symbol =
        sellable db accountId symbol - reservedShares accountId symbol order.toOrderIntent := by
  by_cases locked :
      plainSell order.toOrderIntent ∧ order.accountId = accountId ∧ order.symbol = symbol
  · obtain ⟨plain, rfl, rfl⟩ := locked
    obtain ⟨position, stored, -⟩ := accepted.shares plain
    have row := positionOf_map (accepted.positionRow order.accountId order.symbol)
      (.inr (by simp [stored]))
    simp only [held, sellable, row, reservedShares, plain, and_self, if_true, lockedPosition]
  · have row := positionOf_map (accepted.positionRow accountId symbol) (.inl (by simp [locked]))
    simp only [held, sellable, row, reservedShares, locked, if_false, sub_zero, and_self]

theorem Accepted.covered (accepted : Accepted config order quote db db')
    (plain : plainSell order.toOrderIntent) :
    order.quantity.value ≤ sellable db order.accountId order.symbol := by
  obtain ⟨position, stored, enough⟩ := accepted.shares plain
  simpa [sellable, positionOf, stored] using enough

theorem Cancelled.shares_unlocked (cancelled : Cancelled config order db db')
    (unfilled : order.accountId = accountId → order.symbol = symbol → order.filledQuantity = 0)
    (stored : order.accountId = accountId → order.symbol = symbol →
      plainSell order.toOrderIntent →
      db.positions.find? (order.accountId, order.symbol) ≠ none) :
    held db' accountId symbol = held db accountId symbol ∧
      sellable db' accountId symbol =
        sellable db accountId symbol + reservedShares accountId symbol order.toOrderIntent := by
  by_cases locked :
      plainSell order.toOrderIntent ∧ order.accountId = accountId ∧ order.symbol = symbol
  · obtain ⟨plain, rfl, rfl⟩ := locked
    have row := positionOf_map (cancelled.positionRow order.accountId order.symbol)
      (.inr (stored rfl rfl plain))
    simp only [held, sellable, row, reservedShares, plain, and_self, if_true, unlockedPosition,
      unfilled rfl rfl, sub_zero]
  · have row := positionOf_map (cancelled.positionRow accountId symbol) (.inl (by simp [locked]))
    simp only [held, sellable, row, reservedShares, locked, if_false, add_zero, and_self]

theorem filledPosition_available (order : OrderIntent) (price : ℚ) (row : Position) :
    (filledPosition config order price row).availableQuantity =
      row.availableQuantity + if order.side = .buy then order.quantity.value else 0 := by
  by_cases buying : order.side = .buy
  · simp [filledPosition_buy config price row buying, boughtPosition, valuedAt, buying]
  · rw [filledPosition_sell config price row buying, if_neg buying, add_zero]
    unfold valuedAt soldPosition
    split <;> rfl

theorem filledPosition_quantity (order : OrderIntent) (price : ℚ) (row : Position) :
    (filledPosition config order price row).quantity =
      if order.side = .buy then row.quantity + order.quantity.value
      else max 0 (row.quantity - order.quantity.value) := by
  by_cases buying : order.side = .buy
  · simp [filledPosition_buy config price row buying, boughtPosition, valuedAt, buying]
  · rw [filledPosition_sell config price row buying, if_neg buying]
    unfold valuedAt soldPosition
    split
    next oversold => exact (max_eq_left oversold).symm
    next left => exact (max_eq_right (le_of_not_ge left)).symm

theorem Settled.held_change (settled : Settled config order price db db')
    (accountId symbol : String) :
    held db' accountId symbol =
      if order.accountId = accountId ∧ order.symbol = symbol then
        if order.side = .buy then held db accountId symbol + order.quantity.value
        else max 0 (held db accountId symbol - order.quantity.value)
      else held db accountId symbol := by
  rw [held, settled.positionRow]
  split
  next => exact filledPosition_quantity _ _ _
  next => rfl

theorem Settled.sellable_change (settled : Settled config order price db db')
    (accountId symbol : String) :
    sellable db' accountId symbol = sellable db accountId symbol +
      if order.accountId = accountId ∧ order.symbol = symbol ∧ order.side = .buy then
        order.quantity.value else 0 := by
  rw [sellable, settled.positionRow]
  by_cases same : order.accountId = accountId ∧ order.symbol = symbol
  · rw [if_pos same, filledPosition_available]
    simp [same, sellable]
  · have other : ¬ (order.accountId = accountId ∧ order.symbol = symbol ∧ order.side = .buy) :=
      fun both => same ⟨both.1, both.2.1⟩
    simp [same, other, sellable]

-- The shares of one account and symbol are all accounted for.
structure SharesAt (db : Database) (accountId symbol : String) : Prop where
  accounted : sellable db accountId symbol + restingSum db (reservedShares accountId symbol) =
    held db accountId symbol
  nonneg : 0 ≤ sellable db accountId symbol
  unfilled : ∀ order ∈ db.orders.rows, order.accountId = accountId → order.symbol = symbol →
    order.status ≠ .filled → order.filledQuantity = 0

structure SharesConsistent (db : Database) (accountId : String) : Prop where
  accounted : ∀ symbol, sellable db accountId symbol +
    restingSum db (reservedShares accountId symbol) = held db accountId symbol
  nonneg : ∀ symbol, 0 ≤ sellable db accountId symbol
  unfilled : ∀ order ∈ db.orders.rows, order.accountId = accountId → order.status ≠ .filled →
    order.filledQuantity = 0

theorem sharesConsistent_iff :
    SharesConsistent db accountId ↔ ∀ symbol, SharesAt db accountId symbol := by
  constructor
  · intro inv symbol
    exact ⟨inv.accounted symbol, inv.nonneg symbol, fun order member own _ =>
      inv.unfilled order member own⟩
  · intro inv
    exact ⟨fun symbol => (inv symbol).accounted, fun symbol => (inv symbol).nonneg,
      fun order member own => (inv order.symbol).unfilled order member own rfl⟩

-- A bracket sell that fills finds no shares held.
def bracketUnheld (db : Database) (order : Order) (_ : ℚ) : Prop :=
  isBracketOrder order.toOrderIntent → held db order.accountId order.symbol = 0

theorem SharesAt.untouched (inv : SharesAt db accountId symbol)
    (positions : db'.positions = db.positions)
    (resting : ∀ value : OrderIntent → ℚ, restingSum db' value = restingSum db value)
    (unfilled : ∀ order ∈ db'.orders.rows, order.accountId = accountId → order.symbol = symbol →
      order.status ≠ .filled → order.filledQuantity = 0) :
    SharesAt db' accountId symbol := by
  refine ⟨?_, ?_, unfilled⟩
  · rw [sellable, held, positions, resting]
    exact inv.accounted
  · rw [sellable, positions]
    exact inv.nonneg

theorem SharesAt.modified {update : RowUpdate String Order Order.orderId}
    (inv : SharesAt db accountId symbol) (stored : db.orders.find? order.orderId = some order)
    (orders : db'.orders = db.orders.modify order.orderId update)
    (changed : (update.apply order).accountId = accountId →
      (update.apply order).symbol = symbol → (update.apply order).status ≠ .filled →
      (update.apply order).filledQuantity = 0) :
    ∀ row ∈ db'.orders.rows, row.accountId = accountId → row.symbol = symbol →
      row.status ≠ .filled → row.filledQuantity = 0 := by
  intro row member
  rcases mem_modified stored orders member with rfl | ⟨old, -⟩
  · exact changed
  · exact inv.unfilled row old

theorem SharesAt.accepted (inv : SharesAt db accountId symbol)
    (accepted : Accepted config order quote db db') : SharesAt db' accountId symbol := by
  obtain ⟨_, orders⟩ := accepted.orders
  obtain ⟨heldSame, locked⟩ := accepted.shares_locked accountId symbol
  refine ⟨?_, ?_, ?_⟩
  · rw [heldSame, locked, accepted.resting, ← inv.accounted]
    ring
  · rw [locked, reservedShares]
    split
    next reserving =>
      obtain ⟨plain, rfl, rfl⟩ := reserving
      linarith [accepted.covered plain]
    next => linarith [inv.nonneg]
  · exact inv.modified accepted.stored orders fun own same _ =>
      inv.unfilled order (Table.find?_mem accepted.stored) own same (by simp [accepted.approved])

theorem plainSell_or_bracket {order : OrderIntent} (selling : order.side ≠ .buy) :
    plainSell order ∨ isBracketOrder order := by
  by_cases bracket : isBracketOrder order
  · exact .inr bracket
  · have side : order.side = .sell := by
      cases given : order.side
      · exact absurd given selling
      · rfl
    exact .inl (by simp [plainSell, side, bracket])

theorem reservedShares_other {order : OrderIntent}
    (other : ¬ (order.accountId = accountId ∧ order.symbol = symbol)) :
    reservedShares accountId symbol order = 0 := by
  unfold reservedShares
  rw [if_neg fun all => other all.2]

theorem reservedShares_unreserved {order : OrderIntent} (unreserved : ¬ plainSell order) :
    reservedShares accountId symbol order = 0 := by
  unfold reservedShares
  rw [if_neg fun all => unreserved all.1]

theorem SharesAt.settled (inv : SharesAt db accountId symbol)
    (settled : Settled config order price db db') (submitted : order.status = .submitted)
    (met : order.accountId = accountId → order.symbol = symbol → bracketUnheld db order price) :
    SharesAt db' accountId symbol := by
  have accounted := inv.accounted
  have resting := settled.resting submitted (reservedShares accountId symbol)
  have remaining : 0 ≤ restingSum db' (reservedShares accountId symbol) :=
    restingSum_nonneg (reservedShares_nonneg accountId symbol)
  refine ⟨?_, ?_, ?_⟩
  · rw [settled.sellable_change, settled.held_change]
    by_cases same : order.accountId = accountId ∧ order.symbol = symbol
    · by_cases buying : order.side = .buy
      · have unreserved : ¬ plainSell order.toOrderIntent := by simp [plainSell, buying]
        rw [reservedShares_unreserved unreserved] at resting
        simp only [same, buying, and_self, if_true]
        linarith
      · rcases plainSell_or_bracket buying with plain | bracket
        · have reserved : reservedShares accountId symbol order.toOrderIntent =
              order.quantity.value := by simp [reservedShares, plain, same]
          rw [reserved] at resting
          have covered : 0 ≤ held db accountId symbol - order.quantity.value := by
            linarith [inv.nonneg]
          simp only [same, buying, and_self, and_false, if_true, if_false, max_eq_right covered]
          linarith
        · obtain ⟨rfl, rfl⟩ := same
          have unreserved : ¬ plainSell order.toOrderIntent := by simp [plainSell, bracket]
          have none := met rfl rfl bracket
          have sold : held db order.accountId order.symbol - order.quantity.value ≤ 0 := by
            linarith [order.quantity_pos]
          rw [reservedShares_unreserved unreserved] at resting
          simp only [buying, and_self, and_false, if_true, if_false, max_eq_left sold]
          linarith
    · have elsewhere : ¬ (order.accountId = accountId ∧ order.symbol = symbol ∧
          order.side = .buy) := fun all => same ⟨all.1, all.2.1⟩
      rw [reservedShares_other same] at resting
      simp only [same, elsewhere, if_false]
      linarith
  · rw [settled.sellable_change]
    have quantity := order.quantity_pos
    have nonneg := inv.nonneg
    split <;> linarith
  · exact inv.modified settled.stored settled.orders fun _ _ filled => absurd rfl filled

theorem SharesAt.cancelled (inv : SharesAt db accountId symbol)
    (cancelled : Cancelled config order db db') : SharesAt db' accountId symbol := by
  have unfilled : order.accountId = accountId → order.symbol = symbol →
      order.filledQuantity = 0 := fun own same =>
    inv.unfilled order (Table.find?_mem cancelled.stored) own same (by simp [cancelled.submitted])
  -- Without a position row the reserved shares of this order would not be accounted for.
  have stored : order.accountId = accountId → order.symbol = symbol →
      plainSell order.toOrderIntent →
      db.positions.find? (order.accountId, order.symbol) ≠ none := by
    rintro rfl rfl plain missing
    have accounted := inv.accounted
    have resting := cancelled.resting (reservedShares order.accountId order.symbol)
    have remaining : 0 ≤ restingSum db' (reservedShares order.accountId order.symbol) :=
      restingSum_nonneg (reservedShares_nonneg _ _)
    simp only [sellable, held, positionOf, missing, Option.getD_none, emptyPosition] at accounted
    simp only [reservedShares, plain, and_self, if_true] at resting remaining accounted
    linarith [order.quantity_pos]
  obtain ⟨heldSame, unlocked⟩ := cancelled.shares_unlocked unfilled stored
  refine ⟨?_, ?_, ?_⟩
  · rw [heldSame, unlocked, cancelled.resting, ← inv.accounted]
    ring
  · rw [unlocked]
    exact add_nonneg inv.nonneg (reservedShares_nonneg _ _ _)
  · exact inv.modified cancelled.stored cancelled.orders fun own same _ => unfilled own same

theorem bracketUnheld_accepted (accepted : Accepted config order quote db db')
    {submitted : Order} (same : submitted.toOrderIntent = order.toOrderIntent)
    (met : bracketUnheld db order price) : bracketUnheld db' submitted price := by
  intro bracket
  rw [same] at bracket ⊢
  rw [(accepted.shares_locked _ _).1]
  exact met bracket

theorem SharesAt.step {meets : Database → Order → ℚ → Prop} (inv : SharesAt db accountId symbol)
    (met : ∀ db order price, meets db order price → order.accountId = accountId →
      order.symbol = symbol → bracketUnheld db order price)
    (step : Step config meets db db') : SharesAt db' accountId symbol := by
  cases step with
  | quiet same =>
    refine inv.untouched same.positions same.resting ?_
    rw [same.orders]
    exact inv.unfilled
  | created order fresh =>
    refine inv.untouched fresh.positions fresh.resting fun row member own same open' => ?_
    rw [((Table.insert?_eq_some _ _ _).mp fresh.inserted).2] at member
    rcases List.mem_append.mp member with old | new
    · exact inv.unfilled row old own same open'
    · rw [List.mem_singleton.mp new]
      exact fresh.unfilled
  | restatused order target changed =>
    obtain ⟨_, orders⟩ := changed.orders
    have before := changed.before
    simp only [untraded, decide_eq_true_eq] at before
    exact inv.untouched changed.positions changed.resting
      (inv.modified changed.stored orders fun own same _ =>
        inv.unfilled order (Table.find?_mem changed.stored) own same before.2)
  | rested order quote accepted => exact inv.accepted accepted
  | crossed order submitted quote price accepted matched meeting settled same =>
    obtain ⟨_, rfl⟩ := accepted.submitted (same ▸ settled.stored)
    exact (inv.accepted accepted).settled settled rfl fun own symbol =>
      bracketUnheld_accepted accepted rfl (met db order price meeting own symbol)
  | settled order quote price resting matched meeting settled =>
    exact inv.settled settled resting (met db order price meeting)
  | cancelled order cancelled => exact inv.cancelled cancelled

theorem SharesConsistent.accepted (inv : SharesConsistent db accountId)
    (accepted : Accepted config order quote db db') : SharesConsistent db' accountId :=
  sharesConsistent_iff.mpr fun symbol => (sharesConsistent_iff.mp inv symbol).accepted accepted

theorem SharesConsistent.settled (inv : SharesConsistent db accountId)
    (settled : Settled config order price db db') (submitted : order.status = .submitted)
    (met : order.accountId = accountId → bracketUnheld db order price) :
    SharesConsistent db' accountId :=
  sharesConsistent_iff.mpr fun symbol =>
    (sharesConsistent_iff.mp inv symbol).settled settled submitted fun own _ => met own

theorem SharesConsistent.cancelled (inv : SharesConsistent db accountId)
    (cancelled : Cancelled config order db db') : SharesConsistent db' accountId :=
  sharesConsistent_iff.mpr fun symbol => (sharesConsistent_iff.mp inv symbol).cancelled cancelled

theorem SharesConsistent.step {meets : Database → Order → ℚ → Prop}
    (inv : SharesConsistent db accountId)
    (met : ∀ db order price, meets db order price → order.accountId = accountId →
      bracketUnheld db order price)
    (step : Step config meets db db') : SharesConsistent db' accountId :=
  sharesConsistent_iff.mpr fun symbol => (sharesConsistent_iff.mp inv symbol).step
    (fun db order price meeting own _ => met db order price meeting own) step

theorem SharesConsistent.steps {meets : Database → Order → ℚ → Prop}
    (met : ∀ db order price, meets db order price → order.accountId = accountId →
      bracketUnheld db order price)
    (steps : Steps config meets db db') (start : SharesConsistent db accountId) :
    SharesConsistent db' accountId := by
  induction steps with
  | refl => exact start
  | tail _ last inv => exact inv.step met last

theorem sharesConsistent_correct {w w' : World} (run : Run (Allowed config bracketUnheld) w w')
    (start : SharesConsistent w.db accountId) (symbol : String) :
    sellable w'.db accountId symbol + restingSum w'.db (reservedShares accountId symbol) =
        held w'.db accountId symbol ∧
      0 ≤ sellable w'.db accountId symbol ∧
      sellable w'.db accountId symbol ≤ held w'.db accountId symbol := by
  have inv := start.steps (fun _ _ _ met _ => met) (run_steps run)
  have accounted := inv.accounted symbol
  have resting : 0 ≤ restingSum w'.db (reservedShares accountId symbol) :=
    restingSum_nonneg (reservedShares_nonneg accountId symbol)
  exact ⟨accounted, inv.nonneg symbol, by linarith⟩

def approvedBuy : World :=
  perform (.runRiskCheck {} "t" "ord_0" none none)
    (perform (.createOrder "t" (limitIntent .buy .limit 10 100)) (cashOnly 5000))

def boughtTen : World :=
  perform (.submitOrder (.localSim {}) "t" "ord_0" (quoteAt 100)) approvedBuy

def approvedStop : World :=
  perform (.runRiskCheck {} "t" "ord_6" none none)
    (perform (.createOrder "t" (limitIntent .sell .stopLimit 10 100)) boughtTen)

def stopSold : World :=
  perform (.submitOrder (.localSim {}) "t" "ord_6" (quoteAt 90)) approvedStop

theorem cashOnly_consistent (cash : ℚ) (accountId : String) :
    SharesConsistent (cashOnly cash).db accountId where
  accounted := by
    simp [sellable, held, positionOf, restingSum, cashOnly, Table.empty, Table.find?, Table.sum,
      emptyPosition]
  nonneg := by
    simp [sellable, positionOf, cashOnly, Table.empty, Table.find?, emptyPosition]
  unfilled := by simp [cashOnly, Table.empty]

theorem boughtTen_run {meets : Database → Order → ℚ → Prop}
    (met : SubmitMeets meets "ord_0" (quoteAt 100) approvedBuy.opened) :
    Run (Allowed {} meets) (cashOnly 5000) boughtTen :=
  .followed (.followed (.followed .refl _ trivial) _ trivial) _ ⟨rfl, met⟩

theorem boughtTen_met : SubmitMeets bracketUnheld "ord_0" (quoteAt 100) approvedBuy.opened := by
  intro order price found _ _ _ bracket
  have plain : (approvedBuy.opened.db.orders.find? "ord_0").all
      (fun order => !isBracketOrder order.toOrderIntent) := by decide +kernel
  rw [found] at plain
  simp [bracket] at plain

theorem sharesConsistent_correct_bought :
    sellable boughtTen.db "acct" "AAPL.US" +
        restingSum boughtTen.db (reservedShares "acct" "AAPL.US") =
      held boughtTen.db "acct" "AAPL.US" ∧
    0 ≤ sellable boughtTen.db "acct" "AAPL.US" ∧
    sellable boughtTen.db "acct" "AAPL.US" ≤ held boughtTen.db "acct" "AAPL.US" :=
  sharesConsistent_correct (boughtTen_run boughtTen_met) (cashOnly_consistent 5000 _) _

theorem approvedStop_consistent (accountId : String) :
    SharesConsistent approvedStop.db accountId := by
  have run : Run (Allowed {} bracketUnheld) (cashOnly 5000) approvedStop := by
    refine .followed (.followed (boughtTen_run boughtTen_met) _ ?_) _ ?_
    · trivial
    · trivial
  exact (cashOnly_consistent 5000 accountId).steps (fun _ _ _ met _ => met) (run_steps run)

theorem stopSold_inconsistent :
    (∀ accountId, SharesConsistent approvedStop.db accountId) ∧
      Run (Allowed {} anyFill) approvedStop stopSold ∧
      sellable stopSold.db "acct" "AAPL.US" = 10 ∧ held stopSold.db "acct" "AAPL.US" = 0 ∧
      restingSum stopSold.db (reservedShares "acct" "AAPL.US") = 0 := by
  refine ⟨approvedStop_consistent, ?_, by decide +kernel, by decide +kernel, by decide +kernel⟩
  exact .followed .refl _ ⟨rfl, submitMeets_any _ _ _⟩

end SynapseYield.LocalSim
