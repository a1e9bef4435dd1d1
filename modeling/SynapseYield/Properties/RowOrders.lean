import Mathlib.Algebra.Order.BigOperators.Group.List
import Mathlib.Tactic.Linarith
import Mathlib.Tactic.Ring
import SynapseYield.Broker.LocalEffects
import SynapseYield.Broker.LocalReturns
import SynapseYield.Harness.Operations

set_option autoImplicit false

namespace SynapseYield.LocalSim

open Shared OrderService

abbrev Match := Order × ℚ

def matchesOf (orders : List Order) (quote : MarketQuote) : List Match :=
  orders.filterMap fun order => (fillPrice order quote).map (order, ·)

def SettledAll (config : LocalSimConfig) : List Match → Database → Database → Prop
  | [], db, db' => db' = db
  | (order, price) :: rest, db, db' =>
    ∃ mid, Settled config order price db mid ∧ SettledAll config rest mid db'

structure Book where
  baseCurrency : String
  cashAvailable : ℚ
  cashFrozen : ℚ
  realizedPnl : ℚ
  position : Position

def bookOf (db : Database) (accountId symbol : String) : Option Book :=
  (db.accounts.find? accountId).map fun row =>
    { baseCurrency := row.baseCurrency, cashAvailable := row.cashAvailable
      cashFrozen := row.cashFrozen, realizedPnl := row.realizedPnl
      position := positionOf db.positions accountId symbol }

def availableDelta (config : LocalSimConfig) (filled : Match) : ℚ :=
  let grossAmount := filled.1.quantity.value * filled.2
  if filled.1.side = .buy then
    reserveAmount config filled.1.toOrderIntent filled.2 - (grossAmount + commission config grossAmount)
  else grossAmount - commission config grossAmount

def frozenDelta (config : LocalSimConfig) (filled : Match) : ℚ :=
  if filled.1.side = .buy then -reserveAmount config filled.1.toOrderIntent filled.2 else 0

def Book.fill (config : LocalSimConfig) (book : Book) (filled : Match) : Book :=
  let grossAmount := filled.1.quantity.value * filled.2
  { book with
    cashAvailable := book.cashAvailable + availableDelta config filled
    cashFrozen := book.cashFrozen + frozenDelta config filled
    realizedPnl :=
      if filled.1.side = .buy then book.realizedPnl
      else book.realizedPnl + ((filled.2 - book.position.avgCost) * filled.1.quantity.value -
        commission config grossAmount)
    position := filledPosition config filled.1.toOrderIntent filled.2 book.position }

def ofAccount (accountId : String) (fills : List Match) : List Match :=
  fills.filter fun filled => filled.1.accountId = accountId

section Chains

variable {config : LocalSimConfig} {order : Order} {price : ℚ} {db mid db' : Database}
  {fills : List Match} {accountId symbol : String}

theorem Settled.book (settled : Settled config order price db db') (sold : order.symbol = symbol) :
    bookOf db' accountId symbol = (bookOf db accountId symbol).map fun book =>
      if order.accountId = accountId then book.fill config (order, price) else book := by
  unfold bookOf
  rw [settled.accountRow, settled.positionRow, Option.map_map, Option.map_map]
  by_cases own : order.accountId = accountId
  · subst own sold
    congr 1
    funext row
    simp only [Function.comp, if_true, and_self]
    by_cases buying : order.side = .buy
    · simp [filledAccount, buying, boughtAccount, revalued, Book.fill, availableDelta, frozenDelta,
        sub_eq_add_neg]
    · simp [filledAccount, buying, soldAccount, revalued, Book.fill, availableDelta, frozenDelta]
  · simp [own, Function.comp_def]

theorem SettledAll.book (chain : SettledAll config fills db db')
    (sold : ∀ filled ∈ fills, filled.1.symbol = symbol) :
    bookOf db' accountId symbol =
      (bookOf db accountId symbol).map ((ofAccount accountId fills).foldl (Book.fill config)) := by
  induction fills generalizing db with
  | nil =>
    obtain rfl := chain
    simp [ofAccount]
  | cons filled rest ih =>
    obtain ⟨mid, settled, later⟩ := chain
    obtain ⟨first, others⟩ := List.forall_mem_cons.mp sold
    rw [ih later others, settled.book first, Option.map_map]
    congr 1
    funext book
    by_cases own : filled.1.accountId = accountId <;> simp [ofAccount, own]

theorem SettledAll.idle (chain : SettledAll config fills db db')
    (none : ofAccount accountId fills = []) :
    db'.accounts.find? accountId = db.accounts.find? accountId ∧
      (∀ symbol, positionOf db'.positions accountId symbol = positionOf db.positions accountId symbol) ∧
      ∀ value : Position → ℚ, (∀ accountId symbol, value (emptyPosition accountId symbol) = 0) →
        positionSum db' accountId value = positionSum db accountId value := by
  induction fills generalizing db with
  | nil =>
    obtain rfl := chain
    exact ⟨rfl, fun _ => rfl, fun _ _ => rfl⟩
  | cons filled rest ih =>
    obtain ⟨mid, settled, later⟩ := chain
    have other : filled.1.accountId ≠ accountId := fun own => by simp [ofAccount, own] at none
    obtain ⟨rows, positions, sums⟩ := ih later (by simpa [ofAccount, other] using none)
    refine ⟨?_, fun symbol => ?_, fun value empty => ?_⟩
    · simp [rows, settled.accountRow, other]
    · rw [positions, settled.positionRow, if_neg fun both => other both.1]
    · rw [sums value empty, settled.positionSum accountId empty, if_neg other, add_zero]

theorem SettledAll.revalued (chain : SettledAll config fills db db')
    (some_fill : ofAccount accountId fills ≠ []) {row : Account}
    (held : db'.accounts.find? accountId = some row) : row = LocalSim.revalued row db' := by
  induction fills generalizing db with
  | nil => exact absurd rfl some_fill
  | cons filled rest ih =>
    obtain ⟨mid, settled, later⟩ := chain
    by_cases last : ofAccount accountId rest = []
    · have own : filled.1.accountId = accountId := by
        by_contra other
        exact some_fill (by simpa [ofAccount, other] using last)
      obtain ⟨rows, -, sums⟩ := later.idle last
      rw [rows, settled.accountRow] at held
      obtain ⟨before, found, rfl⟩ := Option.map_eq_some_iff.mp held
      have unrealized := sums Position.unrealizedPnl fun _ _ => rfl
      have market := sums Position.marketValue fun _ _ => rfl
      rw [← totalUnrealizedPnl_sum, ← totalUnrealizedPnl_sum] at unrealized
      rw [← totalMarketValue_sum, ← totalMarketValue_sum] at market
      have named : before.accountId = accountId := Table.find?_key found
      simp only [own, if_true, LocalSim.revalued, filledAccount_id, named, unrealized, market]
    · exact ih later last

theorem SettledAll.positionSum (chain : SettledAll config fills db db')
    (sold : ∀ filled ∈ fills, filled.1.symbol = symbol) {value : Position → ℚ}
    (empty : ∀ accountId symbol, value (emptyPosition accountId symbol) = 0) :
    LocalSim.positionSum db' accountId value = LocalSim.positionSum db accountId value +
      (value (positionOf db'.positions accountId symbol) -
        value (positionOf db.positions accountId symbol)) := by
  induction fills generalizing db with
  | nil =>
    obtain rfl := chain
    simp
  | cons filled rest ih =>
    obtain ⟨mid, settled, later⟩ := chain
    obtain ⟨first, others⟩ := List.forall_mem_cons.mp sold
    rw [ih later others, settled.positionSum accountId empty, settled.positionRow, first]
    by_cases own : filled.1.accountId = accountId
    · subst own
      simp only [and_self, if_true]
      ring
    · simp [own]

theorem SettledAll.status (chain : SettledAll config fills db db') (orderId : String) :
    (db'.orders.find? orderId).map Order.status = (db.orders.find? orderId).map fun row =>
      if orderId ∈ fills.map (fun filled => filled.1.orderId) then .filled else row.status := by
  induction fills generalizing db with
  | nil =>
    obtain rfl := chain
    simp
  | cons filled rest ih =>
    obtain ⟨mid, settled, later⟩ := chain
    rw [ih later, settled.orders, Table.find?_modify]
    by_cases same : orderId = filled.1.orderId
    · subst same
      simp [Function.comp_def]
    · simp only [if_false, List.map_cons, List.mem_cons, same, false_or]

end Chains

section Folds

variable {config : LocalSimConfig} {fills : List Match} {book : Book}

theorem foldl_additive {α β : Type} {step : α → β → α} (value : α → ℚ) {delta : β → ℚ}
    (additive : ∀ a b, value (step a b) = value a + delta b) (items : List β) (start : α) :
    value (items.foldl step start) = value start + (items.map delta).sum := by
  induction items generalizing start with
  | nil => simp
  | cons item rest ih => rw [List.foldl_cons, ih, additive, List.map_cons, List.sum_cons, add_assoc]

theorem foldl_available (fills : List Match) (book : Book) :
    (fills.foldl (Book.fill config) book).cashAvailable =
      book.cashAvailable + (fills.map (availableDelta config)).sum :=
  foldl_additive Book.cashAvailable (fun _ _ => rfl) fills book

theorem foldl_frozen (fills : List Match) (book : Book) :
    (fills.foldl (Book.fill config) book).cashFrozen =
      book.cashFrozen + (fills.map (frozenDelta config)).sum :=
  foldl_additive Book.cashFrozen (fun _ _ => rfl) fills book

def boughtShares (filled : Match) : ℚ :=
  if filled.1.side = .buy then filled.1.quantity.value else 0

def soldShares (filled : Match) : ℚ :=
  if filled.1.side = .buy then 0 else filled.1.quantity.value

theorem soldShares_nonneg (filled : Match) : 0 ≤ soldShares filled := by
  unfold soldShares
  split
  next => exact le_rfl
  next => exact filled.1.quantity_pos.le

theorem sold_nonneg (fills : List Match) : 0 ≤ (fills.map soldShares).sum :=
  List.sum_nonneg fun _ member => by
    obtain ⟨filled, -, rfl⟩ := List.mem_map.mp member
    exact soldShares_nonneg filled

theorem fill_availableQuantity (book : Book) (filled : Match) :
    (book.fill config filled).position.availableQuantity =
      book.position.availableQuantity + boughtShares filled := by
  unfold Book.fill filledPosition boughtShares
  by_cases buying : filled.1.side = .buy
  · simp [buying, valuedAt, boughtPosition]
  · simp only [buying, if_false, valuedAt, soldPosition, add_zero]
    split <;> rfl

theorem foldl_availableQuantity (fills : List Match) (book : Book) :
    (fills.foldl (Book.fill config) book).position.availableQuantity =
      book.position.availableQuantity + (fills.map boughtShares).sum :=
  foldl_additive (fun book : Book => book.position.availableQuantity)
    fill_availableQuantity fills book

-- The shares of a position, signed, and the cash that the fill earns or costs.
def sharesDelta (filled : Match) : ℚ := boughtShares filled - soldShares filled

def cashEarned (config : LocalSimConfig) (filled : Match) : ℚ :=
  let grossAmount := filled.1.quantity.value * filled.2
  if filled.1.side = .buy then -(grossAmount + commission config grossAmount)
  else grossAmount - commission config grossAmount

def Covered (book : Book) (fills : List Match) : Prop :=
  (fills.map soldShares).sum ≤ book.position.quantity

-- Realized profit, less what the shares have cost: the profit at a mark price of zero.
def Book.profit (book : Book) : ℚ :=
  book.realizedPnl - book.position.quantity * book.position.avgCost

theorem Covered.quantity_nonneg (covered : Covered book fills) : 0 ≤ book.position.quantity :=
  (sold_nonneg fills).trans covered

variable (config) in
theorem fill_covered {filled : Match} (covered : Covered book (filled :: fills)) :
    Covered (book.fill config filled) fills ∧
      (book.fill config filled).position.quantity = book.position.quantity + sharesDelta filled ∧
      (book.fill config filled).profit = book.profit + cashEarned config filled := by
  have positive := filled.1.quantity_pos
  have held := covered.quantity_nonneg
  have later := sold_nonneg fills
  rw [Covered, List.map_cons, List.sum_cons] at covered
  by_cases buying : filled.1.side = .buy
  · have bought : 0 < book.position.quantity + filled.1.quantity.value := by linarith
    simp only [soldShares, buying, if_true, zero_add] at covered
    simp only [Covered, Book.fill, Book.profit, filledPosition, buying, if_true, valuedAt,
      boughtPosition, sharesDelta, boughtShares, soldShares, cashEarned, weightedAvgCost,
      if_neg bought.not_ge, sub_zero, true_and]
    refine ⟨by linarith, ?_⟩
    rw [mul_div_cancel₀ _ bought.ne']
    ring
  · simp only [soldShares, buying, if_false] at covered
    simp only [Covered, Book.fill, Book.profit, filledPosition, buying, if_false, valuedAt,
      soldPosition, sharesDelta, boughtShares, soldShares, cashEarned, zero_sub]
    split
    next empty =>
      have all : book.position.quantity = filled.1.quantity.value := by linarith
      rw [all]
      refine ⟨?_, ?_, ?_⟩
      · dsimp only
        linarith
      · simp
      · ring
    next rest =>
      dsimp only
      refine ⟨by linarith, by ring, by ring⟩

variable (config) in
theorem foldl_covered (covered : Covered book fills) :
    (fills.foldl (Book.fill config) book).position.quantity =
        book.position.quantity + (fills.map sharesDelta).sum ∧
      (fills.foldl (Book.fill config) book).profit =
        book.profit + (fills.map (cashEarned config)).sum := by
  induction fills generalizing book with
  | nil => simp
  | cons filled rest ih =>
    obtain ⟨later, quantity, profit⟩ := fill_covered config covered
    obtain ⟨quantities, profits⟩ := ih later
    rw [List.foldl_cons, quantities, profits, quantity, profit]
    simp only [List.map_cons, List.sum_cons, add_assoc, and_self]

variable (config book) in
theorem foldl_buys (buys : ∀ filled ∈ fills, filled.1.side = .buy) :
    (fills.foldl (Book.fill config) book).realizedPnl = book.realizedPnl := by
  induction fills generalizing book with
  | nil => rfl
  | cons filled rest ih =>
    obtain ⟨first, others⟩ := List.forall_mem_cons.mp buys
    rw [List.foldl_cons, ih _ others]
    simp [Book.fill, first]

theorem foldl_sells (sells : ∀ filled ∈ fills, filled.1.side = .sell)
    (covered : Covered book fills) (some_fill : fills ≠ []) :
    (fills.foldl (Book.fill config) book).position.avgCost =
      if (fills.foldl (Book.fill config) book).position.quantity = 0 then 0
      else book.position.avgCost := by
  induction fills generalizing book with
  | nil => exact absurd rfl some_fill
  | cons filled rest ih =>
    obtain ⟨first, others⟩ := List.forall_mem_cons.mp sells
    have positive := filled.1.quantity_pos
    have position : (book.fill config filled).position =
        valuedAt (soldPosition book.position filled.1.quantity.value) filled.2 := by
      simp [Book.fill, filledPosition, first]
    by_cases last : rest = []
    · subst last
      simp only [List.foldl_cons, List.foldl_nil, position, valuedAt, soldPosition]
      split
      next => simp
      next some_left =>
        dsimp only
        rw [if_neg]
        intro none
        exact some_left none.le
    · have some_left : ¬ book.position.quantity - filled.1.quantity.value ≤ 0 := by
        have more : 0 < (rest.map soldShares).sum := by
          obtain ⟨next, member⟩ := List.exists_mem_of_ne_nil rest last
          have share : soldShares next = next.1.quantity.value := by
            simp [soldShares, others next member]
          refine lt_of_lt_of_le (share ▸ next.1.quantity_pos) ?_
          refine List.single_le_sum ?_ _ (List.mem_map_of_mem member)
          intro share listed
          obtain ⟨other, -, rfl⟩ := List.mem_map.mp listed
          exact soldShares_nonneg other
        have enough := covered
        simp only [Covered, List.map_cons, List.sum_cons, soldShares, first, reduceCtorEq,
          if_false] at enough
        linarith
      rw [List.foldl_cons, ih others (fill_covered config covered).1 last, position, soldPosition,
        if_neg some_left]
      rfl

variable (config) in
theorem fill_valued (book : Book) (filled : Match) :
    (book.fill config filled).position = valuedAt (book.fill config filled).position filled.2 := by
  unfold Book.fill filledPosition
  by_cases buying : filled.1.side = .buy <;> simp [buying, valuedAt]

theorem foldl_valued {price : ℚ} (priced : ∀ filled ∈ fills, filled.2 = price)
    (some_fill : fills ≠ []) : (fills.foldl (Book.fill config) book).position =
      valuedAt (fills.foldl (Book.fill config) book).position price := by
  induction fills generalizing book with
  | nil => exact absurd rfl some_fill
  | cons filled rest ih =>
    obtain ⟨first, others⟩ := List.forall_mem_cons.mp priced
    by_cases last : rest = []
    · subst last
      have valued := fill_valued config book filled
      rwa [first] at valued
    · exact ih others last

variable (config) in
theorem foldl_named (fills : List Match) (book : Book) :
    (fills.foldl (Book.fill config) book).baseCurrency = book.baseCurrency ∧
      (fills.foldl (Book.fill config) book).position.key = book.position.key := by
  induction fills generalizing book with
  | nil => exact ⟨rfl, rfl⟩
  | cons filled rest ih =>
    obtain ⟨currency, key⟩ := ih (book.fill config filled)
    exact ⟨currency, key.trans (filledPosition_key config _ _ _)⟩

theorem position_eq_of_valued {first second : Position} {price : ℚ}
    (valued : first = valuedAt first price) (valued' : second = valuedAt second price)
    (key : first.key = second.key) (quantity : first.quantity = second.quantity)
    (available : first.availableQuantity = second.availableQuantity)
    (cost : first.avgCost = second.avgCost) : first = second := by
  obtain ⟨account, symbol⟩ := Prod.mk.inj key
  rw [valued, valued']
  cases first
  cases second
  simp_all [valuedAt]

variable {fills' : List Match}

variable (config book) in
theorem foldl_perm (same : fills.Perm fills') :
    (fills.foldl (Book.fill config) book).cashAvailable =
        (fills'.foldl (Book.fill config) book).cashAvailable ∧
      (fills.foldl (Book.fill config) book).cashFrozen =
        (fills'.foldl (Book.fill config) book).cashFrozen ∧
      (fills.foldl (Book.fill config) book).position.availableQuantity =
        (fills'.foldl (Book.fill config) book).position.availableQuantity := by
  simp only [foldl_available, foldl_frozen, foldl_availableQuantity,
    (same.map (availableDelta config)).sum_eq, (same.map (frozenDelta config)).sum_eq,
    (same.map boughtShares).sum_eq, and_self]

theorem Covered.perm (covered : Covered book fills) (same : fills.Perm fills') :
    Covered book fills' := by
  rwa [Covered, ← (same.map soldShares).sum_eq]

variable (config) in
theorem foldl_perm_covered (same : fills.Perm fills') (covered : Covered book fills) :
    (fills.foldl (Book.fill config) book).position.quantity =
        (fills'.foldl (Book.fill config) book).position.quantity ∧
      (fills.foldl (Book.fill config) book).profit =
        (fills'.foldl (Book.fill config) book).profit := by
  obtain ⟨quantity, profit⟩ := foldl_covered config covered
  obtain ⟨quantity', profit'⟩ := foldl_covered config (covered.perm same)
  rw [quantity, profit, quantity', profit', (same.map sharesDelta).sum_eq,
    (same.map (cashEarned config)).sum_eq]
  exact ⟨rfl, rfl⟩

variable (config) in
-- Fills of one side and at one price may come in any order.
theorem foldl_perm_sided {side : OrderSide} {price : ℚ} (same : fills.Perm fills')
    (covered : Covered book fills) (sided : ∀ filled ∈ fills, filled.1.side = side)
    (priced : ∀ filled ∈ fills, filled.2 = price) :
    fills.foldl (Book.fill config) book = fills'.foldl (Book.fill config) book := by
  by_cases empty : fills = []
  · subst empty
    rw [same.nil_eq]
  have some_fill : fills' ≠ [] := fun none => empty (by simpa [none] using same)
  have sided' : ∀ filled ∈ fills', filled.1.side = side := fun filled member =>
    sided filled (same.mem_iff.mpr member)
  have priced' : ∀ filled ∈ fills', filled.2 = price := fun filled member =>
    priced filled (same.mem_iff.mpr member)
  obtain ⟨available, frozen, shares⟩ := foldl_perm config book same
  obtain ⟨quantity, profit⟩ := foldl_perm_covered config same covered
  obtain ⟨currency, key⟩ := foldl_named config fills book
  obtain ⟨currency', key'⟩ := foldl_named config fills' book
  have cost : (fills.foldl (Book.fill config) book).position.avgCost =
      (fills'.foldl (Book.fill config) book).position.avgCost := by
    cases side with
    | buy =>
      have realized := (foldl_buys config book sided).trans (foldl_buys config book sided').symm
      have bought : 0 < (fills'.foldl (Book.fill config) book).position.quantity := by
        have grown : 0 < (fills'.map sharesDelta).sum := by
          refine List.sum_pos _ (fun shares member => ?_) (by simpa using some_fill)
          obtain ⟨filled, listed, rfl⟩ := List.mem_map.mp member
          simpa [sharesDelta, boughtShares, soldShares, sided' filled listed] using
            filled.1.quantity_pos
        rw [(foldl_covered config (covered.perm same)).1]
        linarith [covered.quantity_nonneg]
      rw [Book.profit, Book.profit, realized, quantity] at profit
      exact mul_left_cancel₀ bought.ne' (by linarith)
    | sell =>
      rw [foldl_sells sided covered empty, foldl_sells sided' (covered.perm same) some_fill, quantity]
  have position := position_eq_of_valued (foldl_valued priced empty) (foldl_valued priced' some_fill)
    (key.trans key'.symm) quantity shares cost
  have realized : (fills.foldl (Book.fill config) book).realizedPnl =
      (fills'.foldl (Book.fill config) book).realizedPnl := by
    rw [Book.profit, Book.profit, position] at profit
    linarith
  generalize fills.foldl (Book.fill config) book = first at *
  generalize fills'.foldl (Book.fill config) book = second at *
  cases first
  cases second
  simp_all

end Folds

section Runs

variable {config : LocalSimConfig} {traceId : String} {quote : MarketQuote} {w w' : World}

theorem fillPrice_side {order : Order} {price : ℚ} (matched : fillPrice order quote = some price) :
    price = if order.side = .buy then quote.ask else quote.bid := by
  unfold fillPrice at matched
  split at matched
  next => exact (Option.some.inj matched).symm
  next =>
    cases side : order.side <;> rw [side] at matched <;> split at matched <;> try cases matched
    all_goals
      simp only [reduceCtorEq, and_false, and_true, if_false, if_true] at matched
      repeat' split at matched
      all_goals cases matched
      all_goals rfl

theorem fillOrders_settled {orders : List Order} {filled : List String}
    (stored : ∀ order ∈ orders, w.db.orders.find? order.orderId = some order)
    (distinct : (orders.map Order.orderId).Nodup)
    (run : fillOrders config traceId quote (orders.map Order.orderId) w = .ok filled w') :
    SettledAll config (matchesOf orders quote) w.db w'.db := by
  induction orders generalizing w filled with
  | nil =>
    obtain ⟨-, rfl⟩ := pure_ok.mp run
    rfl
  | cons order rest ih =>
    obtain ⟨first, others⟩ := List.forall_mem_cons.mp stored
    obtain ⟨unused, apart⟩ := List.nodup_cons.mp distinct
    simp only [List.map_cons, fillOrders, bind_ok, getOrder_ok] at run
    obtain ⟨_, _, ⟨found, rfl⟩, ran⟩ := run
    obtain rfl := Option.some.inj (first.symm.trans found)
    cases matched : fillPrice order quote with
    | none =>
      simp only [matched] at ran
      simpa [matchesOf, matched] using ih others apart ran
    | some price =>
      simp only [matched, bind_ok, pure_ok] at ran
      obtain ⟨_, mid, filling, _, _, later, -, rfl⟩ := ran
      obtain ⟨_, found', settled⟩ := applyFill_ok filling
      obtain rfl := Option.some.inj (first.symm.trans found')
      have kept : ∀ other ∈ rest, mid.db.orders.find? other.orderId = some other := by
        intro other member
        have different : other.orderId ≠ order.orderId := fun same =>
          unused (same ▸ List.mem_map_of_mem member)
        rw [settled.orders, Table.find?_modify_other _ _ different]
        exact others other member
      have chain := ih kept apart later
      simpa [matchesOf, matched, SettledAll] using ⟨mid.db, settled, chain⟩

theorem Settled.unique_iff {order : Order} {price : ℚ} {db db' : Database}
    (settled : Settled config order price db db') : db'.UniqueColumns ↔ db.UniqueColumns := by
  have numbers : db'.orders.rows.filterMap Order.brokerOrderId =
      db.orders.rows.filterMap Order.brokerOrderId := by
    rw [settled.orders, Table.modify, List.filterMap_map]
    refine List.filterMap_congr fun row _ => ?_
    simp only [Function.comp]
    split <;> rfl
  unfold Database.UniqueColumns
  rw [numbers, settled.orders, Table.map_modify _ _ _ _ fun _ => rfl,
    Table.map_modify _ _ _ _ fun _ => rfl]

def Fillable (db : Database) (quote : MarketQuote) : Prop :=
  db.UniqueColumns ∧ ∀ filled ∈ matchesOf (restingOrders db quote.symbol) quote,
    (db.accounts.find? filled.1.accountId).isSome

theorem SettledAll.fillable {fills : List Match} {db db' : Database}
    (chain : SettledAll config fills db db') (unique : db'.UniqueColumns) :
    db.UniqueColumns ∧ ∀ filled ∈ fills, (db.accounts.find? filled.1.accountId).isSome := by
  induction fills generalizing db with
  | nil =>
    obtain rfl := chain
    exact ⟨unique, by simp⟩
  | cons filled rest ih =>
    obtain ⟨mid, settled, later⟩ := chain
    obtain ⟨before, accounts⟩ := ih later
    refine ⟨settled.unique_iff.mp before, List.forall_mem_cons.mpr ⟨?_, fun other member => ?_⟩⟩
    · obtain ⟨account, held⟩ := settled.account
      rw [held]
      rfl
    · have held := accounts other member
      rwa [settled.accountRow, Option.isSome_map] at held

theorem SettledAll.unique {fills : List Match} {db db' : Database}
    (chain : SettledAll config fills db db') (unique : db.UniqueColumns) : db'.UniqueColumns := by
  induction fills generalizing db with
  | nil =>
    obtain rfl := chain
    exact unique
  | cons filled rest ih =>
    obtain ⟨mid, settled, later⟩ := chain
    exact ih later (settled.unique_iff.mpr unique)

variable (config traceId) in
theorem fillOrders_returns {orders : List Order}
    (stored : ∀ order ∈ orders, w.db.orders.find? order.orderId = some order)
    (distinct : (orders.map Order.orderId).Nodup)
    (resting : ∀ order ∈ orders, order.status = .submitted) (unique : w.db.UniqueColumns)
    (accounts : ∀ filled ∈ matchesOf orders quote,
      (w.db.accounts.find? filled.1.accountId).isSome) :
    ∃ filled w', fillOrders config traceId quote (orders.map Order.orderId) w = .ok filled w' := by
  induction orders generalizing w with
  | nil => exact ⟨_, _, rfl⟩
  | cons order rest ih =>
    obtain ⟨first, others⟩ := List.forall_mem_cons.mp stored
    obtain ⟨unused, apart⟩ := List.nodup_cons.mp distinct
    obtain ⟨open_, rested⟩ := List.forall_mem_cons.mp resting
    rw [List.map_cons, fillOrders, bind_of_ok (getOrder_ok.mpr ⟨first, rfl⟩)]
    cases matched : fillPrice order quote with
    | none =>
      have fewer : ∀ filled ∈ matchesOf rest quote,
          (w.db.accounts.find? filled.1.accountId).isSome := by
        simpa [matchesOf, matched] using accounts
      simpa only [matched] using ih others apart rested unique fewer
    | some price =>
      obtain ⟨held, fewer⟩ : (w.db.accounts.find? order.accountId).isSome ∧
          ∀ filled ∈ matchesOf rest quote, (w.db.accounts.find? filled.1.accountId).isSome := by
        simpa [matchesOf, matched] using accounts
      obtain ⟨account, found⟩ := Option.isSome_iff_exists.mp held
      obtain ⟨_, mid, filling⟩ := applyFill_returns config traceId price first
        (by rw [open_]; decide) found unique
      obtain ⟨_, found', settled⟩ := applyFill_ok filling
      obtain rfl := Option.some.inj (first.symm.trans found')
      have kept : ∀ other ∈ rest, mid.db.orders.find? other.orderId = some other := by
        intro other member
        have different : other.orderId ≠ order.orderId := fun same =>
          unused (same ▸ List.mem_map_of_mem member)
        rw [settled.orders, Table.find?_modify_other _ _ different]
        exact others other member
      obtain ⟨filled, w', later⟩ := ih kept apart rested (settled.unique_iff.mpr unique) (by
        intro filled member
        rw [settled.accountRow, Option.isSome_map]
        exact fewer filled member)
      simp only
      exact returns_then filling (returns_bind later ⟨_, _, rfl⟩)

theorem perform_quote (config : LocalSimConfig) (rowOrder : RowOrder) (traceId : String)
    (quote : MarketQuote) (w : World) :
    (Fillable w.db quote ∧ SettledAll config
      (matchesOf (rowOrder.arrange (restingOrders w.db quote.symbol)) quote) w.db
        (perform (.processQuote config rowOrder traceId quote) w).db) ∨
    (¬ Fillable w.db quote ∧ (perform (.processQuote config rowOrder traceId quote) w).db = w.db) := by
  have arranged := rowOrder.perm (restingOrders w.db quote.symbol)
  have same : (matchesOf (rowOrder.arrange (restingOrders w.db quote.symbol)) quote).Perm
      (matchesOf (restingOrders w.db quote.symbol) quote) := arranged.filterMap _
  have stored : ∀ order ∈ rowOrder.arrange (restingOrders w.db quote.symbol),
      w.opened.db.orders.find? order.orderId = some order := fun order member =>
    Table.find?_of_mem (List.mem_filter.mp (arranged.mem_iff.mp member)).1
  have resting : ∀ order ∈ rowOrder.arrange (restingOrders w.db quote.symbol),
      order.status = .submitted := by
    intro order member
    simpa using (of_decide_eq_true (List.mem_filter.mp (arranged.mem_iff.mp member)).2).2
  have distinct : ((rowOrder.arrange (restingOrders w.db quote.symbol)).map Order.orderId).Nodup := by
    rw [(arranged.map Order.orderId).nodup_iff]
    exact (w.db.orders.unique).sublist (List.filter_sublist.map _)
  cases run : transaction (discarded (processQuote config rowOrder traceId quote)) w with
  | ok u w' =>
    left
    obtain ⟨mid, inner, unique, rfl⟩ := transaction_ok run
    obtain ⟨filled, ran⟩ := discarded_ok.mp inner
    rw [processQuote, bind_of_ok (get_ok.mpr ⟨rfl, rfl⟩)] at ran
    have chain := fillOrders_settled stored distinct ran
    obtain ⟨before, accounts⟩ := chain.fillable unique
    refine ⟨⟨before, fun filled member => accounts filled (same.mem_iff.mpr member)⟩, ?_⟩
    change SettledAll config _ w.db (leaves (transaction _ w)).db
    rw [Operation.body, run]
    exact chain
  | error raised w' =>
    right
    obtain ⟨mid, failed, rfl⟩ := transaction_error run
    constructor
    · rintro ⟨unique, accounts⟩
      obtain ⟨filled, w', returned⟩ := fillOrders_returns config traceId stored distinct resting unique fun filled member => accounts filled (same.mem_iff.mp member)
      have passed := (fillOrders_settled stored distinct returned).unique unique
      have inner : discarded (processQuote config rowOrder traceId quote) w.opened = .ok () w' :=
        discarded_of_ok ((bind_of_ok (get_ok.mpr ⟨rfl, rfl⟩)).trans returned)
      rw [transaction_of_ok inner, if_pos passed] at run
      cases run
    · change (leaves (transaction _ w)).db = w.db
      rw [Operation.body, run]
      rfl

end Runs

section Agreement

variable {config : LocalSimConfig} {quote : MarketQuote} {w : World} {db db' : Database}
  {fills fills' : List Match} {accountId symbol : String} {row : Account}

def filledBy (db : Database) (quote : MarketQuote) (accountId : String) : List Match :=
  ofAccount accountId (matchesOf (restingOrders db quote.symbol) quote)

def CoveredSells (db : Database) (quote : MarketQuote) (accountId : String) : Prop :=
  ((filledBy db quote accountId).map soldShares).sum ≤
    (positionOf db.positions accountId quote.symbol).quantity

def OneSided (db : Database) (quote : MarketQuote) (accountId : String) : Prop :=
  ∃ side : OrderSide, ∀ filled ∈ filledBy db quote accountId, filled.1.side = side

structure AccountAgrees (quote : MarketQuote) (start db db' : Database) (accountId : String) :
    Prop where
  cash : (db.accounts.find? accountId).map (fun row => (row.cashAvailable, row.cashFrozen)) =
    (db'.accounts.find? accountId).map fun row => (row.cashAvailable, row.cashFrozen)
  available : ∀ symbol, (positionOf db.positions accountId symbol).availableQuantity =
    (positionOf db'.positions accountId symbol).availableQuantity
  covered : CoveredSells start quote accountId →
    (∀ symbol, (positionOf db.positions accountId symbol).quantity =
      (positionOf db'.positions accountId symbol).quantity) ∧
    (bookOf db accountId quote.symbol).map Book.profit =
      (bookOf db' accountId quote.symbol).map Book.profit
  sided : CoveredSells start quote accountId → OneSided start quote accountId →
    db.accounts.find? accountId = db'.accounts.find? accountId ∧
      ∀ symbol, positionOf db.positions accountId symbol = positionOf db'.positions accountId symbol

structure QuoteAgrees (quote : MarketQuote) (start db db' : Database) : Prop where
  statuses : ∀ orderId, (db.orders.find? orderId).map Order.status =
    (db'.orders.find? orderId).map Order.status
  accounts : ∀ accountId, AccountAgrees quote start db db' accountId

theorem AccountAgrees.of_same (rows : db.accounts.find? accountId = db'.accounts.find? accountId)
    (positions : ∀ symbol, positionOf db.positions accountId symbol =
      positionOf db'.positions accountId symbol) (start : Database) :
    AccountAgrees quote start db db' accountId where
  cash := by rw [rows]
  available := fun symbol => by rw [positions]
  covered := fun _ => ⟨fun symbol => by rw [positions], by simp only [bookOf, rows, positions]⟩
  sided := fun _ _ => ⟨rows, positions⟩

theorem SettledAll.elsewhere (chain : SettledAll config fills db db')
    (sold : ∀ filled ∈ fills, filled.1.symbol = quote.symbol) (other : symbol ≠ quote.symbol) :
    positionOf db'.positions accountId symbol = positionOf db.positions accountId symbol := by
  induction fills generalizing db with
  | nil =>
    obtain rfl := chain
    rfl
  | cons filled rest ih =>
    obtain ⟨mid, settled, later⟩ := chain
    obtain ⟨first, others⟩ := List.forall_mem_cons.mp sold
    rw [ih later others, settled.positionRow, if_neg fun both => other (both.2.symm.trans first)]

theorem mem_matchesOf {filled : Match}
    (member : filled ∈ matchesOf (restingOrders db quote.symbol) quote) :
    filled.1.symbol = quote.symbol ∧
      filled.2 = if filled.1.side = .buy then quote.ask else quote.bid := by
  obtain ⟨order, resting, matched⟩ := List.mem_filterMap.mp member
  obtain ⟨price, priced, rfl⟩ := Option.map_eq_some_iff.mp matched
  have kept := of_decide_eq_true (List.mem_filter.mp resting).2
  exact ⟨kept.1, fillPrice_side priced⟩

theorem SettledAll.booked (chain : SettledAll config fills db db')
    (sold : ∀ filled ∈ fills, filled.1.symbol = symbol) {book : Book}
    (start : bookOf db accountId symbol = some book) :
    bookOf db' accountId symbol = some ((ofAccount accountId fills).foldl (Book.fill config) book) := by
  rw [chain.book sold, start, Option.map_some]

theorem bookOf_some {book : Book} (held : bookOf db accountId symbol = some book) :
    ∃ row, db.accounts.find? accountId = some row ∧ row.baseCurrency = book.baseCurrency ∧
      row.cashAvailable = book.cashAvailable ∧ row.cashFrozen = book.cashFrozen ∧
      row.realizedPnl = book.realizedPnl ∧
      positionOf db.positions accountId symbol = book.position := by
  obtain ⟨row, found, rfl⟩ := Option.map_eq_some_iff.mp held
  exact ⟨row, found, rfl, rfl, rfl, rfl, rfl⟩

theorem account_eq_of_books (chain : SettledAll config fills w.db db)
    (chain' : SettledAll config fills' w.db db')
    (sold : ∀ filled ∈ fills, filled.1.symbol = symbol)
    (sold' : ∀ filled ∈ fills', filled.1.symbol = symbol)
    (some_fill : ofAccount accountId fills ≠ []) (some_fill' : ofAccount accountId fills' ≠ [])
    {book : Book} (held : bookOf db accountId symbol = some book)
    (held' : bookOf db' accountId symbol = some book) :
    db.accounts.find? accountId = db'.accounts.find? accountId := by
  obtain ⟨row, found, currency, available, frozen, realized, position⟩ := bookOf_some held
  obtain ⟨row', found', currency', available', frozen', realized', position'⟩ := bookOf_some held'
  have sums (value : Position → ℚ) (empty : ∀ accountId symbol,
      value (emptyPosition accountId symbol) = 0) :
      positionSum db accountId value = positionSum db' accountId value := by
    rw [chain.positionSum sold empty, chain'.positionSum sold' empty, position, position']
  have unrealized := sums Position.unrealizedPnl fun _ _ => rfl
  have market := sums Position.marketValue fun _ _ => rfl
  rw [← totalUnrealizedPnl_sum, ← totalUnrealizedPnl_sum] at unrealized
  rw [← totalMarketValue_sum, ← totalMarketValue_sum] at market
  have named : row.accountId = accountId := Table.find?_key found
  have named' : row'.accountId = accountId := Table.find?_key found'
  rw [found, found', chain.revalued some_fill found, chain'.revalued some_fill' found']
  simp only [revalued, named, named', unrealized, market, available, available', frozen, frozen']
  cases row
  cases row'
  simp_all

theorem accountAgrees_of_settled (chain : SettledAll config fills w.db db)
    (chain' : SettledAll config fills' w.db db') (fillable : Fillable w.db quote)
    (same : fills.Perm (matchesOf (restingOrders w.db quote.symbol) quote))
    (same' : fills'.Perm (matchesOf (restingOrders w.db quote.symbol) quote)) (accountId : String) :
    AccountAgrees quote w.db db db' accountId := by
  have own : (ofAccount accountId fills).Perm (filledBy w.db quote accountId) := same.filter _
  have own' : (ofAccount accountId fills').Perm (filledBy w.db quote accountId) := same'.filter _
  have sold : ∀ filled ∈ fills, filled.1.symbol = quote.symbol := fun filled member =>
    (mem_matchesOf (same.mem_iff.mp member)).1
  have sold' : ∀ filled ∈ fills', filled.1.symbol = quote.symbol := fun filled member =>
    (mem_matchesOf (same'.mem_iff.mp member)).1
  by_cases idle : filledBy w.db quote accountId = []
  · rw [idle] at own own'
    obtain ⟨rows, positions, -⟩ := chain.idle own.eq_nil
    obtain ⟨rows', positions', -⟩ := chain'.idle own'.eq_nil
    exact .of_same (rows.trans rows'.symm)
      (fun symbol => (positions symbol).trans (positions' symbol).symm) _
  obtain ⟨filled, listed⟩ := List.exists_mem_of_ne_nil _ idle
  obtain ⟨fill, mine⟩ := List.mem_filter.mp listed
  have held := fillable.2 filled fill
  rw [of_decide_eq_true mine] at held
  obtain ⟨row, found⟩ := Option.isSome_iff_exists.mp held
  let book : Book :=
    { baseCurrency := row.baseCurrency, cashAvailable := row.cashAvailable
      cashFrozen := row.cashFrozen, realizedPnl := row.realizedPnl
      position := positionOf w.db.positions accountId quote.symbol }
  have start : bookOf w.db accountId quote.symbol = some book := by simp [bookOf, found, book]
  have booked := chain.booked sold start
  have booked' := chain'.booked sold' start
  have perm := own.trans own'.symm
  obtain ⟨_, rows, -, available, frozen, -, position⟩ := bookOf_some booked
  obtain ⟨_, rows', -, available', frozen', -, position'⟩ := bookOf_some booked'
  obtain ⟨sameAvailable, sameFrozen, sameShares⟩ :=
    foldl_perm config book perm
  constructor
  case cash =>
    simp only [rows, rows', Option.map_some, available, available', frozen, frozen', sameAvailable,
      sameFrozen]
  case available =>
    intro symbol
    by_cases traded : symbol = quote.symbol
    · rw [traded, position, position', sameShares]
    · rw [chain.elsewhere sold traded, chain'.elsewhere sold' traded]
  case covered =>
    intro enough
    have covered : Covered book (ofAccount accountId fills) := Covered.perm enough own.symm
    obtain ⟨quantity, profit⟩ := foldl_perm_covered config perm covered
    refine ⟨fun symbol => ?_, by rw [booked, booked', Option.map_some, Option.map_some, profit]⟩
    by_cases traded : symbol = quote.symbol
    · rw [traded, position, position', quantity]
    · rw [chain.elsewhere sold traded, chain'.elsewhere sold' traded]
  case sided =>
    rintro enough ⟨side, sided⟩
    have covered : Covered book (ofAccount accountId fills) := Covered.perm enough own.symm
    have priced : ∀ filled ∈ ofAccount accountId fills,
        filled.2 = if side = .buy then quote.ask else quote.bid := by
      intro filled member
      have listed := own.mem_iff.mp member
      rw [← sided filled listed]
      exact (mem_matchesOf (List.mem_filter.mp listed).1).2
    have final := foldl_perm_sided config perm covered
      (fun filled member => sided filled (own.mem_iff.mp member)) priced
    have some_fill : ofAccount accountId fills ≠ [] := fun none => idle (by simpa [none] using own)
    have some_fill' : ofAccount accountId fills' ≠ [] := fun none =>
      idle (by simpa [none] using own')
    refine ⟨account_eq_of_books chain chain' sold sold' some_fill some_fill' booked (final ▸ booked'),
      fun symbol => ?_⟩
    by_cases traded : symbol = quote.symbol
    · rw [traded, position, position', final]
    · rw [chain.elsewhere sold traded, chain'.elsewhere sold' traded]

theorem quotes_agree (config : LocalSimConfig) (first second : RowOrder) (traceId : String)
    (quote : MarketQuote) (w : World) :
    QuoteAgrees quote w.db (perform (.processQuote config first traceId quote) w).db
      (perform (.processQuote config second traceId quote) w).db := by
  have perm (rowOrder : RowOrder) :
      (matchesOf (rowOrder.arrange (restingOrders w.db quote.symbol)) quote).Perm
        (matchesOf (restingOrders w.db quote.symbol) quote) :=
    (rowOrder.perm _).filterMap _
  obtain ⟨fillable, chain⟩ | ⟨unfillable, same⟩ := perform_quote config first traceId quote w
  · obtain ⟨-, chain'⟩ | ⟨unfillable, -⟩ := perform_quote config second traceId quote w
    · constructor
      case statuses =>
        intro orderId
        have listed := ((perm first).trans (perm second).symm).map fun filled : Match =>
          filled.1.orderId
        rw [chain.status, chain'.status]
        simp only [listed.mem_iff]
      case accounts =>
        exact accountAgrees_of_settled chain chain' fillable (perm first) (perm second)
    · exact absurd fillable unfillable
  · obtain ⟨fillable, -⟩ | ⟨-, same'⟩ := perform_quote config second traceId quote w
    · exact absurd fillable unfillable
    · rw [same, same']
      exact ⟨fun _ => rfl, fun _ => .of_same rfl (fun _ => rfl) _⟩

end Agreement

def newestFirst : RowOrder where
  arrange := List.reverse
  perm := List.reverse_perm

-- Ten shares are held at 100; a sell at 102 and a buy at 103 rest.
def bothResting : World :=
  [ .createOrder "t" (limitIntent .buy .limit 10 100),
    .runRiskCheck {} "t" "ord_0" (some (quoteAt 100)) none,
    .submitOrder (.localSim {}) "t" "ord_0" (quoteAt 100),
    .createOrder "t" (limitIntent .sell .limit 10 102),
    .elapse 1000000000,
    .runRiskCheck {} "t" "ord_6" (some (quoteAt 100)) none,
    .submitOrder (.localSim {}) "t" "ord_6" (quoteAt 100),
    .createOrder "t" (limitIntent .buy .limit 10 103),
    .elapse 2000000000,
    .runRiskCheck {} "t" "ord_10" (some (quoteAt 104)) none,
    .submitOrder (.localSim {}) "t" "ord_10" (quoteAt 104) ].foldl
      (fun w operation => perform operation w) (cashOnly 5000)

-- The sell realizes 30 when it comes first, and 15 when the buy has raised the average cost.
theorem quote_order_matters :
    ((perform (.processQuote {} {} "t" (quoteAt 103)) bothResting).db.accounts.find? "acct").map
        Account.realizedPnl = some 30 ∧
      ((perform (.processQuote {} newestFirst "t" (quoteAt 103)) bothResting).db.accounts.find?
        "acct").map Account.realizedPnl = some 15 := by
  decide +kernel

end SynapseYield.LocalSim
