import SynapseYield.Broker.LocalSim

set_option autoImplicit false

namespace SynapseYield.LocalSim

open Shared OrderService

-- What an order costs at most when it has no limit price of its own.
def reserveAmount (config : LocalSimConfig) (order : OrderIntent) (marketPrice : ℚ) : ℚ :=
  let grossAmount := order.quantity.value * ((order.limitPrice.map Decimal.value).getD marketPrice)
  grossAmount + commission config grossAmount

theorem reservedCash_quote (config : LocalSimConfig) (order : Order) (quote : MarketQuote)
    (executionPrice : Option ℚ) :
    reservedCash config order (some quote) executionPrice =
      .ok (reserveAmount config order.toOrderIntent quote.ask) := by
  cases limited : order.limitPrice <;> simp [reservedCash, reserveAmount, limited]

theorem reservedCash_execution (config : LocalSimConfig) (order : Order) (price : ℚ) :
    reservedCash config order none (some price) =
      .ok (reserveAmount config order.toOrderIntent price) := by
  cases limited : order.limitPrice <;> simp [reservedCash, reserveAmount, limited]

theorem reservedCash_limit (config : LocalSimConfig) (order : Order) {limit : Decimal}
    (limited : order.limitPrice = some limit) :
    reservedCash config order none none =
      .ok (reserveAmount config order.toOrderIntent limit.value) := by
  simp [reservedCash, reserveAmount, limited]

theorem reservedCash_ok {config : LocalSimConfig} {order : Order} {amount : ℚ}
    (computed : reservedCash config order none none = .ok amount) :
    ∃ limit, order.limitPrice = some limit ∧
      amount = reserveAmount config order.toOrderIntent limit.value := by
  cases limited : order.limitPrice with
  | none => simp [reservedCash, limited] at computed
  | some limit =>
    rw [reservedCash_limit config order limited] at computed
    exact ⟨limit, rfl, (Except.ok.inj computed).symm⟩

-- With a limit price the market price plays no part, so every caller computes one amount.
theorem reserveAmount_limit (config : LocalSimConfig) (order : OrderIntent) {limit : Decimal}
    (limited : order.limitPrice = some limit) (price price' : ℚ) :
    reserveAmount config order price = reserveAmount config order price' := by
  simp [reserveAmount, limited]

def plainSell (order : OrderIntent) : Bool := order.side = .sell ∧ isBracketOrder order = false

def frozenAccount (row : Account) (amount : ℚ) : Account :=
  { row with cashAvailable := row.cashAvailable - amount, cashFrozen := row.cashFrozen + amount }

def thawedAccount (row : Account) (amount : ℚ) : Account :=
  { row with cashFrozen := row.cashFrozen - amount, cashAvailable := row.cashAvailable + amount }

def lockedPosition (row : Position) (quantity : ℚ) : Position :=
  { row with availableQuantity := row.availableQuantity - quantity }

def unlockedPosition (row : Position) (quantity : ℚ) : Position :=
  { row with availableQuantity := row.availableQuantity + quantity }

def emptyPosition (accountId symbol : String) : Position := { accountId, symbol }

def positionOf (positions : Table (String × String) Position Position.key)
    (accountId symbol : String) : Position :=
  (positions.find? (accountId, symbol)).getD (emptyPosition accountId symbol)

def filledPosition (config : LocalSimConfig) (order : OrderIntent) (price : ℚ)
    (row : Position) : Position :=
  let grossAmount := order.quantity.value * price
  if order.side = .buy then
    valuedAt (boughtPosition row order.quantity.value
      (grossAmount + commission config grossAmount)) price
  else valuedAt (soldPosition row order.quantity.value) price

theorem filledPosition_key (config : LocalSimConfig) (order : OrderIntent) (price : ℚ)
    (row : Position) : (filledPosition config order price row).key = row.key := by
  unfold filledPosition
  split
  · rfl
  · rw [valuedAt_key, soldPosition_key]

def filledAccount (config : LocalSimConfig) (order : OrderIntent) (price avgCost : ℚ)
    (row : Account) : Account :=
  let grossAmount := order.quantity.value * price
  let charge := commission config grossAmount
  if order.side = .buy then
    boughtAccount row (reserveAmount config order price) (grossAmount + charge)
  else
    soldAccount row (grossAmount - charge)
      ((price - avgCost) * order.quantity.value - charge)

theorem filledAccount_id (config : LocalSimConfig) (order : OrderIntent) (price avgCost : ℚ)
    (row : Account) : (filledAccount config order price avgCost row).accountId = row.accountId := by
  unfold filledAccount
  split <;> rfl

-- Cash or shares set aside for an order, and nothing else.
structure Reserved (config : LocalSimConfig) (order : Order) (quote : MarketQuote)
    (db db' : Database) : Prop where
  funds : ∃ account, db.accounts.find? order.accountId = some account ∧
    (order.side = .buy →
      reserveAmount config order.toOrderIntent quote.ask ≤ account.cashAvailable)
  shares : plainSell order.toOrderIntent →
    ∃ position, db.positions.find? (order.accountId, order.symbol) = some position ∧
      order.quantity.value ≤ position.availableQuantity
  accounts : db'.accounts =
    if order.side = .buy then db.accounts.modify order.accountId
      { apply := fun row =>
          frozenAccount row (reserveAmount config order.toOrderIntent quote.ask) }
    else db.accounts
  positions : db'.positions =
    if plainSell order.toOrderIntent then
      db.positions.modify (order.accountId, order.symbol)
        { apply := fun row => lockedPosition row order.quantity.value }
    else db.positions
  fills : db'.fills = db.fills
  cashLedger : db'.cashLedger = db.cashLedger
  outboxEvents : db'.outboxEvents = db.outboxEvents

-- Resources set aside and the order handed to the simulator.
structure Accepted (config : LocalSimConfig) (order : Order) (quote : MarketQuote)
    (db db' : Database) : Prop extends Reserved config order quote db db' where
  stored : db.orders.find? order.orderId = some order
  approved : order.status = .riskApproved
  symbol : quote.symbol = order.symbol
  orders : ∃ brokerOrderId, db'.orders = db.orders.modify order.orderId
    { apply := fun row =>
        { row with status := .submitted, brokerOrderId := some brokerOrderId } }

-- A resting order filled at a price, with everything the fill writes.
structure Settled (config : LocalSimConfig) (order : Order) (price : ℚ) (db db' : Database) :
    Prop where
  stored : db.orders.find? order.orderId = some order
  fillable : .filled ∈ allowedOrderTransitions order.status
  account : ∃ account, db.accounts.find? order.accountId = some account
  accounts : db'.accounts = db.accounts.modify order.accountId
    { apply := fun row =>
        revalued (filledAccount config order.toOrderIntent price
          (positionOf db.positions order.accountId order.symbol).avgCost row) db'
      keeps := fun row => filledAccount_id config _ _ _ row }
  positions : db'.positions =
    (db.positions.ensure (emptyPosition order.accountId order.symbol)).modify
      (order.accountId, order.symbol)
      { apply := filledPosition config order.toOrderIntent price
        keeps := filledPosition_key config _ _ }
  orders : db'.orders = db.orders.modify order.orderId
    { apply := fun row =>
        { row with
          status := .filled
          filledQuantity := row.quantity.value
          avgFillPrice := some price } }
  fills : ∃ fill, db'.fills = db.fills ++ [fill] ∧ fill.orderId = order.orderId ∧
    fill.symbol = order.symbol ∧ fill.side = order.side ∧ fill.quantity = order.quantity.value ∧
    fill.price = price ∧ fill.commission = commission config (order.quantity.value * price)
  cashLedger : ∃ row account, db'.cashLedger = db.cashLedger ++ [row] ∧
    db'.accounts.find? order.accountId = some account ∧ row.accountId = order.accountId ∧
    row.orderId = some order.orderId ∧ row.amount = cashAmount config order.toOrderIntent price ∧
    row.balanceAfter = account.cashAvailable
  outboxEvents : ∃ filled updated, db'.outboxEvents = db.outboxEvents ++ [filled, updated] ∧
    filled.eventType = "ORDER_FILLED" ∧ filled.aggregateId = order.orderId ∧
    updated.eventType = "POSITION_UPDATED"

structure Cancelled (config : LocalSimConfig) (order : Order) (db db' : Database) : Prop where
  stored : db.orders.find? order.orderId = some order
  submitted : order.status = .submitted
  account : ∃ account, db.accounts.find? order.accountId = some account
  limited : order.side = .buy → ∃ limit, order.limitPrice = some limit
  accounts : db'.accounts =
    if order.side = .buy then db.accounts.modify order.accountId
      { apply := fun row => thawedAccount row (reserveAmount config order.toOrderIntent 0) }
    else db.accounts
  positions : db'.positions =
    if plainSell order.toOrderIntent then
      db.positions.modify (order.accountId, order.symbol)
        { apply := fun row =>
            unlockedPosition row (order.quantity.value - order.filledQuantity) }
    else db.positions
  orders : db'.orders = db.orders.modify order.orderId
    { apply := fun row => { row with status := .cancelled } }
  fills : db'.fills = db.fills
  cashLedger : db'.cashLedger = db.cashLedger
  outboxEvents : ∃ event, db'.outboxEvents = db.outboxEvents ++ [event] ∧
    event.eventType = "ORDER_CANCELLED"

theorem getAccount_ok {accountId : String} {w w' : World} {account : Option Account} :
    getAccount accountId w = .ok account w' ↔ w.db.accounts.find? accountId = account ∧ w = w' := by
  simp only [getAccount, bind_ok, get_ok, pure_ok]
  constructor
  · rintro ⟨_, _, ⟨rfl, rfl⟩, rfl, rfl⟩
    exact ⟨rfl, rfl⟩
  · rintro ⟨rfl, rfl⟩
    exact ⟨_, _, ⟨rfl, rfl⟩, rfl, rfl⟩

theorem findPosition_ok {accountId symbol : String} {w w' : World} {position : Option Position} :
    findPosition accountId symbol w = .ok position w' ↔
      w.db.positions.find? (accountId, symbol) = position ∧ w = w' := by
  simp only [findPosition, bind_ok, get_ok, pure_ok]
  constructor
  · rintro ⟨_, _, ⟨rfl, rfl⟩, rfl, rfl⟩
    exact ⟨rfl, rfl⟩
  · rintro ⟨rfl, rfl⟩
    exact ⟨_, _, ⟨rfl, rfl⟩, rfl, rfl⟩

theorem reserveResources_ok {config : LocalSimConfig} {traceId orderId : String}
    {quote : MarketQuote} {w w' : World} {refusal : Option String}
    (run : reserveResources config traceId orderId quote w = .ok refusal w') :
    (refusal ≠ none ∧ w = w') ∨
      (refusal = none ∧ ∃ order, w.db.orders.find? orderId = some order ∧
        Reserved config order quote w.db w'.db ∧ w'.db.orders = w.db.orders) := by
  simp only [reserveResources, bind_ok, getOrder_ok, getAccount_ok] at run
  obtain ⟨order, _, ⟨found, rfl⟩, _, _, ⟨rfl, rfl⟩, rest⟩ := run
  cases held : w.db.accounts.find? order.accountId with
  | none =>
    simp only [held, pure_ok] at rest
    exact .inl ⟨by simp [← rest.1], rest.2⟩
  | some account =>
    simp only [held] at rest
    split at rest
    next buying =>
      simp only [reservedCash_quote, bind_ok, liftExcept_ok, Except.ok.injEq] at rest
      obtain ⟨_, _, ⟨rfl, rfl⟩, rest⟩ := rest
      split at rest
      next =>
        simp only [pure_ok] at rest
        exact .inl ⟨by simp [← rest.1], rest.2⟩
      next enough =>
        simp only [updateAccount, recordEvent, bind_ok, modify_ok, audit_ok, pure_ok] at rest
        obtain ⟨_, _, rfl, _, _, rfl, rfl, rfl⟩ := rest
        have plain : ¬ plainSell order.toOrderIntent := by simp [plainSell, buying]
        exact .inr ⟨rfl, order, found, {
          funds := ⟨account, held, fun _ => not_lt.mp enough⟩
          shares := fun sell => absurd sell plain
          accounts := by rw [if_pos buying]; rfl
          positions := by rw [if_neg plain]
          fills := rfl
          cashLedger := rfl
          outboxEvents := rfl }, rfl⟩
    next selling =>
      split at rest
      next bracket =>
        simp only [recordEvent, bind_ok, audit_ok, pure_ok] at rest
        obtain ⟨_, _, rfl, rfl, rfl⟩ := rest
        have plain : ¬ plainSell order.toOrderIntent := by simp [plainSell, bracket]
        exact .inr ⟨rfl, order, found, {
          funds := ⟨account, held, fun buying => absurd buying selling⟩
          shares := fun sell => absurd sell plain
          accounts := by rw [if_neg selling]
          positions := by rw [if_neg plain]
          fills := rfl
          cashLedger := rfl
          outboxEvents := rfl }, rfl⟩
      next plainOrder =>
        simp only [bind_ok, findPosition_ok] at rest
        obtain ⟨_, _, ⟨rfl, rfl⟩, rest⟩ := rest
        cases stored : w.db.positions.find? (order.accountId, order.symbol) with
        | none =>
          simp only [stored, pure_ok] at rest
          exact .inl ⟨by simp [← rest.1], rest.2⟩
        | some position =>
          simp only [stored] at rest
          split at rest
          next =>
            simp only [pure_ok] at rest
            exact .inl ⟨by simp [← rest.1], rest.2⟩
          next enough =>
            simp only [updatePosition, recordEvent, bind_ok, modify_ok, audit_ok, pure_ok] at rest
            obtain ⟨_, _, rfl, _, _, rfl, rfl, rfl⟩ := rest
            have plain : plainSell order.toOrderIntent := by
              cases side : order.side <;> simp_all [plainSell]
            exact .inr ⟨rfl, order, found, {
              funds := ⟨account, held, fun buying => absurd buying selling⟩
              shares := fun _ => ⟨position, stored, not_lt.mp enough⟩
              accounts := by rw [if_neg selling]
              positions := by rw [if_pos plain]; rfl
              fills := rfl
              cashLedger := rfl
              outboxEvents := rfl }, rfl⟩

theorem find?_ensured (positions : Table (String × String) Position Position.key)
    (accountId symbol : String) :
    (positions.ensure (emptyPosition accountId symbol)).find? (accountId, symbol) =
      some (positionOf positions accountId symbol) := by
  have key : (emptyPosition accountId symbol).key = (accountId, symbol) := rfl
  rw [Table.find?_ensure, key, if_pos rfl]
  rfl

theorem getOrCreatePosition_ok {accountId symbol : String} {w w' : World} {position : Position} :
    getOrCreatePosition accountId symbol w = .ok position w' ↔
      position = positionOf w.db.positions accountId symbol ∧
        w' = { w with db := { w.db with
          positions := w.db.positions.ensure (emptyPosition accountId symbol) } } := by
  have found := find?_ensured w.db.positions accountId symbol
  simp only [emptyPosition] at found
  simp only [getOrCreatePosition, bind_ok, modify_ok, get_ok, pure_ok]
  constructor
  · rintro ⟨_, _, rfl, _, _, ⟨rfl, rfl⟩, rfl, rfl⟩
    simp only [found, Option.getD_some]
    exact ⟨trivial, rfl⟩
  · rintro ⟨rfl, rfl⟩
    refine ⟨⟨⟩, _, rfl, _, _, ⟨rfl, rfl⟩, ?_, rfl⟩
    simp only [found, Option.getD_some]

theorem filledAccount_buy (config : LocalSimConfig) {order : OrderIntent} (price avgCost : ℚ)
    (row : Account) (buying : order.side = .buy) :
    filledAccount config order price avgCost row =
      boughtAccount row (reserveAmount config order price)
        (order.quantity.value * price + commission config (order.quantity.value * price)) := by
  simp only [filledAccount, buying, if_true]

theorem filledAccount_sell (config : LocalSimConfig) {order : OrderIntent} (price avgCost : ℚ)
    (row : Account) (selling : order.side ≠ .buy) :
    filledAccount config order price avgCost row =
      soldAccount row
        (order.quantity.value * price - commission config (order.quantity.value * price))
        ((price - avgCost) * order.quantity.value -
          commission config (order.quantity.value * price)) := by
  simp only [filledAccount, selling, if_false]

theorem filledPosition_buy (config : LocalSimConfig) {order : OrderIntent} (price : ℚ)
    (row : Position) (buying : order.side = .buy) :
    filledPosition config order price row =
      valuedAt (boughtPosition row order.quantity.value
        (order.quantity.value * price + commission config (order.quantity.value * price)))
        price := by
  simp only [filledPosition, buying, if_true]

theorem filledPosition_sell (config : LocalSimConfig) {order : OrderIntent} (price : ℚ)
    (row : Position) (selling : order.side ≠ .buy) :
    filledPosition config order price row =
      valuedAt (soldPosition row order.quantity.value) price := by
  simp only [filledPosition, selling, if_false]

theorem bookFill_ok {config : LocalSimConfig} {order : Order} {price : ℚ} {position : Position}
    {w w' : World} {u : Unit} :
    bookFill config order price position w = .ok u w' ↔
      w' = { w with db := { w.db with
        accounts := w.db.accounts.modify order.accountId
          { apply := filledAccount config order.toOrderIntent price position.avgCost
            keeps := filledAccount_id config _ _ _ }
        positions := w.db.positions.modify (order.accountId, order.symbol)
          { apply := filledPosition config order.toOrderIntent price
            keeps := filledPosition_key config _ _ } } } := by
  by_cases buying : order.side = .buy
  · have account := funext fun row =>
      filledAccount_buy config price position.avgCost row buying
    have shares := funext fun row => filledPosition_buy config price row buying
    simp only [bookFill, buying, if_true, reservedCash_execution, bind_ok, liftExcept_ok,
      updateAccount, updatePosition, modify_ok, Except.ok.injEq, account, shares]
    constructor
    · rintro ⟨_, _, ⟨rfl, rfl⟩, _, _, rfl, rfl⟩
      rfl
    · rintro rfl
      exact ⟨_, _, ⟨rfl, rfl⟩, ⟨⟩, _, rfl, rfl⟩
  · have account := funext fun row =>
      filledAccount_sell config price position.avgCost row buying
    have shares := funext fun row => filledPosition_sell config price row buying
    simp only [bookFill, buying, if_false, bind_ok, updateAccount, updatePosition, modify_ok,
      account, shares]
    constructor
    · rintro ⟨_, _, rfl, rfl⟩
      rfl
    · rintro rfl
      exact ⟨⟨⟩, _, rfl, rfl⟩

theorem applyFill_ok {config : LocalSimConfig} {traceId orderId : String} {price : ℚ}
    {w w' : World} {u : Unit} (run : applyFill config traceId orderId price w = .ok u w') :
    ∃ order, w.db.orders.find? orderId = some order ∧ Settled config order price w.db w'.db := by
  simp only [applyFill, bind_ok, getOrder_ok, getAccount_ok] at run
  obtain ⟨order, _, ⟨found, rfl⟩, _, _, ⟨rfl, rfl⟩, run⟩ := run
  refine ⟨order, found, ?_⟩
  have named : order.orderId = orderId := Table.find?_key found
  subst named
  cases held : w.db.accounts.find? order.accountId with
  | none =>
    simp only [held] at run
    exact absurd run throw_ok
  | some account =>
    simp only [held, bind_ok, get_ok, newId_ok, addFill, modify_ok, getOrCreatePosition_ok,
      bookFill_ok, updateOrder, flush_ok, updateAccount] at run
    obtain ⟨_, _, ⟨rfl, rfl⟩, fillId, _, ⟨-, rfl⟩, brokerFillId, _, ⟨-, rfl⟩, _, _, rfl, _, _,
      ⟨rfl, rfl⟩, _, _, rfl, _, _, rfl, _, _, ⟨-, rfl⟩, _, _, ⟨rfl, rfl⟩, _, _, rfl, run⟩ := run
    simp only [getAccount_ok] at run
    obtain ⟨_, _, ⟨rfl, rfl⟩, run⟩ := run
    simp only [Table.find?_modify_self, held, Option.map_some, addCashLedger, recordEvent,
      recordBrokerEvent, addBrokerEvent, bind_ok, modify_ok, get_ok, getOrder_ok,
      transitionOrder_ok, audit_ok, enqueueEvent_ok] at run
    obtain ⟨_, _, rfl, _, _, ⟨filled, stored, fillable, rfl⟩, _, _, rfl, _, _,
      ⟨_, _, ⟨-, rfl⟩, _, _, ⟨rfl, rfl⟩, rfl⟩, _, _, rfl, rfl⟩ := run
    simp only [Table.find?_modify_self, found, Option.map_some, Option.some.injEq] at stored
    subst stored
    dsimp only
    exact {
      stored := found
      fillable := fillable
      account := ⟨account, held⟩
      accounts := Table.modify_modify _ _ _ _
      positions := rfl
      orders := Table.modify_modify _ _ _ _
      fills := ⟨_, rfl, rfl, rfl, rfl, rfl, rfl, rfl⟩
      cashLedger := by
        refine ⟨_, _, rfl, ?_, rfl, rfl, rfl, rfl⟩
        simp only [Table.find?_modify_self, held, Option.map_some]
      outboxEvents := ⟨_, _, List.append_assoc _ _ _, rfl, rfl, rfl⟩ }

end SynapseYield.LocalSim
