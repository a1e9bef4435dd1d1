import SynapseYield.Harness.OrderService

set_option autoImplicit false

namespace SynapseYield.LocalSim

open OrderService

def brokerName : String := "local_sim"

def commission (config : LocalSimConfig) (grossAmount : ℚ) : ℚ :=
  if config.commissionRate = 0 then 0
  else max (grossAmount * config.commissionRate) config.minimumCommission

def reservedCash (config : LocalSimConfig) (order : Order) (quote : Option MarketQuote)
    (executionPrice : Option ℚ) : Except PyException ℚ :=
  let charged (grossAmount : ℚ) : Except PyException ℚ :=
    .ok (grossAmount + commission config grossAmount)
  match order.limitPrice, quote, executionPrice with
  | some limit, _, _ => charged (order.quantity.value * limit.value)
  | none, some quote, _ => charged (order.quantity.value * quote.ask)
  | none, none, some price => charged (order.quantity.value * price)
  | none, none, none => .error (.valueError "Market order reservation requires a quote")

theorem reservedCash_error {config : LocalSimConfig} {order : Order} {quote : Option MarketQuote}
    {executionPrice : Option ℚ} {raised : PyException}
    (failed : reservedCash config order quote executionPrice = .error raised) :
    raised.refusal = false := by
  unfold reservedCash at failed
  split at failed
  all_goals cases failed
  rfl

def isBracketOrder (order : OrderIntent) : Bool :=
  order.side = .sell ∧ (order.orderType = .limitIfTouched ∨ order.orderType = .stopLimit)

def fillPrice (order : Order) (quote : MarketQuote) : Option ℚ :=
  if order.orderType = .market then
    some (if order.side = .buy then quote.ask else quote.bid)
  else match order.limitPrice with
    | none => none
    | some limit =>
      if order.orderType = .limitIfTouched ∧ order.side = .sell then
        if quote.bid ≥ limit.value then some quote.bid else none
      else if order.orderType = .stopLimit ∧ order.side = .sell then
        if quote.bid ≤ limit.value then some quote.bid else none
      else if order.side = .buy then
        if limit.value ≥ quote.ask then some quote.ask else none
      else if limit.value ≤ quote.bid then some quote.bid else none

def weightedAvgCost (currentQuantity currentAvgCost fillQuantity fillCost : ℚ) : ℚ :=
  if currentQuantity + fillQuantity ≤ 0 then 0
  else (currentQuantity * currentAvgCost + fillCost) / (currentQuantity + fillQuantity)

def positionsOf (db : Database) (accountId : String) : List Position :=
  db.positions.rows.filter fun position => position.accountId = accountId

def totalMarketValue (db : Database) (accountId : String) : ℚ :=
  ((positionsOf db accountId).map Position.marketValue).sum

def totalUnrealizedPnl (db : Database) (accountId : String) : ℚ :=
  ((positionsOf db accountId).map Position.unrealizedPnl).sum

def recordBrokerEvent (traceId orderId eventType : String) (brokerFillId : Option String) :
    Exec Unit := do
  let order ← getOrder orderId
  let w ← get
  addBrokerEvent
    { traceId, brokerName, brokerOrderId := order.brokerOrderId, brokerFillId, eventType
      processedAt := w.now }

def getAccount (accountId : String) : Exec (Option Account) := do
  let w ← get
  pure (w.db.accounts.find? accountId)

def findPosition (accountId symbol : String) : Exec (Option Position) := do
  let w ← get
  pure (w.db.positions.find? (accountId, symbol))

def accountMissing (accountId : String) : String := s!"Account {accountId} does not exist"

def reserveResources (config : LocalSimConfig) (traceId orderId : String) (quote : MarketQuote) :
    Exec (Option String) := do
  let order ← getOrder orderId
  match ← getAccount order.accountId with
  | none => pure (some (accountMissing order.accountId))
  | some account =>
    if order.side = .buy then
      let reserved ← liftExcept (reservedCash config order (some quote) none)
      if account.cashAvailable < reserved then
        pure (some "Available cash is not enough to reserve this order")
      else
        updateAccount order.accountId fun row =>
          { row with
            cashAvailable := row.cashAvailable - reserved
            cashFrozen := row.cashFrozen + reserved }
        recordEvent traceId "LOCAL_SIM_RESOURCES_RESERVED" orderId
        pure none
    else if isBracketOrder order.toOrderIntent then
      recordEvent traceId "LOCAL_SIM_RESOURCES_RESERVED" orderId
      pure none
    else
      match ← findPosition order.accountId order.symbol with
      | none => pure (some "Available position is not enough to reserve this order")
      | some position =>
        if position.availableQuantity < order.quantity.value then
          pure (some "Available position is not enough to reserve this order")
        else
          updatePosition (order.accountId, order.symbol) fun row =>
            { row with availableQuantity := row.availableQuantity - order.quantity.value }
          recordEvent traceId "LOCAL_SIM_RESOURCES_RESERVED" orderId
          pure none

-- The resources themselves, before the release is written to the audit log.
def giveBack (config : LocalSimConfig) (order : Order) : Exec Unit := do
  match ← getAccount order.accountId with
  | none => throw (.valueError (accountMissing order.accountId))
  | some _ =>
    if order.side = .buy then
      let reserved ← liftExcept (reservedCash config order none none)
      updateAccount order.accountId fun row =>
        { row with
          cashFrozen := row.cashFrozen - reserved
          cashAvailable := row.cashAvailable + reserved }
    else if isBracketOrder order.toOrderIntent then pure ()
    else
      match ← findPosition order.accountId order.symbol with
      | none => throw (.valueError
          s!"Position {order.accountId}/{order.symbol} does not exist")
      | some _ =>
        updatePosition (order.accountId, order.symbol) fun row =>
          { row with
            availableQuantity :=
              row.availableQuantity + (order.quantity.value - order.filledQuantity) }

def releaseResources (config : LocalSimConfig) (traceId orderId : String) : Exec Unit := do
  let order ← getOrder orderId
  giveBack config order
  recordEvent traceId "LOCAL_SIM_RESOURCES_RELEASED" orderId

-- The position after a fill, before it is valued at the fill price.
def boughtPosition (position : Position) (quantity totalCost : ℚ) : Position :=
  { position with
    avgCost := weightedAvgCost position.quantity position.avgCost quantity totalCost
    quantity := position.quantity + quantity
    availableQuantity := position.availableQuantity + quantity }

def soldPosition (position : Position) (quantity : ℚ) : Position :=
  if position.quantity - quantity ≤ 0 then { position with quantity := 0, avgCost := 0 }
  else { position with quantity := position.quantity - quantity }

def valuedAt (position : Position) (price : ℚ) : Position :=
  { position with
    marketPrice := price
    marketValue := position.quantity * price
    unrealizedPnl := position.quantity * price - position.quantity * position.avgCost }

theorem valuedAt_key (position : Position) (price : ℚ) :
    (valuedAt position price).key = position.key := rfl

theorem soldPosition_key (position : Position) (quantity : ℚ) :
    (soldPosition position quantity).key = position.key := by
  unfold soldPosition
  split <;> rfl

def getOrCreatePosition (accountId symbol : String) : Exec Position := do
  modify fun w => { w with
    db := { w.db with positions := w.db.positions.ensure { accountId, symbol } } }
  let w ← get
  pure ((w.db.positions.find? (accountId, symbol)).getD { accountId, symbol })

def boughtAccount (account : Account) (reserved totalCost : ℚ) : Account :=
  { account with
    cashFrozen := account.cashFrozen - reserved
    cashAvailable := account.cashAvailable + (reserved - totalCost) }

def soldAccount (account : Account) (netProceeds realizedPnl : ℚ) : Account :=
  { account with
    cashAvailable := account.cashAvailable + netProceeds
    realizedPnl := account.realizedPnl + realizedPnl }

-- The two branches of _apply_fill, each with its own account and position entries.
def bookFill (config : LocalSimConfig) (order : Order) (price : ℚ) (position : Position) :
    Exec Unit :=
  let quantity := order.quantity.value
  let grossAmount := quantity * price
  let charge := commission config grossAmount
  if order.side = .buy then do
    let reserved ← liftExcept (reservedCash config order none (some price))
    updateAccount order.accountId fun row => boughtAccount row reserved (grossAmount + charge)
    updatePosition (order.accountId, order.symbol)
      (fun row => valuedAt (boughtPosition row quantity (grossAmount + charge)) price)
  else do
    updateAccount order.accountId fun row =>
      soldAccount row (grossAmount - charge) ((price - position.avgCost) * quantity - charge)
    updatePosition (order.accountId, order.symbol)
      (fun row => valuedAt (soldPosition row quantity) price)
      (fun row => by rw [valuedAt_key, soldPosition_key])

def revalued (account : Account) (db : Database) : Account :=
  { account with
    unrealizedPnl := totalUnrealizedPnl db account.accountId
    equity := account.cashAvailable + account.cashFrozen + totalMarketValue db account.accountId }

def cashAmount (config : LocalSimConfig) (order : OrderIntent) (price : ℚ) : ℚ :=
  let grossAmount := order.quantity.value * price
  if order.side = .buy then -(grossAmount + commission config grossAmount)
  else grossAmount - commission config grossAmount

def ledgerEvent (order : OrderIntent) : String :=
  if order.side = .buy then "BUY_FILL" else "SELL_FILL"

def applyFill (config : LocalSimConfig) (traceId orderId : String) (price : ℚ) : Exec Unit := do
  let order ← getOrder orderId
  match ← getAccount order.accountId with
  | none => throw (.valueError (accountMissing order.accountId))
  | some _ =>
    let w ← get
    let quantity := order.quantity.value
    let fillId ← newId "fill"
    let brokerFillId ← newId "ls_fill"
    addFill
      { fillId, orderId, brokerFillId := some brokerFillId, symbol := order.symbol
        side := order.side, quantity, price, commission := commission config (quantity * price)
        fillTime := w.now }
    let position ← getOrCreatePosition order.accountId order.symbol
    bookFill config order price position
    updateOrder orderId fun row =>
      { row with filledQuantity := row.quantity.value, avgFillPrice := some price }
    flush
    let flushed ← get
    updateAccount order.accountId fun row => revalued row flushed.db
    match ← getAccount order.accountId with
    | none => throw (.valueError (accountMissing order.accountId))
    | some account =>
      addCashLedger
        { accountId := order.accountId, orderId := some orderId, fillId := some fillId
          eventType := ledgerEvent order.toOrderIntent
          amount := cashAmount config order.toOrderIntent price
          currency := account.baseCurrency, balanceAfter := account.cashAvailable }
      transitionOrder traceId orderId .filled "LOCAL_SIM_ORDER_FILLED"
      recordEvent traceId "LOCAL_SIM_LEDGER_UPDATED" orderId
      recordBrokerEvent traceId orderId "FILL" (some brokerFillId)
      enqueueEvent traceId "ORDER_FILLED" "ORDER" orderId
      enqueueEvent traceId "POSITION_UPDATED" "POSITION" (order.accountId ++ ":" ++ order.symbol)

def submitOrder (config : LocalSimConfig) (traceId orderId : String) (quote : MarketQuote) :
    Exec BrokerOrderResult := do
  let order ← getOrder orderId
  if order.status ≠ .riskApproved then
    pure
      { accepted := false
        message := s!"Order status {order.status.value} is not submittable" }
  else if quote.symbol ≠ order.symbol then
    transitionOrder traceId orderId .failed "LOCAL_SIM_SYMBOL_MISMATCH"
    pure { accepted := false, message := "Quote symbol does not match order" }
  else
    match ← reserveResources config traceId orderId quote with
    | some error =>
      transitionOrder traceId orderId .failed "LOCAL_SIM_RESERVATION_FAILED"
      pure { accepted := false, message := error }
    | none =>
      let brokerOrderId ← newId "ls_order"
      transitionOrder traceId orderId .submitting "LOCAL_SIM_ORDER_SUBMITTING"
      updateOrder orderId fun row => { row with brokerOrderId := some brokerOrderId }
      transitionOrder traceId orderId .submitted "LOCAL_SIM_ORDER_SUBMITTED"
      recordBrokerEvent traceId orderId "ORDER_ACCEPTED" none
      match fillPrice order quote with
      | some price => applyFill config traceId orderId price
      | none => pure ()
      pure
        { accepted := true, brokerOrderId := some brokerOrderId
          message := "Order accepted by local simulator" }

def fillOrders (config : LocalSimConfig) (traceId : String) (quote : MarketQuote) :
    List String → Exec (List String)
  | [] => pure []
  | orderId :: rest => do
    let order ← getOrder orderId
    match fillPrice order quote with
    | none => fillOrders config traceId quote rest
    | some price =>
      applyFill config traceId orderId price
      let filled ← fillOrders config traceId quote rest
      pure (orderId :: filled)

def restingOrders (db : Database) (symbol : String) : List Order :=
  db.orders.rows.filter fun order => order.symbol = symbol ∧ order.status = .submitted

def processQuote (config : LocalSimConfig) (rowOrder : RowOrder) (traceId : String)
    (quote : MarketQuote) : Exec (List String) := do
  let w ← get
  let orders := rowOrder.arrange (restingOrders w.db quote.symbol)
  fillOrders config traceId quote (orders.map Order.orderId)

def cancelOrder (config : LocalSimConfig) (traceId orderId : String) : Exec BrokerOrderResult := do
  let order ← getOrder orderId
  if order.status ≠ .submitted then
    pure
      { accepted := false, brokerOrderId := order.brokerOrderId
        message := s!"Order status {order.status.value} is not cancellable" }
  else
    transitionOrder traceId orderId .cancelPending "LOCAL_SIM_CANCEL_PENDING"
    releaseResources config traceId orderId
    transitionOrder traceId orderId .cancelled "LOCAL_SIM_ORDER_CANCELLED"
    recordBrokerEvent traceId orderId "ORDER_CANCELLED" none
    enqueueEvent traceId "ORDER_CANCELLED" "ORDER" orderId
    pure
      { accepted := true, brokerOrderId := order.brokerOrderId
        message := "Order cancelled by local simulator" }

end SynapseYield.LocalSim
