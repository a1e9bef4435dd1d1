import SynapseYield.Storage.Session

set_option autoImplicit false

namespace SynapseYield

structure RiskCheckResult where
  approved : Bool
  reasonCode : String
  message : String
  checkedRules : List String
  inputSnapshot : RiskSnapshot

namespace RiskEngine

-- Times are microseconds since the epoch, UTC.
def microsecondsPerDay : Int := 86400000000

def dayStart (now : Int) : Int := now - now % microsecondsPerDay

def estimateOrderValue (intent : IntentFields) (quote : Option MarketQuote) : ℚ :=
  let price : Option ℚ :=
    match intent.limitPrice, quote with
    | some limit, _ => some limit.value
    | none, some quote => some (if intent.side = .buy then quote.ask else quote.bid)
    | none, none => none
  match price with
  | some price => intent.quantity.value * price
  | none => 0

def rejected (reasonCode message : String) (checkedRules : List String)
    (inputSnapshot : RiskSnapshot) : RiskCheckResult :=
  { approved := false, reasonCode, message, checkedRules, inputSnapshot }

def countOrders (db : Database) (excludeOrderId : Option String) (counted : Order → Bool) : Nat :=
  db.orders.rows.countP fun order => counted order && (excludeOrderId != some order.orderId)

def sameExposure (intent : IntentFields) (order : Order) : Bool :=
  order.accountId == intent.accountId && order.symbol == intent.symbol && order.side == intent.side

def openStatuses : List OrderStatus :=
  [.created, .riskApproved, .submitting, .submitted, .partiallyFilled]

-- The rules after the daily order count, in the order of the source.
def checkExposure (config : RiskConfig) (db : Database) (now : Int) (intent : IntentFields)
    (excludeOrderId : Option String) (quote : Option MarketQuote) (account : Account)
    (estimatedValue : ℚ) (checkedRules : List String) (snapshot : RiskSnapshot) :
    RiskCheckResult :=
  let ratio : Option (ℚ × ℚ) :=
    if intent.side = .buy ∧ account.equity > 0 then
      config.maxPositionRatioPerSymbol.map fun maximum =>
        let existing := match db.positions.find? (intent.accountId, intent.symbol) with
          | some position => position.marketValue
          | none => 0
        (maximum, (existing + estimatedValue) / account.equity)
    else none
  let checkedRules := if ratio.isSome then checkedRules ++ ["max_position_ratio_per_symbol"]
    else checkedRules
  let snapshot := { snapshot with projectedSymbolPositionRatio := ratio.map Prod.snd }
  if ratio.any (fun pair => pair.2 > pair.1) then
    rejected "MAX_POSITION_RATIO_EXCEEDED"
      "Projected position value for this symbol exceeds the configured ratio of account equity"
      checkedRules snapshot
  else
  let deviation : Option ℚ :=
    match intent.limitPrice, quote with
    | some limit, some quote => some (|limit.value - quote.lastPrice| / quote.lastPrice)
    | _, _ => none
  let checkedRules := if deviation.isSome then checkedRules ++ ["limit_price_deviation"]
    else checkedRules
  let snapshot := { snapshot with limitPriceDeviationRatio := deviation }
  if deviation.any (fun ratio => ratio > config.maxLimitPriceDeviationRatio) then
    rejected "LIMIT_PRICE_DEVIATION_EXCEEDED"
      "Limit price deviates too far from the latest market price" checkedRules snapshot
  else
  let checkedRules := checkedRules ++ ["open_order_duplicate"]
  let duplicates := countOrders db excludeOrderId fun order =>
    sameExposure intent order && openStatuses.contains order.status
  let snapshot := { snapshot with similarOpenOrders := some duplicates }
  if duplicates ≠ 0 then
    rejected "DUPLICATE_OPEN_ORDER" "A similar open order already exists" checkedRules snapshot
  else
  let checkedRules := checkedRules ++ ["duplicate_order_cooldown"]
  let cooldownStart := now - config.duplicateOrderCooldownSeconds * 1000000
  let recent := countOrders db excludeOrderId fun order =>
    sameExposure intent order && decide (order.createdAt ≥ cooldownStart)
  let snapshot := { snapshot with recentSimilarOrders := some recent }
  if recent ≠ 0 then
    rejected "DUPLICATE_ORDER_COOLDOWN"
      "A similar order was created within the configured cooldown period" checkedRules snapshot
  else
    { approved := true, reasonCode := "OK", message := "Risk checks passed"
      checkedRules, inputSnapshot := snapshot }

def check (config : RiskConfig) (db : Database) (now : Int) (intent : IntentFields)
    (excludeOrderId : Option String) (quote : Option MarketQuote) (marketIsOpen : Option Bool) :
    RiskCheckResult :=
  let checkedRules := ["account_exists"]
  let snapshot : RiskSnapshot := { intent }
  match db.accounts.find? intent.accountId with
  | none => rejected "ACCOUNT_NOT_FOUND" s!"Account {intent.accountId} does not exist"
      checkedRules snapshot
  | some account =>
  if quote.any (fun quote => quote.symbol != intent.symbol) then
    rejected "QUOTE_SYMBOL_MISMATCH" "Quote symbol does not match order intent"
      (checkedRules ++ ["quote_symbol"]) snapshot
  else if config.requireMarketSession && marketIsOpen == some false then
    rejected "MARKET_CLOSED" "Orders are not allowed outside the configured market session"
      (checkedRules ++ ["market_session"]) snapshot
  else
  let checkedRules := if marketIsOpen.isSome then checkedRules ++ ["market_session"]
    else checkedRules
  let estimatedValue := estimateOrderValue intent quote
  let snapshot := { snapshot with
    estimatedValue := some estimatedValue
    cashAvailable := some account.cashAvailable }
  let checkedRules := checkedRules ++ ["max_single_order_value"]
  if estimatedValue > config.maxSingleOrderValue then
    rejected "MAX_SINGLE_ORDER_VALUE_EXCEEDED" "Order value exceeds max single order value"
      checkedRules snapshot
  else
  let checkedRules := checkedRules ++ ["cash_available"]
  if intent.side = .buy ∧ account.cashAvailable < estimatedValue then
    rejected "INSUFFICIENT_CASH" "Available cash is not enough for this order"
      checkedRules snapshot
  else
  let available := match db.positions.find? (intent.accountId, intent.symbol) with
    | some position => position.availableQuantity
    | none => 0
  let checkedRules := if intent.side = .sell then checkedRules ++ ["position_available"]
    else checkedRules
  let snapshot := if intent.side = .sell then { snapshot with availableQuantity := some available }
    else snapshot
  if intent.side = .sell ∧ available < intent.quantity.value then
    rejected "INSUFFICIENT_POSITION" "Available position is not enough for this sell order"
      checkedRules snapshot
  else
  let checkedRules := checkedRules ++ ["daily_loss_limit"]
  let snapshot := { snapshot with realizedPnl := some account.realizedPnl }
  if account.realizedPnl ≤ -config.maxDailyLoss then
    rejected "DAILY_LOSS_LIMIT_EXCEEDED" "Account loss has reached the configured daily limit"
      checkedRules snapshot
  else
  let checkedRules := checkedRules ++ ["daily_order_count"]
  let dailyOrderCount := countOrders db excludeOrderId fun order =>
    order.accountId == intent.accountId && decide (order.createdAt ≥ dayStart now)
  let snapshot := { snapshot with dailyOrderCount := some dailyOrderCount }
  if dailyOrderCount ≥ config.maxDailyOrderCount then
    rejected "MAX_DAILY_ORDER_COUNT_EXCEEDED" "Account has reached the maximum daily order count"
      checkedRules snapshot
  else
    checkExposure config db now intent excludeOrderId quote account estimatedValue checkedRules
      snapshot

-- The columns of an intent that the rules look at.
structure SameRisk (intent intent' : IntentFields) : Prop where
  accountId : intent'.accountId = intent.accountId
  symbol : intent'.symbol = intent.symbol
  side : intent'.side = intent.side
  quantity : intent'.quantity = intent.quantity
  limitPrice : intent'.limitPrice = intent.limitPrice

theorem check_congr {config : RiskConfig} {db db' : Database} {now : Int}
    {intent intent' : IntentFields} {excluded excluded' : Option String}
    {quote : Option MarketQuote} {marketIsOpen : Option Bool}
    (accounts : db'.accounts = db.accounts) (positions : db'.positions = db.positions)
    (counts : ∀ counted, countOrders db' excluded' counted = countOrders db excluded counted)
    (same : SameRisk intent intent') :
    (check config db' now intent' excluded' quote marketIsOpen).approved =
      (check config db now intent excluded quote marketIsOpen).approved := by
  obtain ⟨accountId, symbol, side, quantity, limitPrice⟩ := same
  have exposure : sameExposure intent' = sameExposure intent := by
    funext order
    simp only [sameExposure, accountId, symbol, side]
  have estimate : estimateOrderValue intent' quote = estimateOrderValue intent quote := by
    simp only [estimateOrderValue, side, quantity, limitPrice]
  unfold check checkExposure
  rw [accounts, accountId]
  cases db.accounts.find? intent.accountId with
  | none => rfl
  | some account =>
    simp only [positions, counts, exposure, estimate, symbol, side, quantity, limitPrice,
      apply_ite RiskCheckResult.approved, rejected]
end RiskEngine

end SynapseYield
