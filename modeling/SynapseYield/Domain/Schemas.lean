import SynapseYield.Domain.Decimal
import SynapseYield.Domain.Orders

set_option autoImplicit false

namespace SynapseYield

-- The keyword arguments of OrderIntent, before pydantic has looked at them.
structure IntentFields where
  accountId : String
  symbol : String
  side : OrderSide
  orderType : OrderType
  quantity : Decimal
  limitPrice : Option Decimal := none
  timeInForce : TimeInForce := .day
  sourceSignalId : Option String := none
  strategyName : Option String := none
  triggerPrice : Option Decimal := none
deriving DecidableEq, Repr

structure OrderIntent extends IntentFields where
  quantity_pos : 0 < quantity.value
  limit_pos : ∀ price ∈ limitPrice, 0 < price.value
  trigger_pos : ∀ price ∈ triggerPrice, 0 < price.value
  limit_required : orderType ≠ .market → limitPrice ≠ none
deriving DecidableEq

def greaterThanZero (field : String) : PyException :=
  .validationError s!"{field}: Input should be greater than 0"

def OrderIntent.validate (fields : IntentFields) : Except PyException OrderIntent :=
  if quantity_pos : 0 < fields.quantity.value then
    if limit_pos : ∀ price ∈ fields.limitPrice, 0 < price.value then
      if trigger_pos : ∀ price ∈ fields.triggerPrice, 0 < price.value then
        if limit_required : fields.orderType ≠ .market → fields.limitPrice ≠ none then
          .ok { fields with quantity_pos, limit_pos, trigger_pos, limit_required }
        else .error (.validationError
          s!"limit_price is required for {fields.orderType.value} orders")
      else .error (greaterThanZero "trigger_price")
    else .error (greaterThanZero "limit_price")
  else .error (greaterThanZero "quantity")

theorem OrderIntent.validate_ok {fields : IntentFields} {intent : OrderIntent}
    (valid : OrderIntent.validate fields = .ok intent) : intent.toIntentFields = fields := by
  unfold OrderIntent.validate at valid
  split at valid <;> try contradiction
  split at valid <;> try contradiction
  split at valid <;> try contradiction
  split at valid <;> try contradiction
  cases valid
  rfl

theorem OrderIntent.validate_error {fields : IntentFields} {raised : PyException}
    (failed : OrderIntent.validate fields = .error raised) : raised.refusal = false := by
  unfold OrderIntent.validate at failed
  repeat' split at failed
  all_goals cases failed
  all_goals rfl

theorem OrderIntent.validate_returns {fields : IntentFields} (quantity : 0 < fields.quantity.value)
    (limit : ∀ price ∈ fields.limitPrice, 0 < price.value)
    (trigger : ∀ price ∈ fields.triggerPrice, 0 < price.value)
    (required : fields.orderType ≠ .market → fields.limitPrice ≠ none) :
    ∃ intent, OrderIntent.validate fields = .ok intent := by
  unfold OrderIntent.validate
  rw [dif_pos quantity, dif_pos limit, dif_pos trigger, dif_pos required]
  exact ⟨_, rfl⟩

structure RiskConfig where
  maxSingleOrderValue : ℚ := 1000000
  maxDailyLoss : ℚ := 3000
  maxDailyOrderCount : Nat := 50
  duplicateOrderCooldownSeconds : Int := 60
  maxLimitPriceDeviationRatio : ℚ := 3 / 100
  requireMarketSession : Bool := true
  maxPositionRatioPerSymbol : Option ℚ := none

theorem free_nonneg : (0 : ℚ) ≤ 0 := le_rfl

structure LocalSimConfig where
  commissionRate : ℚ := 0
  minimumCommission : ℚ := 0
  rate_nonneg : 0 ≤ commissionRate := by first | exact free_nonneg | decide +kernel
  minimum_nonneg : 0 ≤ minimumCommission := by first | exact free_nonneg | decide +kernel

structure MarketQuote where
  symbol : String
  lastPrice : ℚ
  bidPrice : Option ℚ := none
  askPrice : Option ℚ := none
  last_pos : 0 < lastPrice
  bid_pos : ∀ price ∈ bidPrice, 0 < price
  ask_pos : ∀ price ∈ askPrice, 0 < price

namespace MarketQuote

def validate (symbol : String) (lastPrice : ℚ) (bidPrice askPrice : Option ℚ) :
    Except PyException MarketQuote :=
  if last_pos : 0 < lastPrice then
    if bid_pos : ∀ price ∈ bidPrice, 0 < price then
      if ask_pos : ∀ price ∈ askPrice, 0 < price then
        .ok { symbol, lastPrice, bidPrice, askPrice, last_pos, bid_pos, ask_pos }
      else .error (greaterThanZero "ask_price")
    else .error (greaterThanZero "bid_price")
  else .error (greaterThanZero "last_price")

theorem validate_error {symbol : String} {lastPrice : ℚ} {bidPrice askPrice : Option ℚ}
    {raised : PyException} (failed : validate symbol lastPrice bidPrice askPrice = .error raised) :
    raised.refusal = false := by
  unfold validate at failed
  repeat' split at failed
  all_goals cases failed
  all_goals rfl

-- The quote the executor makes up: bid, ask and last are one price.
def atPrice (symbol : String) (price : ℚ) (positive : 0 < price) : MarketQuote where
  symbol := symbol
  lastPrice := price
  bidPrice := some price
  askPrice := some price
  last_pos := positive
  bid_pos := by simpa using positive
  ask_pos := by simpa using positive

theorem validate_atPrice {symbol : String} {price : ℚ} {quote : MarketQuote} :
    validate symbol price (some price) (some price) = .ok quote ↔
      ∃ positive, quote = atPrice symbol price positive := by
  unfold validate
  split
  next positive =>
    have given : ∀ given ∈ some price, 0 < given := by simpa using positive
    rw [dif_pos given, dif_pos given, Except.ok.injEq]
    constructor
    · rintro rfl
      exact ⟨positive, rfl⟩
    · rintro ⟨_, rfl⟩
      rfl
  next nonpositive =>
    constructor
    · intro failed
      cases failed
    · rintro ⟨positive, -⟩
      exact absurd positive nonpositive

-- quote.ask_price or quote.last_price
def ask (quote : MarketQuote) : ℚ := quote.askPrice.getD quote.lastPrice

-- quote.bid_price or quote.last_price
def bid (quote : MarketQuote) : ℚ := quote.bidPrice.getD quote.lastPrice

theorem ask_positive (quote : MarketQuote) : 0 < quote.ask := by
  unfold ask
  cases given : quote.askPrice with
  | none => exact quote.last_pos
  | some price => exact quote.ask_pos price given

end MarketQuote

structure BrokerOrderResult where
  accepted : Bool
  brokerOrderId : Option String := none
  message : String
deriving DecidableEq, Repr

structure LLMTradeProposal where
  action : TradeAction
  symbol : String
  confidence : ℚ
  quantity : Decimal
  orderType : OrderType
  limitPrice : Option Decimal
  takeProfitPrice : Option Decimal := none
  stopLossPrice : Option Decimal := none
  rationale : String
  symbol_nonempty : symbol ≠ ""
  confidence_range : 0 ≤ confidence ∧ confidence ≤ 1
  quantity_nonneg : 0 ≤ quantity.value
  rationale_nonempty : rationale ≠ ""
  hold_idle : action = .hold → quantity.value = 0 ∧ limitPrice = none
  trade_quantity : action ≠ .hold → 0 < quantity.value
  trade_limit : action ≠ .hold → orderType = .limit → limitPrice ≠ none

structure HumanApprovalDecision where
  approved : Bool
  reviewer : String
  reason : String := ""
  reviewer_nonempty : reviewer ≠ ""

structure LLMTradingRunResult where
  threadId : String
  traceId : String
  status : LLMTradingRunStatus
  reviewer : String
  orderId : String
  riskDecisionId : Option String
  brokerOrderId : Option String
  orderStatus : OrderStatus
  takeProfitOrderId : Option String := none
  takeProfitBrokerOrderId : Option String := none
  stopLossOrderId : Option String := none
  stopLossBrokerOrderId : Option String := none
  message : String
deriving DecidableEq, Repr

end SynapseYield
