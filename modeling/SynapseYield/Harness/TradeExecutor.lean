import SynapseYield.Broker.LocalSim
import SynapseYield.Broker.Longbridge

set_option autoImplicit false

namespace SynapseYield

-- BrokerAdapter
structure BrokerAdapter where
  brokerName : String
  submitOrder : (traceId orderId : String) → MarketQuote → Exec BrokerOrderResult
  cancelOrder : (traceId orderId : String) → Exec BrokerOrderResult

def LocalSim.adapter (config : LocalSimConfig) : BrokerAdapter where
  brokerName := LocalSim.brokerName
  submitOrder := LocalSim.submitOrder config
  cancelOrder := LocalSim.cancelOrder config

def Longbridge.adapter (broker : LongbridgeBroker) : BrokerAdapter where
  brokerName := Longbridge.brokerName
  submitOrder := fun traceId orderId _ => Longbridge.submitOrder broker traceId orderId
  cancelOrder := Longbridge.cancelOrder broker

structure TradeExecutor where
  riskConfig : RiskConfig := {}
  broker : BrokerAdapter
  strategyName : String := "harness_agent"
  strategyVersion : String := "1.0"
  rowOrder : RowOrder := {}

namespace TradeExecutor

open OrderService

-- OrderSide(proposal.action.value)
def orderSide (action : TradeAction) : Except PyException OrderSide :=
  match action with
  | .buy => .ok .buy
  | .sell => .ok .sell
  | .hold => .error (.valueError "'HOLD' is not a valid OrderSide")

def findExistingOrder (executor : TradeExecutor) (db : Database) (traceId symbol : String) :
    Option Order :=
  let rows := db.orders.rows.filter fun order =>
    db.strategySignals.any fun signal =>
      order.sourceSignalId == some signal.signalId && signal.traceId == traceId &&
        signal.strategyName == executor.strategyName && signal.symbol == symbol
  (executor.rowOrder.arrange rows).head?

def truthy (price : Option Decimal) : Option Decimal :=
  price.filter fun price => price.coefficient ≠ 0

def buildSignal (executor : TradeExecutor) (signalId traceId : String) (proposal : LLMTradeProposal)
    (side : OrderSide) : StrategySignal :=
  { signalId, traceId, strategyName := executor.strategyName
    strategyVersion := executor.strategyVersion, symbol := proposal.symbol, side
    confidence := proposal.confidence, targetQuantity := proposal.quantity
    orderType := proposal.orderType, limitPrice := proposal.limitPrice
    reason := proposal.rationale }

def intentFields (executor : TradeExecutor) (proposal : LLMTradeProposal) (accountId : String)
    (side : OrderSide) (signalId : String) : IntentFields :=
  { accountId, symbol := proposal.symbol, side, orderType := proposal.orderType
    quantity := proposal.quantity, limitPrice := proposal.limitPrice
    sourceSignalId := some signalId, strategyName := some executor.strategyName }

def bracketFields (executor : TradeExecutor) (accountId symbol : String) (quantity : Decimal)
    (orderType : OrderType) (triggerPrice : Decimal) (signalId : String) : IntentFields :=
  { accountId, symbol, side := .sell, orderType, quantity, limitPrice := some triggerPrice
    timeInForce := .day, sourceSignalId := some signalId
    strategyName := some executor.strategyName, triggerPrice := some triggerPrice }

def submitBracketOrder (executor : TradeExecutor) (traceId accountId symbol : String)
    (quantity : Decimal) (orderType : OrderType) (triggerPrice : Decimal) (signalId : String) :
    Exec (String × BrokerOrderResult) := do
  let intent ← liftExcept (OrderIntent.validate
    (executor.bracketFields accountId symbol quantity orderType triggerPrice signalId))
  let orderId ← createOrderFromIntent traceId intent
  transitionOrder traceId orderId .riskApproved "BRACKET_AUTO_APPROVED"
  let price := triggerPrice.value
  let quote ← liftExcept (MarketQuote.validate symbol price (some price) (some price))
  let result ← executor.broker.submitOrder traceId orderId quote
  pure (orderId, result)

-- A child is submitted only for a BUY whose price is given and not zero.
def submitChild (executor : TradeExecutor) (traceId accountId : String)
    (proposal : LLMTradeProposal) (orderType : OrderType) (price : Option Decimal)
    (signalId : String) : Exec (Option (String × BrokerOrderResult)) :=
  match truthy price with
  | some trigger =>
    if proposal.action = .buy then do
      let child ← executor.submitBracketOrder traceId accountId proposal.symbol proposal.quantity
        orderType trigger signalId
      pure (some child)
    else pure none
  | none => pure none

def addAudit (traceId eventType : String) (orderId : String) : Exec Unit :=
  addAuditLog
    { traceId, actorType := "AGENT", actorName := "TradeExecutor", eventType
      orderId := some orderId, previousState := none, nextState := none }

-- proposal.limit_price or Decimal("0")
def mainPrice (proposal : LLMTradeProposal) : ℚ :=
  match proposal.limitPrice with
  | some price => price.value
  | none => 0

structure PlacedOrder where
  signalId : String
  orderId : String
  quote : MarketQuote
  riskDecisionId : String

-- _do_execute up to the verdict of the risk check.
def placeOrder (executor : TradeExecutor) (proposal : LLMTradeProposal)
    (accountId traceId : String) (marketIsOpen : Option Bool) : Exec PlacedOrder := do
  let signalId ← newId "sig"
  let side ← liftExcept (orderSide proposal.action)
  addStrategySignal (executor.buildSignal signalId traceId proposal side)
  flush
  let intent ← liftExcept (OrderIntent.validate
    (executor.intentFields proposal accountId side signalId))
  let orderId ← createOrderFromIntent traceId intent
  let price := mainPrice proposal
  let quote ← liftExcept (MarketQuote.validate proposal.symbol price (some price) (some price))
  let riskDecision ← runRiskCheck executor.riskConfig traceId orderId (some quote) marketIsOpen
  let checked ← getOrder orderId
  if checked.status ≠ .riskApproved then
    throw (.runtimeError s!"风控拒绝：{riskDecision.reasonCode}")
  else pure { signalId, orderId, quote, riskDecisionId := riskDecision.riskDecisionId }

-- _do_execute once the broker has taken the main order.
def submitChildren (executor : TradeExecutor) (proposal : LLMTradeProposal)
    (decision : HumanApprovalDecision) (accountId traceId threadId : String)
    (placed : PlacedOrder) (result : BrokerOrderResult) : Exec LLMTradingRunResult := do
  let takeProfit ← executor.submitChild traceId accountId proposal .limitIfTouched
    proposal.takeProfitPrice placed.signalId
  let stopLoss ← executor.submitChild traceId accountId proposal .stopLimit
    proposal.stopLossPrice placed.signalId
  addAudit traceId "TRADE_APPROVED" placed.orderId
  let order ← getOrder placed.orderId
  pure
    { threadId, traceId, status := .completed, reviewer := decision.reviewer
      orderId := placed.orderId, riskDecisionId := some placed.riskDecisionId
      brokerOrderId := result.brokerOrderId, orderStatus := order.status
      takeProfitOrderId := takeProfit.map Prod.fst
      takeProfitBrokerOrderId := takeProfit.bind fun child => child.2.brokerOrderId
      stopLossOrderId := stopLoss.map Prod.fst
      stopLossBrokerOrderId := stopLoss.bind fun child => child.2.brokerOrderId
      message := result.message }

-- The rest of _do_execute: the main order goes to the broker, then its children.
def submitPlaced (executor : TradeExecutor) (proposal : LLMTradeProposal)
    (decision : HumanApprovalDecision) (accountId traceId threadId : String)
    (placed : PlacedOrder) : Exec LLMTradingRunResult := do
  let result ← executor.broker.submitOrder traceId placed.orderId placed.quote
  if !result.accepted then throw (.runtimeError s!"券商拒绝下单：{result.message}")
  else executor.submitChildren proposal decision accountId traceId threadId placed result

def doExecute (executor : TradeExecutor) (proposal : LLMTradeProposal)
    (decision : HumanApprovalDecision) (accountId traceId threadId : String)
    (marketIsOpen : Option Bool) : Exec LLMTradingRunResult := do
  let w ← get
  match executor.findExistingOrder w.db traceId proposal.symbol with
  | some existing =>
    pure
      { threadId, traceId, status := .completed, reviewer := decision.reviewer
        orderId := existing.orderId, riskDecisionId := existing.riskDecisionId
        brokerOrderId := existing.brokerOrderId, orderStatus := existing.status
        message := "Idempotency hit: existing approved order reused" }
  | none =>
    let placed ← executor.placeOrder proposal accountId traceId marketIsOpen
    executor.submitPlaced proposal decision accountId traceId threadId placed

def execute (executor : TradeExecutor) (proposal : LLMTradeProposal)
    (decision : HumanApprovalDecision) (accountId : String)
    (traceId threadId : Option String := none) (marketIsOpen : Option Bool := none) :
    Exec LLMTradingRunResult := do
  let resolvedTraceId ← orNewId traceId "trace"
  let resolvedThreadId ← orNewId threadId "thread"
  transaction (executor.doExecute proposal decision accountId resolvedTraceId resolvedThreadId
    marketIsOpen)

end TradeExecutor

end SynapseYield
