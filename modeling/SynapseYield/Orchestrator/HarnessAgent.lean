import SynapseYield.Harness.TradeExecutor
import SynapseYield.Shared.Python

set_option autoImplicit false

namespace SynapseYield

open Shared

structure PickFields where
  symbol : String
  action : TradeAction
  confidence : ℚ
  quantity : Decimal
  suggestedLimitPrice : Option Decimal := none
  takeProfitPrice : Option Decimal := none
  stopLossPrice : Option Decimal := none
  rationale : String

structure StockPick extends PickFields where
  symbol_nonempty : symbol ≠ ""
  confidence_range : 0 ≤ confidence ∧ confidence ≤ 1
  quantity_nonneg : 0 ≤ quantity.value
  rationale_nonempty : rationale ≠ ""

-- pydantic: the fields of a dict, each read as a value of its type. And what str makes of an
-- exception and of a JSON value.
structure Pydantic where
  readFields : PyDict → Except PyException PickFields
  exceptionText : PyException → String
  valueText : PyValue → String

namespace StockPick

variable [PyText]

def currencySigns : List CodePoint := [36, 165, 8364, 163]

-- v.strip().lstrip("$¥€£").replace(",", ""), and None for a text of which nothing is left
def stripPriceFormatting : PyValue → PyValue
  | .str text =>
    let cleaned := (text.strip.points.dropWhile (· ∈ currencySigns)).filter (· ≠ 44)
    if cleaned = [] then .none else .str ⟨cleaned⟩
  | value => value

def priceFields : List PyString := ["suggested_limit_price", "take_profit_price", "stop_loss_price"]

def stripPrices (entries : PyDict) : PyDict :=
  entries.map fun entry =>
    if priceFields.any (entry.1.isKey ·) then (entry.1, stripPriceFormatting entry.2) else entry

def tooShort (field : String) : PyException :=
  .validationError s!"{field}: String should have at least 1 character"

def greaterThanEqual (field : String) : PyException :=
  .validationError s!"{field}: Input should be greater than or equal to 0"

def ofFields (fields : PickFields) : Except PyException StockPick :=
  if symbol_nonempty : fields.symbol ≠ "" then
    if confidence_range : 0 ≤ fields.confidence ∧ fields.confidence ≤ 1 then
      if quantity_nonneg : 0 ≤ fields.quantity.value then
        if rationale_nonempty : fields.rationale ≠ "" then
          .ok { fields with symbol_nonempty, confidence_range, quantity_nonneg, rationale_nonempty }
        else .error (tooShort "rationale")
      else .error (greaterThanEqual "quantity")
    else if 0 ≤ fields.confidence then
      .error (.validationError "confidence: Input should be less than or equal to 1")
    else .error (greaterThanEqual "confidence")
  else .error (tooShort "symbol")

def modelValidate (pydantic : Pydantic) : PyValue → Except PyException StockPick
  | .dict entries => do ofFields (← pydantic.readFields (stripPrices entries))
  | _ => .error (.validationError "Input should be a valid dictionary or instance of StockPick")

end StockPick

-- The proposal that _execute makes of a pick.
def StockPick.proposal (pick : StockPick) : Except PyException LLMTradeProposal :=
  let orderType := if (TradeExecutor.truthy pick.suggestedLimitPrice).isSome then OrderType.limit
    else OrderType.market
  let limitPrice := pick.suggestedLimitPrice
  if hold_idle : pick.action = .hold → pick.quantity.value = 0 ∧ limitPrice = none then
    if trade_quantity : pick.action ≠ .hold → 0 < pick.quantity.value then
      if trade_limit : pick.action ≠ .hold → orderType = .limit → limitPrice ≠ none then
        .ok
          { action := pick.action
            symbol := pick.symbol
            confidence := pick.confidence
            quantity := pick.quantity
            orderType := orderType
            limitPrice := limitPrice
            takeProfitPrice := pick.takeProfitPrice
            stopLossPrice := pick.stopLossPrice
            rationale := pick.rationale
            symbol_nonempty := pick.symbol_nonempty
            confidence_range := pick.confidence_range
            quantity_nonneg := pick.quantity_nonneg
            rationale_nonempty := pick.rationale_nonempty
            hold_idle, trade_quantity, trade_limit }
      else .error (.validationError "LIMIT proposal requires limit_price")
    else .error (.validationError "BUY or SELL requires quantity > 0")
  else .error (.validationError "HOLD requires quantity=0 and limit_price=null")

def HumanApprovalDecision.approve (reviewer : String) : Except PyException HumanApprovalDecision :=
  if reviewer_nonempty : reviewer ≠ "" then .ok { approved := true, reviewer, reviewer_nonempty }
  else .error (StockPick.tooShort "reviewer")

def TradeAction.value : TradeAction → String
  | .buy => "BUY"
  | .sell => "SELL"
  | .hold => "HOLD"

-- The messages that are pushed to the client.
inductive Message where
  | message (text : String)
  | thinking (text : String)
  | executing (text : String)
  | orderResult (data : LLMTradingRunResult)
  | error (text : String)
  | done (text : String)
deriving DecidableEq

structure ExecuteRequest where
  proposal : LLMTradeProposal
  decision : HumanApprovalDecision
  accountId : String

-- What the node reads of the state of the graph.
structure HarnessState where
  accountId : String
  reviewer : String
  confirmedPicks : List PyValue

-- The node works on the messages pushed so far, the requests handed to the executor so far, and
-- the world of the executor.
structure Desk (σ : Type) where
  pushed : List Message := []
  requests : List ExecuteRequest := []
  world : σ

structure HarnessAgentGraph (σ : Type) where
  pydantic : Pydantic
  executor : ExecuteRequest → EStateM PyException σ LLMTradingRunResult

-- raw.get where raw is no dict
inductive NodeError where
  | attributeError
deriving DecidableEq, Repr

namespace HarnessAgentGraph

variable {σ ε α : Type}

def push (message : Message) : EStateM ε (Desk σ) Unit :=
  modify fun desk => { desk with pushed := desk.pushed ++ [message] }

def lift : Except PyException α → EStateM PyException (Desk σ) α
  | .ok value => pure value
  | .error raised => throw raised

def submit (graph : HarnessAgentGraph σ) (request : ExecuteRequest) :
    EStateM PyException (Desk σ) LLMTradingRunResult := fun desk =>
  let requests := desk.requests ++ [request]
  match graph.executor request desk.world with
  | .ok result world => .ok result { desk with requests, world }
  | .error raised world => .error raised { desk with requests, world }

def executingText (pick : StockPick) : String :=
  let price := match TradeExecutor.truthy pick.suggestedLimitPrice with
    | some price => price.str
    | none => "市价"
  s!"提交 {pick.symbol} {pick.action.value} {pick.quantity.str} 股 @ {price}……"

variable [PyText]

-- The body of the try statement.
def tryPick (graph : HarnessAgentGraph σ) (state : HarnessState) (raw : PyValue) :
    EStateM PyException (Desk σ) Unit := do
  let pick ← lift (StockPick.modelValidate graph.pydantic raw)
  let proposal ← lift pick.proposal
  let decision ← lift (HumanApprovalDecision.approve state.reviewer)
  push (.executing (executingText pick))
  let result ← graph.submit { proposal, decision, accountId := state.accountId }
  push (.orderResult result)

-- raw.get('symbol', '?')
def nameOf (graph : HarnessAgentGraph σ) (entries : PyDict) : String :=
  graph.pydantic.valueText ((entries.lookup "symbol").getD (.str "?"))

def errorText (graph : HarnessAgentGraph σ) (entries : PyDict) (raised : PyException) : String :=
  s!"{graph.nameOf entries} 下单失败：{graph.pydantic.exceptionText raised}"

-- A turn of the loop: the handler asks the pick for its symbol.
def executePick (graph : HarnessAgentGraph σ) (state : HarnessState) (raw : PyValue) :
    EStateM NodeError (Desk σ) Unit := fun desk =>
  match graph.tryPick state raw desk with
  | .ok () desk => .ok () desk
  | .error raised desk =>
    match raw with
    | .dict entries => push (.error (graph.errorText entries raised)) desk
    | _ => .error .attributeError desk

-- _execute
def execute (graph : HarnessAgentGraph σ) (state : HarnessState) :
    EStateM NodeError (Desk σ) Unit := do
  if state.confirmedPicks = [] then
    push (.message "暂无待下单的股票，请先输入「选股」获取推荐标的。")
  else
    push (.thinking s!"正在提交 {state.confirmedPicks.length} 笔订单……")
    state.confirmedPicks.forM (graph.executePick state)
    push (.done "全部处理完毕。")

end HarnessAgentGraph

end SynapseYield
