import SynapseYield.Runtime.Runner
import SynapseYield.Shared.Program

set_option autoImplicit false

namespace SynapseYield.Runtime

open Shared Live

def runtimeSessionId : PyString := "live-runtime"

def cancelTool : PyString := "cancel_order"

def flattenTool : PyString := "place_order"

structure SweepEvent where
  kind : TickKind
  sessionId : PyString
  outcome : LiveActionOutcome
  server : PyString
  remoteTool : PyString
  intentNormalized : PyString
  brokerRequest : PyDict
  brokerResponse : Option PyValue
  error : Option PyString

structure SweepReport where
  broker : PyString
  cancelledOrderIds : List PyValue
  flattenOrdersSubmitted : List PyDict
  flattenSkippedReason : Option PyString
  errors : List PyDict

-- The requests that went to the broker, the records handed to the ledger, and the report so far.
structure SweepState where
  submitted : List PyDict
  audited : List SweepEvent
  report : SweepReport

abbrev SweepProgram := EStateM PyError SweepState

-- What the calls that are made for one row answer: submit, runner_tool_name, write_live_action.
structure CallAnswers where
  submit : Except Failure PyValue
  tool : Except PyError (Option PyString)
  audit : Except PyError Unit

abbrev Answered := PyDict × CallAnswers

-- The rows that the broker reports, each with the answers to the calls for it.
structure SweepInput where
  allowFlatten : Option Bool
  mandate : Except PyError (Option Mandate)
  openOrders : Except Failure (List Answered)
  positions : Except Failure (List Answered)

def ofResult {α : Type} : Except PyError α → SweepProgram α
  | .ok a => pure a
  | .error raised => throw raised

-- except Exception
def sweepCaught {α : Type} : Except Failure α → SweepProgram (Except Failure α)
  | .ok a => pure (.ok a)
  | .error raised => if raised.error.isException then pure (.error raised) else throw raised.error

def addError (entries : List (PyString × PyValue)) : SweepProgram PUnit :=
  modify fun state =>
    { state with report.errors := state.report.errors ++ [fields entries] }

def submitRequest (request : PyDict) (answers : CallAnswers) :
    SweepProgram (Except Failure PyValue) := do
  modify fun state => { state with submitted := state.submitted ++ [request] }
  sweepCaught answers.submit

-- runner_tool_name(broker, operation) or fallback
def sweepTool (fallback : PyString) (answers : CallAnswers) : SweepProgram PyString :=
  match answers.tool with
  | .ok (some name) => pure (if name = .empty then fallback else name)
  | .ok none => pure fallback
  | .error raised => if raised.isException then pure fallback else throw raised

def sweepAudit (event : SweepEvent) (answers : CallAnswers) : SweepProgram PUnit := do
  modify fun state => { state with audited := state.audited ++ [event] }
  ofResult answers.audit

-- The record of a call that the broker answered, or that raised.
def sweepEvent (broker remoteTool intent : PyString) (request : PyDict)
    (response : Except Failure PyValue) : SweepEvent where
  kind := match response with
    | .ok _ => .orderPlaced
    | .error _ => .orderRejected
  sessionId := runtimeSessionId
  outcome := match response with
    | .ok _ => .accepted
    | .error _ => .error
  server := broker
  remoteTool
  intentNormalized := intent
  brokerRequest := request
  brokerResponse := response.toOption
  error := match response with
    | .ok _ => none
    | .error raised => some raised.message

section Rows

variable [PyText]

def cancelRequest (orderId : PyValue) : PyDict :=
  fields [("action", .str "cancel"), ("order_id", orderId)]

def closeSide (qty : Number) : PyString := if 0 < qty then "sell" else "buy"

def closeRequest (symbol : PyValue) (qty : Number) : PyDict :=
  fields [
    ("action", .str "close"),
    ("symbol", symbol),
    ("side", .str (closeSide qty)),
    ("qty", .float qty.abs),
    ("type", .str "market")]

def cancelIntent (orderId : PyValue) : Except PyError PyString :=
  return "cancel order " ++ (← orderId.toStr)

def closeIntent (symbol : PyValue) (qty : Number) : Except PyError PyString := do
  let symbol ← symbol.toStr
  let closeQty ← (PyValue.float qty.abs).toStr
  return "flatten " ++ symbol ++ ": " ++ closeSide qty ++ " " ++ closeQty ++ " @ market"

-- float(position.get("qty", 0) or 0)
def sweepQty (position : PyDict) : Except PyError Number :=
  let qty := (position.lookup "qty").getD (.int 0)
  (if qty.truthy then qty else .int 0).toFloat

variable (broker : PyString)

def cancelOrder (row : Answered) : SweepProgram PUnit := do
  let orderId := row.1.get "order_id"
  let request := cancelRequest orderId
  let response ← submitRequest request row.2
  match response with
  | .error raised =>
    addError [("phase", .str "cancel"), ("order_id", orderId), ("error", .str raised.message)]
  | .ok _ =>
    modify fun state => { state with
      report.cancelledOrderIds := state.report.cancelledOrderIds ++ [orderId] }
  let tool ← sweepTool cancelTool row.2
  let intent ← ofResult (cancelIntent orderId)
  sweepAudit (sweepEvent broker tool intent request response) row.2

def closePosition (row : Answered) : SweepProgram PUnit := do
  let symbol := row.1.get "symbol"
  let qty ← ofResult (sweepQty row.1)
  if Number.same qty 0 then pure ()
  else
    let request := closeRequest symbol qty
    let intent ← ofResult (closeIntent symbol qty)
    let response ← submitRequest request row.2
    match response with
    | .error raised =>
      addError [("phase", .str "flatten"), ("symbol", symbol), ("error", .str raised.message)]
    | .ok answer =>
      modify fun state => { state with
        report.flattenOrdersSubmitted := state.report.flattenOrdersSubmitted ++ [fields [
          ("symbol", symbol), ("qty", .float qty.abs), ("side", .str (closeSide qty)),
          ("response", answer)]] }
    let tool ← sweepTool flattenTool row.2
    sweepAudit (sweepEvent broker tool intent request response) row.2

-- The rows that a broker read gives: none where it raises.
def readRows (phase : PyString) (read : Except Failure (List Answered)) :
    SweepProgram (List Answered) := do
  match ← sweepCaught read with
  | .ok rows => pure rows
  | .error raised =>
    addError [("phase", .str phase), ("error", .str raised.message)]
    pure []

def cancelRestingOrders (input : SweepInput) : SweepProgram PUnit := do
  (← readRows "read_open_orders" input.openOrders).forM (cancelOrder broker)

def flattenOpenPositions (input : SweepInput) : SweepProgram PUnit := do
  (← readRows "read_positions" input.positions).forM (closePosition broker)

omit [PyText] in
def resolveAllowFlatten (input : SweepInput) : Except PyError Bool :=
  match input.allowFlatten with
  | some allowed => .ok allowed
  | none => do
    match ← input.mandate with
    | none => return false
    | some mandate => return mandate.flattenOnHalt

def flattenAndCancel (input : SweepInput) : SweepProgram SweepReport := do
  cancelRestingOrders broker input
  if ← ofResult (resolveAllowFlatten input) then
    flattenOpenPositions broker input
  else
    modify fun state => { state with
      report.flattenSkippedReason := some "mandate forbids flatten (cancel-only)" }
  return (← get).report

omit [PyText] in
def sweepStart : SweepState where
  submitted := []
  audited := []
  report := {
    broker
    cancelledOrderIds := []
    flattenOrdersSubmitted := []
    flattenSkippedReason := none
    errors := [] }

end Rows

end SynapseYield.Runtime
