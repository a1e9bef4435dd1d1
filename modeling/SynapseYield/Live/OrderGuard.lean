import SynapseYield.Live.Advisory
import SynapseYield.Live.Gate

set_option autoImplicit false

namespace SynapseYield.Live

open Shared

-- The tool wraps a remote tool; its schema names the arguments that it forwards.
structure LiveOrderGuardTool where
  broker : PyString
  sessionId : PyString
  remoteName : PyString
  allowedKeys : List PyString
  allowAdditional : Bool

variable [PyText]

namespace LiveOrderGuardTool

def localOnlyArguments : List PyString := ["run_dir"]

def forwards (tool : LiveOrderGuardTool) (key : PyValue) : Bool :=
  tool.allowedKeys.any (key.isKey ·) ||
    tool.allowAdditional && ! localOnlyArguments.any (key.isKey ·)

def filterArguments (tool : LiveOrderGuardTool) (arguments : PyDict) : PyDict :=
  arguments.filter fun entry => tool.forwards entry.1

def isErrorResult : PyValue → Bool
  | .dict entries => (PyDict.get entries "status").isKey "error"
  | _ => false

def quoteKeys : List PyString := ["price", "last_price", "last", "mark_price", "close", "ask", "bid"]

def namesSymbol (symbol : PyString) (row : PyDict) : Bool :=
  (["symbol", "ticker", "instrument"] : List PyString).any fun key =>
    match row.get key with
    | .str value => value.strip.upper = symbol
    | _ => false

def matchQuoteRow (rows : List PyValue) (symbol : PyString) : Option PyDict :=
  let rows := rows.filterMap PyValue.entries?
  match rows.find? (namesSymbol symbol) with
  | some row => some row
  | none => match rows with
    | [row] => some row
    | _ => none

def priceFromContainers (result : PyDict) (symbol : PyString) :
    List PyString → Except PyError (Option Number)
  | [] => .ok none
  | key :: rest => do
    match result.get key with
    | .list rows =>
      match matchQuoteRow rows symbol with
      | some row =>
        match ← priceFromQuote row quoteKeys with
        | some price => return some price
        | none => priceFromContainers result symbol rest
      | none => priceFromContainers result symbol rest
    | _ => priceFromContainers result symbol rest

def priceUnderSymbol (result : PyDict) (symbol : PyString) : Except PyError (Option Number) :=
  match result.get symbol with
  | .dict keyed => priceFromQuote keyed quoteKeys
  | _ => .ok none

def parseQuotePrice (result : PyValue) (symbol : PyString) : Except PyError (Option Number) := do
  match result with
  | .dict entries =>
    if let some price ← priceFromQuote entries quoteKeys then return some price
    if let some price ← priceUnderSymbol entries symbol then return some price
    priceFromContainers entries symbol ["quotes", "data", "results"]
  | _ => return none

def brokerQuotePrice (symbol : PyString) : List PyString → Program (Option Number)
  | [] => return none
  | remote :: rest => do
    match ← ask (.callTool remote [(.str "symbol", .str symbol)]) with
    | .error raised => if raised.isException then brokerQuotePrice symbol rest else throw raised
    | .ok result =>
      if isErrorResult result then brokerQuotePrice symbol rest
      else
        match ← attempt (parseQuotePrice result symbol) with
        | some price => return some price
        | none => brokerQuotePrice symbol rest

def readFirst : List PyString → Program PyValue
  | [] => return .none
  | remote :: rest => do
    match ← ask (.callTool remote []) with
    | .error raised => if raised.isException then readFirst rest else throw raised
    | .ok result => if isErrorResult result then readFirst rest else return result

theorem brokerQuotePrice_reads (symbol : PyString) (remotes : List PyString) :
    (brokerQuotePrice symbol remotes).Uses Operation.reads := by
  induction remotes with
  | nil => trivial
  | cons remote rest ih =>
    refine .bind (.ask trivial) fun reply => ?_
    cases reply with
    | error raised =>
      dsimp only
      split
      · exact ih
      · trivial
    | ok result =>
      dsimp only
      split
      · exact ih
      refine .bind (.ofExcept _) fun price => ?_
      cases price with
      | some price => trivial
      | none => exact ih

omit [PyText] in
theorem readFirst_reads (remotes : List PyString) :
    (readFirst remotes).Uses Operation.reads := by
  induction remotes with
  | nil => trivial
  | cons remote rest ih =>
    refine .bind (.ask trivial) fun reply => ?_
    cases reply with
    | error raised =>
      dsimp only
      split
      · exact ih
      · trivial
    | ok result =>
      dsimp only
      split
      · exact ih
      · trivial

section Trading

variable [Trading]

def readTools (tool : LiveOrderGuardTool) (operation fallback : PyString) : List PyString :=
  match Trading.runnerToolName tool.broker operation with
  | some remote => [if remote = .empty then fallback else remote]
  | none => [fallback]

def quotePrice (tool : LiveOrderGuardTool) (intent : OrderIntent) : Program (Option Number) := do
  match ← brokerQuotePrice intent.symbol (tool.readTools "quote" "get_quotes") with
  | some price => return some price
  | none => loaderPrice intent.symbol (instrumentAssetClass intent.instrumentType)

theorem quotePrice_reads (tool : LiveOrderGuardTool) (intent : OrderIntent) :
    (tool.quotePrice intent).Uses Operation.reads := by
  refine .bind (brokerQuotePrice_reads _ _) fun price => ?_
  cases price with
  | some price => trivial
  | none => exact loaderPrice_reads _ _

-- The intent that is built here has no asset class.
def normalizeIntentNotional (tool : LiveOrderGuardTool) (intent : OrderIntent) :
    Program (Option OrderIntent) :=
  normalizeNotional (tool.quotePrice intent) none intent

def getExtractor (broker : PyString) : Option (PyString → PyDict → Option OrderIntent) :=
  if normalizeBroker broker = "robinhood" then some Trading.robinhoodExtract else none

def extract (tool : LiveOrderGuardTool) (kwargs : PyDict) : Option OrderIntent :=
  (getExtractor tool.broker).bind fun extractor => extractor tool.remoteName kwargs

def breachPayload (event : BreachEvent) : PyDict :=
  fields [
    ("broker", .str event.broker),
    ("limit", .str event.limit),
    ("limit_value", .float event.limitValue),
    ("attempted_value", .float event.attemptedValue),
    ("overage", .float event.overage),
    ("remote_tool", .str event.remoteTool),
    ("created_at", .str event.createdAt),
    ("kind", .str event.kind.value),
    ("detail", .str event.detail),
    ("proposed_action", .dict (proposedAction event.proposedAction))]

def refusalPayload (tool : LiveOrderGuardTool) (refusal : Refusal) : PyValue :=
  .dict (fields [
    ("status", .str "blocked"),
    ("decision", .str refusal.decision.value),
    ("reason", .str refusal.reason),
    ("broker", .str tool.broker),
    ("remote_tool", .str tool.remoteName),
    ("requires_reauthorization", .bool refusal.reauth)] ++
    optField liveActionResultKey refusal.record ++
    optField "breach" (refusal.breach.map fun event => .dict (breachPayload event)))

-- json.dumps(payload): the tool answers with text, here with the value that it encodes.
def encoded (payload : PyValue) : Program PyValue := do
  attempt payload.dumps
  return payload

omit [PyText] [Trading] in
theorem encoded_quiet (payload : PyValue) : (encoded payload).Uses fun _ => False :=
  .bind (.ofExcept _) fun _ => trivial

def gate (tool : LiveOrderGuardTool) : Gate where
  broker := tool.broker
  sessionId := tool.sessionId
  remoteTool := tool.remoteName
  refuse refusal := encoded (tool.refusalPayload refusal)
  refuseQuiet _ := encoded_quiet _

def rule (tool : LiveOrderGuardTool) (kwargs : PyDict) : Program Ruling := do
  match ← preflight tool.broker with
  | .error denial => return .deny denial
  | .ok mandate => do
    match tool.extract kwargs with
    | none =>
      return .deny {
        reason := "order intent could not be parsed"
        checked := ["mandate", "expiry", "halt_flag", "intent"]
        mandate }
    | some intent => do
      match ← tool.normalizeIntentNotional intent with
      | none =>
        return .deny {
          reason := "quantity order notional could not be priced (fail-closed)"
          checked := ["mandate", "expiry", "halt_flag", "intent", "quote"]
          mandate }
      | some intent => do
        let positions ← readFirst (tool.readTools "positions" "get_positions")
        let balance ← readFirst (tool.readTools "account" "get_account")
        checkOrder tool.gate mandate intent positions balance

def checkedLimits : List PyString :=
  ["mandate", "expiry", "halt_flag", "intent", "exclude_symbols", "allowed_instruments",
    "asset_classes", "max_order_notional_usd", "max_total_exposure_usd", "max_leverage",
    "max_trades_per_day", "account_funding_usd", "universe_floors"]

def allowed (advisory : Option PyDict) : PyDict :=
  let appended : List PyString := if advisory.isSome then ["advisory"] else []
  fields [
    ("allowed", .bool true),
    ("decision", .str Decision.allow.value),
    ("checked_limits", .list ((checkedLimits ++ appended).map .str)),
    ("advisory", optDict advisory)]

-- _safe_json, of the decoded text
def safeJson : PyValue → PyDict
  | .dict entries => entries
  | parsed => [(.str "raw", parsed)]

def isErrorEnvelope (response : PyDict) : Except PyError Bool := do
  return (← statusText response) = "error"

def embedLiveAction (forwarded : PyValue) (record : Option PyValue) : Program PyValue :=
  match forwarded, record with
  | .dict payload, some record => encoded (.dict (PyDict.set payload liveActionResultKey record))
  | forwarded, _ => return forwarded

def allow (tool : LiveOrderGuardTool) (mandate : Mandate) (intent : OrderIntent)
    (kwargs : PyDict) (positions balance : PyValue) : Program PyValue := do
  let advisory ← advisoryReview intent positions balance mandate
  match ← ask (.forward (tool.filterArguments kwargs)) with
  | .error failure => throw failure.error
  | .ok forwarded => do
    let response := safeJson forwarded
    if ← attempt (isErrorEnvelope response) then
      let record ← audit (.about tool.gate .orderRejected .error (some mandate) (some intent)
        (some kwargs) (some response) (allowed advisory)
        (some (errorMessage response "broker forward returned an error")))
      embedLiveAction forwarded record
    else
      let _ ← incrementDailyCount tool.broker
      let record ← audit (.about tool.gate .orderPlaced .accepted (some mandate) (some intent)
        (some kwargs) (some response) (allowed advisory) none)
      embedLiveAction forwarded record

def carryOut (tool : LiveOrderGuardTool) (kwargs : PyDict) : Ruling → Program PyValue
  | .deny denial => tool.gate.deny denial
  | .breach event mandate intent => tool.gate.denyBreach event mandate intent
  | .allow mandate intent positions balance =>
    tool.allow mandate intent kwargs positions balance

def execute (tool : LiveOrderGuardTool) (kwargs : PyDict) : Program PyValue := do
  tool.carryOut kwargs (← tool.rule kwargs)

end Trading

end LiveOrderGuardTool

end SynapseYield.Live
