import SynapseYield.Live.Gate

set_option autoImplicit false

namespace SynapseYield.Live

open Shared

-- A call of execute_live_order. Its broker is normalized first.
structure SdkOrder where
  broker : PyString
  sessionId : PyString
  intent : OrderIntent
  placeKwargs : PyDict

namespace SdkOrder

def remoteTool : PyString := "place_order"

def quoteKeys : List PyString := ["last", "ask", "bid", "close"]

variable [PyText]

def key (order : SdkOrder) : PyString := normalizeBroker order.broker

def parseQuotePrice : PyValue → Except PyError (Option Number)
  | .dict entries => do
    if (← statusText entries) = "error" then return none
    match PyDict.get entries "quote" with
    | .dict quote => priceFromQuote quote quoteKeys
    | _ => return none
  | _ => .ok none

def connectorQuotePrice (symbol : PyString) : Program (Option Number) := do
  match ← ask (.getQuote symbol) with
  | none => return none
  | some (.error raised) => if raised.isException then return none else throw raised
  | some (.ok result) => attempt (parseQuotePrice result)

def quotePrice (intent : OrderIntent) : Program (Option Number) := do
  match ← connectorQuotePrice intent.symbol with
  | some price => return some price
  | none => loaderPrice intent.symbol intent.bucket

theorem quotePrice_reads (intent : OrderIntent) :
    (quotePrice intent).Uses Operation.reads := by
  refine .bind (.bind (.ask trivial) fun reply => ?_) fun price => ?_
  · rcases reply with _ | raised | result
    · trivial
    · dsimp only
      split <;> trivial
    · exact .ofExcept _
  · cases price with
    | some price => trivial
    | none => exact loaderPrice_reads _ _

def normalizeNotional (intent : OrderIntent) : Program (Option OrderIntent) :=
  Live.normalizeNotional (quotePrice intent) intent.assetClass intent

def unlessError : PyValue → Except PyError PyValue
  | .dict entries => do
    if (← statusText entries) = "error" then return .none
    return .dict entries
  | result => .ok result

def safeRead (function : PyString) : Program PyValue := do
  match ← ask (.connectorRead function) with
  | none => return .none
  | some (.error raised) => if raised.isException then return .none else throw raised
  | some (.ok result) => attempt (unlessError result)

theorem safeRead_reads (function : PyString) : (safeRead function).Uses Operation.reads := by
  refine .bind (.ask trivial) fun reply => ?_
  rcases reply with _ | raised | result
  · trivial
  · dsimp only
    split <;> trivial
  · exact .ofExcept _

def breachPayload (event : BreachEvent) : PyDict :=
  fields [
    ("broker", .str event.broker),
    ("limit", .str event.limit),
    ("limit_value", .float event.limitValue),
    ("attempted_value", .float event.attemptedValue),
    ("overage", .float event.overage),
    ("kind", .str event.kind.value),
    ("detail", .str event.detail),
    ("proposed_action", .dict (proposedAction event.proposedAction))]

def refusalPayload (broker : PyString) (refusal : Refusal) : PyValue :=
  .dict (fields [
    ("status", .str "blocked"),
    ("decision", .str refusal.decision.value),
    ("reason", .str refusal.reason),
    ("broker", .str broker),
    ("requires_reauthorization", .bool refusal.reauth)] ++
    optField liveActionResultKey refusal.record ++
    optField "breach" (refusal.breach.map fun event => .dict (breachPayload event)))

def gate (order : SdkOrder) : Gate where
  broker := order.key
  sessionId := order.sessionId
  remoteTool := remoteTool
  refuse refusal := return refusalPayload order.key refusal
  refuseQuiet _ := trivial

def rule [Trading] (order : SdkOrder) : Program Ruling := do
  match ← preflight order.key with
  | .error denial => return .deny denial
  | .ok mandate => do
    match ← normalizeNotional order.intent with
    | none =>
      return .deny {
        reason := "quantity order notional could not be priced (fail-closed)"
        checked := ["mandate", "expiry", "halt_flag", "quote"]
        mandate
        intent := order.intent }
    | some intent => do
      let positions ← safeRead "get_positions"
      let balance ← safeRead "get_account_snapshot"
      checkOrder order.gate mandate intent positions balance

def checkedLimits : List PyString :=
  ["mandate", "expiry", "halt_flag", "exclude_symbols", "allowed_instruments", "asset_classes",
    "max_order_notional_usd", "max_total_exposure_usd", "max_leverage", "max_trades_per_day",
    "account_funding_usd", "universe_floors"]

def allowed : PyDict :=
  fields [
    ("allowed", .bool true),
    ("decision", .str Decision.allow.value),
    ("checked_limits", .list (checkedLimits.map .str))]

-- What place_order returned, or the error envelope for what it raised.
def placed : Except Failure PyValue → Except PyError PyValue
  | .ok result => .ok result
  | .error failure =>
    if failure.error.isException then
      .ok (.dict (fields [("status", .str "error"), ("error", .str failure.message)]))
    else .error failure.error

def isError : PyValue → Except PyError Bool
  | .dict entries => do return (← statusText entries) ≠ "ok"
  | _ => .ok true

def responseOf : PyValue → PyDict
  | .dict entries => entries
  | result => [(.str "raw", result)]

def errorText : PyValue → PyString
  | .dict entries => errorMessage entries "broker order returned an error"
  | _ => "broker order returned an error"

def withRecord (result : PyValue) (record : Option PyValue) : PyValue :=
  match result, record with
  | .dict entries, some record => .dict (PyDict.set entries liveActionResultKey record)
  | .dict entries, none => .dict entries
  | _, _ => .dict (fields [("status", .str "error"), ("error", .str "non-dict broker result")])

def allow (order : SdkOrder) (mandate : Mandate) (intent : OrderIntent) : Program PyValue := do
  let result ← attempt (placed (← ask (.forward order.placeKwargs)))
  if ← attempt (isError result) then
    let record ← audit (.about order.gate .orderRejected .error (some mandate) (some intent)
      (some order.placeKwargs) (some (responseOf result)) allowed (some (errorText result)))
    return withRecord result record
  else
    let _ ← incrementDailyCount order.key
    let record ← audit (.about order.gate .orderPlaced .accepted (some mandate) (some intent)
      (some order.placeKwargs) (some (responseOf result)) allowed none)
    return withRecord result record

def carryOut (order : SdkOrder) : Ruling → Program PyValue
  | .deny denial => order.gate.deny denial
  | .breach event mandate intent => order.gate.denyBreach event mandate intent
  | .allow mandate intent _ _ => order.allow mandate intent

def execute [Trading] (order : SdkOrder) : Program PyValue := do
  order.carryOut (← order.rule)

end SdkOrder

end SynapseYield.Live
