import SynapseYield.Live.Audit
import SynapseYield.Live.Enforcement
import SynapseYield.Live.Store

set_option autoImplicit false

namespace SynapseYield.Live

open Shared

-- What the gates take from the broker packages and the data loaders. runnerToolName is none
-- also where the lookup raises.
class Trading where
  robinhoodExtract : PyString → PyDict → Option OrderIntent
  runnerToolName : PyString → PyString → Option PyString
  loaders : Loaders

inductive Decision where
  | allow
  | deny
  | pauseForReauth
deriving DecidableEq, Repr

def Decision.value : Decision → PyString
  | .allow => "allow"
  | .deny => "deny"
  | .pauseForReauth => "pause_for_reauth"

-- The arguments of _deny.
structure Denial where
  reason : PyString
  checked : List PyString
  mandate : Option Mandate
  intent : Option OrderIntent := none
  reauth : Bool := false

-- The helper that a gate ends in, with its arguments.
inductive Ruling where
  | deny (denial : Denial)
  | breach (event : BreachEvent) (mandate : Mandate) (intent : OrderIntent)
  | allow (mandate : Mandate) (intent : OrderIntent) (positions balance : PyValue)

-- A quantitative breach pauses for re-authorization, the others deny.
def BreachKind.reauth (kind : BreachKind) : Bool := kind = .quantitative

def BreachKind.value : BreachKind → PyString
  | .universeRule => "universe"
  | .instrumentRule => "instrument"
  | .quantitative => "quantitative"

def BreachEvent.decision (event : BreachEvent) : Decision :=
  if event.kind.reauth then .pauseForReauth else .deny

def Ruling.decision : Ruling → Decision
  | .deny _ => .deny
  | .breach event _ _ => event.decision
  | .allow _ _ _ _ => .allow

def Ruling.limit : Ruling → Option PyString
  | .breach event _ _ => some event.limit
  | _ => none

def BreachEvent.reason (event : BreachEvent) : PyString :=
  if event.detail = .empty then "order breaches " ++ event.limit else event.detail

def optNumber : Option Number → PyValue
  | some x => .float x
  | none => .none

def proposedAction (intent : OrderIntent) : PyDict :=
  fields [
    ("symbol", .str intent.symbol),
    ("side", .str intent.side),
    ("notional_usd", optNumber intent.notionalUsd),
    ("quantity", optNumber intent.quantity),
    ("instrument_type", .str intent.instrumentType.value)]

structure Refusal where
  decision : Decision
  reason : PyString
  reauth : Bool
  breach : Option BreachEvent := none
  record : Option PyValue := none

-- The gate of one broker: what its audit rows name, and how it words a refusal.
structure Gate where
  broker : PyString
  sessionId : PyString
  remoteTool : PyString
  refuse : Refusal → Program PyValue
  refuseQuiet : ∀ refusal, (refuse refusal).Uses fun _ => False

def liveActionResultKey : PyString := "live_action"

section Ceremony

variable [PyText]

def isExpired (mandate : Mandate) : Program Bool := do
  match PyText.fromisoformat mandate.consent.expiresAt with
  | none => return true
  | some expires => return expires ≤ (← ask .utcNow).instant

-- The first three checks of both gates.
def preflight (broker : PyString) : Program (Except Denial Mandate) := do
  match ← loadMandate broker with
  | none =>
    return .error { reason := "no valid mandate on file", checked := ["mandate"], mandate := none }
  | some mandate => do
    if mandate.schemaVersion ≠ mandateSchemaVersion then
      return .error { reason := "no valid mandate on file", checked := ["mandate"], mandate }
    if ← isExpired mandate then
      return .error {
        reason := "mandate expired — re-authorize"
        checked := ["mandate", "expiry"]
        mandate
        reauth := true }
    if ← haltFlagSet broker then
      return .error {
        reason := "live trading halted"
        checked := ["mandate", "expiry", "halt_flag"]
        mandate }
    return .ok mandate

-- The larger of the explicit notional and quantity * price, under the asset class of the result.
def normalizeNotional (quotePrice : Program (Option Number)) (assetClass : Option AssetClass)
    (intent : OrderIntent) : Program (Option OrderIntent) := do
  match intent.quantity with
  | none => return some intent
  | some quantity => do
    match ← quotePrice with
    | none => return none
    | some price =>
      let implied := quantity * price
      if implied = .nan ∨ implied ≤ 0 then return none
      return some { intent with
        notionalUsd := some (Number.maximum (intent.notionalUsd.getD 0) implied)
        assetClass }

-- The first of the keys under which a quote has a positive price.
def priceFromQuote (quote : PyDict) : List PyString → Except PyError (Option Number)
  | [] => .ok none
  | key :: rest =>
    match quote.lookup key with
    | none => priceFromQuote quote rest
    | some given =>
      match given.toFloat with
      | .ok value => if 0 < value then .ok (some value) else priceFromQuote quote rest
      | .error .typeError => priceFromQuote quote rest
      | .error .valueError => priceFromQuote quote rest
      | .error raised => .error raised

-- last_price_usd, where what the loaders raise is no price.
def loaderPrice (symbol : PyString) (assetClass : Option AssetClass) :
    Program (Option Number) := do
  match assetClass with
  | none => return none
  | some assetClass => do
    match ← ask (.lastClose symbol assetClass) with
    | .ok close => return close.filter fun price => 0 < price
    | .error raised => if raised.isException then return none else throw raised

def checkOrder [Trading] (gate : Gate) (mandate : Mandate) (intent : OrderIntent)
    (positions balance : PyValue) : Program Ruling := do
  let dailyCount ← readDailyCount gate.broker
  let now ← ask .utcNow
  let context : CheckContext :=
    { broker := gate.broker, remoteTool := gate.remoteTool, utcNowIso := now.iso, dailyCount }
  match ← attempt (checkMandate Trading.loaders mandate intent positions balance context) with
  | none => return .allow mandate intent positions balance
  | some event => return .breach event mandate intent

-- str(response.get("status", "")).lower()
def statusText (response : PyDict) : Except PyError PyString :=
  PyString.lower <$> ((response.lookup "status").getD (.str .empty)).toStr

def errorMessage (response : PyDict) (default : PyString) : PyString :=
  let texts := (["error", "message", "detail"] : List PyString).filterMap fun key =>
    match response.get key with
    | .str text => if text = .empty then none else some text
    | _ => none
  texts.headD default

def describeIntent (intent : OrderIntent) : PyString :=
  let size : PyString := match intent.notionalUsd, intent.quantity with
    | some notional, _ => "$" ++ PyText.formatG notional
    | none, some quantity => PyText.formatG quantity ++ " units"
    | none, none => "?"
  intent.side ++ " " ++ size ++ " " ++ intent.symbol ++ " (" ++ intent.instrumentType.value ++ ")"

def LiveActionEvent.about (gate : Gate) (kind : LiveActionKind) (outcome : LiveActionOutcome)
    (mandate : Option Mandate) (intent : Option OrderIntent) (request response : Option PyDict)
    (gateDecision : PyDict) (error : Option PyString) (auditId ts : PyString) :
    LiveActionEvent where
  kind := kind
  sessionId := gate.sessionId
  outcome := outcome
  server := gate.broker
  remoteTool := gate.remoteTool
  intentNormalized := intent.map describeIntent
  mandateSnapshotRef := mandate.map (·.consent.consentTokenSha256)
  consentRecordRef := mandate.map (·.consent.accountRef)
  brokerRequest := request
  brokerResponse := response
  gateDecision := gateDecision
  error := error
  auditId := auditId
  ts := ts

-- Auditing never blocks a decision: none where the row was not written.
def audit (describe : PyString → PyString → LiveActionEvent) : Program (Option PyValue) :=
  quietly do
    let hex ← ask .newId
    let now ← ask .utcNow
    recordLiveAction (describe (newAuditId hex) now.iso)

def denied (checked : List PyString) : PyDict :=
  fields [
    ("allowed", .bool false),
    ("decision", .str Decision.deny.value),
    ("checked_limits", .list (checked.map .str))]

def breached (event : BreachEvent) : PyDict :=
  fields [
    ("allowed", .bool false),
    ("decision", .str event.decision.value),
    ("limit", .str event.limit),
    ("kind", .str event.kind.value),
    ("limit_value", .float event.limitValue),
    ("attempted_value", .float event.attemptedValue)]

def Gate.deny (gate : Gate) (denial : Denial) : Program PyValue := do
  let record ← audit (.about gate .orderRejected .blocked denial.mandate denial.intent none none
    (denied denial.checked) (some denial.reason))
  gate.refuse { decision := .deny, reason := denial.reason, reauth := denial.reauth, record }

def Gate.denyBreach (gate : Gate) (event : BreachEvent) (mandate : Mandate)
    (intent : OrderIntent) : Program PyValue := do
  let record ← audit (.about gate .breach .blocked (some mandate) (some intent) none none
    (breached event) (some event.reason))
  gate.refuse
    { decision := event.decision
      reason := event.reason
      reauth := event.kind.reauth
      breach := some event
      record }

theorem isExpired_stores (mandate : Mandate) : (isExpired mandate).Uses Operation.stores := by
  unfold isExpired
  split
  · trivial
  · exact .bind (.ask trivial) fun _ => trivial

omit [PyText] in
theorem loaderPrice_reads (symbol : PyString) (assetClass : Option AssetClass) :
    (loaderPrice symbol assetClass).Uses Operation.reads := by
  cases assetClass with
  | none => trivial
  | some assetClass =>
    refine .bind (.ask trivial) fun reply => ?_
    cases reply with
    | ok close => trivial
    | error raised => dsimp only; split <;> trivial

omit [PyText] in
theorem normalizeNotional_reads {quotePrice : Program (Option Number)}
    (assetClass : Option AssetClass) (intent : OrderIntent)
    (reads : quotePrice.Uses Operation.reads) :
    (normalizeNotional quotePrice assetClass intent).Uses Operation.reads := by
  unfold normalizeNotional
  cases intent.quantity with
  | none => trivial
  | some quantity =>
    refine .bind reads fun price => ?_
    cases price with
    | none => trivial
    | some price => dsimp only; split <;> trivial

theorem audit_audits (describe : PyString → PyString → LiveActionEvent) :
    (audit describe).Uses Operation.audits := by
  unfold audit
  refine quietly_uses (.bind (.ask trivial) fun hex => .bind (.ask trivial) fun now => ?_)
  exact recordLiveAction_audits _

theorem checkOrder_stores [Trading] (gate : Gate) (mandate : Mandate) (intent : OrderIntent)
    (positions balance : PyValue) :
    (checkOrder gate mandate intent positions balance).Uses Operation.stores := by
  refine .bind (readDailyCount_stores _) fun count => .bind (.ask trivial) fun now => ?_
  refine .bind (.ofExcept _) fun event => ?_
  cases event <;> trivial

theorem deny_audits (gate : Gate) (denial : Denial) :
    (gate.deny denial).Uses Operation.audits :=
  .bind (audit_audits _) fun _ => (gate.refuseQuiet _).mono fun _ impossible => impossible.elim

theorem denyBreach_audits (gate : Gate) (event : BreachEvent) (mandate : Mandate)
    (intent : OrderIntent) : (gate.denyBreach event mandate intent).Uses Operation.audits :=
  .bind (audit_audits _) fun _ => (gate.refuseQuiet _).mono fun _ impossible => impossible.elim

end Ceremony

end SynapseYield.Live
