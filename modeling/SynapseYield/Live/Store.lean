import SynapseYield.Live.Operations

set_option autoImplicit false

namespace SynapseYield.Live

open Shared

variable [PyText]

-- d[key]
def required (entries : PyDict) (key : PyString) : Except PyError PyValue :=
  match entries.lookup key with
  | some value => .ok value
  | none => .error .keyError

def requireDict : PyValue → Except PyError PyDict
  | .dict entries => .ok entries
  | _ => .error .typeError

def instrumentTypeOf (value : PyValue) : Except PyError InstrumentType :=
  match InstrumentType.all.find? fun kind => value.isKey kind.value with
  | some kind => .ok kind
  | none => .error .valueError

def assetClassOf (value : PyValue) : Except PyError AssetClass :=
  match AssetClass.all.find? fun kind => value.isKey kind.value with
  | some kind => .ok kind
  | none => .error .valueError

def optFloat : PyValue → Except PyError (Option Number)
  | .none => .ok none
  | value => some <$> value.toFloat

def parseHardCaps (caps : PyDict) : Except PyError HardCaps := do
  return {
    accountFundingUsd := ← (← required caps "account_funding_usd").toFloat
    maxOrderNotionalUsd := ← (← required caps "max_order_notional_usd").toFloat
    maxTotalExposureUsd := ← (← required caps "max_total_exposure_usd").toFloat
    maxLeverage := ← (← required caps "max_leverage").toFloat
    allowedInstruments := ← (← (← required caps "allowed_instruments").iter).mapM instrumentTypeOf
    maxTradesPerDay := ← (← required caps "max_trades_per_day").toInt }

def parseUniverse (permitted : PyDict) : Except PyError UniverseConstraint := do
  return {
    assetClasses := ← (← (← required permitted "asset_classes").iter).mapM assetClassOf
    minMarketCapUsd := ← optFloat (← required permitted "min_market_cap_usd")
    minAvgDailyVolumeUsd := ← optFloat (← required permitted "min_avg_daily_volume_usd")
    excludeSymbols := ← (← (← required permitted "exclude_symbols").iter).mapM PyValue.toStr }

def parseConsent (consent : PyDict) : Except PyError ConsentMeta := do
  return {
    createdAt := ← (← required consent "created_at").toStr
    consentTokenSha256 := ← (← required consent "consent_token_sha256").toStr
    broker := ← (← required consent "broker").toStr
    accountRef := ← (← required consent "account_ref").toStr
    expiresAt := ← (← required consent "expires_at").toStr }

def parseMandate : PyValue → Except PyError Mandate
  | .dict raw => do
    let caps ← requireDict (← required raw "hard_caps")
    let permitted ← requireDict (← required raw "universe")
    let consent ← requireDict (← required raw "consent")
    let hardCaps ← parseHardCaps caps
    let universeConstraint ← parseUniverse permitted
    let consent ← parseConsent consent
    return {
      schemaVersion := ← (← required raw "schema_version").toInt
      hardCaps, universeConstraint, consent
      flattenOnHalt := ((PyDict.lookup raw "flatten_on_halt").getD (.bool false)).truthy }
  | _ => .error .typeError

-- What load_mandate makes of the file: structural errors are no mandate.
def mandateOf (raw : PyValue) : Except PyError (Option Mandate) :=
  match parseMandate raw with
  | .ok mandate => .ok (some mandate)
  | .error .keyError => .ok none
  | .error .typeError => .ok none
  | .error .valueError => .ok none
  | .error raised => .error raised

def loadMandate (broker : PyString) : Program (Option Mandate) := do
  let key ← attempt (brokerDir broker)
  match ← ask (.readJson (.mandate key)) with
  | .ok none => return none
  | .ok (some raw) => attempt (mandateOf raw)
  | .error .osError => return none
  | .error .valueError => return none
  | .error raised => throw raised

theorem loadMandate_stores (broker : PyString) :
    (loadMandate broker).Uses Operation.stores := by
  refine .bind (.ofExcept _) fun key => .bind (.ask trivial) fun reply => ?_
  split
  · trivial
  · exact .ofExcept _
  · trivial
  · trivial
  · trivial

end SynapseYield.Live
