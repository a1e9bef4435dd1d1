import SynapseYield.Live.Mandate

set_option autoImplicit false

namespace SynapseYield.Live

open Shared

variable [PyText]

inductive BreachKind where
  | universeRule
  | instrumentRule
  | quantitative
deriving DecidableEq, Repr

structure BreachEvent where
  broker : PyString
  limit : PyString
  limitValue : Number
  attemptedValue : Number
  overage : Number
  proposedAction : OrderIntent
  remoteTool : PyString
  createdAt : PyString
  kind : BreachKind
  detail : PyString := .empty

-- What stamps a breach beside the order: the keyword arguments of check_mandate and the clock.
structure CheckContext where
  broker : PyString
  remoteTool : PyString
  utcNowIso : PyString
  dailyCount : Int

def CheckContext.breach (context : CheckContext) (intent : OrderIntent) (kind : BreachKind)
    (limit : PyString) (limitValue attemptedValue : Number) (detail : PyString := .empty) :
    BreachEvent where
  broker := context.broker
  limit := limit
  limitValue := limitValue
  attemptedValue := attemptedValue
  overage := attemptedValue - limitValue
  proposedAction := intent
  remoteTool := context.remoteTool
  createdAt := context.utcNowIso
  kind := kind
  detail := detail

-- The figures of the data loaders; none also when no loader is available.
structure Loaders where
  marketCapUsd : PyString → AssetClass → Option Number
  avgDailyDollarVolume : PyString → AssetClass → Option Number

def resolveOrderNotional (intent : OrderIntent) : Option Number :=
  match intent.notionalUsd with
  | none => none
  | some value => if value ≤ 0 ∨ value = .nan then none else some value

-- _as_float: the conversion errors that it does not catch escape.
def asFloat (value : PyValue) : Except PyError (Option Number) :=
  match value.toFloat with
  | .ok .nan => .ok none
  | .ok out => .ok (some out)
  | .error .typeError => .ok none
  | .error .valueError => .ok none
  | .error raised => .error raised

def coercePositionRows (positions : PyValue) : Option (List PyDict) :=
  let rows : PyValue := match positions with
    | .dict envelope =>
      let inner := PyDict.get envelope "positions"
      let inner := if inner.isNone then PyDict.get envelope "data" else inner
      if inner.isNone then .list (envelope.map Prod.snd) else inner
    | other => other
  match rows with
  | .list items => items.mapM PyValue.entries?
  | _ => none

def asFloatOf : Option PyValue → Except PyError (Option Number)
  | some value => asFloat value
  | none => .ok none

-- What a row reports: a market value, or else a quantity and a price.
inductive Reading where
  | value (marketValue : Number)
  | product (quantity price : Number)

def readPosition (row : PyDict) : Except PyError (Option Reading) := do
  match row.firstOf ["market_value", "marketValue", "value_usd", "value"] with
  | some value => return (← asFloat value).map .value
  | none =>
    let qty ← asFloatOf (row.firstOf ["quantity", "qty", "shares"])
    let price ← asFloatOf (row.firstOf ["price", "last_price", "mark_price", "market_price"])
    match qty, price with
    | some qty, some price => return some (.product qty price)
    | _, _ => return none

def Reading.marketValue : Reading → Number
  | .value marketValue => marketValue
  | .product qty price => qty.abs * price

def positionMarketValue (row : PyDict) : Except PyError (Option Number) := do
  return (← readPosition row).map Reading.marketValue

def sumMarketValues : Number → List PyDict → Except PyError (Option Number)
  | total, [] => .ok (some total)
  | total, row :: rows => do
    match ← positionMarketValue row with
    | none => return none
    | some value => sumMarketValues (total + value) rows

def positionsMarketValue (positions : PyValue) : Except PyError (Option Number) :=
  match coercePositionRows positions with
  | none => .ok none
  | some rows => sumMarketValues 0 rows

def signedNotional (intent : OrderIntent) (notional : Number) : Number :=
  if intent.side = "buy" then notional else -notional

def floorMissed (figure : Option Number) : Option Number → Prop
  | none => False
  | some floor => match figure with
    | none => True
    | some value => value < floor

instance (figure floor : Option Number) : Decidable (floorMissed figure floor) :=
  match floor, figure with
  | none, _ => inferInstanceAs (Decidable False)
  | some _, none => inferInstanceAs (Decidable True)
  | some floor, some value => inferInstanceAs (Decidable (value < floor))

def floorBreach (context : CheckContext) (intent : OrderIntent) (limit detail : PyString)
    (figure floor : Option Number) : BreachEvent :=
  context.breach intent .universeRule limit (floor.getD 0) (figure.getD 0) detail

def checkUniverseFloors (loaders : Loaders) (permitted : UniverseConstraint)
    (context : CheckContext) (intent : OrderIntent) (symbol : PyString) (assetClass : AssetClass) :
    Option BreachEvent :=
  let cap := loaders.marketCapUsd symbol assetClass
  let adv := loaders.avgDailyDollarVolume symbol assetClass
  if floorMissed cap permitted.minMarketCapUsd then
    some (floorBreach context intent "min_market_cap_usd"
      (if cap = none then "market cap for " ++ symbol ++ " unavailable (fail-closed)"
        else symbol ++ " market cap below floor")
      cap permitted.minMarketCapUsd)
  else if floorMissed adv permitted.minAvgDailyVolumeUsd then
    some (floorBreach context intent "min_avg_daily_volume_usd"
      (if adv = none then "liquidity for " ++ symbol ++ " unavailable (fail-closed)"
        else symbol ++ " avg daily $ volume below floor")
      adv permitted.minAvgDailyVolumeUsd)
  else none

def normalizeSymbol (symbol : PyString) : PyString := symbol.strip.upper

-- None is ALLOW. The balance is not looked at.
def checkMandate (loaders : Loaders) (mandate : Mandate) (intent : OrderIntent)
    (positions _balance : PyValue) (context : CheckContext) :
    Except PyError (Option BreachEvent) := do
  let caps := mandate.hardCaps
  let permitted := mandate.universeConstraint
  let symbol := normalizeSymbol intent.symbol
  if symbol = .empty ∨ ¬ (intent.side = "buy" ∨ intent.side = "sell") then
    return some (context.breach intent .instrumentRule "order_intent" 0 0
      "order intent missing symbol or side")
  if symbol ∈ permitted.excludeSymbols.map normalizeSymbol then
    return some (context.breach intent .universeRule "exclude_symbols" 0 0
      (symbol ++ " is on the mandate exclude list"))
  if intent.instrumentType ∉ caps.allowedInstruments then
    return some (context.breach intent .instrumentRule "allowed_instruments" 0 0
      (intent.instrumentType.value ++ " not in allowed_instruments"))
  let assetClass := intent.bucket
  if let some bucket := assetClass.filter (· ∉ permitted.assetClasses) then
    return some (context.breach intent .universeRule "asset_classes" 0 0
      (bucket.value ++ " not in permitted asset_classes"))
  let some notional := resolveOrderNotional intent |
    return some (context.breach intent .instrumentRule "order_intent" 0 0
      "order notional could not be resolved")
  if caps.maxOrderNotionalUsd < notional then
    return some (context.breach intent .quantitative "max_order_notional_usd"
      caps.maxOrderNotionalUsd notional)
  let some currentExposure ← positionsMarketValue positions |
    return some (context.breach intent .quantitative "max_total_exposure_usd"
      caps.maxTotalExposureUsd 0 "current positions could not be read (fail-closed)")
  let postExposure := currentExposure + signedNotional intent notional
  if caps.maxTotalExposureUsd < postExposure then
    return some (context.breach intent .quantitative "max_total_exposure_usd"
      caps.maxTotalExposureUsd postExposure)
  if caps.accountFundingUsd ≤ 0 then
    return some (context.breach intent .quantitative "max_leverage" caps.maxLeverage .posInf
      "account_funding_usd is non-positive (fail-closed)")
  let postLeverage := postExposure.abs / caps.accountFundingUsd
  if caps.maxLeverage < postLeverage then
    return some (context.breach intent .quantitative "max_leverage" caps.maxLeverage postLeverage)
  let attemptedCount := context.dailyCount + 1
  if caps.maxTradesPerDay < attemptedCount then
    return some (context.breach intent .quantitative "max_trades_per_day"
      (← floatOfInt caps.maxTradesPerDay) (← floatOfInt attemptedCount))
  if intent.side = "buy" ∧ caps.accountFundingUsd < postExposure then
    return some (context.breach intent .quantitative "account_funding_usd"
      caps.accountFundingUsd postExposure "post-trade exposure exceeds mirrored funding ceiling")
  match assetClass with
  | some bucket => return checkUniverseFloors loaders permitted context intent symbol bucket
  | none => return none

def isAllow : Except PyError (Option BreachEvent) → Bool
  | .ok none => true
  | _ => false

omit [PyText] in
theorem isAllow_iff {verdict : Except PyError (Option BreachEvent)} :
    isAllow verdict = true ↔ verdict = .ok none := by
  cases verdict with
  | error raised => simp [isAllow]
  | ok breach => cases breach <;> simp [isAllow]

-- What an order has passed when check_mandate returns None.
structure Admits (loaders : Loaders) (mandate : Mandate) (intent : OrderIntent)
    (dailyCount : Int) (notional exposure : Number) : Prop where
  named : normalizeSymbol intent.symbol ≠ .empty
  sided : intent.side = "buy" ∨ intent.side = "sell"
  notExcluded : normalizeSymbol intent.symbol ∉
    mandate.universeConstraint.excludeSymbols.map normalizeSymbol
  instrument : intent.instrumentType ∈ mandate.hardCaps.allowedInstruments
  bucketed : ∀ bucket ∈ intent.bucket, bucket ∈ mandate.universeConstraint.assetClasses
  notionalCap : ¬ mandate.hardCaps.maxOrderNotionalUsd < notional
  exposureCap : ¬ mandate.hardCaps.maxTotalExposureUsd < exposure + signedNotional intent notional
  funded : ¬ mandate.hardCaps.accountFundingUsd ≤ 0
  leverageCap : ¬ mandate.hardCaps.maxLeverage <
    (exposure + signedNotional intent notional).abs / mandate.hardCaps.accountFundingUsd
  countCap : dailyCount + 1 ≤ mandate.hardCaps.maxTradesPerDay
  fundingCap : intent.side = "buy" →
    ¬ mandate.hardCaps.accountFundingUsd < exposure + signedNotional intent notional
  floors : ∀ bucket ∈ intent.bucket,
    ¬ floorMissed (loaders.marketCapUsd (normalizeSymbol intent.symbol) bucket)
      mandate.universeConstraint.minMarketCapUsd ∧
    ¬ floorMissed (loaders.avgDailyDollarVolume (normalizeSymbol intent.symbol) bucket)
      mandate.universeConstraint.minAvgDailyVolumeUsd

omit [PyText] in
theorem checkUniverseFloors_none {loaders : Loaders} {permitted : UniverseConstraint}
    {context : CheckContext} {intent : OrderIntent} {symbol : PyString} {bucket : AssetClass} :
    checkUniverseFloors loaders permitted context intent symbol bucket = none ↔
      ¬ floorMissed (loaders.marketCapUsd symbol bucket) permitted.minMarketCapUsd ∧
        ¬ floorMissed (loaders.avgDailyDollarVolume symbol bucket) permitted.minAvgDailyVolumeUsd := by
  simp only [checkUniverseFloors]
  split
  next missed => simp [missed]
  next kept =>
    split
    next missed => simp [missed]
    next kept' => simp [kept, kept']

-- A check that breaches, before the rest.
omit [PyText] in
theorem breach_unless {c : Prop} [Decidable c] {breach : BreachEvent}
    {rest : Except PyError (Option BreachEvent)} :
    (if c then .ok (some breach) else rest) = .ok none ↔ ¬ c ∧ rest = .ok none := by
  split
  next holds => simp [holds]
  next fails => simp [fails]

omit [PyText] in
theorem outside_none {bucket : Option AssetClass} {permitted : List AssetClass} :
    bucket.filter (· ∉ permitted) = none ↔ ∀ assetClass ∈ bucket, assetClass ∈ permitted := by
  simp [Option.filter_eq_none_iff]

theorem checkMandate_allow {loaders : Loaders} {mandate : Mandate} {intent : OrderIntent}
    {positions balance : PyValue} {context : CheckContext} :
    checkMandate loaders mandate intent positions balance context = .ok none ↔
      ∃ notional exposure, resolveOrderNotional intent = some notional ∧
        positionsMarketValue positions = .ok (some exposure) ∧
        Admits loaders mandate intent context.dailyCount notional exposure := by
  simp only [checkMandate, bind, Except.bind, pure, Except.pure, breach_unless]
  constructor
  · rintro ⟨formed, notExcluded, instrument, rest⟩
    obtain ⟨named, sided⟩ := not_or.mp formed
    split at rest
    next => cases rest
    next bucketed =>
      split at rest
      next notional resolved =>
        rw [breach_unless] at rest
        obtain ⟨notionalCap, rest⟩ := rest
        split at rest
        next => cases rest
        next read =>
          split at rest
          next exposure =>
            rw [breach_unless, breach_unless, breach_unless] at rest
            obtain ⟨exposureCap, funded, leverageCap, rest⟩ := rest
            split at rest
            next =>
              split at rest
              next => cases rest
              next =>
                split at rest
                next => cases rest
                next => cases rest
            next countCap =>
              rw [breach_unless] at rest
              obtain ⟨fundingCap, rest⟩ := rest
              refine ⟨notional, exposure, resolved, read, named, not_not.mp sided, notExcluded,
                not_not.mp instrument, ?_, notionalCap, exposureCap, funded, leverageCap,
                not_lt.mp countCap, fun buying above => fundingCap ⟨buying, above⟩, ?_⟩
              · exact outside_none.mp (Option.eq_none_iff_forall_ne_some.mpr bucketed)
              · intro bucket given
                rw [Option.mem_def.mp given] at rest
                exact checkUniverseFloors_none.mp (Except.ok.inj rest)
          next => cases rest
      next => cases rest
  · rintro ⟨notional, exposure, resolved, read, admits⟩
    refine ⟨not_or.mpr ⟨admits.named, not_not.mpr admits.sided⟩, admits.notExcluded,
      not_not.mpr admits.instrument, ?_⟩
    rw [outside_none.mpr admits.bucketed, resolved]
    simp only [read]
    rw [breach_unless, breach_unless, breach_unless, breach_unless, if_neg (not_lt.mpr admits.countCap),
      breach_unless]
    refine ⟨admits.notionalCap, admits.exposureCap, admits.funded, admits.leverageCap,
      fun above => admits.fundingCap above.1 above.2, ?_⟩
    cases bucket : intent.bucket with
    | none => rfl
    | some assetClass =>
      exact congrArg Except.ok (checkUniverseFloors_none.mpr (admits.floors assetClass bucket))

end SynapseYield.Live
