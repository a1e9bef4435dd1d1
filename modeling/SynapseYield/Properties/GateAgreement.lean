import SynapseYield.Live.OrderGuard
import SynapseYield.Live.SdkOrderGate

set_option autoImplicit false

namespace SynapseYield.Live

open Shared

variable [PyText]

-- The part of a breach that is no stamp.
def BreachEvent.verdict (event : BreachEvent) : BreachKind × PyString := (event.kind, event.limit)

def verdictOf :
    Except PyError (Option BreachEvent) → Except PyError (Option (BreachKind × PyString)) :=
  Except.map (Option.map BreachEvent.verdict)

omit [PyText] in
theorem verdictOf_ite {c : Prop} [Decidable c]
    {first first' rest rest' : Except PyError (Option BreachEvent)}
    (stamped : verdictOf first = verdictOf first') (others : verdictOf rest = verdictOf rest') :
    verdictOf (if c then first else rest) = verdictOf (if c then first' else rest') := by
  split
  · exact stamped
  · exact others

omit [PyText] in
theorem checkUniverseFloors_stamp {loaders : Loaders} {permitted : UniverseConstraint}
    {context context' : CheckContext} {intent : OrderIntent} {symbol : PyString}
    {assetClass : AssetClass} :
    verdictOf (.ok (checkUniverseFloors loaders permitted context intent symbol assetClass)) =
      verdictOf (.ok (checkUniverseFloors loaders permitted context' intent symbol assetClass)) := by
  dsimp only [checkUniverseFloors]
  split
  · rfl
  · split
    · rfl
    · rfl

theorem checkMandate_stamp {loaders : Loaders} {mandate : Mandate} {intent : OrderIntent}
    {positions balance : PyValue} {context context' : CheckContext}
    (counts : context.dailyCount = context'.dailyCount) :
    verdictOf (checkMandate loaders mandate intent positions balance context) =
      verdictOf (checkMandate loaders mandate intent positions balance context') := by
  unfold checkMandate
  rw [counts]
  dsimp only [bind, Except.bind, pure, Except.pure]
  refine verdictOf_ite rfl (verdictOf_ite rfl (verdictOf_ite rfl ?_))
  cases intent.bucket.filter (· ∉ mandate.universeConstraint.assetClasses) with
  | some bucket => rfl
  | none =>
    cases resolveOrderNotional intent with
    | none => rfl
    | some notional =>
      refine verdictOf_ite rfl ?_
      cases positionsMarketValue positions with
      | error raised => rfl
      | ok exposure =>
        cases exposure with
        | none => rfl
        | some exposure =>
          refine verdictOf_ite rfl (verdictOf_ite rfl (verdictOf_ite rfl (verdictOf_ite ?_
            (verdictOf_ite rfl ?_))))
          · cases floatOfInt mandate.hardCaps.maxTradesPerDay with
            | error raised => rfl
            | ok cap =>
              cases floatOfInt (context'.dailyCount + 1) with
              | error raised => rfl
              | ok attempted => rfl
          · cases intent.bucket with
            | none => rfl
            | some bucket => exact checkUniverseFloors_stamp

def ruled : Except PyError Ruling → Except PyError (Decision × Option PyString) :=
  Except.map fun ruling => (ruling.decision, ruling.limit)

def decisionOf : Option (BreachKind × PyString) → Decision × Option PyString
  | none => (.allow, none)
  | some (kind, limit) => (if kind.reauth then .pauseForReauth else .deny, some limit)

omit [PyText] in
theorem ruled_bind {α : Type} {first : Except PyError α} {rest rest' : α → Except PyError Ruling}
    (same : ∀ a, ruled (rest a) = ruled (rest' a)) :
    ruled (first.bind rest) = ruled (first.bind rest') := by
  cases first with
  | error raised => rfl
  | ok a => exact same a

theorem ruled_checked [Trading] {answers : (op : Operation) → op.Reply} {mandate : Mandate}
    {intent : OrderIntent} {positions balance : PyValue} (context : CheckContext) :
    ruled ((attempt (checkMandate Trading.loaders mandate intent positions balance context) >>=
      fun event => match event with
        | none => pure (.allow mandate intent positions balance)
        | some event => pure (.breach event mandate intent)).under answers) =
      (verdictOf (checkMandate Trading.loaders mandate intent positions balance context)).map
        decisionOf := by
  cases checkMandate Trading.loaders mandate intent positions balance context with
  | error raised => rfl
  | ok event => cases event <;> rfl

theorem checkOrder_ruled [Trading] {answers : (op : Operation) → op.Reply} {gate gate' : Gate}
    {mandate : Mandate} {intent : OrderIntent} {positions balance : PyValue}
    (brokers : gate.broker = gate'.broker) :
    ruled ((checkOrder gate mandate intent positions balance).under answers) =
      ruled ((checkOrder gate' mandate intent positions balance).under answers) := by
  unfold checkOrder
  rw [brokers]
  simp only [Process.under_bind]
  refine ruled_bind fun dailyCount => ruled_bind fun now => ?_
  simp only [← Process.under_bind]
  refine (ruled_checked _).trans (Eq.trans ?_ (ruled_checked _).symm)
  exact congrArg _ (checkMandate_stamp rfl)

-- Both gates are given the same order, and their reads give the same price, positions and balance.
structure SameView [Trading] (tool : LiveOrderGuardTool) (kwargs : PyDict) (order : SdkOrder)
    (answers : (op : Operation) → op.Reply) (price : Option Number) (positions balance : PyValue) :
    Prop where
  broker : order.key = tool.broker
  extracted : tool.extract kwargs = some order.intent
  guardPrice : (tool.quotePrice order.intent).under answers = .ok price
  sdkPrice : (SdkOrder.quotePrice order.intent).under answers = .ok price
  guardPositions : (LiveOrderGuardTool.readFirst
    (tool.readTools "positions" "get_positions")).under answers = .ok positions
  sdkPositions : (SdkOrder.safeRead "get_positions").under answers = .ok positions
  guardBalance : (LiveOrderGuardTool.readFirst
    (tool.readTools "account" "get_account")).under answers = .ok balance
  sdkBalance : (SdkOrder.safeRead "get_account_snapshot").under answers = .ok balance

def enforcedNotional (intent : OrderIntent) (price : Option Number) : Option Number :=
  match intent.quantity, price with
  | some quantity, some price =>
    some (Number.maximum (intent.notionalUsd.getD 0) (quantity * price))
  | _, _ => intent.notionalUsd

-- What the check is given differs from the order in its notional only.
def OnlyNotional (intent : OrderIntent) (price : Option Number)
    (normalized : Except PyError (Option OrderIntent)) : Prop :=
  ∀ checked, normalized = .ok (some checked) →
    checked = { intent with notionalUsd := enforcedNotional intent price }

structure Agreement [Trading] (tool : LiveOrderGuardTool) (kwargs : PyDict) (order : SdkOrder)
    (answers : (op : Operation) → op.Reply) (price : Option Number) : Prop where
  decision : ruled ((tool.rule kwargs).under answers) = ruled (order.rule.under answers)
  guardIntent : OnlyNotional order.intent price
    ((tool.normalizeIntentNotional order.intent).under answers)
  sdkIntent : OnlyNotional order.intent price
    ((SdkOrder.normalizeNotional order.intent).under answers)

-- The gates agree on an order, whatever mandate, price, positions, count, halt state or clock
-- they are given.
def GatesAgree (intent : OrderIntent) : Prop :=
  ∀ (_ : Trading) (tool : LiveOrderGuardTool) (kwargs : PyDict) (order : SdkOrder)
    (answers : (op : Operation) → op.Reply) (price : Option Number) (positions balance : PyValue),
    order.intent = intent → SameView tool kwargs order answers price positions balance →
      Agreement tool kwargs order answers price

def PricedBare (intent : OrderIntent) : Prop :=
  ∀ quantity ∈ intent.quantity, 0 < quantity → intent.assetClass = none

def normalizedAt (price : Option Number) (assetClass : Option AssetClass) (intent : OrderIntent) :
    Option OrderIntent :=
  match intent.quantity, price with
  | none, _ => some intent
  | some _, none => none
  | some quantity, some price =>
    if quantity * price = .nan ∨ quantity * price ≤ 0 then none
    else some { intent with notionalUsd := enforcedNotional intent (some price), assetClass }

omit [PyText] in
theorem normalizeNotional_under {answers : (op : Operation) → op.Reply}
    {quotePrice : Program (Option Number)} {assetClass : Option AssetClass} {intent : OrderIntent}
    {price : Option Number} (priced : quotePrice.under answers = .ok price) :
    (normalizeNotional quotePrice assetClass intent).under answers =
      .ok (normalizedAt price assetClass intent) := by
  unfold normalizeNotional normalizedAt enforcedNotional
  cases sized : intent.quantity with
  | none => rfl
  | some quantity =>
    simp only [Process.under_bind, priced, Except.bind]
    cases price with
    | none => rfl
    | some price =>
      dsimp only
      split
      · rfl
      · rfl

theorem priceFromQuote_positive {quote : PyDict} {keys : List PyString} {price : Number}
    (found : priceFromQuote quote keys = .ok (some price)) : 0 < price := by
  induction keys with
  | nil => cases found
  | cons key rest ih =>
    unfold priceFromQuote at found
    split at found
    next => exact ih found
    next given present =>
      split at found
      next value converted =>
        split at found
        next positive =>
          cases found
          exact positive
        next => exact ih found
      next => exact ih found
      next => exact ih found
      next => cases found

omit [PyText] in
theorem loaderPrice_positive {answers : (op : Operation) → op.Reply} {symbol : PyString}
    {assetClass : Option AssetClass} {price : Number}
    (found : (loaderPrice symbol assetClass).under answers = .ok (some price)) : 0 < price := by
  unfold loaderPrice at found
  cases assetClass with
  | none => cases found
  | some assetClass =>
    simp only [Process.ask_bind, Process.under_perform] at found
    split at found
    next close _ => simpa using (Option.filter_eq_some_iff.mp (Except.ok.inj found)).2
    next => split at found <;> cases found

theorem sdkParseQuotePrice_positive {result : PyValue} {price : Number}
    (found : SdkOrder.parseQuotePrice result = .ok (some price)) : 0 < price := by
  unfold SdkOrder.parseQuotePrice at found
  split at found
  next entries =>
    cases status : statusText entries with
    | error raised => simp [status, bind, Except.bind] at found
    | ok text =>
      simp only [status, bind, Except.bind, pure, Except.pure] at found
      split at found
      next => cases found
      next =>
        split at found
        next => exact priceFromQuote_positive found
        next => cases found
  next => cases found

theorem sdkQuotePrice_positive {answers : (op : Operation) → op.Reply} {intent : OrderIntent}
    {price : Number} (found : (SdkOrder.quotePrice intent).under answers = .ok (some price)) :
    0 < price := by
  unfold SdkOrder.quotePrice SdkOrder.connectorQuotePrice at found
  simp only [Process.ask_bind, Process.perform_bind, Process.under_perform] at found
  split at found
  next => exact loaderPrice_positive found
  next =>
    split at found
    next => exact loaderPrice_positive found
    next => cases found
  next result _ =>
    rw [Process.under_bind] at found
    cases parsed : SdkOrder.parseQuotePrice result with
    | error raised => simp [parsed, attempt, Process.ofExcept, Except.bind] at found
    | ok quoted =>
      simp only [parsed, attempt, Process.ofExcept, Process.under_done, Except.bind] at found
      cases quoted with
      | none => exact loaderPrice_positive found
      | some value =>
        cases found
        exact sdkParseQuotePrice_positive parsed

omit [PyText] in
theorem positive_quantity {quantity price : Number} (positive : 0 < price)
    (usable : ¬ (quantity * price = .nan ∨ quantity * price ≤ 0)) : 0 < quantity := by
  rw [show (0 : Number) = .finite 0 from rfl] at *
  cases price with
  | nan => exact absurd positive Number.not_lt_nan
  | negInf => exact absurd positive Number.not_lt_negInf
  | finite p =>
    have paid : 0 < p := Number.finite_lt.mp positive
    cases quantity with
    | nan => exact absurd (.inl rfl) usable
    | negInf =>
      refine absurd (.inr ?_) usable
      simp [HMul.hMul, Mul.mul, Number.mul, Number.signed, paid, paid.ne', Number.le_def]
    | finite q =>
      simp only [Number.finite_mul, reduceCtorEq, Number.finite_le, false_or, not_le] at usable
      exact Number.finite_lt.mpr (pos_of_mul_pos_left usable paid.le)
    | posInf => rfl
  | posInf =>
    cases quantity with
    | nan => exact absurd (.inl rfl) usable
    | negInf => exact absurd (.inr (.inl rfl)) usable
    | finite q =>
      by_contra negative
      rw [Number.finite_lt, not_lt] at negative
      refine usable ?_
      obtain rfl | less := negative.eq_or_lt
      · exact .inl rfl
      · refine .inr (.inl ?_)
        simp [HMul.hMul, Mul.mul, Number.mul, Number.signed, less.ne, less.not_gt, Neg.neg,
          Number.neg]
    | posInf => rfl

omit [PyText] in
theorem normalizedAt_bare {intent : OrderIntent} {price : Option Number} (bare : PricedBare intent)
    (positive : ∀ value ∈ price, 0 < value) :
    normalizedAt price none intent = normalizedAt price intent.assetClass intent := by
  unfold normalizedAt
  cases sized : intent.quantity with
  | none => rfl
  | some quantity =>
    cases price with
    | none => rfl
    | some price =>
      dsimp only
      split
      next => rfl
      next usable =>
        rw [bare quantity sized (positive_quantity (positive price rfl) usable)]

omit [PyText] in
theorem normalizedAt_onlyNotional {intent checked : OrderIntent} {price : Option Number}
    (normalized : normalizedAt price intent.assetClass intent = some checked) :
    checked = { intent with notionalUsd := enforcedNotional intent price } := by
  unfold normalizedAt at normalized
  rcases Option.eq_none_or_eq_some intent.quantity with sized | ⟨quantity, sized⟩
  · rw [sized] at normalized
    have kept : enforcedNotional intent price = intent.notionalUsd := by
      simp [enforcedNotional, sized]
    rw [kept]
    exact (Option.some.inj normalized).symm
  · rw [sized] at normalized
    cases price with
    | none => cases normalized
    | some price =>
      dsimp only at normalized
      split at normalized
      · cases normalized
      · exact (Option.some.inj normalized).symm.trans (by rw [sized])

theorem agreement_of_bare [Trading] {tool : LiveOrderGuardTool} {kwargs : PyDict} {order : SdkOrder}
    {answers : (op : Operation) → op.Reply} {price : Option Number} {positions balance : PyValue}
    (same : SameView tool kwargs order answers price positions balance)
    (bare : PricedBare order.intent) : Agreement tool kwargs order answers price := by
  have positive : ∀ value ∈ price, 0 < value := fun value given =>
    sdkQuotePrice_positive (same.sdkPrice.trans (congrArg _ given))
  have guardNormalized : (tool.normalizeIntentNotional order.intent).under answers =
      .ok (normalizedAt price order.intent.assetClass order.intent) :=
    (normalizeNotional_under same.guardPrice).trans (congrArg _ (normalizedAt_bare bare positive))
  have sdkNormalized : (SdkOrder.normalizeNotional order.intent).under answers =
      .ok (normalizedAt price order.intent.assetClass order.intent) :=
    normalizeNotional_under same.sdkPrice
  constructor
  · unfold LiveOrderGuardTool.rule SdkOrder.rule
    rw [same.broker]
    simp only [Process.under_bind]
    refine ruled_bind fun ready => ?_
    cases ready with
    | error ruling => rfl
    | ok mandate =>
      simp only [same.extracted, Process.under_bind, guardNormalized, sdkNormalized]
      cases normalizedAt price order.intent.assetClass order.intent with
      | none => rfl
      | some intent =>
        simp only [Except.bind, Process.under_bind, same.guardPositions, same.guardBalance,
          same.sdkPositions, same.sdkBalance]
        exact checkOrder_ruled same.broker.symm
  · intro checked normalized
    exact normalizedAt_onlyNotional (Except.ok.inj (guardNormalized.symm.trans normalized))
  · intro checked normalized
    exact normalizedAt_onlyNotional (Except.ok.inj (sdkNormalized.symm.trans normalized))

def dollar : PyValue := .dict [(.str "price", .float (.finite 1))]

def dollarQuote : PyValue := .dict [(.str "quote", .dict [(.str "last", .float (.finite 1))])]

def someMoment : Moment where
  instant := 0
  iso := noText
  date := noText

def dollarAnswers : (op : Operation) → op.Reply
  | .readJson _ => .ok none
  | .pathExists _ => false
  | .writeTmp _ _ => .ok ()
  | .replaceTmp _ => .ok ()
  | .unlink _ => .ok ()
  | .utcNow => someMoment
  | .newId => noText
  | .callTool _ _ => .ok dollar
  | .getQuote _ => some (.ok dollarQuote)
  | .connectorRead _ => some (.ok dollar)
  | .lastClose _ _ => .ok none
  | .getenvAdvisory => .empty
  | .advisoryProviders => []
  | .review _ _ => .error .other
  | .forward _ => .ok dollar
  | .appendLedger _ => ()

@[reducible] def extracting (intent : OrderIntent) : Trading where
  robinhoodExtract _ _ := some intent
  runnerToolName _ _ := none
  loaders := ⟨fun _ _ => none, fun _ _ => none⟩

def robinhoodTool : LiveOrderGuardTool where
  broker := "robinhood"
  sessionId := .empty
  remoteName := "place_order"
  allowedKeys := []
  allowAdditional := false

def robinhoodOrder (intent : OrderIntent) : SdkOrder where
  broker := "robinhood"
  sessionId := .empty
  intent := intent
  placeKwargs := []

theorem robinhood_normalized : normalizeBroker "robinhood" = "robinhood" := rfl

theorem dollar_sameView (intent : OrderIntent) :
    @SameView _ (extracting intent) robinhoodTool [] (robinhoodOrder intent) dollarAnswers
      (some (.finite 1)) dollar dollar := by
  let _ := extracting intent
  refine
    { broker := robinhood_normalized
      extracted := ?_
      guardPrice := rfl
      sdkPrice := rfl
      guardPositions := rfl
      sdkPositions := rfl
      guardBalance := rfl
      sdkBalance := rfl }
  simp only [LiveOrderGuardTool.extract, LiveOrderGuardTool.getExtractor]
  rw [if_pos]
  · rfl
  · exact robinhood_normalized

omit [PyText] in
theorem dollar_usable {quantity : Number} (positive : 0 < quantity) :
    ¬ (quantity * .finite 1 = .nan ∨ quantity * .finite 1 ≤ 0) := by
  rw [show (0 : Number) = .finite 0 from rfl] at *
  cases quantity with
  | nan => exact absurd positive Number.not_lt_nan
  | negInf => exact absurd positive Number.not_lt_negInf
  | finite q => simpa using positive
  | posInf => simp [HMul.hMul, Mul.mul, Number.mul, Number.signed, Number.le_def, Number.same]

theorem gatesAgree_iff (intent : OrderIntent) : GatesAgree intent ↔ PricedBare intent := by
  constructor
  · intro agree quantity sized positive
    let _ := extracting intent
    have agreement := agree (extracting intent) robinhoodTool [] (robinhoodOrder intent)
      dollarAnswers _ _ _ rfl (dollar_sameView intent)
    have normalized : (robinhoodTool.normalizeIntentNotional intent).under dollarAnswers =
        .ok (normalizedAt (some (.finite 1)) none intent) :=
      normalizeNotional_under (dollar_sameView intent).guardPrice
    unfold normalizedAt at normalized
    rw [Option.mem_def.mp sized] at normalized
    dsimp only at normalized
    rw [if_neg (dollar_usable positive)] at normalized
    exact (congrArg OrderIntent.assetClass (agreement.guardIntent _ normalized)).symm
  · rintro bare _ tool kwargs order answers price positions balance rfl same
    exact agreement_of_bare same bare

def hkBuy : OrderIntent where
  symbol := "0700.HK"
  side := "buy"
  notionalUsd := none
  quantity := some (.finite 1)
  instrumentType := .equity
  assetClass := some .hkEquity

def hkMandate : PyValue :=
  .dict (fields [
    ("schema_version", .int 1),
    ("hard_caps", .dict (fields [
      ("account_funding_usd", .float (.finite 1000)),
      ("max_order_notional_usd", .float (.finite 1000)),
      ("max_total_exposure_usd", .float (.finite 1000)),
      ("max_leverage", .float (.finite 1)),
      ("allowed_instruments", .list [.str "equity"]),
      ("max_trades_per_day", .int 10)])),
    ("universe", .dict (fields [
      ("asset_classes", .list [.str "hk_equity"]),
      ("min_market_cap_usd", .none),
      ("min_avg_daily_volume_usd", .none),
      ("exclude_symbols", .list [])])),
    ("consent", .dict (fields [
      ("created_at", .str "2026-01-01"),
      ("consent_token_sha256", .str "00"),
      ("broker", .str "robinhood"),
      ("account_ref", .str "ref"),
      ("expires_at", .str "2027-01-01")]))])

def hkAnswers : (op : Operation) → op.Reply
  | .readJson (.mandate _) => .ok (some hkMandate)
  | .callTool _ [] => .ok (.list [])
  | .connectorRead _ => some (.ok (.list []))
  | op => dollarAnswers op

-- A buy of one Hong Kong share: one gate takes it for a share of the US, the other does not.
omit [PyText] in
theorem hkBuy_disagree : ¬ @GatesAgree asciiText hkBuy := by
  intro agree
  let _ := asciiText
  let _ := extracting hkBuy
  have same : SameView robinhoodTool [] (robinhoodOrder hkBuy) hkAnswers (some (.finite 1))
      (.list []) (.list []) :=
    { broker := rfl, extracted := rfl, guardPrice := rfl, sdkPrice := rfl, guardPositions := rfl,
      sdkPositions := rfl, guardBalance := rfl, sdkBalance := rfl }
  have agreement := agree (extracting hkBuy) robinhoodTool [] (robinhoodOrder hkBuy) hkAnswers
    _ _ _ rfl same
  have differ : (ruled ((robinhoodTool.rule []).under hkAnswers)).toOption ≠
      (ruled ((robinhoodOrder hkBuy).rule.under hkAnswers)).toOption := by
    decide +kernel
  exact differ (congrArg Except.toOption agreement.decision)

end SynapseYield.Live
