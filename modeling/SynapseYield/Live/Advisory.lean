import SynapseYield.Live.Audit
import SynapseYield.Live.Enforcement

set_option autoImplicit false

namespace SynapseYield.Live

open Shared

def severity : Verdict → Nat
  | .approve => 0
  | .approveWithConcerns => 1
  | .reviewUnavailable => 2
  | .reject => 3

-- _VERDICT_SEVERITY.get(verdict, 0)
def ReportedVerdict.severity : ReportedVerdict → Except PyError Nat
  | .verdict given => .ok (Live.severity given)
  | .other severity _ => severity

def ReportedVerdict.value : ReportedVerdict → Except PyError PyValue
  | .verdict given => .ok (.str given.value)
  | .other _ value => value

structure AggregatedVerdict where
  verdict : ReportedVerdict
  results : List AdvisoryResult

-- What stands for the result of a provider that raised.
def providerError (provider : Except PyError PyValue) (raised : PyError) :
    Except PyError AdvisoryResult := do
  return {
    verdict := .verdict .reviewUnavailable
    summary := .str ("provider error: " ++ raised.name)
    provider := ← provider }

def runProviders (context : AdvisoryContext) :
    Nat → List (Except PyError PyValue) → Program (List AdvisoryResult)
  | _, [] => return []
  | index, provider :: rest => do
    let result ← match ← ask (.review index context) with
      | .ok result => pure result
      | .error raised =>
        if raised.isException then attempt (providerError provider raised) else throw raised
    return result :: (← runProviders context (index + 1) rest)

-- max with the severity as key: the first of the worst.
def worst (result : AdvisoryResult) (rank : Nat) :
    List AdvisoryResult → Except PyError AdvisoryResult
  | [] => .ok result
  | next :: rest => do
    let nextRank ← next.verdict.severity
    if rank < nextRank then worst next nextRank rest else worst result rank rest

-- AdvisoryOrchestrator.review
def orchestrate (context : AdvisoryContext) (providers : List (Except PyError PyValue)) :
    Program AggregatedVerdict := do
  match ← runProviders context 0 providers with
  | [] => return { verdict := .verdict .approve, results := [] }
  | result :: rest =>
    let rank ← attempt result.verdict.severity
    let worst ← attempt (worst result rank rest)
    return { verdict := worst.verdict, results := result :: rest }

variable [PyText]

def addConcern (seen : List PyValue) (concern : PyValue) : Except PyError (List PyValue) :=
  if PyText.hashable concern then
    .ok (if seen.any (PyText.equal concern) then seen else seen ++ [concern])
  else .error .typeError

def addConcerns (seen : List PyValue) (result : AdvisoryResult) : Except PyError (List PyValue) := do
  (← result.concerns.iter).foldlM addConcern seen

def AggregatedVerdict.allConcerns (aggregated : AggregatedVerdict) :
    Except PyError (List PyValue) :=
  aggregated.results.foldlM addConcerns []

def describeResult (result : AdvisoryResult) : Except PyError PyValue := do
  return .dict (fields [
    ("verdict", ← result.verdict.value),
    ("summary", result.summary),
    ("concerns", .list (← result.concerns.iter)),
    ("provider", result.provider),
    ("confidence", result.confidence)])

def AggregatedVerdict.describe (aggregated : AggregatedVerdict) : Except PyError PyDict := do
  return fields [
    ("verdict", ← aggregated.verdict.value),
    ("concerns", .list (← aggregated.allConcerns)),
    ("results", .list (← aggregated.results.mapM describeResult))]

def accountBalanceMarketValue (balance : PyValue) : Except PyError (Option Number) :=
  match balance with
  | .dict entries =>
    match PyDict.firstOf entries ["equity", "buying_power", "cash", "account_value", "total"] with
    | some value => asFloat value
    | none => asFloat balance
  | _ => asFloat balance

def utilization (equity funding : Number) : Number :=
  if 0 < equity ∧ 0 < funding then Number.maximum 0 (.finite 1 - equity / funding) else 0

def advisoryContext (intent : OrderIntent) (positions balance : PyValue) (mandate : Mandate) :
    Except PyError AdvisoryContext := do
  let equity := (← accountBalanceMarketValue balance).getD 0
  let exposure := (← positionsMarketValue positions).getD 0
  let funding := mandate.hardCaps.accountFundingUsd
  return {
    symbol := intent.symbol
    side := intent.side
    notionalUsd := intent.notionalUsd.getD 0
    accountEquity := equity
    utilizationRatio := utilization equity funding
    openPositionCount := ((coercePositionRows positions).getD []).length
    totalExposureUsd := exposure
    fundingUsd := funding }

def advisoryTruthy : List PyString := ["1", "true", "yes"]

def advisoryFailed (raised : PyError) : PyDict :=
  fields [
    ("verdict", .str Verdict.reviewUnavailable.value),
    ("concerns", .list []),
    ("error", .str raised.name)]

def consult (intent : OrderIntent) (positions balance : PyValue) (mandate : Mandate)
    (providers : List (Except PyError PyValue)) : Program PyDict := do
  let context ← attempt (advisoryContext intent positions balance mandate)
  let aggregated ← orchestrate context providers
  attempt aggregated.describe

-- _advisory_review
def advisoryReview (intent : OrderIntent) (positions balance : PyValue) (mandate : Mandate) :
    Program (Option PyDict) := do
  let value ← ask .getenvAdvisory
  if value.strip.lower ∉ advisoryTruthy then return none
  let providers ← ask .advisoryProviders
  if providers.isEmpty then return none
  some <$> (consult intent positions balance mandate providers).handle fun raised =>
    if raised.isException then return advisoryFailed raised else throw raised

omit [PyText] in
theorem runProviders_advises (context : AdvisoryContext) (index : Nat)
    (providers : List (Except PyError PyValue)) :
    (runProviders context index providers).Uses Operation.advises := by
  induction providers generalizing index with
  | nil => trivial
  | cons provider rest ih =>
    have others : ∀ result, (do
        return result :: (← runProviders context (index + 1) rest) :
        Program (List AdvisoryResult)).Uses Operation.advises :=
      fun result => .bind (ih (index + 1)) fun _ => trivial
    refine .bind (.ask trivial) fun reply => ?_
    cases reply with
    | ok result => exact others result
    | error raised =>
      dsimp only
      split
      · exact .bind (.ofExcept _) others
      · trivial

omit [PyText] in
theorem orchestrate_advises (context : AdvisoryContext)
    (providers : List (Except PyError PyValue)) :
    (orchestrate context providers).Uses Operation.advises := by
  refine .bind (runProviders_advises context 0 providers) fun results => ?_
  cases results with
  | nil => trivial
  | cons result rest => exact .bind (.ofExcept _) fun _ => .bind (.ofExcept _) fun _ => trivial

theorem advisoryReview_advises (intent : OrderIntent) (positions balance : PyValue)
    (mandate : Mandate) :
    (advisoryReview intent positions balance mandate).Uses Operation.advises := by
  refine .bind (.ask trivial) fun value => ?_
  split
  · trivial
  refine .bind (.ask trivial) fun providers => ?_
  split
  · trivial
  refine .bind (.handle ?_ fun raised => ?_) fun _ => trivial
  · exact .bind (.ofExcept _) fun context =>
      .bind (orchestrate_advises context providers) fun _ => .ofExcept _
  · split
    · trivial
    · trivial

end SynapseYield.Live
