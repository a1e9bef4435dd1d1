import Mathlib.Data.List.Sort
import SynapseYield.Shared.Format

set_option autoImplicit false

namespace SynapseYield.Tools

open Shared

-- Render a large number with K / M / B / T suffixes.
def fmt (value : ℚ) : PyString :=
  let abs := |value|
  if 10 ^ 12 ≤ abs then formatHundredths false (value / 10 ^ 12) ++ ("T" : PyString)
  else if 10 ^ 9 ≤ abs then formatHundredths false (value / 10 ^ 9) ++ ("B" : PyString)
  else if 10 ^ 6 ≤ abs then formatHundredths false (value / 10 ^ 6) ++ ("M" : PyString)
  else if 10 ^ 3 ≤ abs then formatHundredths false (value / 10 ^ 3) ++ ("K" : PyString)
  else formatHundredths true value

inductive Verdict where
  | pass
  | warn
  | fail
deriving DecidableEq, Repr

structure MarketCapReport where
  price : ℚ
  shares : ℚ
  currency : PyString
  calculatedMarketCap : ℚ
  calculatedMarketCapDisplay : PyString
  reportedMarketCap : ℚ
  deviationPct : ℚ
  verdict : Verdict
deriving DecidableEq

def verifyMarketCap (price shares reportedCap : ℚ) (currency : PyString) : MarketCapReport :=
  let calculated := price * shares
  let deviation := if reportedCap ≠ 0 then |(calculated - reportedCap) / reportedCap| * 100 else 0
  let verdict := if 5 < deviation then .fail else if 1 < deviation then .warn else .pass
  { price
    shares
    currency
    calculatedMarketCap := calculated
    calculatedMarketCapDisplay := fmt calculated
    reportedMarketCap := reportedCap
    deviationPct := roundTo 4 deviation
    verdict }

structure SourceReport where
  source : PyString
  value : ℚ
  deviationPct : ℚ
  consistent : Bool
deriving DecidableEq

structure CrossValidation where
  field : PyString
  unit : PyString
  tolerancePct : ℚ
  medianReference : ℚ
  consensus : ℚ
  allConsistent : Bool
  perSource : List SourceReport
deriving DecidableEq

def medianReference (values : List ℚ) : ℚ :=
  let nums := values.insertionSort (· ≤ ·)
  let n := nums.length
  if n = 0 then 0
  else if n % 2 = 1 then nums.getD (n / 2) 0
  else (nums.getD (n / 2 - 1) 0 + nums.getD (n / 2) 0) / 2

def deviationFrom (median value : ℚ) : ℚ :=
  if median ≠ 0 then |value - median| / median * 100 else 0

def sourceReport (median tolerancePct : ℚ) (src : PyString) (val : ℚ) : SourceReport :=
  let dev := deviationFrom median val
  { source := src
    value := val
    deviationPct := roundTo 4 dev
    consistent := dev ≤ tolerancePct }

def crossValidate (fieldName : PyString) (sourceValues : List (PyString × ℚ)) (unit : PyString)
    (tolerancePct : ℚ) : CrossValidation :=
  let median := medianReference (sourceValues.map Prod.snd)
  let perSource := sourceValues.map fun source =>
    sourceReport median tolerancePct source.1 source.2
  { field := fieldName
    unit
    tolerancePct
    medianReference := median
    consensus := median
    allConsistent := perSource.foldl (fun all source => all && source.consistent) true
    perSource }

end SynapseYield.Tools
