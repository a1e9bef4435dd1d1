import Mathlib.Data.List.Lex
import SynapseYield.Shared.Python
import SynapseYield.Shared.StableSort

set_option autoImplicit false

namespace SynapseYield.Tools.SecStatements

open Shared StableSort

variable [PyText]

-- row.get("val"), as JSON has it
inductive Val where
  | null
  | number (value : Number)
  | text (value : PyString)
deriving DecidableEq

-- A fact of a concept; the fields are none where the JSON has null or nothing. A fact of a duration
-- has a start, one of an instant has none.
structure Fact where
  start : Option PyString
  end_ : Option PyString
  val : Val
  fy : Option Int
  fp : Option PyString
  form : Option PyString
  accn : Option PyString
deriving DecidableEq

-- The units of a concept; a bucket that is no list, or a fact that is no object, is none.
abbrev Units := List (PyString × Option (List (Option Fact)))

-- facts["us-gaap"]; what is no concept with units is none.
abbrev Gaap := List (PyString × Option Units)

inductive Statement where
  | balance
  | income
  | cashflow
  | indicators
deriving DecidableEq

inductive Period where
  | annual
  | quarter
deriving DecidableEq

def secConcepts : Statement → List PyString
  | .balance =>
    ["Assets", "AssetsCurrent", "CashAndCashEquivalentsAtCarryingValue", "Liabilities",
      "LiabilitiesCurrent", "LongTermDebtAndFinanceLeaseObligationsCurrentAndNoncurrent",
      "StockholdersEquity"]
  | .income =>
    ["Revenues", "RevenueFromContractWithCustomerExcludingAssessedTax", "GrossProfit",
      "OperatingIncomeLoss", "NetIncomeLoss", "EarningsPerShareBasic", "EarningsPerShareDiluted"]
  | .cashflow =>
    ["NetCashProvidedByUsedInOperatingActivities", "NetCashProvidedByUsedInInvestingActivities",
      "NetCashProvidedByUsedInFinancingActivities", "PaymentsToAcquirePropertyPlantAndEquipment",
      "CashCashEquivalentsRestrictedCashAndRestrictedCashEquivalentsPeriodIncreaseDecreaseIncludingExchangeRateEffect"]
  | .indicators =>
    ["Revenues", "RevenueFromContractWithCustomerExcludingAssessedTax", "NetIncomeLoss", "Assets",
      "Liabilities", "StockholdersEquity", "EarningsPerShareDiluted",
      "WeightedAverageNumberOfDilutedSharesOutstanding"]

def maxPeriods : Nat := 40

def maxFieldsPerPeriod : Nat := 200

def toNumber : Val → Option Number
  | .null => none
  | .number value => some value
  | .text value => if value = "" ∨ value = "-" then none else value.parseFloat

-- The bucket with the most rows, of several the last
def pickSecUnit (units : Units) : PyString × List (Option Fact) :=
  units.foldl
    (fun best unit =>
      match unit.2 with
      | some rows => if best.2.length ≤ rows.length then (unit.1, rows) else best
      | none => best)
    ("", [])

def secPeriodMatches (fact : Fact) : Period → Bool
  | .quarter => true
  | .annual => (fact.fp.getD "").upper = "FY" || (fact.form.getD "").upper = "10-K"

-- What a row is kept under
structure Key where
  reportDate : PyString
  fiscalYear : Option Int
  fiscalPeriod : Option PyString
  form : Option PyString
  accession : Option PyString
deriving DecidableEq

-- The value and the unit of a concept, and every fact that it was taken from, the last one last
structure Field where
  concept : PyString
  value : Number
  unit : PyString
  facts : List Fact
deriving DecidableEq

structure PeriodRow where
  key : Key
  fields : List Field
deriving DecidableEq

-- A value that goes into a row, with the fact that has it
structure Write where
  concept : PyString
  unit : PyString
  key : Key
  value : Number
  fact : Fact
deriving DecidableEq

-- period_row[concept_name] = value, with its unit
def PeriodRow.set (row : PeriodRow) (write : Write) : PeriodRow :=
  if row.fields.any (·.concept = write.concept) then
    { row with fields := row.fields.map fun field =>
        if field.concept = write.concept then
          { field with value := write.value, unit := write.unit, facts :=
            field.facts ++ [write.fact] }
        else field }
  else
    { row with fields := row.fields ++ [⟨write.concept, write.value, write.unit, [write.fact]⟩] }

-- periods_by_key.setdefault, and the value into the row
def addWrite (periods : List PeriodRow) (write : Write) : List PeriodRow :=
  if periods.any (·.key = write.key) then
    periods.map fun row => if row.key = write.key then row.set write else row
  else periods ++ [PeriodRow.set ⟨write.key, []⟩ write]

-- A row of the document, where it is a fact of the cadence with an end and a number
def writeOf (period : Period) (concept unit : PyString) : Option Fact → Option Write
  | none => none
  | some fact =>
    if secPeriodMatches fact period then
      match fact.end_, toNumber fact.val with
      | some reportDate, some value =>
        if reportDate = "" then none
        else some ⟨concept, unit, ⟨reportDate, fact.fy, fact.fp, fact.form, fact.accn⟩, value, fact⟩
      | _, _ => none
    else none

def conceptWrites (gaap : Gaap) (period : Period) (concept : PyString) : List Write :=
  match gaap.lookup concept with
  | some (some units) =>
    let picked := pickSecUnit units
    picked.2.filterMap (writeOf period concept picked.1)
  | _ => []

def writes (gaap : Gaap) (statement : Statement) (period : Period) : List Write :=
  (secConcepts statement).flatMap (conceptWrites gaap period)

def periodsByKey (gaap : Gaap) (statement : Statement) (period : Period) : List PeriodRow :=
  (writes gaap statement period).foldl addWrite []

-- sorted with reverse=True leaves rows of one date in their order.
def newest (row : PeriodRow) : (List CodePoint)ᵒᵈ := OrderDual.toDual row.key.reportDate.points

-- Six fields of a row are no concepts.
def truncatePeriod (row : PeriodRow) : PeriodRow :=
  { row with fields := row.fields.take (maxFieldsPerPeriod - 6) }

def capPeriods (periods : List PeriodRow) : List PeriodRow :=
  (periods.take maxPeriods).map truncatePeriod

def secPeriods (gaap : Gaap) (statement : Statement) (period : Period) : List PeriodRow :=
  capPeriods (sortBy newest (periodsByKey gaap statement period))

-- code.rsplit(".", 1)[0]
def beforeDot (code : PyString) : PyString :=
  if code.points.contains 46 then ⟨((code.points.reverse.dropWhile (· ≠ 46)).drop 1).reverse⟩
  else code

-- The periods, or the text of the error. Facts without us-gaap are none.
def fetchSecStatement (cikFor : PyString → Except PyString (Option PyString))
    (getCompanyFacts : PyString → Except PyString (Option Gaap)) (code : PyString)
    (statement : Statement) (period : Period) : Except PyString (List PeriodRow) :=
  match cikFor (beforeDot code).strip.upper with
  | .error problem => .error (("SEC ticker lookup failed: " : PyString) ++ problem)
  | .ok none => .error "ticker not found in SEC company table"
  | .ok (some cik) =>
    if cik = "" then .error "ticker not found in SEC company table"
    else
      match getCompanyFacts cik with
      | .error problem => .error (("SEC companyfacts request failed: " : PyString) ++ problem)
      | .ok none => .ok []
      | .ok (some gaap) => .ok (secPeriods gaap statement period)

end SynapseYield.Tools.SecStatements
