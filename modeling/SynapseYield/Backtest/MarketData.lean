import SynapseYield.Backtest.FetchCalls

set_option autoImplicit false

namespace SynapseYield.Backtest.MarketData

open Shared

def defaultMaxRows : Nat := 250

-- The first of _SOURCE_PATTERNS: ^local: in whatever case.
def matchesLocal (code : PyString) : Bool := Ascii.lower ⟨code.points.take 6⟩ = "local:"

-- The others are the patterns after the first, and tushare where none matches.
def detectSource (others : PyString → PyString) (code : PyString) : PyString :=
  if matchesLocal code then "local" else others code

def exchangeSuffixAliases : List (PyString × PyString) := [(".SS", ".SH")]

def normalizeCode [PyText] (code : PyString) : PyString :=
  match exchangeSuffixAliases.find? fun entry => entry.1.points.isSuffixOf code.upper.points with
  | some (suffix, canonical) =>
    (⟨code.points.take (code.points.length - suffix.points.length)⟩ : PyString) ++ canonical
  | none => code

inductive CappedRows (Record : Type) where
  | all (records : List Record)
  | sampled (rows returned step : Nat) (data : List Record)

-- records[::step]
def stride {Record : Type} (step : Nat) (records : List Record) : List Record :=
  (records.zipIdx.filter fun entry => entry.2 % step = 0).map Prod.fst

def capRows {Record : Type} (maxRows : Int) (records : List Record) : CappedRows Record :=
  let maxRows := if maxRows < 0 then defaultMaxRows else maxRows.toNat
  let n := records.length
  if maxRows = 0 ∨ n ≤ maxRows then .all records
  else
    let step := (n + maxRows - 1) / maxRows
    let sampled := stride step records
    let sampled := if (n - 1) % step = 0 then sampled else sampled ++ records.getLast?.toList
    .sampled n sampled.length step sampled

def setItem {β : Type} (key : PyString) (value : β) : List (PyString × β) → List (PyString × β)
  | [] => [(key, value)]
  | entry :: rest => if entry.1 = key then (key, value) :: rest else entry :: setItem key value rest

structure MarketRequest where
  codes : List PyString
  startDate : PyString
  endDate : PyString
  source : PyString := "auto"
  interval : PyString := "1D"
  maxRows : Int := defaultMaxRows

structure MarketResults (Record : Type) where
  data : List (PyString × CappedRows Record)
  unresolved : List PyString
  -- The source that the hint tells to give up.
  hint : Option PyString

variable {Frame Record : Type} [PyText] (loaders : Loaders Frame) (others : PyString → PyString)
  (records : Frame → List Record) (request : MarketRequest)

def originalByNormalized (codes : List PyString) : List (PyString × PyString) :=
  codes.foldl (fun originals code => setItem (normalizeCode code) code originals) []

def originalSymbol (codes : List PyString) (symbol : PyString) : PyString :=
  ((originalByNormalized codes).lookup symbol).getD symbol

def sourceGroups (source : PyString) (codes : List PyString) : List (PyString × List PyString) :=
  if source = "auto" then
    codes.foldl (fun groups code => addToGroup (detectSource others code) code groups) []
  else [(source, codes)]

def sourceRequest (codes : List PyString) : Request where
  codes := codes
  startDate := request.startDate
  endDate := request.endDate
  fields := none
  interval := request.interval

def addFrames (results : List (PyString × CappedRows Record)) (dataMap : DataMap Frame) :
    List (PyString × CappedRows Record) :=
  dataMap.foldl (fun results entry =>
    setItem (originalSymbol request.codes entry.1) (capRows request.maxRows (records entry.2)) results)
    results

def fetchSource (results : List (PyString × CappedRows Record))
    (group : PyString × List PyString) : Fetching (List (PyString × CappedRows Record)) := do
  match getLoaderClsWithFallback loaders group.1 with
  | none => throw .other
  | some name => do
    let loader ← liftExcept (construct loaders name)
    let dataMap ← tryCatch (Fetching.fetch name loader (sourceRequest request group.2)) fun raised =>
      if raised.isException then pure [] else throw raised
    pure (addFrames records request results dataMap)

def fetchMarketData : Fetching (MarketResults Record) := do
  let normalizedCodes := (originalByNormalized request.codes).map Prod.fst
  let results ← (sourceGroups others request.source normalizedCodes).foldlM
    (fetchSource loaders records request) []
  let unresolved := request.codes.filter (· ∉ results.map Prod.fst)
  let failed := unresolved ≠ [] ∧ request.source ≠ "auto" ∧ unresolved.length = request.codes.length
  pure { data := results, unresolved, hint := if failed then some request.source else none }

end SynapseYield.Backtest.MarketData
