import SynapseYield.Shared.Python

set_option autoImplicit false

namespace SynapseYield.Backtest

open Shared

-- code -> frame
abbrev DataMap (Frame : Type) := List (PyString × Frame)

-- The arguments of fetch. No fields stands for None.
structure Request where
  codes : List PyString
  startDate : PyString
  endDate : PyString
  fields : Option (List PyString)
  interval : PyString
deriving DecidableEq, Repr

-- A loader class: whether its constructor returns and what its instances then do.
structure Loader (Frame : Type) where
  constructs : Bool
  isAvailable : Bool
  -- In the order in which the set is iterated.
  markets : List PyString
  fetch : Request → Except PyError (DataMap Frame)

-- The classes that could be imported, by name, and the patterns of _detect_market.
structure Loaders (Frame : Type) where
  registry : PyString → Option (Loader Frame)
  detectMarket : PyString → PyString

def fallbackChains : List (PyString × List PyString) :=
  [("a_share", ["tencent", "mootdx", "eastmoney", "baostock", "akshare", "tushare", "local"]),
    ("us_equity", ["yahoo", "stooq", "sina", "eastmoney", "yfinance", "tiingo", "fmp", "finnhub",
      "alphavantage", "akshare", "local"]),
    ("hk_equity", ["eastmoney", "yahoo", "futu", "yfinance", "akshare", "local"]),
    ("crypto", ["okx", "ccxt", "yfinance", "local"]),
    ("futures", ["tushare", "akshare", "local"]),
    ("fund", ["tushare", "akshare", "local"]),
    ("macro", ["akshare", "tushare", "local"]),
    ("forex", ["akshare", "yfinance", "local"])]

def fallbackChain (market : PyString) : List PyString := (fallbackChains.lookup market).getD []

def marketToSource : List (PyString × PyString) :=
  [("a_share", "tushare"), ("us_equity", "yfinance"), ("hk_equity", "yfinance"), ("crypto", "okx"),
    ("futures", "tushare"), ("fund", "tushare"), ("macro", "akshare"), ("forex", "akshare")]

def noNetworkFallbackSources : List PyString := ["local"]

structure BacktestConfig where
  codes : List PyString
  startDate : PyString
  endDate : PyString
  source : PyString := "tushare"
  interval : PyString := "1D"
  extraFields : Option (List PyString) := none
deriving DecidableEq, Repr

variable {Frame : Type}

-- Calls the constructor of a registered class.
def construct (loaders : Loaders Frame) (name : PyString) : Except PyError (Loader Frame) :=
  match loaders.registry name with
  | none => .error .keyError
  | some loader => if loader.constructs then .ok loader else .error .other

theorem construct_ok {loaders : Loaders Frame} {name : PyString} {loader : Loader Frame} : construct loaders name = .ok loader ↔
    loaders.registry name = some loader ∧ loader.constructs = true := by
  unfold construct
  split
  next missing => simp [missing]
  next other found =>
    rw [found]
    split
    next constructs =>
      constructor
      · rintro ⟨⟩
        exact ⟨rfl, constructs⟩
      · rintro ⟨⟨⟩, -⟩
        rfl
    next fails =>
      refine iff_of_false nofun ?_
      rintro ⟨⟨⟩, constructs⟩
      exact fails constructs

def isReady (loaders : Loaders Frame) (name : PyString) : Bool :=
  match loaders.registry name with
  | none => false
  | some loader => loader.constructs && loader.isAvailable

-- The name of the loader; none stands for NoAvailableSourceError.
def resolveLoader (loaders : Loaders Frame) (market : PyString) : Option PyString :=
  (fallbackChain market).find? (isReady loaders)

def getLoaderClsWithFallback (loaders : Loaders Frame) (source : PyString) : Option PyString :=
  match loaders.registry source with
  | none => none
  | some loaderCls =>
    if loaderCls.constructs && loaderCls.isAvailable then some source
    else if source ∈ noNetworkFallbackSources then none
    else loaderCls.markets.findSome? (resolveLoader loaders)

def getLoader (loaders : Loaders Frame) (source : PyString) : Option PyString :=
  match getLoaderClsWithFallback loaders source with
  | some name => some name
  | none => if (loaders.registry "tushare").isSome then some "tushare" else none

def normalizeCodes [PyText] (codes : List PyString) (source : PyString) : List PyString :=
  if source = "okx" ∨ source = "ccxt" then
    codes.map fun c => PyString.upper ⟨c.points.map fun point => if point = 0x2F then 0x2D else point⟩
  else codes

-- groups.setdefault(market, []).append(code)
def addToGroup (market code : PyString) :
    List (PyString × List PyString) → List (PyString × List PyString)
  | [] => [(market, [code])]
  | (key, codes) :: rest =>
    if key = market then (key, codes ++ [code]) :: rest else (key, codes) :: addToGroup market code rest

def groupCodesByMarket (loaders : Loaders Frame) (codes : List PyString) :
    List (PyString × List PyString) :=
  codes.foldl (fun groups code => addToGroup (loaders.detectMarket code) code groups) []

-- merged.update(result)
def update (merged result : DataMap Frame) : DataMap Frame :=
  merged.filter (fun entry => entry.1 ∉ result.map Prod.fst) ++ result

-- The sources after the first one, until one gives frames.
def runtimeFallback (loaders : Loaders Frame) (skipped : PyString) (ask : PyString → Request) :
    List PyString → Except PyError (DataMap Frame × Option PyString)
  | [] => .ok ([], none)
  | fbName :: rest =>
    if fbName = skipped ∨ (loaders.registry fbName).isNone then runtimeFallback loaders skipped ask rest
    else do
      let fbLoader ← construct loaders fbName
      if ! fbLoader.isAvailable then runtimeFallback loaders skipped ask rest
      else do
        let result ← fbLoader.fetch (ask fbName)
        if result.isEmpty then runtimeFallback loaders skipped ask rest
        else .ok (result, some fbName)

-- The class that _fetch_auto asks first.
def primarySource (loaders : Loaders Frame) (market : PyString) : Option PyString :=
  match resolveLoader loaders market with
  | some name => some name
  | none => getLoader loaders ((marketToSource.lookup market).getD "tushare")

section Fetch

variable [PyText] (loaders : Loaders Frame) (config : BacktestConfig)

-- What _fetch_auto asks a source, when srcName is the first.
def autoRequest (marketCodes : List PyString) (srcName name : PyString) : Request where
  codes := normalizeCodes marketCodes name
  startDate := config.startDate
  endDate := config.endDate
  fields := if name = srcName ∧ srcName = "tushare" then config.extraFields else none
  interval := config.interval

def fetchGroup (market : PyString) (marketCodes : List PyString) :
    Except PyError (DataMap Frame) := do
  match primarySource loaders market with
  | none => .error .other
  | some srcName =>
    let loader ← construct loaders srcName
    let result ← loader.fetch (autoRequest config marketCodes srcName srcName)
    if result.isEmpty then do
      let (result, _) ← runtimeFallback loaders srcName (autoRequest config marketCodes srcName)
        (fallbackChain market)
      .ok result
    else .ok result

def fetchAuto : Except PyError (DataMap Frame) :=
  (groupCodesByMarket loaders config.codes).foldlM (fun merged group => do
    let result ← fetchGroup loaders config group.1 group.2
    .ok (update merged result)) []

def auditExplicitLocal (source : PyString) (codes : List PyString) : Bool :=
  let normalized := source.strip.lower
  normalized = ("local" : PyString) || normalized = ("local:" : PyString) ||
    codes.any fun code => ("local:" : PyString).points.isPrefixOf code.lower.points

-- What main asks a source, when config.source is not auto.
def singleRequest (name : PyString) : Request where
  codes :=
    if name = config.source then normalizeCodes config.codes config.source
    else normalizeCodes (normalizeCodes config.codes config.source) name
  startDate := config.startDate
  endDate := config.endDate
  fields := if name = config.source then config.extraFields.filter (· ≠ []) else none
  interval := config.interval

-- The frames, and the source that they come from.
def fetchSingle : Except PyError (DataMap Frame × PyString) := do
  let codes := normalizeCodes config.codes config.source
  match getLoader loaders config.source with
  | none => .error .other
  | some name =>
    let loader ← construct loaders name
    let dataMap ← loader.fetch (singleRequest config config.source)
    match codes with
    | [] => .ok (dataMap, config.source)
    | code :: _ =>
      if dataMap.isEmpty && ! auditExplicitLocal config.source codes then do
        let (dataMap, served) ← runtimeFallback loaders config.source (singleRequest config)
          (fallbackChain (loaders.detectMarket code))
        .ok (dataMap, served.getD config.source)
      else .ok (dataMap, config.source)

end Fetch

def sanitizeDataMap (validate : Frame → Frame) (dataMap : DataMap Frame) : DataMap Frame :=
  dataMap.map fun entry => (entry.1, validate entry.2)

-- _AutoLoader.fetch
def autoLoaderFetch (data : DataMap Frame) (codes : List PyString) : DataMap Frame :=
  data.filter fun entry => entry.1 ∈ codes

end SynapseYield.Backtest
