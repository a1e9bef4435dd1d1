import SynapseYield.Backtest.LoaderCache
import SynapseYield.Backtest.Loaders

set_option autoImplicit false

namespace SynapseYield.Backtest

open Shared

inductive BarSize where
  | minutes (n : Nat)
  | hours (n : Nat)
  | day
  | week
  | month
deriving DecidableEq, Repr

def validIntervals : List PyString := ["1m", "5m", "15m", "30m", "1H", "4H", "1D"]

-- What the labels of the config mean.
def intervalSizes : List (PyString × BarSize) :=
  [("1m", .minutes 1), ("5m", .minutes 5), ("15m", .minutes 15), ("30m", .minutes 30),
    ("1H", .hours 1), ("4H", .hours 4), ("1D", .day)]

def intervalSize (interval : PyString) : Option BarSize := intervalSizes.lookup interval

structure Bar (Row : Type) where
  size : BarSize
  row : Row
deriving DecidableEq, Repr

abbrev Bars (Row : Type) := List (Bar Row)

inductive LoaderName where
  | tushare
  | okx
  | yfinance
  | akshare
  | baostock
  | tencent
  | mootdx
  | ccxt
  | futu
  | eastmoney
  | sina
  | stooq
  | yahoo
  | finnhub
  | alphavantage
  | tiingo
  | fmp
  | localFiles
deriving DecidableEq, Repr

namespace LoaderName

def all : List LoaderName :=
  [tushare, okx, yfinance, akshare, baostock, tencent, mootdx, ccxt, futu, eastmoney, sina, stooq,
    yahoo, finnhub, alphavantage, tiingo, fmp, localFiles]

def name : LoaderName → PyString
  | tushare => "tushare"
  | okx => "okx"
  | yfinance => "yfinance"
  | akshare => "akshare"
  | baostock => "baostock"
  | tencent => "tencent"
  | mootdx => "mootdx"
  | ccxt => "ccxt"
  | futu => "futu"
  | eastmoney => "eastmoney"
  | sina => "sina"
  | stooq => "stooq"
  | yahoo => "yahoo"
  | finnhub => "finnhub"
  | alphavantage => "alphavantage"
  | tiingo => "tiingo"
  | fmp => "fmp"
  | localFiles => "local"

def markets : LoaderName → List PyString
  | tushare => ["a_share", "futures", "fund"]
  | okx => ["crypto"]
  | yfinance => ["us_equity", "hk_equity", "crypto"]
  | akshare => ["a_share", "us_equity", "hk_equity", "futures", "fund", "macro", "forex"]
  | baostock => ["a_share"]
  | tencent => ["a_share"]
  | mootdx => ["a_share"]
  | ccxt => ["crypto"]
  | futu => ["hk_equity", "a_share"]
  | eastmoney => ["a_share", "hk_equity", "us_equity"]
  | sina => ["us_equity"]
  | stooq => ["us_equity"]
  | yahoo => ["us_equity", "hk_equity"]
  | finnhub => ["us_equity"]
  | alphavantage => ["us_equity"]
  | tiingo => ["us_equity"]
  | fmp => ["us_equity"]
  | localFiles =>
    ["us_equity", "a_share", "hk_equity", "crypto", "futures", "forex", "macro", "fund"]

def ofName (name : PyString) : Option LoaderName := all.find? (·.name = name)

end LoaderName

def validSources : List PyString := LoaderName.all.map LoaderName.name ++ [("auto" : PyString)]

-- str.endswith and str.split
def endsWithAny (text : PyString) (suffixes : List PyString) : Bool :=
  suffixes.any (·.points.isSuffixOf text.points)

def split (separator : CodePoint) (text : PyString) : List PyString :=
  (text.points.splitOn separator).map PyString.mk

-- What the loaders learn from outside: the answers of the providers, and the tables of the
-- packages that they ask. A provider that is asked for bars of one size gives no others.
structure Providers (Row : Type) where
  -- What the cache finds before the fetch of a code, and after it.
  reading : LoaderName → PyString → CacheMoment
  writing : LoaderName → PyString → CacheMoment
  -- Invalid dates, no gateway.
  fails : LoaderName → Request → Option PyError
  reply : LoaderName → PyString → BarSize → Option (List Row)
  resample : List Row → List Row
  isDigit : PyString → Bool
  symbolMarketMap : PyString → Bool
  failedCodes : PyString → Bool

-- The configured sources of the local loader, with the bars that can be read from them.
abbrev Files (Row : Type) := PyString → Option (Option (Bars Row))

section Codes

variable [PyText] {Row : Type} (providers : Providers Row)

def isdigit (text : PyString) : Bool :=
  if text.isAscii then text.points ≠ [] && text.points.all Ascii.isDigit else providers.isDigit text

def take (n : Nat) (text : PyString) : PyString := ⟨text.points.take n⟩

def dropEnd (n : Nat) (text : PyString) : PyString := ⟨text.points.take (text.points.length - n)⟩

-- The zeros come after a sign.
def zfill (width : Nat) (text : PyString) : PyString :=
  let zeros := List.replicate (width - text.points.length) 0x30
  match text.points with
  | [] => ⟨zeros⟩
  | c :: rest => if c = 0x2B ∨ c = 0x2D then ⟨c :: (zeros ++ rest)⟩ else ⟨zeros ++ c :: rest⟩

def etfPrefixes : List PyString := ["15", "16", "50", "51", "52", "56", "58"]

def isEtfListed (code : PyString) : Bool :=
  let upper := code.upper
  let digits := (split 0x2E upper).headD upper
  endsWithAny upper [".SH", ".SZ"] && digits.points.length = 6 && isdigit providers digits &&
    take 2 digits ∈ etfPrefixes

namespace Tencent

def isAShare (code : PyString) : Bool := endsWithAny code.upper [".SZ", ".SH"]

def tencentCode (code : PyString) : Option PyString :=
  if isAShare code then
    match split 0x2E code.upper with
    | symbol :: suffix :: _ =>
      if suffix = "SH" then some ("sh" ++ symbol)
      else if suffix = "SZ" then some ("sz" ++ symbol) else none
    | _ => none
  else none

end Tencent

namespace Baostock

def native (code : PyString) : Bool :=
  ("sh." : PyString).points.isPrefixOf code.lower.points ||
    ("sz." : PyString).points.isPrefixOf code.lower.points

def isAShare (code : PyString) : Bool := native code || endsWithAny code.upper [".SZ", ".SH"]

def bsCode (code : PyString) : Option PyString :=
  if ! isAShare code then none
  else if native code then some code.lower
  else
    match split 0x2E code.upper with
    | symbol :: suffix :: _ =>
      if suffix = "SH" then some ("sh." ++ symbol)
      else if suffix = "SZ" then some ("sz." ++ symbol) else none
    | _ => none

end Baostock

namespace Mootdx

def isAShare (code : PyString) : Bool :=
  endsWithAny code.upper [".SH", ".SZ", ".BJ"] || code.points.length = 6 && isdigit providers code

def isBj (code : PyString) : Bool :=
  endsWithAny code.upper [".BJ"] ||
    code.points.length = 6 && isdigit providers code && take 1 code ∈ (["4", "8"] : List PyString)

end Mootdx

namespace Tushare

def isIndex (code : PyString) : Bool :=
  let upper := code.upper
  let digits := (split 0x2E upper).headD upper
  let starts (prefix' : PyString) := digits.points.length = 6 && isdigit providers digits &&
    prefix'.points.isPrefixOf digits.points
  if endsWithAny upper [".SH"] then starts "000"
  else if endsWithAny upper [".SZ"] then starts "399" else false

def isHkEquity (code : PyString) : Bool := endsWithAny code.upper [".HK"]

def isUsEquity (code : PyString) : Bool := endsWithAny code.upper [".US"]

def isCrypto (code : PyString) : Bool := endsWithAny code.upper ["-USDT", "/USDT"]

end Tushare

namespace Akshare

def isAShare (code : PyString) : Bool := endsWithAny code.upper [".SZ", ".SH", ".BJ"]

def isHk (code : PyString) : Bool := endsWithAny code.upper [".HK"]

def isUs (code : PyString) : Bool := endsWithAny code.upper [".US"]

def isForex (code : PyString) : Bool :=
  providers.symbolMarketMap
    (if endsWithAny code.upper [".FX"] then dropEnd 3 code.upper else code.upper)

end Akshare

def Finnhub.toFinnhubSymbol (code : PyString) : PyString :=
  let upper := code.strip.upper
  if endsWithAny upper [".US"] then dropEnd 3 upper else upper

def Yahoo.isUsOrHk (code : PyString) : Bool := endsWithAny code.strip.upper [".US", ".HK"]

def Sina.isUsEquity (code : PyString) : Bool := endsWithAny code.upper [".US"]

def Tiingo.toTiingoSymbol (code : PyString) : Option PyString :=
  let upper := code.strip.upper
  if upper = "" then none
  else
    let upper := if endsWithAny upper [".US"] then dropEnd 3 upper else upper
    if 0x2E ∈ upper.points ∨ 0x2D ∈ upper.points then none
    else if upper.points ≠ [] && upper.points.all PyString.isalnum then some upper.lower else none

def Fmp.fmpSymbol (code : PyString) : PyString :=
  let cleaned := code.strip.upper
  if endsWithAny cleaned [".US"] then dropEnd 3 cleaned else cleaned

def Yfinance.toYfinanceSymbol (code : PyString) : PyString :=
  let upper := code.strip.upper
  if endsWithAny upper [".US"] then dropEnd 3 upper
  else if endsWithAny upper [".HK"] then
    let digits := dropEnd 3 upper
    zfill (max 4 digits.points.length) digits ++ ".HK"
  else if endsWithAny upper ["-USDT"] then dropEnd 5 upper ++ "-USD"
  else if endsWithAny upper ["-USDC"] then dropEnd 5 upper ++ "-USD"
  else upper

end Codes

-- What the providers call the sizes.
def kltSize : Nat → Option BarSize
  | 101 => some .day
  | 102 => some .week
  | 103 => some .month
  | 1 => some (.minutes 1)
  | 5 => some (.minutes 5)
  | 15 => some (.minutes 15)
  | 30 => some (.minutes 30)
  | 60 => some (.hours 1)
  | _ => none

def mootdxSize : Nat → Option BarSize
  | 8 => some (.minutes 1)
  | 0 => some (.minutes 5)
  | 1 => some (.minutes 15)
  | 2 => some (.minutes 30)
  | 3 => some (.hours 1)
  | 4 => some .day
  | 5 => some .week
  | 6 => some .month
  | _ => none

def ccxtSizes : List (PyString × BarSize) :=
  [("1m", .minutes 1), ("5m", .minutes 5), ("15m", .minutes 15), ("30m", .minutes 30),
    ("1h", .hours 1), ("4h", .hours 4), ("1d", .day)]

def yahooSizes : List (PyString × BarSize) :=
  [("1m", .minutes 1), ("2m", .minutes 2), ("5m", .minutes 5), ("15m", .minutes 15),
    ("30m", .minutes 30), ("60m", .hours 1), ("90m", .minutes 90), ("1h", .hours 1),
    ("4h", .hours 4), ("1d", .day), ("1wk", .week), ("1mo", .month)]

def akshareSizes : List (PyString × BarSize) := [("daily", .day), ("weekly", .week), ("monthly", .month)]

def tushareSizes : List (PyString × BarSize) :=
  [("1min", .minutes 1), ("5min", .minutes 5), ("15min", .minutes 15), ("30min", .minutes 30),
    ("60min", .hours 1)]

def futuSizes : List (PyString × BarSize) :=
  [("K_DAY", .day), ("K_60M", .hours 1), ("K_240M", .hours 4), ("K_WEEK", .week), ("K_MON", .month)]

section Periods

variable [PyText]

def Tushare.freqMap : List (PyString × PyString) :=
  [("1m", "1min"), ("5m", "5min"), ("15m", "15min"), ("30m", "30min"), ("1H", "60min")]

def Okx.bar (interval : PyString) : PyString :=
  if interval ∈ (["1m", "5m", "15m", "30m", "1H", "4H", "1D"] : List PyString) then interval else "1D"

def Ccxt.intervalMap : List (PyString × PyString) :=
  [("1m", "1m"), ("5m", "5m"), ("15m", "15m"), ("30m", "30m"), ("1H", "1h"), ("4H", "4h"),
    ("1D", "1d")]

def Yfinance.intervalMap : List (PyString × PyString) := [("1D", "1d"), ("1H", "1h"), ("4H", "1h")]

-- str(interval or "1D").strip()
def requestedInterval (interval : PyString) : PyString :=
  if interval = "" then "1D" else interval.strip

def Yfinance.toYfinanceInterval (interval : PyString) : PyString :=
  let normalized := requestedInterval interval
  (Yfinance.intervalMap.lookup normalized).getD normalized.lower

def Yahoo.intervalMap : List (PyString × PyString) :=
  [("1D", "1d"), ("1H", "1h"), ("1W", "1wk"), ("1M", "1mo")]

def Yahoo.toYahooInterval (interval : PyString) : PyString :=
  let normalized := requestedInterval interval
  (Yahoo.intervalMap.lookup normalized.upper).getD normalized.lower

def Akshare.intervalMapDaily : List (PyString × PyString) :=
  [("1D", "daily"), ("1W", "weekly"), ("1M", "monthly")]

def Futu.intervalMap : List (PyString × PyString) :=
  [("1D", "K_DAY"), ("1H", "K_60M"), ("4H", "K_240M"), ("1W", "K_WEEK"), ("1M", "K_MON")]

def Futu.toFutuKtype (interval : PyString) : PyString :=
  (Futu.intervalMap.lookup interval.strip).getD "K_DAY"

def Eastmoney.kltByInterval : List (PyString × Nat) :=
  [("1D", 101), ("1W", 102), ("1M", 103), ("1m", 1), ("5m", 5), ("15m", 15), ("30m", 30),
    ("1H", 60), ("60m", 60)]

def Mootdx.intradayFreq : List (PyString × Nat) :=
  [("1m", 8), ("5m", 0), ("15m", 1), ("30m", 2), ("1H", 3)]

def Mootdx.dailyFreq : List (PyString × Nat) := [("1D", 4), ("1W", 5), ("1M", 6)]

def Sina.dailyNames : List PyString := ["1D", "D", "DAY", "DAILY"]

end Periods

-- How a loader deals with one code of a request.
structure Source (Row : Type) where
  -- The intervals for which fetch raises.
  refuses : PyString → Bool := fun _ => false
  -- The codes that it does not pass over, for an interval.
  takes : PyString → PyString → Bool := fun _ _ => true
  caches : PyString → Bool := fun _ => true
  timeframe : PyString → PyString := id
  fields : Option (List PyString) → Option (List PyString) := fun _ => none
  symbol : PyString → PyString := id
  -- The key of the code in the result.
  key : PyString → PyString := id
  keepsEmpty : PyString → Bool := fun _ => false
  fetchOne : PyString → PyString → Option (Bars Row)

section Sources

variable [PyText] {Row : Type} (providers : Providers Row)

-- The rows that a provider gives for a symbol, where it is asked for bars of this size.
def bars (loader : LoaderName) (symbol : PyString) (size : Option BarSize) : Option (Bars Row) := do
  let size ← size
  let rows ← providers.reply loader symbol size
  some (rows.map fun row => ⟨size, row⟩)

def Tushare.source : Source Row where
  takes code interval :=
    if interval = "1D" then ! providers.failedCodes code
    else (Tushare.freqMap.lookup interval).isSome && ! isEtfListed providers code &&
      ! isIndex providers code && ! isHkEquity code && ! isUsEquity code && ! isCrypto code
  caches interval := interval = "1D"
  fields requested := some (requested.getD [])
  keepsEmpty interval := interval ≠ "1D"
  fetchOne code interval :=
    if interval = "1D" then
      if isUsEquity code || isCrypto code then none else bars providers .tushare code (some .day)
    else bars providers .tushare code ((Tushare.freqMap.lookup interval).bind fun freq => tushareSizes.lookup freq)

def Okx.symbol (code : PyString) : PyString :=
  PyString.upper ⟨code.points.map fun point => if point = 0x2F then 0x2D else point⟩

def Okx.source : Source Row where
  timeframe := Okx.bar
  symbol := Okx.symbol
  key := Okx.symbol
  fetchOne code interval := bars providers .okx (Okx.symbol code) (intervalSize (Okx.bar interval))

def Yfinance.source : Source Row where
  timeframe := requestedInterval
  symbol := toYfinanceSymbol
  fetchOne code interval :=
    let frame := bars providers .yfinance (toYfinanceSymbol code)
      (yahooSizes.lookup (toYfinanceInterval interval))
    if requestedInterval interval = "4H" then
      frame.map fun bars => (providers.resample (bars.map Bar.row)).map fun row => ⟨.hours 4, row⟩
    else frame

def Akshare.source : Source Row where
  fetchOne code interval :=
    let daily := bars providers .akshare code (some .day)
    let aShare := bars providers .akshare code
      (akshareSizes.lookup ((intervalMapDaily.lookup interval).getD "daily"))
    if isEtfListed providers code then daily
    else if isAShare code then aShare
    else if isUs code then daily
    else if isHk code then daily
    else if isForex providers code then daily
    else aShare

-- The sources with bars of a day only, whatever the interval.
def dailySource (loader : LoaderName) (symbol : PyString → Option PyString) : Source Row where
  fetchOne code _ := (symbol code).bind fun symbol => bars providers loader symbol (some .day)

def Baostock.source : Source Row := dailySource providers .baostock bsCode

def Tencent.source : Source Row := dailySource providers .tencent tencentCode

def Mootdx.source : Source Row where
  refuses interval := (dailyFreq.lookup interval).isNone && (intradayFreq.lookup interval).isNone
  takes code _ := isAShare providers code && ! isBj providers code
  fetchOne code interval :=
    let symbol := (split 0x2E code).headD code
    if interval = "1D" then bars providers .mootdx symbol (some .day)
    else bars providers .mootdx symbol
      (((dailyFreq.lookup interval).or (intradayFreq.lookup interval)).bind mootdxSize)

def Ccxt.source : Source Row where
  fetchOne code interval :=
    let symbol := PyString.upper ⟨code.points.map fun point => if point = 0x2D then 0x2F else point⟩
    bars providers .ccxt symbol (ccxtSizes.lookup ((intervalMap.lookup interval).getD "1d"))

def Futu.source : Source Row where
  keepsEmpty _ := true
  fetchOne code interval := bars providers .futu code (futuSizes.lookup (toFutuKtype interval))

def Eastmoney.source : Source Row where
  fetchOne code interval :=
    bars providers .eastmoney code ((kltByInterval.lookup interval).bind kltSize)

def Sina.source : Source Row :=
  { dailySource providers .sina fun code => if isUsEquity code then some code else none with
    refuses := fun interval => interval.upper ∉ dailyNames }

def Stooq.source : Source Row := dailySource providers .stooq fun code => some code.strip.lower

def Yahoo.source : Source Row where
  fetchOne code interval :=
    if isUsOrHk code then
      bars providers .yahoo code (yahooSizes.lookup (toYahooInterval interval))
    else none

def Finnhub.source : Source Row :=
  dailySource providers .finnhub fun code => some (toFinnhubSymbol code)

def Alphavantage.source : Source Row :=
  dailySource providers .alphavantage fun code =>
    if code.strip.upper = "" then none else some code.strip.upper

def Tiingo.source : Source Row := dailySource providers .tiingo toTiingoSymbol

def Fmp.source : Source Row :=
  { dailySource providers .fmp fun code => if fmpSymbol code = "" then none else some (fmpSymbol code) with
    takes := fun _ interval => interval = "1D" }

def Local.clean (code : PyString) : PyString :=
  if ("local:" : PyString).points.isPrefixOf code.points then ⟨code.points.drop 6⟩ else code

def Local.source (files : Files Row) : Source Row where
  takes code _ := (files (clean code)).isSome
  symbol := clean
  key := clean
  fetchOne code _ := (files (clean code)).join

def LoaderName.source (files : Files Row) : LoaderName → Source Row
  | .tushare => Tushare.source providers
  | .okx => Okx.source providers
  | .yfinance => Yfinance.source providers
  | .akshare => Akshare.source providers
  | .baostock => Baostock.source providers
  | .tencent => Tencent.source providers
  | .mootdx => Mootdx.source providers
  | .ccxt => Ccxt.source providers
  | .futu => Futu.source providers
  | .eastmoney => Eastmoney.source providers
  | .sina => Sina.source providers
  | .stooq => Stooq.source providers
  | .yahoo => Yahoo.source providers
  | .finnhub => Finnhub.source providers
  | .alphavantage => Alphavantage.source providers
  | .tiingo => Tiingo.source providers
  | .fmp => Fmp.source providers
  | .localFiles => Local.source files

variable (pd : Timestamps)

-- The frame for one code of a request, by way of the cache.
def fetchCode (files : Files Row) (loader : LoaderName) (request : Request) (code : PyString)
    (cache : LoaderCache CachePayload (Bars Row)) :
    Option (Bars Row) × LoaderCache CachePayload (Bars Row) :=
  let source := loader.source providers files
  if ! source.takes code request.interval then (none, cache)
  else if source.caches request.interval then
    match cachedLoaderFetch pd id List.isEmpty (providers.reading loader code)
      (providers.writing loader code)
      { source := loader.name, symbol := source.symbol code,
        timeframe := source.timeframe request.interval, startDate := request.startDate,
        endDate := request.endDate, fields := source.fields request.fields }
      (.ok (source.fetchOne code request.interval)) cache with
    | .ok (frame, cache) => (frame, cache)
    | .error _ => (none, cache)
  else (source.fetchOne code request.interval, cache)

-- result[code] = frame
def assign (key : PyString) (frame : Bars Row) (result : DataMap (Bars Row)) : DataMap (Bars Row) :=
  update result [(key, frame)]

def fetchCodes (files : Files Row) (loader : LoaderName) (request : Request) :
    List PyString → DataMap (Bars Row) → LoaderCache CachePayload (Bars Row) →
      DataMap (Bars Row) × LoaderCache CachePayload (Bars Row)
  | [], result, cache => (result, cache)
  | code :: rest, result, cache =>
    let source := loader.source providers files
    match fetchCode providers pd files loader request code cache with
    | (none, cache) => fetchCodes files loader request rest result cache
    | (some frame, cache) =>
      if frame.isEmpty && ! source.keepsEmpty request.interval then
        fetchCodes files loader request rest result cache
      else fetchCodes files loader request rest (assign (source.key code) frame result) cache

def LoaderName.fetch (files : Files Row) (loader : LoaderName)
    (cache : LoaderCache CachePayload (Bars Row)) (request : Request) :
    Except PyError (DataMap (Bars Row) × LoaderCache CachePayload (Bars Row)) :=
  match providers.fails loader request with
  | some raised => .error raised
  | none =>
    if (loader.source providers files).refuses request.interval then .error .valueError
    else .ok (fetchCodes providers pd files loader request request.codes [] cache)

end Sources

-- What BacktestConfigSchema checks in the fields that the fetches read.
structure Accepted [PyText] (pd : Timestamps) (config : BacktestConfig) : Prop where
  codes : config.codes ≠ [] ∧ ∀ code ∈ config.codes, code.strip ≠ ""
  source : config.source ∈ validSources
  interval : config.interval ∈ validIntervals
  dates : ∃ start finish, pd.timestamp config.startDate = some start ∧
    pd.timestamp config.endDate = some finish ∧ start ≤ finish

-- A state of the world: which classes can be imported, constructed and used, what the providers
-- answer, and what the cache holds when a loader is asked.
structure World (Row : Type) where
  providers : Providers Row
  imports : LoaderName → Bool
  constructs : LoaderName → Bool
  isAvailable : LoaderName → Bool
  -- The sets of markets, as they are iterated.
  markets : LoaderName → List PyString
  sameMarkets : ∀ loader, (markets loader).Perm loader.markets
  cache : LoaderName → Request → LoaderCache CachePayload (Bars Row)

section Runs

variable [PyText] {Row : Type} (pd : Timestamps) (files : Files Row)
  (detectMarket : PyString → PyString)

def World.loader (world : World Row) (loader : LoaderName) : Loader (Bars Row) where
  constructs := world.constructs loader
  isAvailable := world.isAvailable loader
  markets := world.markets loader
  fetch request :=
    Prod.fst <$> loader.fetch world.providers pd files (world.cache loader request) request

def World.loaders (world : World Row) : Loaders (Bars Row) where
  registry name := (LoaderName.ofName name).bind fun loader =>
    if world.imports loader then some (world.loader pd files loader) else none
  detectMarket := detectMarket

-- data_map, as main has it.
def fetchFrames (world : World Row) (config : BacktestConfig) : Except PyError (DataMap (Bars Row)) :=
  let loaders := world.loaders pd files detectMarket
  if config.source = "auto" then fetchAuto loaders config else Prod.fst <$> fetchSingle loaders config

end Runs

end SynapseYield.Backtest
