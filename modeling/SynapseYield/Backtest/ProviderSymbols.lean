import SynapseYield.Backtest.Eastmoney

set_option autoImplicit false

namespace SynapseYield.Backtest

open Shared

-- str.replace(old, "") of a text old that is not empty. The count is of the points of an
-- occurrence that are still to be passed.
def removedFrom (old : List CodePoint) : Nat → List CodePoint → List CodePoint
  | _, [] => []
  | skip + 1, _ :: rest => removedFrom old skip rest
  | 0, c :: rest =>
    if old.isPrefixOf (c :: rest) then removedFrom old (old.length - 1) rest
    else c :: removedFrom old 0 rest

def removed (old text : PyString) : PyString := ⟨removedFrom old.points 0 text.points⟩

section Symbols

variable [PyText] {Row : Type} (providers : Providers Row)

def Yahoo.mapSymbol (symbol : PyString) : PyString :=
  let cleaned := symbol.strip
  let upper := cleaned.upper
  if endsWithAny upper [".US"] then dropEnd 3 cleaned
  else if endsWithAny upper [".HK"] then
    let digits := (dropEnd 3 cleaned).points.dropWhile (· = 0x30)
    zfill 4 (if digits = [] then "0" else ⟨digits⟩) ++ ".HK"
  else cleaned

def Stooq.mapSymbol (symbol : PyString) : PyString := symbol.strip.lower

def Sina.toSinaSymbol (code : PyString) : PyString :=
  if 0x2E ∈ code.upper.points then (Eastmoney.rpartition code.upper).1 else code.upper

def Futu.toFutuSymbol (code : PyString) : PyString :=
  let upper := code.strip.upper
  if endsWithAny upper [".HK"] then ("HK." : PyString) ++ zfill 5 (dropEnd 3 upper)
  else if endsWithAny upper [".SZ"] then ("SZ." : PyString) ++ zfill 6 (dropEnd 3 upper)
  else if endsWithAny upper [".SH"] then ("SH." : PyString) ++ zfill 6 (dropEnd 3 upper)
  else upper

namespace Akshare

def usPrefixes : List PyString := ["105.", "106.", ""]

-- The symbols are tried in turn, up to the first that there are bars for.
def upToAnswer (answers : PyString → Bool) : List PyString → List PyString
  | [] => []
  | symbol :: rest => if answers symbol then [symbol] else symbol :: upToAnswer answers rest

def fetchUs (answers : PyString → Bool) (code : PyString) : List PyString :=
  upToAnswer answers (usPrefixes.map fun before => before ++ removed ".US" code)

def fetchHk (code : PyString) : PyString := zfill 5 (removed ".HK" code)

def fetchEtf (code : PyString) : PyString :=
  let (digits, suffix) := Ascii.cut 0x2E code.upper.points
  (⟨suffix.getD []⟩ : PyString).lower ++ ⟨digits⟩

def fetchForex (code : PyString) : PyString :=
  if endsWithAny code.upper [".FX"] then dropEnd 3 code.upper else code.upper

def fetchAShare (code : PyString) : PyString := (split 0x2E code).headD code

def fetchOne (answers : PyString → Bool) (code : PyString) : List PyString :=
  if isEtfListed providers code then [fetchEtf code]
  else if isAShare code then [fetchAShare code]
  else if isUs code then fetchUs answers code
  else if isHk code then [fetchHk code]
  else if isForex providers code then [fetchForex code]
  else [fetchAShare code]

end Akshare

-- What the symbols that a loader asks for depend on: whether the US endpoint of AKShare has bars
-- for a symbol, the secids that are cached and the answers of the search for a ticker, and the
-- symbols of the local config.
structure Outside where
  answers : PyString → Bool
  secids : Eastmoney.SecidCache
  search : PyString → Option Json
  configured : PyString → Bool

def Eastmoney.searchText (code : PyString) : PyString := (rpartition code).1.strip.upper

/-- The symbols that a loader asks its provider for, where it is to fetch the code. -/
def asked (outside : Outside) (code : PyString) : LoaderName → List PyString
  | .yahoo => if Yahoo.isUsOrHk code then [Yahoo.mapSymbol code] else []
  | .stooq => [Stooq.mapSymbol code]
  | .sina => if Sina.isUsEquity code then [Sina.toSinaSymbol code] else []
  | .eastmoney =>
    (Eastmoney.resolveSecid outside.secids code
      (outside.search (Eastmoney.searchText code))).1.toList
  | .yfinance => [Yfinance.toYfinanceSymbol code]
  | .tiingo => (Tiingo.toTiingoSymbol code).toList
  | .fmp => if Fmp.fmpSymbol code = "" then [] else [Fmp.fmpSymbol code]
  | .finnhub => [Finnhub.toFinnhubSymbol code]
  | .alphavantage => if code.strip.upper = "" then [] else [code.strip.upper]
  | .akshare => Akshare.fetchOne providers outside.answers code
  | .futu => [Futu.toFutuSymbol code]
  | .localFiles => if outside.configured (Local.clean code) then [Local.clean code] else []
  | .tushare => [code]
  | .okx => [Okx.symbol code]
  | .ccxt => [PyString.upper ⟨code.points.map fun point => if point = 0x2D then 0x2F else point⟩]
  | .baostock => (Baostock.bsCode code).toList
  | .tencent => (Tencent.tencentCode code).toList
  | .mootdx =>
    if Mootdx.isAShare providers code && ! Mootdx.isBj providers code then
      [(split 0x2E code).headD code]
    else []

end Symbols

end SynapseYield.Backtest
