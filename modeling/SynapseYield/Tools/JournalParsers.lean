import SynapseYield.Backtest.Intervals
import SynapseYield.Shared.Lines

set_option autoImplicit false

namespace SynapseYield.Tools.JournalParsers

open Shared
open SynapseYield.Backtest (zfill endsWithAny)

-- What is read of a cell as text: NaN where the file has nothing there
abbrev Cell := Option PyString

-- A row with the names of its columns
abbrev Row := List (PyString × Cell)

def Row.get (row : Row) (column : PyString) : Option Cell := row.lookup column

structure DataFrame where
  columns : List PyString
  rows : List (List Cell)

def DataFrame.iterrows (df : DataFrame) : List Row := df.rows.map df.columns.zip

inductive FormatName where
  | tonghuashun
  | eastmoney
  | futu
  | generic
  | unknown
deriving DecidableEq, Repr

structure TradeRecord where
  datetime : PyString
  symbol : PyString
  name : PyString
  side : PyString
  quantity : Number
  price : Number
  amount : Number
  fee : Number
  market : PyString
deriving DecidableEq

def buyTokens : List PyString := ["buy", "b", "买入", "证券买入", "融资买入", "做多", "long"]

def sellTokens : List PyString := ["sell", "s", "卖出", "证券卖出", "融券卖出", "做空", "short"]

def aShareExchangeMap : List (List CodePoint × PyString) :=
  [([54], ".SH"), ([48, 51], ".SZ"), ([52, 56], ".BJ")]

def strip (text : PyString) : PyString := ⟨Lines.strip text.points⟩

def contains (text part : PyString) : Bool := decide (part.points <:+: text.points)

-- str(cell)
def cellText (cell : Cell) : PyString := cell.getD "nan"

-- str(row.get(column, default)).strip()
def textOr (default : PyString) (cell : Option Cell) : PyString :=
  strip ((cell.map cellText).getD default)

def join (date time : PyString) : PyString := date ++ " " ++ time

-- x or y on floats
def orElse (x y : Number) : Number := if x = 0 then y else x

-- What Unicode says of a character that is not ASCII
structure CharTables where
  isAlpha : CodePoint → Bool
  isDigit : CodePoint → Bool

section Cells

variable [PyText]

def normalizeSide (raw : Option Cell) : PyString :=
  let s := (textOr "None" raw).lower
  if s ∈ sellTokens ∨ sellTokens.any (contains s) = true then "sell" else "buy"

def qualifyAShare (raw : Option Cell) : PyString :=
  let code := zfill 6 (textOr "" raw)
  if 46 ∈ code.points then code.upper
  else
    match code.points.head?.bind fun first =>
        aShareExchangeMap.find? fun entry => decide (first ∈ entry.1) with
    | some (_, suffix) => code ++ suffix
    | none => code

def toFloat : Option Cell → Number
  | none => 0
  | some cell =>
    let s := strip ⟨(cellText cell).points.filter (· ≠ 44)⟩
    if s = "" then 0 else s.parseFloat.getD 0

end Cells

section Parsers

-- str.isalpha and str.isdigit ask each code point.
variable [PyText] (tables : CharTables)

def isalpha (text : PyString) : Bool :=
  !text.points.isEmpty && text.points.all fun c =>
    if c.val < 128 then Ascii.isUpper c || Ascii.isLower c else tables.isAlpha c

def isdigit (text : PyString) : Bool :=
  !text.points.isEmpty && text.points.all fun c =>
    if c.val < 128 then Ascii.isDigit c else tables.isDigit c

def detectFormat (columns : List PyString) : FormatName :=
  let issubset (names : List PyString) : Prop := ∀ name ∈ names, name ∈ columns
  let hints (names : List PyString) : Prop := ∃ name ∈ names, name ∈ columns.map PyString.lower
  if issubset ["成交时间", "证券代码", "操作"] then .tonghuashun
  else if issubset ["买卖标志", "股票代码"] ∨ issubset ["买卖标志", "成交均价"] then .eastmoney
  else if issubset ["Date", "Symbol", "Side"] ∨ issubset ["Date", "Symbol", "Direction"] then .futu
  else if hints ["datetime", "time", "date"] ∧ hints ["symbol", "ticker", "code"] then .generic
  else .unknown

def parseTonghuashunRow (row : Row) : TradeRecord :=
  let qty := toFloat (row.get "成交数量")
  let price := toFloat (row.get "成交价格")
  { datetime := textOr "" (row.get "成交时间")
    symbol := qualifyAShare (row.get "证券代码")
    name := textOr "" (row.get "证券名称")
    side := normalizeSide (row.get "操作")
    quantity := qty
    price
    amount := orElse (toFloat (row.get "成交金额")) (qty * price)
    fee := toFloat (row.get "手续费") + toFloat (row.get "印花税") +
      toFloat (row.get "过户费")
    market := "china_a" }

def isoDate (raw : PyString) : PyString :=
  if raw.points.length = 8 ∧ isdigit tables raw = true then
    ⟨raw.points.take 4 ++ [45] ++ (raw.points.drop 4).take 2 ++ [45] ++ raw.points.drop 6⟩
  else raw

def parseEastmoneyRow (row : Row) : TradeRecord :=
  let date := isoDate tables (textOr "" (row.get "成交日期"))
  let time := textOr "" (row.get "成交时间")
  let qty := toFloat (row.get "成交数量")
  let price := toFloat (row.get "成交均价")
  { datetime := strip (join date time)
    symbol := qualifyAShare (row.get "股票代码")
    name := textOr "" (row.get "股票名称")
    side := normalizeSide (row.get "买卖标志")
    quantity := qty
    price
    amount := orElse (toFloat (row.get "成交金额")) (qty * price)
    fee := toFloat (row.get "佣金") + toFloat (row.get "印花税")
    market := "china_a" }

def futuMarket (symbol hint : PyString) : PyString :=
  let hint := hint.lower
  if hint = "hk" then "hk"
  else if hint = "us" then "us"
  else if hint = "cn" then "china_a"
  else if endsWithAny symbol [".HK"] then "hk"
  else if isalpha tables symbol ∨ 46 ∉ symbol.points then "us"
  else "other"

def parseFutuRow (columns : List PyString) (row : Row) : TradeRecord :=
  let date := textOr "" (row.get "Date")
  let time := textOr "" (row.get "Time")
  let symbol := (textOr "" (row.get "Symbol")).upper
  let qty := toFloat (row.get "Quantity")
  let price := toFloat (row.get "Price")
  { datetime := strip (join date time)
    symbol
    name := textOr "" (row.get "Name")
    side := normalizeSide (row.get (if ("Side" : PyString) ∈ columns then "Side" else "Direction"))
    quantity := qty
    price
    amount := orElse (toFloat (row.get "Amount")) (qty * price)
    fee := toFloat (row.get "Commission") + toFloat (row.get "Platform Fee")
    market := futuMarket tables symbol (textOr "" (row.get "Market")) }

-- The last column of a name has it.
def pick (columns names : List PyString) : Option PyString :=
  let colmap := columns.map fun column => ((strip column).lower, column)
  names.findSome? fun name => colmap.reverse.lookup name

def inferMarketFromSymbol (symbol : PyString) : PyString :=
  let s := symbol.upper
  if endsWithAny s [".HK"] then "hk"
  else if endsWithAny s [".SH", ".SZ", ".BJ"] then "china_a"
  else if 45 ∈ s.points ∧ ([("USDT" : PyString), "USDC", "BTC", "USD"].any (contains s)) = true then
    "crypto"
  else if isalpha tables s then "us"
  else "other"

def parseGenericRow (columns : List PyString) (row : Row) : TradeRecord :=
  let get (column : Option PyString) : Option Cell := column.bind row.get
  let symbol := textOr "" (get (pick columns ["symbol", "ticker", "code"]))
  let qty := toFloat (get (pick columns ["quantity", "qty", "size", "volume"]))
  let price := toFloat (get (pick columns ["price"]))
  let amountCol := pick columns ["amount", "value", "notional"]
  let amount := if amountCol.isSome then toFloat (get amountCol) else qty * price
  let sideCol := pick columns ["side", "direction", "action"]
  { datetime := textOr "" (get ((pick columns ["datetime", "time"]).or (pick columns ["date"])))
    symbol := symbol.upper
    name := textOr "" (get (pick columns ["name", "instrument"]))
    side := normalizeSide (if sideCol.isSome then get sideCol else some (some "buy"))
    quantity := qty
    price
    amount := orElse amount (qty * price)
    fee := toFloat (get (pick columns ["fee", "commission", "fees"]))
    market := inferMarketFromSymbol tables symbol }

def parseGeneric (df : DataFrame) : List TradeRecord :=
  df.iterrows.map (parseGenericRow tables df.columns)

-- None is the ValueError of a format that is not recognized.
def parseFile (df : DataFrame) : Option (FormatName × List TradeRecord) :=
  match detectFormat df.columns with
  | .tonghuashun => some (.tonghuashun, df.iterrows.map parseTonghuashunRow)
  | .eastmoney => some (.eastmoney, df.iterrows.map (parseEastmoneyRow tables))
  | .futu => some (.futu, df.iterrows.map (parseFutuRow tables df.columns))
  | .generic => some (.generic, parseGeneric tables df)
  | .unknown =>
    match parseGeneric tables df with
    | record :: records =>
      if record.symbol = "" then none else some (.generic, record :: records)
    | [] => none

end Parsers

end SynapseYield.Tools.JournalParsers
