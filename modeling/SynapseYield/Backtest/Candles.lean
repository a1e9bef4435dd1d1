import SynapseYield.Shared.Number
import SynapseYield.Shared.Python
import SynapseYield.Shared.StableSort

set_option autoImplicit false

namespace SynapseYield.Backtest

open Shared

structure Candle (Time : Type) where
  time : Time
  open_ : Number
  high : Number
  low : Number
  close : Number
  volume : Number
deriving DecidableEq

variable {Time : Type}

-- What dropna on open, high, low and close leaves
def Candle.priced (candle : Candle Time) : Bool :=
  candle.open_ ≠ .nan && candle.high ≠ .nan && candle.low ≠ .nan && candle.close ≠ .nan

-- The frame, or None for an empty one
def frameOf (candles : List (Candle Time)) : Option (List (Candle Time)) :=
  if candles.isEmpty then none else some candles

theorem frameOf_getD (candles : List (Candle Time)) : (frameOf candles).getD [] = candles := by
  cases candles <;> rfl

end SynapseYield.Backtest

namespace SynapseYield.Backtest.Ccxt

open Shared StableSort

def limit : Nat := 1000

def maxPages : Nat := 200

-- What fetch_ohlcv comes to for a since and a limit, retries included, and whether the clock has
-- passed the deadline before a page. Times are in milliseconds.
variable (fetchOhlcv : Int → Nat → Except PyError (List (Candle Int))) (expired : Nat → Bool)

def ohlcvRows (endMs : Int) : Nat → Nat → Int → Except PyError (List (Candle Int))
  | 0, _, _ => .ok []
  | left + 1, page, cursor =>
    if expired page then .error .osError
    else do
      let ohlcv ← fetchOhlcv cursor limit
      match ohlcv.getLast? with
      | none => return []
      | some last =>
        if endMs ≤ last.time ∨ ohlcv.length < limit then return ohlcv
        else
          let later ← ohlcvRows endMs left (page + 1) (last.time + 1)
          return ohlcv ++ later

def fetchOne (sinceMs endMs : Int) : Except PyError (Option (List (Candle Int))) := do
  let rows ← ohlcvRows fetchOhlcv expired endMs maxPages 0 sinceMs
  if rows.isEmpty then return none
  else
    let df := (sortBy Candle.time rows).filter fun candle =>
      sinceMs ≤ candle.time && candle.time < endMs
    return frameOf (df.filter Candle.priced)

end SynapseYield.Backtest.Ccxt

namespace SynapseYield.Backtest.Okx

open Shared StableSort

def maxPerPage : Nat := 300

-- The rows of a reply, without the columns that are not looked at. Times are in milliseconds.
structure Row where
  ts : Int
  open_ : PyString
  high : PyString
  low : PyString
  close : PyString
  vol : PyString
  confirm : PyString
deriving DecidableEq

structure Reply where
  code : PyString
  data : List Row

def Row.confirmed (row : Row) : Bool := row.confirm = "1"

-- fillna(0)
def fillna : Number → Number
  | .nan => 0
  | x => x

-- pd.to_numeric gives nan for what it cannot read.
def Row.candle (toNumeric : PyString → Number) (row : Row) : Candle Int where
  time := row.ts
  open_ := toNumeric row.open_
  high := toNumeric row.high
  low := toNumeric row.low
  close := toNumeric row.close
  volume := fillna (toNumeric row.vol)

-- What a request with that limit and that after comes to, retries included, and whether the clock
-- has passed the deadline before a page
variable (request : Nat → Int → Except PyError Reply) (expired : Nat → Bool)

def candleRows (startTs : Int) : Nat → Nat → Int → Except PyError (List Row)
  | 0, _, _ => .ok []
  | left + 1, page, after =>
    if expired page then .error .osError
    else do
      let reply ← request maxPerPage after
      if reply.code ≠ "0" ∨ reply.data = [] then return []
      else
        let rows := reply.data.filter Row.confirmed
        let oldest := (rows.getLast?.map Row.ts).getD startTs
        if oldest ≤ startTs ∨ reply.data.length < maxPerPage then return rows
        else
          let older ← candleRows startTs left (page + 1) oldest
          return rows ++ older

variable (toNumeric : PyString → Number)

def frame (rows : List Row) (startTs endTs : Int) : Option (List (Candle Int)) :=
  let df := sortBy Candle.time (rows.map (Row.candle toNumeric))
  let df := df.filter fun candle => startTs ≤ candle.time && candle.time < endTs
  frameOf (df.filter Candle.priced)

def fetchCandles (startTs endTs : Int) (maxPages : Nat) :
    Except PyError (Option (List (Candle Int))) := do
  let rows ← candleRows request expired startTs maxPages 0 endTs
  if rows.isEmpty then return none
  else return frame toNumeric rows startTs endTs

end SynapseYield.Backtest.Okx

namespace SynapseYield.Backtest.Mootdx

open Shared StableSort

-- Times are instants, in seconds.
abbrev Bar := Candle ℚ

def barsPage : Nat := 800

def maxPages : Nat := 25

-- One request of a download: its number, and start and offset as bars() takes them
abbrev Client := Nat → Nat → Nat → List Bar

-- The pages that are kept, and whether the warning about the cap is logged
def fetchPages (client : Client) (startTs : ℚ) : Nat → Nat → List (List Bar) × Bool
  | 0, _ => ([], true)
  | left + 1, page =>
    match client page (page * barsPage) barsPage with
    | [] => ([], false)
    | first :: rest =>
      if first.time ≤ startTs then ([first :: rest], false)
      else
        let older := fetchPages client startTs left (page + 1)
        ((first :: rest) :: older.1, older.2)

-- Midnight of the end date, and all but the last second of the day
def endTs (endDate : ℚ) : ℚ := endDate + 86400 - 1

def inWindow (startDate endDate : ℚ) (bar : Bar) : Bool :=
  startDate ≤ bar.time && bar.time ≤ endTs endDate

def normalizeBars (bars : List Bar) (startDate endDate : ℚ) : Option (List Bar) :=
  frameOf (((sortBy Candle.time bars).filter Candle.priced).filter (inWindow startDate endDate))

def fetchBarsPaginated (client : Client) (startDate endDate : ℚ) : Option (List Bar) × Bool :=
  let (chunks, capped) := fetchPages client startDate maxPages 0
  (if chunks.isEmpty then none else normalizeBars chunks.flatten startDate endDate, capped)

end SynapseYield.Backtest.Mootdx
