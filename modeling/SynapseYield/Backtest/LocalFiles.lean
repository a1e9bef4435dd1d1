import SynapseYield.Backtest.Candles
import SynapseYield.Shared.Python

set_option autoImplicit false

namespace SynapseYield.Backtest.LocalFiles

open Shared StableSort

-- A table as a reader has it. The times are wall clock times in seconds.
structure Table (Row : Type) where
  columns : List PyString
  distinct : columns.Nodup
  rows : List Row
  -- pd.to_datetime of a column, with the format of the source and without zones; none where what
  -- comes of it is no column of times
  dates : PyString → Option (Row → Option ℚ)
  -- pd.to_numeric of a cell
  number : PyString → Row → Number

abbrev ColumnMap := List (PyString × PyString)

def dateKey : PyString := "date"

def openKey : PyString := "open"

def highKey : PyString := "high"

def lowKey : PyString := "low"

def closeKey : PyString := "close"

def volumeKey : PyString := "volume"

def tradeDateKey : PyString := "trade_date"

def defaultColumns : ColumnMap :=
  [(dateKey, dateKey), (openKey, openKey), (highKey, highKey), (lowKey, lowKey),
    (closeKey, closeKey), (volumeKey, volumeKey)]

-- col_map[key] = source
def setColumn (colMap : ColumnMap) (key source : PyString) : ColumnMap :=
  if colMap.any (·.1 = key) then
    colMap.map fun entry => if entry.1 = key then (key, source) else entry
  else colMap ++ [(key, source)]

-- The columns of a config entry over the defaults
def colMapOf (userCols : ColumnMap) : ColumnMap :=
  userCols.foldl (fun colMap entry => setColumn colMap entry.1 entry.2) defaultColumns

def sourceOf (colMap : ColumnMap) (key : PyString) : PyString := (colMap.lookup key).getD key

-- The name of a column after the renaming: of two keys for one column the later counts.
def renamed (columns : List PyString) (colMap : ColumnMap) (column : PyString) : PyString :=
  match (colMap.filter fun entry => entry.1 ≠ dateKey ∧ entry.2 ∈ columns).reverse.find?
      (·.2 = column) with
  | some entry => entry.1
  | none => column

-- The columns that have the name then
def under (columns : List PyString) (colMap : ColumnMap) (name : PyString) : List PyString :=
  columns.filter (renamed columns colMap · = name)

-- The columns that the bars are made from
structure Columns where
  date : PyString
  open_ : PyString
  high : PyString
  low : PyString
  close : PyString
  volume : Option PyString
deriving DecidableEq, Repr

-- Where a name stands for two columns the frame has no series for it, and pandas raises.
def sole : List PyString → Except PyError PyString
  | [column] => .ok column
  | _ => .error .other

def columnsRead (columns : List PyString) (colMap : ColumnMap) : Except PyError (Option Columns) :=
  let named := under columns colMap
  if named openKey = [] ∨ named highKey = [] ∨ named lowKey = [] ∨ named closeKey = [] then .ok none
  else if named (sourceOf colMap dateKey) = [] then .ok none
  else do
    let date ← sole (named (sourceOf colMap dateKey))
    if 1 < (named tradeDateKey).length then .error .other
    else do
      let open_ ← sole (named openKey)
      let high ← sole (named highKey)
      let low ← sole (named lowKey)
      let close ← sole (named closeKey)
      if named volumeKey = [] then .ok (some ⟨date, open_, high, low, close, none⟩)
      else do
        let volume ← sole (named volumeKey)
        .ok (some ⟨date, open_, high, low, close, some volume⟩)

-- validate_ohlc keeps it.
def isValid (candle : Candle ℚ) : Bool :=
  ! (candle.high < candle.low || candle.high < candle.open_ || candle.high < candle.close ||
    candle.open_ < candle.low || candle.close < candle.low || candle.open_ ≤ 0 ||
    candle.high ≤ 0 || candle.low ≤ 0 || candle.close ≤ 0)

variable {Row : Type} (table : Table Row)

def candleAt (columns : Columns) (row : Row) (time : ℚ) : Candle ℚ where
  time := time
  open_ := table.number columns.open_ row
  high := table.number columns.high row
  low := table.number columns.low row
  close := table.number columns.close row
  volume :=
    match columns.volume with
    | some volume => table.number volume row
    | none => 0

-- A bar, beside the row that it is made from. sort_index leaves the order of bars of one time open;
-- here it is that of the table.
abbrev Bars (Row : Type) := List (Row × Candle ℚ)

def normalizeColumns (colMap : ColumnMap) : Except PyError (Option (Bars Row)) := do
  match ← columnsRead table.columns colMap with
  | none => .ok none
  | some columns =>
    match table.dates columns.date with
    | none => .error .other
    | some dates =>
      let dated := table.rows.filterMap fun row => (dates row).map fun time => (row, time)
      let sorted := sortBy Prod.snd dated
      let bars := sorted.map fun entry => (entry.1, candleAt table columns entry.1 entry.2)
      .ok (some ((bars.filter fun bar => bar.2.priced).filter fun bar => isValid bar.2))

-- start and end are midnights.
def fetchOne (colMap : ColumnMap) (start finish : ℚ) : Except PyError (Option (Bars Row)) := do
  match ← normalizeColumns table colMap with
  | none => .ok none
  | some bars =>
    let cut := bars.filter fun bar => start ≤ bar.2.time && bar.2.time ≤ finish
    .ok (if cut.isEmpty then none else some cut)

-- The bars of a configured symbol in the result of fetch; a symbol that is missing has none.
def fetched (colMap : ColumnMap) (start finish : ℚ) : Bars Row :=
  match fetchOne table colMap start finish with
  | .ok (some bars) => bars
  | _ => []

end SynapseYield.Backtest.LocalFiles
