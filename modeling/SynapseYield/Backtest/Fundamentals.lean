import Mathlib.Data.Prod.Lex
import SynapseYield.Shared.Outcome
import SynapseYield.Shared.Python
import SynapseYield.Shared.StableSort

set_option autoImplicit false

namespace SynapseYield.Backtest.Fundamentals

open Shared StableSort

-- A cell of a frame, with what str makes of it where that is asked.
inductive Cell where
  | missing (shown : PyString)
  | text (s : PyString)
  | timestamp (day : Int)
  | number (shown : PyString) (value : Number)

namespace Cell

def isna : Cell → Bool
  | .missing _ => true
  | _ => false

-- NaN, where a frame has no such column
def nan : Cell := .missing "nan"

def isText (s : PyString) : Cell → Bool
  | .text t => t = s
  | _ => false

end Cell

-- What pandas makes of a text: pd.to_datetime(text).normalize() as a day, none for NaT, and the
-- same with the format %Y%m%d. The rank of a cell is its place in a column that is sorted.
structure Pandas (Rank : Type) where
  toDatetime : PyString → Except PyError (Option Int)
  strptime : PyString → Except PyError (Option Int)
  isdigit : PyString → Bool
  timestampText : Int → PyString
  rank : Cell → Rank

structure ColumnSchema where
  name : PyString
  required : Bool := false

structure TableSchema where
  name : PyString
  apiName : PyString
  pointInTimeColumn : PyString
  columns : List ColumnSchema

def TableSchema.requiredColumns (schema : TableSchema) : List PyString :=
  (schema.columns.filter (·.required)).map (·.name)

def statementSchema (name : PyString) (columns : List PyString) : TableSchema where
  name := name
  apiName := name
  pointInTimeColumn := "f_ann_date"
  columns := [⟨"ts_code", true⟩, ⟨"ann_date", true⟩, ⟨"f_ann_date", false⟩, ⟨"end_date", true⟩] ++
    columns.map fun column => ⟨column, false⟩

def indicatorSchema : TableSchema where
  name := "fina_indicator"
  apiName := "fina_indicator"
  pointInTimeColumn := "ann_date"
  columns := [⟨"ts_code", true⟩, ⟨"ann_date", true⟩, ⟨"end_date", true⟩] ++
    (["eps", "grossprofit_margin", "netprofit_margin", "roe", "debt_to_assets"] : List PyString).map
      fun column => ⟨column, false⟩

-- _SCHEMAS
def schemas : List TableSchema :=
  [statementSchema "balancesheet" ["total_assets", "total_liab", "total_hldr_eqy_exc_min_int"],
    statementSchema "cashflow" ["net_profit", "n_cashflow_act", "c_cash_equ_end_period"],
    indicatorSchema,
    statementSchema "income" ["total_revenue", "revenue", "operate_profit", "n_income"]]

abbrev Row := PyString → Cell

def Row.restrict (row : Row) (columns : List PyString) : Row := fun column =>
  if column ∈ columns then row column else .nan

structure Frame where
  columns : List PyString
  rows : List Row

def Frame.isEmpty (frame : Frame) : Bool := frame.columns.isEmpty || frame.rows.isEmpty

-- pd.concat(frames, ignore_index=True)
def concat (frames : List Frame) : Frame where
  columns := (frames.flatMap (·.columns)).dedup
  rows := frames.flatMap fun frame => frame.rows.map fun row => row.restrict frame.columns

-- The methods of the API object by name, and what each answers for a code; none for None.
structure FundamentalApi where
  hasMethod : PyString → Bool
  answer : PyString → PyString → Except PyError (Option Frame)

def describeTable (table : PyString) : Except PyError TableSchema :=
  match schemas.find? fun schema => schema.name = table with
  | some schema => .ok schema
  | none => .error .other

section Query

variable {Rank : Type} (pandas : Pandas Rank)

def parseTushareDate : Cell → Except PyError (Option Int)
  | .timestamp day => .ok (some day)
  | .missing shown => fromText shown
  | .text s => fromText s
  | .number shown _ => fromText shown
where
  fromText (text : PyString) : Except PyError (Option Int) :=
    if text.points.length = 8 ∧ pandas.isdigit text then pandas.strptime text
    else pandas.toDatetime text

-- astype(str)
def cellText : Cell → PyString
  | .timestamp day => pandas.timestampText day
  | .missing shown => shown
  | .text s => s
  | .number shown _ => shown

def validateSchema (schema : TableSchema) (frame : Frame) : Except PyError Unit :=
  if schema.requiredColumns.all (· ∈ frame.columns) then .ok () else .error .other

def outputColumns (schema : TableSchema) (columns fields : List PyString) : List PyString :=
  let identity : List PyString := ["ts_code", "end_date", "ann_date"]
  let identity := if schema.pointInTimeColumn ∈ columns then
      identity ++ [schema.pointInTimeColumn] else identity
  (identity ++ fields).dedup.filter (· ∈ columns)

-- The column that dates the rows of a frame.
def pitColumnOf (schema : TableSchema) (columns : List PyString) (rows : List Row) : PyString :=
  if schema.pointInTimeColumn ∉ columns ∨ rows.all (fun row => (row schema.pointInTimeColumn).isna) then
    "ann_date"
  else schema.pointInTimeColumn

-- pit_values.where(pit_values.notna(), rows["ann_date"])
def pitValue (pitColumn : PyString) (columns : List PyString) (row : Row) : Cell :=
  if pitColumn ≠ "ann_date" ∧ ("ann_date" : PyString) ∈ columns ∧ (row pitColumn).isna then
    row "ann_date"
  else row pitColumn

-- Each row with the date from which it is known, none for NaT.
def datedRows (pitColumn : PyString) (columns : List PyString) (rows : List Row) :
    Except PyError (List (Row × Option Int)) :=
  rows.mapM fun row => do
    let day ← parseTushareDate pandas (pitValue pitColumn columns row)
    .ok (row, day)

-- A missing cell sorts last.
def rankOf (cell : Cell) : WithTop Rank :=
  if cell.isna then ⊤ else pandas.rank cell

def queryKey (row : Row) : WithTop Rank ×ₗ WithTop Rank :=
  toLex (rankOf pandas (row "ts_code"), rankOf pandas (row "end_date"))

def fetchFrames (api : FundamentalApi) (schema : TableSchema) (codes : List PyString) :
    Except PyError (List Frame) := do
  let answers ← codes.mapM (api.answer schema.apiName)
  .ok (answers.filterMap fun frame => frame.filter fun frame => ! frame.isEmpty)

variable [LinearOrder Rank]

def queryFundamentals (api : FundamentalApi) (table : PyString) (codes : List PyString)
    (asOfDate : Cell) (periods fields : List PyString) : Except PyError Frame := do
  let schema ← describeTable table
  if ! api.hasMethod schema.apiName then .error .other
  else do
    let frames ← fetchFrames api schema codes
    if frames.isEmpty then
      .ok ⟨outputColumns schema (schema.columns.map (·.name)) fields, []⟩
    else do
      let result := concat frames
      validateSchema schema result
      let rows := result.rows.filter fun row =>
        periods.isEmpty || cellText pandas (row "end_date") ∈ periods
      let pitColumn := pitColumnOf schema result.columns rows
      let asOfDay ← parseTushareDate pandas asOfDate
      let dated ← datedRows pandas pitColumn result.columns rows
      let known := dated.filter fun entry =>
        match entry.2, asOfDay with
        | some day, some asOfDay => day ≤ asOfDay
        | _, _ => false
      let columns := outputColumns schema result.columns fields
      .ok ⟨columns, sortBy (queryKey pandas) (known.map fun entry => entry.1.restrict columns)⟩

end Query

section Enrich

variable {Prices : Type}

structure Bar (Prices : Type) where
  tradeDate : Int
  prices : Prices

-- A bar with the row that was merged to it for each table that has been merged.
structure EnrichedBar (Prices : Type) where
  bar : Bar Prices
  merged : List (PyString × Option Row) := []

def EnrichedBar.row (enriched : EnrichedBar Prices) (table : PyString) : Option Row :=
  (enriched.merged.lookup table).join

abbrev EnrichedMap (Prices : Type) := List (PyString × List (EnrichedBar Prices))

-- pd.merge_asof(left, right, direction="backward")
def mergeAsOf (table : PyString) (right : List (Row × Int)) (enriched : EnrichedBar Prices) :
    EnrichedBar Prices :=
  { enriched with
    merged := enriched.merged ++
      [(table, (asOf Prod.snd enriched.bar.tradeDate right).map fun entry => entry.1)] }

variable {Rank : Type} [LinearOrder Rank] (pandas : Pandas Rank)

-- The columns that are not merged.
def keyColumns : List PyString := ["ts_code", "_pit_date"]

def enrichFrame (schema : TableSchema) (fundamentals : Frame) (code : PyString)
    (frame : List (EnrichedBar Prices)) : Except PyError (List (EnrichedBar Prices)) := do
  let pitColumn := pitColumnOf schema fundamentals.columns fundamentals.rows
  let rows := fundamentals.rows.filter fun row => (row "ts_code").isText code
  if rows.isEmpty || frame.isEmpty then .ok frame
  else do
    let dated ← datedRows pandas pitColumn fundamentals.columns rows
    let dated := sortBy Prod.snd (dated.filterMap fun entry => entry.2.map fun day => (entry.1, day))
    if dated.isEmpty then .ok frame
    else
      let valueColumns := fundamentals.columns.filter (· ∉ keyColumns)
      let right := dated.map fun entry => (entry.1.restrict valueColumns, entry.2)
      .ok (frame.map (mergeAsOf schema.name (sortBy Prod.snd right)))

def enrichTable (api : FundamentalApi) (asOfDate : Cell) (periods codes : List PyString)
    (enriched : EnrichedMap Prices) (entry : PyString × List PyString) :
    Except PyError (EnrichedMap Prices) := do
  let fundamentals ← queryFundamentals pandas api entry.1 codes asOfDate periods entry.2
  if fundamentals.isEmpty then .ok enriched
  else do
    let schema ← describeTable entry.1
    enriched.mapM fun item => do
      let frame ← enrichFrame pandas schema fundamentals item.1 item.2
      .ok (item.1, frame)

-- enrich_price_frames_with_fundamentals
def enrichWithFundamentals (api : FundamentalApi) (dataMap : List (PyString × List (Bar Prices)))
    (fieldsByTable : List (PyString × List PyString)) (asOfDate : Cell) (periods : List PyString) :
    Except PyError (EnrichedMap Prices) :=
  let enriched := dataMap.map fun entry => (entry.1, entry.2.map fun bar => { bar })
  if dataMap.isEmpty || fieldsByTable.isEmpty then .ok enriched
  else fieldsByTable.foldlM (enrichTable pandas api asOfDate periods (dataMap.map Prod.fst)) enriched

end Enrich

end SynapseYield.Backtest.Fundamentals
