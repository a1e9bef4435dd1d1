import SynapseYield.Shared.Format
import SynapseYield.Shared.Lines

set_option autoImplicit false

namespace SynapseYield.Tools.ReportAudit

open Shared JsonText Lines

def bar : CodePoint := 0x7C

section Text

-- text.strip(characters)
def stripChars (characters : List CodePoint) (text : Text) : Text :=
  ((text.dropWhile characters.contains).reverse.dropWhile characters.contains).reverse

-- _TABLE_SEP_RE
def isSeparatorChar (c : CodePoint) : Bool := c = 0x2D || c = bar || isWhitespace c || c = 0x3A

def isSeparator (line : Text) : Bool :=
  3 ≤ line.length && line.head? = some bar && line.getLast? = some bar && line.all isSeparatorChar

-- *, _ and, in a cell, ~
def emphasis : List CodePoint := [0x2A, 0x5F]

def cellEmphasis : List CodePoint := [0x2A, 0x5F, 0x7E]

def cleaned (marks : List CodePoint) (piece : Text) : Text :=
  strip (stripChars marks (strip piece))

-- The pieces between the bars that are not empty when they are cleaned
def pieces (marks : List CodePoint) (line : Text) : List Text :=
  ((line.splitOn bar).map (cleaned marks)).filter (· ≠ [])

def textOf (text : String) : Text := (PyString.ofString text).points

end Text

section Numbers

-- isDecimal: what \d takes beyond ASCII.
variable [PyText] (isDecimal : CodePoint → Bool)

def isDigit (c : CodePoint) : Bool := if c.val < 128 then Ascii.isDigit c else isDecimal c

-- [\d,，.]
def isNumberChar (c : CodePoint) : Bool :=
  isDigit isDecimal c || c = 0x2C || c = 0xFF0C || c = 0x2E

-- 亿[元美港]?元?|万亿|[xX倍]|%|[BMT]: the unit at the beginning of the text, and what follows it
def scanUnit : Text → Text × Text
  | 0x4EBF :: rest =>
    let (first, rest) := match rest with
      | c :: more => if c = 0x5143 ∨ c = 0x7F8E ∨ c = 0x6E2F then ([c], more) else ([], rest)
      | [] => ([], rest)
    let (second, rest) := match rest with
      | 0x5143 :: more => ([(0x5143 : CodePoint)], more)
      | rest => ([], rest)
    (0x4EBF :: first ++ second, rest)
  | 0x4E07 :: 0x4EBF :: rest => ([0x4E07, 0x4EBF], rest)
  | c :: rest => if c ∈ textOf "xX倍%BMT" then ([c], rest) else ([], c :: rest)
  | [] => ([], [])

-- ([\d,，.]+)\s*(unit)?, from its first character on
def scanNumber (text : Text) : Text × Text × Text :=
  (text.takeWhile (isNumberChar isDecimal),
    scanUnit ((text.dropWhile (isNumberChar isDecimal)).dropWhile isWhitespace))

-- _clean_num
def cleanNum (digits : Text) : Option Number :=
  PyString.parseFloat ⟨strip (digits.filter fun c => c ≠ 0x2C ∧ c ≠ 0xFF0C)⟩

def tenTo15 : Number := .finite (10 ^ 15)

-- The number and the unit of the first match of _NUMUNIT_RE, where the table keeps it
def cellNumber (cell : Text) : Option (Number × Text) :=
  match cell.dropWhile fun c => ! isNumberChar isDecimal c with
  | [] => none
  | text =>
    let (digits, unit, _) := scanNumber isDecimal text
    match cleanNum digits with
    | some val => if val ≠ 0 ∧ val < tenTo15 then some (val, unit) else none
    | none => none

structure TableValue where
  rowLabel : Text
  colHeader : Text
  value : Number
  unit : Text
  lineno : Nat
  raw : Text
deriving DecidableEq

def colHeader (headers : List Text) (colIdx : Nat) : Text :=
  headers.getD colIdx (textOf "col" ++ decimal colIdx)

def cellValues (headers : List Text) (lineno : Nat) (dline rowLabel : Text) (cells : List Text) :
    List TableValue :=
  (cells.zipIdx 1).filterMap fun cell => (cellNumber isDecimal cell.1).map fun number =>
    ⟨rowLabel, colHeader headers cell.2, number.1, number.2, lineno, dline⟩

def rowValues (headers : List Text) (lineno : Nat) (dline : Text) : List TableValue :=
  match pieces cellEmphasis dline with
  | rowLabel :: cells => cellValues isDecimal headers lineno dline rowLabel cells
  | [] => []

def isRow (dline : Text) : Bool := dline ≠ [] && dline.head? = some bar

-- Where the scanner stands: before a table, at its separator, or among its rows.
inductive Place where
  | outside
  | separator (headers : List Text)
  | rows (headers : List Text)

-- What the outer loop makes of a line, with the lines after it
def outerPlace (line : Text) (rest : List Text) : Place :=
  if bar ∈ line ∧ ! isSeparator line ∧ (rest.head?.any fun next => isSeparator (strip next)) then
    .separator (pieces emphasis line)
  else .outside

def scanTables : Place → Nat → List Text → List TableValue
  | _, _, [] => []
  | .outside, lineno, line :: rest =>
    scanTables (outerPlace (strip line) rest) (lineno + 1) rest
  | .separator headers, lineno, _ :: rest => scanTables (.rows headers) (lineno + 1) rest
  | .rows headers, lineno, line :: rest =>
    if isRow (strip line) then
      rowValues isDecimal headers lineno (strip line) ++
        scanTables (.rows headers) (lineno + 1) rest
    else scanTables (outerPlace (strip line) rest) (lineno + 1) rest

def parseMdTables (lines : List Text) : List TableValue := scanTables isDecimal .outside 1 lines

end Numbers

section Labels

variable [PyText] (isDecimal : CodePoint → Bool)

def skipLabels : List PyString :=
  ["来源", "sources", "source", "说明", "注意", "备注", "数据来源", "n/a", "—", "-", "/", "合计", "total",
    "单位", "趋势"]

def yoyHeaders : List PyString := ["YOY", "YOY增速", "增速", "同比", "变化", "趋势", "说明", "备注"]

-- [\d\s年季度Q]+
def isPeriod (label : Text) : Bool :=
  label.all fun c => isDigit isDecimal c || isWhitespace c || c ∈ textOf "年季度Q"

-- \d+
def isDigits (text : Text) : Bool := text ≠ [] && text.all (isDigit isDecimal)

-- [+-]?\d+(\.\d+)?%
def isPercentage (label : Text) : Bool :=
  let unsigned := match label with
    | 0x2B :: rest => rest
    | 0x2D :: rest => rest
    | label => label
  unsigned.getLast? = some 0x25 &&
    match Ascii.cut 0x2E unsigned.dropLast with
    | (whole, some fraction) => isDigits isDecimal whole && isDigits isDecimal fraction
    | (whole, none) => isDigits isDecimal whole

-- part in text
def has (part text : Text) : Bool := text.tails.any part.isPrefixOf

def isValidLabel (label : Text) : Bool :=
  let label := strip label
  2 ≤ label.length && ! isPeriod isDecimal label &&
    ! (label.head?.any fun c => c ∈ textOf "+-*#|~$>_`") &&
    ! has (textOf "**") label && ! (0x60 ∈ label : Bool) && ! has (textOf "__") label &&
    ! isPercentage isDecimal label && (⟨label⟩ : PyString).lower ∉ skipLabels

-- 20\d{2}|Q[1-4]|\d{4}\s*Q[1-4]
def isQuarter (label : Text) : Bool :=
  let quarter (text : Text) : Bool := match text with
    | [0x51, c] => c ∈ textOf "1234"
    | _ => false
  (label.length = 4 && label.take 2 = textOf "20" && (label.drop 2).all (isDigit isDecimal)) ||
    quarter label || (4 ≤ label.length && (label.take 4).all (isDigit isDecimal) &&
      quarter ((label.drop 4).dropWhile isWhitespace))

structure Point where
  id : Nat
  label : Text
  reportedValue : Number
  unit : Text
  rawText : Text
  lineNumber : Nat
deriving DecidableEq

structure Extraction where
  points : List Point
  -- The keys: no part of one holds the bar that they are joined with.
  seen : List (Text × Number × Text)

-- round(val, 4)
def round4 : Number → Number
  | .finite x => .finite (roundTo 4 x)
  | val => val

def add (state : Extraction) (label : Text) (val : Option Number) (unit : Text) (lineno : Nat)
    (raw : Text) : Extraction :=
  let label := strip (label.filter fun c => c ∉ textOf "*_`")
  match val with
  | none => state
  | some val =>
    if ! isValidLabel isDecimal label || val = 0 || tenTo15 < val || isQuarter isDecimal label then state
    else if (label, round4 val, unit) ∈ state.seen then state
    else
      { points := state.points ++ [⟨state.points.length + 1, label, val, unit, raw.take 120, lineno⟩]
        seen := (label, round4 val, unit) :: state.seen }

-- {row_label} · {col_header}
def metric (rowLabel colHeader : Text) : Text :=
  if colHeader ≠ [] ∧ colHeader ≠ rowLabel then rowLabel ++ textOf " · " ++ colHeader else rowLabel

def addTableValue (state : Extraction) (value : TableValue) : Extraction :=
  if ! isValidLabel isDecimal value.rowLabel then state
  else if (⟨value.colHeader⟩ : PyString).upper ∈ yoyHeaders then state
  else add isDecimal state (metric value.rowLabel value.colHeader) (some value.value) value.unit
    value.lineno value.raw

-- [一-龥A-Za-z]
def startsLabel (c : CodePoint) : Bool :=
  (0x4E00 ≤ c.val && c.val ≤ 0x9FA5) || Ascii.isUpper c || Ascii.isLower c

-- [^|\n：:*]
def isLabelChar (c : CodePoint) : Bool :=
  c ≠ bar && c ≠ newline && c ≠ 0xFF1A && c ≠ 0x3A && c ≠ 0x2A

-- _KV_LABEL_RE at the beginning of the text: the label, the number, the unit, and what follows
def matchKv : Text → Option (Text × Text × Text × Text)
  | [] => none
  | first :: rest =>
    let label := rest.takeWhile isLabelChar
    match rest.dropWhile isLabelChar with
    | colon :: after =>
      if startsLabel first ∧ 1 ≤ label.length ∧ label.length ≤ 30 ∧
          (colon = 0x3A ∨ colon = 0xFF1A) then
        let after := after.dropWhile isWhitespace
        let after := match after with
          | c :: more => if c = 0x7E ∨ c = 0x7EA6 then more else after
          | [] => after
        let after := match after with
          | 0x24 :: more => more
          | after => after
        let (num, unit, after) := scanNumber isDecimal after
        if num = [] then none else some (first :: label, num, unit, after)
      else none
    | [] => none

-- _KV_LABEL_RE.finditer
def kvMatches : Nat → Text → List (Text × Text × Text)
  | 0, _ => []
  | _, [] => []
  | fuel + 1, c :: rest =>
    match matchKv isDecimal (c :: rest) with
    | some (label, num, unit, after) => (label, num, unit) :: kvMatches fuel after
    | none => kvMatches fuel rest

-- ^#{1,6}\s
def isHeading (line : Text) : Bool :=
  let rest := line.dropWhile (· = 0x23)
  let marks := line.length - rest.length
  1 ≤ marks && marks ≤ 6 && rest.head?.any isWhitespace

def addKvLine (state : Extraction × Bool) (line : Text × Nat) : Extraction × Bool :=
  let stripped := strip line.1
  let (points, inCode) := state
  if (textOf "```").isPrefixOf stripped then (points, ! inCode)
  else if inCode || (textOf "> ").isPrefixOf stripped || isHeading stripped || bar ∈ stripped then
    state
  else
    ((kvMatches isDecimal stripped.length stripped).foldl (fun points found =>
      add isDecimal points found.1 (cleanNum found.2.1) (strip found.2.2) line.2 stripped) points,
      inCode)

def extractDataPoints (mdText : Text) : List Point :=
  let lines := mdText.splitOn newline
  let tabled := (parseMdTables isDecimal lines).foldl (addTableValue isDecimal) ⟨[], []⟩
  ((lines.zipIdx 1).foldl (addKvLine isDecimal) (tabled, false)).1.points

end Labels

end SynapseYield.Tools.ReportAudit
