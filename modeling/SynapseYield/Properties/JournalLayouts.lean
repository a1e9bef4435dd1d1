import SynapseYield.Shared.Padding
import SynapseYield.Tools.JournalParsers

set_option autoImplicit false

namespace SynapseYield.Tools.JournalParsers

open Shared
open SynapseYield.Backtest (zfill)

section Statements

inductive Side where
  | buy
  | sell
deriving DecidableEq

def Side.text : Side → PyString
  | .buy => "buy"
  | .sell => "sell"

structure Clean (text : PyString) : Prop where
  nonempty : text.points ≠ []
  starts : ∀ c, text.points.head? = some c → Lines.isWhitespace c = false
  ends : ∀ c, text.points.getLast? = some c → Lines.isWhitespace c = false

structure Trade where
  date : PyString
  time : PyString
  symbol : PyString
  side : Side
  quantity : Number
  price : Number
  amount : Number
  commission : Number
  stamp : Number
  transfer : Number
  platform : Number
  dated : Clean date
  timed : Clean time

def isLetter (c : CodePoint) : Bool := Ascii.isUpper c || Ascii.isLower c

-- A token of Latin letters is a word only with no letter beside it.
def SellWord (text : PyString) : Prop :=
  ∃ token ∈ sellTokens, ∃ front rest, text.points = front ++ token.points ++ rest ∧
    (token.points.all isLetter = true →
      front.getLast?.any isLetter = false ∧ rest.head?.any isLetter = false)

def Means : Side → PyString → Prop
  | .buy, text => (∃ token ∈ buyTokens, contains text token = true) ∧ ¬ SellWord text
  | .sell, text => SellWord text

def digitsOf (count : Nat) (text : List CodePoint) : Prop :=
  text.length = count ∧ text.all Ascii.isDigit = true

section Cells

variable [PyText]

def sideText (cell : PyString) : PyString := (strip cell).lower

def writesSide (trade : Trade) (cell : PyString) : Prop := Means trade.side (sideText cell)

def writesDate (trade : Trade) (cell : PyString) : Prop := strip cell = trade.date

def writesTime (trade : Trade) (cell : PyString) : Prop := strip cell = trade.time

def writesInstant (trade : Trade) (cell : PyString) : Prop :=
  strip cell = join trade.date trade.time

def writesCompact (trade : Trade) (cell : PyString) : Prop :=
  ∃ year month day, digitsOf 4 year ∧ digitsOf 2 month ∧ digitsOf 2 day ∧
    (strip cell).points = year ++ month ++ day ∧
    trade.date.points = year ++ [45] ++ month ++ [45] ++ day

def writesSymbol (trade : Trade) (cell : PyString) : Prop := strip cell = trade.symbol

-- The code of six digits, or what is left of it without its first zeros
def writesCode (trade : Trade) (cell : PyString) : Prop :=
  digitsOf 6 trade.symbol.points ∧ ∃ zeros, trade.symbol.points =
    List.replicate zeros 48 ++ (strip cell).points

def writesNumber (number : Trade → Number) (trade : Trade) (cell : PyString) : Prop :=
  let digits := strip ⟨cell.points.filter (· ≠ 44)⟩
  digits ≠ "" ∧ digits.parseFloat = some (number trade)

def writesAny (_ : Trade) (_ : PyString) : Prop := True

end Cells

-- The columns of a generic journal: the instant is in one column, or the date and the time are in
-- two.
inductive Field where
  | instant
  | date
  | time
  | symbol
  | name
  | side
  | quantity
  | price
  | amount
  | fee
deriving DecidableEq

def Field.aliases : Field → List PyString
  | .instant => ["datetime", "time"]
  | .date => ["date"]
  | .time => ["time"]
  | .symbol => ["symbol", "ticker", "code"]
  | .name => ["name"]
  | .side => ["side", "direction"]
  | .quantity => ["quantity", "qty", "size"]
  | .price => ["price"]
  | .amount => ["amount", "value", "notional"]
  | .fee => ["fee", "commission"]

structure Headers where
  split : Bool
  header : Field → PyString
  -- In any case of the letters
  documented : ∀ field, Ascii.lower (header field) ∈ field.aliases

def Headers.fields (headers : Headers) : List Field :=
  (if headers.split then [.date, .time] else [.instant]) ++
    [.symbol, .name, .side, .quantity, .price, .amount, .fee]

inductive Layout where
  | tonghuashun
  | eastmoney
  | futu (market : Bool)
  | generic (headers : Headers)

-- ISO code of the exchange after a code of six digits
def exchangeSymbol (code : PyString) : PyString :=
  if code.points.head? = some 54 then code ++ ".SH"
  else if code.points.head? = some 48 ∨ code.points.head? = some 51 then code ++ ".SZ"
  else if code.points.head? = some 52 ∨ code.points.head? = some 56 then code ++ ".BJ"
  else code

section Layouts

variable [PyText] (tables : CharTables)

def Field.writes : Field → Trade → PyString → Prop
  | .instant => writesInstant
  | .date => writesDate
  | .time => writesTime
  | .symbol => writesSymbol
  | .name => writesAny
  | .side => writesSide
  | .quantity => writesNumber Trade.quantity
  | .price => writesNumber Trade.price
  | .amount => writesNumber Trade.amount
  | .fee => writesNumber Trade.commission

abbrev Column := PyString × (Trade → PyString → Prop)

def futuColumns : List Column :=
  [("Date", writesDate), ("Time", writesTime), ("Symbol", writesSymbol), ("Name", writesAny),
    ("Side", writesSide), ("Quantity", writesNumber Trade.quantity),
    ("Price", writesNumber Trade.price), ("Amount", writesNumber Trade.amount),
    ("Commission", writesNumber Trade.commission),
    ("Platform Fee", writesNumber Trade.platform)]

def Layout.columns : Layout → List Column
  | .tonghuashun =>
    [("成交时间", writesInstant), ("证券代码", writesCode), ("证券名称", writesAny), ("操作", writesSide),
      ("成交数量", writesNumber Trade.quantity), ("成交价格", writesNumber Trade.price),
      ("成交金额", writesNumber Trade.amount), ("手续费", writesNumber Trade.commission),
      ("印花税", writesNumber Trade.stamp), ("过户费", writesNumber Trade.transfer)]
  | .eastmoney =>
    [("成交日期", writesCompact), ("成交时间", writesTime), ("股票代码", writesCode),
      ("股票名称", writesAny), ("买卖标志", writesSide), ("成交数量", writesNumber Trade.quantity),
      ("成交均价", writesNumber Trade.price), ("成交金额", writesNumber Trade.amount),
      ("佣金", writesNumber Trade.commission), ("印花税", writesNumber Trade.stamp)]
  | .futu market =>
    futuColumns ++ if market then [(("Market" : PyString), writesAny)] else []
  | .generic headers => headers.fields.map fun field => (headers.header field, field.writes)

def Layout.symbol (layout : Layout) (trade : Trade) : PyString :=
  match layout with
  | .tonghuashun => exchangeSymbol trade.symbol
  | .eastmoney => exchangeSymbol trade.symbol
  | .futu _ => trade.symbol.upper
  | .generic _ => trade.symbol.upper

def Layout.fee (layout : Layout) (trade : Trade) : Number :=
  match layout with
  | .tonghuashun => trade.commission + trade.stamp + trade.transfer
  | .eastmoney => trade.commission + trade.stamp
  | .futu _ => trade.commission + trade.platform
  | .generic _ => trade.commission

structure Layout.Carries (layout : Layout) (trade : Trade) (record : TradeRecord) : Prop where
  datetime : record.datetime = join trade.date trade.time
  symbol : record.symbol = layout.symbol trade
  side : record.side = trade.side.text
  quantity : record.quantity = trade.quantity
  price : record.price = trade.price
  amount : record.amount = trade.amount
  fee : record.fee = layout.fee trade

def Layout.WroteRow (layout : Layout) (trade : Trade) (row : Row) : Prop :=
  ∀ column ∈ layout.columns, ∃ cell, row.get column.1 = some (some cell) ∧ column.2 trade cell

-- The trades are written out in the layout, with its columns in any order.
structure Layout.Wrote (layout : Layout) (trades : List Trade) (df : DataFrame) : Prop where
  columns : df.columns.Perm (layout.columns.map Prod.fst)
  rows : List.Forall₂ (fun trade row => layout.WroteRow trade (df.columns.zip row)) trades df.rows

def Layout.Decodes (layout : Layout) (trades : List Trade) (df : DataFrame) : Prop :=
  ∃ format records, parseFile tables df = some (format, records) ∧
    List.Forall₂ layout.Carries trades records

def Layout.sideHeader : Layout → PyString
  | .tonghuashun => "操作"
  | .eastmoney => "买卖标志"
  | .futu _ => "Side"
  | .generic headers => headers.header .side

-- The generic headers that are taken for those of the broker
def Headers.Futu (headers : Headers) : Prop :=
  headers.split = true ∧ headers.header .date = "Date" ∧ headers.header .symbol = "Symbol" ∧
    (headers.header .side = "Side" ∨ headers.header .side = "Direction")

-- Nothing is under a header that the broker does not use.
structure Headers.Fits (headers : Headers) (trade : Trade) : Prop where
  futu : headers.Futu
  time : headers.header .time = "Time"
  quantity : headers.header .quantity = "Quantity" ∨ trade.quantity = 0
  price : headers.header .price = "Price" ∨ trade.price = 0
  amount : headers.header .amount = "Amount" ∧ trade.amount ≠ 0 ∨
    trade.quantity * trade.price = trade.amount
  fee : headers.header .fee = "Commission" ∨ trade.commission = 0

-- An amount of zero is read as one that is missing.
def Trade.Amounted (trade : Trade) : Prop :=
  trade.amount = 0 → trade.quantity * trade.price = 0

-- No cell of a buy has the letter s.
def Layout.Plain (layout : Layout) (trade : Trade) (row : Row) : Prop :=
  trade.side = .buy → ∀ cell, row.get layout.sideHeader = some (some cell) →
    115 ∉ (sideText cell).points

def Layout.Readable (layout : Layout) (trade : Trade) : Prop :=
  match layout with
  | .generic headers =>
    if headers.split = true then headers.Fits trade else trade.Amounted
  | _ => trade.Amounted

end Layouts

end Statements

section Cells

variable [PyText] {trade : Trade} {cell : PyString} {side : Side} {x : Number} {row : Row}

omit [PyText] in
theorem Clean.strip {text : PyString} (clean : Clean text) : strip text = text := by
  rw [JournalParsers.strip, Lines.strip_solid clean.starts clean.ends]

omit [PyText] in
theorem join_clean {date time : PyString} (dated : Clean date) (timed : Clean time) :
    Clean (join date time) := by
  have split : (join date time).points = date.points ++ 32 :: time.points :=
    List.append_assoc date.points [32] time.points
  refine ⟨?_, ?_, ?_⟩
  · rw [split]
    exact List.append_ne_nil_of_left_ne_nil dated.nonempty _
  · rw [split, List.head?_append_of_ne_nil _ dated.nonempty]
    exact dated.starts
  · rw [split, List.getLast?_append_of_ne_nil _ (List.cons_ne_nil _ _),
      List.getLast?_cons_of_ne_nil timed.nonempty]
    exact timed.ends

omit [PyText] in
theorem join_length {date time : PyString} :
    (join date time).points.length = date.points.length + 1 + time.points.length := by
  rw [join, show (date ++ " " ++ time).points = date.points ++ [32] ++ time.points from rfl,
    List.length_append, List.length_append, List.length_singleton]

omit [PyText] in
theorem join_ne_right {date : PyString} (time : PyString) : time ≠ join date time := by
  intro same
  have length := congrArg (fun text => text.points.length) same
  rw [join_length] at length
  omega

omit [PyText] in
theorem sellTokens_letter : ∀ token ∈ sellTokens, token.points.all isLetter = true →
    115 ∈ token.points := by
  decide

theorem normalizeSide_eq (cell : PyString) : normalizeSide (some (some cell)) =
    if ∃ token ∈ sellTokens, contains (sideText cell) token = true then ("sell" : PyString)
    else "buy" := by
  have known : textOr "None" (some (some cell)) = strip cell := rfl
  have within : (sideText cell ∈ sellTokens ∨ sellTokens.any (contains (sideText cell)) = true) ↔
      ∃ token ∈ sellTokens, contains (sideText cell) token = true := by
    rw [List.any_eq_true]
    refine ⟨?_, .inr⟩
    rintro (member | given)
    · exact ⟨_, member, decide_eq_true (List.infix_refl _)⟩
    · exact given
  rw [normalizeSide, known]
  exact if_congr within rfl rfl

omit [PyText] in
theorem contains_iff {text part : PyString} :
    contains text part = true ↔ ∃ front rest, text.points = front ++ part.points ++ rest := by
  rw [contains, decide_eq_true_eq]
  constructor
  · rintro ⟨front, rest, same⟩
    exact ⟨front, rest, same.symm⟩
  · rintro ⟨front, rest, same⟩
    exact ⟨front, rest, same.symm⟩

theorem side_iff (means : Means side (sideText cell)) :
    normalizeSide (some (some cell)) = side.text ↔
      (side = .buy → 115 ∉ (sideText cell).points) := by
  rw [normalizeSide_eq]
  cases side with
  | sell =>
    obtain ⟨token, listed, front, rest, same, -⟩ := means
    rw [if_pos ⟨token, listed, contains_iff.mpr ⟨front, rest, same⟩⟩]
    simp [Side.text]
  | buy =>
    have read : (∃ token ∈ sellTokens, contains (sideText cell) token = true) ↔
        115 ∈ (sideText cell).points := by
      constructor
      · rintro ⟨token, listed, inside⟩
        obtain ⟨front, rest, same⟩ := contains_iff.mp inside
        have latin : token.points.all isLetter = true := by
          by_contra other
          exact means.2 ⟨token, listed, front, rest, same, fun all => absurd all other⟩
        have letter := sellTokens_letter token listed latin
        rw [same]
        exact List.mem_append_left _ (List.mem_append_right _ letter)
      · intro member
        obtain ⟨front, rest, same⟩ := List.append_of_mem member
        refine ⟨"s", by decide, contains_iff.mpr ⟨front, rest, ?_⟩⟩
        rw [same, List.append_assoc]
        rfl
    split
    next given =>
      have letter := read.mp given
      simp only [Side.text, forall_const]
      exact iff_of_false (by decide) (fun plain => plain letter)
    next none =>
      exact iff_of_true rfl fun _ letter => none (read.mpr letter)

theorem toFloat_written {number : Trade → Number} (writes : writesNumber number trade cell) :
    toFloat (some (some cell)) = number trade := by
  obtain ⟨filled, parsed⟩ := writes
  have known : cellText (some cell) = cell := rfl
  rw [toFloat, known, if_neg filled, parsed]
  rfl

omit [PyText] in
theorem digits_plain {text : List CodePoint} (digits : text.all Ascii.isDigit = true) :
    46 ∉ text := fun member => absurd (List.all_eq_true.mp digits 46 member) (by decide)

omit [PyText] in
theorem zfill_code {zeros : Nat} {code : PyString} (sized : digitsOf 6 code.points)
    (same : code.points = List.replicate zeros 48 ++ cell.points) : zfill 6 cell = code := by
  have length := congrArg List.length same
  rw [sized.1, List.length_append, List.length_replicate] at length
  have missing : 6 - cell.points.length = zeros := by omega
  have whole : code = ⟨List.replicate zeros 48 ++ cell.points⟩ := by rw [← same]
  have digits : ∀ c ∈ cell.points, Ascii.isDigit c = true := fun c member =>
    List.all_eq_true.mp sized.2 c (same ▸ List.mem_append_right _ member)
  rw [zfill, missing, whole]
  split
  next empty => rw [empty, List.append_nil]
  next c rest given =>
    have digit := digits c (given ▸ List.mem_cons_self)
    rw [if_neg, given]
    rintro (rfl | rfl)
    · exact absurd digit (by decide)
    · exact absurd digit (by decide)

omit [PyText] in
theorem exchange_found (c : CodePoint) (code : PyString) (first : code.points.head? = some c) :
    (match aShareExchangeMap.find? fun entry => decide (c ∈ entry.1) with
      | some (_, suffix) => code ++ suffix
      | none => code) = exchangeSymbol code := by
  rw [exchangeSymbol, first]
  simp only [aShareExchangeMap, List.find?_cons, List.mem_cons, List.not_mem_nil, or_false,
    Option.some.injEq, List.find?_nil]
  by_cases shanghai : c = 54
  · simp [shanghai]
  · by_cases shenzhen : c = 48 ∨ c = 51
    · simp [shanghai, shenzhen]
    · by_cases beijing : c = 52 ∨ c = 56
      · simp [shanghai, shenzhen, beijing]
      · simp [shanghai, shenzhen, beijing]

theorem qualifyAShare_written (writes : writesCode trade cell) :
    qualifyAShare (some (some cell)) = exchangeSymbol trade.symbol := by
  obtain ⟨sized, zeros, same⟩ := writes
  have known : textOr "" (some (some cell)) = strip cell := rfl
  obtain ⟨c, rest, given⟩ := List.exists_cons_of_length_pos (sized.1 ▸ (by decide : 0 < 6))
  have first : trade.symbol.points.head? = some c := by rw [given]; rfl
  rw [qualifyAShare, known, zfill_code sized same, if_neg (digits_plain sized.2), first,
    Option.bind_some]
  exact exchange_found c _ first

omit [PyText] in
theorem isoDate_written (tables : CharTables) (writes : writesCompact trade cell) :
    isoDate tables (strip cell) = trade.date := by
  obtain ⟨year, month, day, ⟨four, year'⟩, ⟨two, month'⟩, ⟨two', day'⟩, same, iso⟩ := writes
  have length : (strip cell).points.length = 8 := by
    rw [same, List.length_append, List.length_append, four, two, two']
  have digits : isdigit tables (strip cell) = true := by
    rw [isdigit, Bool.and_eq_true]
    constructor
    · rw [Bool.not_eq_true', List.isEmpty_eq_false_iff]
      intro empty
      rw [empty] at length
      cases length
    · refine List.all_eq_true.mpr fun c member => ?_
      have digit : Ascii.isDigit c = true := by
        rw [same, List.mem_append, List.mem_append] at member
        rcases member with (within | within) | within
        · exact List.all_eq_true.mp year' c within
        · exact List.all_eq_true.mp month' c within
        · exact List.all_eq_true.mp day' c within
      have range : 48 ≤ c.val ∧ c.val ≤ 57 := by
        simpa only [Ascii.isDigit, Bool.and_eq_true, decide_eq_true_eq] using digit
      rw [if_pos (by omega), digit]
  have first : (strip cell).points.take 4 = year := by
    rw [same, List.append_assoc, List.take_left' four]
  have later : (strip cell).points.drop 4 = month ++ day := by
    rw [same, List.append_assoc, List.drop_left' four]
  have last : (strip cell).points.drop 6 = day := by
    rw [same, List.drop_left' (by rw [List.length_append, four, two])]
  rw [isoDate, if_pos ⟨length, digits⟩, first, later, last, List.take_left' two, ← iso]

end Cells

section Forall

variable {α β : Type} {P R S : α → β → Prop} {xs : List α} {ys : List β}

theorem forall₂_iff (given : List.Forall₂ P xs ys) (alike : ∀ x y, P x y → (R x y ↔ S x y)) :
    List.Forall₂ R xs ys ↔ List.Forall₂ S xs ys := by
  induction given with
  | nil => exact iff_of_true .nil .nil
  | cons first later ih =>
    rw [List.forall₂_cons, List.forall₂_cons, alike _ _ first, ih]

end Forall

section Layouts

variable [PyText] {tables : CharTables} {trade : Trade} {cell : PyString} {row : Row}
  {layout : Layout} {record : TradeRecord} {header : PyString}

omit [PyText] in
theorem orElse_iff {product : Number} (x : Number) :
    orElse x product = x ↔ (x = 0 → product = 0) := by
  rw [orElse]
  split
  next zero => simp [zero]
  next other => simp [other]

theorem wrote_at {writes : Trade → PyString → Prop} (wrote : layout.WroteRow trade row)
    (listed : (header, writes) ∈ layout.columns) :
    ∃ cell, row.get header = some (some cell) ∧ writes trade cell := wrote _ listed

theorem side_read (wrote : layout.WroteRow trade row)
    (listed : (layout.sideHeader, writesSide) ∈ layout.columns) :
    normalizeSide (row.get layout.sideHeader) = trade.side.text ↔ layout.Plain trade row := by
  obtain ⟨cell, found, means⟩ := wrote_at wrote listed
  rw [found, side_iff means]
  constructor
  · intro plain buy cell' found'
    rw [found] at found'
    obtain rfl := Option.some.inj (Option.some.inj found')
    exact plain buy
  · exact fun plain buy => plain buy cell found

theorem number_read {number : Trade → Number} (wrote : layout.WroteRow trade row)
    (listed : (header, writesNumber number) ∈ layout.columns) :
    toFloat (row.get header) = number trade := by
  obtain ⟨cell, found, writes⟩ := wrote_at wrote listed
  rw [found, toFloat_written writes]

theorem carries_iff (listed : (layout.sideHeader, writesSide) ∈ layout.columns)
    (wrote : layout.WroteRow trade row)
    (datetime : record.datetime = join trade.date trade.time)
    (symbol : record.symbol = layout.symbol trade)
    (side : record.side = normalizeSide (row.get layout.sideHeader))
    (quantity : record.quantity = trade.quantity) (price : record.price = trade.price)
    (amount : record.amount = orElse trade.amount (trade.quantity * trade.price))
    (fee : record.fee = layout.fee trade) :
    layout.Carries trade record ↔ layout.Plain trade row ∧ trade.Amounted := by
  rw [← side_read wrote listed, Trade.Amounted, ← orElse_iff]
  constructor
  · intro carries
    exact ⟨side ▸ carries.side, amount ▸ carries.amount⟩
  · rintro ⟨read, kept⟩
    exact ⟨datetime, symbol, side.trans read, quantity, price, amount.trans kept, fee⟩

theorem tonghuashun_row (wrote : Layout.tonghuashun.WroteRow trade row) :
    Layout.tonghuashun.Carries trade (parseTonghuashunRow row) ↔
      Layout.tonghuashun.Plain trade row ∧ trade.Amounted := by
  have number : ∀ {header number}, (header, writesNumber number) ∈ Layout.tonghuashun.columns →
      toFloat (row.get header) = number trade := number_read wrote
  have quantity : toFloat (row.get "成交数量") = trade.quantity := number (by simp [Layout.columns])
  have price : toFloat (row.get "成交价格") = trade.price := number (by simp [Layout.columns])
  have amount : toFloat (row.get "成交金额") = trade.amount := number (by simp [Layout.columns])
  have commission : toFloat (row.get "手续费") = trade.commission := number (by simp [Layout.columns])
  have stamp : toFloat (row.get "印花税") = trade.stamp := number (by simp [Layout.columns])
  have transfer : toFloat (row.get "过户费") = trade.transfer := number (by simp [Layout.columns])
  obtain ⟨instant, instantAt, written⟩ := wrote ("成交时间", writesInstant) (by simp [Layout.columns])
  obtain ⟨code, codeAt, coded⟩ := wrote ("证券代码", writesCode) (by simp [Layout.columns])
  refine carries_iff (by simp [Layout.columns, Layout.sideHeader]) wrote ?_ ?_ rfl quantity price
    ?_ ?_
  · rw [parseTonghuashunRow, instantAt]
    exact written
  · rw [parseTonghuashunRow, codeAt]
    exact qualifyAShare_written coded
  · rw [parseTonghuashunRow, amount, quantity, price]
  · rw [parseTonghuashunRow, commission, stamp, transfer]
    rfl

theorem eastmoney_row (wrote : Layout.eastmoney.WroteRow trade row) :
    Layout.eastmoney.Carries trade (parseEastmoneyRow tables row) ↔
      Layout.eastmoney.Plain trade row ∧ trade.Amounted := by
  have number : ∀ {header number}, (header, writesNumber number) ∈ Layout.eastmoney.columns →
      toFloat (row.get header) = number trade := number_read wrote
  have quantity : toFloat (row.get "成交数量") = trade.quantity := number (by simp [Layout.columns])
  have price : toFloat (row.get "成交均价") = trade.price := number (by simp [Layout.columns])
  have amount : toFloat (row.get "成交金额") = trade.amount := number (by simp [Layout.columns])
  have commission : toFloat (row.get "佣金") = trade.commission := number (by simp [Layout.columns])
  have stamp : toFloat (row.get "印花税") = trade.stamp := number (by simp [Layout.columns])
  obtain ⟨date, dateAt, dated⟩ := wrote ("成交日期", writesCompact) (by simp [Layout.columns])
  obtain ⟨time, timeAt, timed⟩ := wrote ("成交时间", writesTime) (by simp [Layout.columns])
  obtain ⟨code, codeAt, coded⟩ := wrote ("股票代码", writesCode) (by simp [Layout.columns])
  refine carries_iff (by simp [Layout.columns, Layout.sideHeader]) wrote ?_ ?_ rfl quantity price
    ?_ ?_
  · have dateRead : isoDate tables (textOr "" (some (some date))) = trade.date :=
      isoDate_written tables dated
    have timeRead : textOr "" (some (some time)) = trade.time := timed
    rw [parseEastmoneyRow, dateAt, timeAt, dateRead, timeRead]
    exact (join_clean trade.dated trade.timed).strip
  · rw [parseEastmoneyRow, codeAt]
    exact qualifyAShare_written coded
  · rw [parseEastmoneyRow, amount, quantity, price]
  · rw [parseEastmoneyRow, commission, stamp]
    rfl

theorem futu_column {market : Bool} {column : Column} (listed : column ∈ futuColumns) :
    column ∈ (Layout.futu market).columns := List.mem_append_left _ listed

theorem futu_row {market : Bool} {columns : List PyString} (sided : ("Side" : PyString) ∈ columns)
    (wrote : (Layout.futu market).WroteRow trade row) :
    (Layout.futu market).Carries trade (parseFutuRow tables columns row) ↔
      (Layout.futu market).Plain trade row ∧ trade.Amounted := by
  have number : ∀ {header number}, (header, writesNumber number) ∈ futuColumns →
      toFloat (row.get header) = number trade := fun listed =>
    number_read wrote (futu_column listed)
  have quantity : toFloat (row.get "Quantity") = trade.quantity := number (by simp [futuColumns])
  have price : toFloat (row.get "Price") = trade.price := number (by simp [futuColumns])
  have amount : toFloat (row.get "Amount") = trade.amount := number (by simp [futuColumns])
  have commission : toFloat (row.get "Commission") = trade.commission :=
    number (by simp [futuColumns])
  have platform : toFloat (row.get "Platform Fee") = trade.platform :=
    number (by simp [futuColumns])
  obtain ⟨date, dateAt, dated⟩ := wrote ("Date", writesDate) (futu_column (by simp [futuColumns]))
  obtain ⟨time, timeAt, timed⟩ := wrote ("Time", writesTime) (futu_column (by simp [futuColumns]))
  obtain ⟨symbol, symbolAt, named⟩ :=
    wrote ("Symbol", writesSymbol) (futu_column (by simp [futuColumns]))
  refine carries_iff (futu_column (by simp [futuColumns, Layout.sideHeader])) wrote ?_ ?_ ?_
    quantity price ?_ ?_
  · have dateRead : textOr "" (some (some date)) = trade.date := dated
    have timeRead : textOr "" (some (some time)) = trade.time := timed
    rw [parseFutuRow, dateAt, timeAt, dateRead, timeRead]
    exact (join_clean trade.dated trade.timed).strip
  · have read : textOr "" (some (some symbol)) = trade.symbol := named
    rw [parseFutuRow, symbolAt, read]
    rfl
  · rw [parseFutuRow, if_pos sided]
    rfl
  · rw [parseFutuRow, amount, quantity, price]
  · rw [parseFutuRow, commission, platform]
    rfl

end Layouts

section Letters

theorem aliases_lower (field : Field) :
    ∀ name ∈ field.aliases, name.points.all Ascii.isLower = true := by
  cases field with
  | instant => decide
  | date => decide
  | time => decide
  | symbol => decide
  | name => decide
  | side => decide
  | quantity => decide
  | price => decide
  | amount => decide
  | fee => decide

theorem header_letters (headers : Headers) (field : Field) :
    (headers.header field).points.all isLetter = true := by
  refine List.all_eq_true.mpr fun c member => ?_
  have lowered := aliases_lower field _ (headers.documented field)
  have small := List.all_eq_true.mp lowered _ (List.mem_map_of_mem member)
  rw [isLetter]
  split at small
  next upper => rw [upper, Bool.true_or]
  · rw [small, Bool.or_true]

theorem letter_range {c : CodePoint} (letter : isLetter c = true) :
    65 ≤ c.val ∧ c.val ≤ 122 := by
  rw [isLetter, Bool.or_eq_true] at letter
  rcases letter with upper | lower
  · have range : 65 ≤ c.val ∧ c.val ≤ 90 := by
      simpa only [Ascii.isUpper, Bool.and_eq_true, decide_eq_true_eq] using upper
    omega
  · have range : 97 ≤ c.val ∧ c.val ≤ 122 := by
      simpa only [Ascii.isLower, Bool.and_eq_true, decide_eq_true_eq] using lower
    omega

theorem letter_solid {c : CodePoint} (letter : isLetter c = true) :
    Lines.isWhitespace c = false := by
  obtain ⟨low, high⟩ := letter_range letter
  simp only [Lines.isWhitespace, Bool.or_eq_false_iff, Bool.and_eq_false_iff,
    decide_eq_false_iff_not]
  omega

end Letters

section Generic

variable [PyText] {tables : CharTables} {trade : Trade} {headers : Headers} {field : Field}
  {columns names : List PyString} {text : PyString}

omit [PyText] in
theorem strip_letters (letters : text.points.all isLetter = true) : strip text = text := by
  have all := List.all_eq_true.mp letters
  have solid := @Lines.strip_solid text.points
    (fun c head => letter_solid (all c (List.mem_of_head? head)))
    (fun c last => letter_solid (all c (List.mem_of_getLast? last)))
  rw [strip, solid]

theorem lower_letters (letters : text.points.all isLetter = true) :
    text.lower = Ascii.lower text := by
  have ascii : text.isAscii = true := by
    refine List.all_eq_true.mpr fun c member => decide_eq_true ?_
    have range := letter_range (List.all_eq_true.mp letters c member)
    omega
  rw [PyString.lower, if_pos ascii]

theorem key_letters (letters : text.points.all isLetter = true) :
    (strip text).lower = Ascii.lower text := by
  rw [strip_letters letters, lower_letters letters]

variable (perm : columns.Perm (headers.fields.map headers.header))
include perm

omit [PyText] in
theorem column_header (listed : text ∈ columns) : ∃ field ∈ headers.fields,
    headers.header field = text := List.mem_map.mp (perm.mem_iff.mp listed)

omit [PyText] in
theorem header_column (listed : field ∈ headers.fields) : headers.header field ∈ columns :=
  perm.mem_iff.mpr (List.mem_map_of_mem listed)

theorem colmap_lookup {name column : PyString}
    (found : (columns.map fun column => ((strip column).lower, column)).reverse.lookup name =
      some column) :
    ∃ field ∈ headers.fields, headers.header field = column ∧ name ∈ field.aliases := by
  obtain ⟨before, after, same, -⟩ := List.lookup_eq_some_iff.mp found
  have member : (name, column) ∈ columns.map fun column => ((strip column).lower, column) := by
    rw [← List.mem_reverse, same]
    exact List.mem_append_right _ List.mem_cons_self
  obtain ⟨column', listed, pair⟩ := List.mem_map.mp member
  obtain ⟨key, rfl⟩ := Prod.mk.inj pair
  obtain ⟨field, within, rfl⟩ := column_header perm listed
  refine ⟨field, within, rfl, ?_⟩
  rw [← key, key_letters (header_letters headers field)]
  exact headers.documented field

theorem pick_header (listed : field ∈ headers.fields) (known : field.aliases ⊆ names)
    (apart : ∀ other ∈ headers.fields, ∀ name ∈ names, name ∈ other.aliases → other = field) :
    pick columns names = some (headers.header field) := by
  rw [pick]
  cases found : names.findSome? _ with
  | none =>
    have missing := List.findSome?_eq_none_iff.mp found _ (known (headers.documented field))
    rw [List.lookup_eq_none_iff] at missing
    have member : (Ascii.lower (headers.header field), headers.header field) ∈
        (columns.map fun column => ((strip column).lower, column)).reverse := by
      rw [List.mem_reverse, ← key_letters (header_letters headers field)]
      exact List.mem_map_of_mem (header_column perm listed)
    simpa using missing _ member
  | some column =>
    obtain ⟨name, given, here⟩ := List.exists_of_findSome?_eq_some found
    obtain ⟨other, within, rfl, documented⟩ := colmap_lookup perm here
    rw [apart other within name given documented]

omit [PyText] in
theorem header_or_absent (letters : ∀ other ∈ headers.fields, Ascii.lower text ∈ other.aliases →
    other = field) : headers.header field = text ∨ text ∉ columns := by
  by_cases listed : text ∈ columns
  · obtain ⟨other, within, rfl⟩ := column_header perm listed
    rw [letters other within (headers.documented other)]
    exact .inl rfl
  · exact .inr listed

omit perm [PyText] in
theorem whole_fields (whole : headers.split = false) : headers.fields =
    [.instant, .symbol, .name, .side, .quantity, .price, .amount, .fee] := by
  rw [Headers.fields, whole]
  rfl

theorem pick_names (whole : headers.split = false) :
    pick columns ["datetime", "time"] = some (headers.header .instant) ∧
    pick columns ["symbol", "ticker", "code"] = some (headers.header .symbol) ∧
    pick columns ["side", "direction", "action"] = some (headers.header .side) ∧
    pick columns ["quantity", "qty", "size", "volume"] = some (headers.header .quantity) ∧
    pick columns ["price"] = some (headers.header .price) ∧
    pick columns ["amount", "value", "notional"] = some (headers.header .amount) ∧
    pick columns ["fee", "commission", "fees"] = some (headers.header .fee) := by
  have fields := whole_fields whole
  refine ⟨?_, ?_, ?_, ?_, ?_, ?_, ?_⟩
  · exact pick_header perm (by rw [fields]; decide) (by decide) (by rw [fields]; decide)
  · exact pick_header perm (by rw [fields]; decide) (by decide) (by rw [fields]; decide)
  · exact pick_header perm (by rw [fields]; decide) (by decide) (by rw [fields]; decide)
  · exact pick_header perm (by rw [fields]; decide) (by decide) (by rw [fields]; decide)
  · exact pick_header perm (by rw [fields]; decide) (by decide) (by rw [fields]; decide)
  · exact pick_header perm (by rw [fields]; decide) (by decide) (by rw [fields]; decide)
  · exact pick_header perm (by rw [fields]; decide) (by decide) (by rw [fields]; decide)

omit perm in
theorem generic_wrote {row : Row} (wrote : (Layout.generic headers).WroteRow trade row)
    (listed : field ∈ headers.fields) :
    ∃ cell, row.get (headers.header field) = some (some cell) ∧ field.writes trade cell :=
  wrote (headers.header field, field.writes) (List.mem_map_of_mem listed)

theorem whole_row {row : Row} (whole : headers.split = false)
    (wrote : (Layout.generic headers).WroteRow trade row) :
    (Layout.generic headers).Carries trade (parseGenericRow tables columns row) ↔
      (Layout.generic headers).Plain trade row ∧ trade.Amounted := by
  obtain ⟨instant, symbol, side, quantity, price, amount, fee⟩ := pick_names perm whole
  have fields := whole_fields whole
  obtain ⟨instantCell, instantAt, written⟩ :=
    @generic_wrote _ _ _ .instant _ wrote (by rw [fields]; decide)
  obtain ⟨symbolCell, symbolAt, named⟩ :=
    @generic_wrote _ _ _ .symbol _ wrote (by rw [fields]; decide)
  have sided : Field.side ∈ headers.fields := by rw [fields]; decide
  have number : ∀ {field number}, field ∈ headers.fields → field.writes = writesNumber number →
      toFloat (row.get (headers.header field)) = number trade := by
    intro field number listed writes
    obtain ⟨cell, found, written⟩ := generic_wrote wrote listed
    rw [writes] at written
    rw [found, toFloat_written written]
  have quantityRead : toFloat (row.get (headers.header .quantity)) = trade.quantity :=
    number (by rw [fields]; decide) rfl
  have priceRead : toFloat (row.get (headers.header .price)) = trade.price :=
    number (by rw [fields]; decide) rfl
  have amountRead : toFloat (row.get (headers.header .amount)) = trade.amount :=
    number (by rw [fields]; decide) rfl
  have feeRead : toFloat (row.get (headers.header .fee)) = trade.commission :=
    number (by rw [fields]; decide) rfl
  refine carries_iff (List.mem_map_of_mem sided) wrote ?_ ?_ ?_ ?_ ?_ ?_ ?_
  · have read : (parseGenericRow tables columns row).datetime =
        textOr "" (row.get (headers.header .instant)) := by
      rw [parseGenericRow, instant]
      rfl
    rw [read, instantAt]
    exact written
  · have read : (parseGenericRow tables columns row).symbol =
        (textOr "" (row.get (headers.header .symbol))).upper := by
      rw [parseGenericRow, symbol]
      rfl
    have text : textOr "" (some (some symbolCell)) = trade.symbol := named
    rw [read, symbolAt, text]
    rfl
  · rw [parseGenericRow, side]
    rfl
  · rw [← quantityRead, parseGenericRow, quantity]
    rfl
  · rw [← priceRead, parseGenericRow, price]
    rfl
  · rw [← amountRead, ← quantityRead, ← priceRead, parseGenericRow, amount, quantity, price]
    rfl
  · have read : (parseGenericRow tables columns row).fee =
        toFloat (row.get (headers.header .fee)) := by
      rw [parseGenericRow, fee]
      rfl
    rw [read, feeRead]
    rfl

omit perm [PyText] in
theorem split_fields (split : headers.split = true) : headers.fields =
    [.date, .time, .symbol, .name, .side, .quantity, .price, .amount, .fee] := by
  rw [Headers.fields, split]
  rfl

theorem split_row {row : Row} (split : headers.split = true)
    (wrote : (Layout.generic headers).WroteRow trade row) :
    ¬ (Layout.generic headers).Carries trade (parseGenericRow tables columns row) := by
  intro carries
  have fields := split_fields split
  have picked : pick columns ["datetime", "time"] = some (headers.header .time) :=
    pick_header perm (by rw [fields]; decide) (by decide) (by rw [fields]; decide)
  obtain ⟨time, timeAt, timed⟩ := @generic_wrote _ _ _ .time _ wrote (by rw [fields]; decide)
  have read : (parseGenericRow tables columns row).datetime = trade.time := by
    rw [parseGenericRow, picked]
    exact (congrArg (textOr "") timeAt).trans timed
  exact join_ne_right trade.time (read.symm.trans carries.datetime)

omit [PyText] perm in
theorem strip_length (text : PyString) : (strip text).points.length ≤ text.points.length := by
  have dropped (points : List CodePoint) :
      (points.dropWhile Lines.isWhitespace).length ≤ points.length :=
    (List.dropWhile_sublist _).length_le
  rw [strip, Lines.strip, List.length_reverse]
  exact (dropped _).trans (List.length_reverse.le.trans (dropped _))

omit perm [PyText] in
theorem get_absent {cells : List Cell} (absent : text ∉ columns) :
    Row.get (columns.zip cells) text = none := by
  rw [Row.get, List.lookup_eq_none_iff]
  intro entry listed
  have column := (List.of_mem_zip listed).1
  rw [bne_iff_ne]
  rintro rfl
  exact absent column

theorem number_at {cells : List Cell} {number : Trade → Number}
    (wrote : (Layout.generic headers).WroteRow trade (columns.zip cells))
    (listed : field ∈ headers.fields) (writes : field.writes = writesNumber number)
    (letters : ∀ other ∈ headers.fields, Ascii.lower text ∈ other.aliases → other = field) :
    headers.header field = text ∧ toFloat (Row.get (columns.zip cells) text) = number trade ∨
      headers.header field ≠ text ∧ toFloat (Row.get (columns.zip cells) text) = 0 := by
  by_cases same : headers.header field = text
  · obtain ⟨cell, found, written⟩ := generic_wrote wrote listed
    rw [writes] at written
    rw [same] at found
    exact .inl ⟨same, by rw [found, toFloat_written written]⟩
  · have absent := (header_or_absent perm letters).resolve_left same
    exact .inr ⟨same, by rw [get_absent absent]; rfl⟩

omit [PyText] perm in
theorem add_zero_number (x : Number) : x + 0 = x := by
  cases x with
  | finite x => exact congrArg Number.finite (add_zero x)
  | nan => rfl
  | negInf => rfl
  | posInf => rfl

omit [PyText] perm in
theorem zero_iff {x y : Number} {same : Prop} (read : same ∧ x = y ∨ ¬ same ∧ x = 0) :
    x = y ↔ same ∨ y = 0 := by
  rcases read with ⟨given, rfl⟩ | ⟨other, rfl⟩
  · exact iff_of_true rfl (.inl given)
  · rw [or_iff_right other]
    exact eq_comm

omit [PyText] perm in
theorem amount_iff {x y product : Number} {same : Prop} (read : same ∧ x = y ∨ ¬ same ∧ x = 0) :
    orElse x product = y ↔ same ∧ y ≠ 0 ∨ product = y := by
  rcases read with ⟨given, rfl⟩ | ⟨other, rfl⟩
  · rw [orElse]
    split
    next zero => simp [zero]
    next filled => simp [given, filled]
  · simp [orElse, other]

theorem futu_datetime {cells : List Cell} (futu : headers.Futu)
    (wrote : (Layout.generic headers).WroteRow trade (columns.zip cells)) :
    (parseFutuRow tables columns (columns.zip cells)).datetime = join trade.date trade.time ↔
      headers.header .time = "Time" := by
  have fields := split_fields futu.1
  obtain ⟨date, dateAt, dated⟩ := @generic_wrote _ _ _ .date _ wrote (by rw [fields]; decide)
  rw [futu.2.1] at dateAt
  have dateRead : textOr "" (some (some date)) = trade.date := dated
  have letters : ∀ other ∈ headers.fields, Ascii.lower "Time" ∈ other.aliases → other = .time := by
    rw [fields]
    decide
  by_cases same : headers.header .time = "Time"
  · obtain ⟨time, timeAt, timed⟩ := @generic_wrote _ _ _ .time _ wrote (by rw [fields]; decide)
    rw [same] at timeAt
    have timeRead : textOr "" (some (some time)) = trade.time := timed
    refine iff_of_true ?_ same
    rw [parseFutuRow, dateAt, timeAt, dateRead, timeRead]
    exact (join_clean trade.dated trade.timed).strip
  · have absent := (header_or_absent perm letters).resolve_left same
    refine iff_of_false ?_ same
    rw [parseFutuRow, dateAt, dateRead, get_absent absent]
    intro equal
    change strip (join trade.date (textOr "" none)) = join trade.date trade.time at equal
    have short := strip_length (join trade.date (textOr "" none))
    have filled := List.length_pos_iff.mpr trade.timed.nonempty
    have whole : (join trade.date trade.time).points.length =
        trade.date.points.length + 1 + trade.time.points.length := join_length
    have part : (join trade.date (textOr "" none)).points.length =
        trade.date.points.length + 1 := join_length
    rw [equal, part, whole] at short
    omega

theorem futu_side {cells : List Cell} (futu : headers.Futu) :
    (parseFutuRow tables columns (columns.zip cells)).side =
      normalizeSide (Row.get (columns.zip cells) (headers.header .side)) := by
  have fields := split_fields futu.1
  have letters : ∀ other ∈ headers.fields, Ascii.lower "Side" ∈ other.aliases → other = .side := by
    rw [fields]
    decide
  rcases futu.2.2.2 with side | direction
  · have listed : ("Side" : PyString) ∈ columns := by
      rw [← side]
      exact header_column perm (by rw [fields]; decide)
    rw [parseFutuRow, if_pos listed, side]
  · have absent : ("Side" : PyString) ∉ columns := by
      refine (header_or_absent perm letters).resolve_left ?_
      rw [direction]
      decide
    rw [parseFutuRow, if_neg absent, direction]

theorem misread_row {cells : List Cell} (futu : headers.Futu)
    (wrote : (Layout.generic headers).WroteRow trade (columns.zip cells)) :
    (Layout.generic headers).Carries trade (parseFutuRow tables columns (columns.zip cells)) ↔
      (Layout.generic headers).Plain trade (columns.zip cells) ∧ headers.Fits trade := by
  have fields := split_fields futu.1
  have listed : ∀ field : Field, field ≠ .instant → field ∈ headers.fields := by
    intro field other
    rw [fields]
    cases field with
    | instant => exact absurd rfl other
    | date => decide
    | time => decide
    | symbol => decide
    | name => decide
    | side => decide
    | quantity => decide
    | price => decide
    | amount => decide
    | fee => decide
  have sided : ((Layout.generic headers).sideHeader, writesSide) ∈
      (Layout.generic headers).columns := List.mem_map_of_mem (listed .side (by decide))
  have time := @futu_datetime _ tables _ _ _ perm _ futu wrote
  have quantity := @number_at _ _ _ _ _ "Quantity" perm _ _ wrote (listed .quantity (by decide)) rfl
    (by rw [fields]; decide)
  have price := @number_at _ _ _ _ _ "Price" perm _ _ wrote (listed .price (by decide)) rfl
    (by rw [fields]; decide)
  have amount := @number_at _ _ _ _ _ "Amount" perm _ _ wrote (listed .amount (by decide)) rfl
    (by rw [fields]; decide)
  have fee := @number_at _ _ _ _ _ "Commission" perm _ _ wrote (listed .fee (by decide)) rfl
    (by rw [fields]; decide)
  have platform : ("Platform Fee" : PyString) ∉ columns := by
    have letters : ∀ other ∈ headers.fields, Ascii.lower "Platform Fee" ∈ other.aliases →
        other = .fee := by
      rw [fields]
      decide
    refine (header_or_absent perm letters).resolve_left fun same => ?_
    have all := header_letters headers .fee
    rw [same] at all
    exact absurd all (by decide)
  have feeRead : (parseFutuRow tables columns (columns.zip cells)).fee =
      toFloat (Row.get (columns.zip cells) "Commission") := by
    rw [parseFutuRow, get_absent platform]
    exact add_zero_number _
  obtain ⟨symbol, symbolAt, named⟩ := generic_wrote wrote (listed .symbol (by decide))
  rw [futu.2.2.1] at symbolAt
  have symbolRead : (parseFutuRow tables columns (columns.zip cells)).symbol =
      (Layout.generic headers).symbol trade := by
    have text : textOr "" (some (some symbol)) = trade.symbol := named
    rw [parseFutuRow, symbolAt, text]
    rfl
  rw [← side_read wrote sided]
  constructor
  · intro carries
    refine ⟨(futu_side perm futu).symm.trans carries.side, futu, time.mp carries.datetime,
      (zero_iff quantity).mp carries.quantity, (zero_iff price).mp carries.price, ?_,
      (zero_iff fee).mp (feeRead.symm.trans carries.fee)⟩
    refine (amount_iff amount).mp ?_
    rw [← carries.quantity, ← carries.price]
    exact carries.amount
  · rintro ⟨side, fits⟩
    have quantityRead := (zero_iff quantity).mpr fits.quantity
    have priceRead := (zero_iff price).mpr fits.price
    refine ⟨time.mpr fits.time, symbolRead, (futu_side perm futu).trans side, quantityRead,
      priceRead, ?_, feeRead.trans ((zero_iff fee).mpr fits.fee)⟩
    have amountRead := (amount_iff amount).mpr fits.amount
    rw [← quantityRead, ← priceRead] at amountRead
    exact amountRead

omit [PyText] in
theorem foreign_absent (foreign : text.points.all isLetter = false) : text ∉ columns := by
  intro listed
  obtain ⟨field, -, rfl⟩ := column_header perm listed
  rw [header_letters] at foreign
  cases foreign

omit [PyText] in
theorem name_listed (listed : field ∈ headers.fields) (letters : ∀ other ∈ headers.fields,
    Ascii.lower text ∈ other.aliases → other = field) :
    text ∈ columns ↔ headers.header field = text := by
  refine ⟨fun member => (header_or_absent perm letters).resolve_right (not_not_intro member), ?_⟩
  rintro rfl
  exact header_column perm listed

omit [PyText] in
theorem futu_names : (∀ name ∈ ([("Date" : PyString), "Symbol", "Side"] : List PyString),
      name ∈ columns) ∨
    (∀ name ∈ ([("Date" : PyString), "Symbol", "Direction"] : List PyString), name ∈ columns) ↔
      headers.Futu := by
  simp only [List.forall_mem_cons]
  cases split : headers.split with
  | false =>
    have fields := whole_fields split
    have absent : ("Date" : PyString) ∉ columns := by
      intro listed
      obtain ⟨field, within, same⟩ := column_header perm listed
      have documented := headers.documented field
      rw [same] at documented
      rw [fields] at within
      have undated : ∀ field ∈ ([.instant, .symbol, .name, .side, .quantity, .price, .amount,
          .fee] : List Field), Ascii.lower "Date" ∉ field.aliases := by
        decide
      exact undated field within documented
    simp [absent, Headers.Futu, split]
  | true =>
    have fields := split_fields split
    have date : ("Date" : PyString) ∈ columns ↔ headers.header .date = "Date" :=
      name_listed perm (by rw [fields]; decide) (by rw [fields]; decide)
    have symbol : ("Symbol" : PyString) ∈ columns ↔ headers.header .symbol = "Symbol" :=
      name_listed perm (by rw [fields]; decide) (by rw [fields]; decide)
    have side : ("Side" : PyString) ∈ columns ↔ headers.header .side = "Side" :=
      name_listed perm (by rw [fields]; decide) (by rw [fields]; decide)
    have direction : ("Direction" : PyString) ∈ columns ↔ headers.header .side = "Direction" :=
      name_listed perm (by rw [fields]; decide) (by rw [fields]; decide)
    rw [date, symbol, side, direction, Headers.Futu, ← and_or_left, ← and_or_left]
    simp [split]

theorem hinted (listed : field ∈ headers.fields) (known : field.aliases ⊆ names) :
    ∃ name ∈ names, name ∈ columns.map PyString.lower := by
  refine ⟨_, known (headers.documented field), List.mem_map.mpr ⟨_, header_column perm listed, ?_⟩⟩
  exact lower_letters (header_letters headers field)

theorem detect_generic : detectFormat columns = .futu ∧ headers.Futu ∨
    detectFormat columns = .generic ∧ ¬ headers.Futu := by
  have tonghuashun : ("成交时间" : PyString) ∉ columns := foreign_absent perm (by decide)
  have eastmoney : ("买卖标志" : PyString) ∉ columns := foreign_absent perm (by decide)
  have symbol : ∃ name ∈ ([("symbol" : PyString), "ticker", "code"] : List PyString),
      name ∈ columns.map PyString.lower := by
    refine @hinted _ _ .symbol _ _ perm ?_ (by decide)
    cases split : headers.split with
    | false => rw [whole_fields split]; decide
    | true => rw [split_fields split]; decide
  have instant : ∃ name ∈ ([("datetime" : PyString), "time", "date"] : List PyString),
      name ∈ columns.map PyString.lower := by
    cases split : headers.split with
    | false =>
      exact @hinted _ _ .instant _ _ perm (by rw [whole_fields split]; decide) (by decide)
    | true => exact @hinted _ _ .time _ _ perm (by rw [split_fields split]; decide) (by decide)
  rw [detectFormat]
  dsimp only
  rw [if_neg (by simp [tonghuashun]), if_neg (by simp [eastmoney])]
  by_cases futu : headers.Futu
  · rw [if_pos ((futu_names perm).mpr futu)]
    exact .inl ⟨rfl, futu⟩
  · rw [if_neg (mt (futu_names perm).mp futu), if_pos ⟨instant, symbol⟩]
    exact .inr ⟨rfl, futu⟩

end Generic

section Journals

variable [PyText] {tables : CharTables} {layout : Layout} {trades : List Trade} {df : DataFrame}

theorem detect_perm {columns columns' : List PyString} (perm : columns.Perm columns') :
    detectFormat columns = detectFormat columns' := by
  have names : ∀ names : List PyString, (∀ name ∈ names, name ∈ columns) ↔
      ∀ name ∈ names, name ∈ columns' := fun names =>
    forall₂_congr fun name _ => perm.mem_iff
  have lowered : ∀ names : List PyString, (∃ name ∈ names, name ∈ columns.map PyString.lower) ↔
      ∃ name ∈ names, name ∈ columns'.map PyString.lower := fun names =>
    exists_congr fun name => and_congr_right fun _ => (perm.map _).mem_iff
  simp only [detectFormat, names, lowered]

theorem decodes_rows (format : FormatName) (parse : Row → TradeRecord)
    (wrote : layout.Wrote trades df)
    (parsed : parseFile tables df = some (format, df.iterrows.map parse))
    (rows : ∀ trade cells, layout.WroteRow trade (df.columns.zip cells) →
      (layout.Carries trade (parse (df.columns.zip cells)) ↔
        layout.Plain trade (df.columns.zip cells) ∧ layout.Readable trade)) :
    layout.Decodes tables trades df ↔
      List.Forall₂ (fun trade cells => layout.Plain trade (df.columns.zip cells) ∧
        layout.Readable trade) trades df.rows := by
  have whole : layout.Decodes tables trades df ↔
      List.Forall₂ layout.Carries trades (df.iterrows.map parse) := by
    constructor
    · rintro ⟨format', records, parsed', carried⟩
      rw [parsed] at parsed'
      obtain ⟨-, rfl⟩ := Prod.mk.inj (Option.some.inj parsed')
      exact carried
    · exact fun carried => ⟨format, _, parsed, carried⟩
  rw [whole, DataFrame.iterrows, List.map_map, List.forall₂_map_right_iff]
  exact forall₂_iff wrote.rows rows

end Journals

section Samples

def sampleDate : PyString := "2026-01-15"

def sampleTime : PyString := "09:35:00"

theorem sampleDate_clean : Clean sampleDate :=
  ⟨by decide, by rintro c ⟨⟩; decide, by rintro c ⟨⟩; decide⟩

theorem sampleTime_clean : Clean sampleTime :=
  ⟨by decide, by rintro c ⟨⟩; decide, by rintro c ⟨⟩; decide⟩

def sampleTrade : Trade where
  date := sampleDate
  time := sampleTime
  symbol := "AAPL"
  side := .buy
  quantity := .finite 10
  price := .finite 150
  amount := .finite 1500
  commission := .finite 1
  stamp := 0
  transfer := 0
  platform := .finite 2
  dated := sampleDate_clean
  timed := sampleTime_clean

def sampleTables : CharTables := ⟨fun _ => false, fun _ => false⟩

def cellsOf (texts : List PyString) : List Cell := texts.map some

def futuSample : DataFrame where
  columns := ["Date", "Time", "Symbol", "Name", "Side", "Quantity", "Price", "Amount", "Commission",
    "Platform Fee"]
  rows := [cellsOf ["2026-01-15", "09:35:00", "AAPL", "Apple", "Buy", "10", "150", "1,500", "1",
    "2"]]

theorem sample_means : @Means .buy (@sideText asciiText "Buy") := by
  let text := asciiText
  refine ⟨⟨"buy", by decide, by decide⟩, ?_⟩
  rintro ⟨token, listed, front, rest, same, -⟩
  have none : ∀ token ∈ sellTokens, contains (sideText "Buy") token = false := by decide
  have found := contains_iff.mpr ⟨front, rest, same⟩
  rw [none token listed] at found
  cases found

theorem sample_symbol : writesSymbol sampleTrade "AAPL" := by
  rw [writesSymbol]
  decide

theorem sample_ten : @writesNumber asciiText Trade.quantity sampleTrade "10" := by
  let text := asciiText
  exact ⟨by decide, by decide +kernel⟩

theorem sample_price : @writesNumber asciiText Trade.price sampleTrade "150" := by
  let text := asciiText
  exact ⟨by decide, by decide +kernel⟩

theorem sample_amount : @writesNumber asciiText Trade.amount sampleTrade "1,500" := by
  let text := asciiText
  exact ⟨by decide, by decide +kernel⟩

theorem sample_commission : @writesNumber asciiText Trade.commission sampleTrade "1" := by
  let text := asciiText
  exact ⟨by decide, by decide +kernel⟩

theorem sample_platform : @writesNumber asciiText Trade.platform sampleTrade "2" := by
  let text := asciiText
  exact ⟨by decide, by decide +kernel⟩

theorem futuSample_wrote : @Layout.Wrote asciiText (.futu false) [sampleTrade] futuSample := by
  let text := asciiText
  refine ⟨.refl _, .cons ?_ .nil⟩
  have columns : (Layout.futu false).columns = futuColumns := rfl
  rw [Layout.WroteRow, columns]
  simp only [futuColumns, List.forall_mem_cons]
  refine ⟨⟨_, by decide, sampleDate_clean.strip⟩, ⟨_, by decide, sampleTime_clean.strip⟩,
    ⟨"AAPL", by decide, sample_symbol⟩, ⟨"Apple", by decide, trivial⟩, ⟨_, by decide, sample_means⟩,
    ⟨_, by decide, sample_ten⟩, ⟨_, by decide, sample_price⟩, ⟨_, by decide, sample_amount⟩,
    ⟨_, by decide, sample_commission⟩, ⟨_, by decide, sample_platform⟩, ?_⟩
  exact List.forall_mem_nil _

def lowerHeader : Field → PyString
  | .instant => "datetime"
  | .date => "date"
  | .time => "time"
  | .symbol => "symbol"
  | .name => "name"
  | .side => "side"
  | .quantity => "quantity"
  | .price => "price"
  | .amount => "amount"
  | .fee => "fee"

theorem lowerHeader_documented (field : Field) :
    Ascii.lower (lowerHeader field) ∈ field.aliases := by
  cases field with
  | instant => decide
  | date => decide
  | time => decide
  | symbol => decide
  | name => decide
  | side => decide
  | quantity => decide
  | price => decide
  | amount => decide
  | fee => decide

def splitHeaders : Headers := ⟨true, lowerHeader, lowerHeader_documented⟩

def splitSample : DataFrame where
  columns := ["date", "time", "symbol", "name", "side", "quantity", "price", "amount", "fee"]
  rows := [cellsOf ["2026-01-15", "09:35:00", "AAPL", "Apple", "Buy", "10", "150", "1,500", "1"]]

def splitColumns [PyText] : List Column :=
  [("date", writesDate), ("time", writesTime), ("symbol", writesSymbol), ("name", writesAny),
    ("side", writesSide), ("quantity", writesNumber Trade.quantity),
    ("price", writesNumber Trade.price), ("amount", writesNumber Trade.amount),
    ("fee", writesNumber Trade.commission)]

theorem splitSample_wrote :
    @Layout.Wrote asciiText (.generic splitHeaders) [sampleTrade] splitSample := by
  let text := asciiText
  refine ⟨.refl _, .cons ?_ .nil⟩
  have columns : (Layout.generic splitHeaders).columns = splitColumns := rfl
  rw [Layout.WroteRow, columns, splitColumns]
  simp only [List.forall_mem_cons]
  refine ⟨⟨_, by decide, sampleDate_clean.strip⟩, ⟨_, by decide, sampleTime_clean.strip⟩,
    ⟨"AAPL", by decide, sample_symbol⟩, ⟨"Apple", by decide, trivial⟩, ⟨_, by decide, sample_means⟩,
    ⟨_, by decide, sample_ten⟩, ⟨_, by decide, sample_price⟩, ⟨_, by decide, sample_amount⟩,
    ⟨_, by decide, sample_commission⟩, ?_⟩
  exact List.forall_mem_nil _

end Samples

end SynapseYield.Tools.JournalParsers
