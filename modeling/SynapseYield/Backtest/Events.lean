import Mathlib.Data.List.Infix
import Mathlib.Data.List.Lex
import Mathlib.Data.List.ReduceOption
import Mathlib.Data.Prod.Lex
import SynapseYield.Shared.Lines
import SynapseYield.Shared.Python
import SynapseYield.Shared.StableSort

set_option autoImplicit false

namespace SynapseYield.Backtest.Events

open Shared StableSort
open JsonText (Text)

def hourLength : Int := 3600 * 10 ^ 9

def dayLength : Int := 24 * hourLength

-- A pd.Timestamp: the nanoseconds that its clock shows since 1970, and the offset of that clock
-- where it has one.
structure Timestamp where
  clock : Int
  offset : Option Int := none
deriving DecidableEq

namespace Timestamp

def day (stamp : Timestamp) : Int := stamp.clock / dayLength

def hour (stamp : Timestamp) : Int := stamp.clock % dayLength / hourLength

-- The instant, where the offset is known.
def instant (stamp : Timestamp) : Option Int := stamp.offset.map (stamp.clock - ·)

end Timestamp

def defaultCloseCutoffHour : Int := 16

-- _knowable_date: the offset is dropped, the clock is not moved.
def knowableDate (published : Timestamp) (cutoffHour : Int) : Int :=
  if cutoffHour ≤ published.hour then published.day + 1 else published.day

-- email.utils
namespace Email

def daynames : List PyString := ["mon", "tue", "wed", "thu", "fri", "sat", "sun"]

def monthnames : List PyString :=
  ["jan", "feb", "mar", "apr", "may", "jun", "jul", "aug", "sep", "oct", "nov", "dec",
    "january", "february", "march", "april", "may", "june", "july",
    "august", "september", "october", "november", "december"]

def timezones : List (PyString × Int) :=
  [("UT", 0), ("UTC", 0), ("GMT", 0), ("Z", 0), ("AST", -400), ("ADT", -300), ("EST", -500),
    ("EDT", -400), ("CST", -600), ("CDT", -500), ("MST", -700), ("MDT", -600), ("PST", -800),
    ("PDT", -700)]

-- A datetime, with the seconds of its offset where it has one.
structure DateTime where
  year : Int
  month : Int
  day : Int
  hour : Int
  minute : Int
  second : Int
  offset : Option Int
deriving DecidableEq

section

variable [PyText]

-- The words after the name of the day.
def skipDay : List Text → List Text
  | [] => []
  | first :: rest =>
    if first.getLast? = some 0x2C ∨ PyString.lower ⟨first⟩ ∈ daynames then rest
    else (first.reverse.takeWhile (· ≠ 0x2C)).reverse :: rest

-- RFC 850 has the day, the month and the year in one word.
def splitDay : List Text → List Text
  | [date, time, zone] =>
    match date.splitOn 0x2D with
    | [day, month, year] => [day, month, year, time, zone]
    | _ => [date, time, zone]
  | words => words

def splitZone : List Text → List Text
  | [day, month, year, time] =>
    let sign := time.idxOf (if 0x2B ∈ time then 0x2B else 0x2D)
    if 0 < sign ∧ sign < time.length then [day, month, year, time.take sign, time.drop sign]
    else [day, month, year, time, []]
  | words => words

def withoutComma (word : Text) : Text :=
  if word.getLast? = some 0x2C then word.dropLast else word

def splitClock (time : Text) : Option (Text × Text × Text) :=
  match time.splitOn 0x3A with
  | [hour, minute] => some (hour, minute, [0x30])
  | [hour, minute, second] => some (hour, minute, second)
  | [time] =>
    match time.splitOn 0x2E with
    | [hour, minute] => some (hour, minute, [0x30])
    | [hour, minute, second] => some (hour, minute, second)
    | _ => none
  | _ => none

def monthOf (word : PyString) : Option Int :=
  if word ∈ monthnames then some (monthnames.idxOf word % 12 + 1) else none

-- Two digits are a year between 1969 and 2068.
def fullYear (year : Int) : Int :=
  if year < 100 then if 68 < year then year + 1900 else year + 2000 else year

-- -0000 is no offset.
def zoneOffset (zone : PyString) : Option Int :=
  let zone := zone.upper
  let stated := match timezones.lookup zone with
    | some clock => some clock
    | none =>
      if zone.parseInt = some 0 ∧ zone.points.head? = some 0x2D then none else zone.parseInt
  stated.map fun clock => clock.sign * (clock.natAbs / 100 * 3600 + clock.natAbs % 100 * 60)

def readDate (day month year time zone : Text) : Option DateTime := do
  guard (day ≠ [] ∧ month ≠ [] ∧ year ≠ [])
  let (day, month) := if PyString.lower ⟨month⟩ ∈ monthnames then (⟨day⟩, PyString.lower ⟨month⟩)
    else (PyString.lower ⟨month⟩, PyString.lower ⟨day⟩)
  let month ← monthOf month
  let (year, time) := if 0x3A ∈ year ∧ year.head? ≠ some 0x3A then (time, year) else (year, time)
  let year := withoutComma year
  let first ← year.head?
  let (year, zone) := if PyString.isdigit first then (year, zone) else (zone, year)
  let (hour, minute, second) ← splitClock (withoutComma time)
  let year ← PyString.parseInt ⟨year⟩
  let day ← PyString.parseInt ⟨withoutComma day.points⟩
  let hour ← PyString.parseInt ⟨hour⟩
  let minute ← PyString.parseInt ⟨minute⟩
  let second ← PyString.parseInt ⟨second⟩
  return ⟨fullYear year, month, day, hour, minute, second, zoneOffset ⟨zone⟩⟩

def parsedateTz (data : PyString) : Option DateTime :=
  match (splitZone (splitDay (skipDay (Lines.words data.points)))).take 5 with
  | [day, month, year, time, zone] => readDate day month year time zone
  | _ => none

-- datetime.timezone of a timedelta of seconds
def timezone (seconds : Int) : Except PyError Unit :=
  if 999999999 < (seconds / 86400).natAbs then .error .overflowError
  else if seconds.natAbs < 86400 then .ok ()
  else .error .valueError

def isLeap (year : Int) : Bool := year % 4 = 0 ∧ (year % 100 ≠ 0 ∨ year % 400 = 0)

def daysInMonth (year month : Int) : Int :=
  if month = 2 then if isLeap year then 29 else 28
  else if month ∈ [4, 6, 9, 11] then 30 else 31

def fitsInt (n : Int) : Bool := -2147483648 ≤ n && n < 2147483648

-- The arguments of datetime are C's int.
def DateTime.checked (date : DateTime) : Except PyError DateTime :=
  if ! [date.year, date.month, date.day, date.hour, date.minute, date.second].all fitsInt then
    .error .overflowError
  else if 1 ≤ date.year ∧ date.year ≤ 9999 ∧ 1 ≤ date.day ∧
      date.day ≤ daysInMonth date.year date.month ∧ 0 ≤ date.hour ∧ date.hour < 24 ∧
      0 ≤ date.minute ∧ date.minute < 60 ∧ 0 ≤ date.second ∧ date.second < 60 then .ok date
  else .error .valueError

def parsedateToDatetime (data : PyString) : Except PyError DateTime :=
  match parsedateTz data with
  | none => .error .valueError
  | some date => do
    date.offset.forM timezone
    date.checked

end

end Email

inductive CodeStyle where
  | raw
  | exchangePrefix
  | bare
deriving DecidableEq

structure FeedSpec where
  name : PyString
  routeTemplate : PyString
  eventType : PyString
  codeStyle : CodeStyle := .raw

def FeedSpec.isPerSymbol (spec : FeedSpec) : Bool :=
  ("\x7bcode\x7d" : PyString).points <:+: spec.routeTemplate.points

structure Provider where
  baseUrl : PyString
  feeds : List FeedSpec
  closeCutoffHour : Int := defaultCloseCutoffHour

-- The feeds are a dict by name: the last of one name stays.
def Provider.describeFeed (provider : Provider) (feed : PyString) : Except PyError FeedSpec :=
  match provider.feeds.reverse.find? fun spec => spec.name = feed with
  | some spec => .ok spec
  | none => .error .other

def Provider.listFeeds (provider : Provider) : List PyString :=
  sortBy PyString.points (provider.feeds.map (·.name)).dedup

structure FeedItem where
  title : Option PyString
  description : Option PyString
  pubDate : Option PyString
deriving DecidableEq

structure Event where
  tsCode : PyString
  knowableDate : Int
  eventType : PyString
  score : Number
  source : PyString
  summary : PyString

-- The libraries: ET.fromstring and its item nodes, none for what it cannot or will not read;
-- pd.Timestamp of a datetime and of a text, none for NaT; str.format with a code, of a template
-- that begins with a field of more than a name; and the sum of the scores of the ages, each
-- decayed.
structure Libraries where
  fromstring : PyString → Option (List FeedItem)
  ofDatetime : Email.DateTime → Except PyError Timestamp
  timestamp : PyString → Except PyError (Option Timestamp)
  format : Text → PyString → Except PyError Text
  decayedSum : List (Number × Int) → Number

-- What the address of a feed gives within the budget, none for TimeoutError.
abbrev Content := PyString → Except PyError (Option PyString)

abbrev Scorer := PyString → PyString → Except PyError Number

inductive AsOf where
  | text (s : PyString)
  | timestamp (stamp : Timestamp)

section Text

variable [PyText]

def formatCodeForRoute (code : PyString) : CodeStyle → PyString
  | .raw => code
  | .bare => ⟨code.points.takeWhile (· ≠ 0x2E)⟩
  | .exchangePrefix =>
    let symbol : PyString := ⟨code.points.takeWhile (· ≠ 0x2E)⟩
    let suffix : PyString := ⟨(code.points.dropWhile (· ≠ 0x2E)).tail⟩
    if suffix = .empty then symbol else suffix.upper ++ symbol

-- " ".join(text.replace(",", " ").split())
def cleanSummary : Option PyString → PyString
  | none => .empty
  | some text =>
    let spaced := text.points.map fun point => if point = 0x2C then 0x20 else point
    ⟨[0x20].intercalate (Lines.words spaced)⟩

variable (libraries : Libraries)

-- None of the second level is NaT.
def parsePubdate : Option PyString → Except PyError (Option (Option Timestamp))
  | none => .ok none
  | some value =>
    if value.strip = .empty then .ok none
    else match Email.parsedateToDatetime value >>= libraries.ofDatetime with
      | .ok stamp => .ok (some (some stamp))
      | .error raised =>
        if raised ≠ .typeError ∧ raised ≠ .valueError then .error raised
        else match libraries.timestamp value with
          | .ok stamp => .ok (some stamp)
          | .error raised =>
            if raised ≠ .typeError ∧ raised ≠ .valueError then .error raised else .ok none

variable (provider : Provider) (scorer : Scorer)

-- str.format(code=...)
def formatCode (code : PyString) : Text → Except PyError Text
  | [] => .ok []
  | 0x7B :: 0x7B :: rest => (0x7B :: ·) <$> formatCode code rest
  | 0x7D :: 0x7D :: rest => (0x7D :: ·) <$> formatCode code rest
  | 0x7D :: _ => .error .valueError
  | 0x7B :: 0x63 :: 0x6F :: 0x64 :: 0x65 :: 0x7D :: rest => (code.points ++ ·) <$> formatCode code rest
  | 0x7B :: rest => libraries.format (0x7B :: rest) code
  | c :: rest => (c :: ·) <$> formatCode code rest

def feedUrl (spec : FeedSpec) (code : PyString) : Except PyError PyString := do
  let route ← if spec.isPerSymbol then
      formatCode libraries (formatCodeForRoute code spec.codeStyle) spec.routeTemplate.points
    else .ok spec.routeTemplate.points
  .ok (provider.baseUrl ++ ⟨route⟩)

def fetchFeed (content : Content) (spec : FeedSpec) (code : PyString) : Except PyError PyString := do
  let url ← feedUrl libraries provider spec code
  let body ← content url
  .ok (body.getD .empty)

def parseItem (code : PyString) (spec : FeedSpec) (item : FeedItem) : Except PyError (Option Event) := do
  let title := (item.title.getD .empty).strip
  let summary := cleanSummary item.description
  let published ← parsePubdate libraries item.pubDate
  match published with
  | none => .ok none
  -- NaT has no normalize.
  | some none => .error .other
  | some (some published) => do
    let score ← scorer title summary
    .ok (some {
      tsCode := code
      knowableDate := knowableDate published provider.closeCutoffHour
      eventType := spec.eventType
      score := score
      source := spec.name
      summary := if summary = .empty then title else summary })

def parseItems (xmlText code : PyString) (spec : FeedSpec) : Except PyError (List Event) :=
  match libraries.fromstring xmlText with
  | none => .ok []
  | some items => do
    let rows ← items.mapM (parseItem libraries provider scorer code spec)
    .ok rows.reduceOption

structure Progress where
  rows : List Event := []
  attempted : Nat := 0
  failed : Nat := 0

def queryFeed (content : Content) (spec : FeedSpec) (progress : Progress) (code : PyString) :
    Except PyError Progress := do
  let progress := { progress with attempted := progress.attempted + 1 }
  let xmlText ← fetchFeed libraries provider content spec code
  if xmlText = .empty then .ok { progress with failed := progress.failed + 1 }
  else do
    let rows ← parseItems libraries provider scorer xmlText code spec
    .ok { progress with rows := progress.rows ++ rows }

def queryFeedName (content : Content) (codes : List PyString) (progress : Progress)
    (feedName : PyString) : Except PyError Progress := do
  let spec ← provider.describeFeed feedName
  codes.foldlM (queryFeed libraries provider scorer content spec) progress

-- pd.Timestamp(as_of).normalize()
def asOfDate : AsOf → Except PyError Timestamp
  | .timestamp stamp => .ok stamp
  | .text s => do
    let stamp ← libraries.timestamp s
    match stamp with
    | some stamp => .ok stamp
    | none => .error .other

-- drop_duplicates: the first row of each key stays.
def dropDuplicates {α κ : Type} [DecidableEq κ] (key : α → κ) : List α → List α
  | [] => []
  | row :: rows => row :: (dropDuplicates key rows).filter fun other => key other ≠ key row

def Event.identity (event : Event) : PyString × Int × PyString × PyString :=
  (event.tsCode, event.knowableDate, event.eventType, event.summary)

def Event.sortKey (event : Event) : List CodePoint ×ₗ Int :=
  toLex (event.tsCode.points, event.knowableDate)

def queryEvents (content : Content) (codes : List PyString) (asOf : AsOf)
    (feeds : Option (List PyString)) : Except PyError (List Event) := do
  let feedNames := feeds.getD provider.listFeeds
  let bound ← asOfDate libraries asOf
  let progress ← feedNames.foldlM (queryFeedName libraries provider scorer content codes) {}
  if progress.attempted ≠ 0 ∧ progress.failed = progress.attempted then .error .other
  else if progress.rows.isEmpty then .ok []
  -- A date without a zone is not compared with one that has a zone.
  else if bound.offset.isSome then .error .typeError
  else
    let known := progress.rows.filter fun event => event.knowableDate ≤ bound.day
    .ok (sortBy Event.sortKey (dropDuplicates Event.identity known))

variable {Prices : Type}

structure Bar (Prices : Type) where
  tradeDate : Int
  prices : Prices
deriving DecidableEq

structure EnrichedBar (Prices : Type) where
  bar : Bar Prices
  eventScore : Number := 0
  eventCount : Nat := 0
deriving DecidableEq

abbrev EnrichedMap (Prices : Type) := List (PyString × List (EnrichedBar Prices))

-- max(-1.0, min(1.0, decayed))
def clip (decayed : Number) : Number :=
  Number.maximum (.finite (-1)) (if decayed < .finite 1 then decayed else .finite 1)

def enrichBar (lookback : Int) (rows : List Event) (bar : Bar Prices) : EnrichedBar Prices :=
  let window := rows.filter fun event =>
    event.knowableDate ≤ bar.tradeDate ∧ bar.tradeDate - lookback < event.knowableDate
  if window.isEmpty then { bar }
  else
    let decayed := libraries.decayedSum
      (window.map fun event => (event.score, bar.tradeDate - event.knowableDate))
    { bar, eventScore := clip decayed, eventCount := window.length }

def strongEvents (minAbsScore : Number) (events : List Event) : List Event :=
  if 0 < minAbsScore then events.filter fun event => minAbsScore ≤ event.score.abs else events

-- enrich_price_frames_with_events
def enrichWithEvents (content : Content) (dataMap : List (PyString × List (Bar Prices)))
    (asOf : AsOf) (feeds : Option (List PyString)) (lookback : Int) (minAbsScore : Number) :
    Except PyError (EnrichedMap Prices) :=
  if dataMap.isEmpty then .ok []
  else do
    let events ← queryEvents libraries provider scorer content (dataMap.map Prod.fst) asOf feeds
    if events.isEmpty then
      .ok (dataMap.map fun entry => (entry.1, entry.2.map fun bar => { bar }))
    else
      let events := strongEvents minAbsScore events
      .ok (dataMap.map fun entry => (entry.1, entry.2.map
        (enrichBar libraries lookback (events.filter fun event => event.tsCode = entry.1))))

end Text

end SynapseYield.Backtest.Events
