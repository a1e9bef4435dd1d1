import SynapseYield.Shared.Python
import SynapseYield.Shared.Scanner

set_option autoImplicit false

namespace SynapseYield.Swarm.Grounding

open Shared

abbrev Text := List CodePoint

def defaultMaxSymbols : Nat := 8

-- Characters of a regular expression. isDecimal is for what is not ASCII; there a decimal digit is
-- alphanumeric.
section Characters

variable [PyText] (isDecimal : CodePoint → Bool)

-- \w
def isWord (c : CodePoint) : Bool := PyString.isalnum c || c = 95

-- \d
def isDigit (c : CodePoint) : Bool :=
  if c.val < 128 then Ascii.isDigit c else isDecimal c && PyString.isalnum c

def besideWord (c : Option CodePoint) : Bool := c.any isWord

-- \b between two characters
def boundary (before after : Option CodePoint) : Bool := besideWord before != besideWord after

end Characters

-- A run of characters of one class and of a bounded length, and one of some endings
structure Shape where
  leads : CodePoint → Bool
  least : Nat
  most : Nat
  endings : List Text

def usEnding : Text := (".US" : PyString).points

def hkEnding : Text := (".HK" : PyString).points

def szEnding : Text := (".SZ" : PyString).points

def shEnding : Text := (".SH" : PyString).points

def bjEnding : Text := (".BJ" : PyString).points

def usdtEnding : Text := ("-USDT" : PyString).points

section Patterns

variable [PyText]

-- \b{leads}{least,most}{ending}\b. No ending begins with a character that leads, so that the run is
-- taken whole.
def Shape.matchAt (shape : Shape) (before : Option CodePoint) (text : Text) :
    Option (Text × Text) :=
  let lead := text.takeWhile shape.leads
  let rest := text.dropWhile shape.leads
  if boundary before text.head? = true ∧ 0 < lead.length ∧ shape.least ≤ lead.length ∧
      lead.length ≤ shape.most then
    (shape.endings.find? fun ending => ending.isPrefixOf rest &&
      boundary (lead ++ ending).getLast? (rest.drop ending.length).head?).map fun ending =>
        (lead ++ ending, rest.drop ending.length)
  else none

-- (?<![\w.])[A-Z]{2,5}(?!\w)(?!\.\w)
def bareAt (before : Option CodePoint) (text : Text) : Option (Text × Text) :=
  let lead := text.takeWhile Ascii.isUpper
  let rest := text.dropWhile Ascii.isUpper
  if (besideWord before || before = some 46) = false ∧ 2 ≤ lead.length ∧ lead.length ≤ 5 ∧
      besideWord rest.head? = false ∧
      (rest.head? = some 46 && besideWord rest.tail.head?) = false then
    some (lead, rest)
  else none

theorem Shape.matchAt_proper (shape : Shape) (before : Option CodePoint) (text hit rest : Text)
    (found : shape.matchAt before text = some (hit, rest)) : hit ≠ [] ∧ hit ++ rest = text := by
  rw [Shape.matchAt] at found
  split at found
  next kept =>
    obtain ⟨ending, listed, same⟩ := Option.map_eq_some_iff.mp found
    obtain ⟨rfl, rfl⟩ := Prod.mk.inj same
    have ends := List.find?_some listed
    rw [Bool.and_eq_true] at ends
    obtain ⟨more, split⟩ := List.isPrefixOf_iff_prefix.mp ends.1
    constructor
    · intro empty
      have := kept.2.1
      rw [(List.append_eq_nil_iff.mp empty).1] at this
      exact absurd this (by decide)
    · rw [← split, List.drop_left, List.append_assoc, split, List.takeWhile_append_dropWhile]
  · cases found

theorem bareAt_proper (before : Option CodePoint) (text hit rest : Text)
    (found : bareAt before text = some (hit, rest)) : hit ≠ [] ∧ hit ++ rest = text := by
  rw [bareAt] at found
  split at found
  next kept =>
    obtain ⟨rfl, rfl⟩ := Prod.mk.inj (Option.some.inj found)
    refine ⟨fun empty => ?_, List.takeWhile_append_dropWhile⟩
    have := kept.2.1
    rw [empty] at this
    exact absurd this (by decide)
  · cases found

def Shape.matcher (shape : Shape) : Matcher CodePoint :=
  ⟨shape.matchAt, shape.matchAt_proper⟩

def bareTicker : Matcher CodePoint := ⟨bareAt, bareAt_proper⟩

variable (isDecimal : CodePoint → Bool)

def usShape : Shape := ⟨Ascii.isUpper, 1, 5, [usEnding]⟩

def hkShape : Shape := ⟨isDigit isDecimal, 3, 5, [hkEnding]⟩

def chinaShape : Shape := ⟨isDigit isDecimal, 6, 6, [szEnding, shEnding, bjEnding]⟩

def usdtShape : Shape := ⟨Ascii.isUpper, 2, 6, [usdtEnding]⟩

def symbolPatterns : List Shape :=
  [usShape, hkShape isDecimal, chinaShape isDecimal, usdtShape]

end Patterns

def bareTickerStopwords : List PyString :=
  ["US", "USA", "UK", "EU", "HK", "CN", "JP", "NYSE", "AMEX", "SSE", "SZSE", "HKEX", "SPX", "NDX",
    "DJI", "DJIA", "HSI", "CSI", "FTSE", "MSCI", "VIX", "ETF", "ETN", "ADR", "IPO", "REIT", "BOND",
    "SWAP", "PERP", "FED", "FOMC", "SEC", "IMF", "GDP", "CPI", "PPI", "PMI", "PCE", "OPEC", "YOY",
    "QOQ", "MOM", "YTD", "EOD", "PE", "PB", "PS", "EPS", "ROE", "ROA", "ROI", "EBIT", "EV", "DCF",
    "CAGR", "IRR", "NAV", "AUM", "ATH", "ATL", "RSI", "MACD", "EMA", "SMA", "KDJ", "BOLL", "OHLC",
    "ADV", "PNL", "USD", "EUR", "JPY", "GBP", "CNY", "CNH", "RMB", "KRW", "INR", "AUD", "CAD",
    "CHF", "FX", "BTC", "ETH", "SOL", "XRP", "BNB", "ADA", "DOGE", "USDT", "USDC", "DEFI", "NFT",
    "DAO", "BUY", "SELL", "HOLD", "LONG", "SHORT", "CALL", "PUT", "STOP", "LIMIT", "TP", "SL",
    "DCA", "AI", "ML", "LLM", "API", "JSON", "CSV", "PDF", "URL", "HTML", "CEO", "CFO", "CTO",
    "COO", "CIO", "VP", "OK", "FAQ", "ASAP", "AM", "PM", "EST", "PST", "UTC", "GMT"]

section Extraction

variable [PyText] (isDecimal : CodePoint → Bool)

-- setdefault on an ordered set
def addNew (listed : List PyString) (symbol : PyString) : List PyString :=
  if symbol ∈ listed then listed else listed ++ [symbol]

-- Each pattern on what the ones before it leave: all that is found, and what is left
def scanPatterns : List Shape → Text → List Text × Text
  | [], remainder => ([], remainder)
  | shape :: shapes, remainder =>
    let later := scanPatterns shapes (shape.matcher.sub 32 remainder)
    (shape.matcher.hits remainder ++ later.1, later.2)

structure Mentioned where
  explicit : List PyString
  promoted : List PyString

def promotedOf (token : Text) : Option PyString :=
  if (⟨token⟩ : PyString) ∈ bareTickerStopwords then none else some ⟨token ++ usEnding⟩

-- What one value adds
def Mentioned.add (mentioned : Mentioned) (value : PyString) : Mentioned :=
  let found := scanPatterns (symbolPatterns isDecimal) value.points
  { explicit := (found.1.map PyString.mk).foldl addNew mentioned.explicit
    promoted := ((bareTicker.hits found.2).filterMap promotedOf).foldl addNew mentioned.promoted }

-- The values that are no strings are none.
abbrev UserVars := List (PyString × Option PyString)

def mentionedIn (userVars : UserVars) : Mentioned :=
  (userVars.filterMap (·.2)).foldl (Mentioned.add isDecimal) ⟨[], []⟩

def extractSymbolsFromUserVars (userVars : UserVars) : List PyString :=
  let mentioned := mentionedIn isDecimal userVars
  mentioned.explicit ++ mentioned.promoted.filter fun symbol => symbol ∉ mentioned.explicit

-- The variable of the environment, empty where it is not set
def maxGroundingSymbols (setting : PyString) : Nat :=
  let raw := setting.strip
  if raw = "" then defaultMaxSymbols
  else
    match raw.parseInt with
    | none => defaultMaxSymbols
    | some value => max 1 value.toNat

-- The symbols that are fetched for a run
def groundedSymbols (setting : PyString) (userVars : UserVars) : List PyString :=
  (extractSymbolsFromUserVars isDecimal userVars).take (maxGroundingSymbols setting)

end Extraction

end SynapseYield.Swarm.Grounding
