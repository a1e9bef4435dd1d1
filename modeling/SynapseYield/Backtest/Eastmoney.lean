import SynapseYield.Backtest.Intervals
import SynapseYield.Shared.JsonText

set_option autoImplicit false

namespace SynapseYield.Backtest.Eastmoney

open Shared JsonText

def usMarkets : List PyString := ["105", "106", "107"]

-- text.rpartition(".") without the separator
def rpartition (text : PyString) : PyString × PyString :=
  let (suffix, before) := Ascii.cut 0x2E text.points.reverse
  (⟨(before.getD []).reverse⟩, ⟨suffix.reverse⟩)

-- quote_id.split(".", 1): the market, and the code after it
def secidMarket (secid : PyString) : PyString := ⟨(Ascii.cut 0x2E secid.points).1⟩

def secidCode (secid : PyString) : PyString := ⟨(Ascii.cut 0x2E secid.points).2.getD []⟩

def tableKey : PyString := "QuotationCodeTable"

def dataKey : PyString := "Data"

def quoteIdKey : PyString := "QuoteID"

-- What a candidate of the search gives, where it is of a US market.
def candidateSecid : Json → Option PyString
  | .obj candidate =>
    match candidate.lookup quoteIdKey with
    | some (.str quoteId) =>
      if 0x2E ∈ quoteId.points ∧ secidMarket quoteId ∈ usMarkets then some quoteId else none
    | _ => none
  | _ => none

def parseUsSecid : Json → Option PyString
  | .obj payload =>
    match payload.lookup tableKey with
    | some (.obj table) =>
      match table.lookup dataKey with
      | some (.arr candidates) => candidates.findSome? candidateSecid
      | _ => none
    | _ => none
  | _ => none

section Jsonp

variable [PyText]

-- \s and \w
def isSpace (c : CodePoint) : Bool := (⟨[c]⟩ : PyString).strip = PyString.empty

def isWord (c : CodePoint) : Bool := c = 0x5F || PyString.isalnum c

def startsName (c : CodePoint) : Bool :=
  c = 0x5F || c = 0x24 || Ascii.isUpper c || Ascii.isLower c

-- A name of the callback, with others after dots
def afterNames : Nat → Text → Option Text
  | 0, _ => none
  | _, [] => none
  | fuel + 1, c :: rest =>
    if startsName c then
      match rest.dropWhile fun c => isWord c || c = 0x24 with
      | 0x2E :: more => afterNames fuel more
      | rest => some rest
    else none

-- The body of the last parenthesis, where no more than blanks and one semicolon come after it
def jsonpBody (text : PyString) : Option PyString := do
  let rest ← afterNames (text.points.length + 1) text.points
  match rest.dropWhile isSpace with
  | 0x28 :: inside =>
    match Ascii.cut 0x29 inside.reverse with
    | (tail, some body) =>
      match tail.reverse.dropWhile isSpace with
      | [] => some ⟨body.reverse⟩
      | 0x3B :: more => if more.all isSpace then some ⟨body.reverse⟩ else none
      | _ => none
    | _ => none
  | _ => none

-- null for None
def stripJsonp (text : PyString) : Json :=
  let stripped := text.strip
  match loads stripped with
  | some payload => payload
  | none => ((jsonpBody stripped).bind fun body => loads body.strip).getD .null

-- What a search that answers so comes to
def searched : Json → Option PyString
  | .str text => parseUsSecid (stripJsonp text)
  | payload => parseUsSecid payload

abbrev SecidCache := List (PyString × Option PyString)

-- The search is none where it raises.
def resolveUsSecid (cache : SecidCache) (code : PyString) (search : Option Json) :
    Option PyString × SecidCache :=
  match cache.lookup code with
  | some secid => (secid, cache)
  | none =>
    let secid := search.bind searched
    (secid, (code, secid) :: cache)

def resolveAShareSecid (code suffix : PyString) : Option PyString :=
  if suffix = "SH" then some (("1." : PyString) ++ code)
  else if suffix ∈ (["SZ", "BJ"] : List PyString) then some (("0." : PyString) ++ code) else none

def resolveSecid (cache : SecidCache) (symbol : PyString) (search : Option Json) :
    Option PyString × SecidCache :=
  if 0x2E ∉ symbol.points then (none, cache)
  else
    let code := (rpartition symbol).1.strip.upper
    let suffix := (rpartition symbol).2.strip.upper
    if code = "" then (none, cache)
    else if suffix ∈ (["SH", "SZ", "BJ"] : List PyString) then
      (resolveAShareSecid code suffix, cache)
    else if suffix = "HK" then (some (("116." : PyString) ++ zfill 5 code), cache)
    else if suffix = "US" then resolveUsSecid cache code search
    else (none, cache)

end Jsonp

end SynapseYield.Backtest.Eastmoney
