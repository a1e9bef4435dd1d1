import SynapseYield.Live.Mandate
import SynapseYield.Shared.Json
import SynapseYield.Shared.Process

set_option autoImplicit false

namespace SynapseYield.Live

open Shared

inductive Verdict where
  | approve
  | approveWithConcerns
  | reject
  | reviewUnavailable
deriving DecidableEq, Repr

def Verdict.value : Verdict → PyString
  | .approve => "approve"
  | .approveWithConcerns => "approve_with_concerns"
  | .reject => "reject"
  | .reviewUnavailable => "review_unavailable"

structure AdvisoryContext where
  symbol : PyString
  side : PyString
  notionalUsd : Number
  accountEquity : Number
  utilizationRatio : Number
  openPositionCount : Nat
  totalExposureUsd : Number
  fundingUsd : Number

-- The verdict field may hold any object: its rank in _VERDICT_SEVERITY, and its value.
inductive ReportedVerdict where
  | verdict (verdict : Verdict)
  | other (severity : Except PyError Nat) (value : Except PyError PyValue)

structure AdvisoryResult where
  verdict : ReportedVerdict
  confidence : PyValue := .none
  summary : PyValue := .str .empty
  concerns : PyValue := .tuple []
  provider : PyValue := .str .empty

inductive LivePath where
  | mandate (broker : PyString)
  | tradeCounter (broker : PyString)
  | haltFlag
  | brokerHaltFlag (broker : PyString)
  | proposal (broker proposalId : PyString)
  | consent (broker recordId : PyString)
deriving DecidableEq

abbrev AsciiString := { s : PyString // s.isAscii = true }

def noText : AsciiString := ⟨.empty, PyString.empty_isAscii⟩

-- A reading of the clock, with the texts that isoformat makes of it.
structure Moment where
  instant : ℚ
  iso : AsciiString
  date : AsciiString

-- What str() makes of an exception that was caught.
structure Failure where
  error : PyError
  message : PyString

inductive Operation where
  | readJson (path : LivePath)
  | pathExists (path : LivePath)
  | writeTmp (path : LivePath) (document : PyValue)
  | replaceTmp (path : LivePath)
  | unlink (path : LivePath)
  | utcNow
  | newId
  | callTool (remote : PyString) (arguments : PyDict)
  | getQuote (symbol : PyString)
  | connectorRead (function : PyString)
  | lastClose (symbol : PyString) (assetClass : AssetClass)
  | getenvAdvisory
  | advisoryProviders
  | review (provider : Nat) (context : AdvisoryContext)
  | forward (arguments : PyDict)
  | appendLedger (record : PyValue)

-- none of readJson: no such file. none of getQuote and connectorRead: no such function.
-- advisoryProviders answers with the provider_id of each.
@[reducible] def Operation.Reply : Operation → Type
  | .readJson _ => Except PyError (Option PyValue)
  | .pathExists _ => Bool
  | .writeTmp _ _ => Except PyError Unit
  | .replaceTmp _ => Except PyError Unit
  | .unlink _ => Except PyError Unit
  | .utcNow => Moment
  | .newId => AsciiString
  | .callTool _ _ => Except PyError PyValue
  | .getQuote _ => Option (Except PyError PyValue)
  | .connectorRead _ => Option (Except PyError PyValue)
  | .lastClose _ _ => Except PyError (Option Number)
  | .getenvAdvisory => PyString
  | .advisoryProviders => List (Except PyError PyValue)
  | .review _ _ => Except PyError AdvisoryResult
  | .forward _ => Except Failure PyValue
  | .appendLedger _ => Unit

-- Reads of the broker and of the data loaders.
def Operation.reads : Operation → Prop
  | .callTool _ _ => True
  | .getQuote _ => True
  | .connectorRead _ => True
  | .lastClose _ _ => True
  | _ => False

def Operation.advises : Operation → Prop
  | .getenvAdvisory => True
  | .advisoryProviders => True
  | .review _ _ => True
  | _ => False

def Operation.audits : Operation → Prop
  | .newId => True
  | .utcNow => True
  | .appendLedger _ => True
  | _ => False

def Operation.stores : Operation → Prop
  | .readJson _ => True
  | .writeTmp _ _ => True
  | .replaceTmp _ => True
  | .utcNow => True
  | _ => False

abbrev Program := Process PyError Operation.Reply

abbrev ask (op : Operation) : Program op.Reply := Process.ask op

def attempt {α : Type} (answer : Except PyError α) : Program α := Process.ofExcept answer

variable [PyText]

def normalizeBroker (broker : PyString) : PyString := broker.strip.lower

def slashes : List CodePoint := [47, 92]

-- A key with a separator or two dots in a row is no directory name.
def hasDots : List CodePoint → Bool
  | a :: b :: rest => (a = 46 && b = 46) || hasDots (b :: rest)
  | _ => false

-- broker_dir, as the key under live_root
def brokerDir (broker : PyString) : Except PyError PyString :=
  let key := normalizeBroker broker
  if key = .empty then .error .valueError
  else if key.points.any (· ∈ slashes) || hasDots key.points then .error .valueError
  else .ok key

def countOf (entries : PyDict) (today : PyString) : Except PyError Int :=
  if (entries.get "date").isKey today then
    match ((entries.lookup "count").getD (.int 0)).toInt with
    | .ok n => .ok n
    | .error .typeError => .ok 0
    | .error .valueError => .ok 0
    | .error raised => .error raised
  else .ok 0

def readDailyCount (broker : PyString) : Program Int := do
  let key ← attempt (brokerDir broker)
  match ← ask (.readJson (.tradeCounter key)) with
  | .ok (some (.dict entries)) => do
    let today ← ask .utcNow
    attempt (countOf entries today.date)
  | .ok _ => return 0
  | .error .osError => return 0
  | .error .valueError => return 0
  | .error raised => throw raised

-- Through a temporary file: a document that is no JSON, or no UTF-8, replaces nothing.
def writeJson (path : LivePath) (document : PyValue) : Program Unit := do
  attempt document.dumps
  attempt document.encode
  attempt (← ask (.writeTmp path document))
  attempt (← ask (.replaceTmp path))

def counterDocument (today : PyString) (count : Int) : PyValue :=
  .dict [(.str "date", .str today), (.str "count", .int count)]

def incrementDailyCount (broker : PyString) : Program Int := do
  let today ← ask .utcNow
  let count := (← readDailyCount broker) + 1
  let key ← attempt (brokerDir broker)
  writeJson (.tradeCounter key) (counterDocument today.date count)
  return count

-- halt_flag_set: a key that names no directory counts as halted.
def haltFlagSet (broker : PyString) : Program Bool := do
  if ← ask (.pathExists .haltFlag) then return true
  match brokerDir broker with
  | .ok key => ask (.pathExists (.brokerHaltFlag key))
  | .error _ => return true

theorem readDailyCount_stores (broker : PyString) :
    (readDailyCount broker).Uses Operation.stores := by
  refine .bind (.ofExcept _) fun key => .bind (.ask trivial) fun reply => ?_
  split
  · exact .bind (.ask trivial) fun _ => .ofExcept _
  · trivial
  · trivial
  · trivial
  · trivial

omit [PyText] in
theorem writeJson_stores (path : LivePath) (document : PyValue) :
    (writeJson path document).Uses Operation.stores :=
  .bind (.ofExcept _) fun _ => .bind (.ofExcept _) fun _ => .bind (.ask trivial) fun _ =>
    .bind (.ofExcept _) fun _ => .bind (.ask trivial) fun _ => .ofExcept _

theorem incrementDailyCount_stores (broker : PyString) :
    (incrementDailyCount broker).Uses Operation.stores := by
  refine .bind (.ask trivial) fun today => .bind (readDailyCount_stores broker) fun count => ?_
  exact .bind (.ofExcept _) fun key => .bind (writeJson_stores _ _) fun _ => trivial

end SynapseYield.Live
