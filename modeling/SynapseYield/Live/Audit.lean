import SynapseYield.Live.Operations
import SynapseYield.Shared.Python

set_option autoImplicit false

namespace SynapseYield.Live

open Shared

variable [PyText]

def piiExactKeys : List PyString :=
  ["account_number", "account_id", "account_no", "account_num", "brokerage_account_number",
    "brokerage_account_id", "account_url", "rhs_account_number", "ssn", "social_security_number",
    "tax_id", "taxpayer_id", "tin", "routing_number", "bank_account_number"]

def sensitiveArgKeys : List PyString :=
  (["api_key", "authorization", "content", "env", "headers", "passphrase", "password", "secret",
    "token"] : List PyString) ++ piiExactKeys

def sensitiveArgMarkers : List PyString :=
  ["api_key", "authorization", "password", "secret", "token"]

def foldKey (name : PyString) : PyString := ⟨name.lower.points.filter PyString.isalnum⟩

-- marker in name
def contains (name marker : PyString) : Bool :=
  name.points.tails.any fun tail => marker.points.isPrefixOf tail

def isSensitiveArg (name : PyString) : Bool :=
  let normalized := name.strip.lower
  let folded := foldKey name
  normalized ∈ sensitiveArgKeys || sensitiveArgMarkers.any (contains normalized) ||
    folded ∈ sensitiveArgKeys.map foldKey || (sensitiveArgMarkers.map foldKey).any (contains folded)

def redacted : PyValue := .str "[redacted]"

mutual

def redactPayload : PyValue → Except PyError PyValue
  | .dict entries => .dict <$> redactEntries entries
  | .list items => .list <$> redactItems items
  | value => .ok value

def redactEntries : List (PyValue × PyValue) → Except PyError (List (PyValue × PyValue))
  | [] => .ok []
  | (key, item) :: rest => do
    let item ← if isSensitiveArg (← key.toStr) then .ok redacted else redactPayload item
    return (key, item) :: (← redactEntries rest)

def redactItems : List PyValue → Except PyError (List PyValue)
  | [] => .ok []
  | item :: rest => do return (← redactPayload item) :: (← redactItems rest)

end

end SynapseYield.Live

namespace SynapseYield.Live

open Shared

variable [PyText]

inductive LiveActionKind where
  | orderPlaced
  | orderRejected
  | breach
deriving DecidableEq, Repr

def LiveActionKind.value : LiveActionKind → PyString
  | .orderPlaced => "order_placed"
  | .orderRejected => "order_rejected"
  | .breach => "breach"

inductive LiveActionOutcome where
  | accepted
  | error
  | blocked
deriving DecidableEq, Repr

def LiveActionOutcome.value : LiveActionOutcome → PyString
  | .accepted => "accepted"
  | .error => "error"
  | .blocked => "blocked"

def optStr : Option PyString → PyValue
  | some s => .str s
  | none => .none

def optDict : Option PyDict → PyValue
  | some entries => .dict entries
  | none => .none

-- A dict literal.
def fields (entries : List (PyString × PyValue)) : PyDict :=
  entries.map fun entry => (.str entry.1, entry.2)

-- A key that is set only when there is a value.
def optField (key : PyString) : Option PyValue → PyDict
  | some value => [(.str key, value)]
  | none => []

structure LiveActionEvent where
  kind : LiveActionKind
  sessionId : PyString
  outcome : LiveActionOutcome
  server : PyString
  remoteTool : PyString
  intentNormalized : Option PyString
  mandateSnapshotRef : Option PyString
  consentRecordRef : Option PyString
  brokerRequest : Option PyDict
  brokerResponse : Option PyDict
  gateDecision : PyDict
  error : Option PyString
  auditId : PyString
  ts : PyString

def newAuditId (hex : AsciiString) : PyString := "la_" ++ hex.val

def LiveActionEvent.record (event : LiveActionEvent) : PyDict :=
  fields [
    ("audit_id", .str event.auditId),
    ("ts", .str event.ts),
    ("session_id", .str event.sessionId),
    ("kind", .str event.kind.value),
    ("intent_normalized", optStr event.intentNormalized),
    ("mandate_snapshot_ref", optStr event.mandateSnapshotRef),
    ("consent_record_ref", optStr event.consentRecordRef),
    ("broker_request", optDict event.brokerRequest),
    ("broker_response", optDict event.brokerResponse),
    ("outcome", .str event.outcome.value),
    ("gate_decision", .dict event.gateDecision),
    ("server", .str event.server),
    ("remote_tool", .str event.remoteTool),
    ("error", optStr event.error)]

@[irreducible] def LiveActionEvent.toRecord (event : LiveActionEvent) : Except PyError PyValue :=
  redactPayload (.dict event.record)

-- The ledger is the one sink: the gates pass neither a trace writer nor a callback.
def writeLiveAction (event : LiveActionEvent) : Program PyValue := do
  let record ← attempt event.toRecord
  attempt record.dumps
  attempt record.encode
  ask (.appendLedger record)
  return record

-- The keyword call, and the positional one after a TypeError.
def recordLiveAction (event : LiveActionEvent) : Program PyValue :=
  (writeLiveAction event).handle fun raised =>
    if raised = .typeError then writeLiveAction event else throw raised

-- except Exception: return None
def quietly {α : Type} (body : Program α) : Program (Option α) :=
  (some <$> body).handle fun raised => if raised.isException then return none else throw raised

theorem writeLiveAction_audits (event : LiveActionEvent) :
    (writeLiveAction event).Uses Operation.audits :=
  .bind (.ofExcept _) fun _ => .bind (.ofExcept _) fun _ => .bind (.ofExcept _) fun _ =>
    .bind (.ask trivial) fun _ => trivial

theorem recordLiveAction_audits (event : LiveActionEvent) :
    (recordLiveAction event).Uses Operation.audits := by
  unfold recordLiveAction
  have writes := writeLiveAction_audits event
  generalize writeLiveAction event = writing at writes ⊢
  refine Process.Uses.handle writes fun raised => ?_
  split
  · exact writes
  · trivial

omit [PyText] in
theorem quietly_uses {α : Type} {body : Program α} {allowed : Operation → Prop}
    (uses : body.Uses allowed) : (quietly body).Uses allowed := by
  refine Process.Uses.handle (uses.bind fun _ => trivial) fun raised => ?_
  split
  · trivial
  · trivial

end SynapseYield.Live
