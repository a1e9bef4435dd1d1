import SynapseYield.Governance.PolicyEngine

set_option autoImplicit false

namespace SynapseYield.Governance

open Shared JsonText

inductive TraceStatus where
  | denied
  | skipped
deriving DecidableEq, Repr

-- A record of the trace. Of a denied call it names the decision by its tool and rule.
inductive DecisionRecord where
  | policyDecision (decision : PolicyDecision)
  | policyDenied (status : TraceStatus) (shadow : Bool) (toolName ruleId : PyString)

structure DecisionRecorder where
  decisions : List PolicyDecision
  records : List DecisionRecord

-- What a call finds: the calls that the stack has room for, and the trace writer, when there is
-- one.
structure CallHost where
  room : Nat
  traceWriter : Option (DecisionRecord → Except PyError Unit)

def CallHost.write (host : CallHost) (record : DecisionRecord) : Except PyError Unit :=
  match host.traceWriter with
  | none => .ok ()
  | some writer => writer record

-- How a call of execute ends: with the inner tool, with PolicyDenied, with what the trace writer
-- raises, or with another exception.
inductive Execution where
  | delegated
  | denied (decision : PolicyDecision) (shadow : Bool)
  | traceFailed (raised : PyError)
  | raised (raised : PyError)

structure GovernedToolRegistry where
  -- The inner registry
  tools : Table PyString Tool Tool.name
  manifestCache : ManifestCache
  recorder : DecisionRecorder

namespace GovernedToolRegistry

variable [PyText]

def wrap (tools : Table PyString Tool Tool.name) (surface : ToolSurface) : GovernedToolRegistry :=
  ⟨tools, .fromRegistry tools surface, ⟨[], []⟩⟩

def register (registry : GovernedToolRegistry) (tool : Tool) : GovernedToolRegistry :=
  { registry with
    tools := registry.tools.put tool
    manifestCache := registry.manifestCache.register tool }

def mustDenyOnPolicyException (call : ToolCall) : Bool :=
  call.manifest.riskLevel ∈ highRiskDeny || call.context.surface ∈ closedSurfaces

variable [AuditText]

-- The decision, or what stands in for it when the policy raises.
def decide_ (room : Nat) (call : ToolCall) : Except PyError PolicyDecision :=
  match evaluate builtinRules room call with
  | .ok decision => .ok decision
  | .error raised =>
    if raised.isException then do
      let audit ← buildParamAudit room call.params
      return decisionOf call audit (if mustDenyOnPolicyException call then .deny else .warn)
        "policy_exception" ["Policy evaluation failed fail-safe: " ++ raised.name] []
    else .error raised

def record (recorder : DecisionRecorder) (host : CallHost) (decision : PolicyDecision) :
    Except PyError Unit × DecisionRecorder :=
  let record := .policyDecision decision
  (host.write record, ⟨recorder.decisions ++ [decision], recorder.records ++ [record]⟩)

def recordDenied (recorder : DecisionRecorder) (host : CallHost) (decision : PolicyDecision)
    (status : TraceStatus) (shadow : Bool) : Except PyError Unit × DecisionRecorder :=
  let record := .policyDenied status shadow decision.toolName decision.ruleId
  (host.write record, { recorder with records := recorder.records ++ [record] })

def deny (recorder : DecisionRecorder) (host : CallHost) (decision : PolicyDecision)
    (status : TraceStatus) (shadow : Bool) : Execution × DecisionRecorder :=
  match recordDenied recorder host decision status shadow with
  | (.ok (), recorder) => (.denied decision shadow, recorder)
  | (.error raised, recorder) => (.traceFailed raised, recorder)

def execute (registry : GovernedToolRegistry) (context : RuntimeContext) (host : CallHost)
    (name : PyString) (params : Members) : Execution × GovernedToolRegistry :=
  if context.mode = .off then (.delegated, registry)
  else
    let manifest := registry.manifestCache.get name
    match decide_ host.room ⟨name, params, manifest, context⟩ with
    | .error raised => (.raised raised, registry)
    | .ok decision =>
      match record registry.recorder host decision with
      | (.error raised, recorder) => (.traceFailed raised, { registry with recorder })
      | (.ok (), recorder) =>
        if decision.action = .deny ∧ (context.mode = .enforce ∨ manifest.riskLevel ∈ highRiskDeny) then
          let (execution, recorder) :=
            if context.mode = .enforce then deny recorder host decision .denied false
            else deny recorder host decision .skipped true
          (execution, { registry with recorder })
        else (.delegated, { registry with recorder })

end GovernedToolRegistry

end SynapseYield.Governance
