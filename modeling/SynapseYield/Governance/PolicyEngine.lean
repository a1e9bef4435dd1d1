import SynapseYield.Governance.Decisions

set_option autoImplicit false

namespace SynapseYield.Governance

open Shared JsonText

-- A call as the rules see it
structure ToolCall where
  name : PyString
  params : Members
  manifest : ToolManifest
  context : RuntimeContext

inductive RuleAction where
  | allow
  | warn
  | deny
  | allowIfAll
deriving DecidableEq, Repr

structure PolicyRule where
  priority : Nat
  ruleId : PyString
  description : PyString
  action : RuleAction
  surfaces : Option (List ToolSurface) := none
  riskLevels : Option (List RiskLevel) := none
  toolNames : Option (List PyString) := none
  predicate : Option (ToolCall → Except PyError Bool) := none
  requiredChecks : List PyString := []

def PolicyRule.applies (rule : PolicyRule) (call : ToolCall) : Except PyError Bool :=
  if ! rule.surfaces.all (·.contains call.context.surface) then .ok false
  else if ! rule.riskLevels.all (·.contains call.manifest.riskLevel) then .ok false
  else if ! rule.toolNames.all (·.contains call.name) then .ok false
  else match rule.predicate with
    | some predicate => predicate call
    | none => .ok true

-- bool(params.get(key))
def truthyMember (params : Members) (key : PyString) : Bool :=
  match params.lookup key with
  | none | some .null => false
  | some (.bool b) => b
  | some (.number literal) => literal.any fun c => Ascii.isDigit c && c ≠ 0x30 || Ascii.isUpper c
  | some (.str s) => ! s.points.isEmpty
  | some (.arr items) => ! items.isEmpty
  | some (.obj members) => ! members.isEmpty

def liveWriteChecks : List PyString :=
  ["mandate_active", "kill_switch_clear", "explicit_user_consent", "live_order_guard",
    "connector_profile_selected"]

def ruleP10 : PolicyRule where
  priority := 10
  ruleId := "P10"
  description := "UNKNOWN live connector tool is fail-closed"
  action := .deny
  surfaces := some [.liveConnector]
  predicate := some fun call => .ok (call.manifest.liveClassification = some ("UNKNOWN" : PyString))

def ruleP20 : PolicyRule where
  priority := 20
  ruleId := "P20"
  description :=
    "Remote API, MCP SSE/HTTP, and channel bots cannot execute shell tools by default"
  action := .deny
  surfaces := some [.remoteApi, .mcpSse, .mcpHttp, .channelBot]
  riskLevels := some [.r5Shell]

def ruleP30 : PolicyRule where
  priority := 30
  ruleId := "P30"
  description := "Scheduler cannot execute live write or shell tools by default"
  action := .deny
  surfaces := some [.scheduler]
  riskLevels := some [.r4TradeWrite, .r5Shell]

def ruleP35 : PolicyRule where
  priority := 35
  ruleId := "P35"
  description := "Swarm workers cannot receive external MCP URLs from prompt input"
  action := .deny
  surfaces := some [.swarm]
  predicate := some fun call => .ok (truthyMember call.params "external_mcp_url_from_prompt")

def ruleP40 : PolicyRule where
  priority := 40
  ruleId := "P40"
  description := "Live trade writes require mandate, clear kill switch, explicit consent, " ++
    "live guard, and connector profile"
  action := .allowIfAll
  riskLevels := some [.r4TradeWrite]
  requiredChecks := liveWriteChecks

def ruleP50 : PolicyRule where
  priority := 50
  ruleId := "P50"
  description := "Explicit local market data requests cannot silently fall back to network"
  action := .deny
  toolNames := some ["get_market_data"]
  predicate := some fun call =>
    .ok (truthyMember call.params "explicit_local" && truthyMember call.params "fallback_to_network")

def ruleP100 : PolicyRule where
  priority := 100
  ruleId := "P100"
  description := "Read-only MCP stdio R0 tool allowed by default"
  action := .allow
  surfaces := some [.mcpStdio]
  riskLevels := some [.r0Read]
  predicate := some fun call => .ok call.manifest.readonly

def ruleP900 : PolicyRule where
  priority := 900
  ruleId := "P900"
  description := "Unclassified tools require observation/manual review before enforcement"
  action := .warn
  riskLevels := some [.unclassified]

def ruleP999 : PolicyRule where
  priority := 999
  ruleId := "P999"
  description := "No matching governance rule; fail-safe deny"
  action := .deny

def builtinRules : List PolicyRule :=
  [ruleP10, ruleP20, ruleP30, ruleP35, ruleP40, ruleP50, ruleP100, ruleP900, ruleP999]

-- sorted(rules, key=priority)
def sortedRules (rules : List PolicyRule) : List PolicyRule :=
  rules.insertionSort fun rule other => rule.priority ≤ other.priority

-- The first of the states that has the check decides.
def checkState (context : RuntimeContext) (check : PyString) : Bool :=
  match context.liveState.lookup check with
  | some value => value.truthy
  | none =>
    match context.userAuthState.lookup check with
    | some value => value.truthy
    | none => ((context.budgetState.lookup check).map PyValue.truthy).getD false

def closedSurfaces : List ToolSurface :=
  [.remoteApi, .mcpSse, .mcpHttp, .swarm, .scheduler, .liveConnector, .channelBot]

def highRiskDeny : List RiskLevel := [.r4TradeWrite, .r5Shell]

def mustFailClosed (call : ToolCall) : Bool :=
  call.manifest.riskLevel ∈ highRiskDeny || call.context.surface ∈ closedSurfaces

def joinComma : List PyString → PyString
  | [] => .empty
  | first :: rest => rest.foldl (fun text item => text ++ ", " ++ item) first

def decisionOf (call : ToolCall) (audit : ParamAudit) (action : PolicyAction) (ruleId : PyString)
    (reasons requiredChecks : List PyString) : PolicyDecision where
  toolName := call.name
  action
  mode := call.context.mode
  reasons
  requiredChecks
  ruleId
  paramsHash := audit.paramsHash
  paramsPreview := audit.preview

def RuleAction.decided : RuleAction → PolicyAction
  | .allow | .allowIfAll => .allow
  | .warn => .warn
  | .deny => .deny

def decisionForRule (rule : PolicyRule) (call : ToolCall) (audit : ParamAudit) : PolicyDecision :=
  if rule.action = .allowIfAll then
    let missing := rule.requiredChecks.filter fun check => ! checkState call.context check
    if missing.isEmpty then
      decisionOf call audit .allow rule.ruleId [rule.description] rule.requiredChecks
    else
      decisionOf call audit .deny rule.ruleId
        [rule.description ++ "; missing required checks: " ++ joinComma missing]
        rule.requiredChecks
  else
    let action :=
      if rule.ruleId = "P900" then
        if call.context.mode = .enforce then .deny else .warn
      else rule.action.decided
    decisionOf call audit action rule.ruleId [rule.description] rule.requiredChecks

-- The decision of the first rule that applies
def firstDecision (call : ToolCall) (audit : ParamAudit) :
    List PolicyRule → Except PyError PolicyDecision
  | [] => .ok (decisionOf call audit .deny "no_match"
      ["No governance policy rule matched; fail-safe deny"] [])
  | rule :: rest => do
    if ← rule.applies call then return decisionForRule rule call audit
    else firstDecision call audit rest

variable [PyText] [AuditText]

def evaluate (rules : List PolicyRule) (room : Nat) (call : ToolCall) :
    Except PyError PolicyDecision := do
  let audit ← buildParamAudit room call.params
  match firstDecision call audit (sortedRules rules) with
  | .ok decision => return decision
  | .error raised =>
    if raised.isException then
      return decisionOf call audit (if mustFailClosed call then .deny else .warn)
        "policy_exception" ["PolicyEngine exception handled fail-safe: " ++ raised.name] []
    else .error raised

end SynapseYield.Governance
