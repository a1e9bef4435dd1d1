import SynapseYield.Shared.Python
import SynapseYield.Shared.Table

set_option autoImplicit false

namespace SynapseYield.Governance

open Shared

inductive ToolSurface where
  | cli
  | localApi
  | remoteApi
  | mcpStdio
  | mcpSse
  | mcpHttp
  | swarm
  | scheduler
  | backtestSubprocess
  | liveConnector
  | channelBot
deriving DecidableEq, Repr

inductive RiskLevel where
  | r0Read
  | r1WriteLocal
  | r2Network
  | r3TradeRead
  | r4TradeWrite
  | r5Shell
  | unclassified
deriving DecidableEq, Repr

inductive SecretAccess where
  | none
  | marketDataRead
  | llm
  | apiAuth
  | broker
deriving DecidableEq, Repr

inductive AllowedMode where
  | research
  | paper
  | advisory
  | live
deriving DecidableEq, Repr

structure ToolManifest where
  name : PyString
  surface : ToolSurface
  readonly : Bool
  repeatable : Bool
  riskLevel : RiskLevel
  requiresAuth : Bool
  requiresConsent : Bool
  allowedModes : List AllowedMode
  secretAccess : SecretAccess
  timeoutSeconds : Int
  sideEffects : List PyString
  liveClassification : Option PyString

-- A registered tool: its attributes, and the names of its class and module.
structure Tool where
  name : PyString
  description : PyString
  className : PyString
  moduleName : PyString
  isReadonly : Bool
  repeatable : Bool
  timeoutSeconds : Option Int
  liveClassification : Option PyString

def shellToolNames : List PyString := ["bash", "background_run"]

def tradeWriteTerms : List PyString :=
  ["place_order", "cancel_order", "modify_order", "submit_order", "flatten", "trade_write",
    "order_write", "select_connection"]

def tradeReadTerms : List PyString :=
  ["account", "balance", "broker", "connector", "order", "position", "portfolio", "trading",
    "history", "quote", "connection"]

def networkTerms : List PyString :=
  ["market_data", "web_", "web.", "url", "news", "sec_", "sec.", "fred", "iwencai",
    "dragon_tiger", "northbound", "fund_flow", "financial_statements", "stock_profile",
    "research_reports", "macro", "media", "filing", "mcp_"]

def localWriteTerms : List PyString :=
  ["write", "edit", "remember", "journal", "save", "create", "delete", "copy"]

def knownLocalModulePrefixes : List PyString :=
  ["src.tools.", "src.memory.", "src.goal.", "src.autopilot.", "src.live."]

-- term in value
def within (term value : PyString) : Bool := value.points.tails.any (term.points.isPrefixOf ·)

def containsAny (value : PyString) (terms : List PyString) : Bool := terms.any (within · value)

def startsWithAny (value : PyString) (prefixes : List PyString) : Bool :=
  prefixes.any (·.points.isPrefixOf value.points)

section Discovery

variable [PyText]

def classifyRisk (tool : Tool) : RiskLevel :=
  let name := tool.name.lower
  let module := tool.moduleName.lower
  let combined := module ++ "." ++ tool.className.lower ++ "." ++ name ++ "." ++
    tool.description.lower
  if name ∈ shellToolNames || within "shell" combined || within "subprocess" combined ||
      within "generated code" combined then .r5Shell
  else if containsAny combined tradeWriteTerms ||
      (! tool.isReadonly && within "trading_connector" module) then .r4TradeWrite
  else if containsAny combined tradeReadTerms &&
      (within "trading" combined || within "broker" combined || within "connector" combined) then
    .r3TradeRead
  else if containsAny combined networkTerms then .r2Network
  else if ! tool.isReadonly then
    if startsWithAny module knownLocalModulePrefixes || containsAny combined localWriteTerms then
      .r1WriteLocal
    else .unclassified
  else if startsWithAny module knownLocalModulePrefixes then .r0Read
  else .unclassified

def looksLiveConnector (tool : Tool) : Bool :=
  let module := tool.moduleName.lower
  let name := tool.name.lower
  within "src.live." module || startsWithAny name ["trading_"] ||
    within "broker" (module ++ "." ++ name)

def allowedModesFor : RiskLevel → List AllowedMode
  | .r4TradeWrite => [.live]
  | .r3TradeRead => [.research, .paper, .advisory, .live]
  | _ => [.research, .paper, .advisory]

def secretAccessFor : RiskLevel → SecretAccess
  | .r3TradeRead | .r4TradeWrite => .broker
  | .r2Network => .marketDataRead
  | _ => .none

def sideEffectsFor (risk : RiskLevel) (readonly : Bool) : List PyString :=
  match risk with
  | .r5Shell => ["process_execution"]
  | .r4TradeWrite => ["live_trade_write"]
  | .r3TradeRead => ["broker_read"]
  | .r2Network => ["network"]
  | .r1WriteLocal => ["local_write"]
  | _ => if readonly then [] else ["unknown_write"]

def discoverToolManifest (tool : Tool) (surface : ToolSurface) : ToolManifest :=
  let risk := classifyRisk tool
  { name := tool.name
    surface
    readonly := tool.isReadonly
    repeatable := tool.repeatable
    riskLevel := risk
    requiresAuth := risk = .r3TradeRead || risk = .r4TradeWrite
    requiresConsent := risk = .r4TradeWrite
    allowedModes := allowedModesFor risk
    secretAccess := secretAccessFor risk
    timeoutSeconds := (tool.timeoutSeconds.filter (· ≠ 0)).getD 30
    sideEffects := sideEffectsFor risk tool.isReadonly
    liveClassification :=
      match tool.liveClassification with
      | some given => some given
      | none =>
        if looksLiveConnector tool then some (if tool.isReadonly then "READ" else "WRITE")
        else none }

-- The manifest that the cache keeps of a tool
def cachedManifest (tool : Tool) (surface : ToolSurface) : ToolManifest :=
  let manifest := discoverToolManifest tool surface
  if manifest.riskLevel = .unclassified then
    { manifest with riskLevel := if manifest.readonly then .r0Read else .r1WriteLocal }
  else manifest

end Discovery

structure ManifestCache where
  surface : ToolSurface
  manifests : Table PyString ToolManifest ToolManifest.name

namespace ManifestCache

def unknown (cache : ManifestCache) (name : PyString) : ToolManifest where
  name
  surface := cache.surface
  readonly := false
  repeatable := false
  riskLevel := .unclassified
  requiresAuth := false
  requiresConsent := false
  allowedModes := [.research]
  secretAccess := .none
  timeoutSeconds := 30
  sideEffects := ["unknown"]
  liveClassification := none

def get (cache : ManifestCache) (name : PyString) : ToolManifest :=
  (cache.manifests.find? name).getD (cache.unknown name)

variable [PyText]

def register (cache : ManifestCache) (tool : Tool) : ManifestCache :=
  { cache with manifests := cache.manifests.put (cachedManifest tool cache.surface) }

def fromRegistry (tools : Table PyString Tool Tool.name) (surface : ToolSurface) : ManifestCache :=
  tools.rows.foldl register ⟨surface, .empty⟩

end ManifestCache

end SynapseYield.Governance
