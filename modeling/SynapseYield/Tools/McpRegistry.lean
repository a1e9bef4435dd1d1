import SynapseYield.Config.Schema
import SynapseYield.Shared.Naming

set_option autoImplicit false

namespace SynapseYield.Tools.McpRegistry

open Shared
open Config.Schema (MCPServerConfig Servers)

def isNameChar (c : CodePoint) : Bool := Ascii.isLower c || Ascii.isDigit c

-- The first eight digits of the SHA-1 of a name, which is salted from the second try on
structure Digest where
  digest : PyString → Nat → PyString
  hex : ∀ name salt, (digest name salt).points ≠ [] ∧
    (digest name salt).points.all isNameChar = true

-- A run of other characters becomes one underscore.
def subGaps : Bool → List CodePoint → List CodePoint
  | _, [] => []
  | inGap, c :: rest =>
    if isNameChar c then c :: subGaps false rest
    else if inGap then subGaps true rest
    else 95 :: subGaps true rest

def stripUnderscores (points : List CodePoint) : List CodePoint :=
  ((points.dropWhile (· = 95)).reverse.dropWhile (· = 95)).reverse

section Names

variable [PyText]

def sanitizeNameSegment (value : PyString) : PyString :=
  let normalized := stripUnderscores (subGaps false value.strip.lower.points)
  if normalized = [] then "tool" else ⟨normalized⟩

def makeMcpToolName (serverName toolName : PyString) : PyString :=
  "mcp_" ++ sanitizeNameSegment serverName ++ "_" ++ sanitizeNameSegment toolName

end Names

inductive Tool where
  | locally (name : PyString)
  | remote (serverName remoteName : PyString)
deriving DecidableEq

-- An ordered dict
abbrev Registry := List (PyString × Tool)

def Registry.register (registry : Registry) (entry : PyString × Tool) : Registry :=
  if registry.any (·.1 = entry.1) then
    registry.map fun held => if held.1 = entry.1 then entry else held
  else registry ++ [entry]

def toolIsEnabled (toolName : PyString) (enabledTools : List PyString) : Bool :=
  decide (("*" : PyString) ∈ enabledTools) || decide (toolName ∈ enabledTools)

def startsWith (text front : PyString) : Bool := front.points.isPrefixOf text.points

-- The tries of the loops for a name that is free are bounded, and none is for what comes back
-- from no try.
section Building

variable [PyText] (digests : Digest) (tries : Nat)

def dedupeServerNameSegment (baseSegment serverName : PyString) (usedSegments : List PyString) :
    Option PyString :=
  Naming.firstFree (fun segment => segment ∉ usedSegments)
    (fun salt => baseSegment ++ "_" ++ digests.digest serverName salt) tries 0

def serverSegment (orderedNames usedSegments : List PyString) (serverName : PyString) :
    Option PyString :=
  let baseSegment := sanitizeNameSegment serverName
  if orderedNames.countP (fun name => sanitizeNameSegment name = baseSegment) = 1 ∧
      baseSegment ∉ usedSegments then some baseSegment
  else dedupeServerNameSegment digests tries baseSegment serverName usedSegments

def resolveFrom (orderedNames : List PyString) :
    List PyString → List PyString → Option (List (PyString × PyString))
  | [], _ => some []
  | serverName :: rest, usedSegments => do
    let segment ← serverSegment digests tries orderedNames usedSegments serverName
    let later ← resolveFrom orderedNames rest (segment :: usedSegments)
    return (serverName, segment) :: later

def resolveMcpServerToolNameSegments (serverNames : List PyString) :
    Option (List (PyString × PyString)) :=
  resolveFrom digests tries serverNames serverNames []

def dedupeLocalToolName (candidate remoteName : PyString)
    (seenNames : List (PyString × PyString)) : Option PyString :=
  match seenNames.lookup candidate with
  | none => some candidate
  | some existing =>
    if existing = remoteName then some candidate
    else Naming.firstFree (fun name => ! (seenNames.lookup name).any (· ≠ remoteName))
      (fun salt => candidate ++ "_" ++ digests.digest remoteName salt) tries 0

-- The local names of the tools of one server. The last of the seen names of a kind is the one
-- that counts, so that they come first.
def specsFrom (localServerName : PyString) :
    List PyString → List (PyString × PyString) → Option (List (PyString × PyString))
  | [], _ => some []
  | remoteName :: rest, seenNames => do
    let localName ← dedupeLocalToolName digests tries (makeMcpToolName localServerName remoteName)
      remoteName seenNames
    let later ← specsFrom localServerName rest ((localName, remoteName) :: seenNames)
    return (localName, remoteName) :: later

variable (isLiveBroker : PyString → PyString → Bool)
  (listTools : PyString → Option (List PyString))

-- The tools of a server that get a name: none where it is a live broker, or where it fails to list
-- its tools
def discoveredTools (server : PyString × MCPServerConfig) : List PyString :=
  if isLiveBroker server.1 server.2.url then []
  else ((listTools server.1).getD []).filter fun name => toolIsEnabled name server.2.enabledTools

-- What one server adds
def serverEntries (segments : List (PyString × PyString)) (server : PyString × MCPServerConfig) :
    Option (List (PyString × Tool)) := do
  let segment ← segments.lookup server.1
  let specs ← specsFrom digests tries segment (discoveredTools isLiveBroker listTools server) []
  return specs.map fun spec => (spec.1, .remote server.1 spec.2)

def registerServers (segments : List (PyString × PyString)) :
    Servers → Registry → Option Registry
  | [], registry => some registry
  | server :: rest, registry => do
    let entries ← serverEntries digests tries isLiveBroker listTools segments server
    registerServers segments rest (entries.foldl Registry.register registry)

def buildRegistry (locals : Registry) (servers : Servers)
    (mcpServerToolNameSegments : Option (List (PyString × PyString))) : Option Registry := do
  let segments ← match mcpServerToolNameSegments with
    | none => resolveMcpServerToolNameSegments digests tries (servers.map (·.1))
    | some segments => some segments
  registerServers digests tries isLiveBroker listTools segments servers locals

def pruneAgentConfig (servers : Servers) (toolNames : List PyString) :
    Option (Servers × Option (List (PyString × PyString))) :=
  if servers = [] then some (servers, none)
  else
    let requested := toolNames.filter fun name => startsWith name "mcp_"
    if requested = [] then some ([], none)
    else do
      let segments ← resolveMcpServerToolNameSegments digests tries (servers.map (·.1))
      let selected := servers.filter fun server => (segments.lookup server.1).any fun segment =>
        requested.any fun name => startsWith name ("mcp_" ++ segment ++ "_")
      return (selected, some (selected.filterMap fun server =>
        (segments.lookup server.1).map fun segment => (server.1, segment)))

def filterRegistry (full : Registry) (toolNames : List PyString) : Registry :=
  toolNames.foldl (fun filtered name =>
    match full.lookup name with
    | some tool => filtered.register (name, tool)
    | none => filtered) []

def buildSwarmRegistry (locals : Registry) (servers : Servers) (toolNames : List PyString) :
    Option Registry := do
  let (selected, segments) ← pruneAgentConfig digests tries servers toolNames
  let full ← buildRegistry digests tries isLiveBroker listTools locals selected segments
  return filterRegistry full toolNames

end Building

end SynapseYield.Tools.McpRegistry
