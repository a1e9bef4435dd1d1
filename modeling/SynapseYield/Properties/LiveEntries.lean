import SynapseYield.Properties.SwarmTools

set_option autoImplicit false

namespace SynapseYield.Config.Schema

open Shared
open Tools.McpRegistry

-- A host without the dot that may end a DNS name
def dnsHost (host : PyString) : PyString :=
  if endsWith host "." then ⟨host.points.dropLast⟩ else host

section Hosts

variable {text ending host : PyString} {broker : LiveBroker}

theorem endsWith_last (filled : ending.points ≠ []) (ends : endsWith text ending = true) :
    text.points.getLast? = ending.points.getLast? := by
  obtain ⟨front, whole⟩ := List.isSuffixOf_iff_suffix.mp ends
  rw [← whole, List.getLast?_append_of_ne_nil _ filled]

theorem suffix_last (broker : LiveBroker) :
    broker.urlHostSuffix.points.getLast? = some 109 ∧
      ("." ++ broker.urlHostSuffix : PyString).points.getLast? = some 109 := by
  cases broker <;> decide

theorem host_undotted (found : liveBrokerKeyForHost host = some broker) :
    endsWith host "." = false := by
  rw [liveBrokerKeyForHost] at found
  split at found
  · cases found
  have matched := List.find?_some found
  rw [Bool.or_eq_true, decide_eq_true_eq] at matched
  have last : host.points.getLast? = some 109 := by
    rcases matched with rfl | ends
    · exact (suffix_last broker).1
    · have filled : ("." ++ broker.urlHostSuffix : PyString).points ≠ [] := List.cons_ne_nil _ _
      exact (endsWith_last filled ends).trans (suffix_last broker).2
  refine Bool.eq_false_iff.mpr fun dotted => ?_
  have dot := (endsWith_last (by decide) dotted).symm.trans last
  cases dot

end Hosts

section Entries

variable [PyText] [Url.UrlText]

-- The broker of an entry, by its key or by the DNS name of its host
def dnsBroker (serverKey url : PyString) : Option LiveBroker :=
  match liveBrokerNamed serverKey with
  | some broker => some broker
  | none => liveBrokerKeyForHost (dnsHost (urlHost url))

-- The broker of an entry that neither reader of the config takes for one
def missedBroker (serverKey url : PyString) : Option LiveBroker :=
  if liveBrokerNamed serverKey = none ∧ endsWith (urlHost url) "." = true then
    liveBrokerKeyForHost (dnsHost (urlHost url))
  else none

variable {serverKey url : PyString} {broker : LiveBroker} {server : MCPServerConfig}
  {servers : Servers}

theorem dnsBroker_cases (given : dnsBroker serverKey url = some broker) :
    missedBroker serverKey url = some broker ∨
      liveBrokerKeyForEntry serverKey url = some broker := by
  rw [missedBroker, liveBrokerKeyForEntry]
  rw [dnsBroker] at given
  cases named : liveBrokerNamed serverKey with
  | some own =>
    rw [named] at given
    exact .inr given
  | none =>
    rw [named] at given
    by_cases dotted : endsWith (urlHost url) "." = true
    · exact .inl ((if_pos ⟨rfl, dotted⟩).trans given)
    · rw [dnsHost, if_neg dotted] at given
      exact .inr given

theorem missed_cases (missed : missedBroker serverKey url = some broker) :
    dnsBroker serverKey url = some broker ∧ isLiveBroker serverKey url = false := by
  rw [missedBroker] at missed
  split at missed
  next unseen =>
    obtain ⟨unnamed, dotted⟩ := unseen
    rw [dnsBroker, isLiveBroker, unnamed]
    refine ⟨missed, ?_⟩
    cases found : liveBrokerKeyForUrl url with
    | none => rfl
    | some other =>
      rw [host_undotted found] at dotted
      cases dotted
  next => cases missed

theorem isLiveBroker_entry (found : liveBrokerKeyForEntry serverKey url = some broker) :
    isLiveBroker serverKey url = true := by
  rw [liveBrokerKeyForEntry] at found
  rw [isLiveBroker]
  cases named : liveBrokerNamed serverKey with
  | some own => rfl
  | none =>
    rw [named] at found
    rw [show liveBrokerKeyForUrl url = some broker from found]
    rfl

theorem accepted_scopes (accepted : validateLiveBrokerServers servers = true)
    (member : (serverKey, server) ∈ servers)
    (found : liveBrokerKeyForEntry serverKey server.url = some broker)
    (wildcard : ("*" : PyString) ∈ server.enabledTools) :
    allowsScopes broker server.authScopes = true := by
  have checked := List.all_eq_true.mp accepted _ member
  dsimp only at checked
  rw [allowsReadonlyWildcardProbe, found, decide_eq_true wildcard] at checked
  exact checked

end Entries

section Registered

variable [PyText] [Url.UrlText] (digests : Digest) (tries : Nat)
  (listTools : PyString → Option (List PyString))

-- What must hold of an entry of a live broker: no wildcard without the scopes that only read, and
-- none of its tools among those that are registered as they are
structure Guarded (segments : List (PyString × PyString)) (server : PyString × MCPServerConfig)
    (broker : LiveBroker) : Prop where
  narrow : ("*" : PyString) ∈ server.2.enabledTools →
    allowsScopes broker server.2.authScopes = true
  hidden : ∀ entries,
    serverEntries digests tries isLiveBroker listTools segments server = some entries → entries = []

def Guards (servers : Servers) : Prop :=
  ∀ segments, resolveMcpServerToolNameSegments digests tries (servers.map (·.1)) = some segments →
    ∀ server ∈ servers, ∀ broker, dnsBroker server.1 server.2.url = some broker →
      Guarded digests tries listTools segments server broker

def enabledTools (server : PyString × MCPServerConfig) : List PyString :=
  ((listTools server.1).getD []).filter fun name => toolIsEnabled name server.2.enabledTools

variable {digests tries listTools} {servers : Servers} {locals full : Registry}
  {segments : List (PyString × PyString)} {server : PyString × MCPServerConfig}
  {entries : List (PyString × Tool)} {broker : LiveBroker}

omit [Url.UrlText] in
theorem specsFrom_length {segment : PyString} {tools : List PyString}
    {seen specs : List (PyString × PyString)}
    (found : specsFrom digests tries segment tools seen = some specs) :
    specs.length = tools.length := by
  induction tools generalizing seen specs with
  | nil =>
    cases found
    rfl
  | cons remoteName rest ih =>
    obtain ⟨localName, -, found⟩ := Option.bind_eq_some_iff.mp found
    obtain ⟨later, done, same⟩ := Option.bind_eq_some_iff.mp found
    cases same
    rw [List.length_cons, List.length_cons, ih done]

omit [Url.UrlText] in
theorem serverEntries_empty {live : PyString → PyString → Bool}
    (found : serverEntries digests tries live listTools segments server = some entries) :
    entries = [] ↔ discoveredTools live listTools server = [] := by
  obtain ⟨segment, -, found⟩ := Option.bind_eq_some_iff.mp found
  obtain ⟨specs, named, same⟩ := Option.bind_eq_some_iff.mp found
  cases same
  have length := specsFrom_length named
  rw [List.map_eq_nil_iff, ← List.length_eq_zero_iff, length, List.length_eq_zero_iff]

omit [Url.UrlText] in
theorem registerServers_entries {live : PyString → PyString → Bool}
    (built : registerServers digests tries live listTools segments servers locals = some full)
    (member : server ∈ servers) :
    ∃ entries, serverEntries digests tries live listTools segments server = some entries := by
  induction servers generalizing locals with
  | nil => cases member
  | cons first rest ih =>
    obtain ⟨entries, found, built⟩ := Option.bind_eq_some_iff.mp built
    rcases List.mem_cons.mp member with rfl | later
    · exact ⟨entries, found⟩
    · exact ih built later

theorem guarded_detected (accepted : validateLiveBrokerServers servers = true)
    (member : server ∈ servers)
    (found : liveBrokerKeyForEntry server.1 server.2.url = some broker) :
    Guarded digests tries listTools segments server broker := by
  refine ⟨accepted_scopes accepted member found, fun entries registered => ?_⟩
  refine (serverEntries_empty registered).mpr ?_
  rw [discoveredTools, if_pos (isLiveBroker_entry found)]

theorem guarded_missed (missed : missedBroker server.1 server.2.url = some broker)
    (registered : ∃ entries,
      serverEntries digests tries isLiveBroker listTools segments server = some entries) :
    Guarded digests tries listTools segments server broker ↔
      (("*" : PyString) ∈ server.2.enabledTools →
        allowsScopes broker server.2.authScopes = true) ∧ enabledTools listTools server = [] := by
  have tools : discoveredTools isLiveBroker listTools server = enabledTools listTools server := by
    rw [discoveredTools, (missed_cases missed).2]
    rfl
  constructor
  · rintro ⟨narrow, hidden⟩
    obtain ⟨entries, registered⟩ := registered
    refine ⟨narrow, ?_⟩
    rw [← tools]
    exact (serverEntries_empty registered).mp (hidden entries registered)
  · rintro ⟨narrow, unlisted⟩
    refine ⟨narrow, fun entries registered => (serverEntries_empty registered).mpr ?_⟩
    rw [tools, unlisted]

theorem guards_iff (accepted : validateLiveBrokerServers servers = true)
    (built : buildRegistry digests tries isLiveBroker listTools locals servers none = some full) :
    Guards digests tries listTools servers ↔
      ∀ server ∈ servers, ∀ broker, missedBroker server.1 server.2.url = some broker →
        (("*" : PyString) ∈ server.2.enabledTools →
          allowsScopes broker server.2.authScopes = true) ∧ enabledTools listTools server = [] := by
  obtain ⟨segments, resolved, registered⟩ := Option.bind_eq_some_iff.mp built
  constructor
  · intro guards server member broker missed
    have guarded := guards segments resolved server member broker (missed_cases missed).1
    exact (guarded_missed missed (registerServers_entries registered member)).mp guarded
  · intro harmless segments again server member broker given
    cases resolved.symm.trans again
    rcases dnsBroker_cases given with missed | found
    · exact (guarded_missed missed (registerServers_entries registered member)).mpr
        (harmless server member broker missed)
    · exact guarded_detected accepted member found

end Registered

section Dotted

@[reducible] def plainUrl : Url.UrlText := ⟨id, fun _ => true⟩

def dottedServers : Servers := [("rh", ⟨"https://agent.robinhood.com./mcp", ["*"], none⟩)]

def undottedServers : Servers :=
  [("rh", ⟨"https://agent.robinhood.com:443/mcp", ["get_accounts"], none⟩),
    (" IBKR ", ⟨"https://api.ibkr.com/v1/api/mcp", ["*"], some ["mcp.read"]⟩)]

def orderTools (_ : PyString) : Option (List PyString) := some ["place_equity_order"]

theorem undottedServers_guarded :
    @Guards asciiText plainUrl zeroDigest 1 orderTools undottedServers := by
  let text := asciiText
  let host := plainUrl
  refine (@guards_iff text host zeroDigest 1 orderTools undottedServers [] [] (by decide +kernel)
    (by decide +kernel)).mpr ?_
  have unmissed : ∀ server ∈ undottedServers, missedBroker server.1 server.2.url = none := by
    decide +kernel
  intro server member broker missed
  cases (unmissed server member).symm.trans missed

theorem dottedServers_unguarded :
    @validateLiveBrokerServers asciiText plainUrl dottedServers = true ∧
      ¬ @Guards asciiText plainUrl zeroDigest 1 orderTools dottedServers := by
  let text := asciiText
  let host := plainUrl
  refine ⟨by decide +kernel, fun guards => ?_⟩
  have guarded := guards [("rh", "rh")] (by decide +kernel) _ (List.mem_singleton_self _) .robinhood
    (by decide +kernel)
  exact absurd (guarded.narrow (by decide +kernel)) (by decide +kernel)

end Dotted

end SynapseYield.Config.Schema
