import SynapseYield.Shared.Python
import SynapseYield.Shared.Url

set_option autoImplicit false

namespace SynapseYield.Config.Schema

open Shared

inductive LiveBroker where
  | robinhood
  | ibkr
deriving DecidableEq

namespace LiveBroker

def all : List LiveBroker := [.robinhood, .ibkr]

def key : LiveBroker → PyString
  | .robinhood => "robinhood"
  | .ibkr => "ibkr"

def urlHostSuffix : LiveBroker → PyString
  | .robinhood => "robinhood.com"
  | .ibkr => "ibkr.com"

-- The scopes of a probe that only reads, where the broker has one
def requiredScopes : LiveBroker → List PyString
  | .robinhood => []
  | .ibkr => ["mcp.read"]

def allowedExtraScopes : LiveBroker → List PyString
  | .robinhood => []
  | .ibkr => ["openid", "profile", "email", "account-ids"]

def writeScopes : LiveBroker → List PyString
  | .robinhood => []
  | .ibkr => ["mcp.write"]

end LiveBroker

structure MCPServerConfig where
  url : PyString
  enabledTools : List PyString
  -- The scopes of its OAuth, when it has any
  authScopes : Option (List PyString)

-- The servers of a config under their keys
abbrev Servers := List (PyString × MCPServerConfig)

def endsWith (text ending : PyString) : Bool := ending.points.isSuffixOf text.points

-- The broker that has a host
def liveBrokerKeyForHost (host : PyString) : Option LiveBroker :=
  if host = "" then none
  else LiveBroker.all.find? fun broker =>
    decide (host = broker.urlHostSuffix) || endsWith host ("." ++ broker.urlHostSuffix)

section Entries

variable [PyText]

-- No host where urlsplit raises a ValueError
def urlHost [Url.UrlText] (url : PyString) : PyString :=
  if url.strip = "" then ""
  else
    match Url.hostname url.strip.points with
    | none => ""
    | some host => PyString.lower ⟨host⟩

def liveBrokerKeyForUrl [Url.UrlText] (url : PyString) : Option LiveBroker :=
  liveBrokerKeyForHost (urlHost url)

def liveBrokerNamed (serverKey : PyString) : Option LiveBroker :=
  LiveBroker.all.find? fun broker => broker.key = serverKey.strip.lower

def liveBrokerKeyForEntry [Url.UrlText] (serverKey url : PyString) : Option LiveBroker :=
  match liveBrokerNamed serverKey with
  | some broker => some broker
  | none => liveBrokerKeyForUrl url

def allowsScopes (broker : LiveBroker) (authScopes : Option (List PyString)) : Bool :=
  match broker.requiredScopes, authScopes with
  | [], _ | _, none => false
  | required, some given =>
    let scopes := (given.filter fun scope => scope.strip ≠ PyString.empty).map PyString.strip
    required.all (· ∈ scopes) && ! scopes.any (· ∈ broker.writeScopes) &&
      scopes.all fun scope => scope ∈ required ++ broker.allowedExtraScopes

def allowsReadonlyWildcardProbe [Url.UrlText] (serverKey : PyString) (server : MCPServerConfig) :
    Bool :=
  match liveBrokerKeyForEntry serverKey server.url with
  | none => false
  | some broker => allowsScopes broker server.authScopes

-- Whether the config is accepted
def validateLiveBrokerServers [Url.UrlText] (servers : Servers) : Bool :=
  servers.all fun (serverKey, server) =>
    ! ((liveBrokerKeyForEntry serverKey server.url).isSome &&
      decide (("*" : PyString) ∈ server.enabledTools)) ||
      allowsReadonlyWildcardProbe serverKey server

-- What build_registry asks of a server
def isLiveBroker [Url.UrlText] (serverName url : PyString) : Bool :=
  (liveBrokerNamed serverName).isSome || (liveBrokerKeyForUrl url).isSome

end Entries

end SynapseYield.Config.Schema
