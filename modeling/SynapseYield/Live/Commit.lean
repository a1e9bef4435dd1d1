import SynapseYield.Live.Audit
import SynapseYield.Live.Store

set_option autoImplicit false

namespace SynapseYield.Live

open Shared

-- The digest of the consent token, and the time some days later as isoformat writes it.
class Stamping where
  sha256 : PyString → AsciiString
  later : Moment → Int → Except PyError AsciiString

namespace Commit

def hexDigits : List CodePoint := ("0123456789abcdef" : PyString).points

-- _PROPOSAL_ID_RE
def isProposalId (proposalId : PyString) : Bool :=
  proposalId.points.take 3 = ("mp_" : PyString).points && proposalId.points.length = 35 &&
    (proposalId.points.drop 3).all (· ∈ hexDigits)

section Values

-- isinstance(value, (int, float)), with its value
def number? : PyValue → Option Number
  | .bool b => some (.finite (if b then 1 else 0))
  | .int n => some (.finite n)
  | .float x => some x
  | _ => none

-- value or other
def orElse (value other : PyValue) : PyValue := if value.truthy then value else other

-- d.get(key, default)
def getOr (d : PyDict) (key : PyString) (default : PyValue) : PyValue :=
  (d.lookup key).getD default

variable [PyText]

-- dict(value) of a JSON value. Keys that are no strings name no limit.
def dictOf : PyValue → Except PyError PyDict
  | .dict entries => .ok entries
  | value => do
    (← value.iter).foldlM (fun entries item => do
      match ← item.iter with
      | [key, held] =>
        match key with
        | .str name => return PyDict.set entries name held
        | key => if PyText.hashable key then return entries else .error .typeError
      | _ => .error .valueError) []

end Values

section Limits

-- _CEILING_ALIASES
def ceilingAliases : List (PyString × PyString) :=
  [("max_order_usd", "max_order_notional_usd"),
    ("max_order_notional_usd", "max_order_notional_usd"),
    ("daily_trade_cap", "max_trades_per_day"), ("max_trades_per_day", "max_trades_per_day"),
    ("leverage", "leverage"), ("max_leverage", "leverage"),
    ("instruments", "allowed_instruments"), ("allowed_instruments", "allowed_instruments")]

def canonicalOf : PyValue → Option PyString
  | .str rawKey => ceilingAliases.lookup rawKey
  | _ => none

def normalizeLimit (normalized : PyDict) (entry : PyValue × PyValue) : PyDict :=
  match canonicalOf entry.1 with
  | none => normalized
  | some canonical =>
    if entry.1.isKey canonical || (normalized.lookup canonical).isNone then
      PyDict.set normalized canonical entry.2
    else normalized

def normalizeLimits (source : PyDict) : PyDict := source.foldl normalizeLimit []

-- value in ("none", None, 1, 1.0)
def cashOnly (value : PyValue) : Bool :=
  value.isKey "none" || value.isNone || number? value = some (.finite 1)

def fitsCeiling (prof : PyDict) (ceiling : PyValue × PyValue) : Bool :=
  match ceiling.1 with
  | .str key =>
    match prof.lookup key with
    | none => true
    | some profValue =>
      match number? ceiling.2, number? profValue with
      | some limit, some value => ! decide (limit < value)
      | _, _ => ! (decide (key = "leverage") && ceiling.2.isKey "none" && ! cashOnly profValue)
  | _ => true

def profileFitsCeilings (profile ceilings : PyDict) : Bool :=
  (normalizeLimits ceilings).all (fitsCeiling (normalizeLimits profile))

end Limits

variable [PyText]

section Profiles

-- The profile with an ordinal: only a dict has a get.
def findProfile (ordinal : Int) : List PyValue → Except PyError (Option PyDict)
  | [] => .ok none
  | .dict profile :: rest => do
    if (← (getOr profile "ordinal" (.int (-1))).toInt) = ordinal then return some profile
    findProfile ordinal rest
  | _ :: _ => .error .other

-- An adjustment that widens a number is refused.
def widens (current value : PyValue) : Bool :=
  match number? current, number? value with
  | some limit, some wanted => decide (limit < wanted)
  | _, _ => false

def adjust (resolved : PyDict) (entry : PyValue × PyValue) : Except PyError PyDict :=
  match entry.1 with
  | .str key =>
    match resolved.lookup key with
    | none => .error .valueError
    | some current =>
      if widens current entry.2 then .error .valueError
      else .ok (PyDict.set resolved key entry.2)
  | _ => .error .valueError

def resolveProfile (proposal : PyDict) (ordinal : Int) (adjustments : Option PyDict) :
    Except PyError PyDict := do
  let profiles ← (orElse (proposal.get "profiles") (.list [])).iter
  match ← findProfile ordinal profiles with
  | none => .error .valueError
  | some profile => (adjustments.getD []).foldlM adjust profile

-- What _profile_to_hard_caps writes, before it is a dict
structure Caps where
  accountFundingUsd : Number
  maxOrderNotionalUsd : Number
  maxTotalExposureUsd : Number
  maxLeverage : Number
  allowedInstruments : List PyValue
  maxTradesPerDay : Int

def leverageOf (leverageRaw : PyValue) : Except PyError Number :=
  if leverageRaw.isKey "none" || leverageRaw.isNone then .ok (.finite 1) else leverageRaw.toFloat

def numberOr (x other : Number) : Number := if x = .finite 0 then other else x

def profileToHardCaps (profile : PyDict) : Except PyError Caps := do
  let maxLeverage ← leverageOf (getOr profile "leverage" (.str "none"))
  let instruments ← (orElse (profile.get "instruments") (.list [.str "equity"])).iter
  let funding ← (orElse (getOr profile "account_funding_usd"
    (getOr profile "max_total_exposure_usd" (.float 0))) (.float 0)).toFloat
  let maxOrder ← (orElse (getOr profile "max_order_usd" (.float 0)) (.float 0)).toFloat
  let maxExposure ← (orElse (getOr profile "max_total_exposure_usd"
    (.float (numberOr funding maxOrder))) (.float maxOrder)).toFloat
  return {
    accountFundingUsd := numberOr funding maxExposure
    maxOrderNotionalUsd := maxOrder
    maxTotalExposureUsd := maxExposure
    maxLeverage
    allowedInstruments := instruments
    maxTradesPerDay := ← (orElse (getOr profile "daily_trade_cap" (.int 0)) (.int 0)).toInt }

def Caps.document (caps : Caps) : PyDict :=
  fields [
    ("account_funding_usd", .float caps.accountFundingUsd),
    ("max_order_notional_usd", .float caps.maxOrderNotionalUsd),
    ("max_total_exposure_usd", .float caps.maxTotalExposureUsd),
    ("max_leverage", .float caps.maxLeverage),
    ("allowed_instruments", .list caps.allowedInstruments),
    ("max_trades_per_day", .int caps.maxTradesPerDay)]

def profileToUniverse (profile : PyDict) : Except PyError PyDict := do
  let assetClasses ← (orElse (profile.get "asset_classes") (.list [.str "us_equity"])).iter
  let excludeSymbols ← (orElse (profile.get "exclude_symbols") (.list [])).iter
  return fields [
    ("asset_classes", .list assetClasses),
    ("min_market_cap_usd", profile.get "min_market_cap_usd"),
    ("min_avg_daily_volume_usd", profile.get "min_avg_daily_volume_usd"),
    ("exclude_symbols", .list excludeSymbols)]

end Profiles

-- The arguments of commit_mandate
structure Request where
  proposalId : PyString
  ordinal : Int
  adjustments : Option PyDict := none
  consentAck : Bool
  broker : PyString
  accountRef : PyString := .empty
  sessionId : Option PyString := none
  ceilingsRef : Option PyDict := none
  lifetimeDays : Int := 30
  flattenOnHalt : Option Bool := none

def loadProposal (broker proposalId : PyString) : Program (Option PyDict) := do
  if isProposalId proposalId then
    match brokerDir broker with
    | .error _ => return none
    | .ok key =>
      match ← ask (.readJson (.proposal key proposalId)) with
      | .ok (some (.dict proposal)) => return some proposal
      | .ok _ => return none
      | .error .osError => return none
      | .error .valueError => return none
      | .error raised => throw raised
  else return none

def Request.ceilings (request : Request) (proposal : PyDict) : Except PyError PyDict :=
  match request.ceilingsRef with
  | some ceilings => .ok ceilings
  | none => dictOf (orElse (proposal.get "ceilings") (.dict []))

def Request.resolve (request : Request) (proposal : PyDict) : Except PyError PyDict := do
  let resolved ← resolveProfile proposal request.ordinal request.adjustments
  let ceilings ← request.ceilings proposal
  if profileFitsCeilings resolved ceilings then return resolved
  else throw .valueError

-- isoformat of a time in UTC, with Z in place of +00:00
def zulu (iso : AsciiString) : PyString :=
  if ("+00:00" : PyString).points <:+ iso.val.points then
    ⟨iso.val.points.dropLast.dropLast.dropLast.dropLast.dropLast.dropLast⟩ ++ ("Z" : PyString)
  else iso.val

-- What a commit draws up of a profile that has passed the checks
structure Draft where
  mandateId : PyString
  consentRecordId : PyString
  consentToken : PyString
  createdIso : PyString
  expiresIso : PyString
  flatten : Bool
  caps : Caps
  universeSection : PyDict

def optString : Option PyString → PyValue
  | some text => .str text
  | none => .none

def Draft.mandateDoc (draft : Draft) (request : Request) : PyValue :=
  .dict (fields [
    ("schema_version", .int mandateSchemaVersion),
    ("mandate_id", .str draft.mandateId),
    ("hard_caps", .dict draft.caps.document),
    ("universe", .dict draft.universeSection),
    ("flatten_on_halt", .bool draft.flatten),
    ("consent", .dict (fields [
      ("created_at", .str draft.createdIso),
      ("consent_token_sha256", .str draft.consentToken),
      ("broker", .str request.broker),
      ("account_ref", .str request.accountRef),
      ("expires_at", .str draft.expiresIso)]))])

def Draft.consentRecord (draft : Draft) (request : Request) (proposal resolved : PyDict) :
    PyValue :=
  .dict (fields [
    ("consent_record_id", .str draft.consentRecordId),
    ("mandate_id", .str draft.mandateId),
    ("proposal_id", .str request.proposalId),
    ("selected_ordinal", .int request.ordinal),
    ("adjustments", match request.adjustments with
      | some (entry :: rest) => .dict (entry :: rest)
      | _ => .none),
    ("consent_ack", .bool true),
    ("session_id", optString request.sessionId),
    ("broker", .str request.broker),
    ("account_ref", .str request.accountRef),
    ("resolved_profile", .dict resolved),
    ("flatten_on_halt", .bool draft.flatten),
    ("ceilings_ref", proposal.get "ceilings_ref"),
    ("created_at", .str draft.createdIso),
    ("expires_at", .str draft.expiresIso)])

def bar : PyString := "|"

def draw [Stamping] (request : Request) (resolved : PyDict) : Program Draft := do
  let created ← ask .utcNow
  let expires ← attempt (Stamping.later created (max 1 request.lifetimeDays))
  let mandateId := ("mandate_" : PyString) ++ (← ask .newId).val
  let consentRecordId := ("cr_" : PyString) ++ (← ask .newId).val
  let createdIso := zulu created.iso
  let ordinal ← attempt (PyValue.int request.ordinal).toStr
  let material :=
    request.proposalId ++ bar ++ ordinal ++ bar ++ consentRecordId ++ bar ++ createdIso
  let caps ← attempt (profileToHardCaps resolved)
  let universeSection ← attempt (profileToUniverse resolved)
  return {
    mandateId, consentRecordId
    consentToken := (Stamping.sha256 material).val
    createdIso
    expiresIso := zulu expires
    flatten := request.flattenOnHalt.getD (getOr resolved "flatten_on_halt" (.bool false)).truthy
    caps, universeSection }

def summary (request : Request) (draft : Draft) (resolved : PyDict) : PyDict :=
  fields [
    ("mandate_id", .str draft.mandateId),
    ("consent_record_id", .str draft.consentRecordId),
    ("broker", .str request.broker),
    ("expires_at", .str draft.expiresIso),
    ("resolved_profile", .dict resolved)]

-- The unlinking of a file that is not there counts as done.
def commitMandate [Stamping] (request : Request) : Program PyDict := do
  if request.consentAck then
    match ← loadProposal request.broker request.proposalId with
    | none => throw .valueError
    | some proposal => do
      let resolved ← attempt (request.resolve proposal)
      let draft ← draw request resolved
      let key ← attempt (brokerDir request.broker)
      writeJson (.mandate key) (draft.mandateDoc request)
      writeJson (.consent key draft.consentRecordId) (draft.consentRecord request proposal resolved)
      attempt (← ask (.unlink (.proposal key request.proposalId)))
      return summary request draft resolved
  else throw .valueError

end Commit

end SynapseYield.Live
