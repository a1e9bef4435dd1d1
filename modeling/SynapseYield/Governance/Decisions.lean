import SynapseYield.Governance.Manifest
import SynapseYield.Shared.Json
import SynapseYield.Shared.JsonContents
import SynapseYield.Shared.Lines

set_option autoImplicit false

namespace SynapseYield.Governance

open Shared JsonText

inductive GovernanceMode where
  | off
  | observe
  | warn
  | enforce
deriving DecidableEq, Repr

inductive PolicyAction where
  | allow
  | warn
  | deny
deriving DecidableEq, Repr

structure RuntimeContext where
  surface : ToolSurface
  mode : GovernanceMode
  sessionId : Option PyString
  runId : Option PyString
  userAuthState : PyDict
  liveState : PyDict
  budgetState : PyDict

structure ParamAudit where
  paramsHash : PyString
  preview : Members

structure PolicyDecision where
  toolName : PyString
  action : PolicyAction
  mode : GovernanceMode
  reasons : List PyString
  requiredChecks : List PyString
  ruleId : PyString
  paramsHash : PyString
  paramsPreview : Members

section Redaction

def redacted : PyString := "[REDACTED]"

def secretKeyFragments : List PyString :=
  ["secret", "token", "api_key", "apikey", "password", "credential", "broker", "authorization",
    "cookie", "session", "private_key", "refresh_token", "access_token"]

-- What re.IGNORECASE takes for the same letter: four letters beyond ASCII are among them.
def foldCase (c : CodePoint) : CodePoint :=
  if Ascii.isUpper c then c + 32
  else if c = 0x130 ∨ c = 0x131 then 0x69
  else if c = 0x17F then 0x73
  else if c = 0x212A then 0x6B
  else c

def isWordChar (c : CodePoint) : Bool := Ascii.isDigit c || Ascii.isLower (foldCase c)

-- [A-Za-z0-9._~+/=-]
def isBearerChar (c : CodePoint) : Bool :=
  isWordChar c || c = 0x2E || c = 0x5F || c = 0x7E || c = 0x2B || c = 0x2F || c = 0x3D || c = 0x2D

-- [A-Za-z0-9_\-]
def isKeyChar (c : CodePoint) : Bool := isWordChar c || c = 0x5F || c = 0x2D

-- [A-Za-z0-9_\-+/=], in this case
def isRandomChar (c : CodePoint) : Bool :=
  Ascii.isDigit c || Ascii.isUpper c || Ascii.isLower c || c = 0x5F || c = 0x2D || c = 0x2B ||
    c = 0x2F || c = 0x3D

-- At least this many of these characters, and nothing but spaces after them
def endsWithRun (isRunChar : CodePoint → Bool) (least : Nat) (text : Text) : Bool :=
  least ≤ (text.takeWhile isRunChar).length && (text.dropWhile isRunChar).all Lines.isWhitespace

def startsFolded (word : PyString) (text : Text) : Bool :=
  (text.take word.points.length).map foldCase = word.points

def matchesBearer (text : Text) : Bool :=
  let text := text.dropWhile Lines.isWhitespace
  let rest := text.drop 6
  startsFolded "bearer" text && (rest.takeWhile Lines.isWhitespace).length ≠ 0 &&
    endsWithRun isBearerChar 16 (rest.dropWhile Lines.isWhitespace)

def keyPrefixes : List PyString :=
  ["sk-", "rk-", "pk-", "ghp-", "gho-", "ghu-", "github_pat-"]

def matchesKeyPrefix (text : Text) : Bool :=
  let text := text.dropWhile Lines.isWhitespace
  keyPrefixes.any fun given =>
    startsFolded given text && endsWithRun isKeyChar 20 (text.drop given.points.length)

-- $ is also before a newline at the end.
def matchesLongRandom (text : Text) : Bool :=
  let body := if text.getLast? = some Lines.newline then text.dropLast else text
  body.any Ascii.isUpper && body.any Ascii.isLower && body.any Ascii.isDigit &&
    40 ≤ body.length && body.all isRandomChar

def valueIsSecretLike (value : PyString) : Bool :=
  matchesBearer value.points || matchesKeyPrefix value.points || matchesLongRandom value.points

variable [PyText]

def keyIsSecretLike (key : PyString) : Bool :=
  secretKeyFragments.any (within · key.lower)

mutual

-- room: how many calls of itself the stack has room for.
def redactSecrets (room : Nat) : Json → Except PyError Json
  | .obj members =>
    match room with
    | 0 => .error .other
    | room + 1 => .obj <$> redactMembers room members
  | .arr items =>
    match room with
    | 0 => .error .other
    | room + 1 => .arr <$> redactItems room items
  | .str s =>
    if room = 0 then .error .other else .ok (.str (if valueIsSecretLike s then redacted else s))
  | value => if room = 0 then .error .other else .ok value

def redactItems (room : Nat) : List Json → Except PyError (List Json)
  | [] => .ok []
  | item :: rest => do
    let item ← redactSecrets room item
    let rest ← redactItems room rest
    return item :: rest

def redactMembers (room : Nat) : List (PyString × Json) → Except PyError (List (PyString × Json))
  | [] => .ok []
  | (key, value) :: rest => do
    let value ← if keyIsSecretLike key then .ok (.str redacted) else redactSecrets room value
    let rest ← redactMembers room rest
    return (key, value) :: rest

end

end Redaction

-- repr escapes what cannot be printed, as surrogates cannot.
class AuditText where
  repr : Json → PyString
  repr_encodable : ∀ value, (repr value).encodable = true
  -- The digits of a hash of a text in UTF-8
  sha256 : Text → PyString

section Audit

variable [AuditText]

def maxDepth : Nat := 6

def maxItems : Nat := 50

def reprStart (value : Json) : Json := .str ⟨(AuditText.repr value).points.take 120⟩

mutual

-- The value at a depth of the preview
def jsonSafe (depth : Nat) : Json → Json
  | .obj members =>
    if maxDepth < depth then reprStart (.obj members) else .obj (safeMembers depth maxItems members)
  | .arr items =>
    if maxDepth < depth then reprStart (.arr items) else .arr (safeItems depth maxItems items)
  | value => if maxDepth < depth then reprStart value else value

def safeItems (depth left : Nat) : List Json → List Json
  | [] => []
  | item :: rest =>
    match left with
    | 0 => []
    | left + 1 => jsonSafe (depth + 1) item :: safeItems depth left rest

def safeMembers (depth left : Nat) : List (PyString × Json) → List (PyString × Json)
  | [] => []
  | (key, value) :: rest =>
    match left with
    | 0 => []
    | left + 1 => (key, jsonSafe (depth + 1) value) :: safeMembers depth left rest

end

mutual

def finite : Json → Bool
  | .number literal => ! nonFinite.contains literal
  | .arr items => finiteItems items
  | .obj members => finiteMembers members
  | _ => true

def finiteItems : List Json → Bool
  | [] => true
  | item :: rest => finite item && finiteItems rest

def finiteMembers : List (PyString × Json) → Bool
  | [] => true
  | (_, value) :: rest => finite value && finiteMembers rest

end

-- hashlib.sha256(payload.encode("utf-8")).hexdigest()
def hashText (payload : Text) : Except PyError PyString :=
  if PyString.encodable ⟨payload⟩ then .ok (AuditText.sha256 payload) else .error .valueError

def sha256Json (value : Json) : Except PyError PyString :=
  if finite value then hashText (write .compact 0 (canonical value)) else .error .valueError

def paramsHash (preview : Members) : Except PyError PyString :=
  match sha256Json (.obj [("params", .obj preview)]) with
  | .ok hash => .ok hash
  | .error _ => hashText (write .spaced 0 (canonical (.obj preview)))

variable [PyText]

-- The preview of an object is an object.
def buildParamAudit (room : Nat) (params : Members) : Except PyError ParamAudit := do
  let kept ← match room with
    | 0 => .error .other
    | room + 1 => redactMembers room params
  let preview := safeMembers 0 maxItems kept
  return ⟨← paramsHash preview, preview⟩

end Audit

end SynapseYield.Governance
