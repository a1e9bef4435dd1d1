import SynapseYield.Shared.JsonText

set_option autoImplicit false

namespace SynapseYield.Tools

open Shared JsonText

def compositionKeys : List PyString := ["anyOf", "oneOf", "allOf"]

-- The keys whose branches are alternatives
def unionKeys : List PyString := ["anyOf", "oneOf"]

def localOnlyArguments : List PyString := ["run_dir"]

def typeKey : PyString := "type"

def propertiesKey : PyString := "properties"

def requiredKey : PyString := "required"

-- value == text
def isText (text : PyString) : Json → Bool
  | .str s => s = text
  | _ => false

-- schema.pop(key, None)
def pop (schema : Members) (key : PyString) : Members := schema.filter fun member => member.1 ≠ key

def isNullSchema : Json → Bool
  | .obj schema => match schema.lookup typeKey with
    | some (.str s) => s = "null"
    | some (.arr [.str s]) => s = "null"
    | _ => false
  | _ => false

def narrowType (schema : Members) : Members :=
  match schema.lookup typeKey with
  | some (.arr types) =>
    match types.filter (! isText "null" ·) with
    | [] => pop schema typeKey
    | [only] => setMember schema typeKey only
    | several => setMember schema typeKey (.arr several)
  | some (.str s) => if s = "null" then pop schema typeKey else schema
  | _ => schema

-- The branches of a union, without those that are null in the schema as it came.
def dropNullBranches (value normalized : Members) (key : PyString) : Members :=
  match normalized.lookup key, value.lookup key with
  | some (.arr branches), some (.arr original) =>
    setMember normalized key
      (.arr (((branches.zip original).filter fun pair => ! isNullSchema pair.2).map Prod.fst))
  | _, _ => normalized

mutual

def normalizeSchemaNode : Json → Json
  | .obj value =>
    .obj (unionKeys.foldl (dropNullBranches value) (narrowType (normalizeMembers value)))
  | .arr items => .arr (normalizeItems items)
  | value => value

def normalizeMembers : Members → Members
  | [] => []
  | (key, item) :: rest => (key, normalizeSchemaNode item) :: normalizeMembers rest

def normalizeItems : List Json → List Json
  | [] => []
  | item :: rest => normalizeSchemaNode item :: normalizeItems rest

end

-- The one branch of a union, where it is an object
def onlyBranch (schema : Members) (key : PyString) : Option Members :=
  match schema.lookup key with
  | some (.arr [.obj branch]) => some branch
  | _ => none

-- merged.update(branch)
def updateMembers (merged branch : Members) : Members :=
  branch.foldl (fun merged member => setMember merged member.1 member.2) merged

def collapseNullableUnion (schema : Members) : Members :=
  match unionKeys.findSome? fun key => (onlyBranch schema key).map (key, ·) with
  | some (key, branch) => updateMembers (pop schema key) branch
  | none => schema

def isObject : Json → Bool
  | .obj _ => true
  | _ => false

mutual

-- The keys of a dict are distinct: to go through its items is to get each of the keys.
def schemaLooksObjectLike : Json → Bool
  | .obj schema =>
    (schema.lookup typeKey).any (isText "object") || (schema.lookup propertiesKey).any isObject ||
      schema.any (fun member => (["additionalProperties", "patternProperties", "$ref"] :
        List PyString).contains member.1) || membersLookObjectLike schema
  | _ => false

def membersLookObjectLike : Members → Bool
  | [] => false
  | (key, .arr branches) :: rest =>
    compositionKeys.contains key && branchesLookObjectLike branches || membersLookObjectLike rest
  | _ :: rest => membersLookObjectLike rest

def branchesLookObjectLike : List Json → Bool
  | [] => false
  | branch :: rest => schemaLooksObjectLike branch || branchesLookObjectLike rest

end

def usesComposedTopLevelRules (schema : Members) : Bool :=
  schema.any fun member =>
    member.1 = "$ref" || member.1 = "patternProperties" ||
      compositionKeys.contains member.1 && match member.2 with
        | .arr branches => ! branches.isEmpty
        | _ => false

mutual

def topLevelPropertyNames : Json → List PyString
  | .obj schema => memberPropertyNames schema
  | _ => []

def memberPropertyNames : Members → List PyString
  | [] => []
  | (key, .obj properties) :: rest =>
    (if key = propertiesKey then properties.map (·.1) else []) ++ memberPropertyNames rest
  | (key, .arr branches) :: rest =>
    (if compositionKeys.contains key then branchPropertyNames branches else []) ++
      memberPropertyNames rest
  | _ :: rest => memberPropertyNames rest

def branchPropertyNames : List Json → List PyString
  | [] => []
  | branch :: rest => topLevelPropertyNames branch ++ branchPropertyNames rest

end

-- value is not None and value is not False
def keywordAllowsValues : Json → Bool
  | .null => false
  | .bool false => false
  | _ => true

mutual

def allowsAdditionalTopLevelKeys : Json → Bool
  | .obj schema => membersAllowAdditional schema
  | _ => false

def membersAllowAdditional : Members → Bool
  | [] => false
  | (key, .arr branches) :: rest =>
    key = "$ref" || key = "additionalProperties" ||
      compositionKeys.contains key && branchesAllowAdditional branches ||
        membersAllowAdditional rest
  | (key, .obj patterns) :: rest =>
    key = "$ref" || key = "additionalProperties" ||
      key = "patternProperties" && ! patterns.isEmpty || membersAllowAdditional rest
  | (key, value) :: rest =>
    key = "$ref" || key = "additionalProperties" && keywordAllowsValues value ||
      membersAllowAdditional rest

def branchesAllowAdditional : List Json → Bool
  | [] => false
  | branch :: rest => allowsAdditionalTopLevelKeys branch || branchesAllowAdditional rest

end

-- The lists of the required names, the others left out
def requiredNames (required : List Json) : List Json :=
  required.filter fun | .str _ => true | _ => false

def emptyToolSchema : Members :=
  [(typeKey, .str "object"), (propertiesKey, .obj []), (requiredKey, .arr [])]

-- none: no dict came.
def normalizeMcpToolSchema (schema : Option Members) : Members :=
  let normalized := match normalizeSchemaNode (.obj (schema.getD [])) with
    | .obj normalized => collapseNullableUnion normalized
    | _ => []
  if ! schemaLooksObjectLike (.obj normalized) then emptyToolSchema
  else
    let normalized := setMember normalized typeKey (.str "object")
    let composed := usesComposedTopLevelRules normalized
    let normalized := match normalized.lookup propertiesKey with
      | some .null => if composed then normalized else setMember normalized propertiesKey (.obj [])
      | some (.obj _) => normalized
      | some _ => pop normalized propertiesKey
      | none => if composed then normalized else setMember normalized propertiesKey (.obj [])
    match normalized.lookup requiredKey with
    | none | some .null => if composed then normalized else setMember normalized requiredKey (.arr [])
    | some (.arr required) => setMember normalized requiredKey (.arr (requiredNames required))
    | some _ => pop normalized requiredKey

-- Whether _filter_arguments keeps an argument of that name
def forwardsArgument (parameters : Members) (name : PyString) : Bool :=
  (topLevelPropertyNames (.obj parameters)).contains name ||
    allowsAdditionalTopLevelKeys (.obj parameters) && ! localOnlyArguments.contains name

def filterArguments {Value : Type} (parameters : Members) (arguments : List (PyString × Value)) :
    List (PyString × Value) :=
  arguments.filter fun argument => forwardsArgument parameters argument.1

end SynapseYield.Tools
