import SynapseYield.Shared.JsonMembers
import SynapseYield.Tools.McpSchema

set_option autoImplicit false

namespace SynapseYield.Tools

open Shared JsonText

section Statements

def refKey : PyString := "$ref"

def additionalKey : PyString := "additionalProperties"

def patternKey : PyString := "patternProperties"

-- The schema, or one that it is composed of, without the branches of unions that are null
inductive Reach (leaf : Members → Prop) : Json → Prop where
  | here {schema : Members} (holds : leaf schema) : Reach leaf (.obj schema)
  | branch {schema : Members} {key : PyString} {branches : List Json} {branch : Json}
      (composes : key ∈ compositionKeys) (listed : schema.lookup key = some (.arr branches))
      (member : branch ∈ branches) (kept : key ∈ unionKeys → isNullSchema branch = false)
      (below : Reach leaf branch) : Reach leaf (.obj schema)

def declares (name : PyString) (schema : Members) : Prop :=
  ∃ properties, schema.lookup propertiesKey = some (.obj properties) ∧
    (properties.lookup name).isSome = true

def isNullType : Json → Bool
  | .str s => s = "null"
  | .arr types => types.all (isText "null")
  | _ => false

-- A property of that name type is taken for the type of a schema.
def keptIn (members : Members) (name : PyString) : Prop :=
  ∃ value, members.lookup name = some value ∧ ¬ (name = typeKey ∧ isNullType value = true)

def keeps (name : PyString) (schema : Members) : Prop :=
  ∃ properties, schema.lookup propertiesKey = some (.obj properties) ∧ keptIn properties name

-- Arguments that no property declares are for the remote tool as well.
def opens (schema : Members) : Prop :=
  (schema.lookup refKey).isSome = true ∨
    (∃ value, schema.lookup additionalKey = some value ∧
      keywordAllowsValues value = true) ∨
    ∃ patterns, schema.lookup patternKey = some (.obj patterns) ∧
      ∃ name, keptIn patterns name

-- The union with one branch that is not null
def soleAt (schema : Members) (key : PyString) : Option Members :=
  match schema.lookup key with
  | some (.arr branches) =>
    match branches.filter (! isNullSchema ·) with
    | [.obj branch] => some branch
    | _ => none
  | _ => none

def soleBranch (schema : Members) : Option (PyString × Members) :=
  unionKeys.findSome? fun key => (soleAt schema key).map (key, ·)

-- The branch in its parent, with what it has in common with it overwritten
def overwritten (schema : Members) : Members :=
  match soleBranch schema with
  | some (key, branch) => updateMembers (pop schema key) branch
  | none => schema

def Survives (schema : Members) (name : PyString) : Prop :=
  Reach (keeps name) (.obj (overwritten schema)) ∨
    name ∉ localOnlyArguments ∧ Reach opens (.obj (overwritten schema))

/-- Of the arguments of a call, those that the schema declares are forwarded, and a local one only
where it declares it. -/
structure Lossless (schema : Members) : Prop where
  forwarded : ∀ (arguments : Members), ∀ argument ∈ arguments,
    Reach (declares argument.1) (.obj schema) →
      argument ∈ filterArguments (normalizeMcpToolSchema (some schema)) arguments
  declared : ∀ (arguments : Members),
    ∀ argument ∈ filterArguments (normalizeMcpToolSchema (some schema)) arguments,
      argument.1 ∈ localOnlyArguments → Reach (declares argument.1) (.obj schema)

end Statements

theorem mem_filterArguments {parameters arguments : Members} {argument : PyString × Json} :
    argument ∈ filterArguments parameters arguments ↔
      argument ∈ arguments ∧ forwardsArgument parameters argument.1 = true := List.mem_filter

section Members

variable {schema merged branch : Members} {key other : PyString} {value : Json}

theorem lookup_pop (different : other ≠ key) :
    (pop schema key).lookup other = schema.lookup other := by
  induction schema with
  | nil => rfl
  | cons member rest ih =>
    obtain ⟨name, held⟩ := member
    by_cases same : name = key
    · subst same
      rw [pop, List.filter_cons_of_neg (by simp), List.lookup_cons, beq_false_of_ne different]
      exact ih
    · rw [pop, List.filter_cons_of_pos (by simpa using same), List.lookup_cons, List.lookup_cons]
      cases other == name with
      | true => rfl
      | false => exact ih

theorem lookup_pop_self : (pop schema key).lookup key = none := by
  rw [pop, List.lookup_eq_none_iff]
  intro member listed
  have different := (List.mem_filter.mp listed).2
  rw [decide_eq_true_eq] at different
  rw [bne_iff_ne]
  exact different.symm

theorem lookup_updateMembers (distinct : (branch.map (·.1)).Nodup) :
    (updateMembers merged branch).lookup key = (branch.lookup key).or (merged.lookup key) := by
  induction branch generalizing merged with
  | nil => rfl
  | cons member rest ih =>
    obtain ⟨name, held⟩ := member
    rw [List.map_cons, List.nodup_cons] at distinct
    have step : updateMembers merged ((name, held) :: rest) =
        updateMembers (setMember merged name held) rest := rfl
    rw [step, ih distinct.2, lookup_setMember, List.lookup_cons]
    by_cases same : key = name
    · subst same
      rw [lookup_none distinct.1, if_pos rfl, beq_self_eq_true]
      rfl
    · rw [if_neg same, beq_false_of_ne same]

theorem lookup_normalizeMembers :
    (normalizeMembers schema).lookup key = (schema.lookup key).map normalizeSchemaNode := by
  induction schema with
  | nil => rfl
  | cons member rest ih =>
    obtain ⟨name, held⟩ := member
    rw [normalizeMembers, List.lookup_cons, List.lookup_cons]
    cases key == name with
    | true => rfl
    | false => exact ih

theorem lookup_narrowType (other : key ≠ typeKey) :
    (narrowType schema).lookup key = schema.lookup key := by
  rw [narrowType]
  split
  · split
    · exact lookup_pop other
    · rw [lookup_setMember, if_neg other]
    · rw [lookup_setMember, if_neg other]
  · split
    · exact lookup_pop other
    · rfl
  · rfl

theorem normalizeItems_eq (items : List Json) :
    normalizeItems items = items.map normalizeSchemaNode := by
  induction items with
  | nil => rfl
  | cons item rest ih => rw [normalizeItems, ih, List.map_cons]

def normalizedMembers (schema : Members) : Members :=
  unionKeys.foldl (dropNullBranches schema) (narrowType (normalizeMembers schema))

theorem normalizeSchemaNode_obj (schema : Members) :
    normalizeSchemaNode (.obj schema) = .obj (normalizedMembers schema) := by
  rw [normalizeSchemaNode]
  rfl

theorem zip_filter (branches : List Json) :
    (((branches.map normalizeSchemaNode).zip branches).filter fun pair =>
      ! isNullSchema pair.2).map Prod.fst =
        (branches.filter (! isNullSchema ·)).map normalizeSchemaNode := by
  induction branches with
  | nil => rfl
  | cons branch rest ih =>
    rw [List.map_cons, List.zip_cons_cons]
    cases null : isNullSchema branch with
    | true =>
      rw [List.filter_cons_of_neg (by simp [null]), List.filter_cons_of_neg (by simp [null])]
      exact ih
    | false =>
      rw [List.filter_cons_of_pos (by simp [null]), List.filter_cons_of_pos (by simp [null]),
        List.map_cons, List.map_cons, ih]

def normalizedAt (key : PyString) : Json → Json
  | .arr branches =>
    if key ∈ unionKeys then .arr ((branches.filter (! isNullSchema ·)).map normalizeSchemaNode)
    else .arr (branches.map normalizeSchemaNode)
  | value => normalizeSchemaNode value

theorem normalizedAt_obj (members : Members) :
    normalizedAt key (.obj members) = .obj (normalizedMembers members) :=
  normalizeSchemaNode_obj members

theorem lookup_dropNull {value normalized : Members}
    (given : normalized.lookup key = (value.lookup key).map normalizeSchemaNode)
    (union : key ∈ unionKeys) :
    (dropNullBranches value normalized key).lookup key =
      (value.lookup key).map (normalizedAt key) := by
  rw [dropNullBranches, given]
  cases found : value.lookup key with
  | none =>
    rw [found] at given
    exact given
  | some held =>
    rw [found] at given
    cases held with
    | arr branches =>
      rw [Option.map_some, normalizeSchemaNode, normalizeItems_eq]
      dsimp only
      rw [lookup_setMember, if_pos rfl, zip_filter, Option.map_some, normalizedAt, if_pos union]
    | obj members =>
      rw [Option.map_some, normalizeSchemaNode_obj] at given ⊢
      rw [given, Option.map_some, normalizedAt_obj]
    | null => exact given
    | bool => exact given
    | number => exact given
    | str => exact given

theorem lookup_dropNull_other {value normalized : Members} (different : other ≠ key) :
    (dropNullBranches value normalized key).lookup other = normalized.lookup other := by
  rw [dropNullBranches]
  split
  · rw [lookup_setMember, if_neg different]
  · rfl

theorem lookup_normalized (untyped : key ≠ typeKey) :
    (normalizedMembers schema).lookup key = (schema.lookup key).map (normalizedAt key) := by
  have base : ∀ key ≠ typeKey, (narrowType (normalizeMembers schema)).lookup key =
      (schema.lookup key).map normalizeSchemaNode := fun key other => by
    rw [lookup_narrowType other, lookup_normalizeMembers]
  have whole : normalizedMembers schema = dropNullBranches schema
      (dropNullBranches schema (narrowType (normalizeMembers schema)) "anyOf") "oneOf" := rfl
  rw [whole]
  by_cases one : key = "oneOf"
  · subst one
    refine lookup_dropNull ?_ (by decide)
    rw [lookup_dropNull_other (by decide), base _ (by decide)]
  · rw [lookup_dropNull_other one]
    by_cases any : key = "anyOf"
    · subst any
      exact lookup_dropNull (base _ (by decide)) (by decide)
    · rw [lookup_dropNull_other any, base key untyped]
      have plain : key ∉ unionKeys := by
        simp only [unionKeys, List.mem_cons, List.not_mem_nil, or_false]
        exact not_or.mpr ⟨any, one⟩
      refine congrFun (congrArg Option.map (funext fun value => ?_)) _
      cases value with
      | arr branches => rw [normalizedAt, if_neg plain, normalizeSchemaNode, normalizeItems_eq]
      | obj => rfl
      | null => rfl
      | bool => rfl
      | number => rfl
      | str => rfl

theorem nodup_pop (distinct : (schema.map (·.1)).Nodup) :
    ((pop schema key).map (·.1)).Nodup := distinct.sublist (List.filter_sublist.map _)

theorem keys_normalizeMembers (schema : Members) :
    (normalizeMembers schema).map (·.1) = schema.map (·.1) := by
  induction schema with
  | nil => rfl
  | cons member rest ih =>
    obtain ⟨name, held⟩ := member
    rw [normalizeMembers, List.map_cons, List.map_cons, ih]

theorem nodup_narrowType (distinct : (schema.map (·.1)).Nodup) :
    ((narrowType schema).map (·.1)).Nodup := by
  rw [narrowType]
  split
  · split
    · exact nodup_pop distinct
    · exact nodup_setMember distinct
    · exact nodup_setMember distinct
  · split
    · exact nodup_pop distinct
    · exact distinct
  · exact distinct

theorem nodup_dropNull {value : Members} (distinct : (schema.map (·.1)).Nodup) :
    ((dropNullBranches value schema key).map (·.1)).Nodup := by
  rw [dropNullBranches]
  split
  · exact nodup_setMember distinct
  · exact distinct

theorem nodup_normalized (distinct : (schema.map (·.1)).Nodup) :
    ((normalizedMembers schema).map (·.1)).Nodup := by
  refine nodup_dropNull (nodup_dropNull (nodup_narrowType ?_))
  rw [keys_normalizeMembers]
  exact distinct

theorem onlyBranch_normalized (union : key ∈ unionKeys) :
    onlyBranch (normalizedMembers schema) key = (soleAt schema key).map normalizedMembers := by
  have untyped : key ≠ typeKey := by
    rintro rfl
    exact absurd union (by decide)
  rw [onlyBranch, lookup_normalized untyped, soleAt]
  cases schema.lookup key with
  | none => rfl
  | some held =>
    cases held with
    | arr branches =>
      rw [Option.map_some, normalizedAt, if_pos union]
      dsimp only
      match branches.filter (! isNullSchema ·) with
      | [] => rfl
      | [.obj branch] =>
        rw [List.map_singleton, normalizeSchemaNode_obj]
        rfl
      | [.arr items] =>
        rw [List.map_singleton, normalizeSchemaNode]
        rfl
      | [.null] => rfl
      | [.bool b] => rfl
      | [.number literal] => rfl
      | [.str text] => rfl
      | first :: second :: rest =>
        rw [List.map_cons, List.map_cons]
        split
        next same => simp at same
        next =>
          split
          next same => simp at same
          next => rfl
    | obj members =>
      rw [Option.map_some, normalizedAt_obj]
      rfl
    | null => rfl
    | bool => rfl
    | number => rfl
    | str => rfl

theorem soleBranch_normalized :
    (unionKeys.findSome? fun key => (onlyBranch (normalizedMembers schema) key).map (key, ·)) =
      (soleBranch schema).map fun sole => (sole.1, normalizedMembers sole.2) := by
  have any := @onlyBranch_normalized schema "anyOf" (by decide)
  have one := @onlyBranch_normalized schema "oneOf" (by decide)
  simp only [soleBranch, unionKeys, List.findSome?_cons, List.findSome?_nil, any, one]
  cases soleAt schema "anyOf" with
  | some branch => rfl
  | none =>
    cases soleAt schema "oneOf" with
    | some branch => rfl
    | none => rfl

theorem wellFormed_item {items : List Json} (formed : wellFormed (.arr items) = true)
    (member : value ∈ items) : wellFormed value = true := by
  rw [wellFormed] at formed
  induction items with
  | nil => cases member
  | cons item rest ih =>
    rw [wellFormedItems, Bool.and_eq_true] at formed
    rcases List.mem_cons.mp member with rfl | later
    · exact formed.1
    · exact ih formed.2 later

theorem soleBranch_member (sole : soleBranch schema = some (key, branch)) :
    key ∈ unionKeys ∧ ∃ branches, schema.lookup key = some (.arr branches) ∧
      Json.obj branch ∈ branches ∧ isNullSchema (.obj branch) = false := by
  obtain ⟨union, known, found⟩ := List.exists_of_findSome?_eq_some sole
  obtain ⟨held, at_, same⟩ := Option.map_eq_some_iff.mp found
  obtain ⟨rfl, rfl⟩ := Prod.mk.inj same
  refine ⟨known, ?_⟩
  rw [soleAt] at at_
  split at at_
  next branches listed =>
    split at at_
    next given =>
      cases at_
      have member : Json.obj held ∈ branches.filter (! isNullSchema ·) := by
        rw [given]
        exact List.mem_cons_self
      obtain ⟨within, filled⟩ := List.mem_filter.mp member
      exact ⟨branches, listed, within, by simpa using filled⟩
    · cases at_
  · cases at_

theorem soleBranch_formed (formed : wellFormed (.obj schema) = true)
    (sole : soleBranch schema = some (key, branch)) : wellFormed (.obj branch) = true := by
  obtain ⟨-, branches, listed, member, -⟩ := soleBranch_member sole
  exact wellFormed_item ((formed_iff.mp formed).2 _ (mem_of_lookup listed)) member

theorem lookup_collapse (formed : wellFormed (.obj schema) = true) (untyped : key ≠ typeKey) :
    (collapseNullableUnion (normalizedMembers schema)).lookup key =
      ((overwritten schema).lookup key).map (normalizedAt key) := by
  rw [collapseNullableUnion, soleBranch_normalized, overwritten]
  cases sole : soleBranch schema with
  | none => exact lookup_normalized untyped
  | some found =>
    obtain ⟨union, branch⟩ := found
    have distinct := (formed_iff.mp (soleBranch_formed formed sole)).1
    simp only [Option.map_some]
    rw [lookup_updateMembers (nodup_normalized distinct), lookup_updateMembers distinct,
      lookup_normalized untyped]
    by_cases same : key = union
    · subst same
      rw [lookup_pop_self, lookup_pop_self, Option.or_none, Option.or_none]
    · rw [lookup_pop same, lookup_pop same, lookup_normalized untyped, Option.map_or]

end Members

-- What the collectors go through: every branch there is
inductive Found (leaf : Members → Prop) : Json → Prop where
  | here {schema : Members} (holds : leaf schema) : Found leaf (.obj schema)
  | branch {schema : Members} {key : PyString} {branches : List Json} {branch : Json}
      (composes : key ∈ compositionKeys) (listed : (key, .arr branches) ∈ schema)
      (member : branch ∈ branches) (below : Found leaf branch) : Found leaf (.obj schema)

section Collectors

variable {leaf : Members → Prop} {schema other : Members} {name : PyString} {value : Json}

theorem found_obj : Found leaf (.obj schema) ↔ leaf schema ∨ ∃ key ∈ compositionKeys, ∃ branches,
    (key, .arr branches) ∈ schema ∧ ∃ branch ∈ branches, Found leaf branch := by
  constructor
  · intro found
    cases found with
    | here holds => exact .inl holds
    | branch composes listed member below => exact .inr ⟨_, composes, _, listed, _, member, below⟩
  · rintro (holds | ⟨key, composes, branches, listed, branch, member, below⟩)
    · exact .here holds
    · exact .branch composes listed member below

theorem reach_obj : Reach leaf (.obj schema) ↔ leaf schema ∨ ∃ key ∈ compositionKeys, ∃ branches,
    schema.lookup key = some (.arr branches) ∧ ∃ branch ∈ branches,
      (key ∈ unionKeys → isNullSchema branch = false) ∧ Reach leaf branch := by
  constructor
  · intro reach
    cases reach with
    | here holds => exact .inl holds
    | branch composes listed member kept below =>
      exact .inr ⟨_, composes, _, listed, _, member, kept, below⟩
  · rintro (holds | ⟨key, composes, branches, listed, branch, member, kept, below⟩)
    · exact .here holds
    · exact .branch composes listed member kept below

theorem branch_smaller {key : PyString} {branches : List Json} {branch : Json}
    (listed : (key, Json.arr branches) ∈ schema) (member : branch ∈ branches) :
    sizeOf branch < sizeOf (Json.obj schema) := by
  have inner := List.sizeOf_lt_of_mem member
  have outer := List.sizeOf_lt_of_mem listed
  simp only [Prod.mk.sizeOf_spec, Json.arr.sizeOf_spec, Json.obj.sizeOf_spec] at *
  omega

theorem search_iff {search : Json → Prop} (objects : ∀ schema, search (.obj schema) ↔
      leaf schema ∨ ∃ key ∈ compositionKeys, ∃ branches, (key, .arr branches) ∈ schema ∧
        ∃ branch ∈ branches, search branch)
    (others : ∀ value, isObject value = false → ¬ search value) :
    search value ↔ Found leaf value := by
  constructor
  · intro holds
    induction size : sizeOf value using Nat.strong_induction_on generalizing value with
    | _ n ih =>
      cases value with
      | obj schema =>
        rcases (objects schema).mp holds with here |
          ⟨key, composes, branches, listed, branch, member, below⟩
        · exact .here here
        · have smaller := branch_smaller listed member
          exact .branch composes listed member (ih _ (size ▸ smaller) below rfl)
      | null => exact absurd holds (others _ rfl)
      | bool => exact absurd holds (others _ rfl)
      | number => exact absurd holds (others _ rfl)
      | str => exact absurd holds (others _ rfl)
      | arr => exact absurd holds (others _ rfl)
  · intro found
    induction found with
    | here holds => exact (objects _).mpr (.inl holds)
    | branch composes listed member below ih =>
      exact (objects _).mpr (.inr ⟨_, composes, _, listed, _, member, ih⟩)

def declaredIn (name : PyString) (schema : Members) : Prop :=
  ∃ properties, (propertiesKey, .obj properties) ∈ schema ∧ name ∈ properties.map (·.1)

theorem Reach.found {name : PyString} {value : Json} (declared : Reach (declares name) value) :
    Found (declaredIn name) value := by
  induction declared with
  | here holds =>
    obtain ⟨properties, found, given⟩ := holds
    exact .here ⟨properties, mem_of_lookup found, lookup_isSome.mp given⟩
  | branch composes listed member kept below ih =>
    exact .branch composes (mem_of_lookup listed) member ih

def openIn (schema : Members) : Prop :=
  refKey ∈ schema.map (·.1) ∨
    (∃ value, (additionalKey, value) ∈ schema ∧ keywordAllowsValues value = true) ∨
    ∃ patterns, (patternKey, .obj patterns) ∈ schema ∧ patterns ≠ []

theorem mem_branchPropertyNames {branches : List Json} : name ∈ branchPropertyNames branches ↔
    ∃ branch ∈ branches, name ∈ topLevelPropertyNames branch := by
  induction branches with
  | nil => simp [branchPropertyNames]
  | cons branch rest ih => simp [branchPropertyNames, ih]

-- What one member adds to a search that goes down the branches
def memberHolds (leaf : PyString → Json → Prop) (search : Json → Prop) (member : PyString × Json) :
    Prop :=
  leaf member.1 member.2 ∨ member.1 ∈ compositionKeys ∧ ∃ branches, member.2 = .arr branches ∧
    ∃ branch ∈ branches, search branch

theorem memberHolds_iff {leaf : PyString → Json → Prop} {search : Json → Prop} :
    (∃ member ∈ schema, memberHolds leaf search member) ↔
      (∃ member ∈ schema, leaf member.1 member.2) ∨ ∃ key ∈ compositionKeys, ∃ branches,
        (key, .arr branches) ∈ schema ∧ ∃ branch ∈ branches, search branch := by
  constructor
  · rintro ⟨⟨key, value⟩, listed, here | ⟨composes, branches, same, branch, member, below⟩⟩
    · exact .inl ⟨_, listed, here⟩
    · obtain rfl : value = .arr branches := same
      exact .inr ⟨key, composes, branches, listed, branch, member, below⟩
  · rintro (⟨member, listed, here⟩ | ⟨key, composes, branches, listed, branch, member, below⟩)
    · exact ⟨member, listed, .inl here⟩
    · exact ⟨_, listed, .inr ⟨composes, branches, rfl, branch, member, below⟩⟩

def declaringMember (name key : PyString) (value : Json) : Prop :=
  key = propertiesKey ∧ ∃ properties, value = .obj properties ∧ name ∈ properties.map (·.1)

theorem mem_memberPropertyNames : name ∈ memberPropertyNames schema ↔ ∃ member ∈ schema,
    memberHolds (declaringMember name) (name ∈ topLevelPropertyNames ·) member := by
  induction schema with
  | nil => simp [memberPropertyNames]
  | cons member rest ih =>
    obtain ⟨key, value⟩ := member
    rw [List.exists_mem_cons_iff, ← ih]
    cases value with
    | obj properties =>
      by_cases same : key = propertiesKey <;>
        simp [memberPropertyNames, memberHolds, declaringMember, same]
    | arr branches =>
      by_cases composes : key ∈ compositionKeys <;>
        simp [memberPropertyNames, memberHolds, declaringMember, composes, mem_branchPropertyNames]
    | null => simp [memberPropertyNames, memberHolds, declaringMember]
    | bool => simp [memberPropertyNames, memberHolds, declaringMember]
    | number => simp [memberPropertyNames, memberHolds, declaringMember]
    | str => simp [memberPropertyNames, memberHolds, declaringMember]

theorem declaring_iff : (∃ member ∈ schema, declaringMember name member.1 member.2) ↔
    declaredIn name schema := by
  constructor
  · rintro ⟨⟨key, value⟩, listed, same, properties, held, member⟩
    obtain rfl : key = propertiesKey := same
    obtain rfl : value = .obj properties := held
    exact ⟨properties, listed, member⟩
  · rintro ⟨properties, listed, member⟩
    exact ⟨_, listed, rfl, properties, rfl, member⟩

theorem mem_names : name ∈ topLevelPropertyNames value ↔ Found (declaredIn name) value := by
  refine @search_iff _ _ (fun value => name ∈ topLevelPropertyNames value) ?_ ?_
  · intro schema
    rw [topLevelPropertyNames, mem_memberPropertyNames, memberHolds_iff, declaring_iff]
  · intro value other
    cases value with
    | obj => cases other
    | null => simp [topLevelPropertyNames]
    | bool => simp [topLevelPropertyNames]
    | number => simp [topLevelPropertyNames]
    | str => simp [topLevelPropertyNames]
    | arr => simp [topLevelPropertyNames]

def openingMember (key : PyString) (value : Json) : Prop :=
  key = refKey ∨ key = additionalKey ∧ keywordAllowsValues value = true ∨
    key = patternKey ∧ ∃ patterns, value = .obj patterns ∧ patterns ≠ []

theorem branchesAllow {branches : List Json} : branchesAllowAdditional branches = true ↔
    ∃ branch ∈ branches, allowsAdditionalTopLevelKeys branch = true := by
  induction branches with
  | nil => simp [branchesAllowAdditional]
  | cons branch rest ih => simp [branchesAllowAdditional, ih]

theorem membersAllow : membersAllowAdditional schema = true ↔ ∃ member ∈ schema,
    memberHolds openingMember (allowsAdditionalTopLevelKeys · = true) member := by
  induction schema with
  | nil => simp [membersAllowAdditional]
  | cons member rest ih =>
    obtain ⟨key, value⟩ := member
    rw [List.exists_mem_cons_iff, ← ih]
    cases value with
    | obj patterns =>
      simp [membersAllowAdditional, memberHolds, openingMember, keywordAllowsValues, refKey,
        additionalKey, patternKey, or_assoc]
    | arr branches =>
      simp [membersAllowAdditional, memberHolds, openingMember, keywordAllowsValues, refKey,
        additionalKey, patternKey, or_assoc, branchesAllow]
    | null =>
      simp [membersAllowAdditional, memberHolds, openingMember, keywordAllowsValues, refKey]
    | bool b =>
      simp [membersAllowAdditional, memberHolds, openingMember, refKey, additionalKey, or_assoc]
    | number =>
      simp [membersAllowAdditional, memberHolds, openingMember, keywordAllowsValues, refKey,
        additionalKey, or_assoc]
    | str =>
      simp [membersAllowAdditional, memberHolds, openingMember, keywordAllowsValues, refKey,
        additionalKey, or_assoc]

theorem opening_iff : (∃ member ∈ schema, openingMember member.1 member.2) ↔ openIn schema := by
  constructor
  · rintro ⟨⟨key, value⟩, listed, same | ⟨same, allowed⟩ | ⟨same, patterns, held, filled⟩⟩
    · exact .inl (List.mem_map.mpr ⟨_, listed, same⟩)
    · obtain rfl : key = additionalKey := same
      exact .inr (.inl ⟨value, listed, allowed⟩)
    · obtain rfl : key = patternKey := same
      obtain rfl : value = .obj patterns := held
      exact .inr (.inr ⟨patterns, listed, filled⟩)
  · rintro (reference | ⟨value, listed, allowed⟩ | ⟨patterns, listed, filled⟩)
    · obtain ⟨member, listed, same⟩ := List.mem_map.mp reference
      exact ⟨member, listed, .inl same⟩
    · exact ⟨_, listed, .inr (.inl ⟨rfl, allowed⟩)⟩
    · exact ⟨_, listed, .inr (.inr ⟨rfl, patterns, rfl, filled⟩)⟩

theorem allows_iff : allowsAdditionalTopLevelKeys value = true ↔ Found openIn value := by
  refine @search_iff _ _ (fun value => allowsAdditionalTopLevelKeys value = true) ?_ ?_
  · intro schema
    rw [allowsAdditionalTopLevelKeys, membersAllow, memberHolds_iff, opening_iff]
  · intro value other
    cases value with
    | obj => cases other
    | null => simp [allowsAdditionalTopLevelKeys]
    | bool => simp [allowsAdditionalTopLevelKeys]
    | number => simp [allowsAdditionalTopLevelKeys]
    | str => simp [allowsAdditionalTopLevelKeys]
    | arr => simp [allowsAdditionalTopLevelKeys]

theorem forwards_iff : forwardsArgument schema name = true ↔
    Found (declaredIn name) (.obj schema) ∨
      Found openIn (.obj schema) ∧ name ∉ localOnlyArguments := by
  rw [forwardsArgument, Bool.or_eq_true, Bool.and_eq_true, List.contains_iff_mem, mem_names,
    allows_iff, Bool.not_eq_true', ← Bool.not_eq_true, List.contains_iff_mem]

theorem branchesLook {branches : List Json} : branchesLookObjectLike branches = true ↔
    ∃ branch ∈ branches, schemaLooksObjectLike branch = true := by
  induction branches with
  | nil => simp [branchesLookObjectLike]
  | cons branch rest ih => simp [branchesLookObjectLike, ih]

theorem membersLook {key : PyString} {branches : List Json} {branch : Json}
    (composes : key ∈ compositionKeys) (listed : (key, Json.arr branches) ∈ schema)
    (member : branch ∈ branches) (looks : schemaLooksObjectLike branch = true) :
    membersLookObjectLike schema = true := by
  have inside := branchesLook.mpr ⟨branch, member, looks⟩
  induction schema with
  | nil => cases listed
  | cons first rest ih =>
    rcases List.mem_cons.mp listed with rfl | later
    · simp [membersLookObjectLike, composes, inside]
    · obtain ⟨name, value⟩ := first
      cases value with
      | arr others => simp [membersLookObjectLike, ih later]
      | obj => simp [membersLookObjectLike, ih later]
      | null => simp [membersLookObjectLike, ih later]
      | bool => simp [membersLookObjectLike, ih later]
      | number => simp [membersLookObjectLike, ih later]
      | str => simp [membersLookObjectLike, ih later]

-- Schemas that declare and allow the same
structure Alike (schema other : Members) : Prop where
  members : ∀ member, member.1 ∉ [typeKey, propertiesKey, requiredKey] →
    (member ∈ schema ↔ member ∈ other)
  declared : ∀ name, declaredIn name schema ↔ declaredIn name other

theorem Alike.refl (schema : Members) : Alike schema schema := ⟨fun _ _ => .rfl, fun _ => .rfl⟩

theorem Alike.trans {third : Members} (first : Alike schema other) (second : Alike other third) :
    Alike schema third :=
  ⟨fun member free => (first.members member free).trans (second.members member free),
    fun name => (first.declared name).trans (second.declared name)⟩

theorem Alike.branches (alike : Alike schema other) {P : Json → Prop} :
    (∃ key ∈ compositionKeys, ∃ branches, (key, .arr branches) ∈ schema ∧
      ∃ branch ∈ branches, P branch) ↔
    ∃ key ∈ compositionKeys, ∃ branches, (key, .arr branches) ∈ other ∧
      ∃ branch ∈ branches, P branch := by
  have free : ∀ key ∈ compositionKeys, key ∉ [typeKey, propertiesKey, requiredKey] := by decide
  refine exists_congr fun key => and_congr_right fun composes => exists_congr fun branches => ?_
  rw [alike.members (key, .arr branches) (free key composes)]

theorem Alike.opened (alike : Alike schema other) : openIn schema ↔ openIn other := by
  have keys : refKey ∈ schema.map (·.1) ↔ refKey ∈ other.map (·.1) := by
    simp only [List.mem_map]
    refine exists_congr fun member => and_congr_left fun same => alike.members member ?_
    rw [same]
    decide
  have additional : ∀ value, (additionalKey, value) ∈ schema ↔ (additionalKey, value) ∈ other :=
    fun value => alike.members (additionalKey, value) (by decide : additionalKey ∉ _)
  have patterns : ∀ value, (patternKey, value) ∈ schema ↔ (patternKey, value) ∈ other :=
    fun value => alike.members (patternKey, value) (by decide : patternKey ∉ _)
  simp only [openIn, keys, additional, patterns]

theorem Alike.forwards (alike : Alike schema other) :
    forwardsArgument schema name = forwardsArgument other name := by
  rw [Bool.eq_iff_iff, forwards_iff, forwards_iff]
  simp only [found_obj, alike.declared, alike.opened, alike.branches]

theorem mem_setMember_other {key : PyString} {member : PyString × Json}
    (different : member.1 ≠ key) : member ∈ schema ↔ member ∈ setMember schema key value := by
  refine ⟨fun listed => mem_setMember_of_mem listed different, fun stored => ?_⟩
  rcases mem_setMember stored with rfl | listed
  · exact absurd rfl different
  · exact listed

theorem mem_pop {key : PyString} {member : PyString × Json} (different : member.1 ≠ key) :
    member ∈ schema ↔ member ∈ pop schema key := by
  rw [pop, List.mem_filter, decide_eq_true_eq, and_iff_left different]

theorem alike_of_members {key : PyString} (known : key ∈ [typeKey, requiredKey])
    (members : ∀ member : PyString × Json, member.1 ≠ key → (member ∈ schema ↔ member ∈ other)) :
    Alike schema other := by
  have apart : ∀ key ∈ [typeKey, requiredKey], propertiesKey ≠ key := by decide
  refine ⟨fun member free => members member ?_, fun name => ?_⟩
  · rintro rfl
    refine free ?_
    rw [List.mem_cons, List.mem_singleton] at known
    rcases known with same | same
    · rw [same]
      decide
    · rw [same]
      decide
  · exact exists_congr fun properties =>
      and_congr_left fun _ => members (propertiesKey, .obj properties) (apart key known)

theorem alike_of_properties
    (members : ∀ member : PyString × Json, member.1 ≠ propertiesKey →
      (member ∈ schema ↔ member ∈ other))
    (none : ∀ name, ¬ declaredIn name schema) (none' : ∀ name, ¬ declaredIn name other) :
    Alike schema other := by
  refine ⟨fun member free => members member ?_, fun name => iff_of_false (none name) (none' name)⟩
  rintro same
  rw [same] at free
  exact free (by decide)

theorem declaredIn_lookup (distinct : (schema.map (·.1)).Nodup) : declaredIn name schema ↔
    ∃ properties, schema.lookup propertiesKey = some (.obj properties) ∧
      name ∈ properties.map (·.1) := by
  refine exists_congr fun properties => and_congr_left fun _ => ?_
  exact ⟨lookup_of_mem distinct, mem_of_lookup⟩

def settleProperties (composed : Bool) (schema : Members) : Members :=
  match schema.lookup propertiesKey with
  | some .null => if composed then schema else setMember schema propertiesKey (.obj [])
  | some (.obj _) => schema
  | some _ => pop schema propertiesKey
  | none => if composed then schema else setMember schema propertiesKey (.obj [])

def settleRequired (composed : Bool) (schema : Members) : Members :=
  match schema.lookup requiredKey with
  | none | some .null => if composed then schema else setMember schema requiredKey (.arr [])
  | some (.arr required) => setMember schema requiredKey (.arr (requiredNames required))
  | some _ => pop schema requiredKey

theorem alike_emptied (distinct : (schema.map (·.1)).Nodup)
    (undeclared : ∀ properties, schema.lookup propertiesKey ≠ some (.obj properties)) :
    Alike schema (setMember schema propertiesKey (.obj [])) ∧
      Alike schema (pop schema propertiesKey) := by
  have none : ∀ name, ¬ declaredIn name schema := by
    intro name declared
    obtain ⟨properties, found, -⟩ := (declaredIn_lookup distinct).mp declared
    exact undeclared properties found
  constructor
  · refine alike_of_properties (fun member => mem_setMember_other) none fun name declared => ?_
    obtain ⟨properties, found, member⟩ :=
      (declaredIn_lookup (nodup_setMember distinct)).mp declared
    rw [lookup_setMember, if_pos rfl] at found
    cases found
    cases member
  · refine alike_of_properties (fun member => mem_pop) none fun name declared => ?_
    obtain ⟨properties, found, member⟩ := (declaredIn_lookup (nodup_pop distinct)).mp declared
    rw [lookup_pop_self] at found
    cases found

theorem alike_settleProperties (composed : Bool) (distinct : (schema.map (·.1)).Nodup) :
    Alike schema (settleProperties composed schema) := by
  rw [settleProperties]
  split
  next null =>
    split
    · exact .refl schema
    · exact (alike_emptied distinct (by simp [null])).1
  next => exact .refl schema
  next value other found =>
    refine (alike_emptied distinct fun properties same => ?_).2
    rw [found] at same
    exact other properties (Option.some.inj same)
  next missing =>
    split
    · exact .refl schema
    · exact (alike_emptied distinct (by simp [missing])).1

theorem alike_settleRequired (composed : Bool) : Alike schema (settleRequired composed schema) := by
  have set : ∀ value, Alike schema (setMember schema requiredKey value) := fun value =>
    alike_of_members (by decide : requiredKey ∈ _) fun member => mem_setMember_other
  rw [settleRequired]
  split
  · split
    · exact .refl schema
    · exact set _
  · split
    · exact .refl schema
    · exact set _
  · exact set _
  · exact alike_of_members (by decide : requiredKey ∈ _) fun member => mem_pop

theorem nodup_updateMembers {branch : Members} (distinct : (schema.map (·.1)).Nodup) :
    ((updateMembers schema branch).map (·.1)).Nodup := by
  induction branch generalizing schema with
  | nil => exact distinct
  | cons member rest ih => exact ih (nodup_setMember distinct)

theorem nodup_collapse (distinct : (schema.map (·.1)).Nodup) :
    ((collapseNullableUnion schema).map (·.1)).Nodup := by
  rw [collapseNullableUnion]
  split
  · exact nodup_updateMembers (nodup_pop distinct)
  · exact distinct

def collapsed (schema : Members) : Members := collapseNullableUnion (normalizedMembers schema)

theorem normalize_eq (schema : Members) : normalizeMcpToolSchema (some schema) =
    if schemaLooksObjectLike (.obj (collapsed schema)) = true then
      let typed := setMember (collapsed schema) typeKey (.str "object")
      let composed := usesComposedTopLevelRules typed
      settleRequired composed (settleProperties composed typed)
    else emptyToolSchema := by
  rw [normalizeMcpToolSchema, Option.getD_some, normalizeSchemaNode_obj]
  change (if (! schemaLooksObjectLike (.obj (collapsed schema))) = true then emptyToolSchema
    else _) = _
  cases schemaLooksObjectLike (.obj (collapsed schema)) with
  | true => rfl
  | false => rfl

end Collectors

section Normalized

variable {schema : Members} {name : PyString} {value : Json}

-- A schema as the normalization of another one, up to its type
structure Follows (schema source : Members) : Prop where
  distinct : (schema.map (·.1)).Nodup
  lookups : ∀ key ≠ typeKey, schema.lookup key = (source.lookup key).map (normalizedAt key)

theorem normalized_follows (formed : wellFormed (.obj schema) = true) :
    Follows (normalizedMembers schema) schema :=
  ⟨nodup_normalized (formed_iff.mp formed).1, fun _ => lookup_normalized⟩

theorem collapsed_follows (formed : wellFormed (.obj schema) = true) :
    Follows (collapsed schema) (overwritten schema) :=
  ⟨nodup_collapse (nodup_normalized (formed_iff.mp formed).1), fun _ => lookup_collapse formed⟩

theorem isText_normalized (value : Json) : isText "null" (normalizeSchemaNode value) =
    isText "null" value := by
  cases value with
  | obj members =>
    rw [normalizeSchemaNode_obj]
    rfl
  | arr items =>
    rw [normalizeSchemaNode]
    rfl
  | null => rfl
  | bool => rfl
  | number => rfl
  | str => rfl

theorem lookup_type : ((normalizedMembers schema).lookup typeKey).isSome = true ↔
    keptIn schema typeKey := by
  have whole : (normalizedMembers schema).lookup typeKey =
      (narrowType (normalizeMembers schema)).lookup typeKey := by
    have unfolded : normalizedMembers schema = dropNullBranches schema
        (dropNullBranches schema (narrowType (normalizeMembers schema)) "anyOf") "oneOf" := rfl
    rw [unfolded, lookup_dropNull_other (by decide), lookup_dropNull_other (by decide)]
  rw [whole, narrowType, lookup_normalizeMembers]
  cases found : schema.lookup typeKey with
  | none =>
    rw [Option.map_none]
    dsimp only
    rw [lookup_normalizeMembers, found]
    simp [keptIn, found]
  | some held =>
    have kept : keptIn schema typeKey ↔ ¬ isNullType held = true := by
      simp [keptIn, found]
    rw [kept, Option.map_some]
    cases held with
    | str text =>
      by_cases null : text = "null"
      · simp [normalizeSchemaNode, isNullType, null, lookup_pop_self]
      · simp [normalizeSchemaNode, isNullType, null, lookup_normalizeMembers, found]
    | arr types =>
      have filtered : (types.map normalizeSchemaNode).filter (! isText "null" ·) =
          (types.filter (! isText "null" ·)).map normalizeSchemaNode := by
        rw [List.filter_map]
        refine congrArg (List.map _) (List.filter_congr fun value _ => ?_)
        rw [Function.comp_apply, isText_normalized]
      have empty : types.filter (! isText "null" ·) = [] ↔ isNullType (.arr types) = true := by
        rw [List.filter_eq_nil_iff, isNullType, List.all_eq_true]
        simp
      rw [normalizeSchemaNode, normalizeItems_eq]
      dsimp only
      rw [filtered, ← empty]
      cases types.filter (! isText "null" ·) with
      | nil => simp [lookup_pop_self]
      | cons first rest =>
        cases rest with
        | nil => simp [lookup_setMember]
        | cons second rest => simp [lookup_setMember]
    | obj members =>
      rw [normalizeSchemaNode_obj]
      dsimp only
      rw [lookup_normalizeMembers, found]
      simp [isNullType]
    | null => simp [normalizeSchemaNode, lookup_normalizeMembers, found, isNullType]
    | bool => simp [normalizeSchemaNode, lookup_normalizeMembers, found, isNullType]
    | number => simp [normalizeSchemaNode, lookup_normalizeMembers, found, isNullType]

theorem keys_normalized : name ∈ (normalizedMembers schema).map (·.1) ↔ keptIn schema name := by
  rw [← lookup_isSome]
  by_cases same : name = typeKey
  · subst same
    exact lookup_type
  · rw [lookup_normalized same, Option.isSome_map, Option.isSome_iff_exists]
    exact exists_congr fun value => (and_iff_left fun both => same both.1).symm

theorem follows_object {source : Members} {key : PyString} {properties : Members}
    (follows : Follows schema source) (untyped : key ≠ typeKey) :
    schema.lookup key = some (.obj properties) ↔
      ∃ held, source.lookup key = some (.obj held) ∧ properties = normalizedMembers held := by
  rw [follows.lookups key untyped]
  cases source.lookup key with
  | none => simp
  | some held =>
    rw [Option.map_some]
    cases held with
    | obj members => simp [normalizedAt_obj, eq_comm]
    | arr branches =>
      rw [normalizedAt]
      split
      · simp
      · simp
    | null => simp [normalizedAt, normalizeSchemaNode]
    | bool => simp [normalizedAt, normalizeSchemaNode]
    | number => simp [normalizedAt, normalizeSchemaNode]
    | str => simp [normalizedAt, normalizeSchemaNode]

theorem declaredIn_follows {source : Members} (follows : Follows schema source) :
    declaredIn name schema ↔ keeps name source := by
  rw [declaredIn_lookup follows.distinct]
  constructor
  · rintro ⟨properties, found, member⟩
    obtain ⟨held, here, rfl⟩ := (follows_object follows (by decide)).mp found
    exact ⟨held, here, keys_normalized.mp member⟩
  · rintro ⟨held, here, kept⟩
    exact ⟨_, (follows_object follows (by decide)).mpr ⟨held, here, rfl⟩, keys_normalized.mpr kept⟩

theorem allows_normalized (value : Json) : keywordAllowsValues (normalizedAt additionalKey value) =
    keywordAllowsValues value := by
  cases value with
  | obj members =>
    rw [normalizedAt_obj]
    rfl
  | arr branches =>
    rw [normalizedAt]
    split
    · rfl
    · rfl
  | null => rfl
  | bool => rfl
  | number => rfl
  | str => rfl

theorem openIn_follows {source : Members} (follows : Follows schema source) :
    openIn schema ↔ opens source := by
  have reference : refKey ∈ schema.map (·.1) ↔ (source.lookup refKey).isSome = true := by
    rw [← lookup_isSome, follows.lookups _ (by decide), Option.isSome_map]
  have additional : (∃ value, (additionalKey, value) ∈ schema ∧ keywordAllowsValues value = true) ↔
      ∃ value, source.lookup additionalKey = some value ∧ keywordAllowsValues value = true := by
    constructor
    · rintro ⟨value, listed, allowed⟩
      have found := lookup_of_mem follows.distinct listed
      rw [follows.lookups _ (by decide)] at found
      obtain ⟨held, here, rfl⟩ := Option.map_eq_some_iff.mp found
      exact ⟨held, here, (allows_normalized held).symm.trans allowed⟩
    · rintro ⟨held, here, allowed⟩
      refine ⟨_, mem_of_lookup ?_, (allows_normalized held).trans allowed⟩
      rw [follows.lookups _ (by decide), here]
      rfl
  have patterns : (∃ patterns, (patternKey, .obj patterns) ∈ schema ∧ patterns ≠ []) ↔
      ∃ patterns, source.lookup patternKey = some (.obj patterns) ∧
        ∃ name, keptIn patterns name := by
    have filled (members : Members) : members ≠ [] ↔ ∃ name, name ∈ members.map (·.1) := by
      cases members with
      | nil => simp
      | cons member rest => exact iff_of_true (List.cons_ne_nil _ _) ⟨member.1, List.mem_cons_self⟩
    constructor
    · rintro ⟨properties, listed, some⟩
      have found := lookup_of_mem follows.distinct listed
      obtain ⟨held, here, rfl⟩ := (follows_object follows (by decide)).mp found
      obtain ⟨name, member⟩ := (filled _).mp some
      exact ⟨held, here, name, keys_normalized.mp member⟩
    · rintro ⟨held, here, name, kept⟩
      have found := (follows_object follows (by decide)).mpr ⟨held, here, rfl⟩
      exact ⟨_, mem_of_lookup found, (filled _).mpr ⟨name, keys_normalized.mpr kept⟩⟩
  rw [openIn, opens, reference, additional, patterns]

variable {source : Members} {leaf held : Members → Prop}

theorem follows_branch {key : PyString} {branches : List Json} {branch : Json}
    (follows : Follows schema source) (composes : key ∈ compositionKeys)
    (listed : (key, .arr branches) ∈ schema) (member : branch ∈ branches) :
    ∃ given, source.lookup key = some (.arr given) ∧ ∃ origin ∈ given,
      (key ∈ unionKeys → isNullSchema origin = false) ∧ branch = normalizeSchemaNode origin := by
  have untyped : ∀ key ∈ compositionKeys, key ≠ typeKey := by decide
  have found := lookup_of_mem follows.distinct listed
  rw [follows.lookups key (untyped key composes)] at found
  obtain ⟨value, here, same⟩ := Option.map_eq_some_iff.mp found
  cases value with
  | arr given =>
    rw [normalizedAt] at same
    split at same
    next union =>
      obtain rfl := Json.arr.inj same
      obtain ⟨origin, within, rfl⟩ := List.mem_map.mp member
      obtain ⟨within, kept⟩ := List.mem_filter.mp within
      exact ⟨given, here, origin, within, fun _ => by simpa using kept, rfl⟩
    next plain =>
      obtain rfl := Json.arr.inj same
      obtain ⟨origin, within, rfl⟩ := List.mem_map.mp member
      exact ⟨given, here, origin, within, fun union => absurd union plain, rfl⟩
  | obj members =>
    rw [normalizedAt_obj] at same
    cases same
  | null => cases same
  | bool => cases same
  | number => cases same
  | str => cases same

theorem branch_follows {key : PyString} {given : List Json} {origin : Json}
    (follows : Follows schema source) (composes : key ∈ compositionKeys)
    (here : source.lookup key = some (.arr given)) (within : origin ∈ given)
    (kept : key ∈ unionKeys → isNullSchema origin = false) :
    ∃ branches, (key, .arr branches) ∈ schema ∧ normalizeSchemaNode origin ∈ branches := by
  have untyped : ∀ key ∈ compositionKeys, key ≠ typeKey := by decide
  have found := follows.lookups key (untyped key composes)
  rw [here, Option.map_some, normalizedAt] at found
  by_cases union : key ∈ unionKeys
  · rw [if_pos union] at found
    refine ⟨_, mem_of_lookup found, List.mem_map_of_mem (List.mem_filter.mpr ⟨within, ?_⟩)⟩
    rw [kept union]
    rfl
  · rw [if_neg union] at found
    exact ⟨_, mem_of_lookup found, List.mem_map_of_mem within⟩

theorem found_follows (formed : wellFormed (.obj source) = true) (follows : Follows schema source)
    (leaves : ∀ {schema source}, Follows schema source → (held schema ↔ leaf source)) :
    Found held (.obj schema) ↔ Reach leaf (.obj source) := by
  induction size : sizeOf (Json.obj source) using Nat.strong_induction_on
    generalizing schema source with
  | _ n ih =>
    have below : ∀ {key given origin}, source.lookup key = some (.arr given) → origin ∈ given →
        (Found held (normalizeSchemaNode origin) ↔ Reach leaf origin) := by
      intro key given origin here within
      have listed := mem_of_lookup here
      have formedItem := wellFormed_item ((formed_iff.mp formed).2 _ listed) within
      cases origin with
      | obj members =>
        rw [normalizeSchemaNode_obj]
        exact ih _ (size ▸ branch_smaller listed within) formedItem (normalized_follows formedItem)
          rfl
      | arr items =>
        rw [normalizeSchemaNode]
        exact iff_of_false (fun found => by cases found) fun reach => by cases reach
      | null => exact iff_of_false (fun found => by cases found) fun reach => by cases reach
      | bool => exact iff_of_false (fun found => by cases found) fun reach => by cases reach
      | number => exact iff_of_false (fun found => by cases found) fun reach => by cases reach
      | str => exact iff_of_false (fun found => by cases found) fun reach => by cases reach
    rw [found_obj, reach_obj, leaves follows]
    refine or_congr_right ⟨?_, ?_⟩
    · rintro ⟨key, composes, branches, listed, branch, member, found⟩
      obtain ⟨given, here, origin, within, kept, rfl⟩ :=
        follows_branch follows composes listed member
      exact ⟨key, composes, given, here, origin, within, kept, (below here within).mp found⟩
    · rintro ⟨key, composes, given, here, origin, within, kept, reach⟩
      obtain ⟨branches, listed, member⟩ := branch_follows follows composes here within kept
      exact ⟨key, composes, branches, listed, _, member, (below here within).mpr reach⟩

theorem looks_follows (formed : wellFormed (.obj source) = true) (follows : Follows schema source)
    (looks : ∀ {schema source}, Follows schema source → leaf source →
      (schema.lookup propertiesKey).any isObject = true ∨
        ∃ key ∈ [additionalKey, patternKey, refKey], key ∈ schema.map (·.1))
    (reach : Reach leaf (.obj source)) : schemaLooksObjectLike (.obj schema) = true := by
  generalize same : Json.obj source = value at reach
  induction reach generalizing schema source with
  | here holds =>
    obtain rfl := Json.obj.inj same
    rw [schemaLooksObjectLike, Bool.or_eq_true, Bool.or_eq_true, Bool.or_eq_true]
    rcases looks follows holds with properties | ⟨key, known, listed⟩
    · exact .inl (.inl (.inr properties))
    · obtain ⟨member, within, rfl⟩ := List.mem_map.mp listed
      refine .inl (.inr (List.any_eq_true.mpr ⟨member, within, ?_⟩))
      rw [List.contains_iff_mem]
      exact known
  | branch composes here within kept below ih =>
    obtain rfl := Json.obj.inj same
    obtain ⟨branches, listed, member⟩ := branch_follows follows composes here within kept
    have formedItem := wellFormed_item ((formed_iff.mp formed).2 _ (mem_of_lookup here)) within
    rw [schemaLooksObjectLike, Bool.or_eq_true]
    refine .inr (membersLook composes listed member ?_)
    cases below with
    | here holds =>
      rw [normalizeSchemaNode_obj]
      exact ih formedItem (normalized_follows formedItem) rfl
    | branch =>
      rw [normalizeSchemaNode_obj]
      exact ih formedItem (normalized_follows formedItem) rfl

theorem declared_looks (follows : Follows schema source) (kept : keeps name source) :
    (schema.lookup propertiesKey).any isObject = true := by
  obtain ⟨properties, found, -⟩ := kept
  rw [(follows_object follows (by decide)).mpr ⟨properties, found, rfl⟩]
  rfl

theorem opened_looks (follows : Follows schema source) (opened : opens source) :
    ∃ key ∈ [additionalKey, patternKey, refKey], key ∈ schema.map (·.1) := by
  have present : ∀ key ≠ typeKey, (source.lookup key).isSome = true → key ∈ schema.map (·.1) := by
    intro key untyped some
    rw [← lookup_isSome, follows.lookups key untyped, Option.isSome_map]
    exact some
  rcases opened with reference | ⟨value, found, -⟩ | ⟨patterns, found, -⟩
  · exact ⟨refKey, by decide, present _ (by decide) reference⟩
  · exact ⟨additionalKey, by decide, present _ (by decide) (by rw [found]; rfl)⟩
  · exact ⟨patternKey, by decide, present _ (by decide) (by rw [found]; rfl)⟩

theorem formed_pop {key : PyString} (formed : wellFormed (.obj schema) = true) :
    wellFormed (.obj (pop schema key)) = true := by
  rw [formed_iff] at formed ⊢
  exact ⟨nodup_pop formed.1, fun member listed => formed.2 member (List.mem_of_mem_filter listed)⟩

theorem formed_updateMembers {branch : Members} (formed : wellFormed (.obj schema) = true)
    (good : ∀ member ∈ branch, wellFormed member.2 = true) :
    wellFormed (.obj (updateMembers schema branch)) = true := by
  induction branch generalizing schema with
  | nil => exact formed
  | cons member rest ih =>
    exact ih (formed_setMember formed (good member List.mem_cons_self)) fun member later =>
      good member (List.mem_cons_of_mem _ later)

theorem formed_overwritten (formed : wellFormed (.obj schema) = true) :
    wellFormed (.obj (overwritten schema)) = true := by
  rw [overwritten]
  split
  next key branch sole =>
    exact formed_updateMembers (formed_pop formed) (formed_iff.mp (soleBranch_formed formed sole)).2
  · exact formed

theorem forwards_survives (formed : wellFormed (.obj schema) = true) :
    forwardsArgument (normalizeMcpToolSchema (some schema)) name = true ↔ Survives schema name := by
  have follows := collapsed_follows formed
  have whole := formed_overwritten formed
  have found : forwardsArgument (collapsed schema) name = true ↔ Survives schema name := by
    rw [forwards_iff, found_follows whole follows declaredIn_follows,
      found_follows whole follows openIn_follows, Survives, and_comm]
  rw [normalize_eq]
  split
  · dsimp only
    have typed : Alike (collapsed schema) (setMember (collapsed schema) typeKey (.str "object")) :=
      alike_of_members (by decide : typeKey ∈ _) fun member => mem_setMember_other
    have settled := @alike_settleProperties (setMember (collapsed schema) typeKey (.str "object"))
      (usesComposedTopLevelRules (setMember (collapsed schema) typeKey (.str "object")))
      (nodup_setMember follows.distinct)
    rw [← ((typed.trans settled).trans (alike_settleRequired _)).forwards]
    exact found
  next shapeless =>
    have lost : ¬ Survives schema name := by
      rintro (kept | ⟨-, opened⟩)
      · exact shapeless (looks_follows whole follows
          (fun follows kept => .inl (declared_looks follows kept)) kept)
      · exact shapeless (looks_follows whole follows
          (fun follows opened => .inr (opened_looks follows opened)) opened)
    refine iff_of_false ?_ lost
    have names : topLevelPropertyNames (.obj emptyToolSchema) = [] := by decide
    have closed : allowsAdditionalTopLevelKeys (.obj emptyToolSchema) = false := by decide
    rw [forwardsArgument, names, closed]
    simp

theorem reach_imp {other : Members → Prop} (leaves : ∀ {schema}, leaf schema → other schema)
    (reach : Reach leaf value) : Reach other value := by
  induction reach with
  | here holds => exact .here (leaves holds)
  | branch composes listed member kept below ih => exact .branch composes listed member kept ih

theorem reach_overwritten (formed : wellFormed (.obj schema) = true)
    (reach : Reach (declares name) (.obj (overwritten schema))) :
    Reach (declares name) (.obj schema) := by
  rw [overwritten] at reach
  split at reach
  next key branch sole =>
    have distinct := (formed_iff.mp (soleBranch_formed formed sole)).1
    obtain ⟨union, branches, listed, member, filled⟩ := soleBranch_member sole
    have unions : ∀ key ∈ unionKeys, key ∈ compositionKeys ∧ propertiesKey ≠ key := by decide
    have inside : Reach (declares name) (.obj branch) → Reach (declares name) (.obj schema) :=
      .branch (unions key union).1 listed member fun _ => filled
    have merged : ∀ {slot value}, (updateMembers (pop schema key) branch).lookup slot = some value →
        branch.lookup slot = some value ∨ schema.lookup slot = some value := by
      intro slot value found
      rw [lookup_updateMembers distinct] at found
      rcases Option.or_eq_some_iff.mp found with own | ⟨-, rest⟩
      · exact .inl own
      · by_cases same : slot = key
        · rw [same, lookup_pop_self] at rest
          cases rest
        · rw [lookup_pop same] at rest
          exact .inr rest
    rcases reach_obj.mp reach with ⟨properties, found, held⟩ |
      ⟨slot, composes, given, found, origin, within, kept, below⟩
    · rcases merged found with own | parent
      · exact inside (.here ⟨properties, own, held⟩)
      · exact .here ⟨properties, parent, held⟩
    · rcases merged found with own | parent
      · exact inside (.branch composes own within kept below)
      · exact .branch composes parent within kept below
  · exact reach

/-- The arguments of a remote tool are forwarded as its schema declares them if and only if nothing
is lost where the one branch of a union is taken into its parent. -/
theorem lossless_iff (schema : Members) (formed : wellFormed (.obj schema) = true) :
    Lossless schema ↔ ∀ name, Reach (declares name) (.obj schema) → Survives schema name := by
  constructor
  · intro lossless name declared
    have sent := lossless.forwarded [(name, .null)] _ (List.mem_singleton_self _) declared
    exact (forwards_survives formed).mp (mem_filterArguments.mp sent).2
  · intro kept
    refine ⟨fun arguments argument given declared => mem_filterArguments.mpr
      ⟨given, (forwards_survives formed).mpr (kept argument.1 declared)⟩, ?_⟩
    intro arguments argument sent known
    rcases (forwards_survives formed).mp (mem_filterArguments.mp sent).2 with declared | ⟨other, -⟩
    · refine reach_overwritten formed (reach_imp ?_ declared)
      rintro schema ⟨properties, found, value, held, -⟩
      exact ⟨properties, found, by rw [held]; rfl⟩
    · exact absurd known other

end Normalized

def quoteSchema : Members :=
  [(typeKey, .str "object"), (propertiesKey, .obj [("symbol", .obj [])]),
    ("anyOf", .arr [.obj [(propertiesKey, .obj [("symbol", .obj []), ("qty", .obj [])])],
      .obj [(typeKey, .str "null")]])]

-- The branch that takes the place of its parent declares its properties again.
theorem quoteSchema_lossless : Lossless quoteSchema := by
  refine (lossless_iff quoteSchema (by decide)).mpr fun name declared => .inl (.here ?_)
  have merged : (overwritten quoteSchema).lookup propertiesKey =
      some (.obj [("symbol", .obj []), ("qty", .obj [])]) := by rfl
  have names : topLevelPropertyNames (.obj quoteSchema) = ["symbol", "symbol", "qty"] := by rfl
  have kept := mem_names.mpr declared.found
  rw [names] at kept
  refine ⟨_, merged, .obj [], ?_, by simp [isNullType]⟩
  fin_cases kept <;> rfl

def orderSchema : Members :=
  [(typeKey, .str "object"), (propertiesKey, .obj [("symbol", .obj [])]),
    ("anyOf", .arr [.obj [(propertiesKey, .obj [("qty", .obj [])])],
      .obj [(typeKey, .str "null")]])]

-- The properties of the branch are in the place of those of its parent.
theorem symbol_lost : ¬ Lossless orderSchema := by
  intro lossless
  have declared : Reach (declares "symbol") (.obj orderSchema) :=
    .here ⟨_, by rfl, by rfl⟩
  have lost : forwardsArgument (normalizeMcpToolSchema (some orderSchema)) "symbol" = false := by
    decide
  have kept := lossless.forwarded [("symbol", .null)] _ (List.mem_singleton_self _) declared
  rw [(mem_filterArguments.mp kept).2] at lost
  cases lost

end SynapseYield.Tools
