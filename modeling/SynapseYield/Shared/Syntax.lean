import SynapseYield.Shared.Python

set_option autoImplicit false

namespace Shared.Syntax

inductive Operator where
  | add
  | sub
  | mult
  | matMult
  | div
  | mod
  | pow
  | lShift
  | rShift
  | bitOr
  | bitXor
  | bitAnd
  | floorDiv
deriving DecidableEq, Repr

-- The expressions of Python's abstract grammar. A constant is given by its spelling, a keyword
-- argument by its value and a parameter of a lambda by its default.
mutual

inductive Expr where
  | boolOp (values : List Expr)
  | namedExpr (target value : Expr)
  | binOp (left : Expr) (op : Operator) (right : Expr)
  | unaryOp (operand : Expr)
  | lambda (defaults : List Expr) (body : Expr)
  | ifExp (test body orelse : Expr)
  | dict (items : List DictItem)
  | set (elts : List Expr)
  | listComp (elt : Expr) (generators : List Comprehension)
  | setComp (elt : Expr) (generators : List Comprehension)
  | dictComp (key value : Expr) (generators : List Comprehension)
  | generatorExp (elt : Expr) (generators : List Comprehension)
  | await (value : Expr)
  | yield (value : Option Expr)
  | yieldFrom (value : Expr)
  | compare (left : Expr) (comparators : List Expr)
  | call (func : Expr) (args keywords : List Expr)
  | formattedValue (value : Expr) (formatSpec : Option Expr)
  | joinedStr (values : List Expr)
  | constant (value : PyString)
  | attribute (value : Expr) (attr : PyString)
  | subscript (value slice : Expr)
  | starred (value : Expr)
  | name (id : PyString)
  | list (elts : List Expr)
  | tuple (elts : List Expr)
  | slice (lower upper step : Option Expr)

-- An item without a key unpacks its value.
inductive DictItem where
  | mk (key : Option Expr) (value : Expr)

inductive Comprehension where
  | mk (target iter : Expr) (ifs : List Expr)

end

def DictItem.key : DictItem → Option Expr
  | .mk key _ => key

def DictItem.value : DictItem → Expr
  | .mk _ value => value

structure Arg where
  arg : PyString
  annotation : Option Expr

structure Arguments where
  posonlyargs : List Arg
  args : List Arg
  vararg : Option Arg
  kwonlyargs : List Arg
  -- A keyword parameter without a default has none here.
  kwDefaults : List (Option Expr)
  kwarg : Option Arg
  defaults : List Expr

-- Importing a module runs no function body, and the body is left out.
structure FunctionDef where
  name : PyString
  args : Arguments
  decoratorList : List Expr
  returns : Option Expr

-- `other` is any statement that is not listed, by the name of its type.
inductive Stmt where
  | functionDef (definition : FunctionDef)
  | asyncFunctionDef (definition : FunctionDef)
  | classDef (name : PyString) (bases keywords : List Expr) (body : List Stmt)
      (decoratorList : List Expr)
  | assign (targets : List Expr) (value : Expr)
  | annAssign (target annotation : Expr) (value : Option Expr)
  | imports (names : List PyString)
  | importFrom (module : Option PyString) (names : List PyString) (level : Nat)
  | expr (value : Expr)
  | pass
  | other (type : PyString)

mutual

-- The expressions that evaluating an expression evaluates, itself included. All operands of a
-- short-circuit count. The body of a lambda waits for a call, and a generator evaluates its first
-- iterable only.
def Expr.evaluated : Expr → List Expr
  | .boolOp values => .boolOp values :: evaluatedAll values
  | .namedExpr target value => .namedExpr target value :: value.evaluated
  | .binOp left op right => .binOp left op right :: (left.evaluated ++ right.evaluated)
  | .unaryOp operand => .unaryOp operand :: operand.evaluated
  | .lambda defaults body => .lambda defaults body :: evaluatedAll defaults
  | .ifExp test body orelse =>
    .ifExp test body orelse :: (test.evaluated ++ body.evaluated ++ orelse.evaluated)
  | .dict items => .dict items :: evaluatedItems items
  | .set elts => .set elts :: evaluatedAll elts
  | .listComp elt generators =>
    .listComp elt generators :: (evaluatedLoops generators ++ elt.evaluated)
  | .setComp elt generators =>
    .setComp elt generators :: (evaluatedLoops generators ++ elt.evaluated)
  | .dictComp key value generators =>
    .dictComp key value generators ::
      (evaluatedLoops generators ++ key.evaluated ++ value.evaluated)
  | .generatorExp elt generators => .generatorExp elt generators :: firstIterable generators
  | .await value => .await value :: value.evaluated
  | .yield value => .yield value :: evaluatedOption value
  | .yieldFrom value => .yieldFrom value :: value.evaluated
  | .compare left comparators =>
    .compare left comparators :: (left.evaluated ++ evaluatedAll comparators)
  | .call func args keywords =>
    .call func args keywords :: (func.evaluated ++ evaluatedAll args ++ evaluatedAll keywords)
  | .formattedValue value formatSpec =>
    .formattedValue value formatSpec :: (value.evaluated ++ evaluatedOption formatSpec)
  | .joinedStr values => .joinedStr values :: evaluatedAll values
  | .constant value => [.constant value]
  | .attribute value attr => .attribute value attr :: value.evaluated
  | .subscript value slice => .subscript value slice :: (value.evaluated ++ slice.evaluated)
  | .starred value => .starred value :: value.evaluated
  | .name id => [.name id]
  | .list elts => .list elts :: evaluatedAll elts
  | .tuple elts => .tuple elts :: evaluatedAll elts
  | .slice lower upper step =>
    .slice lower upper step ::
      (evaluatedOption lower ++ evaluatedOption upper ++ evaluatedOption step)

def evaluatedAll : List Expr → List Expr
  | [] => []
  | e :: rest => e.evaluated ++ evaluatedAll rest

def evaluatedOption : Option Expr → List Expr
  | none => []
  | some e => e.evaluated

def DictItem.evaluated : DictItem → List Expr
  | .mk key value => evaluatedOption key ++ value.evaluated

def evaluatedItems : List DictItem → List Expr
  | [] => []
  | item :: rest => item.evaluated ++ evaluatedItems rest

def Comprehension.evaluated : Comprehension → List Expr
  | .mk target iter ifs => iter.evaluated ++ target.evaluated ++ evaluatedAll ifs

def evaluatedLoops : List Comprehension → List Expr
  | [] => []
  | loop :: rest => loop.evaluated ++ evaluatedLoops rest

def Comprehension.iterable : Comprehension → List Expr
  | .mk _ iter _ => iter.evaluated

def firstIterable : List Comprehension → List Expr
  | [] => []
  | loop :: _ => loop.iterable

end

def Expr.isCall : Expr → Bool
  | .call .. => true
  | _ => false

def Expr.callFree (e : Expr) : Bool := e.evaluated.all (! ·.isCall)

-- Constants, and tuples, lists, sets and dicts of them.
inductive Expr.Plain : Expr → Prop where
  | constant (value : PyString) : Plain (.constant value)
  | tuple (elts : List Expr) (all : ∀ e ∈ elts, Plain e) : Plain (.tuple elts)
  | list (elts : List Expr) (all : ∀ e ∈ elts, Plain e) : Plain (.list elts)
  | set (elts : List Expr) (all : ∀ e ∈ elts, Plain e) : Plain (.set elts)
  | dict (items : List DictItem) (keys : ∀ item ∈ items, ∀ key, item.key = some key → Plain key)
      (values : ∀ item ∈ items, Plain item.value) : Plain (.dict items)

inductive Action where
  | evaluate (e : Expr)
  | unpack (value : Expr)
  | bind (id : PyString)
  | setAttribute (object : Expr) (attr : PyString)
  | setItem (object index : Expr)
  | define (name : PyString)
  | create (name : PyString) (bases keywords : List Expr)
  | decorate (decorator : Expr)
  | load (module : Option PyString)
  | execute (type : PyString)

def evaluations (e : Expr) : List Action := e.evaluated.map .evaluate

mutual

-- A name, an attribute, an item or a list of targets: the parser gives no other target.
def assigned (value : Expr) : Expr → List Action
  | .name id => [.bind id]
  | .attribute object attr => evaluations object ++ [.setAttribute object attr]
  | .subscript object index => evaluations object ++ evaluations index ++ [.setItem object index]
  | .starred target => assigned value target
  | .tuple targets => .unpack value :: assignedAll value targets
  | .list targets => .unpack value :: assignedAll value targets
  | target => evaluations target

def assignedAll (value : Expr) : List Expr → List Action
  | [] => []
  | target :: rest => assigned value target ++ assignedAll value rest

end

mutual

def located : Expr → List Expr
  | .name _ => []
  | .attribute object _ => [object]
  | .subscript object index => [object, index]
  | .starred target => located target
  | .tuple targets => locatedAll targets
  | .list targets => locatedAll targets
  | target => [target]

def locatedAll : List Expr → List Expr
  | [] => []
  | target :: rest => located target ++ locatedAll rest

end

def Arguments.annotations (args : Arguments) : List Expr :=
  (args.args ++ args.posonlyargs ++ args.vararg.toList ++ args.kwonlyargs ++
    args.kwarg.toList).filterMap (fun arg => arg.annotation)

def FunctionDef.annotations (definition : FunctionDef) : List Expr :=
  definition.args.annotations ++ definition.returns.toList

def annotationActions (deferred : Bool) (annotations : List Expr) : List Action :=
  if deferred then [] else annotations.flatMap evaluations

def FunctionDef.actions (deferred : Bool) (definition : FunctionDef) : List Action :=
  definition.decoratorList.flatMap evaluations ++
    definition.args.defaults.flatMap evaluations ++
    (definition.args.kwDefaults.filterMap id).flatMap evaluations ++
    annotationActions deferred definition.annotations ++
    [.define definition.name] ++ definition.decoratorList.map .decorate

-- from __future__ import annotations: the module keeps its annotations unevaluated.
def Stmt.defersAnnotations : Stmt → Bool
  | .importFrom (some module) names level =>
    module = ("__future__" : PyString) && names.contains ("annotations" : PyString) && level = 0
  | _ => false

mutual

def Stmt.actions (deferred : Bool) : Stmt → List Action
  | .functionDef definition => definition.actions deferred
  | .asyncFunctionDef definition => definition.actions deferred
  | .classDef name bases keywords body decoratorList =>
    decoratorList.flatMap evaluations ++ bases.flatMap evaluations ++
      keywords.flatMap evaluations ++ actionsOf deferred body ++ [.create name bases keywords] ++
      decoratorList.map .decorate
  | .assign targets value => evaluations value ++ targets.flatMap (assigned value)
  | .annAssign target hint (some value) =>
    evaluations value ++ assigned value target ++ annotationActions deferred [hint]
  -- Without a value the target is evaluated except for its last step.
  | .annAssign target hint none =>
    (located target).flatMap evaluations ++ annotationActions deferred [hint]
  | .imports names => names.map fun name => .load (some name)
  | .importFrom module _ _ => [.load module]
  | .expr value => evaluations value
  | .pass => []
  | .other type => [.execute type]

def actionsOf (deferred : Bool) : List Stmt → List Action
  | [] => []
  | stmt :: rest => stmt.actions deferred ++ actionsOf deferred rest

end

def importActions (body : List Stmt) : List Action :=
  actionsOf (body.any (·.defersAnnotations)) body

def Action.Inert : Action → Prop
  | .evaluate e => e.Plain
  | .unpack value => value.Plain
  | .bind _ => True
  | .define _ => True
  | _ => False

-- Python's object model together with the objects that the imports bind: the functions of the
-- module, by name, whose bodies an action runs.
structure ObjectModel where
  runs : Action → List PyString
  inert : ∀ action, action.Inert → runs action = []

-- No call is evaluated, and only the imports run what they run.
def Inactive (model : ObjectModel) (actions : List Action) : Prop :=
  (∀ e, .evaluate e ∈ actions → e.isCall = false) ∧
    ∀ action ∈ actions, (∀ module, action ≠ .load module) → model.runs action = []

theorem mem_evaluatedAll {es : List Expr} {n : Expr} :
    n ∈ evaluatedAll es ↔ ∃ e ∈ es, n ∈ e.evaluated := by
  induction es with
  | nil => simp [evaluatedAll]
  | cons e rest ih => simp [evaluatedAll, ih]

theorem mem_evaluatedItems {items : List DictItem} {n : Expr} :
    n ∈ evaluatedItems items ↔ ∃ item ∈ items, n ∈ item.evaluated := by
  induction items with
  | nil => simp [evaluatedItems]
  | cons item rest ih => simp [evaluatedItems, ih]

theorem callFree_iff {e : Expr} : e.callFree = true ↔ ∀ n ∈ e.evaluated, n.isCall = false := by
  simp [Expr.callFree]

theorem mem_evaluations {e n : Expr} : .evaluate n ∈ evaluations e ↔ n ∈ e.evaluated := by
  simp [evaluations]

theorem Expr.Plain.evaluated {e : Expr} (plain : e.Plain) : ∀ n ∈ e.evaluated, n.Plain := by
  induction plain with
  | constant value =>
    intro n visited
    rw [List.mem_singleton.mp visited]
    exact .constant value
  | tuple elts all ih | list elts all ih | set elts all ih =>
    intro n visited
    obtain rfl | visited := List.mem_cons.mp visited
    · constructor
      exact all
    · obtain ⟨e, member, visited⟩ := mem_evaluatedAll.mp visited
      exact ih e member n visited
  | dict items keys values keysIh valuesIh =>
    intro n visited
    obtain rfl | visited := List.mem_cons.mp visited
    · exact .dict items keys values
    · obtain ⟨⟨key, value⟩, member, visited⟩ := mem_evaluatedItems.mp visited
      obtain visited | visited := List.mem_append.mp visited
      · cases key with
        | none => exact absurd visited List.not_mem_nil
        | some key => exact keysIh _ member key rfl n visited
      · exact valuesIh _ member n visited

theorem Expr.Plain.isCall {e : Expr} (plain : e.Plain) : e.isCall = false := by
  cases plain <;> rfl

section Inactivity

variable {model : ObjectModel} {before after : List Action}

theorem inactive_nil : Inactive model [] :=
  ⟨fun _ => by simp, fun _ => by simp⟩

theorem inactive_append :
    Inactive model (before ++ after) ↔ Inactive model before ∧ Inactive model after := by
  simp only [Inactive, List.mem_append, or_imp, forall_and]
  exact and_and_and_comm

theorem inactive_flatMap {α : Type} {items : List α} {actions : α → List Action} :
    Inactive model (items.flatMap actions) ↔ ∀ item ∈ items, Inactive model (actions item) := by
  induction items with
  | nil => simpa using inactive_nil
  | cons item rest ih => rw [List.flatMap_cons, inactive_append, ih, List.forall_mem_cons]

theorem inactive_inert {action : Action} (unevaluated : ∀ e, action ≠ .evaluate e)
    (inert : action.Inert) : Inactive model [action] := by
  constructor
  · intro e evaluated
    exact absurd (List.mem_singleton.mp evaluated).symm (unevaluated e)
  · intro performed member _
    rw [List.mem_singleton.mp member]
    exact model.inert action inert

theorem inactive_plain {e : Expr} (plain : e.Plain) : Inactive model (evaluations e) := by
  constructor
  · intro n evaluated
    exact (plain.evaluated n (mem_evaluations.mp evaluated)).isCall
  · intro action member _
    obtain ⟨n, visited, rfl⟩ := List.mem_map.mp member
    exact model.inert _ (plain.evaluated n visited)

end Inactivity

-- The actions evaluate the roots and nothing else, and import nothing.
structure Spans (actions : List Action) (roots : List Expr) : Prop where
  evaluates : ∀ e, .evaluate e ∈ actions ↔ ∃ root ∈ roots, e ∈ root.evaluated
  unloaded : ∀ module, .load module ∉ actions

theorem Spans.inactive_iff {actions : List Action} {roots : List Expr}
    (spans : Spans actions roots) (model : ObjectModel) :
    Inactive model actions ↔
      (∀ root ∈ roots, root.callFree = true) ∧ ∀ action ∈ actions, model.runs action = [] := by
  have calls : (∀ e, .evaluate e ∈ actions → e.isCall = false) ↔
      ∀ root ∈ roots, root.callFree = true := by
    simp only [spans.evaluates, callFree_iff]
    exact ⟨fun free root member n visited => free n ⟨root, member, visited⟩,
      fun free n ⟨root, member, visited⟩ => free root member n visited⟩
  have loads : (∀ action ∈ actions, (∀ module, action ≠ .load module) → model.runs action = []) ↔
      ∀ action ∈ actions, model.runs action = [] := by
    refine forall₂_congr fun action member => ⟨fun quiet => quiet ?_, fun quiet _ => quiet⟩
    rintro module rfl
    exact spans.unloaded module member
  rw [Inactive, calls, loads]

theorem spans_nil : Spans [] [] := ⟨by simp, by simp⟩

theorem spans_evaluations (e : Expr) : Spans (evaluations e) [e] :=
  ⟨by simp [mem_evaluations], by simp [evaluations]⟩

theorem spans_append {before after : List Action} {left right : List Expr}
    (first : Spans before left) (second : Spans after right) :
    Spans (before ++ after) (left ++ right) := by
  constructor
  · simp [first.evaluates, second.evaluates, or_and_right, exists_or]
  · simp [first.unloaded, second.unloaded]

theorem spans_flatMap {α : Type} {items : List α} {actions : α → List Action}
    {roots : α → List Expr} (each : ∀ item ∈ items, Spans (actions item) (roots item)) :
    Spans (items.flatMap actions) (items.flatMap roots) := by
  induction items with
  | nil => exact spans_nil
  | cons item rest ih =>
    obtain ⟨head, tail⟩ := List.forall_mem_cons.mp each
    exact spans_append head (ih tail)

theorem spans_silent {action : Action} (unevaluated : ∀ e, action ≠ .evaluate e)
    (unloaded : ∀ module, action ≠ .load module) : Spans [action] [] := by
  constructor
  · simp [(unevaluated _).symm]
  · simp [(unloaded _).symm]

theorem spans_evaluationsAll (es : List Expr) : Spans (es.flatMap evaluations) es := by
  simpa using spans_flatMap fun e (_ : e ∈ es) => spans_evaluations e

mutual

theorem spans_assigned (value : Expr) : (target : Expr) →
    Spans (assigned value target) (located target)
  | .name _ => spans_silent (by simp) (by simp)
  | .attribute object _ =>
    spans_append (spans_evaluations object) (spans_silent (by simp) (by simp))
  | .subscript object index =>
    spans_append (spans_append (spans_evaluations object) (spans_evaluations index))
      (spans_silent (by simp) (by simp))
  | .starred target => spans_assigned value target
  | .tuple targets | .list targets =>
    spans_append (spans_silent (by simp) (by simp)) (spans_assignedAll value targets)
  | .boolOp _ | .namedExpr _ _ | .binOp _ _ _ | .unaryOp _ | .lambda _ _ | .ifExp _ _ _
  | .dict _ | .set _ | .listComp _ _ | .setComp _ _ | .dictComp _ _ _ | .generatorExp _ _
  | .await _ | .yield _ | .yieldFrom _ | .compare _ _ | .call _ _ _ | .formattedValue _ _
  | .joinedStr _ | .constant _ | .slice _ _ _ => spans_evaluations _

theorem spans_assignedAll (value : Expr) : (targets : List Expr) →
    Spans (assignedAll value targets) (locatedAll targets)
  | [] => spans_nil
  | target :: rest => spans_append (spans_assigned value target) (spans_assignedAll value rest)

end

end Shared.Syntax
