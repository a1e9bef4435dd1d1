import SynapseYield.Backtest.Runner
import SynapseYield.Shared.Outcome

set_option autoImplicit false

namespace SynapseYield.Backtest

open Shared Shared.Syntax

mutual

theorem isLiteralNode_plain : (e : Expr) → isLiteralNode e = true → e.Plain
  | .constant value, _ => .constant value
  | .tuple elts, literal => .tuple elts (areLiteralNodes_plain elts literal)
  | .list elts, literal => .list elts (areLiteralNodes_plain elts literal)
  | .set elts, literal => .set elts (areLiteralNodes_plain elts literal)
  | .dict items, literal =>
    .dict items (fun item member => (areLiteralItems_plain items literal item member).1)
      fun item member => (areLiteralItems_plain items literal item member).2

theorem areLiteralNodes_plain : (elts : List Expr) → areLiteralNodes elts = true →
    ∀ e ∈ elts, e.Plain
  | [], _ => List.forall_mem_nil _
  | item :: rest, literal => by
    obtain ⟨head, tail⟩ := (Bool.and_eq_true _ _).mp literal
    exact List.forall_mem_cons.mpr ⟨isLiteralNode_plain item head, areLiteralNodes_plain rest tail⟩

theorem isLiteralItem_plain : (item : DictItem) → isLiteralItem item = true →
    (∀ key, item.key = some key → key.Plain) ∧ item.value.Plain
  | .mk none value, literal => ⟨by simp [DictItem.key], isLiteralNode_plain value literal⟩
  | .mk (some key) value, literal => by
    obtain ⟨first, second⟩ := (Bool.and_eq_true _ _).mp literal
    exact ⟨fun _ same => Option.some.inj same ▸ isLiteralNode_plain key first,
      isLiteralNode_plain value second⟩

theorem areLiteralItems_plain : (items : List DictItem) → areLiteralItems items = true →
    ∀ item ∈ items, (∀ key, item.key = some key → key.Plain) ∧ item.value.Plain
  | [], _ => List.forall_mem_nil _
  | item :: rest, literal => by
    obtain ⟨head, tail⟩ := (Bool.and_eq_true _ _).mp literal
    exact List.forall_mem_cons.mpr ⟨isLiteralItem_plain item head, areLiteralItems_plain rest tail⟩

end

-- The objects of the attributes in a reference: nothing checks what they are.
mutual

def owners : Expr → List Expr
  | .attribute object _ => [object]
  | .subscript value slice => owners value ++ owners slice
  | .tuple elts => ownersOf elts
  | .binOp left _ right => owners left ++ owners right
  | _ => []

def ownersOf : List Expr → List Expr
  | [] => []
  | item :: rest => owners item ++ ownersOf rest

end

mutual

theorem safeReference_callFree : (e : Expr) → isSafeReference e = true →
    (e.callFree = true ↔ ∀ owner ∈ owners e, owner.callFree = true)
  | .name _, _ | .constant _, _ => iff_of_true rfl (List.forall_mem_nil _)
  | .attribute object _, _ => by simp [owners, Expr.callFree, Expr.evaluated, Expr.isCall]
  | .subscript value slice, safe => by
    obtain ⟨first, second⟩ := (Bool.and_eq_true _ _).mp safe
    rw [owners, List.forall_mem_append, ← safeReference_callFree value first,
      ← safeReference_callFree slice second]
    simp [Expr.callFree, Expr.evaluated, Expr.isCall]
  | .tuple elts, safe => by
    rw [owners, ← safeReferences_callFree elts safe]
    simp [Expr.callFree, Expr.evaluated, Expr.isCall]
  | .binOp left .bitOr right, safe => by
    obtain ⟨first, second⟩ := (Bool.and_eq_true _ _).mp safe
    rw [owners, List.forall_mem_append, ← safeReference_callFree left first,
      ← safeReference_callFree right second]
    simp [Expr.callFree, Expr.evaluated, Expr.isCall]

theorem safeReferences_callFree : (elts : List Expr) → areSafeReferences elts = true →
    ((evaluatedAll elts).all (! ·.isCall) = true ↔
      ∀ owner ∈ ownersOf elts, owner.callFree = true)
  | [], _ => iff_of_true rfl (List.forall_mem_nil _)
  | item :: rest, safe => by
    obtain ⟨head, tail⟩ := (Bool.and_eq_true _ _).mp safe
    rw [ownersOf, List.forall_mem_append, ← safeReference_callFree item head,
      ← safeReferences_callFree rest tail, evaluatedAll, List.all_append, Bool.and_eq_true]
    rfl

end

theorem require_ok {holds : Bool} {message : PyString} :
    require holds message = .ok () ↔ holds = true := by
  cases holds <;> simp [require]

theorem requireAll_ok {es : List Expr} {holds : Expr → Bool} {message : PyString} :
    (es.forM fun e => require (holds e) message) = .ok () ↔ ∀ e ∈ es, holds e = true := by
  simp only [Outcome.forM_ok, require_ok]

theorem validateFunctionDef_ok {node : FunctionDef} :
    validateFunctionDef node = .ok () ↔
      node.decoratorList = [] ∧
        (∀ default ∈ defaultsOf node, isLiteralNode default = true) ∧
        ∀ annotation ∈ annotationsOf node, isSafeReference annotation = true := by
  simp only [validateFunctionDef, Outcome.andThen_ok, require_ok, requireAll_ok, List.isEmpty_iff]

theorem validateClassBody_ok {name : PyString} {bases keywords : List Expr} {body : List Stmt}
    {decoratorList : List Expr} :
    validateClassBody name bases keywords body decoratorList = .ok () ↔
      decoratorList = [] ∧ (∀ base ∈ bases, isSafeReference base = true) ∧ keywords = [] ∧
        ∀ child ∈ body, validateClassChild child = .ok () := by
  simp only [validateClassBody, Outcome.andThen_ok, Outcome.forM_ok, require_ok, List.isEmpty_iff]

theorem mem_annotationsOf {node : FunctionDef} {hint : Expr} :
    hint ∈ annotationsOf node ↔ hint ∈ node.annotations := by
  have given (arg : Option Arg) :
      some hint = arg.bind (fun arg => arg.annotation) ↔
        ∃ one, arg = some one ∧ one.annotation = some hint := by
    rw [eq_comm, Option.bind_eq_some_iff]
  simp only [annotationsOf, FunctionDef.annotations, Arguments.annotations, List.mem_filterMap,
    List.mem_append, List.mem_map, List.mem_singleton, id_eq, exists_eq_right, or_and_right,
    exists_or, Option.mem_toList, given, eq_comm (b := node.returns)]
  grind

def evaluatedAnnotations (deferred : Bool) (annotations : List Expr) : List Expr :=
  if deferred then [] else annotations

-- The expressions that the import evaluates and the validation does not look at.
mutual

def unchecked (deferred : Bool) : Stmt → List Expr
  | .functionDef node | .asyncFunctionDef node =>
    (evaluatedAnnotations deferred node.annotations).flatMap owners
  | .classDef _ bases _ body _ => bases.flatMap owners ++ uncheckedOf deferred body
  | .assign targets _ => targets.flatMap located
  | .annAssign target hint _ =>
    located target ++ evaluatedAnnotations deferred [hint]
  | _ => []

def uncheckedOf (deferred : Bool) : List Stmt → List Expr
  | [] => []
  | stmt :: rest => unchecked deferred stmt ++ uncheckedOf deferred rest

end

-- The actions that Python's object model may dispatch: all but the literals.
mutual

def dispatched (deferred : Bool) : Stmt → List Action
  | .functionDef node | .asyncFunctionDef node =>
    annotationActions deferred node.annotations
  | .classDef name bases keywords body _ =>
    bases.flatMap evaluations ++ dispatchedOf deferred body ++ [.create name bases keywords]
  | .assign targets value => targets.flatMap (assigned value)
  | .annAssign target hint (some value) =>
    assigned value target ++ annotationActions deferred [hint]
  | .annAssign target hint none =>
    (located target).flatMap evaluations ++ annotationActions deferred [hint]
  | _ => []

def dispatchedOf (deferred : Bool) : List Stmt → List Action
  | [] => []
  | stmt :: rest => dispatched deferred stmt ++ dispatchedOf deferred rest

end

def Harmless (model : ObjectModel) (roots : List Expr) (actions : List Action) : Prop :=
  (∀ root ∈ roots, root.callFree = true) ∧ ∀ action ∈ actions, model.runs action = []

section Statements

variable {model : ObjectModel} {deferred : Bool}

theorem harmless_nil : Harmless model [] [] := ⟨List.forall_mem_nil _, List.forall_mem_nil _⟩

theorem harmless_append {left right : List Expr} {before after : List Action} :
    Harmless model (left ++ right) (before ++ after) ↔
      Harmless model left before ∧ Harmless model right after := by
  simp only [Harmless, List.forall_mem_append]
  exact and_and_and_comm

theorem harmless_snoc {roots : List Expr} {actions : List Action} {action : Action} :
    Harmless model roots (actions ++ [action]) ↔
      Harmless model roots actions ∧ model.runs action = [] := by
  simp only [Harmless, List.forall_mem_append, List.forall_mem_singleton, and_assoc]

theorem harmless_of_spans {actions : List Action} {roots : List Expr}
    (spans : Spans actions roots) : Inactive model actions ↔ Harmless model roots actions :=
  spans.inactive_iff model

theorem references_harmless {references : List Expr}
    (safe : ∀ reference ∈ references, isSafeReference reference = true) :
    Inactive model (references.flatMap evaluations) ↔
      Harmless model (references.flatMap owners) (references.flatMap evaluations) := by
  rw [harmless_of_spans (spans_evaluationsAll references)]
  refine and_congr_left fun _ => ?_
  rw [List.forall_mem_flatMap]
  exact forall₂_congr fun reference member => safeReference_callFree reference (safe reference member)

variable (model) in
theorem literals_inactive {es : List Expr} (literal : ∀ e ∈ es, isLiteralNode e = true) :
    Inactive model (es.flatMap evaluations) :=
  inactive_flatMap.mpr fun e member => inactive_plain (isLiteralNode_plain e (literal e member))

theorem annotations_harmless {annotations : List Expr}
    (safe : ∀ annotation ∈ annotations, isSafeReference annotation = true) :
    Inactive model (annotationActions deferred annotations) ↔
      Harmless model ((evaluatedAnnotations deferred annotations).flatMap owners)
        (annotationActions deferred annotations) := by
  cases deferred with
  | true => exact iff_of_true inactive_nil harmless_nil
  | false => exact references_harmless safe

theorem function_harmless {node : FunctionDef} (accepted : validateFunctionDef node = .ok ()) :
    Inactive model (node.actions deferred) ↔
      Harmless model ((evaluatedAnnotations deferred node.annotations).flatMap owners)
        (annotationActions deferred node.annotations) := by
  obtain ⟨undecorated, literal, safe⟩ := validateFunctionDef_ok.mp accepted
  have defaults := literals_inactive model literal
  rw [defaultsOf, List.flatMap_append, inactive_append] at defaults
  have defined : Inactive model [.define node.name] := inactive_inert (by simp) trivial
  rw [FunctionDef.actions, undecorated, List.flatMap_nil, List.map_nil, List.nil_append,
    List.append_nil, inactive_append, inactive_append, inactive_append,
    and_iff_left defined, and_iff_right ⟨defaults.1, defaults.2⟩]
  exact annotations_harmless fun annotation member => safe annotation (mem_annotationsOf.mpr member)

theorem annotationSpans (hint : Expr) :
    Spans (annotationActions deferred [hint])
      (evaluatedAnnotations deferred [hint]) := by
  cases deferred with
  | true => exact spans_nil
  | false => exact spans_evaluationsAll [hint]

theorem assignment_harmless {stmt : Stmt} (constant : isSafeConstantAssignment stmt = true) :
    Inactive model (stmt.actions deferred) ↔
      Harmless model (unchecked deferred stmt) (dispatched deferred stmt) := by
  cases stmt with
  | assign targets value =>
    have plain : Inactive model (evaluations value) :=
      inactive_plain (isLiteralNode_plain value constant)
    rw [Stmt.actions, inactive_append, and_iff_right plain]
    exact harmless_of_spans (spans_flatMap fun target _ => spans_assigned value target)
  | annAssign target hint value =>
    cases value with
    | none =>
      exact harmless_of_spans
        (spans_append (spans_evaluationsAll (located target)) (annotationSpans hint))
    | some value =>
      have plain : Inactive model (evaluations value) :=
        inactive_plain (isLiteralNode_plain value constant)
      rw [Stmt.actions, List.append_assoc, inactive_append, and_iff_right plain]
      exact harmless_of_spans
        (spans_append (spans_assigned value target) (annotationSpans hint))
  | _ => cases constant

theorem constant_inactive (value : PyString) : Inactive model (evaluations (.constant value)) :=
  inactive_plain (.constant value)

variable (model) in
theorem loads_inactive (modules : List (Option PyString)) :
    Inactive model (modules.map .load) :=
  ⟨by simp, by simp +contextual⟩

theorem child_harmless {child : Stmt} (accepted : validateClassChild child = .ok ()) :
    Inactive model (child.actions deferred) ↔
      Harmless model (unchecked deferred child) (dispatched deferred child) := by
  cases child with
  | functionDef node | asyncFunctionDef node => exact function_harmless accepted
  | pass => exact iff_of_true inactive_nil harmless_nil
  | expr value =>
    cases value with
    | constant value => exact iff_of_true (constant_inactive value) harmless_nil
    | _ => cases accepted
  | assign targets value => exact assignment_harmless (require_ok.mp accepted)
  | annAssign target hint value => exact assignment_harmless (require_ok.mp accepted)
  | _ => cases accepted

theorem body_harmless {body : List Stmt}
    (each : ∀ stmt ∈ body, Inactive model (stmt.actions deferred) ↔
      Harmless model (unchecked deferred stmt) (dispatched deferred stmt)) :
    Inactive model (actionsOf deferred body) ↔
      Harmless model (uncheckedOf deferred body) (dispatchedOf deferred body) := by
  induction body with
  | nil => exact iff_of_true inactive_nil harmless_nil
  | cons stmt rest ih =>
    obtain ⟨head, tail⟩ := List.forall_mem_cons.mp each
    rw [actionsOf, inactive_append, uncheckedOf, dispatchedOf, harmless_append, head, ih tail]

theorem statement_harmless {stmt : Stmt} (accepted : validateStatement stmt = .ok ()) :
    Inactive model (stmt.actions deferred) ↔
      Harmless model (unchecked deferred stmt) (dispatched deferred stmt) := by
  cases stmt with
  | functionDef node | asyncFunctionDef node => exact function_harmless accepted
  | classDef name bases keywords body decoratorList =>
    obtain ⟨undecorated, safe, unkeyed, children⟩ := validateClassBody_ok.mp accepted
    subst undecorated
    subst unkeyed
    have created : Inactive model [.create name bases []] ↔
        model.runs (.create name bases []) = [] := by
      rw [harmless_of_spans (spans_silent (by simp) (by simp))]
      simp [Harmless]
    rw [Stmt.actions, List.map_nil, List.append_nil, inactive_append, inactive_append, created,
      unchecked, dispatched, harmless_snoc, harmless_append,
      body_harmless fun child member => child_harmless (children child member),
      ← references_harmless safe]
    simp only [List.flatMap_nil, List.nil_append, List.append_nil]
  | expr value =>
    cases value with
    | constant value => exact iff_of_true (constant_inactive value) harmless_nil
    | _ => cases accepted
  | assign targets value => exact assignment_harmless (require_ok.mp accepted)
  | annAssign target hint value => exact assignment_harmless (require_ok.mp accepted)
  | imports names =>
    have loads := loads_inactive model (names.map some)
    rw [List.map_map] at loads
    exact iff_of_true loads harmless_nil
  | importFrom module names level => exact iff_of_true (loads_inactive model [module]) harmless_nil
  | _ => cases accepted

end Statements

-- Every target, every annotation of an assignment, and every object of an attribute in another
-- annotation or in a base is free of calls, and the object model dispatches none of the lookups,
-- stores and class creations that are left to a function of the module.
def FreeOfHooks (model : ObjectModel) (body : List Stmt) : Prop :=
  Harmless model (uncheckedOf (body.any (·.defersAnnotations)) body)
    (dispatchedOf (body.any (·.defersAnnotations)) body)

theorem import_inactive_iff (model : ObjectModel) (parse : PyString → Except PyString (List Stmt))
    (source : PyString) (body : List Stmt) (parsed : parse source = .ok body)
    (accepted : validateSignalEngineSource parse source = .ok ()) :
    Inactive model (importActions body) ↔ FreeOfHooks model body := by
  rw [validateSignalEngineSource, parsed] at accepted
  exact body_harmless fun stmt member =>
    statement_harmless (Outcome.forM_ok.mp accepted stmt member)

-- What ast.parse gives on one file; every other text is a syntax error here.
def parseOnly (source : PyString) (body : List Stmt) (text : PyString) :
    Except PyString (List Stmt) :=
  if text = source then .ok body else .error "invalid syntax"

def plainSource : PyString :=
  "import pandas\n\nclass SignalEngine:\n    def generate(self, data_map: pd.DataFrame): ...\n"

def plainEngine : List Stmt :=
  [.imports ["pandas"],
    .classDef "SignalEngine" [] []
      [.functionDef
        { name := "generate"
          args :=
            { posonlyargs := []
              args := [⟨"self", none⟩, ⟨"data_map", some (.attribute (.name "pd") "DataFrame")⟩]
              vararg := none
              kwonlyargs := []
              kwDefaults := []
              kwarg := none
              defaults := [] }
          decoratorList := []
          returns := none }] []]

def quiet : ObjectModel := ⟨fun _ => [], fun _ _ => rfl⟩

theorem import_inactive_iff_plain :
    Inactive quiet (importActions plainEngine) ↔ FreeOfHooks quiet plainEngine :=
  import_inactive_iff quiet (parseOnly plainSource plainEngine) plainSource plainEngine
    (by simp [parseOnly]) (by rw [validateSignalEngineSource, parseOnly, if_pos rfl]; rfl)

def printingSource : PyString := "table = \x7b\x7d\ntable[print('imported')] = 1\n"

def printingEngine : List Stmt :=
  [.assign [.name "table"] (.dict []),
    .assign [.subscript (.name "table") (.call (.name "print") [.constant "'imported'"] [])]
      (.constant "1")]

theorem import_inactive_fails :
    ¬ ∀ (model : ObjectModel) (parse : PyString → Except PyString (List Stmt)) (source : PyString)
      (body : List Stmt), parse source = .ok body →
        validateSignalEngineSource parse source = .ok () →
          Inactive model (importActions body) := by
  intro all
  have inactive := all quiet (parseOnly printingSource printingEngine) printingSource printingEngine
    (by simp [parseOnly]) (by rw [validateSignalEngineSource, parseOnly, if_pos rfl]; rfl)
  have called := inactive.1 (.call (.name "print") [.constant "'imported'"] []) (by
    simp [printingEngine, importActions, actionsOf, Stmt.actions, assigned, evaluations,
      Expr.evaluated])
  cases called

end SynapseYield.Backtest
