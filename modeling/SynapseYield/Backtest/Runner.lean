import SynapseYield.Shared.Syntax

set_option autoImplicit false

namespace SynapseYield.Backtest

open Shared Shared.Syntax

mutual

def isLiteralNode : Expr → Bool
  | .constant _ => true
  | .tuple elts => areLiteralNodes elts
  | .list elts => areLiteralNodes elts
  | .set elts => areLiteralNodes elts
  | .dict items => areLiteralItems items
  | _ => false

def areLiteralNodes : List Expr → Bool
  | [] => true
  | item :: rest => isLiteralNode item && areLiteralNodes rest

def isLiteralItem : DictItem → Bool
  | .mk none value => isLiteralNode value
  | .mk (some key) value => isLiteralNode key && isLiteralNode value

def areLiteralItems : List DictItem → Bool
  | [] => true
  | item :: rest => isLiteralItem item && areLiteralItems rest

end

def isSafeConstantAssignment : Stmt → Bool
  | .assign _ value => isLiteralNode value
  | .annAssign _ _ none => true
  | .annAssign _ _ (some value) => isLiteralNode value
  | _ => false

mutual

def isSafeReference : Expr → Bool
  | .name _ => true
  | .attribute _ _ => true
  | .constant _ => true
  | .subscript value slice => isSafeReference value && isSafeReference slice
  | .tuple elts => areSafeReferences elts
  | .binOp left .bitOr right => isSafeReference left && isSafeReference right
  | _ => false

def areSafeReferences : List Expr → Bool
  | [] => true
  | item :: rest => isSafeReference item && areSafeReferences rest

end

-- {name!r} of an identifier
def quoted (name : PyString) : PyString := ("'" : PyString) ++ name ++ ("'" : PyString)

-- raise ValueError(message)
def require (holds : Bool) (message : PyString) : Except PyString Unit :=
  if holds then .ok () else .error message

def defaultsOf (node : FunctionDef) : List Expr :=
  node.args.defaults ++ node.args.kwDefaults.filterMap id

def annotationsOf (node : FunctionDef) : List Expr :=
  ([node.returns] ++ node.args.posonlyargs.map (fun arg => arg.annotation) ++
    node.args.args.map (fun arg => arg.annotation) ++
    node.args.kwonlyargs.map (fun arg => arg.annotation) ++
    [node.args.vararg.bind (fun arg => arg.annotation)] ++
    [node.args.kwarg.bind (fun arg => arg.annotation)]).filterMap id

def validateFunctionDef (node : FunctionDef) : Except PyString Unit := do
  require node.decoratorList.isEmpty
    (("Decorators are not allowed on function " : PyString) ++ quoted node.name)
  (defaultsOf node).forM fun default =>
    require (isLiteralNode default)
      (("Non-literal default is not allowed on function " : PyString) ++ quoted node.name)
  (annotationsOf node).forM fun annotation =>
    require (isSafeReference annotation)
      (("Unsafe annotation is not allowed on function " : PyString) ++ quoted node.name)

-- type(node).__name__
def typeName : Stmt → PyString
  | .functionDef _ => "FunctionDef"
  | .asyncFunctionDef _ => "AsyncFunctionDef"
  | .classDef .. => "ClassDef"
  | .assign .. => "Assign"
  | .annAssign .. => "AnnAssign"
  | .imports _ => "Import"
  | .importFrom .. => "ImportFrom"
  | .expr _ => "Expr"
  | .pass => "Pass"
  | .other type => type

def validateClassChild (child : Stmt) : Except PyString Unit :=
  match child with
  | .expr (.constant _) => .ok ()
  | .functionDef node => validateFunctionDef node
  | .asyncFunctionDef node => validateFunctionDef node
  | .pass => .ok ()
  | child =>
    require (isSafeConstantAssignment child)
      (("Executable class-level statement " : PyString) ++ typeName child ++
        (" is not allowed" : PyString))

def validateClassBody (name : PyString) (bases keywords : List Expr) (body : List Stmt)
    (decoratorList : List Expr) : Except PyString Unit := do
  require decoratorList.isEmpty
    (("Decorators are not allowed on class " : PyString) ++ quoted name)
  bases.forM fun base =>
    require (isSafeReference base)
      (("Unsafe base class is not allowed on class " : PyString) ++ quoted name)
  require keywords.isEmpty
    (("Class keywords are not allowed on class " : PyString) ++ quoted name)
  body.forM validateClassChild

def validateStatement (node : Stmt) : Except PyString Unit :=
  match node with
  | .expr (.constant _) => .ok ()
  | .importFrom module _ _ =>
    require (module != some ("signal_engine" : PyString))
      (("Circular import: 'from signal_engine import ...' imports the file from itself. " :
          PyString) ++
        ("Remove this import — SignalEngine is defined in this same file." : PyString))
  | .imports _ => .ok ()
  | .functionDef node => validateFunctionDef node
  | .asyncFunctionDef node => validateFunctionDef node
  | .classDef name bases keywords body decoratorList =>
    validateClassBody name bases keywords body decoratorList
  | node =>
    require (isSafeConstantAssignment node)
      (("Executable top-level statement " : PyString) ++ typeName node ++
        (" is not allowed" : PyString))

-- `parse` is ast.parse on the text of the file, with the message of a SyntaxError.
def validateSignalEngineSource (parse : PyString → Except PyString (List Stmt))
    (source : PyString) : Except PyString Unit :=
  match parse source with
  | .error message => .error (("Invalid signal_engine.py syntax: " : PyString) ++ message)
  | .ok body => body.forM validateStatement

end SynapseYield.Backtest
