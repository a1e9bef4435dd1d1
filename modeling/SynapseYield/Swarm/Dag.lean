import Mathlib.Data.List.Dedup
import Mathlib.Logic.Function.Basic
import SynapseYield.Shared.Python

set_option autoImplicit false

namespace SynapseYield.Swarm

open Shared

inductive TaskStatus where
  | pending
  | blocked
  | inProgress
  | completed
  | failed
  | cancelled
deriving DecidableEq, Repr

namespace TaskStatus

def value : TaskStatus → PyString
  | pending => "pending"
  | blocked => "blocked"
  | inProgress => "in_progress"
  | completed => "completed"
  | failed => "failed"
  | cancelled => "cancelled"

end TaskStatus

structure SwarmTask where
  id : PyString
  agentId : PyString
  promptTemplate : PyString := .empty
  dependsOn : List PyString := []
  blockedBy : List PyString := []
  inputFrom : List (PyString × PyString) := []
  status : TaskStatus := .pending
  summary : Option PyString := none
  artifacts : List PyString := []
  error : Option PyString := none
  startedAt : Option PyString := none
  completedAt : Option PyString := none
  workerIterations : Int := 0
deriving DecidableEq, Repr

def ids (tasks : List SwarmTask) : List PyString := tasks.map (·.id)

-- A set of ids, iterated in the order of its hashes.
structure IdSet (ids : List PyString) where
  items : List PyString
  mem_items : ∀ id, id ∈ items ↔ id ∈ ids

inductive DagError where
  | unknown (task dep : PyString)
  | cycle (path : List PyString)
  -- The fuel of the search is spent.
  | depth
deriving DecidableEq, Repr

-- ' -> '.join(names)
def arrows : List PyString → PyString
  | [] => .empty
  | [name] => name
  | name :: rest => name ++ (" -> " : PyString) ++ arrows rest

def DagError.text : DagError → PyString
  | .unknown task dep =>
    ("Task '" : PyString) ++ task ++ ("' depends on unknown task '" : PyString) ++ dep ++
      ("'" : PyString)
  | .cycle path => ("Cycle detected in task DAG: " : PyString) ++ arrows path
  | .depth => .empty

-- A repeated id keeps the dependencies of its last task.
def graph (tasks : List SwarmTask) : PyString → List PyString :=
  tasks.foldl (fun graph task => Function.update graph task.id task.dependsOn) fun _ => []

inductive Color where
  | white
  | gray
  | black
deriving DecidableEq, Repr

structure Search where
  color : PyString → Color
  path : List PyString

def Search.enter (search : Search) (node : PyString) : Search :=
  { color := Function.update search.color node .gray, path := search.path ++ [node] }

def Search.leave (search : Search) (node : PyString) : Search :=
  { color := Function.update search.color node .black, path := search.path.dropLast }

def dfs (graph : PyString → List PyString) : Nat → PyString → Search → Except DagError Search
  | 0, _, _ => .error .depth
  | fuel + 1, node, search => do
    let searched ← (graph node).foldlM (fun search neighbor =>
      match search.color neighbor with
      | .gray =>
        .error (.cycle (search.path.drop (search.path.idxOf neighbor) ++ [neighbor]))
      | .white => dfs graph fuel neighbor search
      | .black => .ok search) (search.enter node)
    .ok (searched.leave node)

def searchFrom (graph : PyString → List PyString) (fuel : Nat) (search : Search)
    (tid : PyString) : Except DagError Search :=
  match search.color tid with
  | .white => dfs graph fuel tid search
  | _ => .ok search

def checkKnown (ids : List PyString) (task : SwarmTask) : Except DagError Unit :=
  task.dependsOn.forM fun dep => if dep ∈ ids then .ok () else .error (.unknown task.id dep)

def validateDag (tasks : List SwarmTask) (allIds : IdSet (ids tasks)) : Except DagError Unit := do
  tasks.forM (checkKnown (ids tasks))
  let _ ← allIds.items.foldlM (searchFrom (graph tasks) tasks.length)
    { color := fun _ => .white, path := [] }
  .ok ()

inductive SortError where
  | cycle (processed total : Nat)
  -- The fuel of the loop is spent.
  | endless
deriving DecidableEq, Repr

structure Sorting where
  inDegree : PyString → Int
  queue : List PyString
  layers : List (List PyString)
  processed : Nat

def inDegree (tasks : List SwarmTask) : PyString → Int :=
  tasks.foldl (fun degree task => Function.update degree task.id task.dependsOn.length) fun _ => 0

def dependents (tasks : List SwarmTask) : PyString → List PyString :=
  tasks.foldl (fun dependents task =>
    task.dependsOn.foldl (fun dependents dep =>
      Function.update dependents dep (dependents dep ++ [task.id])) dependents) fun _ => []

namespace Sorting

-- A dict keeps the place of a key's first insertion.
def start (tasks : List SwarmTask) : Sorting where
  inDegree := Swarm.inDegree tasks
  queue := (ids tasks).reverse.dedup.reverse.filter fun tid => Swarm.inDegree tasks tid = 0
  layers := []
  processed := 0

def release (sorting : Sorting) (downstream : PyString) : Sorting :=
  let degree := sorting.inDegree downstream - 1
  { sorting with
    inDegree := Function.update sorting.inDegree downstream degree
    queue := if degree = 0 then sorting.queue ++ [downstream] else sorting.queue }

def take (sorting : Sorting) : Sorting :=
  { sorting with
    queue := []
    layers := sorting.layers ++ [sorting.queue]
    processed := sorting.processed + sorting.queue.length }

def advance (dependents : PyString → List PyString) (sorting : Sorting) : Sorting :=
  sorting.queue.foldl (fun sorting tid => (dependents tid).foldl release sorting) sorting.take

def run (dependents : PyString → List PyString) : Nat → Sorting → Except SortError Sorting
  | 0, _ => .error .endless
  | fuel + 1, sorting =>
    if sorting.queue = [] then .ok sorting else run dependents fuel (sorting.advance dependents)

end Sorting

def topologicalLayers (tasks : List SwarmTask) : Except SortError (List (List PyString)) := do
  let sorted ← (Sorting.start tasks).run (dependents tasks) (tasks.length + 1)
  if sorted.processed = tasks.length then .ok sorted.layers
  else .error (.cycle sorted.processed tasks.length)

end SynapseYield.Swarm
