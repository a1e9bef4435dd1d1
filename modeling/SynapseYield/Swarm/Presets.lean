import SynapseYield.Shared.Format
import SynapseYield.Shared.Search
import SynapseYield.Swarm.Dag

set_option autoImplicit false

namespace SynapseYield.Swarm

open Shared

structure SwarmAgentSpec where
  id : PyString
  role : PyString := .empty
  systemPrompt : PyString := .empty
  tools : List PyString := []
  skills : List PyString := []
  maxIterations : Int := 25
  timeoutSeconds : Int := 300
  modelName : Option PyString := none
  maxRetries : Int := 2

structure TaskData where
  id : PyString
  agentId : PyString
  promptTemplate : PyString := .empty
  dependsOn : List PyString := []
  inputFrom : List (PyString × PyString) := []
  -- input_from is a dict.
  distinct : (inputFrom.map Prod.fst).Nodup := by decide

-- An entry of the variables: a dict with its name, or some other value as text.
inductive VariableData where
  | entry (name : Option PyString)
  | plain (text : PyString)

structure Preset where
  agents : List SwarmAgentSpec := []
  tasks : List TaskData := []
  variableData : List VariableData := []

def SortError.text : SortError → PyString
  | .cycle processed total =>
    ("DAG contains a cycle: processed " : PyString) ++ (toString processed : String) ++
      ("/" : PyString) ++ (toString total : String) ++ (" tasks" : PyString)
  | .endless => .empty

inductive PresetError where
  | duplicateAgent (id : PyString)
  | duplicateTask (id : PyString)
  | unknownAgent (task agent : PyString)
  | unknownSource (task source : PyString)
  | graph (text : PyString)
  | template (task text : PyString)

inductive PresetWarning where
  | notUpstream (task key source : PyString)
  | undeclared (names : List PyString)
  | unused (names : List PyString)

-- ", ".join(names)
def commas : List PyString → PyString
  | [] => .empty
  | [name] => name
  | name :: rest => name ++ (", " : PyString) ++ commas rest

def declaredVariableNames (rawVariables : List VariableData) : List PyString :=
  rawVariables.filterMap fun item =>
    let name := match item with
      | .entry name => name.getD .empty
      | .plain text => text
    if name = .empty then none else some name

def internalTemplateVars : List PyString := ["upstream_context"]

-- field_name.split(".", 1)[0].split("[", 1)[0]
def rootName (fieldName : PyString) : PyString :=
  ⟨(fieldName.points.takeWhile (· ≠ 0x2E)).takeWhile (· ≠ 0x5B)⟩

def templateVariables (template : PyString) : Except PyString (List PyString) := do
  let fieldNames ← Format.parse template
  .ok ((fieldNames.map rootName).filter fun root => root ≠ .empty ∧ root ∉ internalTemplateVars)

-- sorted(set(names))
def sorted (names : List PyString) : List PyString :=
  names.dedup.mergeSort fun first second => decide (first.points ≤ second.points)

def duplicates (names : List PyString) : List PyString :=
  sorted (names.filter fun name => 1 < names.count name)

def buildTask (taskData : TaskData) : SwarmTask where
  id := taskData.id
  agentId := taskData.agentId
  promptTemplate := taskData.promptTemplate
  dependsOn := taskData.dependsOn
  blockedBy := taskData.dependsOn
  inputFrom := taskData.inputFrom
  status := if taskData.dependsOn = [] then .pending else .blocked

def buildTasks (preset : Preset) : List SwarmTask := preset.tasks.map buildTask

def referenceErrors (agentIds : List PyString) (tasks : List SwarmTask) : List PresetError :=
  tasks.flatMap fun task =>
    (if task.agentId ∈ agentIds then [] else [.unknownAgent task.id task.agentId]) ++
      task.inputFrom.filterMap fun (_, upstreamTaskId) =>
        if upstreamTaskId ∈ ids tasks then none else some (.unknownSource task.id upstreamTaskId)

def planLayers (tasks : List SwarmTask) (allIds : IdSet (ids tasks)) :
    Except PyString (List (List PyString)) := do
  (validateDag tasks allIds).mapError DagError.text
  (topologicalLayers tasks).mapError SortError.text

-- The nodes that the search can stack: every dependency, once for each task that has it.
def searchFuel (tasks : List SwarmTask) : Nat :=
  Search.cost (dependents tasks) (tasks.flatMap (·.dependsOn)).dedup [] [.empty] + 1

def isUpstream (tasks : List SwarmTask) (candidate taskId : PyString) : Bool :=
  Search.reaches (dependents tasks) taskId (searchFuel tasks) [] [candidate]

def upstreamWarnings (tasks : List SwarmTask) : List PresetWarning :=
  tasks.flatMap fun task => task.inputFrom.filterMap fun (key, upstreamTaskId) =>
    if upstreamTaskId ∈ ids tasks ∧ ¬ isUpstream tasks upstreamTaskId task.id then
      some (.notUpstream task.id key upstreamTaskId)
    else none

def usedVariables (tasks : List TaskData) : List PyString :=
  tasks.flatMap fun task => (templateVariables task.promptTemplate).toOption.getD []

def templateErrors (tasks : List TaskData) : List PresetError :=
  tasks.filterMap fun task =>
    match templateVariables task.promptTemplate with
    | .ok _ => none
    | .error text => some (.template task.id text)

def variableWarnings (declared used : List PyString) : List PresetWarning :=
  let missing := sorted (used.filter (· ∉ declared))
  let unused := sorted (declared.filter (· ∉ used))
  (if missing = [] then [] else [.undeclared missing]) ++
    if unused = [] then [] else [.unused unused]

structure Inspection where
  errors : List PresetError
  warnings : List PresetWarning
  declaredVariables : List PyString
  usedVariables : List PyString
  layers : List (List (PyString × PyString))

def Inspection.valid (inspection : Inspection) : Bool := inspection.errors.isEmpty

-- A repeated id has the agent of its last task.
def taskAgent (tasks : List SwarmTask) (taskId : PyString) : PyString :=
  ((tasks.reverse.find? (·.id = taskId)).map (·.agentId)).getD .empty

def inspectPreset (preset : Preset) (allIds : IdSet (ids (buildTasks preset))) : Inspection :=
  let tasks := buildTasks preset
  let agentIds := preset.agents.map (·.id)
  let layers := planLayers tasks allIds
  let declared := declaredVariableNames preset.variableData
  let used := usedVariables preset.tasks
  { errors := (duplicates agentIds).map .duplicateAgent ++
      (duplicates (ids tasks)).map .duplicateTask ++ referenceErrors agentIds tasks ++
      (match layers with
        | .ok _ => []
        | .error text => [.graph text]) ++ templateErrors preset.tasks
    warnings := upstreamWarnings tasks ++ variableWarnings declared used
    declaredVariables := sorted declared
    usedVariables := sorted used
    layers := (layers.toOption.getD []).map fun layer =>
      layer.map fun taskId => (taskId, taskAgent tasks taskId) }

end SynapseYield.Swarm
