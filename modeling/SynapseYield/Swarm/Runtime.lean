import SynapseYield.Swarm.Presets
import SynapseYield.Swarm.TaskStore

set_option autoImplicit false

namespace SynapseYield.Swarm

open Shared

inductive RunStatus where
  | pending
  | running
  | completed
  | failed
  | cancelled
deriving DecidableEq, Repr

inductive WorkerStatus where
  | completed
  | failed
  | timeout
  | tokenLimit
  | incomplete
deriving DecidableEq, Repr

structure WorkerResult where
  status : WorkerStatus
  summary : PyString
  artifactPaths : List PyString := []
  iterations : Int := 0
  error : Option PyString := none
  inputTokens : Nat := 0
  outputTokens : Nat := 0

-- What the attempts at one task have come to.
structure Attempts where
  made : Nat := 0
  inputTokens : Nat := 0
  outputTokens : Nat := 0
  result : Option WorkerResult := none

-- A failed attempt is made again; a timeout or a token limit is not.
def runAttempts (runWorker : Nat → WorkerResult) : Nat → Attempts → Attempts
  | 0, attempts => attempts
  | left + 1, attempts =>
    let result := runWorker attempts.made
    let attempts : Attempts :=
      { made := attempts.made + 1
        inputTokens := attempts.inputTokens + result.inputTokens
        outputTokens := attempts.outputTokens + result.outputTokens
        result := some result }
    if result.status ≠ .failed then attempts else runAttempts runWorker left attempts

def runWorkerWithRetries (runWorker : Nat → WorkerResult) (maxRetries : Nat) :
    Option WorkerResult :=
  let attempts := runAttempts runWorker (maxRetries + 1) {}
  attempts.result.map
    ({ · with inputTokens := attempts.inputTokens, outputTokens := attempts.outputTokens })

-- What a worker is started with.
structure Dispatch where
  task : SwarmTask
  upstreamSummaries : List (PyString × PyString)

-- What one run finds around it.
structure Host where
  -- What _run_worker_with_retries gives for a task, or the layer's deadline in its place.
  worker : PyString → WorkerResult
  -- The order in which the workers of a layer end.
  asCompleted : List PyString → List PyString
  asCompleted_perm : ∀ taskIds, (asCompleted taskIds).Perm taskIds
  -- Whether cancel_event is set before a layer, and at the end.
  cancelled : Nat → Bool
  cancelledAtEnd : Bool
  startedAt : PyString → {text : PyString // text.isAscii = true}
  completedAt : PyString → {text : PyString // text.isAscii = true}
  redactInternalPaths : PyString → PyString
  -- The text of a status in an f-string.
  statusText : WorkerStatus → PyString

structure RunState where
  taskStore : TaskStore := .empty
  -- run.tasks
  tasks : List SwarmTask
  taskSummaries : List (PyString × PyString) := []
  allSucceeded : Bool := true
  totalInputTokens : Nat := 0
  totalOutputTokens : Nat := 0
  -- The workers started so far.
  dispatched : List Dispatch := []

abbrev RunM := EStateM PyError RunState

def onStore (change : TaskStore → Except PyError TaskStore) : RunM Unit := do
  match change (← get).taskStore with
  | .ok taskStore => modify ({ · with taskStore })
  | .error raised => throw raised

def loadTask (taskId : PyString) : RunM SwarmTask := do
  match (← get).taskStore.loadTask taskId with
  | .ok task => pure task
  | .error raised => throw raised

def updateStatus (taskId : PyString) (update : SwarmTask → SwarmTask) : RunM Unit :=
  onStore (·.updateStatus taskId update)

-- task_summaries[tid] = summary
def setSummary (taskId summary : PyString) (summaries : List (PyString × PyString)) :
    List (PyString × PyString) :=
  summaries.filter (·.1 ≠ taskId) ++ [(taskId, summary)]

namespace SwarmTask

def begin (startedAt : PyString) (task : SwarmTask) : SwarmTask :=
  { task with status := .inProgress, startedAt := some startedAt }

def complete (result : WorkerResult) (completedAt : PyString) (task : SwarmTask) : SwarmTask :=
  { task with
    status := .completed
    summary := some result.summary
    completedAt := some completedAt
    artifacts := result.artifactPaths
    workerIterations := result.iterations }

end SwarmTask

def blockedUpstreams (taskStore : TaskStore) (task : SwarmTask) : List (PyString × PyString) :=
  task.dependsOn.filterMap fun depId =>
    match taskStore.find? depId with
    | none => some (depId, "missing")
    | some depTask =>
      if depTask.status = .completed then none else some (depId, depTask.status.value)

def blockedError (blocked : List (PyString × PyString)) : PyString :=
  ("Blocked: upstream not completed (" : PyString) ++
    commas (blocked.map fun (depId, status) => depId ++ ("=" : PyString) ++ status) ++
    (")" : PyString)

def unknownAgent (agentId : PyString) : WorkerResult where
  status := .failed
  summary := .empty
  error := some (("Agent '" : PyString) ++ agentId ++ ("' not found in presets" : PyString))

-- What becomes of a task of the layer: no result, a result at once, or a future.
inductive Placement where
  | blocked
  | rejected (result : WorkerResult)
  | submitted

def rejectedResult : PyString × Placement → Option (PyString × WorkerResult)
  | (tid, .rejected result) => some (tid, result)
  | _ => none

def submittedTask : PyString × Placement → Option PyString
  | (tid, .submitted) => some tid
  | _ => none

def upstreamSummaries (taskSummaries : List (PyString × PyString)) (task : SwarmTask) :
    List (PyString × PyString) :=
  task.inputFrom.filterMap fun (contextKey, sourceTaskId) =>
    (taskSummaries.lookup sourceTaskId).map (contextKey, ·)

def place (host : Host) (agentIds : List PyString) (tid : PyString) : RunM Placement := do
  let task ← loadTask tid
  let blocked := blockedUpstreams (← get).taskStore task
  if blocked ≠ [] then do
    updateStatus tid fun task =>
      { task with
        status := .blocked
        error := some (blockedError blocked)
        blockedBy := blocked.map Prod.fst
        completedAt := some (host.completedAt tid).val }
    pure .blocked
  else if task.agentId ∉ agentIds then pure (.rejected (unknownAgent task.agentId))
  else do
    updateStatus tid (SwarmTask.begin (host.startedAt tid).val)
    modify fun s =>
      { s with dispatched := s.dispatched ++ [⟨task, upstreamSummaries s.taskSummaries task⟩] }
    pure .submitted

-- The results of a layer: of the unknown agents, then of the workers as they end.
def executeLayer (host : Host) (agentIds layerTaskIds : List PyString) :
    RunM (List (PyString × WorkerResult)) := do
  let placed ← layerTaskIds.mapM fun tid => return (tid, ← place host agentIds tid)
  return placed.filterMap rejectedResult ++
    (host.asCompleted (placed.filterMap submittedTask)).map fun tid => (tid, host.worker tid)

def failureText (host : Host) (result : WorkerResult) : PyString :=
  let redacted := host.redactInternalPaths (result.error.getD .empty)
  if redacted = .empty then
    ("worker did not complete (status=" : PyString) ++ host.statusText result.status ++
      (")" : PyString)
  else redacted

def collect (host : Host) (tid : PyString) (result : WorkerResult) : RunM Unit := do
  modify fun s =>
    { s with
      totalInputTokens := s.totalInputTokens + result.inputTokens
      totalOutputTokens := s.totalOutputTokens + result.outputTokens }
  if result.status = .completed then do
    modify fun s => { s with taskSummaries := setSummary tid result.summary s.taskSummaries }
    updateStatus tid (SwarmTask.complete result (host.completedAt tid).val)
    onStore fun taskStore => .ok (taskStore.resolveDependencies tid)
  else do
    modify ({ · with allSucceeded := false })
    updateStatus tid fun task =>
      { task with
        status := .failed
        error := some (failureText host result)
        completedAt := some (host.completedAt tid).val
        workerIterations := result.iterations }

-- What fails here is logged and left.
def cancelRemainingTasks : RunM Unit := do
  (← get).tasks.forM fun task =>
    if task.status = .completed ∨ task.status = .failed then pure ()
    else tryCatch (updateStatus task.id ({ · with status := .cancelled })) fun _ => pure ()

def runLayers (host : Host) (agentIds : List PyString) : Nat → List (List PyString) → RunM Unit
  | _, [] => pure ()
  | layerIdx, layerTaskIds :: layers =>
    if host.cancelled layerIdx then do
      cancelRemainingTasks
      modify ({ · with allSucceeded := false })
    else do
      let layerResults ← executeLayer host agentIds layerTaskIds
      layerResults.forM fun (tid, result) => collect host tid result
      modify fun s =>
        { s with
          allSucceeded := s.allSucceeded && layerTaskIds.all (· ∈ layerResults.map Prod.fst)
          tasks := s.taskStore.loadAll }
      runLayers host agentIds (layerIdx + 1) layers

structure FinishedRun where
  status : RunStatus
  tasks : List SwarmTask
  finalReport : Option PyString
  totalInputTokens : Nat
  totalOutputTokens : Nat
  dispatched : List Dispatch

def finalStatus (host : Host) (state : RunState) : RunStatus :=
  if host.cancelledAtEnd then .cancelled else if state.allSucceeded then .completed else .failed

-- The first task of the last layer that has a summary.
def finalReport (layers : List (List PyString)) (state : RunState) : Option PyString :=
  (layers.getLast?.getD []).findSome? fun tid => state.taskSummaries.lookup tid

def finishRun (host : Host) (layers : List (List PyString)) (state : RunState) : FinishedRun where
  status := finalStatus host state
  tasks := state.taskStore.loadAll
  finalReport := finalReport layers state
  totalInputTokens := state.totalInputTokens
  totalOutputTokens := state.totalOutputTokens
  dispatched := state.dispatched

-- What escapes from here ends the thread, and leaves run.json as it is.
def executeRun (host : Host) (agentIds : List PyString) (tasks : List SwarmTask) :
    RunM FinishedRun := do
  tasks.forM fun task => onStore (·.saveTask task)
  match topologicalLayers tasks with
  | .error _ => throw .valueError
  | .ok layers =>
    tryCatch (runLayers host agentIds 0 layers) fun _ => modify ({ · with allSucceeded := false })
    return finishRun host layers (← get)

def SwarmAgentSpec.texts (agent : SwarmAgentSpec) : List PyString :=
  [agent.id, agent.role, agent.systemPrompt] ++ agent.tools ++ agent.skills ++
    agent.modelName.toList

-- The run.json that create_run writes is UTF-8.
def createRun (agents : List SwarmAgentSpec) (tasks : List SwarmTask) : Except PyError Unit :=
  if agents.all (·.texts.all PyString.encodable) && tasks.all SwarmTask.encodable then .ok ()
  else .error .valueError

-- The tasks of the run whose thread it starts.
def startRun (preset : Preset) (allIds : IdSet (ids (buildTasks preset))) :
    Except PyError (List SwarmTask) := do
  let tasks := buildTasks preset
  (validateDag tasks allIds).mapError fun _ => .valueError
  createRun preset.agents tasks
  .ok tasks

end SynapseYield.Swarm
