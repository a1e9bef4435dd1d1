import Mathlib.Algebra.Order.Floor.Ring
import Mathlib.Data.Rat.Floor
import SynapseYield.Shared.JsonRoundTrip
import SynapseYield.Shared.Lines
import SynapseYield.Swarm.Runtime

set_option autoImplicit false

namespace SynapseYield.Swarm

open Shared JsonText

structure SwarmEvent where
  type : PyString
  agentId : Option PyString
  taskId : Option PyString
  data : List (PyString × Json)
  timestamp : PyString
  -- A dict has each key once.
  formed : wellFormed (.obj data) = true

def optional : Option PyString → Json
  | none => .null
  | some s => .str s

def SwarmEvent.fields (event : SwarmEvent) : Json :=
  .obj [("type", .str event.type), ("agent_id", optional event.agentId),
    ("task_id", optional event.taskId), ("data", .obj event.data),
    ("timestamp", .str event.timestamp)]

-- One line of JSON without spaces.
def SwarmEvent.json (event : SwarmEvent) : PyString := ⟨write .compact 0 event.fields⟩

-- What pydantic makes of the model: it writes the fields as JSON and refuses what UTF-8 cannot
-- hold, and it reads back what it wrote.
structure EventModel where
  modelDumpJson : SwarmEvent → Except PyError PyString
  modelValidateJson : PyString → Except PyError SwarmEvent
  dumps_json : ∀ event text, modelDumpJson event = .ok text → text = event.json
  reads_json : ∀ event, modelValidateJson event.json = .ok event

structure RunFiles where
  directory : Bool
  -- events.jsonl, when it is there
  events : Option Text

-- events_file.open("a")
def RunFiles.opened (files : RunFiles) : RunFiles :=
  if files.directory then { files with events := some (files.events.getD []) } else files

def appendEvent (model : EventModel) (files : RunFiles) (event : SwarmEvent) :
    Except PyError Unit × RunFiles :=
  if files.directory then
    match model.modelDumpJson event with
    | .ok text =>
      (.ok (), { files with events := some (files.events.getD [] ++ (text.points ++ [Lines.newline])) })
    | .error raised => (.error raised, files.opened)
  else (.error .osError, files)

def readLine (model : EventModel) (line : Text) : Except PyError (Option SwarmEvent) :=
  if (Lines.strip line).isEmpty then .ok none
  else some <$> model.modelValidateJson ⟨Lines.strip line⟩

def readEvents (model : EventModel) (files : RunFiles) (afterIndex : Nat) :
    Except PyError (List SwarmEvent) :=
  match files.events with
  | none => .ok []
  | some text => do
    let lines := Lines.splitlines (Lines.strip (Lines.universalNewlines text))
    let events ← (lines.drop afterIndex).mapM (readLine model)
    .ok events.reduceOption

-- What happens to the log of a run: an append, a file opened by an append that has not written
-- yet, and a poll of a reader that asks for what follows the events it has received.
inductive LogStep where
  | append (event : SwarmEvent)
  | opened
  | poll

structure EventLog where
  files : RunFiles
  appended : List SwarmEvent
  received : List SwarmEvent
  raised : Bool

def EventLog.step (model : EventModel) (log : EventLog) : LogStep → EventLog
  | .append event =>
    match appendEvent model log.files event with
    | (.ok (), files) => { log with files, appended := log.appended ++ [event] }
    | (.error _, files) => { log with files }
  | .opened => { log with files := log.files.opened }
  | .poll =>
    match readEvents model log.files log.received.length with
    | .ok events => { log with received := log.received ++ events }
    | .error _ => { log with raised := true }

def EventLog.start (directory : Bool) : EventLog :=
  { files := { directory, events := none }, appended := [], received := [], raised := false }

def EventLog.run (model : EventModel) (directory : Bool) (steps : List LogStep) : EventLog :=
  steps.foldl (EventLog.step model) (EventLog.start directory)

structure SwarmRun where
  id : PyString
  status : RunStatus := .pending
  agents : List SwarmAgentSpec := []
  tasks : List SwarmTask := []
  createdAt : PyString
  completedAt : Option PyString := none
  finalReport : Option PyString := none
  totalInputTokens : Nat := 0
  totalOutputTokens : Nat := 0

-- model_dump_json writes UTF-8.
def SwarmRun.encodable (run : SwarmRun) : Bool :=
  ([run.id, run.createdAt] ++ run.completedAt.toList ++ run.finalReport.toList).all
      PyString.encodable &&
    run.agents.all (·.texts.all PyString.encodable) && run.tasks.all SwarmTask.encodable

-- run.json, tasks/*.json and events.jsonl of one run
structure RunDirectory where
  run : SwarmRun
  taskStore : TaskStore
  log : Option Text
  -- A host that dies within a character leaves a log that is no UTF-8.
  decodes : Bool := true

namespace RunDirectory

def files (directory : RunDirectory) : RunFiles := { directory := true, events := directory.log }

-- events_file.read_text, where there is a file
def readText (directory : RunDirectory) : Except PyError (Option Text) :=
  match directory.log with
  | none => .ok none
  | some text =>
    if directory.decodes then .ok (some (Lines.universalNewlines text)) else .error .valueError

def readEvents (model : EventModel) (directory : RunDirectory) :
    Except PyError (List SwarmEvent) := do
  let _ ← directory.readText
  Swarm.readEvents model directory.files 0

end RunDirectory

-- What a reader of the store has around it: pydantic, the texts of instants, in seconds, and
-- SWARM_HEARTBEAT_INTERVAL_S.
structure Reader where
  model : EventModel
  fromisoformat : PyString → Option ℚ
  isoformat : ℚ → PyString
  heartbeatInterval : ℚ := 3

def Reader.parseIso (reader : Reader) (value : PyString) : Option ℚ :=
  if value = .empty then none
  else reader.fromisoformat
    ⟨value.points.flatMap fun c => if c = 0x5A then ("+00:00" : PyString).points else [c]⟩

-- not value
def isFalsy : Json → Bool
  | .null => true
  | .bool b => ! b
  | .number literal => Ascii.parseFloat ⟨literal⟩ = some (.finite 0)
  | .str s => s = .empty
  | .arr items => items.isEmpty
  | .obj members => members.isEmpty

-- What is no string has no replace, and what is no object no get.
def payloadTimestamp (reader : Reader) : Json → Except PyError (Option ℚ)
  | .obj members =>
    match members.lookup ("timestamp" : PyString) with
    | none => .ok none
    | some (.str value) => .ok (reader.parseIso value)
    | some value => if isFalsy value then .ok none else .error .other
  | _ => .error .other

def readPayload (line : Text) : Option Json :=
  if (Lines.strip line).isEmpty then none else loads ⟨Lines.strip line⟩

def lastEventTimestamp (reader : Reader) (directory : RunDirectory) :
    Except PyError (Option ℚ) := do
  match ← directory.readText with
  | none => return none
  | some text =>
    match (Lines.splitlines text).reverse.findSome? readPayload with
    | none => return none
    | some payload => payloadTimestamp reader payload

def RunStatus.isTerminal : RunStatus → Bool
  | .completed | .failed | .cancelled => true
  | .pending | .running => false

def TaskStatus.isTerminal : TaskStatus → Bool
  | .completed | .failed | .cancelled => true
  | .pending | .blocked | .inProgress => false

def hydrateRun (store : TaskStore) (run : SwarmRun) : SwarmRun :=
  let live := store.loadAll
  if live = [] then run
  else
    let merged := run.tasks.map fun task => (store.find? task.id).getD task
    { run with tasks := merged ++ live.filter fun task => task.id ∉ ids merged }

def agentBudget (agent : SwarmAgentSpec) : Int :=
  max 1 (if agent.timeoutSeconds = 0 then 300 else agent.timeoutSeconds) *
    (max 0 agent.maxRetries + 1)

def computeStaleThreshold (reader : Reader) (run : SwarmRun) : ℚ :=
  let heartbeatFloor := max 60 (reader.heartbeatInterval * 10)
  let retryCeiling := (run.agents.map agentBudget).max?.getD 300 + 60
  max 60 (min heartbeatFloor retryCeiling)

def isRunStale (reader : Reader) (directory : RunDirectory) (run : SwarmRun) (now : ℚ) :
    Except PyError Bool := do
  if run.status ≠ .running then return false
  match (← lastEventTimestamp reader directory).or (reader.parseIso run.createdAt) with
  | none => return false
  | some lastActivity => return decide (computeStaleThreshold reader run < now - lastActivity)

def recoveredStatus (tasks : List SwarmTask) : RunStatus :=
  if tasks.all (·.status = .completed) then .completed
  else if tasks.any (·.status = .failed) then .failed
  else if tasks.all fun task => task.status = .cancelled || task.status = .completed then .cancelled
  else .failed

-- An empty text is no text.
def orElse (text : Option PyString) (other : Option PyString) : Option PyString :=
  if text.getD .empty = .empty then other else text

def recoverTerminal (reader : Reader) (run : SwarmRun) (now : ℚ) : SwarmRun :=
  let status := recoveredStatus run.tasks
  { run with
    status
    completedAt := orElse run.completedAt (some (reader.isoformat now))
    finalReport :=
      if status = .completed ∧ run.finalReport.getD .empty = .empty then
        match run.tasks.reverse.find? fun task => task.summary.getD .empty ≠ .empty with
        | some task => task.summary
        | none => run.finalReport
      else run.finalReport }

-- int(threshold)
def staleSeconds (reader : Reader) (run : SwarmRun) : Nat := ⌊computeStaleThreshold reader run⌋.toNat

def reapedError (reader : Reader) (run : SwarmRun) (lastEventAt : Option ℚ) : PyString :=
  ("Run reaped: no event for >" : PyString) ++ ⟨decimal (staleSeconds reader run)⟩ ++
    ("s (last event at " : PyString) ++
    (lastEventAt.map reader.isoformat).getD ("never" : PyString) ++
    ("); host process likely exited before completion." : PyString)

def reapTask (error completedAt : PyString) (task : SwarmTask) : SwarmTask :=
  if task.status.isTerminal then task
  else { task with status := .failed, error := some error, completedAt := some completedAt }

def reapStale (reader : Reader) (directory : RunDirectory) (run : SwarmRun) (now : ℚ) :
    Except PyError SwarmRun := do
  let error := reapedError reader run (← lastEventTimestamp reader directory)
  let post := { run with tasks := run.tasks.map (reapTask error (reader.isoformat now)) }
  return recoverTerminal reader post now

-- A recovery to write down, with what its event says.
structure Recovery where
  kind : PyString
  reason : PyString
  staleSeconds : Option Nat := none

def Recovery.data (found : Recovery) : Members :=
  ("reason", .str found.reason) ::
    (found.staleSeconds.map fun seconds =>
      (("stale_seconds" : PyString), Json.number (decimal seconds))).toList

def Recovery.event (found : Recovery) (timestamp : PyString) : SwarmEvent where
  type := found.kind
  agentId := none
  taskId := none
  data := found.data
  timestamp
  formed := by
    have keys : (["reason", "stale_seconds"] : List PyString).Nodup := by decide +kernel
    unfold Recovery.data
    cases found.staleSeconds with
    | none => simp [wellFormed, wellFormedMembers]
    | some seconds => simpa [wellFormed, wellFormedMembers, decimal_number] using keys

def terminalRecovery : Recovery where
  kind := "run_recovered_terminal"
  reason := "all tasks terminal"

def staleRecovery (reader : Reader) (run : SwarmRun) : Recovery where
  kind := "run_reaped"
  reason := ("no event for >" : PyString) ++ ⟨decimal (staleSeconds reader run)⟩ ++
    ("s; host process likely exited" : PyString)
  staleSeconds := some (staleSeconds reader run)

-- The run as it looks from outside, and the recovery that it took, if any.
def recovery (reader : Reader) (directory : RunDirectory) (now : ℚ) :
    Except PyError (SwarmRun × Option Recovery) := do
  let hydrated := hydrateRun directory.taskStore directory.run
  if hydrated.status.isTerminal then return (hydrated, none)
  if hydrated.tasks ≠ [] ∧ hydrated.tasks.all (·.status.isTerminal) then
    return (recoverTerminal reader hydrated now, some terminalRecovery)
  if ← isRunStale reader directory hydrated now then
    return (← reapStale reader directory hydrated now, some (staleRecovery reader hydrated))
  return (hydrated, none)

-- Whether every task is saved.
def saveTasks (store : TaskStore) : List SwarmTask → TaskStore × Bool
  | [] => (store, true)
  | task :: rest =>
    match store.saveTask task with
    | .ok saved => saveTasks saved rest
    | .error _ => (store, false)

-- What fails before the event log is read is logged and left, and so is what fails after it.
def persistRecovery (reader : Reader) (directory : RunDirectory) (run : SwarmRun)
    (found : Recovery) (recorded : ℚ) : Except PyError Unit × RunDirectory :=
  let (taskStore, saved) := saveTasks directory.taskStore run.tasks
  if saved && run.encodable then
    let directory := { directory with run, taskStore }
    match directory.readEvents reader.model with
    | .error raised => (.error raised, directory)
    | .ok existing =>
      if existing.any (·.type = found.kind) then (.ok (), directory)
      else
        let event := found.event (reader.isoformat recorded)
        (.ok (), { directory with log := (appendEvent reader.model directory.files event).2.events })
  else (.ok (), { directory with taskStore })

-- A reader that has just loaded run.json, and the instants at which it looks at the run and at
-- which it writes its event.
structure Poll where
  write : Bool
  now : ℚ
  recorded : ℚ

def reconcileRun (reader : Reader) (directory : RunDirectory) (poll : Poll) :
    Except PyError SwarmRun × RunDirectory :=
  match recovery reader directory poll.now with
  | .error raised => (.error raised, directory)
  | .ok (run, none) => (.ok run, directory)
  | .ok (run, some found) =>
    if poll.write then
      let persisted := persistRecovery reader directory run found poll.recorded
      (persisted.1.map fun _ => run, persisted.2)
    else (.ok run, directory)

def polls (reader : Reader) (directory : RunDirectory) (seen : List Poll) : RunDirectory :=
  seen.foldl (fun directory poll => (reconcileRun reader directory poll).2) directory

end SynapseYield.Swarm
