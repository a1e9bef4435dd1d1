import Mathlib.Data.List.Induction
import SynapseYield.Shared.Json
import SynapseYield.Shared.JsonLines
import SynapseYield.Shared.Outcome
import SynapseYield.Swarm.Store

set_option autoImplicit false

namespace SynapseYield.Swarm

open Shared JsonText

def SwarmEvent.Unbroken (event : SwarmEvent) : Prop :=
  ∀ c ∈ characters event.fields, isSeparator c = false

theorem fields_formed (event : SwarmEvent) : wellFormed event.fields = true := by
  have keys : (["type", "agent_id", "task_id", "data", "timestamp"] : List PyString).Nodup := by
    decide +kernel
  have given (s : Option PyString) : wellFormed (optional s) = true := by cases s <;> rfl
  simp only [SwarmEvent.fields, wellFormed, wellFormedMembers, given, List.map_cons, List.map_nil,
    Bool.and_eq_true, decide_eq_true_eq]
  have formed := event.formed
  rw [wellFormed, Bool.and_eq_true, decide_eq_true_eq] at formed
  exact ⟨keys, trivial, trivial, trivial, formed, trivial, trivial⟩

theorem json_solid {event : SwarmEvent} (plain : event.Unbroken) :
    Lines.Solid event.json.points :=
  object_solid compact_oneLine (fields_formed event) plain

theorem json_returns (event : SwarmEvent) : Lines.carriageReturn ∉ event.json.points :=
  object_returns compact_oneLine (fields_formed event)

section Runs

variable {model : EventModel}

theorem readLine_json {event : SwarmEvent} (plain : event.Unbroken) :
    readLine model event.json.points = .ok (some event) := by
  have solid := json_solid plain
  have stripped := Lines.strip_solid solid.starts solid.ends
  rw [readLine, stripped, List.isEmpty_eq_false_iff.mpr solid.nonempty, model.reads_json event]
  rfl

theorem readLines_json {events : List SwarmEvent} (plain : ∀ event ∈ events, event.Unbroken) :
    (events.map (·.json.points)).mapM (readLine model) = .ok (events.map some) := by
  rw [Outcome.mapM_ok, List.forall₂_map_left_iff, List.forall₂_map_right_iff, List.forall₂_same]
  exact fun event member => readLine_json (plain event member)

def fileText (events : List SwarmEvent) : Text := Lines.unlines (events.map (·.json.points))

theorem fileText_snoc (events : List SwarmEvent) (event : SwarmEvent) :
    fileText (events ++ [event]) = fileText events ++ (event.json.points ++ [Lines.newline]) := by
  simp [fileText, Lines.unlines]

theorem fileText_returns (events : List SwarmEvent) : Lines.carriageReturn ∉ fileText events := by
  intro member
  obtain ⟨line, written, member⟩ := List.mem_flatMap.mp member
  obtain ⟨event, _, rfl⟩ := List.mem_map.mp written
  obtain member | member := List.mem_append.mp member
  · exact json_returns event member
  · cases List.mem_singleton.mp member

theorem reads_fileText {events : List SwarmEvent} (plain : ∀ event ∈ events, event.Unbroken)
    {files : RunFiles} (kept : files.events = some (fileText events)) (afterIndex : Nat) :
    readEvents model files afterIndex = .ok (events.drop afterIndex) := by
  have solid : ∀ line ∈ events.map (·.json.points), Lines.Solid line := by
    intro line member
    obtain ⟨event, given, rfl⟩ := List.mem_map.mp member
    exact json_solid (plain event given)
  have rest : ∀ event ∈ events.drop afterIndex, event.Unbroken :=
    fun event member => plain event (List.mem_of_mem_drop member)
  rw [readEvents, kept]
  simp only [Lines.universalNewlines_eq (fileText_returns events)]
  rw [fileText, Lines.splitlines_strip_unlines solid, ← List.map_drop, readLines_json rest]
  simp [bind, Except.bind, List.reduceOption, List.filterMap_map]

-- The file holds the appended events, one a line, and the reader is not ahead of them.
structure EventLog.Sound (log : EventLog) : Prop where
  plain : ∀ event ∈ log.appended, event.Unbroken
  kept : ∀ text, log.files.events = some text → text = fileText log.appended
  absent : log.files.events = none → log.appended = []
  behind : log.received <+: log.appended
  quiet : log.raised = false

theorem EventLog.Sound.reads {log : EventLog} (sound : log.Sound) (afterIndex : Nat) :
    readEvents model log.files afterIndex = .ok (log.appended.drop afterIndex) := by
  cases text : log.files.events with
  | none => simp [readEvents, text, sound.absent text]
  | some text =>
    refine reads_fileText sound.plain ?_ afterIndex
    rw [text, sound.kept _ text]

theorem EventLog.Sound.content {log : EventLog} (sound : log.Sound) :
    log.files.events.getD [] = fileText log.appended := by
  cases text : log.files.events with
  | none => rw [sound.absent text]; rfl
  | some text => exact sound.kept _ text

theorem start_sound (directory : Bool) : (EventLog.start directory).Sound where
  plain _ member := by cases member
  kept _ held := by cases held
  absent _ := rfl
  behind := List.nil_prefix
  quiet := rfl

theorem opened_sound {log : EventLog} (sound : log.Sound) :
    { log with files := log.files.opened }.Sound := by
  unfold RunFiles.opened
  split
  next => exact
    { plain := sound.plain
      kept := fun text held => (Option.some.inj held).symm.trans sound.content
      absent := fun none => by cases none
      behind := sound.behind
      quiet := sound.quiet }
  next => exact sound

theorem append_sound {log : EventLog} (sound : log.Sound) {event : SwarmEvent}
    (plain : event.Unbroken) : (log.step model (.append event)).Sound := by
  rw [EventLog.step, appendEvent]
  by_cases present : log.files.directory = true
  · cases dumped : model.modelDumpJson event with
    | error raised =>
      simp only [present, if_true]
      exact opened_sound sound
    | ok text =>
      simp only [present, if_true]
      exact
        { plain := List.forall_mem_append.mpr ⟨sound.plain, List.forall_mem_singleton.mpr plain⟩
          kept := fun content held => by
            rw [fileText_snoc, ← sound.content, ← model.dumps_json event text dumped]
            exact (Option.some.inj held).symm
          absent := fun none => by cases none
          behind := sound.behind.trans (List.prefix_append _ _)
          quiet := sound.quiet }
  · simp only [present]
    exact sound

theorem poll_step {log : EventLog} (sound : log.Sound) :
    log.step model .poll = { log with received := log.appended } := by
  obtain ⟨rest, whole⟩ := sound.behind
  rw [EventLog.step, sound.reads log.received.length, ← whole, List.drop_left]

theorem step_sound {log : EventLog} (sound : log.Sound) {step : LogStep}
    (plain : ∀ event, step = .append event → event.Unbroken) : (log.step model step).Sound := by
  cases step with
  | append event => exact append_sound sound (plain event rfl)
  | opened => exact opened_sound sound
  | poll =>
    rw [poll_step sound]
    exact { sound with behind := List.prefix_rfl }

theorem run_sound (directory : Bool) {steps : List LogStep}
    (plain : ∀ event, .append event ∈ steps → event.Unbroken) :
    (EventLog.run model directory steps).Sound := by
  induction steps using List.reverseRecOn with
  | nil => exact start_sound directory
  | append_singleton steps step ih =>
    rw [EventLog.run, List.foldl_append]
    refine step_sound (ih fun event member => plain event (List.mem_append_left _ member)) ?_
    rintro event rfl
    exact plain event (List.mem_append_right _ (List.mem_singleton_self _))

end Runs

-- Every read gives the appended events without the first k, and a reader that polls with the
-- number of events it has received gets each event once, in order.
def EventLog.ReadOnce (model : EventModel) (log : EventLog) : Prop :=
  (∀ afterIndex, readEvents model log.files afterIndex = .ok (log.appended.drop afterIndex)) ∧
    log.raised = false ∧ log.received <+: log.appended ∧
      (log.step model .poll).received = log.appended

theorem events_read_once (model : EventModel) (directory : Bool) (steps : List LogStep)
    (plain : ∀ event, .append event ∈ steps → event.Unbroken) :
    (EventLog.run model directory steps).ReadOnce model := by
  have sound : (EventLog.run model directory steps).Sound := run_sound directory plain
  refine ⟨sound.reads, sound.quiet, sound.behind, ?_⟩
  rw [poll_step sound]

def member (members : List (PyString × Json)) (name : PyString) : Option Json := members.lookup name

def readOptional : Option Json → Except PyError (Option PyString)
  | none => .ok none
  | some .null => .ok none
  | some (.str s) => .ok (some s)
  | _ => .error .valueError

def readData : Option Json → Except PyError (List (PyString × Json))
  | none => .ok []
  | some (.obj data) => .ok data
  | _ => .error .valueError

def ofFields (members : List (PyString × Json)) : Except PyError SwarmEvent := do
  let agentId ← readOptional (member members "agent_id")
  let taskId ← readOptional (member members "task_id")
  let data ← readData (member members "data")
  match member members "type", member members "timestamp" with
  | some (.str type), some (.str timestamp) =>
    if formed : wellFormed (.obj data) = true then
      .ok { type, agentId, taskId, data, timestamp, formed }
    else .error .valueError
  | _, _ => .error .valueError

def readJson (text : PyString) : Except PyError SwarmEvent :=
  match loads text with
  | some (.obj members) => ofFields members
  | _ => .error .valueError

theorem readJson_json (event : SwarmEvent) : readJson event.json = .ok event := by
  have read := loads_write .compact (fields_formed event)
  rw [readJson, SwarmEvent.json, read]
  obtain ⟨type, agentId, taskId, data, timestamp, formed⟩ := event
  have given (s : Option PyString) : readOptional (some (optional s)) = .ok s := by cases s <;> rfl
  let fields : List (PyString × Json) :=
    [("type", .str type), ("agent_id", optional agentId), ("task_id", optional taskId),
      ("data", .obj data), ("timestamp", .str timestamp)]
  have agent : member fields "agent_id" = some (optional agentId) := rfl
  have task : member fields "task_id" = some (optional taskId) := rfl
  have body : member fields "data" = some (.obj data) := rfl
  have kind : member fields "type" = some (.str type) := rfl
  have time : member fields "timestamp" = some (.str timestamp) := rfl
  change ofFields fields = _
  rw [ofFields, agent, task, body, kind, time, given, given]
  exact dif_pos formed

-- JSON without spaces, as pydantic writes and reads it
def jsonModel : EventModel where
  modelDumpJson event := if event.json.encodable then .ok event.json else .error .valueError
  modelValidateJson := readJson
  dumps_json event text dumped := by
    split at dumped
    next => exact (Except.ok.inj dumped).symm
    next => cases dumped
  reads_json := readJson_json

def started : SwarmEvent where
  type := "run_started"
  agentId := none
  taskId := none
  data := [("note", .str "first")]
  timestamp := "t"
  formed := rfl

def finished : SwarmEvent where
  type := "task_completed"
  agentId := some "analyst"
  taskId := some "task-1"
  data := [("iterations", .number (decimal 3)), ("summary", .str "a \"quoted\" line")]
  timestamp := "u"
  formed := by decide +kernel

theorem started_read_once :
    (EventLog.run jsonModel true [.poll, .append started, .opened, .append finished, .poll,
      .append started, .poll]).ReadOnce jsonModel :=
  events_read_once jsonModel true _ (by
    intro event member
    have plain : ∀ event ∈ [started, finished],
        (characters event.fields).all (! isSeparator ·) = true := by decide +kernel
    have among : event ∈ [started, finished] := by
      simp only [List.mem_cons, LogStep.append.injEq, reduceCtorEq, List.not_mem_nil, or_false,
        false_or] at member ⊢
      tauto
    simpa [SwarmEvent.Unbroken] using plain event among)

-- Text as a model or a web page may give it, with a LINE SEPARATOR
def separated : SwarmEvent where
  type := "task_completed"
  agentId := none
  taskId := none
  data := [("summary", .str ⟨[0x61, 0x2028, 0x62]⟩)]
  timestamp := "t"
  formed := rfl

theorem events_read_once_fails :
    ¬ ∀ (model : EventModel) (directory : Bool) (steps : List LogStep),
      (EventLog.run model directory steps).ReadOnce model := by
  intro all
  have reads := (all jsonModel true [.append separated]).1 0
  have refused : (readEvents jsonModel (EventLog.run jsonModel true [.append separated]).files
      0).isOk = false := by decide +kernel
  rw [reads] at refused
  cases refused

end SynapseYield.Swarm
