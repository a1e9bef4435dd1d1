import SynapseYield.Properties.EventLog
import SynapseYield.Properties.SwarmRuns

set_option autoImplicit false

namespace SynapseYield.Swarm

open Shared JsonText

section Store

variable {store : TaskStore} {tasks : List SwarmTask} {task file : SwarmTask} {id : PyString}

theorem recoveredStatus_terminal (tasks : List SwarmTask) :
    (recoveredStatus tasks).isTerminal = true := by
  unfold recoveredStatus
  split
  next => rfl
  next =>
    split
    next => rfl
    next =>
      split
      next => rfl
      next => rfl

theorem recoverTerminal_status {reader : Reader} {run : SwarmRun} {now : ℚ} :
    (recoverTerminal reader run now).status = recoveredStatus run.tasks := rfl

theorem recoverTerminal_tasks {reader : Reader} {run : SwarmRun} {now : ℚ} :
    (recoverTerminal reader run now).tasks = run.tasks := rfl

theorem hydrated_ids {run : SwarmRun} :
    ids (run.tasks.map fun task => (store.find? task.id).getD task) = ids run.tasks := by
  unfold ids
  rw [List.map_map]
  refine List.map_congr_left fun task _ => ?_
  cases found : store.find? task.id with
  | none => simp [found]
  | some file => simpa [found] using Table.find?_key found

theorem hydrateRun_bare {run : SwarmRun} (bare : store.loadAll = []) :
    hydrateRun store run = run := if_pos bare

theorem hydrateRun_live {run : SwarmRun} (live : store.loadAll ≠ []) :
    (hydrateRun store run).tasks =
      (run.tasks.map fun task => (store.find? task.id).getD task) ++
        store.loadAll.filter fun task =>
          task.id ∉ ids (run.tasks.map fun task => (store.find? task.id).getD task) :=
  congrArg SwarmRun.tasks (if_neg live)

theorem hydrateRun_eq {run : SwarmRun} :
    hydrateRun store run = { run with tasks := (hydrateRun store run).tasks } := by
  unfold hydrateRun
  dsimp only
  split
  next => rfl
  next => rfl

theorem hydrateRun_status {run : SwarmRun} : (hydrateRun store run).status = run.status := by
  rw [hydrateRun_eq]

theorem hydrateRun_seen {run : SwarmRun} (member : task ∈ (hydrateRun store run).tasks)
    (found : store.find? task.id = some file) : task = file := by
  have listed : file ∈ store.loadAll := List.mem_mergeSort.mpr (Table.find?_mem found)
  by_cases live : store.loadAll = []
  · rw [live] at listed
    cases listed
  · rw [hydrateRun_live live] at member
    obtain merged | extra := List.mem_append.mp member
    · obtain ⟨old, -, rfl⟩ := List.mem_map.mp merged
      cases there : store.find? old.id with
      | none =>
        rw [there] at found
        change store.find? old.id = some file at found
        rw [there] at found
        cases found
      | some other =>
        rw [there] at found
        change store.find? other.id = some file at found
        rw [Table.find?_key there, there] at found
        exact Option.some.inj found
    · have stored : task ∈ store.rows := List.mem_mergeSort.mp (List.mem_filter.mp extra).1
      exact Option.some.inj ((Table.find?_of_mem stored).symm.trans found)

theorem hydrateRun_covers {run : SwarmRun} (stored : file ∈ store.rows) :
    file ∈ (hydrateRun store run).tasks := by
  have listed : file ∈ store.loadAll := List.mem_mergeSort.mpr stored
  by_cases live : store.loadAll = []
  · rw [live] at listed
    cases listed
  · rw [hydrateRun_live live]
    by_cases known : file.id ∈ ids (run.tasks.map fun task => (store.find? task.id).getD task)
    · refine List.mem_append_left _ ?_
      rw [hydrated_ids] at known
      obtain ⟨task, member, same⟩ := List.mem_map.mp known
      exact List.mem_map.mpr ⟨task, member, by rw [same, Table.find?_of_mem stored]; rfl⟩
    · exact List.mem_append_right _ (List.mem_filter.mpr ⟨listed, decide_eq_true known⟩)

theorem hydrateRun_distinct {run : SwarmRun} (distinct : (ids run.tasks).Nodup) :
    (ids (hydrateRun store run).tasks).Nodup := by
  by_cases live : store.loadAll = []
  · rwa [hydrateRun_bare live]
  · rw [hydrateRun_live live, ids, List.map_append, List.nodup_append]
    refine ⟨?_, ?_, fun a known b extra same => ?_⟩
    · change (ids (run.tasks.map fun task => (store.find? task.id).getD task)).Nodup
      rwa [hydrated_ids]
    · have sorted : (store.loadAll.map SwarmTask.id).Nodup :=
        ((List.mergeSort_perm ..).map _).nodup_iff.mpr store.unique
      exact sorted.sublist (List.filter_sublist.map _)
    · obtain ⟨task, listed, rfl⟩ := List.mem_map.mp extra
      exact of_decide_eq_true (List.mem_filter.mp listed).2 (same ▸ known)

theorem saveTasks_find {file : SwarmTask} (found : store.find? id = some file)
    (same : ∀ task ∈ tasks, task.id = id → task = file) :
    (saveTasks store tasks).1.find? id = some file := by
  induction tasks generalizing store with
  | nil => exact found
  | cons task rest ih =>
    unfold saveTasks
    cases saved : store.saveTask task with
    | error raised => exact found
    | ok next =>
      refine ih ?_ fun other listed => same other (List.mem_cons_of_mem _ listed)
      rw [saveTask_put saved, Table.find?_put]
      split
      next here => rw [same task List.mem_cons_self here.symm]
      next => exact found

theorem saveTasks_saved (distinct : (ids tasks).Nodup) (saved : (saveTasks store tasks).2 = true)
    (member : task ∈ tasks) : (saveTasks store tasks).1.find? task.id = some task := by
  induction tasks generalizing store with
  | nil => cases member
  | cons first rest ih =>
    unfold saveTasks at saved ⊢
    cases stored : store.saveTask first with
    | error raised =>
      rw [stored] at saved
      cases saved
    | ok next =>
      rw [stored] at saved
      dsimp only at saved ⊢
      obtain ⟨fresh, distinct⟩ := List.nodup_cons.mp distinct
      obtain rfl | later := List.mem_cons.mp member
      · refine saveTasks_find ?_ fun other listed same => ?_
        · rw [saveTask_put stored, Table.find?_put, if_pos rfl]
        · exact absurd (List.mem_map.mpr ⟨other, listed, same⟩) fresh
      · exact ih distinct saved later

theorem saveTasks_known (known : ∀ row ∈ store.rows, row.id ∈ ids tasks) :
    ∀ row ∈ (saveTasks store tasks).1.rows, row.id ∈ ids tasks := by
  suffices loop : ∀ rest (store : TaskStore), (∀ row ∈ store.rows, row.id ∈ ids tasks) →
      rest ⊆ tasks → ∀ row ∈ (saveTasks store rest).1.rows, row.id ∈ ids tasks from
    loop tasks store known (List.Subset.refl _)
  intro rest
  induction rest with
  | nil => exact fun _ known _ => known
  | cons task rest ih =>
    intro store known inside
    unfold saveTasks
    cases saved : store.saveTask task with
    | error raised => exact known
    | ok next =>
      refine ih next (fun row listed => ?_) (List.cons_subset.mp inside).2
      rw [saveTask_put saved] at listed
      obtain rfl | before := Table.mem_put listed
      · exact List.mem_map_of_mem (List.cons_subset.mp inside).1
      · exact known row before

end Store

section Silence

variable {reader : Reader} {directory : RunDirectory} {run : SwarmRun} {instant now silence : ℚ}

def LastLine (lines : List Text) (payload : Json) : Prop :=
  ∃ before line after, lines = before ++ line :: after ∧ loads ⟨Lines.strip line⟩ = some payload ∧
    ∀ later ∈ after, loads ⟨Lines.strip later⟩ = none

-- The instant in the last line of the log that is JSON.
def EventAt (reader : Reader) (directory : RunDirectory) (instant : ℚ) : Prop :=
  ∃ text members value, directory.log = some text ∧
    LastLine (Lines.splitlines (Lines.universalNewlines text)) (.obj members) ∧
    members.lookup ("timestamp" : PyString) = some (.str value) ∧ reader.parseIso value = some instant

def LastActive (reader : Reader) (directory : RunDirectory) (instant : ℚ) : Prop :=
  EventAt reader directory instant ∨
    (∀ other, ¬ EventAt reader directory other) ∧
      reader.parseIso directory.run.createdAt = some instant

def SwarmAgentSpec.attempts (agent : SwarmAgentSpec) : ℕ := agent.maxRetries.toNat + 1

def SwarmAgentSpec.attemptSeconds (agent : SwarmAgentSpec) : ℕ :=
  if agent.timeoutSeconds = 0 then 300 else max 1 agent.timeoutSeconds.toNat

-- A minute longer than any agent may take over all of its attempts.
structure Outlasts (silence : ℚ) (agents : List SwarmAgentSpec) : Prop where
  each : ∀ agent ∈ agents, ((agent.attempts * agent.attemptSeconds + 60 : ℕ) : ℚ) < silence
  none : agents = [] → 360 < silence

-- The log has been silent for a minute, and either ten heartbeats have been missed or no agent can
-- be at work any more.
def Silent (reader : Reader) (directory : RunDirectory) (now : ℚ) : Prop :=
  ∃ instant, LastActive reader directory instant ∧ 60 < now - instant ∧
    (10 * reader.heartbeatInterval < now - instant ∨
      Outlasts (now - instant) directory.run.agents)

theorem readPayload_eq (line : Text) : readPayload line = loads ⟨Lines.strip line⟩ := by
  unfold readPayload
  split
  next blank =>
    rw [List.isEmpty_iff.mp blank]
    rfl
  next => rfl

theorem findPayload_iff {lines : List Text} {payload : Json} :
    lines.reverse.findSome? readPayload = some payload ↔ LastLine lines payload := by
  rw [List.findSome?_eq_some_iff]
  simp only [readPayload_eq]
  constructor
  · rintro ⟨after, line, before, split, found, unread⟩
    refine ⟨before.reverse, line, after.reverse, ?_, found, fun later listed =>
      unread later (List.mem_reverse.mp listed)⟩
    rw [← List.reverse_reverse lines, split]
    simp
  · rintro ⟨before, line, after, rfl, found, unread⟩
    exact ⟨after.reverse, line, before.reverse, by simp, found, fun later listed =>
      unread later (List.mem_reverse.mp listed)⟩

theorem payloadTimestamp_iff {payload : Json} {last : Option ℚ}
    (read : payloadTimestamp reader payload = .ok last) :
    last = some instant ↔ ∃ members value, payload = .obj members ∧
      members.lookup ("timestamp" : PyString) = some (.str value) ∧ reader.parseIso value = some instant := by
  cases payload with
  | obj members =>
    unfold payloadTimestamp at read
    dsimp only at read
    cases given : members.lookup ("timestamp" : PyString) with
    | none =>
      rw [given] at read
      cases read
      simp [given]
    | some value =>
      rw [given] at read
      cases value with
      | str value =>
        cases read
        simp [given]
      | _ =>
        dsimp only at read
        split at read
        next =>
          cases read
          simp [given]
        next => cases read
  | _ => cases read

theorem lastEventTimestamp_iff {last : Option ℚ}
    (read : lastEventTimestamp reader directory = .ok last) :
    last = some instant ↔ EventAt reader directory instant := by
  unfold lastEventTimestamp RunDirectory.readText at read
  unfold EventAt
  cases log : directory.log with
  | none =>
    rw [log] at read
    cases read
    simp
  | some text =>
    rw [log] at read
    dsimp only at read
    split at read
    next =>
      dsimp only [bind, Except.bind] at read
      simp only [Option.some.injEq]
      cases found :
          (Lines.splitlines (Lines.universalNewlines text)).reverse.findSome? readPayload with
      | none =>
        rw [found] at read
        cases read
        refine ⟨nofun, ?_⟩
        rintro ⟨_, members, value, rfl, ended, -⟩
        rw [findPayload_iff.mpr ended] at found
        cases found
      | some payload =>
        rw [found] at read
        rw [payloadTimestamp_iff read]
        constructor
        · rintro ⟨members, value, rfl, given⟩
          exact ⟨text, members, value, rfl, findPayload_iff.mp found, given⟩
        · rintro ⟨_, members, value, rfl, ended, given⟩
          rw [findPayload_iff.mpr ended] at found
          exact ⟨members, value, (Option.some.inj found).symm, given⟩
    next => cases read

theorem lastActive_iff {last : Option ℚ} (read : lastEventTimestamp reader directory = .ok last) :
    last.or (reader.parseIso directory.run.createdAt) = some instant ↔
      LastActive reader directory instant := by
  unfold LastActive
  simp only [← lastEventTimestamp_iff read]
  cases last with
  | none => simp
  | some last =>
    simp only [Option.some_or, Option.some.injEq]
    refine ⟨.inl, ?_⟩
    rintro (same | ⟨never, -⟩)
    · exact same
    · exact absurd rfl (never last)

theorem agentBudget_eq (agent : SwarmAgentSpec) :
    agentBudget agent = (agent.attempts * agent.attemptSeconds : ℕ) := by
  have attempts : max 0 agent.maxRetries + 1 = (agent.attempts : Int) := by
    unfold SwarmAgentSpec.attempts
    omega
  have seconds : max 1 (if agent.timeoutSeconds = 0 then 300 else agent.timeoutSeconds) =
      (agent.attemptSeconds : Int) := by
    unfold SwarmAgentSpec.attemptSeconds
    split <;> omega
  rw [agentBudget, attempts, seconds, mul_comm]
  exact (Nat.cast_mul _ _).symm

theorem retryCeiling_lt_iff {agents : List SwarmAgentSpec} :
    (((agents.map agentBudget).max?.getD 300 + 60 : Int) : ℚ) < silence ↔
      Outlasts silence agents := by
  cases most : (agents.map agentBudget).max? with
  | none =>
    have none : agents = [] := List.map_eq_nil_iff.mp (List.max?_eq_none_iff.mp most)
    subst none
    refine ⟨fun less => ⟨by simp, fun _ => ?_⟩, fun outlasts => ?_⟩
    · norm_num at less
      exact less
    · norm_num
      exact outlasts.none rfl
  | some most =>
    obtain ⟨listed, largest⟩ := List.max?_eq_some_iff.mp most
    obtain ⟨first, among, rfl⟩ := List.mem_map.mp listed
    have budget (agent : SwarmAgentSpec) : ((agentBudget agent + 60 : Int) : ℚ) =
        ((agent.attempts * agent.attemptSeconds + 60 : ℕ) : ℚ) := by
      rw [agentBudget_eq]
      push_cast
      rfl
    refine ⟨fun less => ⟨fun agent member => ?_, fun none => ?_⟩, fun outlasts => ?_⟩
    · rw [← budget]
      refine lt_of_le_of_lt ?_ less
      have le := largest _ (List.mem_map_of_mem member)
      exact_mod_cast Int.add_le_add_right le 60
    · rw [none] at among
      cases among
    · have each := outlasts.each first among
      rwa [← budget] at each

theorem threshold_lt_iff :
    computeStaleThreshold reader run < silence ↔
      60 < silence ∧ (10 * reader.heartbeatInterval < silence ∨ Outlasts silence run.agents) := by
  rw [← retryCeiling_lt_iff, mul_comm (10 : ℚ)]
  unfold computeStaleThreshold
  simp only [max_lt_iff, min_lt_iff]
  tauto

theorem isRunStale_iff {stale : Bool} (read : isRunStale reader directory
      (hydrateRun directory.taskStore directory.run) now = .ok stale) :
    stale = true ↔ directory.run.status = .running ∧ Silent reader directory now := by
  rw [hydrateRun_eq] at read
  unfold isRunStale at read
  dsimp only at read
  by_cases running : directory.run.status = .running
  · rw [if_neg (not_not.mpr running)] at read
    cases last : lastEventTimestamp reader directory with
    | error raised =>
      rw [last] at read
      cases read
    | ok last_ =>
      rw [last] at read
      unfold Silent
      simp only [← lastActive_iff last, running, true_and]
      dsimp only [bind, Except.bind, pure, Except.pure] at read
      cases active : last_.or (reader.parseIso directory.run.createdAt) with
      | none =>
        rw [active] at read
        cases read
        simp
      | some instant =>
        rw [active] at read
        cases read
        simp only [Option.some.injEq, exists_eq_left', decide_eq_true_eq, threshold_lt_iff]
  · rw [if_pos running] at read
    cases read
    simp [running]

end Silence

section Polls

variable {reader : Reader} {directory : RunDirectory} {poll : Poll} {seen : List Poll}
  {run : SwarmRun} {found : Recovery} {task file : SwarmTask} {now : ℚ}

structure Reaped (task reaped : SwarmTask) : Prop where
  unfinished : task.status.isTerminal = false
  failed : reaped.status = .failed
  rest : ∃ error completedAt, reaped =
    { task with status := .failed, error := some error, completedAt := some completedAt }

inductive Recovered (reader : Reader) (directory : RunDirectory) (now : ℚ) :
    SwarmRun × Option Recovery → Prop
  | seen (left : directory.run.status = .running → ¬ Silent reader directory now) :
      Recovered reader directory now (hydrateRun directory.taskStore directory.run, none)
  | ended {run : SwarmRun} {found : Recovery} (terminal : run.status.isTerminal = true)
      (before : directory.run.status.isTerminal = false)
      (tasks : run.tasks = (hydrateRun directory.taskStore directory.run).tasks ∨
        Silent reader directory now ∧ ∃ error completedAt, run.tasks =
          (hydrateRun directory.taskStore directory.run).tasks.map (reapTask error completedAt)) :
      Recovered reader directory now (run, some found)

theorem recovery_cases {outcome : SwarmRun × Option Recovery}
    (recovered : recovery reader directory now = .ok outcome) :
    Recovered reader directory now outcome := by
  unfold recovery at recovered
  dsimp only at recovered
  split at recovered
  next ended =>
    cases recovered
    rw [hydrateRun_status] at ended
    exact .seen fun running => by rw [running] at ended; cases ended
  next running =>
    have before : directory.run.status.isTerminal = false := by
      rw [hydrateRun_status] at running
      exact Bool.not_eq_true _ ▸ running
    split at recovered
    next =>
      cases recovered
      exact .ended (recoveredStatus_terminal _) before (.inl rfl)
    next =>
      obtain ⟨stale, checked, recovered⟩ := Outcome.bind_ok.mp recovered
      have silent := isRunStale_iff checked
      cases stale with
      | true =>
        obtain ⟨reaped, reaps, recovered⟩ := Outcome.bind_ok.mp recovered
        obtain ⟨last, -, reaps⟩ := Outcome.bind_ok.mp reaps
        cases recovered
        cases reaps
        exact .ended (recoveredStatus_terminal _) before (.inr ⟨(silent.mp rfl).2, _, _, rfl⟩)
      | false =>
        cases recovered
        exact .seen fun running silence => nomatch silent.mpr ⟨running, silence⟩

theorem recovery_terminal (terminal : directory.run.status.isTerminal = true) :
    recovery reader directory now =
      .ok (hydrateRun directory.taskStore directory.run, none) := by
  have ended : (hydrateRun directory.taskStore directory.run).status.isTerminal = true := by
    rwa [hydrateRun_status]
  exact if_pos ended

theorem reconcileRun_terminal (terminal : directory.run.status.isTerminal = true) :
    reconcileRun reader directory poll =
      (.ok (hydrateRun directory.taskStore directory.run), directory) := by
  rw [reconcileRun, recovery_terminal terminal]

theorem reapTask_cases {error completedAt : PyString} (task : SwarmTask) :
    reapTask error completedAt task = task ∨ Reaped task (reapTask error completedAt task) := by
  unfold reapTask
  split
  next => exact .inl rfl
  next running => exact .inr ⟨Bool.not_eq_true _ ▸ running, rfl, error, completedAt, rfl⟩

theorem reapTask_id {error completedAt : PyString} :
    (reapTask error completedAt task).id = task.id := by
  unfold reapTask
  split
  next => rfl
  next => rfl

theorem Recovered.listed (recovered : Recovered reader directory now (run, some found))
    (member : task ∈ run.tasks) (stored : directory.taskStore.find? task.id = some file) :
    task = file ∨ Reaped file task ∧ Silent reader directory now := by
  cases recovered with
  | ended terminal before tasks =>
    obtain same | ⟨silent, error, completedAt, same⟩ := tasks
    · exact .inl (hydrateRun_seen (same ▸ member) stored)
    · rw [same] at member
      obtain ⟨old, listed, rfl⟩ := List.mem_map.mp member
      rw [reapTask_id] at stored
      obtain rfl := hydrateRun_seen listed stored
      exact (reapTask_cases old).imp_right fun reaped => ⟨reaped, silent⟩

theorem Recovered.terminal (recovered : Recovered reader directory now (run, some found)) :
    run.status.isTerminal = true := by
  cases recovered with
  | ended terminal _ _ => exact terminal

theorem saveTasks_either {store : TaskStore} {tasks : List SwarmTask} {id : PyString}
    (found : store.find? id = some file) :
    ∃ now, (saveTasks store tasks).1.find? id = some now ∧
      (now = file ∨ now ∈ tasks ∧ now.id = id) := by
  induction tasks generalizing store file with
  | nil => exact ⟨file, found, .inl rfl⟩
  | cons task rest ih =>
    unfold saveTasks
    cases saved : store.saveTask task with
    | error raised => exact ⟨file, found, .inl rfl⟩
    | ok next =>
      by_cases here : id = task.id
      · obtain ⟨last, there, outcome⟩ := ih (show next.find? id = some task by
          rw [saveTask_put saved, Table.find?_put, if_pos here])
        refine ⟨last, there, .inr ?_⟩
        obtain rfl | ⟨listed, named⟩ := outcome
        · exact ⟨List.mem_cons_self, here.symm⟩
        · exact ⟨List.mem_cons_of_mem _ listed, named⟩
      · obtain ⟨last, there, outcome⟩ := ih (show next.find? id = some file by
          rw [saveTask_put saved, Table.find?_put, if_neg here]
          exact found)
        exact ⟨last, there, outcome.imp_right fun both => ⟨List.mem_cons_of_mem _ both.1, both.2⟩⟩

-- What is appended to a log: one event at most, of a kind that the log has none of.
structure Appended (reader : Reader) (before after : RunDirectory) (events : List SwarmEvent) :
    Prop where
  text : after.log.getD [] = before.log.getD [] ++ fileText events
  single : events.length ≤ 1
  fresh : ∀ event ∈ events, ∃ existing, before.readEvents reader.model = .ok existing ∧
    ∀ old ∈ existing, old.type ≠ event.type

theorem Appended.none {after : RunDirectory} (text : after.log.getD [] = directory.log.getD []) :
    Appended reader directory after [] :=
  ⟨by simpa [fileText, Lines.unlines] using text, Nat.zero_le 1, by simp⟩

theorem appendEvent_text {model : EventModel} {files : RunFiles} {event : SwarmEvent} :
    (appendEvent model files event).2.events.getD [] = files.events.getD [] ∨
      (appendEvent model files event).2.events.getD [] =
        files.events.getD [] ++ fileText [event] := by
  unfold appendEvent
  split
  next there =>
    cases dumped : model.modelDumpJson event with
    | error raised => simp [RunFiles.opened, there]
    | ok text =>
      obtain rfl := model.dumps_json event text dumped
      exact .inr (by simp [fileText, Lines.unlines])
  next => exact .inl rfl

theorem readEvents_congr {model : EventModel} {after : RunDirectory}
    (same : after.log = directory.log ∧ after.decodes = directory.decodes) :
    after.readEvents model = directory.readEvents model := by
  unfold RunDirectory.readEvents RunDirectory.readText RunDirectory.files
  rw [same.1, same.2]

inductive Persisted (reader : Reader) (directory : RunDirectory) (run : SwarmRun) :
    RunDirectory → Prop
  | stopped : Persisted reader directory run
      { directory with taskStore := (saveTasks directory.taskStore run.tasks).1 }
  | written {log : Option Text} {events : List SwarmEvent}
      (appended : Appended reader directory { directory with log } events) :
      Persisted reader directory run
        { directory with run, taskStore := (saveTasks directory.taskStore run.tasks).1, log }

theorem persistRecovery_cases {recorded : ℚ} :
    Persisted reader directory run
      (persistRecovery reader directory run found recorded).2 := by
  unfold persistRecovery
  dsimp only
  split
  next =>
    have same : ({ directory with run, taskStore := (saveTasks directory.taskStore run.tasks).1 } :
        RunDirectory).readEvents reader.model = directory.readEvents reader.model :=
      readEvents_congr ⟨rfl, rfl⟩
    rw [same]
    cases read : directory.readEvents reader.model with
    | error raised => exact .written (.none rfl)
    | ok existing =>
      dsimp only
      split
      next => exact .written (.none rfl)
      next missing =>
        dsimp only
        obtain same | longer := @appendEvent_text reader.model directory.files
          (found.event (reader.isoformat recorded))
        · exact .written (.none same)
        · have fresh : ∀ event ∈ [found.event (reader.isoformat recorded)], ∃ existing,
              directory.readEvents reader.model = .ok existing ∧
                ∀ old ∈ existing, old.type ≠ event.type := by
            intro event listed
            obtain rfl := List.mem_singleton.mp listed
            exact ⟨existing, read, fun old held same =>
              missing (List.any_eq_true.mpr ⟨old, held, decide_eq_true same⟩)⟩
          exact .written ⟨longer, Nat.le_refl 1, fresh⟩
  next => exact .stopped

inductive Polled (reader : Reader) (directory : RunDirectory) (now : ℚ) : RunDirectory → Prop
  | left : Polled reader directory now directory
  | persisted {run : SwarmRun} {found : Recovery} {after : RunDirectory}
      (recovered : Recovered reader directory now (run, some found))
      (persisted : Persisted reader directory run after) : Polled reader directory now after

theorem reconcileRun_cases :
    Polled reader directory poll.now (reconcileRun reader directory poll).2 := by
  unfold reconcileRun
  cases recovered : recovery reader directory poll.now with
  | error raised => exact .left
  | ok outcome =>
    obtain ⟨run, found⟩ := outcome
    cases found with
    | none => exact .left
    | some found =>
      dsimp only
      split
      next => exact .persisted (recovery_cases recovered) persistRecovery_cases
      next => exact .left

theorem Polled.kept {after : RunDirectory} {id : PyString} (polled : Polled reader directory now after)
    (stored : directory.taskStore.find? id = some file) :
    ∃ last, after.taskStore.find? id = some last ∧
      (last = file ∨ Reaped file last ∧ Silent reader directory now) := by
  cases polled with
  | left => exact ⟨file, stored, .inl rfl⟩
  | @persisted run found _ recovered persisted =>
    have same : after.taskStore = (saveTasks directory.taskStore run.tasks).1 := by
      cases persisted <;> rfl
    obtain ⟨last, there, outcome⟩ :
        ∃ last, (saveTasks directory.taskStore run.tasks).1.find? id = some last ∧ _ :=
      saveTasks_either stored
    refine ⟨last, same ▸ there, ?_⟩
    obtain rfl | ⟨listed, rfl⟩ := outcome
    · exact .inl rfl
    · exact recovered.listed listed stored

theorem Polled.log {after : RunDirectory} (polled : Polled reader directory now after) :
    (after.log = directory.log ∧ after.decodes = directory.decodes) ∨
      after.run.status.isTerminal = true ∧ ∃ events, Appended reader directory after events := by
  cases polled with
  | left => exact .inl ⟨rfl, rfl⟩
  | persisted recovered persisted =>
    cases persisted with
    | stopped => exact .inl ⟨rfl, rfl⟩
    | @written _ events appended =>
      exact .inr ⟨recovered.terminal, events, appended.text, appended.single, appended.fresh⟩

theorem Reaped.terminal {reaped : SwarmTask} (ended : Reaped task reaped) :
    reaped.status.isTerminal = true := by rw [ended.failed]; rfl

theorem polls_file {id : PyString} (stored : directory.taskStore.find? id = some file) :
    ∃ last, (polls reader directory seen).taskStore.find? id = some last ∧
      (last = file ∨ Reaped file last ∧ ∃ before poll after, seen = before ++ poll :: after ∧
        Silent reader (polls reader directory before) poll.now) := by
  induction seen generalizing directory file with
  | nil => exact ⟨file, stored, .inl rfl⟩
  | cons poll rest ih =>
    obtain ⟨next, there, outcome⟩ :=
      (reconcileRun_cases : Polled reader directory poll.now _).kept stored
    obtain ⟨last, ended, after⟩ := ih there
    refine ⟨last, ended, ?_⟩
    obtain rfl | ⟨reaped, silent⟩ := outcome
    · obtain same | ⟨reaped, before, later, others, rfl, silent⟩ := after
      · exact .inl same
      · exact .inr ⟨reaped, poll :: before, later, others, rfl, silent⟩
    · obtain rfl | ⟨again, -⟩ := after
      · exact .inr ⟨reaped, [], poll, rest, rfl, silent⟩
      · exact absurd again.unfinished (by rw [reaped.terminal]; nofun)

theorem polls_terminal (terminal : directory.run.status.isTerminal = true) :
    polls reader directory seen = directory := by
  induction seen with
  | nil => rfl
  | cons poll rest ih =>
    have same : (reconcileRun reader directory poll).2 = directory := by
      rw [reconcileRun_terminal terminal]
    rw [polls, List.foldl_cons, same]
    exact ih

theorem polls_log :
    ∃ events, Appended reader directory (polls reader directory seen) events := by
  induction seen generalizing directory with
  | nil => exact ⟨[], .none rfl⟩
  | cons poll rest ih =>
    change ∃ events, Appended reader directory
      (polls reader (reconcileRun reader directory poll).2 rest) events
    obtain same | ⟨terminal, events, appended⟩ :=
      (reconcileRun_cases : Polled reader directory poll.now _).log
    · obtain ⟨events, appended⟩ := @ih (reconcileRun reader directory poll).2
      refine ⟨events, ?_, appended.single, ?_⟩
      · rw [appended.text, same.1]
      · rw [← readEvents_congr same]
        exact appended.fresh
    · rw [polls_terminal terminal]
      exact ⟨events, appended⟩

theorem reconcileRun_silent (running : directory.run.status = .running)
    (silent : Silent reader directory poll.now)
    (answered : (reconcileRun reader directory poll).1 = .ok run) :
    run.status.isTerminal = true := by
  unfold reconcileRun at answered
  cases recovered : recovery reader directory poll.now with
  | error raised =>
    rw [recovered] at answered
    cases answered
  | ok outcome =>
    obtain ⟨shown, found⟩ := outcome
    have cases_ := recovery_cases recovered
    rw [recovered] at answered
    cases found with
    | none =>
      cases cases_ with
      | seen left => exact absurd silent (left running)
    | some found =>
      dsimp only at answered
      have same : shown = run := by
        split at answered
        next =>
          cases outcome : (persistRecovery reader directory shown found poll.recorded).1 with
          | error raised =>
            rw [outcome] at answered
            cases answered
          | ok done =>
            rw [outcome] at answered
            cases answered
            rfl
        next =>
          cases answered
          rfl
      exact same ▸ cases_.terminal

theorem polls_safe (reader : Reader) (directory : RunDirectory) (seen : List Poll) :
    (∀ id file, directory.taskStore.find? id = some file →
      ∃ last, (polls reader directory seen).taskStore.find? id = some last ∧
        (last = file ∨ Reaped file last ∧ ∃ before poll after, seen = before ++ poll :: after ∧
          Silent reader (polls reader directory before) poll.now)) ∧
      (directory.run.status.isTerminal = true → polls reader directory seen = directory) ∧
      (∃ events, Appended reader directory (polls reader directory seen) events) ∧
      ∀ poll run, directory.run.status = .running → Silent reader directory poll.now →
        (reconcileRun reader directory poll).1 = .ok run → run.status.isTerminal = true :=
  ⟨fun _ _ stored => polls_file stored, polls_terminal, polls_log,
    fun _ _ running silent answered => reconcileRun_silent running silent answered⟩

-- The texts of the run can be written, and its tasks can be told apart.
structure Recordable (reader : Reader) (directory : RunDirectory) : Prop where
  isoformat : ∀ now, (reader.isoformat now).encodable = true
  distinct : (ids directory.run.tasks).Nodup
  run : directory.run.encodable = true
  tasks : ∀ task ∈ directory.run.tasks ++ directory.taskStore.rows,
    task.encodable = true ∧ isFileName (taskFile task.id) = true

theorem encodable_ofString (text : String) : (PyString.ofString text).encodable = true := by
  refine List.all_eq_true.mpr fun point listed => ?_
  obtain ⟨c, -, rfl⟩ := List.mem_map.mp listed
  have valid := c.valid
  have small : c.toNat < 0x110000 := by
    unfold Char.toNat
    rcases valid with low | ⟨-, high⟩ <;> omega
  have same : (Fin.ofNat 0x110000 c.toNat).val = c.toNat := Nat.mod_eq_of_lt small
  simp only [isSurrogate, same, Bool.not_eq_true', Bool.and_eq_false_iff, decide_eq_false_iff_not]
  unfold Char.toNat
  rcases valid with low | ⟨low, -⟩ <;> omega

theorem saveTasks_ok {store : TaskStore} {tasks : List SwarmTask}
    (ready : ∀ task ∈ tasks, task.encodable = true ∧ isFileName (taskFile task.id) = true) :
    (saveTasks store tasks).2 = true := by
  induction tasks generalizing store with
  | nil => rfl
  | cons task rest ih =>
    obtain ⟨encodable, named⟩ := ready task List.mem_cons_self
    unfold saveTasks
    rw [saveTask_ok encodable named]
    exact ih fun other listed => ready other (List.mem_cons_of_mem _ listed)

theorem hydrateRun_old {store : TaskStore} {run : SwarmRun}
    (member : task ∈ (hydrateRun store run).tasks) : task ∈ run.tasks ++ store.rows := by
  by_cases live : store.loadAll = []
  · rw [hydrateRun_bare live] at member
    exact List.mem_append_left _ member
  · rw [hydrateRun_live live] at member
    obtain merged | extra := List.mem_append.mp member
    · obtain ⟨old, listed, rfl⟩ := List.mem_map.mp merged
      cases found : store.find? old.id with
      | none => exact List.mem_append_left _ (by simpa [found] using listed)
      | some file => exact List.mem_append_right _ (by simpa [found] using Table.find?_mem found)
    · exact List.mem_append_right _ (List.mem_mergeSort.mp (List.mem_filter.mp extra).1)

theorem hydrateRun_same {store : TaskStore} {run : SwarmRun}
    (found : ∀ task ∈ run.tasks, store.find? task.id = some task)
    (known : ∀ row ∈ store.rows, row.id ∈ ids run.tasks) : hydrateRun store run = run := by
  by_cases live : store.loadAll = []
  · exact hydrateRun_bare live
  · have merged : (run.tasks.map fun task => (store.find? task.id).getD task) = run.tasks := by
      conv_rhs => rw [← List.map_id run.tasks]
      exact List.map_congr_left fun task listed => by rw [found task listed]; rfl
    have extra : (store.loadAll.filter fun task => task.id ∉ ids run.tasks) = [] := by
      refine List.filter_eq_nil_iff.mpr fun task listed => ?_
      simpa using known task (List.mem_mergeSort.mp listed)
    have tasks := @hydrateRun_live _ run live
    rw [merged, extra, List.append_nil] at tasks
    unfold hydrateRun at tasks ⊢
    dsimp only at tasks ⊢
    rw [if_neg live] at tasks ⊢
    dsimp only at tasks
    rw [tasks]

theorem encodable_decimal (n : Nat) : (⟨decimal n⟩ : PyString).encodable = true := by
  refine PyString.encodable_of_isAscii (List.all_eq_true.mpr fun c listed => ?_)
  have digit := (decimal_digits n).1 c listed
  simp only [JsonText.isDigit, Bool.and_eq_true, decide_eq_true_eq] at digit ⊢
  omega

theorem Recordable.error (recordable : Recordable reader directory) (last : Option ℚ) :
    (reapedError reader (hydrateRun directory.taskStore directory.run) last).encodable = true := by
  unfold reapedError
  simp only [PyString.encodable_append, encodable_decimal, Bool.and_true, Bool.and_eq_true]
  refine ⟨⟨⟨by decide +kernel, by decide +kernel⟩, ?_⟩, by decide +kernel⟩
  cases last with
  | none => exact encodable_ofString _
  | some last => exact recordable.isoformat last

theorem reapTask_encodable {error completedAt : PyString} (encodable : task.encodable = true)
    (errors : error.encodable = true) (completed : completedAt.encodable = true) :
    (reapTask error completedAt task).encodable = true := by
  unfold reapTask
  split
  next => exact encodable
  next =>
    simp only [SwarmTask.encodable, SwarmTask.texts, List.all_append, Option.toList_some,
      List.all_cons, List.all_nil, Bool.and_true, Bool.and_eq_true] at encodable ⊢
    exact ⟨⟨⟨encodable.1.1.1, errors⟩, encodable.1.2⟩, completed⟩

theorem reaped_ids {error completedAt : PyString} {tasks : List SwarmTask} :
    ids (tasks.map (reapTask error completedAt)) = ids tasks := by
  unfold ids
  rw [List.map_map]
  exact List.map_congr_left fun task _ => reapTask_id

theorem hydrateRun_encodable (recordable : Recordable reader directory) :
    (hydrateRun directory.taskStore directory.run).encodable = true := by
  have run := recordable.run
  rw [hydrateRun_eq]
  simp only [SwarmRun.encodable, Bool.and_eq_true, List.all_eq_true] at run ⊢
  exact ⟨run.1, fun task listed => (recordable.tasks task (hydrateRun_old listed)).1⟩

theorem recoverTerminal_encodable (encodable : run.encodable = true)
    (iso : (reader.isoformat now).encodable = true) :
    (recoverTerminal reader run now).encodable = true := by
  simp only [SwarmRun.encodable, Bool.and_eq_true, List.all_append, List.all_cons, List.all_nil,
    and_true] at encodable ⊢
  obtain ⟨⟨⟨⟨names, completed⟩, report⟩, agents⟩, tasks⟩ := encodable
  refine ⟨⟨⟨⟨names, ?_⟩, ?_⟩, agents⟩, tasks⟩
  · unfold recoverTerminal orElse
    dsimp only
    split
    next => simpa using iso
    next => exact completed
  · unfold recoverTerminal
    dsimp only
    split
    next =>
      split
      next task found =>
        have listed := List.mem_reverse.mp (List.mem_of_find?_eq_some found)
        have texts := List.all_eq_true.mp tasks task listed
        simp only [SwarmTask.encodable, SwarmTask.texts, List.all_append, Bool.and_eq_true] at texts
        exact texts.1.1.1.1.2
      next => exact report
    next => exact report

theorem Recordable.recovered (recordable : Recordable reader directory)
    (seen : recovery reader directory now = .ok (run, some found)) :
    run.encodable = true ∧ ids run.tasks = ids (hydrateRun directory.taskStore directory.run).tasks ∧
      ∀ task ∈ run.tasks, task.encodable = true ∧ isFileName (taskFile task.id) = true := by
  have whole := hydrateRun_encodable recordable
  have old : ∀ task ∈ (hydrateRun directory.taskStore directory.run).tasks,
      task.encodable = true ∧ isFileName (taskFile task.id) = true := fun task listed =>
    recordable.tasks task (hydrateRun_old listed)
  unfold recovery at seen
  dsimp only at seen
  split at seen
  next => cases seen
  next =>
    split at seen
    next =>
      cases seen
      exact ⟨recoverTerminal_encodable whole (recordable.isoformat now), rfl, old⟩
    next =>
      obtain ⟨stale, -, seen⟩ := Outcome.bind_ok.mp seen
      cases stale with
      | false => cases seen
      | true =>
        obtain ⟨reaped, reaps, seen⟩ := Outcome.bind_ok.mp seen
        obtain ⟨last, -, reaps⟩ := Outcome.bind_ok.mp reaps
        cases seen
        cases reaps
        have reaped (task : SwarmTask)
            (member : task ∈ (hydrateRun directory.taskStore directory.run).tasks) :
            (reapTask (reapedError reader (hydrateRun directory.taskStore directory.run) last)
              (reader.isoformat now) task).encodable = true :=
          reapTask_encodable (old task member).1 (recordable.error last) (recordable.isoformat now)
        refine ⟨recoverTerminal_encodable ?_ (recordable.isoformat now), reaped_ids,
          fun task listed => ?_⟩
        · simp only [SwarmRun.encodable, Bool.and_eq_true] at whole ⊢
          refine ⟨whole.1, List.all_eq_true.mpr fun task listed => ?_⟩
          obtain ⟨before, member, rfl⟩ := List.mem_map.mp listed
          exact reaped before member
        · obtain ⟨before, member, rfl⟩ := List.mem_map.mp listed
          exact ⟨reaped before member, reapTask_id.symm ▸ (old before member).2⟩

-- A poll that writes leaves the run as it has ended it. Where it raises all the same, the log does
-- not read back, and it is left as it is.
theorem persistRecovery_written {recorded : ℚ}
    (saved : (saveTasks directory.taskStore run.tasks).2 = true) (encodable : run.encodable = true) :
    (persistRecovery reader directory run found recorded).2.run = run ∧
      (persistRecovery reader directory run found recorded).2.taskStore =
        (saveTasks directory.taskStore run.tasks).1 ∧
      ((persistRecovery reader directory run found recorded).1 = .ok () ∨
        ∃ raised, (persistRecovery reader directory run found recorded).1 = .error raised ∧
          directory.readEvents reader.model = .error raised ∧
          (persistRecovery reader directory run found recorded).2.log = directory.log) := by
  unfold persistRecovery
  dsimp only
  rw [saved, encodable, Bool.and_self, if_pos rfl]
  have same : ({ directory with run, taskStore := (saveTasks directory.taskStore run.tasks).1 } :
      RunDirectory).readEvents reader.model = directory.readEvents reader.model :=
    readEvents_congr ⟨rfl, rfl⟩
  rw [same]
  cases directory.readEvents reader.model with
  | error raised => exact ⟨rfl, rfl, .inr ⟨raised, rfl, rfl, rfl⟩⟩
  | ok existing =>
    dsimp only
    split
    next => exact ⟨rfl, rfl, .inl rfl⟩
    next => exact ⟨rfl, rfl, .inl rfl⟩

theorem reconcileRun_settles (recordable : Recordable reader directory) {ended : Option Recovery}
    (seen : recovery reader directory poll.now = .ok (run, ended))
    (terminal : run.status.isTerminal = true) (writes : poll.write = true) :
    ((reconcileRun reader directory poll).1 = .ok run ∨
      ∃ raised, (reconcileRun reader directory poll).1 = .error raised ∧
        directory.readEvents reader.model = .error raised ∧
        (reconcileRun reader directory poll).2.log = directory.log) ∧
      ∀ between later, reconcileRun reader
        (polls reader (reconcileRun reader directory poll).2 between) later =
          (.ok run, (reconcileRun reader directory poll).2) := by
  cases ended with
  | none =>
    have first : reconcileRun reader directory poll = (.ok run, directory) := by
      rw [reconcileRun, seen]
    have same : run = hydrateRun directory.taskStore directory.run := by
      cases recovery_cases seen with
      | seen left => rfl
    rw [first]
    refine ⟨.inl rfl, fun between later => ?_⟩
    have before : directory.run.status.isTerminal = true := by
      rwa [same, hydrateRun_status] at terminal
    rw [polls_terminal before, reconcileRun_terminal before, same]
  | some found =>
    obtain ⟨encodable, same, ready⟩ := recordable.recovered seen
    have saved := @saveTasks_ok directory.taskStore _ ready
    have distinct : (ids run.tasks).Nodup := same ▸ hydrateRun_distinct recordable.distinct
    have known : ∀ row ∈ directory.taskStore.rows, row.id ∈ ids run.tasks := fun row stored =>
      same ▸ List.mem_map_of_mem (hydrateRun_covers stored)
    obtain ⟨written, stored, answer⟩ :=
      @persistRecovery_written reader directory run found poll.recorded saved encodable
    have first : reconcileRun reader directory poll =
        ((persistRecovery reader directory run found poll.recorded).1.map fun _ => run,
          (persistRecovery reader directory run found poll.recorded).2) := by
      rw [reconcileRun, seen]
      exact if_pos writes
    rw [first]
    refine ⟨?_, fun between later => ?_⟩
    · obtain ok | ⟨raised, error, unread, log⟩ := answer
      · exact .inl (by rw [ok]; rfl)
      · exact .inr ⟨raised, by rw [error]; rfl, unread, log⟩
    · have ended : (persistRecovery reader directory run found poll.recorded).2.run.status.isTerminal =
          true := by
        rw [written]
        exact terminal
      rw [polls_terminal ended, reconcileRun_terminal ended, written, stored,
        hydrateRun_same (fun task listed => saveTasks_saved distinct saved listed)
          (saveTasks_known known)]

def silentReader : Reader where
  model := jsonModel
  fromisoformat _ := some 0
  isoformat _ := "later"

-- A run whose host died, with a log that does not read back.
def abandoned : RunDirectory where
  run :=
    { id := "r", status := .running, tasks := [{ id := "a", agentId := "b" }], createdAt := "now" }
  taskStore := .empty
  log := some (fileText [separated])

theorem reconcileRun_settles_abandoned :
    (reconcileRun silentReader abandoned ⟨true, 400, 401⟩).1 = .error .valueError ∧
      ∃ run, run.status = .failed ∧ reconcileRun silentReader
        (polls silentReader (reconcileRun silentReader abandoned ⟨true, 400, 401⟩).2
          [⟨true, 500, 501⟩, ⟨false, 600, 601⟩]) ⟨true, 700, 701⟩ =
            (.ok run, (reconcileRun silentReader abandoned ⟨true, 400, 401⟩).2) := by
  have recordable : Recordable silentReader abandoned :=
    ⟨fun _ => encodable_ofString _, by decide +kernel, by decide +kernel, by decide +kernel⟩
  have failed : (recovery silentReader abandoned 400).toOption.map (·.1.status) =
      some .failed := by decide +kernel
  have unread : (match (reconcileRun silentReader abandoned ⟨true, 400, 401⟩).1 with
    | .error raised => some raised
    | .ok _ => none) = some .valueError := by decide +kernel
  cases seen : recovery silentReader abandoned 400 with
  | error raised =>
    rw [seen] at failed
    cases failed
  | ok outcome =>
    obtain ⟨run, ended⟩ := outcome
    have status : run.status = .failed := by
      rw [seen] at failed
      exact Option.some.inj failed
    have settles := @reconcileRun_settles silentReader abandoned ⟨true, 400, 401⟩ run recordable ended
      seen (by rw [status]; rfl) rfl
    refine ⟨?_, run, status, settles.2 _ _⟩
    split at unread
    next raised error => rw [error, Option.some.inj unread]
    next => cases unread

end Polls

section Uncancelled

variable {tasks : List SwarmTask} {preset : Preset} {allIds : IdSet (ids (buildTasks preset))}
  {host : Host} {agentIds : List PyString} {run : FinishedRun} {s : RunState}

def NoneCancelled (s : RunState) : Prop := ∀ file ∈ s.taskStore.rows, file.status ≠ .cancelled

theorem updateStatus_keeps {update : SwarmTask → SwarmTask} (status : ∀ task,
    (update task).status ≠ .cancelled) (tid : PyString) :
    Keeps NoneCancelled (updateStatus tid update) := by
  intro s none
  have ends : Ends (updateStatus tid update) s (fun _ s' => NoneCancelled s') NoneCancelled := by
    refine updateStatus_ends (fun file _ row listed => ?_) none
    obtain rfl | before := Table.mem_put listed
    · exact status file
    · exact none row before
  cases ran : updateStatus tid update s with
  | ok done s' => exact ends.1 done s' ran
  | error raised s' => exact ends.2 raised s' ran

theorem loadTask_keeps (tid : PyString) : Keeps NoneCancelled (loadTask tid) := by
  refine .bind .get fun s => ?_
  cases s.taskStore.loadTask tid with
  | ok task => exact .pure task
  | error raised => exact .throw raised

theorem place_keeps (tid : PyString) : Keeps NoneCancelled (place host agentIds tid) := by
  refine .bind (loadTask_keeps tid) fun task => .bind .get fun s => .ite ?_ (.ite (.pure _) ?_)
  · refine .bind (updateStatus_keeps ?_ tid) fun _ => .pure _
    exact fun _ => nofun
  · refine .bind (updateStatus_keeps ?_ tid) fun _ =>
      .bind (.modified fun _ none => none) fun _ => .pure _
    exact fun _ => nofun

theorem unblock_uncancelled {task : SwarmTask} {taskId : PyString}
    (left : task.status ≠ .cancelled) :
    (task.unblock taskId).status ≠ .cancelled := by
  unfold SwarmTask.unblock
  split
  next =>
    dsimp only
    split
    next => exact nofun
    next => exact left
  next => exact left

theorem collect_keeps (tid : PyString) (result : WorkerResult) :
    Keeps NoneCancelled (collect host tid result) := by
  refine .bind (.modified fun _ none => none) fun _ => .ite ?_ ?_
  · refine .bind (.modified fun _ none => none) fun _ =>
      .bind (updateStatus_keeps ?_ tid) fun _ s none row listed => ?_
    · exact fun _ => nofun
    · obtain ⟨old, stored, rfl⟩ := (Table.mem_updateWhere ..).mp listed
      exact unblock_uncancelled (none old stored)
  · refine .bind (.modified fun _ none => none) fun _ => updateStatus_keeps ?_ tid
    exact fun _ => nofun

theorem runLayers_keeps (uncancelled : ∀ layerIdx, host.cancelled layerIdx = false)
    (layers : List (List PyString)) (layerIdx : Nat) :
    Keeps NoneCancelled (runLayers host agentIds layerIdx layers) := by
  induction layers generalizing layerIdx with
  | nil => exact .pure ()
  | cons layer rest ih =>
    rw [runLayers, if_neg (by simp [uncancelled])]
    refine .bind
      (.bind (.mapM fun tid => .bind (place_keeps tid) fun _ => .pure _) fun _ => .pure _)
      fun results => .bind (.forM fun entry => collect_keeps entry.1 entry.2) fun _ =>
        .bind (.modified fun _ none => none) fun _ => ih (layerIdx + 1)

theorem executeRun_uncancelled (uncancelled : ∀ layerIdx, host.cancelled layerIdx = false)
    (distinct : (ids tasks).Nodup) (begun : ∀ task ∈ tasks, task.status ≠ .cancelled)
    (ran : executeRun host agentIds tasks { tasks } = .ok run s) : NoneCancelled s := by
  obtain ⟨_, s₁, saves, ran⟩ := bind_ok.mp ran
  have saved : NoneCancelled s₁ := fun file listed =>
    begun file (((saves_ends distinct).1 _ _ saves).stored file listed)
  cases sorted : topologicalLayers tasks with
  | error raised =>
    rw [sorted] at ran
    exact absurd ran throw_ok
  | ok layers =>
    rw [sorted] at ran
    obtain ⟨_, s₂, tried, ran⟩ := bind_ok.mp ran
    obtain ⟨_, _, got, ran⟩ := bind_ok.mp ran
    obtain ⟨rfl, rfl⟩ := get_ok.mp got
    obtain ⟨-, rfl⟩ := pure_ok.mp ran
    have keeps : Keeps NoneCancelled (tryCatch (runLayers host agentIds 0 layers) fun _ =>
        modify ({ · with allSucceeded := false }) : RunM PUnit) :=
      .tryCatch (runLayers_keeps uncancelled layers 0) fun _ => .modified fun _ none => none
    exact Preserves.of_keeps keeps _ _ _ tried saved

theorem recoveredStatus_of_mem {seen : List SwarmTask} (same : ∀ task, task ∈ seen ↔ task ∈ tasks)
    (ended : ∀ task ∈ tasks, task.status.isTerminal = true)
    (left : ∀ task ∈ tasks, task.status ≠ .cancelled) :
    recoveredStatus seen =
      if ∀ task ∈ tasks, task.status = .completed then .completed else .failed := by
  unfold recoveredStatus
  by_cases all : ∀ task ∈ tasks, task.status = .completed
  · rw [if_pos all, if_pos (by simpa [same] using all)]
  · rw [if_neg all, if_neg (by simpa [same] using all)]
    push Not at all
    obtain ⟨task, member, other⟩ := all
    have failed : task.status = .failed := by
      have terminal := ended task member
      have uncancelled := left task member
      cases status : task.status with
      | failed => rfl
      | completed => exact absurd status other
      | cancelled => exact absurd status uncancelled
      | pending => simp [status, TaskStatus.isTerminal] at terminal
      | blocked => simp [status, TaskStatus.isTerminal] at terminal
      | inProgress => simp [status, TaskStatus.isTerminal] at terminal
    rw [if_pos (List.any_eq_true.mpr ⟨task, (same task).mpr member, decide_eq_true failed⟩)]

-- A host that dies when every task has ended leaves a run that the recovery ends as the host
-- would have.
theorem recovery_agrees (started : startRun preset allIds = .ok tasks)
    (ran : executeRun host (preset.agents.map (·.id)) tasks { tasks } = .ok run s)
    (uncancelled : (∀ layerIdx, host.cancelled layerIdx = false) ∧ host.cancelledAtEnd = false)
    (ended : tasks ≠ [] ∧ ∀ task ∈ run.tasks, task.status.isTerminal = true)
    (snapshot : SwarmRun) (running : snapshot.status = .running)
    (listed : (ids snapshot.tasks).Perm (ids tasks)) (reader : Reader) (log : Option Text)
    (decodes : Bool) (now : ℚ) :
    ∃ recovered found,
      recovery reader { run := snapshot, taskStore := s.taskStore, log, decodes } now =
        .ok (recovered, some found) ∧
      recovered.status = run.status ∧ recovered.tasks.Perm run.tasks := by
  have closing := closing_of_run started ran
  obtain ⟨-, -, built⟩ := startRun_ok.mp started
  have begun : ∀ task ∈ tasks, task.status ≠ .cancelled := by
    intro task member
    obtain status | status := buildTasks_status (built ▸ member)
    all_goals rw [status]; exact nofun
  have none := executeRun_uncancelled uncancelled.1 closing.distinct begun ran
  have allCompleted := closing.all_completed
  have status := closing.status
  obtain ⟨layers, rfl⟩ := closing.finished
  have stored : ∀ task,
      task ∈ (hydrateRun s.taskStore snapshot).tasks ↔ task ∈ s.taskStore.rows := by
    intro task
    constructor
    · intro member
      have known : task.id ∈ ids tasks := by
        obtain old | row := List.mem_append.mp (hydrateRun_old member)
        · exact listed.mem_iff.mp (List.mem_map_of_mem old)
        · exact closing.plan.known task row
      obtain ⟨owner, present, same⟩ := mem_ids.mp known
      obtain ⟨file, found, -⟩ := closing.plan.carried owner present
      rw [same] at found
      exact hydrateRun_seen member found ▸ Table.find?_mem found
    · exact hydrateRun_covers
  have terminal : ∀ task ∈ s.taskStore.rows, task.status.isTerminal = true := fun task member =>
    ended.2 task (List.mem_mergeSort.mpr member)
  have allTerminal : (hydrateRun s.taskStore snapshot).tasks.all (·.status.isTerminal) = true :=
    List.all_eq_true.mpr fun task member => terminal task ((stored task).mp member)
  have nonempty : (hydrateRun s.taskStore snapshot).tasks ≠ [] := by
    obtain ⟨task, member⟩ := List.exists_mem_of_ne_nil _ ended.1
    obtain ⟨file, found, -⟩ := closing.plan.carried task member
    exact List.ne_nil_of_mem ((stored file).mpr (Table.find?_mem found))
  have alive : ¬ (hydrateRun s.taskStore snapshot).status.isTerminal = true := by
    rw [hydrateRun_status, running]
    exact nofun
  refine ⟨recoverTerminal reader (hydrateRun s.taskStore snapshot) now, terminalRecovery,
    (if_neg alive).trans (if_pos ⟨nonempty, allTerminal⟩), ?_, ?_⟩
  · rw [recoverTerminal_status, recoveredStatus_of_mem stored terminal none, status, uncancelled.2]
    have agree : (∀ task ∈ s.taskStore.rows, task.status = .completed) ↔ s.allSucceeded = true := by
      rw [closing.succeeded, ← allCompleted]
      exact forall_congr' fun task => imp_congr_left List.mem_mergeSort.symm
    simp only [agree, Bool.false_eq_true, if_false]
  · rw [recoverTerminal_tasks]
    refine (List.perm_ext_iff_of_nodup ?_ ?_).mpr fun task =>
      (stored task).trans List.mem_mergeSort.symm
    · exact .of_map _ (hydrateRun_distinct (listed.nodup_iff.mpr closing.distinct))
    · exact .of_map SwarmTask.id (((List.mergeSort_perm ..).map _).nodup_iff.mpr s.taskStore.unique)

def readerSnapshot : SwarmRun where
  id := "r"
  status := .running
  tasks := buildTasks readerPreset
  createdAt := "now"

theorem recovery_agrees_reader :
    ∃ run s, executeRun steady (readerPreset.agents.map (·.id)) (buildTasks readerPreset)
        { tasks := buildTasks readerPreset } = .ok run s ∧
      ∃ recovered found, recovery silentReader
        { run := readerSnapshot, taskStore := s.taskStore, log := none } 400 =
          .ok (recovered, some found) ∧ recovered.status = run.status := by
  obtain ⟨run, ran, completed⟩ := steady_reader_runs
  have started : startRun readerPreset readerIds = .ok (buildTasks readerPreset) := by
    decide +kernel
  have closing := closing_of_run started (ok_of_answer ran)
  have all := closing.all_completed.mpr (closing.status_completed.mp completed).2
  obtain ⟨recovered, found, seen, agrees, -⟩ := recovery_agrees started (ok_of_answer ran)
    ⟨fun _ => rfl, rfl⟩ ⟨by decide +kernel, fun task member => by rw [all task member]; rfl⟩
    readerSnapshot rfl (.refl _) silentReader none true 400
  exact ⟨run, _, ok_of_answer ran, recovered, found, seen, agrees⟩

end Uncancelled

end SynapseYield.Swarm
