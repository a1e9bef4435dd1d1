import Mathlib.Data.List.Count
import SynapseYield.Properties.TaskDag
import SynapseYield.Shared.Program
import SynapseYield.Swarm.Runtime

set_option autoImplicit false

namespace SynapseYield.Swarm

open Shared Shared.Dependency

section Inspector

variable {tasks : List SwarmTask} {preset : Preset}

theorem mem_dependents (distinct : (ids tasks).Nodup) {a b : PyString} :
    b ∈ dependents tasks a ↔ Depends tasks b a := by
  rw [← List.count_pos_iff, count_dependents distinct, List.count_pos_iff, depends_iff distinct]
  rfl

theorem isUpstream_iff (distinct : (ids tasks).Nodup) {candidate taskId : PyString} :
    isUpstream tasks candidate taskId = true ↔
      Relation.ReflTransGen (Depends tasks) taskId candidate := by
  have known : ∀ node, dependents tasks node ≠ [] →
      node ∈ (tasks.flatMap (·.dependsOn)).dedup := by
    intro node some
    obtain ⟨id, listed⟩ := List.exists_mem_of_ne_nil _ some
    obtain ⟨task, member, -, dep⟩ := (mem_dependents distinct).mp listed
    exact List.mem_dedup.mpr (List.mem_flatMap.mpr ⟨task, member, dep⟩)
  have closed : Search.Closed (dependents tasks) taskId [] [candidate] := by
    intro node member
    cases member
  rw [isUpstream, Search.reaches_iff (List.nodup_dedup _) known closed (by simp [searchFuel, Search.cost])]
  simp only [List.mem_singleton, exists_eq_left]
  rw [← Relation.reflTransGen_swap (r := Depends tasks)]
  have same : (fun a b => b ∈ dependents tasks a) = Function.swap (Depends tasks) := by
    funext a b
    exact propext (mem_dependents distinct)
  exact iff_of_eq (congrFun (congrFun (congrArg Relation.ReflTransGen same) candidate) taskId)

theorem upstream_depends (distinct : (ids tasks).Nodup) {candidate taskId : PyString}
    (upstream : isUpstream tasks candidate taskId = true) (other : candidate ≠ taskId) :
    Relation.TransGen (Depends tasks) taskId candidate := by
  obtain same | depends := Relation.reflTransGen_iff_eq_or_transGen.mp ((isUpstream_iff distinct).mp upstream)
  · exact absurd same other
  · exact depends

theorem sorted_nil {names : List PyString} : sorted names = [] ↔ names = [] := by
  rw [← List.length_eq_zero_iff, sorted, List.length_mergeSort, List.length_eq_zero_iff,
    List.dedup_eq_nil]

theorem duplicates_nil {names : List PyString} : duplicates names = [] ↔ names.Nodup := by
  rw [duplicates, sorted_nil, List.filter_eq_nil_iff, List.nodup_iff_count_le_one]
  simp only [decide_eq_true_eq, not_lt]
  constructor
  · intro most name
    by_cases member : name ∈ names
    · exact most name member
    · rw [List.count_eq_zero_of_not_mem member]
      exact Nat.zero_le 1
  · exact fun most name _ => most name

structure Consistent (agentIds : List PyString) (tasks : List SwarmTask) : Prop where
  agents : ∀ task ∈ tasks, task.agentId ∈ agentIds
  sources : ∀ task ∈ tasks, ∀ entry ∈ task.inputFrom, entry.2 ∈ ids tasks

theorem referenceErrors_nil {agentIds : List PyString} :
    referenceErrors agentIds tasks = [] ↔ Consistent agentIds tasks := by
  simp only [referenceErrors, List.flatMap_eq_nil_iff, List.append_eq_nil_iff,
    List.filterMap_eq_nil_iff, ite_eq_left_iff, reduceCtorEq, imp_false, not_not]
  exact ⟨fun none => ⟨fun task member => (none task member).1, fun task member entry listed => by
      simpa using (none task member).2 entry listed⟩,
    fun known task member => ⟨known.agents task member, fun entry listed => by
      simpa using known.sources task member entry listed⟩⟩

theorem planLayers_ok {allIds : IdSet (ids tasks)} {layers : List (List PyString)}
    (planned : planLayers tasks allIds = .ok layers) : validateDag tasks allIds = .ok () := by
  obtain ⟨_, validated, -⟩ := Outcome.bind_ok.mp planned
  cases checked : validateDag tasks allIds with
  | ok done => rfl
  | error raised =>
    rw [checked] at validated
    cases validated

-- A preset in which the inspector finds no error.
structure Inspected (preset : Preset) : Prop where
  distinct : (ids (buildTasks preset)).Nodup
  consistent : Consistent (preset.agents.map (·.id)) (buildTasks preset)
  known : ¬ Unknown (buildTasks preset)
  acyclic : ¬ Cyclic (Edge (buildTasks preset))

theorem inspected_of_valid {allIds : IdSet (ids (buildTasks preset))}
    (valid : (inspectPreset preset allIds).valid = true) : Inspected preset := by
  have clean := List.isEmpty_iff.mp valid
  simp only [inspectPreset, List.append_eq_nil_iff, List.map_eq_nil_iff] at clean
  obtain ⟨⟨⟨⟨-, repeated⟩, references⟩, plan⟩, -⟩ := clean
  have checked : validateDag (buildTasks preset) allIds = .ok () := by
    cases planned : planLayers (buildTasks preset) allIds with
    | ok layers => exact planLayers_ok planned
    | error text => simp [planned] at plan
  obtain ⟨known, acyclic⟩ := (validateDag_ok allIds).mp checked
  exact ⟨duplicates_nil.mp repeated, referenceErrors_nil.mp references, known, acyclic⟩

-- The inspector finds no error, and nothing to say about input_from.
structure Approved (preset : Preset) (allIds : IdSet (ids (buildTasks preset))) : Prop where
  valid : (inspectPreset preset allIds).valid = true
  quiet : ∀ task key source,
    .notUpstream task key source ∉ (inspectPreset preset allIds).warnings

theorem Approved.upstream {allIds : IdSet (ids (buildTasks preset))}
    (approved : Approved preset allIds) {task : SwarmTask} (member : task ∈ buildTasks preset)
    {entry : PyString × PyString} (listed : entry ∈ task.inputFrom) :
    isUpstream (buildTasks preset) entry.2 task.id = true := by
  by_contra outside
  refine approved.quiet task.id entry.1 entry.2 (List.mem_append_left _ ?_)
  refine List.mem_flatMap.mpr ⟨task, member, List.mem_filterMap.mpr ⟨entry, listed, ?_⟩⟩
  have source := (inspected_of_valid approved.valid).consistent.sources task member entry listed
  exact if_pos ⟨source, outside⟩

end Inspector

section Files

variable {task stored : SwarmTask}

-- A file of this task: what the preset says is still there.
structure Same (task stored : SwarmTask) : Prop where
  id : stored.id = task.id
  agentId : stored.agentId = task.agentId
  dependsOn : stored.dependsOn = task.dependsOn
  inputFrom : stored.inputFrom = task.inputFrom
  encodable : stored.encodable = true

theorem Same.begin {text : PyString} (same : Same task stored) (plain : text.encodable = true) :
    Same task (stored.begin text) := by
  refine ⟨same.id, same.agentId, same.dependsOn, same.inputFrom, ?_⟩
  have encodable := same.encodable
  have started : (some text).toList.all PyString.encodable = true := by simpa using plain
  simp only [SwarmTask.begin, SwarmTask.encodable, SwarmTask.texts, List.all_append,
    Bool.and_eq_true] at encodable ⊢
  tauto

theorem Same.complete {result : WorkerResult} {text : PyString} (same : Same task stored)
    (plain : text.encodable = true) (summary : result.summary.encodable = true)
    (artifacts : result.artifactPaths.all PyString.encodable = true) :
    Same task (stored.complete result text) := by
  refine ⟨same.id, same.agentId, same.dependsOn, same.inputFrom, ?_⟩
  have encodable := same.encodable
  have ended : (some text).toList.all PyString.encodable = true := by simpa using plain
  have told : (some result.summary).toList.all PyString.encodable = true := by simpa using summary
  simp only [SwarmTask.complete, SwarmTask.encodable, SwarmTask.texts, List.all_append,
    Bool.and_eq_true] at encodable ⊢
  tauto

theorem Same.unblock (same : Same task stored) (completedTaskId : PyString) :
    Same task (stored.unblock completedTaskId) := by
  unfold SwarmTask.unblock
  split
  next =>
    refine ⟨same.id, same.agentId, same.dependsOn, same.inputFrom, ?_⟩
    have encodable := same.encodable
    have fewer : stored.blockedBy.all PyString.encodable = true →
        (stored.blockedBy.filter (· ≠ completedTaskId)).all PyString.encodable = true := fun all =>
      List.all_eq_true.mpr fun id member =>
        List.all_eq_true.mp all id (List.mem_of_mem_filter member)
    simp only [SwarmTask.encodable, SwarmTask.texts, List.all_append, Bool.and_eq_true] at encodable ⊢
    tauto
  next => exact same

theorem unblock_completed {completedTaskId : PyString} (completed : stored.status = .completed) :
    (stored.unblock completedTaskId).status = .completed := by
  unfold SwarmTask.unblock
  split
  next => simp [completed]
  next => exact completed

theorem saveTask_ok {store : TaskStore} (encodable : task.encodable = true)
    (named : isFileName (taskFile task.id) = true) :
    store.saveTask task = .ok (store.put task) := by
  simp [TaskStore.saveTask, encodable, named]

theorem onStore_run {change : TaskStore → Except PyError TaskStore} {s : RunState}
    {store : TaskStore} (changed : change s.taskStore = .ok store) :
    onStore change s = .ok () { s with taskStore := store } := by
  rw [onStore, bind_of_ok (get_ok.mpr ⟨rfl, rfl⟩), changed]
  rfl

theorem updateStatus_run {update : SwarmTask → SwarmTask} {s : RunState} {tid : PyString}
    (found : s.taskStore.find? tid = some stored) (encodable : (update stored).encodable = true)
    (named : isFileName (taskFile (update stored).id) = true) :
    updateStatus tid update s =
      .ok () { s with taskStore := s.taskStore.put (update stored) } := by
  refine onStore_run ?_
  rw [TaskStore.updateStatus, TaskStore.loadTask, found]
  exact saveTask_ok encodable named

end Files

section Layers

variable {tasks : List SwarmTask} {host : Host} {agentIds done started : List PyString}
  {task file : SwarmTask} {store : TaskStore} {s : RunState}

def Stored (tasks : List SwarmTask) (done : List PyString) (store : TaskStore) : Prop :=
  ∀ task ∈ tasks, ∃ file, store.find? task.id = some file ∧ Same task file ∧
    (task.id ∈ done → file.status = .completed)

theorem Stored.put {later : List PyString} (stored : Stored tasks done store)
    (distinct : (ids tasks).Nodup) (member : task ∈ tasks) (same : Same task file)
    (completed : task.id ∈ later → file.status = .completed)
    (grown : ∀ id ∈ later, id ≠ task.id → id ∈ done) : Stored tasks later (store.put file) := by
  intro other listed
  rw [Table.find?_put, same.id]
  by_cases here : other.id = task.id
  · obtain rfl := List.inj_on_of_nodup_map distinct listed member here
    exact ⟨file, if_pos rfl, same, completed⟩
  · obtain ⟨old, found, kept, ended⟩ := stored other listed
    exact ⟨old, (if_neg here).trans found, kept, fun ends => ended (grown _ ends here)⟩

theorem Stored.resolve (stored : Stored tasks done store) (taskId : PyString) :
    Stored tasks done (store.resolveDependencies taskId) := by
  intro task member
  obtain ⟨file, found, same, completed⟩ := stored task member
  refine ⟨file.unblock taskId, ?_, same.unblock taskId, fun ended => unblock_completed (completed ended)⟩
  rw [TaskStore.resolveDependencies, Table.find?_updateWhere, found]
  rfl

theorem lookup_setSummary {taskId summary id : PyString} {summaries : List (PyString × PyString)} :
    (setSummary taskId summary summaries).lookup id =
      if id = taskId then some summary else summaries.lookup id := by
  unfold setSummary
  induction summaries with
  | nil =>
    by_cases same : id = taskId
    · simp [same]
    · simp [List.lookup_cons, beq_false_of_ne same, same]
  | cons entry rest ih =>
    obtain ⟨key, value⟩ := entry
    by_cases old : key = taskId
    · subst old
      simp only [ne_eq, not_true_eq_false, decide_false, Bool.false_eq_true, not_false_eq_true,
        List.filter_cons_of_neg]
      rw [ih]
      by_cases same : id = key
      · simp [same]
      · simp [List.lookup_cons, beq_false_of_ne same, same]
    · rw [List.filter_cons_of_pos (by simpa using old), List.cons_append, List.lookup_cons,
        List.lookup_cons, ih]
      by_cases same : id = key
      · subst same
        simp [old]
      · simp [beq_false_of_ne same]

-- What the worker of a task was given: of the summaries so far, those that it asks for.
structure Given (host : Host) (tasks : List SwarmTask) (task : SwarmTask) (dispatch : Dispatch) :
    Prop where
  id : dispatch.task.id = task.id
  upstream : ∃ summaries, dispatch.upstreamSummaries = upstreamSummaries summaries task ∧
    summaries.lookup task.id = none ∧ ∀ id, Relation.TransGen (Depends tasks) task.id id →
      summaries.lookup id = some (host.worker id).summary

structure Underway (host : Host) (tasks : List SwarmTask) (done started : List PyString)
    (s : RunState) : Prop where
  stored : Stored tasks done s.taskStore
  summaries : ∀ id, s.taskSummaries.lookup id =
    if id ∈ done then some (host.worker id).summary else none
  given : ∀ dispatch ∈ s.dispatched, ∃ task ∈ tasks, Given host tasks task dispatch
  started : ∀ id ∈ started, ∃ dispatch ∈ s.dispatched, dispatch.task.id = id

theorem Underway.unblocked (underway : Underway host tasks done started s)
    (known : ∀ dep ∈ task.dependsOn, dep ∈ ids tasks) (same : Same task file)
    (ready : ∀ dep ∈ task.dependsOn, dep ∈ done) : blockedUpstreams s.taskStore file = [] := by
  refine List.filterMap_eq_nil_iff.mpr fun dep listed => ?_
  rw [same.dependsOn] at listed
  obtain ⟨depTask, member, rfl⟩ := mem_ids.mp (known dep listed)
  obtain ⟨depFile, found, -, completed⟩ := underway.stored depTask member
  simp [found, completed (ready _ listed)]

theorem Underway.place (underway : Underway host tasks done started s)
    (distinct : (ids tasks).Nodup) (member : task ∈ tasks) (agent : task.agentId ∈ agentIds)
    (named : isFileName (taskFile task.id) = true) (fresh : task.id ∉ done)
    (known : ∀ dep ∈ task.dependsOn, dep ∈ ids tasks)
    (below : ∀ id, Relation.TransGen (Depends tasks) task.id id → id ∈ done) :
    ∃ s', place host agentIds task.id s = .ok .submitted s' ∧
      Underway host tasks done (started ++ [task.id]) s' := by
  obtain ⟨file, found, same, -⟩ := underway.stored task member
  have ready : ∀ dep ∈ task.dependsOn, dep ∈ done := fun dep listed =>
    below dep (.single ⟨task, member, rfl, listed⟩)
  have loaded : loadTask task.id s = .ok file s := by
    rw [loadTask, bind_of_ok (get_ok.mpr ⟨rfl, rfl⟩), TaskStore.loadTask, found]
    rfl
  have marked : Same task (file.begin (host.startedAt task.id).val) :=
    same.begin (PyString.encodable_of_isAscii (host.startedAt task.id).property)
  have updated := updateStatus_run found marked.encodable (marked.id ▸ named)
  refine ⟨{ s with
      taskStore := s.taskStore.put (file.begin (host.startedAt task.id).val)
      dispatched := s.dispatched ++ [⟨file, upstreamSummaries s.taskSummaries file⟩] }, ?_, ?_⟩
  · unfold Swarm.place
    rw [bind_of_ok loaded, bind_of_ok (get_ok.mpr ⟨rfl, rfl⟩)]
    rw [if_neg (by simpa using underway.unblocked known same ready),
      if_neg (by simpa [same.agentId] using agent), bind_of_ok updated]
    rfl
  · refine ⟨underway.stored.put distinct member marked (fun ended => absurd ended fresh)
      fun id ended _ => ended, underway.summaries, fun dispatch listed => ?_, fun id listed => ?_⟩
    · obtain before | here := List.mem_append.mp listed
      · exact underway.given dispatch before
      · obtain rfl := List.mem_singleton.mp here
        refine ⟨task, member, same.id, s.taskSummaries, ?_, ?_, fun id depends => ?_⟩
        · simp only [upstreamSummaries, same.inputFrom]
        · rw [underway.summaries, if_neg fresh]
        · rw [underway.summaries, if_pos (below id depends)]
    · obtain before | here := List.mem_append.mp listed
      · obtain ⟨dispatch, present, named⟩ := underway.started id before
        exact ⟨dispatch, List.mem_append_left _ present, named⟩
      · refine ⟨_, List.mem_append_right _ List.mem_cons_self, ?_⟩
        rw [List.mem_singleton.mp here, same.id]

-- Every worker completes, with text that a file can hold, and nobody cancels the run.
structure Smooth (host : Host) (taskIds : List PyString) : Prop where
  completes : ∀ tid ∈ taskIds, (host.worker tid).status = .completed
  summary : ∀ tid ∈ taskIds, (host.worker tid).summary.encodable = true
  artifacts : ∀ tid ∈ taskIds, (host.worker tid).artifactPaths.all PyString.encodable = true
  uncancelled : ∀ layerIdx, host.cancelled layerIdx = false

theorem Underway.collect (underway : Underway host tasks done started s)
    (distinct : (ids tasks).Nodup) (smooth : Smooth host (ids tasks)) (member : task ∈ tasks)
    (named : isFileName (taskFile task.id) = true) :
    ∃ s', collect host task.id (host.worker task.id) s = .ok () s' ∧
      Underway host tasks (done ++ [task.id]) started s' := by
  obtain ⟨file, found, same, -⟩ := underway.stored task member
  have listed : task.id ∈ ids tasks := mem_ids.mpr ⟨task, member, rfl⟩
  have marked : Same task (file.complete (host.worker task.id) (host.completedAt task.id).val) :=
    same.complete (PyString.encodable_of_isAscii (host.completedAt task.id).property)
      (smooth.summary _ listed) (smooth.artifacts _ listed)
  let counted : RunState :=
    { s with
      totalInputTokens := s.totalInputTokens + (host.worker task.id).inputTokens
      totalOutputTokens := s.totalOutputTokens + (host.worker task.id).outputTokens
      taskSummaries := setSummary task.id (host.worker task.id).summary s.taskSummaries }
  have updated := updateStatus_run (s := counted) found marked.encodable (marked.id ▸ named)
  refine ⟨{ counted with
      taskStore := TaskStore.resolveDependencies (s.taskStore.put
        (file.complete (host.worker task.id) (host.completedAt task.id).val)) task.id }, ?_, ?_⟩
  · unfold Swarm.collect
    rw [bind_of_ok ((modify_ok (u := ⟨⟩)).mpr rfl), if_pos (smooth.completes _ listed),
      bind_of_ok ((modify_ok (u := ⟨⟩)).mpr rfl)]
    exact (bind_of_ok updated).trans (onStore_run rfl)
  · refine ⟨Stored.resolve (underway.stored.put distinct member marked (fun _ => rfl) ?_) _,
      fun id => ?_, underway.given, underway.started⟩
    · intro id ended other
      obtain before | here := List.mem_append.mp ended
      · exact before
      · exact absurd (List.mem_singleton.mp here) other
    · rw [lookup_setSummary, underway.summaries]
      by_cases here : id = task.id
      · subst here
        simp
      · simp [here]

theorem Underway.congr {others : List PyString} (underway : Underway host tasks done started s)
    (same : ∀ id, id ∈ others ↔ id ∈ done) : Underway host tasks others started s where
  stored := fun task member => by simpa only [same] using underway.stored task member
  summaries := fun id => by simpa only [same] using underway.summaries id
  given := underway.given
  started := underway.started

structure Runnable (agentIds : List PyString) (tasks : List SwarmTask) : Prop where
  distinct : (ids tasks).Nodup
  known : ¬ Unknown tasks
  agents : ∀ task ∈ tasks, task.agentId ∈ agentIds
  named : ∀ task ∈ tasks, isFileName (taskFile task.id) = true

theorem Runnable.dependencies (runnable : Runnable agentIds tasks) (member : task ∈ tasks) :
    ∀ dep ∈ task.dependsOn, dep ∈ ids tasks := by
  intro dep listed
  by_contra missing
  exact runnable.known ⟨task, member, dep, listed, missing⟩

theorem LayersOf.taskOf {before rest : List (List PyString)} {layer : List PyString} {tid : PyString}
    (layers : LayersOf tasks (before ++ layer :: rest)) (member : tid ∈ layer) :
    ∃ task ∈ tasks, task.id = tid := by
  have listed : tid ∈ (before ++ layer :: rest).flatten := by simp [member]
  exact mem_ids.mp (layers.once.mem_iff.mp listed)

theorem Underway.executeLayer {before rest : List (List PyString)} {layer : List PyString}
    (runnable : Runnable agentIds tasks)
    (layers : LayersOf tasks (before ++ layer :: rest))
    (underway : Underway host tasks before.flatten before.flatten s) :
    ∃ s', executeLayer host agentIds layer s =
        .ok ((host.asCompleted layer).map fun tid => (tid, host.worker tid)) s' ∧
      Underway host tasks before.flatten (before.flatten ++ layer) s' := by
  have once : (before ++ layer :: rest).flatten.Nodup := layers.once.nodup_iff.mpr runnable.distinct
  have turns : ∀ first tid last s, layer = first ++ tid :: last →
      Underway host tasks before.flatten (before.flatten ++ first) s →
      ∃ s', (do return (tid, ← Swarm.place host agentIds tid) : RunM (PyString × Placement)) s =
          .ok (tid, .submitted) s' ∧
        Underway host tasks before.flatten (before.flatten ++ (first ++ [tid])) s' := by
    intro first tid last s split underway
    have here : tid ∈ layer := split ▸ by simp
    obtain ⟨task, member, rfl⟩ := layers.taskOf here
    have fresh : task.id ∉ before.flatten := by
      rw [List.flatten_append] at once
      exact fun earlier => (List.nodup_append.mp once).2.2 _ earlier _ (by simp [here]) rfl
    obtain ⟨s', placed, underway⟩ := underway.place runnable.distinct member
      (runnable.agents task member) (runnable.named task member) fresh
      (runnable.dependencies member) fun id depends => layers.earlier.below here depends
    rw [List.append_assoc] at underway
    exact ⟨s', bind_of_ok placed, underway⟩
  obtain ⟨s', placed, underway⟩ : ∃ s', (layer.mapM fun tid => do
      return (tid, ← Swarm.place host agentIds tid) : RunM _) s =
        .ok (layer.map fun tid => (tid, .submitted)) s' ∧
      Underway host tasks before.flatten (before.flatten ++ layer) s' :=
    mapM_run turns (by simpa using underway)
  refine ⟨s', ?_, underway⟩
  unfold Swarm.executeLayer
  rw [bind_of_ok placed]
  have rejected : (layer.map fun tid => (tid, Placement.submitted)).filterMap rejectedResult = [] := by
    rw [List.filterMap_map]
    exact List.filterMap_eq_nil_iff.mpr fun _ _ => rfl
  have futures : (layer.map fun tid => (tid, Placement.submitted)).filterMap submittedTask = layer := by
    rw [List.filterMap_map]
    exact List.filterMap_some
  rw [rejected, futures]
  rfl

theorem Underway.layer {before rest : List (List PyString)} {layer : List PyString}
    (runnable : Runnable agentIds tasks) (smooth : Smooth host (ids tasks))
    (layers : LayersOf tasks (before ++ layer :: rest))
    (underway : Underway host tasks before.flatten before.flatten s) :
    ∃ results s₁ s₂, Swarm.executeLayer host agentIds layer s = .ok results s₁ ∧
      (results.forM fun (tid, result) => Swarm.collect host tid result) s₁ = .ok () s₂ ∧
      Underway host tasks (before ++ [layer]).flatten (before ++ [layer]).flatten s₂ := by
  obtain ⟨s₁, executed, underway⟩ := underway.executeLayer runnable layers
  have same : ∀ id, id ∈ host.asCompleted layer ↔ id ∈ layer := fun id =>
    (host.asCompleted_perm layer).mem_iff
  obtain ⟨s₂, collected, underway⟩ : ∃ s', (((host.asCompleted layer).map fun tid =>
      (tid, host.worker tid)).forM fun (tid, result) => Swarm.collect host tid result) s₁ =
        .ok () s' ∧
      Underway host tasks (before.flatten ++
        ((host.asCompleted layer).map fun tid => (tid, host.worker tid)).map Prod.fst)
        (before.flatten ++ layer) s' := by
    refine forM_run (I := fun first s => Underway host tasks (before.flatten ++ first.map Prod.fst)
      (before.flatten ++ layer) s) ?_ (by simpa using underway)
    intro first result last s split underway
    obtain ⟨tid, finished, rfl⟩ := List.mem_map.mp (split ▸ List.mem_append_right first List.mem_cons_self)
    obtain ⟨task, member, rfl⟩ := layers.taskOf ((same tid).mp finished)
    obtain ⟨s', collected, underway⟩ :=
      underway.collect runnable.distinct smooth member (runnable.named task member)
    refine ⟨s', collected, ?_⟩
    rwa [List.map_append, ← List.append_assoc]
  refine ⟨_, s₁, s₂, executed, collected, ?_⟩
  simp only [List.map_map, Function.comp_def, List.map_id'] at underway
  have flat : (before ++ [layer]).flatten = before.flatten ++ layer := by simp
  rw [flat]
  exact underway.congr fun id => by simp [same]

theorem Underway.layers {layers : List (List PyString)} (runnable : Runnable agentIds tasks)
    (smooth : Smooth host (ids tasks)) (sorted : LayersOf tasks layers)
    (underway : Underway host tasks [] [] s) (layerIdx : Nat) :
    ∃ s', runLayers host agentIds layerIdx layers s = .ok () s' ∧
      Underway host tasks layers.flatten layers.flatten s' := by
  suffices loop : ∀ rest before s layerIdx, layers = before ++ rest →
      Underway host tasks before.flatten before.flatten s →
      ∃ s', runLayers host agentIds layerIdx rest s = .ok () s' ∧
        Underway host tasks layers.flatten layers.flatten s' from
    loop layers [] s layerIdx rfl underway
  intro rest
  induction rest with
  | nil =>
    intro before s layerIdx split underway
    rw [List.append_nil] at split
    exact ⟨s, rfl, split ▸ underway⟩
  | cons layer rest ih =>
    intro before s layerIdx split underway
    obtain ⟨results, s₁, s₂, executed, collected, underway⟩ :=
      underway.layer runnable smooth (split ▸ sorted)
    let synced : RunState :=
      { s₂ with
        allSucceeded := s₂.allSucceeded && layer.all (· ∈ results.map Prod.fst)
        tasks := s₂.taskStore.loadAll }
    have kept : Underway host tasks (before ++ [layer]).flatten (before ++ [layer]).flatten synced :=
      ⟨underway.stored, underway.summaries, underway.given, underway.started⟩
    obtain ⟨s', ran, underway⟩ := ih (before ++ [layer]) synced (layerIdx + 1) (by simp [split]) kept
    refine ⟨s', ?_, underway⟩
    rw [runLayers, if_neg (by simp [smooth.uncancelled]), bind_of_ok executed, bind_of_ok collected,
      bind_of_ok ((modify_ok (u := ⟨⟩)).mpr rfl)]
    exact ran

structure Fresh (saved : List SwarmTask) (s : RunState) : Prop where
  stored : Stored saved [] s.taskStore
  summaries : s.taskSummaries = []
  dispatched : s.dispatched = []

theorem saves_run (runnable : Runnable agentIds tasks)
    (text : ∀ task ∈ tasks, task.encodable = true) :
    ∃ s', (tasks.forM fun task => onStore (·.saveTask task)) { tasks } = .ok () s' ∧
      Underway host tasks [] [] s' := by
  obtain ⟨s', saved, fresh⟩ : ∃ s',
      (tasks.forM fun task => onStore (·.saveTask task)) { tasks } = .ok () s' ∧ Fresh tasks s' := by
    refine forM_run (I := Fresh) ?_ ⟨fun _ listed => absurd listed List.not_mem_nil, rfl, rfl⟩
    rintro first task last s rfl ⟨stored, summaries, dispatched⟩
    have member : task ∈ first ++ task :: last := by simp
    refine ⟨_, onStore_run (saveTask_ok (text task member) (runnable.named task member)), ?_,
      summaries, dispatched⟩
    intro other listed
    rw [Table.find?_put]
    by_cases here : other.id = task.id
    · have whole : other ∈ first ++ task :: last := by
        obtain earlier | last := List.mem_append.mp listed
        · exact List.mem_append_left _ earlier
        · exact List.mem_singleton.mp last ▸ member
      obtain rfl := List.inj_on_of_nodup_map runnable.distinct whole member here
      exact ⟨other, if_pos rfl, ⟨rfl, rfl, rfl, rfl, text other member⟩, nofun⟩
    · rw [if_neg here]
      obtain earlier | last := List.mem_append.mp listed
      · exact stored other earlier
      · exact absurd (congrArg SwarmTask.id (List.mem_singleton.mp last)) here
  refine ⟨s', saved, fresh.stored, fun id => ?_, fun dispatch listed => ?_, nofun⟩
  · simp [fresh.summaries]
  · simp [fresh.dispatched] at listed

theorem executeRun_given (runnable : Runnable agentIds tasks) {layers : List (List PyString)}
    (sorted : topologicalLayers tasks = .ok layers) (inOrder : LayersOf tasks layers)
    (text : ∀ task ∈ tasks, task.encodable = true) (smooth : Smooth host (ids tasks)) :
    ∃ run s, executeRun host agentIds tasks { tasks } = .ok run s ∧
      ∀ task ∈ tasks, (∃ dispatch ∈ run.dispatched, dispatch.task.id = task.id) ∧
        ∀ dispatch ∈ run.dispatched, dispatch.task.id = task.id → Given host tasks task dispatch := by
  obtain ⟨s₁, saved, underway⟩ : ∃ s₁, _ ∧ Underway host tasks [] [] s₁ := saves_run runnable text
  obtain ⟨s₂, ran, underway⟩ := underway.layers runnable smooth inOrder 0
  refine ⟨finishRun host layers s₂, s₂, ?_, fun task member => ?_⟩
  · unfold executeRun
    rw [bind_of_ok saved, sorted]
    have tried : (tryCatch (runLayers host agentIds 0 layers) fun _ =>
        modify ({ · with allSucceeded := false }) : RunM PUnit) s₁ = .ok ⟨⟩ s₂ := by
      rw [tryCatch_run, ran]
    exact bind_of_ok tried
  · have listed : task.id ∈ layers.flatten :=
      inOrder.once.mem_iff.mpr (mem_ids.mpr ⟨task, member, rfl⟩)
    refine ⟨underway.started task.id listed, fun dispatch present named => ?_⟩
    obtain ⟨owner, known, given⟩ := underway.given dispatch present
    obtain rfl := List.inj_on_of_nodup_map runnable.distinct known member (given.id ▸ named)
    exact given

end Layers

section Presets

variable {preset : Preset} {host : Host}

-- The preset starts, and where every worker completes each of its tasks is dispatched with the
-- summaries that it asks for.
def Serves (preset : Preset) (allIds : IdSet (ids (buildTasks preset))) : Prop :=
  ∃ tasks, startRun preset allIds = .ok tasks ∧ ∀ host, Smooth host (ids tasks) →
    ∃ run s, executeRun host (preset.agents.map (·.id)) tasks { tasks } = .ok run s ∧
      ∀ task ∈ tasks, ∃ dispatch ∈ run.dispatched, dispatch.task.id = task.id ∧
        ∀ entry ∈ task.inputFrom,
          (entry.1, (host.worker entry.2).summary) ∈ dispatch.upstreamSummaries

structure Storable (preset : Preset) : Prop where
  agents : preset.agents.all (·.texts.all PyString.encodable) = true
  tasks : (buildTasks preset).all SwarmTask.encodable = true
  named : ∀ task ∈ preset.tasks, isFileName (taskFile task.id) = true

def AsksOthers (preset : Preset) : Prop :=
  ∀ task ∈ preset.tasks, ∀ entry ∈ task.inputFrom, entry.2 ≠ task.id

theorem Inspected.runnable (inspected : Inspected preset) (storable : Storable preset) :
    Runnable (preset.agents.map (·.id)) (buildTasks preset) where
  distinct := inspected.distinct
  known := inspected.known
  agents := inspected.consistent.agents
  named := by
    intro task member
    obtain ⟨taskData, listed, rfl⟩ := List.mem_map.mp member
    exact storable.named taskData listed

theorem startRun_ok {allIds : IdSet (ids (buildTasks preset))} {tasks : List SwarmTask} :
    startRun preset allIds = .ok tasks ↔ validateDag (buildTasks preset) allIds = .ok () ∧
      (preset.agents.all (·.texts.all PyString.encodable) = true ∧
        (buildTasks preset).all SwarmTask.encodable = true) ∧ buildTasks preset = tasks := by
  have created : createRun preset.agents (buildTasks preset) = .ok () ↔
      preset.agents.all (·.texts.all PyString.encodable) = true ∧
        (buildTasks preset).all SwarmTask.encodable = true := by
    unfold createRun
    rw [← Bool.and_eq_true]
    split
    next holds => exact iff_of_true rfl holds
    next fails => exact iff_of_false nofun fails
  have validated : (validateDag (buildTasks preset) allIds).mapError (fun _ => PyError.valueError) =
      .ok () ↔ validateDag (buildTasks preset) allIds = .ok () := by
    cases validateDag (buildTasks preset) allIds with
    | ok done => exact iff_of_true rfl rfl
    | error raised => exact iff_of_false nofun nofun
  rw [startRun]
  simp only [Outcome.andThen_ok, created, validated, Except.ok.injEq]

theorem Inspected.runs (inspected : Inspected preset) (storable : Storable preset)
    (allIds : IdSet (ids (buildTasks preset))) (smooth : Smooth host (ids (buildTasks preset))) :
    ∃ run s, executeRun host (preset.agents.map (·.id)) (buildTasks preset)
        { tasks := buildTasks preset } = .ok run s ∧
      ∀ task ∈ buildTasks preset, (∃ dispatch ∈ run.dispatched, dispatch.task.id = task.id) ∧
        ∀ dispatch ∈ run.dispatched, dispatch.task.id = task.id →
          Given host (buildTasks preset) task dispatch := by
  obtain ⟨layers, sorted, inOrder⟩ := layers_of_distinct inspected.distinct inspected.known
    (founded_of_acyclic allIds inspected.known inspected.acyclic)
  exact executeRun_given (inspected.runnable storable) sorted inOrder
    (List.all_eq_true.mp storable.tasks) smooth

theorem Given.fed {tasks : List SwarmTask} {task : SwarmTask} {dispatch : Dispatch}
    (given : Given host tasks task dispatch) {entry : PyString × PyString}
    (listed : entry ∈ task.inputFrom)
    (depends : Relation.TransGen (Depends tasks) task.id entry.2) :
    (entry.1, (host.worker entry.2).summary) ∈ dispatch.upstreamSummaries := by
  obtain ⟨summaries, upstream, -, ready⟩ := given.upstream
  rw [upstream]
  refine List.mem_filterMap.mpr ⟨entry, listed, ?_⟩
  change (summaries.lookup entry.2).map (entry.1, ·) = _
  rw [ready entry.2 depends]
  rfl

theorem Given.unfed {tasks : List SwarmTask} {task : SwarmTask} {dispatch : Dispatch}
    (given : Given host tasks task dispatch) (distinct : (task.inputFrom.map Prod.fst).Nodup)
    {key : PyString} (listed : (key, task.id) ∈ task.inputFrom) (summary : PyString) :
    (key, summary) ∉ dispatch.upstreamSummaries := by
  obtain ⟨summaries, upstream, missing, -⟩ := given.upstream
  rw [upstream]
  intro found
  obtain ⟨entry, present, told⟩ := List.mem_filterMap.mp found
  obtain ⟨text, looked, same⟩ := Option.map_eq_some_iff.mp told
  have first : entry.1 = key := congrArg Prod.fst same
  obtain rfl := List.inj_on_of_nodup_map distinct present listed first
  rw [missing] at looked
  cases looked

def steady : Host where
  worker _ := { status := .completed, summary := .empty }
  asCompleted := id
  asCompleted_perm _ := .refl _
  cancelled _ := false
  cancelledAtEnd := false
  startedAt _ := ⟨.empty, PyString.empty_isAscii⟩
  completedAt _ := ⟨.empty, PyString.empty_isAscii⟩
  redactInternalPaths := id
  statusText _ := .empty

theorem steady_smooth (taskIds : List PyString) : Smooth steady taskIds where
  completes _ _ := rfl
  summary _ _ := rfl
  artifacts _ _ := rfl
  uncancelled _ := rfl

theorem saves_named {tasks : List SwarmTask} {s s' : RunState}
    (saved : (tasks.forM fun task => onStore (·.saveTask task)) s = .ok () s') :
    ∀ task ∈ tasks, isFileName (taskFile task.id) = true := by
  induction tasks generalizing s with
  | nil => nofun
  | cons task rest ih =>
    obtain ⟨_, s₁, first, others⟩ := bind_ok.mp saved
    refine List.forall_mem_cons.mpr ⟨?_, ih others⟩
    by_contra unnamed
    have refused : ∃ raised, s.taskStore.saveTask task = .error raised := by
      unfold TaskStore.saveTask
      split
      next => exact ⟨_, rfl⟩
      next => exact ⟨.osError, if_pos (by simpa using unnamed)⟩
    obtain ⟨raised, refused⟩ := refused
    change onStore (·.saveTask task) s = _ at first
    rw [onStore, bind_of_ok (get_ok.mpr ⟨rfl, rfl⟩), refused] at first
    exact throw_ok first

theorem Serves.storable {allIds : IdSet (ids (buildTasks preset))} (serves : Serves preset allIds) :
    Storable preset := by
  obtain ⟨tasks, begun, runs⟩ := serves
  obtain ⟨-, ⟨agents, texts⟩, rfl⟩ := startRun_ok.mp begun
  obtain ⟨run, s, ran, -⟩ := runs steady (steady_smooth _)
  obtain ⟨_, s₁, saved, -⟩ := bind_ok.mp ran
  exact ⟨agents, texts, fun task member => saves_named saved _ (List.mem_map_of_mem member)⟩

theorem Serves.asksOthers {allIds : IdSet (ids (buildTasks preset))} (serves : Serves preset allIds)
    (inspected : Inspected preset) : AsksOthers preset := by
  have storable := serves.storable
  obtain ⟨tasks, begun, runs⟩ := serves
  obtain ⟨-, -, rfl⟩ := startRun_ok.mp begun
  obtain ⟨run, s, ran, fed⟩ := runs steady (steady_smooth _)
  rintro taskData member ⟨key, source⟩ listed (rfl : source = taskData.id)
  obtain ⟨run', s', ran', given⟩ := inspected.runs storable allIds (steady_smooth _)
  obtain ⟨rfl, rfl⟩ := EStateM.Result.ok.inj (ran.symm.trans ran')
  have known : buildTask taskData ∈ buildTasks preset := List.mem_map_of_mem member
  obtain ⟨dispatch, present, named, full⟩ := fed _ known
  exact ((given _ known).2 dispatch present named).unfed taskData.distinct listed _ (full _ listed)

def selfishPreset : Preset where
  agents := [{ id := "b" }]
  tasks := [{ id := "a", agentId := "b", inputFrom := [("own", "a")] }]

def selfishIds : IdSet (ids (buildTasks selfishPreset)) :=
  ⟨["a"], fun id => by simp [ids, buildTasks, selfishPreset, buildTask]⟩

theorem selfish_approved : Approved selfishPreset selfishIds := by
  refine ⟨by decide +kernel, fun task key source warned => ?_⟩
  have quiet : (inspectPreset selfishPreset selfishIds).warnings.isEmpty = true := by decide +kernel
  rw [List.isEmpty_iff.mp quiet] at warned
  cases warned

theorem approved_serves_fails :
    ¬ ∀ (preset : Preset) (inspected started : IdSet (ids (buildTasks preset))),
      Approved preset inspected → Serves preset started := by
  intro holds
  have serves := holds selfishPreset selfishIds selfishIds selfish_approved
  exact serves.asksOthers (inspected_of_valid selfish_approved.valid) _ List.mem_cons_self _
    List.mem_cons_self rfl

theorem approved_serves_iff (preset : Preset) (inspected started : IdSet (ids (buildTasks preset)))
    (approved : Approved preset inspected) :
    Serves preset started ↔ Storable preset ∧ AsksOthers preset := by
  have sound := inspected_of_valid approved.valid
  refine ⟨fun serves => ⟨serves.storable, serves.asksOthers sound⟩, ?_⟩
  rintro ⟨storable, others⟩
  have checked := (validateDag_ok started).mpr ⟨sound.known, sound.acyclic⟩
  refine ⟨_, startRun_ok.mpr ⟨checked, ⟨storable.agents, storable.tasks⟩, rfl⟩, fun host smooth => ?_⟩
  obtain ⟨run, s, ran, given⟩ := sound.runs storable started smooth
  refine ⟨run, s, ran, fun task member => ?_⟩
  obtain ⟨⟨dispatch, present, named⟩, given⟩ := given task member
  refine ⟨dispatch, present, named, fun entry listed => (given dispatch present named).fed listed ?_⟩
  obtain ⟨taskData, known, rfl⟩ := List.mem_map.mp member
  exact upstream_depends sound.distinct (approved.upstream member listed)
    (others taskData known entry listed)

-- The reader is declared before the task that it reads.
def readerPreset : Preset where
  agents := [{ id := "b" }]
  tasks := [{ id := "c", agentId := "b", dependsOn := ["a"], inputFrom := [("news", "a")] },
    { id := "a", agentId := "b" }]

def readerIds : IdSet (ids (buildTasks readerPreset)) :=
  ⟨["c", "a"], fun id => by simp [ids, buildTasks, readerPreset, buildTask]⟩

theorem approved_serves_reader : Serves readerPreset readerIds := by
  have quiet : (inspectPreset readerPreset readerIds).warnings.isEmpty = true := by decide +kernel
  have approved : Approved readerPreset readerIds :=
    ⟨by decide +kernel, fun task key source warned => by
      rw [List.isEmpty_iff.mp quiet] at warned
      cases warned⟩
  exact (approved_serves_iff readerPreset readerIds readerIds approved).mpr
    ⟨⟨by decide +kernel, by decide +kernel, by decide +kernel⟩, by unfold AsksOthers; decide +kernel⟩

end Presets

end SynapseYield.Swarm
