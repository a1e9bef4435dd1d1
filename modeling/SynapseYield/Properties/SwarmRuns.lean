import SynapseYield.Properties.PresetRuns

set_option autoImplicit false

namespace SynapseYield.Swarm

open Shared Shared.Dependency

section Order

variable {tasks : List SwarmTask}

theorem layersOf_of_sorted {layers : List (List PyString)}
    (sorted : topologicalLayers tasks = .ok layers) : LayersOf tasks layers := by
  have distinct : (ids tasks).Nodup := by
    by_contra repeated
    exact layers_of_repeated repeated ⟨layers, sorted⟩
  obtain ⟨last, -, bounded, progress, outcome⟩ :=
    sorted_ends tasks _ (fun _ bounded progress => progress.advance distinct bounded)
      Sorting.Progress.start
  rw [sorted] at outcome
  split at outcome
  next complete =>
    obtain rfl := Except.ok.inj outcome
    refine ⟨?_, fun i layer found a member b depends => ?_⟩
    · have known : last.done ⊆ ids tasks := fun id found =>
        (bounded.spent id (List.mem_append_left _ found)).1
      have sub := List.subperm_of_subset (List.nodup_append.mp bounded.nodup).1 known
      refine sub.perm_of_length_le ?_
      rw [← bounded.processed, complete, ids, List.length_map]
    · exact progress.layered i layer found a member b ((depends_iff distinct).mp depends)
  next => cases outcome

theorem layers_nonempty {layers : List (List PyString)}
    (sorted : topologicalLayers tasks = .ok layers) : ∀ layer ∈ layers, layer ≠ [] := by
  have keeps : ∀ fuel (sorting last : Sorting), (∀ layer ∈ sorting.layers, layer ≠ []) →
      sorting.run (dependents tasks) fuel = .ok last → ∀ layer ∈ last.layers, layer ≠ [] := by
    intro fuel
    induction fuel with
    | zero =>
      intro sorting last _ ran
      cases ran
    | succ fuel ih =>
      intro sorting last filled ran
      rw [Sorting.run] at ran
      split at ran
      next =>
        cases ran
        exact filled
      next waiting =>
        refine ih _ last ?_ ran
        rw [Sorting.advance_eq, (Sorting.foldl_release_layers ..).1]
        intro layer member
        obtain earlier | here := List.mem_append.mp member
        · exact filled layer earlier
        · exact List.mem_singleton.mp here ▸ waiting
  obtain ⟨last, ran, ended⟩ := Outcome.bind_ok.mp sorted
  split at ended
  next =>
    cases ended
    refine keeps _ _ _ (fun layer listed => ?_) ran
    cases listed
  next => cases ended

end Order

section Files

variable {tasks : List SwarmTask} {task file : SwarmTask} {store : TaskStore} {id taskId : PyString}

structure Carries (task file : SwarmTask) : Prop where
  id : file.id = task.id
  agentId : file.agentId = task.agentId
  dependsOn : file.dependsOn = task.dependsOn
  inputFrom : file.inputFrom = task.inputFrom

theorem Carries.unblock (carries : Carries task file) : Carries task (file.unblock taskId) := by
  unfold SwarmTask.unblock
  split
  next => exact ⟨carries.id, carries.agentId, carries.dependsOn, carries.inputFrom⟩
  next => exact carries

theorem unblock_completed_iff :
    (file.unblock taskId).status = .completed ↔ file.status = .completed := by
  unfold SwarmTask.unblock
  split
  next =>
    dsimp only
    split
    next blocked => simp [blocked.2]
    next => rfl
  next => rfl

def CompletedIn (store : TaskStore) (id : PyString) : Prop :=
  ∃ file, store.find? id = some file ∧ file.status = .completed

theorem completedIn_put_self : CompletedIn (store.put file) file.id ↔ file.status = .completed := by
  unfold CompletedIn
  rw [Table.find?_put, if_pos rfl]
  constructor
  · rintro ⟨_, found, completed⟩
    cases found
    exact completed
  · exact fun completed => ⟨file, rfl, completed⟩

theorem completedIn_put_other (other : id ≠ file.id) :
    CompletedIn (store.put file) id ↔ CompletedIn store id := by
  unfold CompletedIn
  rw [Table.find?_put, if_neg other]

theorem completedIn_put (left : ¬ CompletedIn store file.id) (status : file.status ≠ .completed) :
    CompletedIn (store.put file) id ↔ CompletedIn store id := by
  by_cases here : id = file.id
  · subst here
    exact iff_of_false (completedIn_put_self.not.mpr status) left
  · exact completedIn_put_other here

theorem completedIn_resolve :
    CompletedIn (store.resolveDependencies taskId) id ↔ CompletedIn store id := by
  unfold CompletedIn TaskStore.resolveDependencies
  rw [Table.find?_updateWhere]
  constructor
  · rintro ⟨file, found, completed⟩
    obtain ⟨old, there, rfl⟩ := Option.map_eq_some_iff.mp found
    exact ⟨old, there, unblock_completed_iff.mp completed⟩
  · rintro ⟨file, found, completed⟩
    exact ⟨_, Option.map_eq_some_iff.mpr ⟨file, found, rfl⟩, unblock_completed_iff.mpr completed⟩

structure Plan (tasks : List SwarmTask) (store : TaskStore) : Prop where
  carried : ∀ task ∈ tasks, ∃ file, store.find? task.id = some file ∧ Carries task file
  known : ∀ file ∈ store.rows, file.id ∈ ids tasks

theorem Plan.put (plan : Plan tasks store) (distinct : (ids tasks).Nodup) (member : task ∈ tasks)
    (carries : Carries task file) : Plan tasks (store.put file) := by
  refine ⟨fun other listed => ?_, fun row stored => ?_⟩
  · rw [Table.find?_put, carries.id]
    by_cases here : other.id = task.id
    · obtain rfl := List.inj_on_of_nodup_map distinct listed member here
      exact ⟨file, if_pos rfl, carries⟩
    · rw [if_neg here]
      exact plan.carried other listed
  · obtain rfl | before := Table.mem_put stored
    · exact mem_ids.mpr ⟨task, member, carries.id.symm⟩
    · exact plan.known row before

theorem Plan.resolve (plan : Plan tasks store) (taskId : PyString) :
    Plan tasks (store.resolveDependencies taskId) := by
  refine ⟨fun task member => ?_, fun row stored => ?_⟩
  · obtain ⟨file, found, carries⟩ := plan.carried task member
    refine ⟨file.unblock taskId, ?_, carries.unblock⟩
    rw [TaskStore.resolveDependencies, Table.find?_updateWhere, found]
    rfl
  · obtain ⟨old, there, rfl⟩ := (Table.mem_updateWhere ..).mp stored
    have same : (old.unblock taskId).id = old.id := SwarmTask.unblock_id taskId old
    exact same.symm ▸ plan.known old there

theorem saveTask_put {saved : TaskStore} (ok : store.saveTask task = .ok saved) :
    saved = store.put task := by
  unfold TaskStore.saveTask at ok
  split at ok
  next => cases ok
  next =>
    split at ok
    next => cases ok
    next => exact (Except.ok.inj ok).symm

theorem updateStatus_ends {update : SwarmTask → SwarmTask} {s : RunState} {tid : PyString}
    {ok : Unit → RunState → Prop} {raised : RunState → Prop}
    (returns : ∀ file, s.taskStore.find? tid = some file →
      ok () { s with taskStore := s.taskStore.put (update file) }) (raises : raised s) :
    Ends (updateStatus tid update) s ok raised := by
  refine .bind_get ?_
  dsimp only
  cases updated : s.taskStore.updateStatus tid update with
  | error raised => exact .throw raises
  | ok store =>
    obtain ⟨file, loaded, saved⟩ := Outcome.bind_ok.mp updated
    have found : s.taskStore.find? tid = some file := by
      unfold TaskStore.loadTask at loaded
      split at loaded
      next found => rw [found, Except.ok.inj loaded]
      next => cases loaded
    exact .modify (saveTask_put saved ▸ returns file found)

theorem updateStatus_found {update : SwarmTask → SwarmTask} {s : RunState} {tid : PyString}
    {ok : Unit → RunState → Prop} {raised : RunState → Prop}
    (found : s.taskStore.find? tid = some file)
    (returns : ok () { s with taskStore := s.taskStore.put (update file) }) (raises : raised s) :
    Ends (updateStatus tid update) s ok raised := by
  refine updateStatus_ends (fun other there => ?_) raises
  cases found.symm.trans there
  exact returns

end Files

section Runs

variable {tasks : List SwarmTask} {host : Host} {agentIds placed collected : List PyString}
  {task file : SwarmTask} {s s' : RunState} {tid : PyString}

-- Why a worker was started, and what it was told.
structure Justified (host : Host) (agentIds : List PyString) (tasks : List SwarmTask)
    (completed : PyString → Prop) (dispatch : Dispatch) : Prop where
  task : ∃ task ∈ tasks, Carries task dispatch.task
  agent : dispatch.task.agentId ∈ agentIds
  ready : ∀ dep ∈ dispatch.task.dependsOn, completed dep
  told : ∀ entry ∈ dispatch.upstreamSummaries, ∃ source,
    (entry.1, source) ∈ dispatch.task.inputFrom ∧ completed source ∧
      entry.2 = (host.worker source).summary
  fed : ∀ entry ∈ dispatch.task.inputFrom,
    Relation.TransGen (Depends tasks) dispatch.task.id entry.2 →
      (entry.1, (host.worker entry.2).summary) ∈ dispatch.upstreamSummaries

theorem Justified.mono {completed later : PyString → Prop} {dispatch : Dispatch}
    (justified : Justified host agentIds tasks completed dispatch)
    (grows : ∀ id, completed id → later id) : Justified host agentIds tasks later dispatch where
  task := justified.task
  agent := justified.agent
  ready := fun dep listed => grows dep (justified.ready dep listed)
  told := fun entry listed => by
    obtain ⟨source, asked, completed, same⟩ := justified.told entry listed
    exact ⟨source, asked, grows source completed, same⟩
  fed := justified.fed

def InOrder (dispatched : List Dispatch) : Prop :=
  ∀ before dispatch after, dispatched = before ++ dispatch :: after →
    ∀ dep ∈ dispatch.task.dependsOn, dep ∈ before.map (·.task.id)

theorem InOrder.nil : InOrder [] := by
  intro before dispatch after split
  simp at split

theorem InOrder.snoc {dispatched : List Dispatch} (ordered : InOrder dispatched) {last : Dispatch}
    (ready : ∀ dep ∈ last.task.dependsOn, dep ∈ dispatched.map (·.task.id)) :
    InOrder (dispatched ++ [last]) := by
  intro before dispatch after split
  obtain rfl | ⟨tail, final, rfl⟩ := List.eq_nil_or_concat after
  · obtain ⟨rfl, same⟩ := List.append_inj' split rfl
    cases same
    exact ready
  · rw [List.concat_eq_append, ← List.cons_append, ← List.append_assoc] at split
    obtain ⟨rfl, -⟩ := List.append_inj' split rfl
    exact ordered before dispatch tail rfl

structure Sound (host : Host) (agentIds : List PyString) (tasks : List SwarmTask) (s : RunState) :
    Prop where
  plan : Plan tasks s.taskStore
  justified : ∀ dispatch ∈ s.dispatched,
    Justified host agentIds tasks (CompletedIn s.taskStore) dispatch
  once : (s.dispatched.map (·.task.id)).Nodup
  ordered : InOrder s.dispatched
  worked : ∀ id, CompletedIn s.taskStore id → (host.worker id).status = .completed ∧
    ∃ dispatch ∈ s.dispatched, dispatch.task.id = id

theorem Sound.congr (sound : Sound host agentIds tasks s) (plan : Plan tasks s'.taskStore)
    (same : ∀ id, CompletedIn s'.taskStore id ↔ CompletedIn s.taskStore id)
    (dispatched : s'.dispatched = s.dispatched) : Sound host agentIds tasks s' where
  plan := plan
  justified := by
    intro dispatch listed
    exact (sound.justified dispatch (dispatched ▸ listed)).mono fun id => (same id).mpr
  once := dispatched ▸ sound.once
  ordered := dispatched ▸ sound.ordered
  worked := by
    intro id completed
    rw [dispatched]
    exact sound.worked id ((same id).mp completed)

theorem Sound.below (sound : Sound host agentIds tasks s) (distinct : (ids tasks).Nodup)
    {a b : PyString}
    (completed : CompletedIn s.taskStore a) (depends : Relation.TransGen (Depends tasks) a b) :
    CompletedIn s.taskStore b := by
  have step : ∀ a b, CompletedIn s.taskStore a → Depends tasks a b → CompletedIn s.taskStore b := by
    rintro a b completed ⟨task, member, rfl, listed⟩
    obtain ⟨-, dispatch, present, named⟩ := sound.worked _ completed
    obtain ⟨owner, known, carries⟩ := (sound.justified dispatch present).task
    obtain rfl := List.inj_on_of_nodup_map distinct known member (carries.id.symm.trans named)
    exact (sound.justified dispatch present).ready b (carries.dependsOn ▸ listed)
  induction depends with
  | single first => exact step _ _ completed first
  | tail _ last ih => exact step _ _ ih last

structure Halted (host : Host) (agentIds : List PyString) (tasks : List SwarmTask) (s : RunState) :
    Prop where
  sound : Sound host agentIds tasks s
  unfinished : ∃ id ∈ ids tasks, ¬ CompletedIn s.taskStore id

-- placed: the tasks looked at so far; collected: those whose result is booked.
structure Ongoing (host : Host) (agentIds : List PyString) (tasks : List SwarmTask)
    (placed collected : List PyString) (s : RunState) : Prop extends
    Sound host agentIds tasks s where
  placed : ∀ dispatch ∈ s.dispatched, dispatch.task.id ∈ placed
  collected : ∀ id, CompletedIn s.taskStore id → id ∈ collected
  summaries : ∀ id text, s.taskSummaries.lookup id = some text ↔
    CompletedIn s.taskStore id ∧ text = (host.worker id).summary

theorem Ongoing.halts (ongoing : Ongoing host agentIds tasks placed collected s)
    (member : tid ∈ ids tasks) (fresh : tid ∉ collected) : Halted host agentIds tasks s :=
  ⟨ongoing.toSound, tid, member, fun completed => fresh (ongoing.collected tid completed)⟩

structure Quiet (s s' : RunState) : Prop where
  completed : ∀ id, CompletedIn s'.taskStore id ↔ CompletedIn s.taskStore id
  tasks : s'.tasks = s.tasks
  allSucceeded : s'.allSucceeded = s.allSucceeded
  totalInputTokens : s'.totalInputTokens = s.totalInputTokens
  totalOutputTokens : s'.totalOutputTokens = s.totalOutputTokens

theorem Quiet.refl (s : RunState) : Quiet s s := ⟨fun _ => Iff.rfl, rfl, rfl, rfl, rfl⟩

theorem Quiet.trans {s'' : RunState} (first : Quiet s s') (second : Quiet s' s'') :
    Quiet s s'' where
  completed := fun id => (second.completed id).trans (first.completed id)
  tasks := second.tasks.trans first.tasks
  allSucceeded := second.allSucceeded.trans first.allSucceeded
  totalInputTokens := second.totalInputTokens.trans first.totalInputTokens
  totalOutputTokens := second.totalOutputTokens.trans first.totalOutputTokens

-- What a placement says of its task: a result at once is a failure, a future is of a worker.
def Placed (s : RunState) (entry : PyString × Placement) : Prop :=
  (∀ result, entry.2 = .rejected result → result.status ≠ .completed) ∧
    (entry.2 = .submitted → ∃ dispatch ∈ s.dispatched, dispatch.task.id = entry.1)

theorem Ongoing.put (ongoing : Ongoing host agentIds tasks placed collected s)
    (distinct : (ids tasks).Nodup) (member : task ∈ tasks) (carries : Carries task file)
    (left : ¬ CompletedIn s.taskStore task.id) (status : file.status ≠ .completed) :
    Ongoing host agentIds tasks placed collected { s with taskStore := s.taskStore.put file } ∧
      Quiet s { s with taskStore := s.taskStore.put file } := by
  have same : ∀ id, CompletedIn (s.taskStore.put file) id ↔ CompletedIn s.taskStore id := fun _ =>
    completedIn_put (carries.id.symm ▸ left) status
  refine ⟨⟨ongoing.toSound.congr (ongoing.plan.put distinct member carries) same rfl,
    ongoing.placed, fun id completed => ongoing.collected id ((same id).mp completed),
    fun id text => ?_⟩, same, rfl, rfl, rfl, rfl⟩
  exact (ongoing.summaries id text).trans (and_congr_left fun _ => (same id).symm)

theorem Ongoing.dispatch (ongoing : Ongoing host agentIds tasks placed collected s)
    (distinct : (ids tasks).Nodup) (member : task ∈ tasks) (carries : Carries task file)
    (agent : file.agentId ∈ agentIds) (fresh : task.id ∉ placed)
    (ready : ∀ dep ∈ file.dependsOn, CompletedIn s.taskStore dep) :
    Ongoing host agentIds tasks (placed ++ [task.id]) collected
      { s with
        dispatched := s.dispatched ++ [⟨file, upstreamSummaries s.taskSummaries file⟩] } := by
  refine ⟨⟨ongoing.plan, fun dispatch listed => ?_, ?_, ongoing.ordered.snoc fun dep listed => ?_,
    fun id completed => ?_⟩, fun dispatch listed => ?_, ongoing.collected, ongoing.summaries⟩
  · obtain before | here := List.mem_append.mp listed
    · exact ongoing.justified dispatch before
    obtain rfl := List.mem_singleton.mp here
    refine ⟨⟨task, member, carries⟩, agent, ready, fun entry told => ?_,
      fun entry asked depends => ?_⟩
    · obtain ⟨asked, listed, found⟩ := List.mem_filterMap.mp told
      obtain ⟨text, looked, rfl⟩ := Option.map_eq_some_iff.mp found
      obtain ⟨completed, same⟩ := (ongoing.summaries asked.2 text).mp looked
      exact ⟨asked.2, listed, completed, same⟩
    · have completed : CompletedIn s.taskStore entry.2 := by
        obtain ⟨dep, ⟨owner, known, named, listed⟩, onward⟩ :=
          Relation.TransGen.head'_iff.mp depends
        obtain rfl := List.inj_on_of_nodup_map distinct known member (named.trans carries.id)
        have first : CompletedIn s.taskStore dep := ready dep (carries.dependsOn ▸ listed)
        obtain same | onward := Relation.reflTransGen_iff_eq_or_transGen.mp onward
        · exact same ▸ first
        · exact ongoing.toSound.below distinct first onward
      refine List.mem_filterMap.mpr ⟨entry, asked, ?_⟩
      exact Option.map_eq_some_iff.mpr
        ⟨_, (ongoing.summaries entry.2 _).mpr ⟨completed, rfl⟩, rfl⟩
  · rw [List.map_append, List.nodup_append]
    refine ⟨ongoing.once, List.nodup_singleton _, fun a before b here same => ?_⟩
    obtain ⟨dispatch, listed, rfl⟩ := List.mem_map.mp before
    obtain rfl := List.mem_singleton.mp here
    have seen := ongoing.placed dispatch listed
    change dispatch.task.id = file.id at same
    rw [same, carries.id] at seen
    exact fresh seen
  · obtain ⟨-, dispatch, present, rfl⟩ := ongoing.worked dep (ready dep listed)
    exact List.mem_map_of_mem (f := (·.task.id)) present
  · obtain ⟨worked, dispatch, listed, named⟩ := ongoing.worked id completed
    exact ⟨worked, dispatch, List.mem_append_left _ listed, named⟩
  · obtain before | here := List.mem_append.mp listed
    · exact List.mem_append_left _ (ongoing.placed dispatch before)
    · rw [List.mem_singleton.mp here]
      exact List.mem_append_right _ (List.mem_singleton.mpr carries.id)

theorem Ongoing.further (ongoing : Ongoing host agentIds tasks placed collected s)
    (more : List PyString) :
    Ongoing host agentIds tasks (placed ++ more) collected s :=
  { ongoing with
    placed := fun dispatch listed => List.mem_append_left _ (ongoing.placed dispatch listed) }

theorem blockedUpstreams_nil {store : TaskStore} (unblocked : blockedUpstreams store file = []) :
    ∀ dep ∈ file.dependsOn, CompletedIn store dep := by
  intro dep listed
  have passed := List.filterMap_eq_nil_iff.mp unblocked dep listed
  cases found : store.find? dep with
  | none => simp [found] at passed
  | some depTask => exact ⟨depTask, found, by simpa [found] using passed⟩

theorem place_ends (ongoing : Ongoing host agentIds tasks placed collected s)
    (distinct : (ids tasks).Nodup) (member : task ∈ tasks) (fresh : task.id ∉ placed)
    (waiting : task.id ∉ collected) :
    Ends (place host agentIds task.id) s
      (fun placement s' => Ongoing host agentIds tasks (placed ++ [task.id]) collected s' ∧
        Quiet s s' ∧ s.dispatched ⊆ s'.dispatched ∧ Placed s' (task.id, placement))
      (Halted host agentIds tasks) := by
  obtain ⟨file, found, carries⟩ := ongoing.plan.carried task member
  have halted : Halted host agentIds tasks s :=
    ongoing.halts (mem_ids.mpr ⟨task, member, rfl⟩) waiting
  have left : ¬ CompletedIn s.taskStore task.id := fun completed =>
    waiting (ongoing.collected _ completed)
  have loaded : loadTask task.id s = .ok file s := by
    rw [loadTask, bind_of_ok (get_ok.mpr ⟨rfl, rfl⟩), TaskStore.loadTask, found]
    rfl
  refine .bind (fun loaded s' => file = loaded ∧ s = s') (.of_ok loaded ⟨rfl, rfl⟩) ?_
  rintro _ _ ⟨rfl, rfl⟩
  refine .bind_get ?_
  dsimp only
  split
  next blocked =>
    refine .bind (fun _ s' => Ongoing host agentIds tasks placed collected s' ∧
      Quiet s s' ∧ s'.dispatched = s.dispatched) (updateStatus_found found ?_ halted) ?_
    · exact and_assoc.mp ⟨ongoing.put distinct member
        ⟨carries.id, carries.agentId, carries.dependsOn, carries.inputFrom⟩ left
        (by rintro ⟨⟩), rfl⟩
    · rintro _ s' ⟨ongoing, same, dispatched⟩
      refine .pure ⟨ongoing.further _, same, dispatched ▸ List.Subset.refl _, ?_, ?_⟩
      · rintro _ ⟨⟩
      · rintro ⟨⟩
  next free =>
    have ready := blockedUpstreams_nil (not_not.mp free)
    split
    next stranger =>
      refine .pure ⟨ongoing.further _, .refl s, List.Subset.refl _, ?_, ?_⟩
      · rintro _ ⟨⟩ ⟨⟩
      · rintro ⟨⟩
    next agent =>
      have begun : Carries task (file.begin (host.startedAt task.id).val) :=
        ⟨carries.id, carries.agentId, carries.dependsOn, carries.inputFrom⟩
      refine .bind (fun _ s' => s' = { s with
        taskStore := s.taskStore.put (file.begin (host.startedAt task.id).val) })
        (updateStatus_found found rfl halted) ?_
      rintro _ _ rfl
      obtain ⟨ongoing, quiet⟩ := ongoing.put distinct member begun left (by rintro ⟨⟩)
      have kept : ∀ dep ∈ file.dependsOn, CompletedIn
          (s.taskStore.put (file.begin (host.startedAt task.id).val)) dep := fun dep listed =>
        (quiet.completed dep).mpr (ready dep listed)
      refine .bind (fun _ s' => Ongoing host agentIds tasks (placed ++ [task.id]) collected s' ∧
        Quiet s s' ∧
          s'.dispatched = s.dispatched ++ [⟨file, upstreamSummaries s.taskSummaries file⟩])
        (.modify ⟨ongoing.dispatch distinct member carries (not_not.mp agent) fresh kept,
          ⟨quiet.completed, rfl, rfl, rfl, rfl⟩, rfl⟩) ?_
      rintro _ s' ⟨ongoing, same, dispatched⟩
      refine .pure ⟨ongoing, same, dispatched ▸ List.subset_append_left _ _, ?_, fun _ => ?_⟩
      · rintro _ ⟨⟩
      · exact ⟨_, dispatched ▸ List.mem_append_right _ List.mem_cons_self, carries.id⟩

-- The results of a layer, one a task: a completed one is of a worker.
structure Results (host : Host) (layer : List PyString) (s : RunState)
    (results : List (PyString × WorkerResult)) : Prop where
  distinct : (results.map Prod.fst).Nodup
  inside : ∀ entry ∈ results, entry.1 ∈ layer
  worked : ∀ entry ∈ results, entry.2.status = .completed →
    entry.2 = host.worker entry.1 ∧ ∃ dispatch ∈ s.dispatched, dispatch.task.id = entry.1

theorem mem_rejected {entries : List (PyString × Placement)} {entry : PyString × WorkerResult} :
    entry ∈ entries.filterMap rejectedResult ↔ (entry.1, .rejected entry.2) ∈ entries := by
  rw [List.mem_filterMap]
  constructor
  · rintro ⟨⟨tid, placement⟩, listed, told⟩
    cases placement with
    | rejected result =>
      cases told
      exact listed
    | blocked => cases told
    | submitted => cases told
  · exact fun listed => ⟨_, listed, rfl⟩

theorem mem_submitted {entries : List (PyString × Placement)} {tid : PyString} :
    tid ∈ entries.filterMap submittedTask ↔ (tid, .submitted) ∈ entries := by
  rw [List.mem_filterMap]
  constructor
  · rintro ⟨⟨tid, placement⟩, listed, told⟩
    cases placement with
    | submitted =>
      cases told
      exact listed
    | blocked => cases told
    | rejected => cases told
  · exact fun listed => ⟨_, listed, rfl⟩

theorem results_distinct {entries : List (PyString × Placement)}
    (distinct : (entries.map Prod.fst).Nodup) :
    ((entries.filterMap rejectedResult ++
      (host.asCompleted (entries.filterMap submittedTask)).map fun tid =>
        (tid, host.worker tid)).map Prod.fst).Nodup := by
  have apart : entries.Pairwise fun a b => a.1 ≠ b.1 := List.pairwise_map.mp distinct
  have same : ∀ {a b : PyString × Placement}, a ∈ entries → b ∈ entries → a.1 = b.1 → a = b :=
    fun first second => List.inj_on_of_nodup_map distinct first second
  rw [List.map_append, List.map_map]
  have named : (Prod.fst ∘ fun tid => (tid, host.worker tid)) = id := rfl
  rw [named, List.map_id, List.nodup_append]
  refine ⟨List.pairwise_map.mpr (apart.filterMap _ ?_), ?_, ?_⟩
  · intro a b other first found second found'
    obtain ⟨tid, placement⟩ := a
    obtain ⟨tid', placement'⟩ := b
    cases placement with
    | rejected =>
      cases placement' with
      | rejected =>
        cases found
        cases found'
        exact other
      | blocked => cases found'
      | submitted => cases found'
    | blocked => cases found
    | submitted => cases found
  · refine (host.asCompleted_perm _).nodup_iff.mpr (apart.filterMap _ ?_)
    intro a b other first found second found'
    obtain ⟨tid, placement⟩ := a
    obtain ⟨tid', placement'⟩ := b
    cases placement with
    | submitted =>
      cases placement' with
      | submitted =>
        cases found
        cases found'
        exact other
      | blocked => cases found'
      | rejected => cases found'
    | blocked => cases found
    | rejected => cases found
  · intro tid rejected tid' submitted
    rintro rfl
    obtain ⟨⟨tid, result⟩, listed, rfl⟩ := List.mem_map.mp rejected
    have first := mem_rejected.mp listed
    have second := mem_submitted.mp ((host.asCompleted_perm _).mem_iff.mp submitted)
    cases same first second rfl

theorem executeLayer_ends {before rest : List (List PyString)} {layer : List PyString}
    (layers : LayersOf tasks (before ++ layer :: rest)) (distinct : (ids tasks).Nodup)
    (ongoing : Ongoing host agentIds tasks before.flatten before.flatten s) :
    Ends (executeLayer host agentIds layer) s
      (fun results s' => Ongoing host agentIds tasks (before.flatten ++ layer) before.flatten s' ∧
        Quiet s s' ∧ Results host layer s' results)
      (Halted host agentIds tasks) := by
  have once : (before ++ layer :: rest).flatten.Nodup := layers.once.nodup_iff.mpr distinct
  rw [List.flatten_append, List.flatten_cons, ← List.append_assoc] at once
  have once := (List.nodup_append.mp once).1
  unfold executeLayer
  refine .bind (fun entries s' =>
    Ongoing host agentIds tasks (before.flatten ++ layer) before.flatten s' ∧ Quiet s s' ∧
      entries.map Prod.fst = layer ∧ ∀ entry ∈ entries, Placed s' entry) ?_ ?_
  · refine .mapM (I := fun seen entries s' =>
      Ongoing host agentIds tasks (before.flatten ++ seen) before.flatten s' ∧ Quiet s s' ∧
        entries.map Prod.fst = seen ∧ ∀ entry ∈ entries, Placed s' entry) ?_
      ⟨(List.append_nil _).symm ▸ ongoing, .refl s, rfl, nofun⟩
    rintro seen tid after entries s₁ rfl ⟨ongoing, same, listed, placed⟩
    have here : tid ∈ seen ++ tid :: after := by simp
    obtain ⟨task, member, rfl⟩ := layers.taskOf here
    have fresh : task.id ∉ before.flatten ++ seen := by
      rw [← List.append_assoc] at once
      exact fun earlier => (List.nodup_append.mp once).2.2 _ earlier _ List.mem_cons_self rfl
    have waiting : task.id ∉ before.flatten := fun earlier => fresh (List.mem_append_left _ earlier)
    refine .bind _ (place_ends ongoing distinct member fresh waiting) ?_
    rintro placement s₂ ⟨ongoing, later, grown, put⟩
    refine .pure ⟨List.append_assoc .. ▸ ongoing, same.trans later, by simp [listed],
      fun entry found => ?_⟩
    obtain earlier | here := List.mem_append.mp found
    · obtain ⟨rejected, submitted⟩ := placed entry earlier
      refine ⟨rejected, fun sent => ?_⟩
      obtain ⟨dispatch, present, named⟩ := submitted sent
      exact ⟨dispatch, grown present, named⟩
    · exact List.mem_singleton.mp here ▸ put
  · rintro entries s' ⟨ongoing, same, rfl, placed⟩
    have apart : (entries.map Prod.fst).Nodup := (List.nodup_append.mp once).2.1
    have future : ∀ {tid}, tid ∈ host.asCompleted (entries.filterMap submittedTask) →
        (tid, .submitted) ∈ entries := fun listed =>
      mem_submitted.mp ((host.asCompleted_perm _).mem_iff.mp listed)
    refine .pure ⟨ongoing, same, results_distinct apart, fun entry found => ?_,
      fun entry found completed => ?_⟩
    · obtain rejected | ended := List.mem_append.mp found
      · exact List.mem_map_of_mem (f := Prod.fst) (mem_rejected.mp rejected)
      · obtain ⟨tid, listed, rfl⟩ := List.mem_map.mp ended
        exact List.mem_map_of_mem (f := Prod.fst) (future listed)
    · obtain rejected | ended := List.mem_append.mp found
      · exact absurd completed ((placed _ (mem_rejected.mp rejected)).1 _ rfl)
      · obtain ⟨tid, listed, rfl⟩ := List.mem_map.mp ended
        exact ⟨rfl, (placed _ (future listed)).2 rfl⟩

structure Tallied (result : WorkerResult) (s s' : RunState) : Prop where
  tasks : s'.tasks = s.tasks
  allSucceeded : s'.allSucceeded = (s.allSucceeded && decide (result.status = .completed))
  totalInputTokens : s'.totalInputTokens = s.totalInputTokens + result.inputTokens
  totalOutputTokens : s'.totalOutputTokens = s.totalOutputTokens + result.outputTokens

structure Booked (tid : PyString) (result : WorkerResult) (s s' : RunState) : Prop
    extends Tallied result s s' where
  dispatched : s'.dispatched = s.dispatched
  completed : CompletedIn s'.taskStore tid ↔ result.status = .completed
  others : ∀ id, id ≠ tid → (CompletedIn s'.taskStore id ↔ CompletedIn s.taskStore id)

theorem collect_ends {result : WorkerResult}
    (ongoing : Ongoing host agentIds tasks placed collected s) (distinct : (ids tasks).Nodup)
    (member : task ∈ tasks) (fresh : task.id ∉ collected)
    (worked : result.status = .completed → result = host.worker task.id ∧
      ∃ dispatch ∈ s.dispatched, dispatch.task.id = task.id) :
    Ends (collect host task.id result) s
      (fun _ s' => Ongoing host agentIds tasks placed (collected ++ [task.id]) s' ∧
        Booked task.id result s s')
      (Halted host agentIds tasks) := by
  obtain ⟨file, found, carries⟩ := ongoing.plan.carried task member
  have left : ¬ CompletedIn s.taskStore task.id := fun completed =>
    fresh (ongoing.collected _ completed)
  have halts : ∀ s₁ : RunState, s₁.taskStore = s.taskStore → s₁.dispatched = s.dispatched →
      Halted host agentIds tasks s₁ := fun s₁ store dispatched =>
    ⟨ongoing.toSound.congr (store ▸ ongoing.plan) (fun _ => store ▸ Iff.rfl) dispatched,
      task.id, mem_ids.mpr ⟨task, member, rfl⟩, store ▸ left⟩
  unfold collect
  refine .bind (fun _ s₁ => s₁ = { s with
    totalInputTokens := s.totalInputTokens + result.inputTokens
    totalOutputTokens := s.totalOutputTokens + result.outputTokens }) (.modify rfl) ?_
  rintro _ _ rfl
  split
  next completed =>
    obtain ⟨rfl, dispatch, present, named⟩ := worked completed
    have marked :
        Carries task (file.complete (host.worker task.id) (host.completedAt task.id).val) :=
      ⟨carries.id, carries.agentId, carries.dependsOn, carries.inputFrom⟩
    refine .bind (fun _ s₁ => s₁.taskStore = s.taskStore ∧ s₁.dispatched = s.dispatched ∧
      s₁.taskSummaries = setSummary task.id (host.worker task.id).summary s.taskSummaries ∧
      Tallied (host.worker task.id) s s₁) (.modify ⟨rfl, rfl, rfl, rfl, ?_, rfl, rfl⟩) ?_
    · simp [completed]
    rintro _ s₁ ⟨store, dispatched, summaries, tallied⟩
    refine .bind (fun _ s₂ => s₂ = { s₁ with
      taskStore := s.taskStore.put
        (file.complete (host.worker task.id) (host.completedAt task.id).val) })
      (updateStatus_found (store ▸ found) (store ▸ rfl) (halts s₁ store dispatched)) ?_
    rintro _ _ rfl
    have ends : ∀ id, CompletedIn (TaskStore.resolveDependencies (s.taskStore.put
        (file.complete (host.worker task.id) (host.completedAt task.id).val)) task.id) id ↔
          id = task.id ∨ CompletedIn s.taskStore id := by
      intro id
      rw [completedIn_resolve]
      by_cases here : id = task.id
      · have self : CompletedIn (s.taskStore.put (file.complete (host.worker task.id)
            (host.completedAt task.id).val)) _ := completedIn_put_self.mpr rfl
        rw [marked.id] at self
        exact iff_of_true (here ▸ self) (.inl here)
      · rw [completedIn_put_other (fun same => here (same.trans marked.id))]
        exact (or_iff_right here).symm
    refine .modify ⟨⟨⟨(ongoing.plan.put distinct member marked).resolve _,
      fun dispatch listed => ?_, dispatched ▸ ongoing.once, dispatched ▸ ongoing.ordered,
      fun id ended => ?_⟩, ?_, fun id ended => ?_, fun id text => ?_⟩,
      ⟨tallied.tasks, tallied.allSucceeded, tallied.totalInputTokens, tallied.totalOutputTokens⟩,
      dispatched, iff_of_true ((ends _).mpr (.inl rfl)) completed,
      fun id other => (ends id).trans (or_iff_right other)⟩
    · exact (ongoing.justified dispatch (dispatched ▸ listed)).mono fun id ended =>
        (ends id).mpr (.inr ended)
    · obtain rfl | before := (ends id).mp ended
      · exact ⟨completed, dispatch, dispatched ▸ present, named⟩
      · rw [dispatched]
        exact ongoing.worked id before
    · rw [dispatched]
      exact ongoing.placed
    · obtain rfl | before := (ends id).mp ended
      · simp
      · exact List.mem_append_left _ (ongoing.collected id before)
    · rw [ends]
      change s₁.taskSummaries.lookup id = some text ↔ _
      rw [summaries, lookup_setSummary]
      by_cases here : id = task.id
      · subst here
        rw [if_pos rfl]
        exact ⟨fun same => ⟨.inl rfl, (Option.some.inj same).symm⟩, fun both => both.2 ▸ rfl⟩
      · rw [if_neg here, ongoing.summaries, or_iff_right here]
  next failed =>
    refine .bind (fun _ s₁ => s₁.taskStore = s.taskStore ∧ s₁.dispatched = s.dispatched ∧
      s₁.taskSummaries = s.taskSummaries ∧ Tallied result s s₁)
      (.modify ⟨rfl, rfl, rfl, rfl, ?_, rfl, rfl⟩) ?_
    · simp [failed]
    rintro _ s₁ ⟨store, dispatched, summaries, tallied⟩
    refine updateStatus_found (store ▸ found) ?_ (halts s₁ store dispatched)
    rw [store]
    have marked : Carries task { file with
        status := .failed
        error := some (failureText host result)
        completedAt := some (host.completedAt task.id).val
        workerIterations := result.iterations } :=
      ⟨carries.id, carries.agentId, carries.dependsOn, carries.inputFrom⟩
    obtain ⟨put, quiet⟩ := ongoing.put distinct member marked left nofun
    exact ⟨⟨put.toSound.congr put.plan (fun _ => Iff.rfl) dispatched, dispatched ▸ put.placed,
      fun id ended => List.mem_append_left _ (put.collected id ended), summaries ▸ put.summaries⟩,
      ⟨tallied.tasks, tallied.allSucceeded, tallied.totalInputTokens, tallied.totalOutputTokens⟩,
      dispatched, iff_of_false ((quiet.completed _).not.mpr left) failed,
      fun id _ => quiet.completed id⟩

theorem cancelRemainingTasks_ends (ongoing : Ongoing host agentIds tasks placed collected s)
    (distinct : (ids tasks).Nodup)
    (synced : ∀ task ∈ s.tasks, CompletedIn s.taskStore task.id → task.status = .completed) :
    Ends cancelRemainingTasks s
      (fun _ s' => Ongoing host agentIds tasks placed collected s' ∧ Quiet s s')
      (Halted host agentIds tasks) := by
  refine .bind_get (.forM (I := fun _ s' => Ongoing host agentIds tasks placed collected s' ∧
    Quiet s s') ?_ ⟨ongoing, .refl s⟩)
  rintro before task after s₁ listed ⟨ongoing, quiet⟩
  split
  next => exact .pure ⟨ongoing, quiet⟩
  next left =>
    have listed : task ∈ s.tasks := listed ▸ by simp
    have unfinished : ¬ CompletedIn s₁.taskStore task.id := fun completed =>
      left (.inl (synced task listed ((quiet.completed _).mp completed)))
    refine .tryCatch (fun s' => s' = s₁) (updateStatus_ends (fun file found => ?_) rfl) ?_
    · have stored := ongoing.plan.known file (Table.find?_mem found)
      obtain ⟨owner, member, same⟩ := mem_ids.mp stored
      obtain ⟨copy, there, carries⟩ := ongoing.plan.carried owner member
      rw [same, Table.find?_key found, found] at there
      cases there
      have here : owner.id = task.id := same.trans (Table.find?_key found)
      exact And.imp_right quiet.trans (ongoing.put distinct member
        ⟨carries.id, carries.agentId, carries.dependsOn, carries.inputFrom⟩
        (here ▸ unfinished) nofun)
    · rintro _ _ rfl
      exact .pure ⟨ongoing, quiet⟩

def inputTokensOf (host : Host) (taskIds : List PyString) : Nat :=
  (taskIds.map fun id => (host.worker id).inputTokens).sum

def outputTokensOf (host : Host) (taskIds : List PyString) : Nat :=
  (taskIds.map fun id => (host.worker id).outputTokens).sum

structure Tally (host : Host) (seen : List PyString) (s : RunState) : Prop where
  succeeded : s.allSucceeded = true ↔ ∀ id ∈ seen, CompletedIn s.taskStore id
  tokens : s.allSucceeded = true → s.totalInputTokens = inputTokensOf host seen ∧
    s.totalOutputTokens = outputTokensOf host seen

structure Boundary (host : Host) (agentIds : List PyString) (tasks : List SwarmTask)
    (seen : List PyString) (s : RunState) : Prop
    extends Ongoing host agentIds tasks seen seen s, Tally host seen s where
  synced : ∀ task ∈ s.tasks, CompletedIn s.taskStore task.id → task.status = .completed

structure Over (host : Host) (agentIds : List PyString) (tasks : List SwarmTask) (s : RunState) :
    Prop extends Sound host agentIds tasks s, Tally host (ids tasks) s

theorem Halted.over (halted : Halted host agentIds tasks s) :
    Over host agentIds tasks { s with allSucceeded := false } := by
  refine ⟨halted.sound.congr halted.sound.plan (fun _ => Iff.rfl) rfl, ?_, nofun⟩
  obtain ⟨id, member, left⟩ := halted.unfinished
  exact iff_of_false nofun fun all => left (all id member)

theorem Results.sum {layer : List PyString} {results : List (PyString × WorkerResult)}
    (found : Results host layer s results) (all : layer ⊆ results.map Prod.fst)
    (once : layer.Nodup) (completed : ∀ entry ∈ results, entry.2.status = .completed)
    (tokens : WorkerResult → Nat) :
    (results.map fun entry => tokens entry.2).sum =
      (layer.map fun id => tokens (host.worker id)).sum := by
  have perm : (results.map Prod.fst).Perm layer :=
    (List.perm_ext_iff_of_nodup found.distinct once).mpr fun id =>
      ⟨fun listed => by
        obtain ⟨entry, member, rfl⟩ := List.mem_map.mp listed
        exact found.inside entry member, fun member => all member⟩
  rw [← (perm.map _).sum_eq, List.map_map]
  refine congrArg List.sum (List.map_congr_left fun entry member => ?_)
  exact congrArg tokens (found.worked entry member (completed entry member)).1

structure Booking (host : Host) (agentIds : List PyString) (tasks : List SwarmTask)
    (placed collected : List PyString) (s : RunState) (seen : List (PyString × WorkerResult))
    (s' : RunState) : Prop
    extends Ongoing host agentIds tasks placed (collected ++ seen.map Prod.fst) s' where
  dispatched : s'.dispatched = s.dispatched
  allSucceeded : s'.allSucceeded =
    (s.allSucceeded && seen.all fun entry => decide (entry.2.status = .completed))
  totalInputTokens : s'.totalInputTokens =
    s.totalInputTokens + (seen.map fun entry => entry.2.inputTokens).sum
  totalOutputTokens : s'.totalOutputTokens =
    s.totalOutputTokens + (seen.map fun entry => entry.2.outputTokens).sum
  completed : ∀ entry ∈ seen, CompletedIn s'.taskStore entry.1 ↔ entry.2.status = .completed
  others : ∀ id, id ∉ seen.map Prod.fst → (CompletedIn s'.taskStore id ↔ CompletedIn s.taskStore id)

theorem Booking.snoc {seen : List (PyString × WorkerResult)} {entry : PyString × WorkerResult}
    {s'' : RunState} (booking : Booking host agentIds tasks placed collected s seen s')
    (fresh : entry.1 ∉ seen.map Prod.fst)
    (ongoing : Ongoing host agentIds tasks placed (collected ++ seen.map Prod.fst ++ [entry.1]) s'')
    (booked : Booked entry.1 entry.2 s' s'') :
    Booking host agentIds tasks placed collected s (seen ++ [entry]) s'' where
  toOngoing := by rwa [List.map_append, ← List.append_assoc]
  dispatched := booked.dispatched.trans booking.dispatched
  allSucceeded := by
    rw [booked.allSucceeded, booking.allSucceeded, List.all_append]
    simp [Bool.and_assoc]
  totalInputTokens := by
    rw [booked.totalInputTokens, booking.totalInputTokens]
    simp [Nat.add_assoc]
  totalOutputTokens := by
    rw [booked.totalOutputTokens, booking.totalOutputTokens]
    simp [Nat.add_assoc]
  completed := by
    intro other member
    obtain before | here := List.mem_append.mp member
    · have apart : other.1 ≠ entry.1 := fun same =>
        fresh (same ▸ List.mem_map_of_mem (f := Prod.fst) before)
      exact (booked.others _ apart).trans (booking.completed other before)
    · obtain rfl := List.mem_singleton.mp here
      exact booked.completed
  others := by
    intro id apart
    rw [List.map_append, List.mem_append, not_or] at apart
    have other : id ≠ entry.1 := fun same => apart.2 (same ▸ List.mem_cons_self)
    exact (booked.others id other).trans (booking.others id apart.1)

theorem collects_end {before rest : List (List PyString)} {layer : List PyString}
    {results : List (PyString × WorkerResult)}
    (layers : LayersOf tasks (before ++ layer :: rest)) (distinct : (ids tasks).Nodup)
    (ongoing : Ongoing host agentIds tasks (before.flatten ++ layer) before.flatten s)
    (found : Results host layer s results) :
    Ends (results.forM fun (tid, result) => collect host tid result) s
      (fun _ s' =>
        Booking host agentIds tasks (before.flatten ++ layer) before.flatten s results s')
      (Halted host agentIds tasks) := by
  have once : (before ++ layer :: rest).flatten.Nodup := layers.once.nodup_iff.mpr distinct
  rw [List.flatten_append, List.flatten_cons, ← List.append_assoc] at once
  have apart := (List.nodup_append.mp (List.nodup_append.mp once).1).2.2
  refine .forM (I := Booking host agentIds tasks (before.flatten ++ layer) before.flatten s) ?_
    ⟨(List.append_nil _).symm ▸ ongoing, rfl, by simp, rfl, rfl, nofun, fun _ _ => Iff.rfl⟩
  rintro seen ⟨tid, result⟩ after s₁ listed booking
  have member : (tid, result) ∈ results := listed ▸ by simp
  have here := found.inside _ member
  obtain ⟨task, known, rfl⟩ := layers.taskOf here
  have distinct_results := found.distinct
  rw [listed, List.map_append, List.map_cons] at distinct_results
  have fresh : task.id ∉ seen.map Prod.fst := fun earlier =>
    (List.nodup_append.mp distinct_results).2.2 _ earlier _ List.mem_cons_self rfl
  have left : task.id ∉ before.flatten ++ seen.map Prod.fst := by
    rw [List.mem_append, not_or]
    exact ⟨fun earlier => apart _ earlier _ here rfl, fresh⟩
  have worked : result.status = .completed → result = host.worker task.id ∧
      ∃ dispatch ∈ s₁.dispatched, dispatch.task.id = task.id := by
    rw [booking.dispatched]
    exact found.worked _ member
  exact (collect_ends booking.toOngoing distinct known left worked).mono
    (fun _ _ both => booking.snoc fresh both.1 both.2) fun _ halted => halted

theorem Booking.boundary {before rest : List (List PyString)} {layer : List PyString}
    {results : List (PyString × WorkerResult)} {s₁ s₂ : RunState}
    (layers : LayersOf tasks (before ++ layer :: rest)) (distinct : (ids tasks).Nodup)
    (boundary : Boundary host agentIds tasks before.flatten s) (quiet : Quiet s s₁)
    (found : Results host layer s₁ results)
    (booking : Booking host agentIds tasks (before.flatten ++ layer) before.flatten s₁ results s₂) :
    Boundary host agentIds tasks (before ++ [layer]).flatten { s₂ with
      allSucceeded := s₂.allSucceeded && layer.all (· ∈ results.map Prod.fst)
      tasks := s₂.taskStore.loadAll } := by
  have once : (before ++ layer :: rest).flatten.Nodup := layers.once.nodup_iff.mpr distinct
  rw [List.flatten_append, List.flatten_cons, ← List.append_assoc] at once
  have apart := (List.nodup_append.mp (List.nodup_append.mp once).1).2.2
  have layered := (List.nodup_append.mp (List.nodup_append.mp once).1).2.1
  have flat : (before ++ [layer]).flatten = before.flatten ++ layer := by simp
  have inside : ∀ id ∈ results.map Prod.fst, id ∈ layer := by
    intro id listed
    obtain ⟨entry, member, rfl⟩ := List.mem_map.mp listed
    exact found.inside entry member
  have earlier : ∀ id ∈ before.flatten, CompletedIn s₂.taskStore id ↔ CompletedIn s.taskStore id :=
    fun id member =>
      (booking.others id fun listed => apart id member id (inside id listed) rfl).trans
        (quiet.completed id)
  have succeeded : (s₂.allSucceeded && layer.all (· ∈ results.map Prod.fst)) = true ↔
      s.allSucceeded = true ∧ (∀ entry ∈ results, entry.2.status = .completed) ∧
        layer ⊆ results.map Prod.fst := by
    rw [booking.allSucceeded, quiet.allSucceeded]
    simp [List.subset_def, and_assoc]
  rw [flat]
  refine ⟨⟨⟨booking.plan, booking.justified, booking.once, booking.ordered, booking.worked⟩,
    booking.placed, ?_,
    booking.summaries⟩, ⟨?_, ?_⟩, ?_⟩
  · intro id completed
    obtain before | listed := List.mem_append.mp (booking.collected id completed)
    · exact List.mem_append_left _ before
    · exact List.mem_append_right _ (inside id listed)
  · rw [succeeded, boundary.succeeded]
    constructor
    · rintro ⟨all, completed, covered⟩ id member
      obtain before | here := List.mem_append.mp member
      · exact (earlier id before).mpr (all id before)
      · obtain ⟨entry, listed, rfl⟩ := List.mem_map.mp (covered here)
        exact (booking.completed entry listed).mpr (completed entry listed)
    · intro all
      refine ⟨fun id before => (earlier id before).mp (all id (List.mem_append_left _ before)),
        fun entry listed => ?_, fun id here => ?_⟩
      · exact (booking.completed entry listed).mp
          (all _ (List.mem_append_right _ (found.inside entry listed)))
      · obtain before | listed := List.mem_append.mp
          (booking.collected id (all id (List.mem_append_right _ here)))
        · exact absurd rfl (apart id before id here)
        · exact listed
  · intro all
    obtain ⟨before, completed, covered⟩ := succeeded.mp all
    obtain ⟨input, output⟩ := boundary.tokens before
    have inputs := found.sum covered layered completed (·.inputTokens)
    have outputs := found.sum covered layered completed (·.outputTokens)
    simp only [inputTokensOf, outputTokensOf, List.map_append, List.sum_append] at input output ⊢
    rw [booking.totalInputTokens, booking.totalOutputTokens, quiet.totalInputTokens,
      quiet.totalOutputTokens, inputs, outputs, input, output]
    exact ⟨rfl, rfl⟩
  · intro task listed completed
    have stored : task ∈ s₂.taskStore.rows := List.mem_mergeSort.mp listed
    obtain ⟨file, there, ended⟩ := completed
    cases (Table.find?_of_mem stored).symm.trans there
    exact ended

theorem runLayers_ends {layers : List (List PyString)} (sorted : LayersOf tasks layers)
    (filled : ∀ layer ∈ layers, layer ≠ []) (distinct : (ids tasks).Nodup)
    (boundary : Boundary host agentIds tasks [] s) :
    Ends (runLayers host agentIds 0 layers) s (fun _ s' => Over host agentIds tasks s')
      (Halted host agentIds tasks) := by
  suffices loop : ∀ rest before s layerIdx, layers = before ++ rest →
      Boundary host agentIds tasks before.flatten s →
      Ends (runLayers host agentIds layerIdx rest) s (fun _ s' => Over host agentIds tasks s')
        (Halted host agentIds tasks) from loop layers [] s 0 rfl boundary
  intro rest
  induction rest with
  | nil =>
    intro before s layerIdx split boundary
    rw [List.append_nil] at split
    have all : ∀ id, id ∈ before.flatten ↔ id ∈ ids tasks := fun id => split ▸ sorted.once.mem_iff
    refine .pure ⟨boundary.toSound, ?_, fun succeeded => ?_⟩
    · rw [boundary.succeeded]
      exact forall_congr' fun id => imp_congr_left (all id)
    · obtain ⟨input, output⟩ := boundary.tokens succeeded
      rw [input, output]
      have perm : before.flatten.Perm (ids tasks) := split ▸ sorted.once
      exact ⟨(perm.map _).sum_eq, (perm.map _).sum_eq⟩
  | cons layer rest ih =>
    intro before s layerIdx split boundary
    subst split
    rw [runLayers]
    split
    next =>
      refine .bind _ (cancelRemainingTasks_ends boundary.toOngoing distinct boundary.synced) ?_
      rintro _ s₁ ⟨ongoing, quiet⟩
      obtain ⟨tid, here⟩ := List.exists_mem_of_ne_nil _ (filled layer (by simp))
      have once : (before ++ layer :: rest).flatten.Nodup := sorted.once.nodup_iff.mpr distinct
      rw [List.flatten_append, List.flatten_cons] at once
      have fresh : tid ∉ before.flatten := fun earlier =>
        (List.nodup_append.mp once).2.2 _ earlier _ (List.mem_append_left _ here) rfl
      have known : tid ∈ ids tasks := sorted.once.mem_iff.mp (by simp [here])
      exact .modify (ongoing.halts known fresh).over
    next =>
      refine .bind _ (executeLayer_ends sorted distinct boundary.toOngoing) ?_
      rintro results s₁ ⟨ongoing, quiet, found⟩
      refine .bind _ (collects_end sorted distinct ongoing found) fun _ s₂ booking => ?_
      refine .bind (fun _ s₃ => Boundary host agentIds tasks (before ++ [layer]).flatten s₃)
        (.modify (booking.boundary sorted distinct boundary quiet found)) fun _ s₃ boundary => ?_
      exact ih (before ++ [layer]) s₃ (layerIdx + 1) (by simp) boundary

structure Saved (tasks seen : List SwarmTask) (s : RunState) : Prop where
  found : ∀ task ∈ seen, s.taskStore.find? task.id = some task
  stored : ∀ file ∈ s.taskStore.rows, file ∈ tasks
  rest : ∃ store, s = { taskStore := store, tasks }

theorem saves_ends (distinct : (ids tasks).Nodup) :
    Ends (tasks.forM fun task => onStore (·.saveTask task)) { tasks }
      (fun _ s => Saved tasks tasks s) (fun _ => True) := by
  refine .forM (I := Saved tasks) ?_ ⟨nofun, nofun, _, rfl⟩
  rintro seen task after s listed saved
  have member : task ∈ tasks := listed ▸ by simp
  refine .bind_get ?_
  dsimp only
  cases stored : s.taskStore.saveTask task with
  | error raised => exact .throw trivial
  | ok store =>
    have put : store = s.taskStore.put task := saveTask_put stored
    obtain ⟨old, same⟩ := saved.rest
    refine .modify ⟨fun other found => ?_, fun file found => ?_, store, by rw [same]⟩
    · change store.find? other.id = some other
      rw [put, Table.find?_put]
      by_cases here : other.id = task.id
      · have known : other ∈ tasks := by
          obtain earlier | last := List.mem_append.mp found
          · exact listed ▸ List.mem_append_left _ earlier
          · exact List.mem_singleton.mp last ▸ member
        rw [if_pos here, List.inj_on_of_nodup_map distinct known member here]
      · rw [if_neg here]
        obtain earlier | last := List.mem_append.mp found
        · exact saved.found other earlier
        · exact absurd (congrArg SwarmTask.id (List.mem_singleton.mp last)) here
    · change file ∈ store.rows at found
      obtain rfl | before := Table.mem_put (put ▸ found)
      · exact member
      · exact saved.stored file before

theorem Saved.boundary (saved : Saved tasks tasks s)
    (unstarted : ∀ task ∈ tasks, task.status ≠ .completed) :
    Boundary host agentIds tasks [] s := by
  have none : ∀ id, ¬ CompletedIn s.taskStore id := by
    rintro id ⟨file, found, completed⟩
    exact unstarted file (saved.stored file (Table.find?_mem found)) completed
  obtain ⟨store, rfl⟩ := saved.rest
  have plan : Plan tasks store :=
    ⟨fun task member => ⟨task, saved.found task member, rfl, rfl, rfl, rfl⟩, fun file found =>
      mem_ids.mpr ⟨file, saved.stored file found, rfl⟩⟩
  have sound : Sound host agentIds tasks { taskStore := store, tasks } :=
    ⟨plan, nofun, List.nodup_nil, .nil, fun id completed => absurd completed (none id)⟩
  refine ⟨⟨sound, nofun, fun id completed => absurd completed (none id), fun id text => ?_⟩,
    ⟨iff_of_true rfl nofun, fun _ => ⟨rfl, rfl⟩⟩, fun task _ completed => absurd completed (none _)⟩
  exact iff_of_false nofun fun both => none id both.1

theorem executeRun_over {run : FinishedRun} (unstarted : ∀ task ∈ tasks, task.status ≠ .completed)
    (ran : executeRun host agentIds tasks { tasks } = .ok run s) :
    Over host agentIds tasks s ∧ (ids tasks).Nodup ∧
      ∃ layers, topologicalLayers tasks = .ok layers ∧ run = finishRun host layers s := by
  obtain ⟨_, s₁, saves, ran⟩ := bind_ok.mp ran
  cases sorted : topologicalLayers tasks with
  | error raised =>
    rw [sorted] at ran
    exact absurd ran throw_ok
  | ok layers =>
    rw [sorted] at ran
    have plan := layersOf_of_sorted sorted
    have distinct : (ids tasks).Nodup := by
      by_contra repeated
      exact layers_of_repeated repeated ⟨layers, sorted⟩
    have boundary : Boundary host agentIds tasks [] s₁ :=
      ((saves_ends distinct).1 _ _ saves).boundary unstarted
    have ended : Ends (tryCatch (runLayers host agentIds 0 layers) fun _ =>
        modify ({ · with allSucceeded := false }) : RunM PUnit) s₁
        (fun _ s' => Over host agentIds tasks s') (fun _ => False) :=
      .tryCatch _ (runLayers_ends plan (layers_nonempty sorted) distinct boundary)
        fun _ _ halted => .modify halted.over
    obtain ⟨_, s₂, tried, ran⟩ := bind_ok.mp ran
    obtain ⟨_, _, got, ran⟩ := bind_ok.mp ran
    obtain ⟨rfl, rfl⟩ := get_ok.mp got
    obtain ⟨rfl, rfl⟩ := pure_ok.mp ran
    exact ⟨ended.1 _ _ tried, distinct, layers, rfl, rfl⟩

end Runs

section Retries

def inputTokensUpTo (runWorker : Nat → WorkerResult) (made : Nat) : Nat :=
  ((List.range made).map fun attempt => (runWorker attempt).inputTokens).sum

def outputTokensUpTo (runWorker : Nat → WorkerResult) (made : Nat) : Nat :=
  ((List.range made).map fun attempt => (runWorker attempt).outputTokens).sum

-- The attempt that decides: all before it failed, and it did not or was the last one.
structure Decides (runWorker : Nat → WorkerResult) (maxRetries last : Nat) : Prop where
  bound : last ≤ maxRetries
  failed : ∀ attempt < last, (runWorker attempt).status = .failed
  final : (runWorker last).status ≠ .failed ∨ last = maxRetries

theorem runAttempts_spec (runWorker : Nat → WorkerResult) (maxRetries : Nat) :
    ∃ last, Decides runWorker maxRetries last ∧
      runAttempts runWorker (maxRetries + 1) {} =
        { made := last + 1
          inputTokens := inputTokensUpTo runWorker (last + 1)
          outputTokens := outputTokensUpTo runWorker (last + 1)
          result := some (runWorker last) } := by
  suffices loop : ∀ left made, left + made = maxRetries →
      (∀ attempt < made, (runWorker attempt).status = .failed) → ∀ result,
      ∃ last, Decides runWorker maxRetries last ∧
        runAttempts runWorker (left + 1)
          { made
            inputTokens := inputTokensUpTo runWorker made
            outputTokens := outputTokensUpTo runWorker made
            result } =
          { made := last + 1
            inputTokens := inputTokensUpTo runWorker (last + 1)
            outputTokens := outputTokensUpTo runWorker (last + 1)
            result := some (runWorker last) } from loop maxRetries 0 rfl nofun none
  intro left
  induction left with
  | zero =>
    intro made full failed result
    refine ⟨made, ⟨by omega, failed, .inr (by omega)⟩, ?_⟩
    simp [runAttempts, inputTokensUpTo, outputTokensUpTo, List.range_succ]
  | succ left ih =>
    intro made full failed result
    by_cases again : (runWorker made).status = .failed
    · have grown : ∀ attempt < made + 1, (runWorker attempt).status = .failed := by
        intro attempt before
        obtain earlier | rfl := Nat.lt_succ_iff_lt_or_eq.mp before
        · exact failed attempt earlier
        · exact again
      obtain ⟨last, decides, same⟩ := ih (made + 1) (by omega) grown (some (runWorker made))
      refine ⟨last, decides, same ▸ ?_⟩
      rw [runAttempts]
      simp [again, inputTokensUpTo, outputTokensUpTo, List.range_succ]
    · refine ⟨made, ⟨by omega, failed, .inl again⟩, ?_⟩
      rw [runAttempts]
      simp [again, inputTokensUpTo, outputTokensUpTo, List.range_succ]

theorem runWorkerWithRetries_spec (runWorker : Nat → WorkerResult) (maxRetries : Nat) :
    ∃ last, Decides runWorker maxRetries last ∧
      runWorkerWithRetries runWorker maxRetries = some { runWorker last with
        inputTokens := inputTokensUpTo runWorker (last + 1)
        outputTokens := outputTokensUpTo runWorker (last + 1) } := by
  obtain ⟨last, decides, same⟩ := runAttempts_spec runWorker maxRetries
  refine ⟨last, decides, ?_⟩
  rw [runWorkerWithRetries, same]
  rfl

end Retries

section Results

variable {tasks : List SwarmTask} {preset : Preset} {allIds : IdSet (ids (buildTasks preset))}
  {host : Host} {run : FinishedRun} {s : RunState}

def FinishedRun.Completed (run : FinishedRun) (id : PyString) : Prop :=
  ∃ task ∈ run.tasks, task.id = id ∧ task.status = .completed

-- A run of a preset that start_run has accepted, as its thread leaves it.
structure Finished (preset : Preset) (allIds : IdSet (ids (buildTasks preset))) (host : Host)
    (tasks : List SwarmTask) (run : FinishedRun) : Prop where
  started : startRun preset allIds = .ok tasks
  ran : ∃ s, executeRun host (preset.agents.map (·.id)) tasks { tasks } = .ok run s

structure Closing (host : Host) (agentIds : List PyString) (tasks : List SwarmTask) (s : RunState)
    (run : FinishedRun) : Prop
    extends Over host agentIds tasks s where
  distinct : (ids tasks).Nodup
  finished : ∃ layers, run = finishRun host layers s

theorem buildTasks_status {task : SwarmTask} (member : task ∈ buildTasks preset) :
    task.status = .pending ∨ task.status = .blocked := by
  obtain ⟨taskData, -, rfl⟩ := List.mem_map.mp member
  by_cases free : taskData.dependsOn = []
  · exact .inl (if_pos free)
  · exact .inr (if_neg free)

theorem closing_of_run (started : startRun preset allIds = .ok tasks)
    (ran : executeRun host (preset.agents.map (·.id)) tasks { tasks } = .ok run s) :
    Closing host (preset.agents.map (·.id)) tasks s run := by
  obtain ⟨-, -, built⟩ := startRun_ok.mp started
  have unstarted : ∀ task ∈ tasks, task.status ≠ .completed := by
    intro task member
    obtain status | status := buildTasks_status (built ▸ member)
    all_goals rw [status]; exact nofun
  obtain ⟨completed, distinct, layers, -, same⟩ := executeRun_over unstarted ran
  exact ⟨completed, distinct, layers, same⟩

theorem Finished.closing (finished : Finished preset allIds host tasks run) :
    ∃ s, Closing host (preset.agents.map (·.id)) tasks s run := by
  obtain ⟨s, ran⟩ := finished.ran
  exact ⟨s, closing_of_run finished.started ran⟩

theorem Closing.completed_iff {agentIds : List PyString}
    (closing : Closing host agentIds tasks s run) (id : PyString) :
    run.Completed id ↔ CompletedIn s.taskStore id := by
  obtain ⟨layers, rfl⟩ := closing.finished
  constructor
  · rintro ⟨task, listed, rfl, completed⟩
    exact ⟨task, Table.find?_of_mem (List.mem_mergeSort.mp listed), completed⟩
  · rintro ⟨file, found, completed⟩
    exact ⟨file, List.mem_mergeSort.mpr (Table.find?_mem found), Table.find?_key found, completed⟩

theorem dispatched_in_order (finished : Finished preset allIds host tasks run) :
    (run.dispatched.map (·.task.id)).Nodup ∧ InOrder run.dispatched ∧
      ∀ dispatch ∈ run.dispatched, dispatch.task.agentId ∈ preset.agents.map (·.id) ∧
        ∃ task ∈ tasks, Carries task dispatch.task := by
  obtain ⟨s, closing⟩ := finished.closing
  obtain ⟨layers, rfl⟩ := closing.finished
  exact ⟨closing.once, closing.ordered, fun dispatch listed =>
    ⟨(closing.justified dispatch listed).agent, (closing.justified dispatch listed).task⟩⟩

def readerRun (host : Host) : Option FinishedRun :=
  answer (executeRun host (readerPreset.agents.map (·.id)) (buildTasks readerPreset)
    { tasks := buildTasks readerPreset })

theorem reader_finished (ran : readerRun host = some run) :
    Finished readerPreset readerIds host (buildTasks readerPreset) run :=
  ⟨by decide +kernel, _, ok_of_answer ran⟩

theorem steady_reader_runs : ∃ run, readerRun steady = some run ∧ run.status = .completed := by
  have ended : (readerRun steady).any (fun run => decide (run.status = .completed)) = true := by
    decide +kernel
  obtain ⟨run, ran, completed⟩ := (Option.any_eq_true ..).mp ended
  exact ⟨run, ran, of_decide_eq_true completed⟩

theorem dispatched_in_order_reader :
    ∃ run, readerRun steady = some run ∧ (run.dispatched.map (·.task.id)).Nodup ∧
      InOrder run.dispatched := by
  obtain ⟨run, ran, -⟩ := steady_reader_runs
  obtain ⟨once, ordered, -⟩ := dispatched_in_order (reader_finished ran)
  exact ⟨run, ran, once, ordered⟩

theorem upstream_told (finished : Finished preset allIds host tasks run) :
    ∀ dispatch ∈ run.dispatched,
      (∀ entry ∈ dispatch.upstreamSummaries, ∃ source,
        (entry.1, source) ∈ dispatch.task.inputFrom ∧ run.Completed source ∧
          entry.2 = (host.worker source).summary) ∧
      ∀ entry ∈ dispatch.task.inputFrom,
        Relation.TransGen (Depends tasks) dispatch.task.id entry.2 →
          (entry.1, (host.worker entry.2).summary) ∈ dispatch.upstreamSummaries := by
  obtain ⟨s, closing⟩ := finished.closing
  intro dispatch listed
  have same := closing.completed_iff
  obtain ⟨layers, rfl⟩ := closing.finished
  have justified := (closing.justified dispatch listed).mono fun id => (same id).mpr
  exact ⟨justified.told, justified.fed⟩

theorem upstream_told_reader :
    ∃ run, readerRun steady = some run ∧ ∀ dispatch ∈ run.dispatched,
      ∀ entry ∈ dispatch.upstreamSummaries, ∃ source,
        (entry.1, source) ∈ dispatch.task.inputFrom ∧ run.Completed source ∧
          entry.2 = .empty := by
  obtain ⟨run, ran, -⟩ := steady_reader_runs
  exact ⟨run, ran, fun dispatch listed => (upstream_told (reader_finished ran) dispatch listed).1⟩

theorem failure_contained (finished : Finished preset allIds host tasks run) {a b : PyString}
    (depends : Relation.TransGen (Depends tasks) a b) (failed : ¬ run.Completed b) :
    ¬ run.Completed a ∧ ∀ dispatch ∈ run.dispatched, dispatch.task.id ≠ a := by
  obtain ⟨s, closing⟩ := finished.closing
  have same := closing.completed_iff
  rw [same] at failed ⊢
  obtain ⟨layers, rfl⟩ := closing.finished
  refine ⟨fun completed => failed (closing.below closing.distinct completed depends), ?_⟩
  rintro dispatch listed rfl
  have justified := closing.justified dispatch listed
  obtain ⟨owner, known, carries⟩ := justified.task
  obtain ⟨dep, ⟨task, member, named, listed⟩, onward⟩ := Relation.TransGen.head'_iff.mp depends
  obtain rfl := List.inj_on_of_nodup_map closing.distinct member known (named.trans carries.id)
  have ready := justified.ready dep (carries.dependsOn ▸ listed)
  obtain rfl | onward := Relation.reflTransGen_iff_eq_or_transGen.mp onward
  · exact failed ready
  · exact failed (closing.below closing.distinct ready onward)

def failing : Host :=
  { steady with worker := fun _ => { status := .failed, summary := .empty } }

theorem failure_contained_reader :
    ∃ run, readerRun failing = some run ∧ ¬ run.Completed "c" ∧
      ∀ dispatch ∈ run.dispatched, dispatch.task.id ≠ "c" := by
  have ended : (readerRun failing).isSome = true := by decide +kernel
  obtain ⟨run, ran⟩ := Option.isSome_iff_exists.mp ended
  have finished := reader_finished ran
  have failed : ¬ run.Completed "a" := by
    obtain ⟨s, closing⟩ := finished.closing
    intro completed
    cases (closing.worked _ ((closing.completed_iff _).mp completed)).1
  have depends : Depends (buildTasks readerPreset) "c" "a" :=
    ⟨_, List.mem_cons_self, rfl, List.mem_cons_self⟩
  exact ⟨run, ran, failure_contained finished (.single depends) failed⟩

theorem Closing.all_completed {agentIds : List PyString}
    (closing : Closing host agentIds tasks s run) :
    (∀ task ∈ run.tasks, task.status = .completed) ↔
      ∀ id ∈ ids tasks, CompletedIn s.taskStore id := by
  obtain ⟨layers, rfl⟩ := closing.finished
  constructor
  · intro all id member
    obtain ⟨task, known, rfl⟩ := mem_ids.mp member
    obtain ⟨file, found, carries⟩ := closing.plan.carried task known
    exact ⟨file, found, all file (List.mem_mergeSort.mpr (Table.find?_mem found))⟩
  · intro all task listed
    have stored : task ∈ s.taskStore.rows := List.mem_mergeSort.mp listed
    obtain ⟨file, found, completed⟩ := all _ (closing.plan.known task stored)
    cases (Table.find?_of_mem stored).symm.trans found
    exact completed

theorem Closing.status {agentIds : List PyString} (closing : Closing host agentIds tasks s run) :
    run.status = if host.cancelledAtEnd then .cancelled
      else if s.allSucceeded then .completed else .failed := by
  obtain ⟨layers, rfl⟩ := closing.finished
  rfl

theorem Closing.status_completed {agentIds : List PyString}
    (closing : Closing host agentIds tasks s run) :
    run.status = .completed ↔
      host.cancelledAtEnd = false ∧ ∀ id ∈ ids tasks, CompletedIn s.taskStore id := by
  rw [closing.status, ← closing.succeeded]
  cases host.cancelledAtEnd with
  | true => simp
  | false => cases s.allSucceeded <;> simp

theorem run_completed_iff (finished : Finished preset allIds host tasks run) :
    run.status = .completed ↔
      host.cancelledAtEnd = false ∧ ∀ task ∈ run.tasks, task.status = .completed := by
  obtain ⟨s, closing⟩ := finished.closing
  rw [closing.all_completed]
  exact closing.status_completed

theorem run_completed_reader :
    ∃ run, readerRun steady = some run ∧ ∀ task ∈ run.tasks, task.status = .completed := by
  obtain ⟨run, ran, completed⟩ := steady_reader_runs
  exact ⟨run, ran, ((run_completed_iff (reader_finished ran)).mp completed).2⟩

def Retried (host : Host) (attempt : PyString → Nat → WorkerResult) (maxRetries : PyString → Nat) :
    Prop :=
  ∀ id, (host.worker id).status = .completed →
    runWorkerWithRetries (attempt id) (maxRetries id) = some (host.worker id)

theorem completed_run_tokens (finished : Finished preset allIds host tasks run)
    {attempt : PyString → Nat → WorkerResult} {maxRetries : PyString → Nat}
    (retried : Retried host attempt maxRetries) (completed : run.status = .completed) :
    ∃ last : PyString → Nat,
      (∀ id ∈ ids tasks, Decides (attempt id) (maxRetries id) (last id) ∧
        (attempt id (last id)).status = .completed) ∧
      run.totalInputTokens =
        ((ids tasks).map fun id => inputTokensUpTo (attempt id) (last id + 1)).sum ∧
      run.totalOutputTokens =
        ((ids tasks).map fun id => outputTokensUpTo (attempt id) (last id + 1)).sum := by
  obtain ⟨s, closing⟩ := finished.closing
  obtain ⟨-, each⟩ := closing.status_completed.mp completed
  choose last decides result using fun id =>
    runWorkerWithRetries_spec (attempt id) (maxRetries id)
  have worked : ∀ id ∈ ids tasks, host.worker id = { attempt id (last id) with
      inputTokens := inputTokensUpTo (attempt id) (last id + 1)
      outputTokens := outputTokensUpTo (attempt id) (last id + 1) } := fun id member =>
    Option.some.inj ((retried id (closing.worked id (each id member)).1).symm.trans (result id))
  obtain ⟨input, output⟩ := closing.tokens (closing.succeeded.mpr each)
  obtain ⟨layers, rfl⟩ := closing.finished
  refine ⟨last, fun id member => ⟨decides id, ?_⟩, input.trans ?_, output.trans ?_⟩
  · have status := (closing.worked id (each id member)).1
    rwa [worked id member] at status
  · exact congrArg List.sum (List.map_congr_left fun id member => by rw [worked id member])
  · exact congrArg List.sum (List.map_congr_left fun id member => by rw [worked id member])

def flaky : Nat → WorkerResult
  | 0 => { status := .failed, summary := .empty, inputTokens := 100, outputTokens := 10 }
  | _ => { status := .completed, summary := .empty, inputTokens := 250, outputTokens := 40 }

def retrying : Host :=
  { steady with worker := fun _ => (runWorkerWithRetries flaky 2).getD (flaky 0) }

theorem flaky_decided {last : Nat} (decides : Decides flaky 2 last)
    (completed : (flaky last).status = .completed) : last = 1 := by
  obtain _ | _ | last := last
  · cases completed
  · rfl
  · cases decides.failed 1 (by omega)

theorem completed_run_tokens_reader :
    ∃ run, readerRun retrying = some run ∧
      run.totalInputTokens = ((ids (buildTasks readerPreset)).map fun _ => 100 + 250).sum ∧
        run.totalOutputTokens = ((ids (buildTasks readerPreset)).map fun _ => 10 + 40).sum := by
  have ended : (readerRun retrying).any (fun run => decide (run.status = .completed)) = true := by
    decide +kernel
  obtain ⟨run, ran, completed⟩ := (Option.any_eq_true ..).mp ended
  have retried : Retried retrying (fun _ => flaky) fun _ => 2 := fun _ _ => rfl
  obtain ⟨last, each, input, output⟩ :=
    completed_run_tokens (reader_finished ran) retried (of_decide_eq_true completed)
  have second : ∀ id ∈ ids (buildTasks readerPreset), last id = 1 := fun id member =>
    flaky_decided (each id member).1 (each id member).2
  refine ⟨run, ran, input.trans ?_, output.trans ?_⟩
  · exact congrArg List.sum (List.map_congr_left fun id member => by rw [second id member]; rfl)
  · exact congrArg List.sum (List.map_congr_left fun id member => by rw [second id member]; rfl)

end Results

end SynapseYield.Swarm
