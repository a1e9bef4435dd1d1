import Mathlib.Data.Finset.Card
import SynapseYield.Shared.Dependency
import SynapseYield.Shared.Outcome
import SynapseYield.Swarm.Dag

set_option autoImplicit false

namespace SynapseYield.Swarm

open Shared Shared.Dependency

def Depends (tasks : List SwarmTask) (a b : PyString) : Prop :=
  ∃ task ∈ tasks, task.id = a ∧ b ∈ task.dependsOn

-- Of the tasks with one id only the last counts.
def Edge (tasks : List SwarmTask) (a b : PyString) : Prop := b ∈ graph tasks a

def Unknown (tasks : List SwarmTask) : Prop :=
  ∃ task ∈ tasks, ∃ dep ∈ task.dependsOn, dep ∉ ids tasks

section Maps

variable {tasks : List SwarmTask}

theorem mem_ids {id : PyString} : id ∈ ids tasks ↔ ∃ task ∈ tasks, task.id = id := List.mem_map

theorem graph_snoc (tasks : List SwarmTask) (task : SwarmTask) :
    graph (tasks ++ [task]) = Function.update (graph tasks) task.id task.dependsOn := by
  simp [graph]

theorem inDegree_eq (tasks : List SwarmTask) (id : PyString) :
    inDegree tasks id = (graph tasks id).length := by
  induction tasks using List.reverseRecOn with
  | nil => rfl
  | append_singleton tasks task ih =>
    rw [graph_snoc]
    simp only [inDegree, List.foldl_append, List.foldl_cons, List.foldl_nil] at ih ⊢
    by_cases same : id = task.id
    · subst same
      simp
    · simp only [Function.update_of_ne same, ih]

theorem edge_depends {a b : PyString} (edge : Edge tasks a b) : Depends tasks a b := by
  induction tasks using List.reverseRecOn with
  | nil => exact absurd edge List.not_mem_nil
  | append_singleton tasks task ih =>
    unfold Edge at edge
    rw [graph_snoc] at edge
    by_cases same : a = task.id
    · subst same
      rw [Function.update_self] at edge
      exact ⟨task, by simp, rfl, edge⟩
    · rw [Function.update_of_ne same] at edge
      obtain ⟨owner, member, named, dep⟩ := ih edge
      exact ⟨owner, List.mem_append_left _ member, named, dep⟩

theorem graph_of_nodup (distinct : (ids tasks).Nodup) {task : SwarmTask} (member : task ∈ tasks) :
    graph tasks task.id = task.dependsOn := by
  induction tasks using List.reverseRecOn with
  | nil => exact absurd member List.not_mem_nil
  | append_singleton tasks last ih =>
    rw [ids, List.map_append, List.nodup_append] at distinct
    obtain ⟨distinct, -, apart⟩ := distinct
    rw [graph_snoc]
    obtain earlier | here := List.mem_append.mp member
    · have other : task.id ≠ last.id :=
        apart task.id (List.mem_map_of_mem earlier) last.id (by simp)
      rw [Function.update_of_ne other, ih distinct earlier]
    · rw [List.mem_singleton.mp here, Function.update_self]

theorem depends_iff (distinct : (ids tasks).Nodup) {a b : PyString} :
    Depends tasks a b ↔ Edge tasks a b := by
  refine ⟨?_, edge_depends⟩
  rintro ⟨task, member, rfl, dep⟩
  unfold Edge
  rwa [graph_of_nodup distinct member]

theorem edge_left {a b : PyString} (edge : Edge tasks a b) : a ∈ ids tasks := by
  obtain ⟨task, member, named, -⟩ := edge_depends edge
  exact mem_ids.mpr ⟨task, member, named⟩

theorem edge_right (known : ¬ Unknown tasks) {a b : PyString} (edge : Edge tasks a b) :
    b ∈ ids tasks := by
  obtain ⟨task, member, -, dep⟩ := edge_depends edge
  by_contra missing
  exact known ⟨task, member, b, dep, missing⟩

end Maps

namespace Search

variable {tasks : List SwarmTask}

-- A black node has nothing below it but nodes that are done.
def Sound (tasks : List SwarmTask) (search : Search) : Prop :=
  ∀ id, search.color id = .black → Founded (Edge tasks) id

structure Keeps (before after : Search) : Prop where
  gray : ∀ id, after.color id = .gray ↔ before.color id = .gray
  black : ∀ id, before.color id = .black → after.color id = .black

theorem Keeps.refl (search : Search) : Keeps search search := ⟨fun _ => .rfl, fun _ => id⟩

theorem Keeps.trans {first second third : Search} (before : Keeps first second)
    (after : Keeps second third) : Keeps first third :=
  ⟨fun id => (after.gray id).trans (before.gray id),
    fun id black => after.black id (before.black id black)⟩

def whites (tasks : List SwarmTask) (search : Search) : Finset PyString :=
  (ids tasks).toFinset.filter fun id => search.color id = .white

theorem Keeps.white {before after : Search} (keeps : Keeps before after) {id : PyString}
    (white : after.color id = .white) : before.color id = .white := by
  cases was : before.color id with
  | white => rfl
  | gray => simp [(keeps.gray id).mpr was] at white
  | black => simp [keeps.black id was] at white

theorem Keeps.whites {before after : Search} (keeps : Keeps before after) :
    after.whites tasks ⊆ before.whites tasks :=
  Finset.monotone_filter_right _ fun _ _ white => keeps.white white

theorem enter_self (search : Search) (node : PyString) : (search.enter node).color node = .gray :=
  Function.update_self ..

theorem enter_other (search : Search) {node id : PyString} (other : id ≠ node) :
    (search.enter node).color id = search.color id :=
  Function.update_of_ne other ..

theorem leave_self (search : Search) (node : PyString) : (search.leave node).color node = .black :=
  Function.update_self ..

theorem leave_other (search : Search) {node id : PyString} (other : id ≠ node) :
    (search.leave node).color id = search.color id :=
  Function.update_of_ne other ..

theorem whites_enter {search : Search} {node : PyString} (member : node ∈ ids tasks)
    (white : search.color node = .white) :
    ((search.enter node).whites tasks).card < (search.whites tasks).card := by
  refine Finset.card_lt_card (Finset.ssubset_iff_exists_cons_subset.mpr ⟨node, ?_, ?_⟩)
  · simp [whites, enter_self]
  · intro id found
    obtain rfl | found := Finset.mem_cons.mp found
    · exact Finset.mem_filter.mpr ⟨List.mem_toFinset.mpr member, white⟩
    · obtain ⟨there, after⟩ := Finset.mem_filter.mp found
      refine Finset.mem_filter.mpr ⟨there, ?_⟩
      by_cases same : id = node
      · exact same ▸ white
      · rwa [enter_other search same] at after

-- Where the outcome is a cycle, the graph has one.
def Found (tasks : List SwarmTask) (before : Search) (done : List PyString) :
    Except DagError Search → Prop
  | .ok after => after.Sound tasks ∧ Keeps before after ∧ ∀ id ∈ done, after.color id = .black
  | .error raised => (∃ path, raised = .cycle path) ∧ Cyclic (Edge tasks)

def Leads (tasks : List SwarmTask) (search : Search) (node : PyString) : Prop :=
  ∀ id, search.color id = .gray → Relation.ReflTransGen (Edge tasks) id node

theorem Found.fold {visit : Search → PyString → Except DagError Search} {before : Search}
    (nodes : List PyString) (sound : before.Sound tasks)
    (visits : ∀ node ∈ nodes, ∀ search, search.Sound tasks → Keeps before search →
      Found tasks search [node] (visit search node)) :
    Found tasks before nodes (nodes.foldlM visit before) := by
  induction nodes generalizing before with
  | nil => exact ⟨sound, .refl before, List.forall_mem_nil _⟩
  | cons node nodes ih =>
    have first := visits node List.mem_cons_self before sound (.refl before)
    rw [List.foldlM_cons]
    cases visited : visit before node with
    | error raised => rwa [visited] at first
    | ok search =>
      rw [visited] at first
      obtain ⟨sound, keeps, done⟩ := first
      have rest := ih sound fun node member later sound after =>
        visits node (List.mem_cons_of_mem _ member) later sound (keeps.trans after)
      change Found tasks before (node :: nodes) (nodes.foldlM visit search)
      cases outcome : nodes.foldlM visit search with
      | error raised => rwa [outcome] at rest
      | ok after =>
        rw [outcome] at rest
        obtain ⟨sound, later, blacks⟩ := rest
        refine ⟨sound, keeps.trans later, List.forall_mem_cons.mpr ⟨?_, blacks⟩⟩
        exact later.black node (done node List.mem_cons_self)

theorem dfs_neighbor {node neighbor : PyString} {entered search : Search}
    {visited : Except DagError Search} (reaches : entered.Leads tasks node)
    (edge : Edge tasks node neighbor) (sound : search.Sound tasks) (keeps : Keeps entered search)
    (visits : search.color neighbor = .white → Found tasks search [neighbor] visited) :
    Found tasks search [neighbor] (match search.color neighbor with
      | .gray =>
        .error (.cycle (search.path.drop (search.path.idxOf neighbor) ++ [neighbor]))
      | .white => visited
      | .black => .ok search) := by
  cases color : search.color neighbor with
  | gray =>
    have back := reaches neighbor ((keeps.gray neighbor).mp color)
    exact ⟨⟨_, rfl⟩, neighbor, .tail' back edge⟩
  | white => exact visits color
  | black => exact ⟨sound, .refl search, List.forall_mem_singleton.mpr color⟩

theorem leave_sound {node : PyString} {searched : Search} (sound : searched.Sound tasks)
    (done : ∀ id ∈ graph tasks node, searched.color id = .black) :
    (searched.leave node).Sound tasks := by
  intro id black
  by_cases same : id = node
  · subst same
    exact Founded.intro fun below edge => sound below (done below edge)
  · exact sound id (leave_other searched same ▸ black)

theorem leave_keeps {node : PyString} {search searched : Search}
    (white : search.color node = .white) (keeps : Keeps (search.enter node) searched) :
    Keeps search (searched.leave node) := by
  refine ⟨fun id => ?_, fun id black => ?_⟩
  · by_cases same : id = node
    · simp [same, leave_self, white]
    · rw [leave_other searched same, keeps.gray, enter_other search same]
  · by_cases same : id = node
    · exact same ▸ leave_self searched node
    · rw [leave_other searched same]
      exact keeps.black id ((enter_other search same).trans black)

theorem Found.leave {node : PyString} {search : Search} {outcome : Except DagError Search}
    (white : search.color node = .white)
    (below : Found tasks (search.enter node) (graph tasks node) outcome) :
    Found tasks search [node] (do let searched ← outcome; .ok (searched.leave node)) := by
  cases outcome with
  | error raised => exact below
  | ok searched =>
    obtain ⟨sound, keeps, done⟩ := below
    exact ⟨leave_sound sound done, leave_keeps white keeps,
      List.forall_mem_singleton.mpr (leave_self searched node)⟩

theorem dfs_found (known : ¬ Unknown tasks) (fuel : Nat) {node : PyString} {search : Search}
    (member : node ∈ ids tasks) (white : search.color node = .white) (sound : search.Sound tasks)
    (leads : search.Leads tasks node) (enough : (search.whites tasks).card ≤ fuel) :
    Found tasks search [node] (dfs (graph tasks) fuel node search) := by
  induction fuel generalizing node search with
  | zero =>
    have fewer := whites_enter member white
    omega
  | succ fuel ih =>
    have fewer := whites_enter member white
    have entered : (search.enter node).Sound tasks := by
      intro id black
      by_cases same : id = node
      · simp [same, enter_self] at black
      · exact sound id (enter_other search same ▸ black)
    have reaches : (search.enter node).Leads tasks node := by
      intro id gray
      by_cases same : id = node
      · exact same ▸ .refl
      · exact leads id (enter_other search same ▸ gray)
    have below := Found.fold (graph tasks node) entered fun neighbor edge later sound keeps =>
      dfs_neighbor reaches edge sound keeps fun white =>
        ih (edge_right known edge) white sound
          (fun id gray => (reaches id ((keeps.gray id).mp gray)).tail edge)
          ((Finset.card_le_card keeps.whites).trans (by omega))
    rw [dfs]
    exact below.leave white

theorem searchFrom_found (known : ¬ Unknown tasks) {fuel : Nat} {tid : PyString}
    {before search : Search} (member : tid ∈ ids tasks) (fresh : ∀ id, before.color id ≠ .gray)
    (sound : search.Sound tasks) (keeps : Keeps before search)
    (enough : (ids tasks).toFinset.card ≤ fuel) :
    Found tasks search [tid] (searchFrom (graph tasks) fuel search tid) := by
  have closed : ∀ id, search.color id ≠ .gray := fun id gray => fresh id ((keeps.gray id).mp gray)
  unfold searchFrom
  cases color : search.color tid with
  | gray => exact absurd color (closed tid)
  | black => exact ⟨sound, .refl search, List.forall_mem_singleton.mpr color⟩
  | white =>
    exact dfs_found known fuel member color sound (fun id gray => absurd gray (closed id))
      ((Finset.card_le_card (Finset.filter_subset ..)).trans enough)

end Search

section Validation

variable {tasks : List SwarmTask}

theorem checkKnown_ok : tasks.forM (checkKnown (ids tasks)) = .ok () ↔ ¬ Unknown tasks := by
  simp only [Outcome.forM_ok, checkKnown, Unknown]
  constructor
  · rintro checked ⟨task, member, dep, depends, missing⟩
    have found := checked task member dep depends
    rw [if_neg missing] at found
    cases found
  · intro known task member dep depends
    rw [if_pos]
    by_contra missing
    exact known ⟨task, member, dep, depends, missing⟩

theorem search_found (known : ¬ Unknown tasks) (allIds : IdSet (ids tasks)) :
    Search.Found tasks ⟨fun _ => .white, []⟩ allIds.items
      (allIds.items.foldlM (searchFrom (graph tasks) tasks.length) ⟨fun _ => .white, []⟩) := by
  refine Search.Found.fold _ (fun id black => by cases black) fun tid member search sound keeps => ?_
  refine Search.searchFrom_found known ((allIds.mem_items tid).mp member)
    (fun id gray => by cases gray) sound keeps ?_
  exact (List.toFinset_card_le _).trans_eq (List.length_map _)

theorem validateDag_found (allIds : IdSet (ids tasks)) (known : ¬ Unknown tasks) :
    (validateDag tasks allIds = .ok () ∧ ∀ id ∈ ids tasks, Founded (Edge tasks) id) ∨
      (validateDag tasks allIds ≠ .ok () ∧ Cyclic (Edge tasks)) := by
  have found := search_found known allIds
  rw [validateDag, checkKnown_ok.mpr known]
  cases ran : allIds.items.foldlM (searchFrom (graph tasks) tasks.length) ⟨fun _ => .white, []⟩ with
  | ok search =>
    rw [ran] at found
    obtain ⟨sound, -, done⟩ := found
    exact .inl ⟨rfl, fun id member => sound id (done id ((allIds.mem_items id).mpr member))⟩
  | error raised =>
    rw [ran] at found
    exact .inr ⟨fun impossible => (by cases impossible), found.2⟩

theorem validateDag_ok (allIds : IdSet (ids tasks)) :
    validateDag tasks allIds = .ok () ↔ ¬ Unknown tasks ∧ ¬ Cyclic (Edge tasks) := by
  constructor
  · intro validated
    have known : ¬ Unknown tasks := by
      obtain ⟨_, checked, -⟩ := Outcome.bind_ok.mp validated
      exact checkKnown_ok.mp checked
    refine ⟨known, not_cyclic fun id => ?_⟩
    obtain ⟨-, founded⟩ | ⟨failed, -⟩ := validateDag_found allIds known
    · by_cases member : id ∈ ids tasks
      · exact founded id member
      · exact Founded.intro fun below edge => absurd (edge_left edge) member
    · exact absurd validated failed
  · rintro ⟨known, acyclic⟩
    obtain ⟨validated, -⟩ | ⟨-, cyclic⟩ := validateDag_found allIds known
    · exact validated
    · exact absurd cyclic acyclic

theorem founded_of_acyclic (allIds : IdSet (ids tasks)) (known : ¬ Unknown tasks)
    (acyclic : ¬ Cyclic (Edge tasks)) : ∀ id ∈ ids tasks, Founded (Edge tasks) id := by
  obtain ⟨-, founded⟩ | ⟨-, cyclic⟩ := validateDag_found allIds known
  · exact founded
  · exact absurd cyclic acyclic

end Validation

section Degrees

variable {tasks : List SwarmTask}

theorem graph_missing {id : PyString} (missing : id ∉ ids tasks) : graph tasks id = [] :=
  List.eq_nil_iff_forall_not_mem.mpr fun _ edge => missing (edge_left edge)

theorem count_enqueue (deps : List PyString) (id x dep : PyString)
    (before : PyString → List PyString) :
    ((deps.foldl (fun dependents dep => Function.update dependents dep (dependents dep ++ [id]))
      before) dep).count x = (before dep).count x + if id = x then deps.count dep else 0 := by
  induction deps generalizing before with
  | nil => simp
  | cons first deps ih =>
    rw [List.foldl_cons, ih, List.count_cons]
    by_cases same : dep = first
    · subst same
      rw [Function.update_self, List.count_append, List.count_singleton]
      by_cases named : id = x
      · simp only [named, beq_self_eq_true, if_true]
        omega
      · simp [named]
    · rw [Function.update_of_ne same]
      simp [Ne.symm same]

theorem count_dependents_snoc (tasks : List SwarmTask) (task : SwarmTask) (x dep : PyString) :
    (dependents (tasks ++ [task]) dep).count x =
      (dependents tasks dep).count x + if task.id = x then task.dependsOn.count dep else 0 := by
  unfold dependents
  rw [List.foldl_append]
  exact count_enqueue ..

theorem dependents_ids {dep x : PyString} (member : x ∈ dependents tasks dep) : x ∈ ids tasks := by
  induction tasks using List.reverseRecOn with
  | nil => exact absurd member List.not_mem_nil
  | append_singleton tasks task ih =>
    rw [← List.count_pos_iff, count_dependents_snoc] at member
    rw [ids, List.map_append, List.mem_append]
    by_cases same : task.id = x
    · exact .inr (List.mem_singleton.mpr same.symm)
    · rw [if_neg same, Nat.add_zero, List.count_pos_iff] at member
      exact .inl (ih member)

theorem count_dependents (distinct : (ids tasks).Nodup) (dep x : PyString) :
    (dependents tasks dep).count x = (graph tasks x).count dep := by
  induction tasks using List.reverseRecOn with
  | nil => rfl
  | append_singleton tasks task ih =>
    rw [ids, List.map_append, List.nodup_append] at distinct
    obtain ⟨distinct, -, apart⟩ := distinct
    rw [count_dependents_snoc, ih distinct, graph_snoc]
    by_cases same : task.id = x
    · subst same
      have missing : task.id ∉ ids tasks := fun member => apart _ member task.id (by simp) rfl
      rw [graph_missing missing, Function.update_self, if_pos rfl, List.count_nil, Nat.zero_add]
    · rw [Function.update_of_ne (Ne.symm same), if_neg same, Nat.add_zero]

theorem countP_cons {id : PyString} {done : List PyString} (missing : id ∉ done)
    (deps : List PyString) :
    deps.countP (· ∈ id :: done) = deps.count id + deps.countP (· ∈ done) := by
  induction deps with
  | nil => rfl
  | cons dep deps ih =>
    rw [List.countP_cons, List.countP_cons, List.count_cons, ih]
    by_cases same : dep = id
    · subst same
      simp only [beq_self_eq_true, missing, List.mem_cons, true_or, decide_true, decide_false]
      simp only [if_true, Bool.false_eq_true, if_false]
      omega
    · simp only [beq_iff_eq, same, List.mem_cons, false_or, if_false]
      omega

theorem sum_count {done : List PyString} (distinct : done.Nodup) (deps : List PyString) :
    (done.map deps.count).sum = deps.countP (· ∈ done) := by
  induction done with
  | nil => simp
  | cons id done ih =>
    obtain ⟨missing, distinct⟩ := List.nodup_cons.mp distinct
    rw [List.map_cons, List.sum_cons, ih distinct, countP_cons missing]

end Degrees

namespace Sorting

variable {tasks : List SwarmTask}

def done (sorting : Sorting) : List PyString := sorting.layers.flatten

-- With or without repeated ids: an id is queued once, when its degree comes down to zero.
structure Bounded (tasks : List SwarmTask) (sorting : Sorting) : Prop where
  nodup : (sorting.done ++ sorting.queue).Nodup
  spent : ∀ id ∈ sorting.done ++ sorting.queue, id ∈ ids tasks ∧ sorting.inDegree id ≤ 0
  processed : sorting.processed = sorting.done.length

theorem take_done (sorting : Sorting) : sorting.take.done = sorting.done ++ sorting.queue := by
  simp [done, take]

theorem advance_eq (dependents : PyString → List PyString) (sorting : Sorting) :
    sorting.advance dependents = (sorting.queue.flatMap dependents).foldl release sorting.take :=
  List.foldl_flatMap.symm

theorem foldl_release_layers (released : List PyString) (sorting : Sorting) :
    (released.foldl release sorting).layers = sorting.layers ∧
      (released.foldl release sorting).processed = sorting.processed := by
  induction released generalizing sorting with
  | nil => exact ⟨rfl, rfl⟩
  | cons id released ih => exact ih (sorting.release id)

theorem advance_done (dependents : PyString → List PyString) (sorting : Sorting) :
    (sorting.advance dependents).done = sorting.done ++ sorting.queue := by
  rw [advance_eq, done, (foldl_release_layers ..).1, ← take_done, done]

theorem advance_processed (dependents : PyString → List PyString) (sorting : Sorting) :
    (sorting.advance dependents).processed = sorting.processed + sorting.queue.length := by
  rw [advance_eq, (foldl_release_layers ..).2, take]

theorem Bounded.take {sorting : Sorting} (bounded : sorting.Bounded tasks) :
    sorting.take.Bounded tasks where
  nodup := by simpa [Sorting.take, Sorting.done] using bounded.nodup
  spent := by simpa [Sorting.take, Sorting.done] using bounded.spent
  processed := by rw [take_done, List.length_append, ← bounded.processed, Sorting.take]

theorem Bounded.release {sorting : Sorting} {id : PyString} (bounded : sorting.Bounded tasks)
    (member : id ∈ ids tasks) : (sorting.release id).Bounded tasks := by
  have lower : ∀ other, (sorting.release id).inDegree other ≤ sorting.inDegree other := by
    intro other
    by_cases same : other = id
    · simp [Sorting.release, same]
    · exact le_of_eq (Function.update_of_ne same ..)
  by_cases zero : sorting.inDegree id - 1 = 0
  · have fresh : id ∉ sorting.done ++ sorting.queue := by
      intro queued
      have spent := (bounded.spent id queued).2
      omega
    have queued : (sorting.release id).done ++ (sorting.release id).queue =
        (sorting.done ++ sorting.queue) ++ [id] := by
      simp [Sorting.release, zero, Sorting.done]
    refine ⟨?_, fun other found => ?_, bounded.processed⟩
    · rw [queued]
      exact List.nodup_append.mpr ⟨bounded.nodup, List.nodup_singleton id, fun a before b here =>
        fun same => fresh (List.mem_singleton.mp here ▸ same ▸ before)⟩
    · rw [queued, List.mem_append, List.mem_singleton] at found
      obtain before | rfl := found
      · obtain ⟨known, spent⟩ := bounded.spent other before
        exact ⟨known, (lower other).trans spent⟩
      · exact ⟨member, by simp [Sorting.release, zero]⟩
  · have queued : (sorting.release id).queue = sorting.queue := by
      simp [Sorting.release, zero]
    refine ⟨by rw [queued]; exact bounded.nodup, fun other found => ?_, bounded.processed⟩
    rw [queued] at found
    obtain ⟨known, spent⟩ := bounded.spent other found
    exact ⟨known, (lower other).trans spent⟩

theorem Bounded.advance {sorting : Sorting} (bounded : sorting.Bounded tasks) :
    (sorting.advance (dependents tasks)).Bounded tasks := by
  rw [advance_eq]
  refine List.foldlRecOn _ _ bounded.take fun later bounded id released => ?_
  obtain ⟨dep, -, member⟩ := List.mem_flatMap.mp released
  exact bounded.release (dependents_ids member)

theorem Bounded.start : (start tasks).Bounded tasks where
  nodup := (List.nodup_reverse.mpr (List.nodup_dedup _)).filter _
  spent := by
    intro id found
    obtain ⟨member, zero⟩ := List.mem_filter.mp found
    rw [List.mem_reverse, List.mem_dedup, List.mem_reverse] at member
    exact ⟨member, le_of_eq (of_decide_eq_true zero)⟩
  processed := rfl

theorem Bounded.length_le {sorting : Sorting} (bounded : sorting.Bounded tasks) :
    (sorting.done ++ sorting.queue).length ≤ (ids tasks).toFinset.card := by
  rw [← List.toFinset_card_of_nodup bounded.nodup]
  refine Finset.card_le_card fun id found => ?_
  rw [List.mem_toFinset] at found ⊢
  exact (bounded.spent id found).1

theorem run_reaches {invariant : Sorting → Prop}
    (step : ∀ sorting : Sorting, sorting.Bounded tasks → invariant sorting →
      invariant (sorting.advance (dependents tasks)))
    {fuel : Nat} {sorting : Sorting} (bounded : sorting.Bounded tasks) (holds : invariant sorting)
    (enough : (ids tasks).toFinset.card < fuel + sorting.processed) :
    ∃ sorted, run (dependents tasks) fuel sorting = .ok sorted ∧ sorted.queue = [] ∧
      sorted.Bounded tasks ∧ invariant sorted := by
  induction fuel generalizing sorting with
  | zero =>
    have fits := bounded.length_le
    rw [List.length_append, ← bounded.processed] at fits
    omega
  | succ fuel ih =>
    rw [run]
    split
    next empty => exact ⟨sorting, rfl, empty, bounded, holds⟩
    next waiting =>
      have grows := List.length_pos_iff.mpr waiting
      refine ih bounded.advance (step sorting bounded holds) ?_
      rw [advance_processed]
      omega

-- The degree that is left counts the dependencies that are not released yet.
structure Exact (tasks : List SwarmTask) (released : List PyString) (sorting : Sorting) : Prop where
  degree : ∀ id, sorting.inDegree id = (graph tasks id).length - (released.count id : Int)
  waiting : ∀ id ∈ ids tasks, sorting.inDegree id = 0 → id ∈ sorting.done ++ sorting.queue

theorem Exact.release {released : List PyString} {sorting : Sorting} {id : PyString}
    (exact : sorting.Exact tasks released) : (sorting.release id).Exact tasks (released ++ [id]) := by
  refine ⟨fun other => ?_, fun other member zero => ?_⟩
  · have before := exact.degree other
    rw [List.count_append, List.count_singleton]
    by_cases same : other = id
    · subst same
      simp only [Sorting.release, Function.update_self, beq_self_eq_true, if_true]
      omega
    · simp only [Sorting.release, Function.update_of_ne same, beq_iff_eq, Ne.symm same, if_false]
      omega
  · by_cases same : other = id
    · subst same
      simp only [Sorting.release, Function.update_self] at zero
      simp [Sorting.release, zero]
    · simp only [Sorting.release, Function.update_of_ne same] at zero
      have queued := exact.waiting other member zero
      simp only [Sorting.release, Sorting.done] at queued ⊢
      split
      next => rw [← List.append_assoc]; exact List.mem_append_left _ queued
      next => exact queued

theorem Exact.foldl {released : List PyString} {sorting : Sorting}
    (exact : sorting.Exact tasks released) (more : List PyString) :
    (more.foldl Sorting.release sorting).Exact tasks (released ++ more) := by
  induction more generalizing released sorting with
  | nil => rwa [List.append_nil]
  | cons id more ih =>
    rw [List.append_cons]
    exact ih exact.release

structure Progress (tasks : List SwarmTask) (sorting : Sorting) : Prop where
  exact : sorting.Exact tasks (sorting.done.flatMap (dependents tasks))
  layered : Layered (Edge tasks) sorting.layers

theorem left_degree (distinct : (ids tasks).Nodup) {sorting : Sorting}
    (bounded : sorting.Bounded tasks)
    (exact : sorting.Exact tasks (sorting.done.flatMap (dependents tasks))) (id : PyString) :
    sorting.inDegree id =
      (graph tasks id).length - ((graph tasks id).countP (· ∈ sorting.done) : Int) := by
  rw [exact.degree, ← sum_count (List.nodup_append.mp bounded.nodup).1, List.count_flatMap]
  simp only [Function.comp_def, count_dependents distinct]

theorem Progress.ready (distinct : (ids tasks).Nodup) {sorting : Sorting}
    (bounded : sorting.Bounded tasks) (progress : sorting.Progress tasks) {id : PyString}
    (spent : sorting.inDegree id ≤ 0) {dep : PyString} (edge : Edge tasks id dep) :
    dep ∈ sorting.done := by
  rw [left_degree distinct bounded progress.exact] at spent
  have most := List.countP_le_length (p := (· ∈ sorting.done)) (l := graph tasks id)
  have all := List.countP_eq_length.mp (le_antisymm most (by omega)) dep edge
  simpa using all

theorem Progress.advance (distinct : (ids tasks).Nodup) {sorting : Sorting}
    (bounded : sorting.Bounded tasks) (progress : sorting.Progress tasks) :
    (sorting.advance (dependents tasks)).Progress tasks := by
  constructor
  · rw [advance_done, advance_eq, List.flatMap_append]
    have taken : sorting.take.Exact tasks (sorting.done.flatMap (dependents tasks)) := by
      refine ⟨progress.exact.degree, fun id member zero => ?_⟩
      rw [take_done]
      exact List.mem_append_left _ (progress.exact.waiting id member zero)
    exact taken.foldl _
  · rw [advance_eq, (foldl_release_layers ..).1]
    refine progress.layered.snoc fun id queued dep edge => ?_
    exact progress.ready distinct bounded (bounded.spent id (List.mem_append_right _ queued)).2 edge

theorem Progress.start : (start tasks).Progress tasks := by
  refine ⟨⟨fun id => ?_, fun id member zero => ?_⟩, Layered.nil⟩
  · exact (inDegree_eq tasks id).trans (Int.sub_zero _).symm
  · refine List.mem_filter.mpr ⟨?_, decide_eq_true zero⟩
    rwa [List.mem_reverse, List.mem_dedup, List.mem_reverse]

theorem Progress.complete (distinct : (ids tasks).Nodup) (known : ¬ Unknown tasks)
    {sorting : Sorting} (bounded : sorting.Bounded tasks) (progress : sorting.Progress tasks)
    (empty : sorting.queue = []) {id : PyString} (founded : Founded (Edge tasks) id)
    (member : id ∈ ids tasks) : id ∈ sorting.done := by
  induction founded with
  | intro id _ ih =>
    have below : ∀ dep ∈ graph tasks id, decide (dep ∈ sorting.done) = true := fun dep edge =>
      decide_eq_true (ih dep edge (edge_right known edge))
    have zero : sorting.inDegree id = 0 := by
      rw [left_degree distinct bounded progress.exact, List.countP_eq_length.mpr below]
      exact Int.sub_self _
    have queued := progress.exact.waiting id member zero
    rwa [empty, List.append_nil] at queued

end Sorting

section Agreement

variable {tasks : List SwarmTask}

structure LayersOf (tasks : List SwarmTask) (layers : List (List PyString)) : Prop where
  once : layers.flatten.Perm (ids tasks)
  earlier : Layered (Depends tasks) layers

structure Agreement (tasks : List SwarmTask) (allIds : IdSet (ids tasks)) : Prop where
  layers : validateDag tasks allIds = .ok () →
    ∃ layers, topologicalLayers tasks = .ok layers ∧ LayersOf tasks layers
  rejected : (∃ raised, validateDag tasks allIds = .error raised) ↔
    Unknown tasks ∨ Cyclic (Depends tasks)

theorem validateDag_error (allIds : IdSet (ids tasks)) :
    (∃ raised, validateDag tasks allIds = .error raised) ↔
      Unknown tasks ∨ Cyclic (Edge tasks) := by
  have accepted := validateDag_ok allIds
  cases validated : validateDag tasks allIds with
  | ok done =>
    obtain ⟨known, acyclic⟩ := accepted.mp validated
    exact iff_of_false (fun ⟨raised, impossible⟩ => by cases impossible)
      (not_or.mpr ⟨known, acyclic⟩)
  | error raised =>
    refine iff_of_true ⟨raised, rfl⟩ ?_
    by_contra sound
    rw [validated] at accepted
    cases accepted.mpr (not_or.mp sound)

theorem sorted_ends (tasks : List SwarmTask) (invariant : Sorting → Prop)
    (step : ∀ sorting : Sorting, sorting.Bounded tasks → invariant sorting →
      invariant (sorting.advance (dependents tasks)))
    (holds : invariant (Sorting.start tasks)) :
    ∃ sorted : Sorting, sorted.queue = [] ∧ sorted.Bounded tasks ∧ invariant sorted ∧
      topologicalLayers tasks = if sorted.processed = tasks.length then .ok sorted.layers
        else .error (.cycle sorted.processed tasks.length) := by
  have fits := List.toFinset_card_le (ids tasks)
  rw [ids, List.length_map] at fits
  have enough : (ids tasks).toFinset.card < tasks.length + 1 + (Sorting.start tasks).processed := by
    change (ids tasks).toFinset.card < tasks.length + 1 + 0
    unfold ids
    omega
  obtain ⟨sorted, ran, empty, bounded, holds⟩ :=
    Sorting.run_reaches step Sorting.Bounded.start holds enough
  refine ⟨sorted, empty, bounded, holds, ?_⟩
  rw [topologicalLayers, ran]
  rfl

theorem layers_of_distinct (distinct : (ids tasks).Nodup) (known : ¬ Unknown tasks)
    (founded : ∀ id ∈ ids tasks, Founded (Edge tasks) id) :
    ∃ layers, topologicalLayers tasks = .ok layers ∧ LayersOf tasks layers := by
  obtain ⟨sorted, empty, bounded, progress, outcome⟩ :=
    sorted_ends tasks _ (fun _ bounded progress => progress.advance distinct bounded)
      Sorting.Progress.start
  have once : sorted.done.Perm (ids tasks) := by
    refine (List.perm_ext_iff_of_nodup (List.nodup_append.mp bounded.nodup).1 distinct).mpr
      fun id => ⟨fun found => (bounded.spent id (List.mem_append_left _ found)).1, fun member => ?_⟩
    exact progress.complete distinct known bounded empty (founded id member) member
  rw [if_pos (by rw [bounded.processed, once.length_eq, ids, List.length_map])] at outcome
  refine ⟨sorted.layers, outcome, once, fun i layer found a member b depends => ?_⟩
  exact progress.layered i layer found a member b ((depends_iff distinct).mp depends)

theorem layers_of_repeated (repeated : ¬ (ids tasks).Nodup) :
    ¬ ∃ layers, topologicalLayers tasks = .ok layers := by
  rintro ⟨layers, sorted_ok⟩
  obtain ⟨sorted, -, bounded, -, outcome⟩ :=
    sorted_ends tasks (fun _ => True) (fun _ _ _ => trivial) trivial
  have fits := bounded.length_le
  have fewer : (ids tasks).toFinset.card < (ids tasks).length :=
    lt_of_le_of_ne (List.toFinset_card_le _) fun same =>
      repeated (Multiset.coe_nodup.mp (Multiset.toFinset_card_eq_card_iff_nodup.mp same))
  rw [List.length_append, ← bounded.processed] at fits
  rw [ids, List.length_map] at fewer
  rw [if_neg (by unfold ids at fits; omega), sorted_ok] at outcome
  cases outcome

end Agreement

theorem dag_agreement_fails :
    ¬ ∀ (tasks : List SwarmTask) (allIds : IdSet (ids tasks)), Agreement tasks allIds := by
  intro holds
  let task : SwarmTask := { id := "a", agentId := "b" }
  let allIds : IdSet (ids [task, task]) := ⟨["a"], fun id => by simp [ids, task]⟩
  obtain ⟨layers, sorted, -⟩ := (holds [task, task] allIds).layers (by decide)
  have raised : topologicalLayers [task, task] = .error (.cycle 1 2) := by decide
  rw [raised] at sorted
  cases sorted

theorem dag_agreement_iff (tasks : List SwarmTask) (allIds : IdSet (ids tasks)) :
    Agreement tasks allIds ↔ (ids tasks).Nodup ∨ Unknown tasks ∨ Cyclic (Edge tasks) := by
  constructor
  · intro agreement
    by_contra fails
    obtain ⟨repeated, sound⟩ := not_or.mp fails
    obtain ⟨layers, sorted, -⟩ := agreement.layers ((validateDag_ok allIds).mpr (not_or.mp sound))
    exact layers_of_repeated repeated ⟨layers, sorted⟩
  · intro condition
    refine ⟨fun accepted => ?_, (validateDag_error allIds).trans ⟨fun rejected => ?_, ?_⟩⟩
    · obtain ⟨known, acyclic⟩ := (validateDag_ok allIds).mp accepted
      have distinct := condition.resolve_right (not_or.mpr ⟨known, acyclic⟩)
      exact layers_of_distinct distinct known (founded_of_acyclic allIds known acyclic)
    · exact rejected.imp_right (Cyclic.mono fun _ _ => edge_depends)
    · rintro (unknown | cyclic)
      · exact .inl unknown
      · obtain distinct | rejected := condition
        · exact .inr (Cyclic.mono (fun _ _ => (depends_iff distinct).mp) cyclic)
        · exact rejected

end SynapseYield.Swarm
