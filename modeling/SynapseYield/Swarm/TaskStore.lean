import SynapseYield.Shared.Disk
import SynapseYield.Shared.Table
import SynapseYield.Swarm.Dag

set_option autoImplicit false

namespace SynapseYield.Swarm

open Shared

-- The files tasks/task-{id}.json of a run.
abbrev TaskStore := Table PyString SwarmTask SwarmTask.id

def taskFile (taskId : PyString) : PyString :=
  ("task-" : PyString) ++ taskId ++ (".json" : PyString)

namespace SwarmTask

def texts (task : SwarmTask) : List PyString :=
  [task.id, task.agentId, task.promptTemplate] ++ task.dependsOn ++ task.blockedBy ++
    task.inputFrom.flatMap (fun entry => [entry.1, entry.2]) ++ task.summary.toList ++
    task.artifacts ++ task.error.toList ++ task.startedAt.toList ++ task.completedAt.toList

-- model_dump_json writes UTF-8.
def encodable (task : SwarmTask) : Bool := task.texts.all PyString.encodable

-- Removes a completed task from what blocks this one.
def unblock (completedTaskId : PyString) (task : SwarmTask) : SwarmTask :=
  if completedTaskId ∈ task.blockedBy then
    let newBlockedBy := task.blockedBy.filter (· ≠ completedTaskId)
    { task with
      blockedBy := newBlockedBy
      status := if newBlockedBy = [] ∧ task.status = .blocked then .pending else task.status }
  else task

theorem unblock_id (completedTaskId : PyString) (task : SwarmTask) :
    (task.unblock completedTaskId).id = task.id := by
  unfold unblock
  split <;> rfl

end SwarmTask

namespace TaskStore

def saveTask (store : TaskStore) (task : SwarmTask) : Except PyError TaskStore :=
  if ! task.encodable then .error .valueError
  else if ! isFileName (taskFile task.id) then .error .osError
  else .ok (store.put task)

-- FileNotFoundError
def loadTask (store : TaskStore) (taskId : PyString) : Except PyError SwarmTask :=
  match store.find? taskId with
  | some task => .ok task
  | none => .error .osError

-- Sorted by their paths.
def loadAll (store : TaskStore) : List SwarmTask :=
  store.rows.mergeSort fun first second =>
    decide ((taskFile first.id).points ≤ (taskFile second.id).points)

def updateStatus (store : TaskStore) (taskId : PyString) (update : SwarmTask → SwarmTask) :
    Except PyError TaskStore := do
  let task ← store.loadTask taskId
  store.saveTask (update task)

def resolveDependencies (store : TaskStore) (completedTaskId : PyString) : TaskStore :=
  store.updateWhere (fun _ => true)
    { apply := SwarmTask.unblock completedTaskId
      keeps := SwarmTask.unblock_id completedTaskId }

end TaskStore

end SynapseYield.Swarm
