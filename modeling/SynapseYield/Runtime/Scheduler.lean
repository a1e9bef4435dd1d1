import Mathlib.Data.List.Sort
import SynapseYield.Shared.Python
import SynapseYield.Shared.Table

set_option autoImplicit false

namespace SynapseYield.Runtime

open Shared

def defaultIntervalMs : Int := 60 * 1000

structure Job where
  id : PyString
  nextRunAt : Int
  schedule : PyString

section Decisions

variable [PyText]

def intervalPrefix : PyString := "interval:"

-- The interval of a job that recurs: none for a one-shot.
def Job.intervalMs (job : Job) : Option Int :=
  let spec := job.schedule.strip.lower
  if spec = "once" then none
  else if intervalPrefix.points.isPrefixOf spec.points then
    let raw : PyString := ⟨spec.points.drop intervalPrefix.points.length⟩
    match raw.strip.parseInt with
    | some ms => some (if 0 < ms then ms else defaultIntervalMs)
    | none => some defaultIntervalMs
  else some defaultIntervalMs

omit [PyText] in
def earliestNextRun (jobs : List Job) : Option Int := (jobs.map Job.nextRunAt).min?

omit [PyText] in
def computeSleepMs (jobs : List Job) (nowMs maxRecheckMs : Int) : Int :=
  match earliestNextRun jobs with
  | none => maxRecheckMs
  | some earliest => if earliest - nowMs ≤ 0 then 0 else min (earliest - nowMs) maxRecheckMs

end Decisions

-- A job under its id, and the number of its registration.
structure Registered where
  id : PyString
  job : Nat
  registration : Nat
deriving DecidableEq

-- Where the loop is: firing waits for on_fire of a job that was due at now, with the jobs still to
-- fire; began counts the registrations that came before it.
inductive LoopPhase where
  | stopped
  | running
  | sleeping (now sleepMs : Int)
  | firing (now : Int) (job began : Nat) (rest : List Nat)
deriving DecidableEq

-- The job objects by reference, and the set of those that are registered.
structure Scheduler where
  heap : Nat → Job
  jobs : Table PyString Registered Registered.id
  registrations : Nat
  wakeup : Bool
  stopping : Bool
  phase : LoopPhase
  maxRecheckMs : Int

namespace Scheduler

def new (heap : Nat → Job) (maxRecheckMs : Int) : Scheduler where
  heap
  jobs := .empty
  registrations := 0
  wakeup := false
  stopping := false
  phase := .stopped
  maxRecheckMs

-- The references of the registered jobs, in the order of the dict.
def references (scheduler : Scheduler) : List Nat := scheduler.jobs.rows.map Registered.job

def snapshot (scheduler : Scheduler) : List Job := scheduler.references.map scheduler.heap

-- The earliest first; of equal ones the one that the dict has first.
def dueJobs (scheduler : Scheduler) (nowMs : Int) : List Nat :=
  (scheduler.references.filter fun job => (scheduler.heap job).nextRunAt ≤ nowMs).insertionSort
    fun job other => (scheduler.heap job).nextRunAt ≤ (scheduler.heap other).nextRunAt

-- self._jobs[job.id] = job keeps the place of a job that it replaces.
def addJob (scheduler : Scheduler) (job : Nat) : Scheduler :=
  let registered : Registered := ⟨(scheduler.heap job).id, job, scheduler.registrations⟩
  { scheduler with
    jobs := (scheduler.jobs.ensure registered).modify registered.id
      { apply := fun old => { registered with id := old.id } }
    registrations := scheduler.registrations + 1
    wakeup := true }

def removeJob (scheduler : Scheduler) (id : PyString) : Scheduler :=
  { scheduler with
    jobs := scheduler.jobs.erase id
    wakeup := scheduler.wakeup || (scheduler.jobs.find? id).isSome }

def start (scheduler : Scheduler) : Scheduler :=
  match scheduler.phase with
  | .stopped => { scheduler with stopping := false, phase := .running }
  | _ => scheduler

-- The task is cancelled where it waits.
def stop (scheduler : Scheduler) : Scheduler :=
  { scheduler with stopping := true, wakeup := true, phase := .stopped }

-- The next of the jobs that were due, or the top of the loop.
def fireNext (scheduler : Scheduler) (nowMs : Int) : List Nat → Scheduler
  | [] => { scheduler with phase := .running }
  | job :: rest => { scheduler with phase := .firing nowMs job scheduler.registrations rest }

-- One pass through the loop, from its top to where it waits.
def check (scheduler : Scheduler) (nowMs : Int) : Scheduler :=
  if scheduler.stopping then { scheduler with phase := .stopped }
  else
    let sleepMs := computeSleepMs scheduler.snapshot nowMs scheduler.maxRecheckMs
    if 0 < sleepMs then { scheduler with wakeup := false, phase := .sleeping nowMs sleepMs }
    else scheduler.fireNext nowMs (scheduler.dueJobs nowMs)

variable [PyText]

-- advance_after_fire, and the pop of a one-shot.
def settle (scheduler : Scheduler) (nowMs : Int) (job : Nat) : Scheduler :=
  match (scheduler.heap job).intervalMs with
  | none => { scheduler with jobs := scheduler.jobs.erase (scheduler.heap job).id }
  | some interval =>
    { scheduler with
      heap := Function.update scheduler.heap job
        { scheduler.heap job with nextRunAt := nowMs + interval } }

-- What the loop and the code around it do between two waits. fired: on_fire has returned, or has
-- raised what is logged and dropped.
inductive Event where
  | start
  | stop
  | addJob (job : Nat)
  | removeJob (id : PyString)
  | wake
  | check (nowMs : Int)
  | fired

def step (scheduler : Scheduler) : Event → Option Scheduler
  | .start => some scheduler.start
  | .stop => some scheduler.stop
  | .addJob job => some (scheduler.addJob job)
  | .removeJob id => some (scheduler.removeJob id)
  | .wake =>
    match scheduler.phase with
    | .sleeping _ _ =>
      some { scheduler with phase := if scheduler.stopping then .stopped else .running }
    | _ => none
  | .check nowMs =>
    match scheduler.phase with
    | .running => some (scheduler.check nowMs)
    | _ => none
  | .fired =>
    match scheduler.phase with
    | .firing nowMs job _ rest => some ((scheduler.settle nowMs job).fireNext nowMs rest)
    | _ => none

end Scheduler

end SynapseYield.Runtime
