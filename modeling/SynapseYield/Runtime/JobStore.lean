import SynapseYield.Runtime.Runner
import SynapseYield.Runtime.Scheduler
import SynapseYield.Shared.Json
import SynapseYield.Shared.JsonText

set_option autoImplicit false

namespace SynapseYield.Runtime

open Shared Live JsonText

-- A Job with its payload
structure WatchJob extends Job where
  payload : Option Members

-- json.dumps(indent=2)
def indentation (depth : Nat) : Text := 0x0A :: List.replicate (2 * depth) 0x20

theorem indentation_blank (depth : Nat) : (indentation depth).all isBlank = true := by
  simp [indentation, isBlank]

def indented : Style where
  opening depth := indentation (depth + 1)
  between depth := indentation (depth + 1)
  closing depth := indentation depth
  afterColon := [0x20]
  opening_blank depth := indentation_blank (depth + 1)
  between_blank depth := indentation_blank (depth + 1)
  closing_blank depth := indentation_blank depth
  afterColon_blank := space_blank

-- str(n)
def intText (n : Int) : Except PyError Text :=
  if printable n then
    .ok (if n < 0 then 0x2D :: decimal n.natAbs else decimal n.natAbs)
  else .error .valueError

-- The int of a literal without fraction and exponent
def literalInt (literal : Text) : Option Int :=
  let (sign, points) := Ascii.signed literal
  if points.all isDigit then some (sign * Ascii.natural points) else none

namespace JobStore

def schemaVersion : Nat := 1

def jobToDict (job : WatchJob) : Except PyError Json := do
  let nextRunAt ← intText job.nextRunAt
  return .obj [
    ("id", .str job.id),
    ("next_run_at", .number nextRunAt),
    ("schedule", .str job.schedule),
    ("payload", (job.payload.map Json.obj).getD .null)]

def envelope (jobs : List WatchJob) : Except PyError Json := do
  let jobs ← jobs.mapM jobToDict
  return .obj [("schema_version", .number (decimal schemaVersion)), ("jobs", .arr jobs)]

def asObject : Json → Except PyError Members
  | .obj members => .ok members
  | _ => .error .valueError

def extractJobs : Json → Except PyError (List Members)
  | .obj envelope =>
    match envelope.lookup ("jobs" : PyString) with
    | some (.arr jobs) => jobs.mapM asObject
    | _ => .error .valueError
  | _ => .error .valueError

-- item[key]
def getItem (item : Members) (key : PyString) : Except PyError Json :=
  match item.lookup key with
  | some value => .ok value
  | none => .error .keyError

-- isinstance(value, int), which a bool is too. A literal of too many digits is an error of
-- json.loads.
def asInt : Json → Except PyError Int
  | .bool b => .ok (if b then 1 else 0)
  | .number literal =>
    match literalInt literal with
    | some n => if printable n then .ok n else .error .valueError
    | none => .error .typeError
  | _ => .error .typeError

def asPayload : Option Json → Except PyError (Option Members)
  | none | some .null => .ok none
  | some (.obj members) => .ok (some members)
  | some _ => .error .typeError

def jobFromDict (item : Members) : Except PyError WatchJob := do
  let id ← getItem item "id"
  let nextRunAt ← getItem item "next_run_at"
  let schedule ← getItem item "schedule"
  match id, schedule with
  | .str id, .str schedule =>
    let nextRunAt ← asInt nextRunAt
    let payload ← asPayload (item.lookup ("payload" : PyString))
    return { id, nextRunAt, schedule, payload }
  | _, _ => .error .typeError

-- What the text of a store holds
def parse (text : Text) : Except PyError (List WatchJob) :=
  match loads ⟨text⟩ with
  | none => .error .valueError
  | some envelope => do
    let items ← extractJobs envelope
    items.mapM jobFromDict

-- What the file system answers to one load and one save. unreadable: the read raises, or its
-- bytes are no text.
structure Access where
  unstatable : Bool
  unreadable : Bool
  unrenamable : Bool
  unwritable : Bool
  -- closing the directory after the replace
  unclosable : Bool

-- The store that is there, and what is left of it. CorruptJobStoreError is a RuntimeError.
def load (access : Access) (file : Option Text) : Except PyError (List WatchJob) × Option Text :=
  if access.unstatable then (.error .osError, file)
  else match file with
    | none => (.ok [], none)
    | some text =>
      match if access.unreadable then .error .osError else parse text with
      | .ok jobs => (.ok jobs, some text)
      | .error _ => (.error .other, if access.unrenamable then some text else none)

def save (access : Access) (file : Option Text) (jobs : List WatchJob) :
    Except PyError Unit × Option Text :=
  match envelope jobs with
  | .error raised => (.error raised, file)
  | .ok envelope =>
    let payload : PyString := ⟨write indented 0 envelope⟩
    if access.unwritable then (.error .osError, file)
    else if payload.encodable then
      (if access.unclosable then .error .osError else .ok (), some payload.points)
    else (.error .valueError, file)

end JobStore

inductive TriggerKind where
  | interval
  | market
  | event
deriving DecidableEq, Repr

def TriggerKind.value : TriggerKind → PyString
  | .interval => "interval"
  | .market => "market"
  | .event => "event"

structure Trigger where
  kind : TriggerKind
  intervalMs : Int

def defaultMarketWatchMs : Int := 60000

-- A runner with its triggers and what it was given as market_watch_ms
structure LoopRunner where
  broker : PyString
  triggers : List Trigger
  marketWatchMs : Int

namespace LoopRunner

variable (runner : LoopRunner)

def watchMs : Int := if 0 < runner.marketWatchMs then runner.marketWatchMs else defaultMarketWatchMs

-- none: not by the wall clock
def cadence (trigger : Trigger) : Option Int :=
  match trigger.kind with
  | .interval => some trigger.intervalMs
  | .market => some runner.watchMs
  | .event => none

def jobOf (nowMs : Int) (index : Nat) (trigger : Trigger) (intervalMs : Int) :
    Except PyError WatchJob := do
  let interval ← intText intervalMs
  return {
    id := runner.broker ++ "-" ++ trigger.kind.value ++ "-" ++ ⟨decimal index⟩
    nextRunAt := nowMs + intervalMs
    schedule := intervalPrefix ++ ⟨interval⟩
    payload := some [("broker", .str runner.broker), ("trigger", .str trigger.kind.value)] }

def jobsFrom (nowMs : Int) : Nat → List Trigger → Except PyError (List WatchJob)
  | _, [] => .ok []
  | index, trigger :: rest =>
    match runner.cadence trigger with
    | none => jobsFrom nowMs (index + 1) rest
    | some intervalMs => do
      let job ← runner.jobOf nowMs index trigger intervalMs
      let later ← jobsFrom nowMs (index + 1) rest
      return job :: later

def jobsFromTriggers (nowMs : Int) : Except PyError (List WatchJob) :=
  runner.jobsFrom nowMs 0 runner.triggers

-- The jobs to register, and the store they leave.
def resolveJobs (jobs : Option (List WatchJob)) (nowMs : Int) (access : JobStore.Access)
    (file : Option Text) : Except PyError (List WatchJob) × Option Text :=
  match jobs with
  | some jobs => (.ok jobs, file)
  | none =>
    match JobStore.load access file with
    | (.ok (job :: rest), file) => (.ok (job :: rest), file)
    | (_, file) =>
      match runner.jobsFromTriggers nowMs with
      | .error raised => (.error raised, file)
      | .ok [] => (.ok [], file)
      | .ok (job :: rest) => (.ok (job :: rest), (JobStore.save access file (job :: rest)).2)

end LoopRunner

-- What a call of run_loop finds. revoked: what _expired_result raises, when it raises.
structure LoopHost where
  now : Except PyError TickTime
  mandate : Except PyError (Option Mandate)
  revoked : Option PyError
  access : JobStore.Access
  -- asyncio.get_running_loop()
  eventLoop : Bool

-- The jobs that were registered, whether the scheduler runs, and the store.
structure LoopStart where
  registered : List WatchJob
  outcome : Except PyError Bool
  file : Option Text

section Loop

variable [PyText]

def LoopHost.admits (host : LoopHost) : Except PyError (Option TickTime) := do
  let now ← host.now
  match ← host.mandate with
  | none => return none
  | some mandate =>
    if ← mandateIsExpired mandate now then
      match host.revoked with
      | some raised => .error raised
      | none => return none
    else return some now

-- run_loop of a runner that has a scheduler
def LoopRunner.runLoop (runner : LoopRunner) (jobs : Option (List WatchJob)) (host : LoopHost)
    (file : Option Text) : LoopStart :=
  match host.admits with
  | .error raised => ⟨[], .error raised, file⟩
  | .ok none => ⟨[], .ok false, file⟩
  | .ok (some now) =>
    match runner.resolveJobs jobs now.epochMs host.access file with
    | (.error raised, file) => ⟨[], .error raised, file⟩
    | (.ok jobs, file) => ⟨jobs, if host.eventLoop then .ok true else .error .other, file⟩

end Loop

-- self._jobs[job.id] = job
def addJob (jobs : List WatchJob) (job : WatchJob) : List WatchJob :=
  if jobs.any (·.id = job.id) then jobs.map fun old => if old.id = job.id then job else old
  else jobs ++ [job]

-- The default store, and the jobs of each broker's scheduler.
structure LoopWorld where
  file : Option Text
  schedulers : PyString → List WatchJob

-- No store was ever written.
def LoopWorld.first : LoopWorld := ⟨none, fun _ => []⟩

-- A start of a runner without jobs of its own, a stop, and a new runner for a broker with a new
-- scheduler.
inductive LoopEvent where
  | start (runner : LoopRunner) (host : LoopHost)
  | stop (broker : PyString)
  | relaunch (broker : PyString)

variable [PyText]

def LoopWorld.step (world : LoopWorld) : LoopEvent → LoopWorld
  | .start runner host =>
    let began := runner.runLoop none host world.file
    ⟨began.file, Function.update world.schedulers runner.broker
      (began.registered.foldl addJob (world.schedulers runner.broker))⟩
  | .stop _ => world
  | .relaunch broker => ⟨world.file, Function.update world.schedulers broker []⟩

end SynapseYield.Runtime
