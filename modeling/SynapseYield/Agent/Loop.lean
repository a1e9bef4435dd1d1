import SynapseYield.Shared.JsonAscii

set_option autoImplicit false

namespace SynapseYield.Agent.Loop

open Shared JsonText

def toolResultLimit : Nat := 10000

structure ToolDef where
  repeatable : Bool
  isReadonly : Bool

-- registry.get
abbrev ToolRegistry := PyString → Option ToolDef

structure ToolCall where
  id : PyString
  name : PyString
  arguments : Members

structure ToolMessage where
  toolCallId : PyString
  name : PyString
  content : PyString

def formatToolResult (call : ToolCall) (result : PyString) : ToolMessage :=
  ⟨call.id, call.name, result⟩

def isText (text : PyString) : Option Json → Bool
  | some (.str value) => value = text
  | _ => false

def isToolSuccess (result : PyString) : Bool :=
  match loads result with
  | some (.obj data) => ! isText "error" (data.lookup ("status" : PyString))
  | _ => true

def policyDenied (result : PyString) : Bool :=
  match loads result with
  | some (.obj data) => isText "policy_denied" (data.lookup ("error_code" : PyString))
  | _ => false

section Turns

def skipMessage (name : PyString) : PyString :=
  ⟨("\x7b\"skipped\": true, \"reason\": " : PyString).points ++
    asciiString (name ++ " already completed successfully. Use the previous result.") ++
      [closeBrace]⟩

variable (registry : ToolRegistry)

def isRepeatable (name : PyString) : Bool := (registry name).any ToolDef.repeatable

def isReadonly (name : PyString) : Bool := (registry name).any ToolDef.isReadonly

-- What is made of the calls of a response before any of them is executed
structure Sorted where
  compactRequested : Bool
  focusTopic : Json
  notices : List ToolMessage
  toExecute : List ToolCall

def sortCall (calledOk : List PyString) (sorted : Sorted) (call : ToolCall) : Sorted :=
  if call.name = "compact" then
    { sorted with
      compactRequested := true
      focusTopic := (call.arguments.lookup ("focus_topic" : PyString)).getD (.str "")
      notices := sorted.notices ++
        [formatToolResult call "\x7b\"status\":\"ok\",\"message\":\"Compressing...\"\x7d"] }
  else if call.name ∈ calledOk ∧ isRepeatable registry call.name = false then
    { sorted with
      notices := sorted.notices ++ [formatToolResult call (skipMessage call.name)] }
  else { sorted with toExecute := sorted.toExecute ++ [call] }

def sortCalls (calledOk : List PyString) (toolCalls : List ToolCall) : Sorted :=
  toolCalls.foldl (sortCall registry calledOk) ⟨false, .str "", [], []⟩

structure Batch where
  parallel : Bool
  calls : List ToolCall

def flush (batches : List Batch) (currentRo : List ToolCall) : List Batch :=
  if currentRo.isEmpty then batches else batches ++ [⟨true, currentRo⟩]

def addCall (split : List Batch × List ToolCall) (call : ToolCall) : List Batch × List ToolCall :=
  if isReadonly registry call.name then (split.1, split.2 ++ [call])
  else (flush split.1 split.2 ++ [⟨false, [call]⟩], [])

def batchesOf (toolCalls : List ToolCall) : List Batch :=
  let split := toolCalls.foldl (addCall registry) ([], [])
  flush split.1 split.2

-- The batches that are launched, where the cancel event is found clear so many times. Nothing asks
-- before a call that is alone.
def launches (toExecute : List ToolCall) (clear : Nat) : List Batch :=
  match toExecute with
  | [call] => [⟨false, [call]⟩]
  | _ => (batchesOf registry toExecute).take clear

end Turns

structure Execution where
  call : ToolCall
  result : PyString
  started : Nat
  finished : Nat

def Execution.succeeded (execution : Execution) : Bool :=
  ! policyDenied execution.result && isToolSuccess execution.result

def Execution.message (execution : Execution) : ToolMessage :=
  formatToolResult execution.call ⟨execution.result.points.take toolResultLimit⟩

-- The calls of a batch in the time they take. Those of a parallel batch start and finish in any
-- order; their results stay in the order of the calls.
structure Ran (batch : Batch) (time : Nat) (executions : List Execution) (later : Nat) : Prop where
  calls : executions.map (·.call) = batch.calls
  begun : ∀ execution ∈ executions, time ≤ execution.started
  lasting : ∀ execution ∈ executions, execution.started < execution.finished
  ended : ∀ execution ∈ executions, execution.finished ≤ later
  advances : time ≤ later

inductive RanAll : Nat → List Batch → List (List Execution) → Nat → Prop where
  | nil (time : Nat) : RanAll time [] [] time
  | cons {time later done : Nat} {batch : Batch} {batches : List Batch}
      {executions : List Execution} {runs : List (List Execution)}
      (ran : Ran batch time executions later) (rest : RanAll later batches runs done) :
      RanAll time (batch :: batches) (executions :: runs) done

structure State where
  calledOk : List PyString
  -- The tool results that have been appended
  messages : List ToolMessage
  history : List Execution
  time : Nat

def State.finalize (state : State) (execution : Execution) : State :=
  { state with
    calledOk :=
      if execution.succeeded then execution.call.name :: state.calledOk else state.calledOk
    messages := state.messages ++ [execution.message]
    history := state.history ++ [execution] }

structure Turn where
  toolCalls : List ToolCall
  cancelled : Bool
  clear : Nat
  runs : List (List Execution)

inductive Step (registry : ToolRegistry) :
    State → Turn → State → Prop where
  | cancelled {state : State} {turn : Turn} (set : turn.cancelled = true) (idle : turn.runs = []) :
      Step registry state turn state
  | processed {state : State} {turn : Turn} {later : Nat} (clear : turn.cancelled = false)
      (ran : RanAll state.time
        (launches registry
          (sortCalls registry state.calledOk turn.toolCalls).toExecute turn.clear)
        turn.runs later) :
      Step registry state turn
        { turn.runs.flatten.foldl State.finalize
            { state with messages := state.messages ++
                (sortCalls registry state.calledOk turn.toolCalls).notices } with
          time := later }

structure Transition where
  before : State
  turn : Turn
  after : State

-- The responses of a run in order, from the state that a run starts in
inductive Run (registry : ToolRegistry) :
    List Transition → State → Prop where
  | nil : Run registry [] ⟨[], [], [], 0⟩
  | snoc {past : List Transition} {t : Transition} (run : Run registry past t.before)
      (step : Step registry t.before t.turn t.after) :
      Run registry (past ++ [t]) t.after

end SynapseYield.Agent.Loop

namespace SynapseYield.Agent.Loop

open Shared JsonText

def keepRecent : Nat := 3

def collapsePreserveRecent : Nat := 6

def collapseTextMin : Nat := 2400

def collapseHead : Nat := 900

def collapseTail : Nat := 500

def tailTokenBudget : Nat := 20000

-- A message as the loop keeps it. What an assistant message has besides its content and its calls
-- goes with it.
inductive Message where
  | system (content : PyString)
  | user (content : PyString)
  | assistant (content : Option PyString) (toolCalls : List ToolCall)
  | tool (message : ToolMessage)

namespace Message

def isTool : Message → Bool
  | .tool _ => true
  | _ => false

def calls : Message → List ToolCall
  | .assistant _ toolCalls => toolCalls
  | _ => []

def content : Message → Option PyString
  | .system content => some content
  | .user content => some content
  | .assistant content _ => content
  | .tool message => some message.content

def withContent (text : PyString) : Message → Message
  | .system _ => .system text
  | .user _ => .user text
  | .assistant _ toolCalls => .assistant (some text) toolCalls
  | .tool message => .tool { message with content := text }

-- The text of no content is None.
def tokens (message : Message) : Nat :=
  (message.content.getD "None").points.length / 4 + 10

def cleared (message : Message) : Message :=
  match message.content with
  | some content => if 100 < content.points.length then message.withContent "[cleared]" else message
  | none => message

def collapsed (message : Message) : Message :=
  match message.content with
  | some content =>
    let length := content.points.length
    if length ≤ collapseTextMin then message
    else
      message.withContent
        (⟨content.points.take collapseHead⟩ ++ ("\n\n...[" : PyString) ++
          ⟨decimal (length - collapseHead - collapseTail)⟩ ++
          (" chars collapsed]...\n\n" : PyString) ++ ⟨content.points.drop (length - collapseTail)⟩)
  | none => message

end Message

-- The first so many tool results
def clearFirst : Nat → List Message → List Message
  | 0, messages => messages
  | _ + 1, [] => []
  | count + 1, message :: rest =>
    if message.isTool then message.cleared :: clearFirst count rest
    else message :: clearFirst (count + 1) rest

def microcompact (messages : List Message) : List Message :=
  clearFirst (messages.countP Message.isTool - keepRecent) messages

def contextCollapse (messages : List Message) : List Message :=
  if messages.length ≤ collapsePreserveRecent + 1 then messages
  else
    messages.take 1 ++
      ((messages.take (messages.length - collapsePreserveRecent)).drop 1).map Message.collapsed ++
      messages.drop (messages.length - collapsePreserveRecent)

section Pairs

def calledIds (messages : List Message) : List PyString :=
  messages.flatMap fun message => message.calls.map (·.id)

def resultIds (messages : List Message) : List PyString :=
  messages.filterMap fun message =>
    match message with
    | .tool result => some result.toolCallId
    | _ => none

-- A result of no call is removed; an empty id is of no call.
def paired (called : List PyString) : Message → Bool
  | .tool result => decide (result.toolCallId ≠ "" ∧ result.toolCallId ∈ called)
  | _ => true

def stub (call : ToolCall) : ToolMessage :=
  ⟨call.id, call.name, "[Result from earlier context \u2014 see summary above]"⟩

-- The calls without a result, each id once
def unanswered (answered : List PyString) : List ToolCall → List ToolCall
  | [] => []
  | call :: rest =>
    if call.id = "" ∨ call.id ∈ answered then unanswered answered rest
    else call :: unanswered (call.id :: answered) rest

-- Stubs are inserted behind the message of their calls.
def insertStubs (answered : List PyString) : List Message → List Message
  | [] => []
  | message :: rest =>
    let missing := unanswered answered message.calls
    message :: missing.map (fun call => .tool (stub call)) ++
      insertStubs (missing.map (·.id) ++ answered) rest

def fixToolPairs (messages : List Message) : List Message :=
  let kept := messages.filter (paired (calledIds messages))
  insertStubs (resultIds kept) kept

end Pairs

section Compaction

-- How many of the messages, from the last one on, the budget has room for
def recent (budget : Nat) : List Message → Nat
  | [] => 0
  | message :: rest =>
    if budget < message.tokens then 0 else recent (budget - message.tokens) rest + 1

def tailStart (body : List Message) : Nat :=
  let cut := body.length - recent tailTokenBudget body.reverse
  if cut = 0 then 0 else cut + ((body.drop cut).takeWhile Message.isTool).length

-- Where the body is cut, unless there is too little of it
def cutIndex (body : List Message) : Option Nat :=
  if tailStart body ≠ 0 then some (tailStart body)
  else if 2 < body.length then some (max 1 (body.length / 2))
  else none

-- handoff: what the user message with the summary says.
def autoCompact (handoff : PyString) : List Message → List Message
  | [] => []
  | first :: body =>
    match cutIndex body with
    | none => first :: body
    | some cut => fixToolPairs (first :: .user handoff :: body.drop cut)

end Compaction

-- The thresholds, and the estimate of a transcript that they are compared with
structure Settings where
  estimateTokens : List Message → Nat
  microcompactThreshold : Nat
  collapseThreshold : Nat
  tokenThreshold : Nat

def compact (settings : Settings) (handoff : PyString) (messages : List Message) : List Message :=
  let pruned := if settings.microcompactThreshold < settings.estimateTokens messages then
    microcompact messages else messages
  let folded := if settings.collapseThreshold < settings.estimateTokens pruned then
    contextCollapse pruned else pruned
  if settings.tokenThreshold < settings.estimateTokens folded then autoCompact handoff folded
  else folded

inductive Outcome where
  -- an answer, a cancel, an error
  | ended
  -- blocked by the provider
  | filtered (skipMessage : PyString)
  -- an answer short of the goal, and the prompt that goes on from it
  | continued (answer prompt : PyString)
  | called (content : Option PyString) (turn : Turn) (handoff : PyString)

structure Iteration where
  notifications : Option PyString
  handoff : PyString
  wrapUp : Option PyString
  outcome : Outcome

def given (settings : Settings) (messages : List Message) (iteration : Iteration) : List Message :=
  compact settings iteration.handoff
      (messages ++ (iteration.notifications.map Message.user).toList) ++
    (iteration.wrapUp.map Message.user).toList

structure Session where
  messages : List Message
  tools : State
  -- No further iteration
  closed : Bool

-- The cancel event is found set before all calls are launched.
def interrupted (registry : ToolRegistry) (calledOk : List PyString) (turn : Turn) : Bool :=
  let toExecute := (sortCalls registry calledOk turn.toolCalls).toExecute
  turn.cancelled ||
    decide (toExecute.length ≠ 1 ∧ turn.clear < (batchesOf registry toExecute).length)

def compactRequested (registry : ToolRegistry) (calledOk : List PyString) (turn : Turn) : Bool :=
  ! turn.cancelled && (sortCalls registry calledOk turn.toolCalls).compactRequested

inductive Follows (registry : ToolRegistry) (messages : List Message) (tools : State) :
    Outcome → Session → Prop where
  | ended : Follows registry messages tools .ended ⟨messages, tools, true⟩
  | filtered (skipMessage : PyString) :
      Follows registry messages tools (.filtered skipMessage)
        ⟨messages ++ [.system skipMessage], tools, false⟩
  | continued (answer prompt : PyString) :
      Follows registry messages tools (.continued answer prompt)
        ⟨messages ++ [.assistant (some answer) [], .user prompt], tools, false⟩
  | called {turn : Turn} {after : State} {results : List ToolMessage} (content : Option PyString)
      (handoff : PyString) (some : turn.toolCalls ≠ []) (step : Step registry tools turn after)
      (appended : after.messages = tools.messages ++ results) :
      Follows registry messages tools (.called content turn handoff)
        ⟨if compactRequested registry tools.calledOk turn then
            autoCompact handoff
              (messages ++ .assistant content turn.toolCalls :: results.map Message.tool)
          else messages ++ .assistant content turn.toolCalls :: results.map Message.tool,
          after, interrupted registry tools.calledOk turn⟩

-- The iterations of a run, and what the model is given in each
inductive Conversation (settings : Settings) (registry : ToolRegistry) (initial : List Message) :
    List Iteration → List (List Message) → Session → Prop where
  | nil : Conversation settings registry initial [] [] ⟨initial, ⟨[], [], [], 0⟩, false⟩
  | snoc {past : List Iteration} {passed : List (List Message)} {before after : Session}
      {iteration : Iteration} (run : Conversation settings registry initial past passed before)
      (open_ : before.closed = false)
      (follows : Follows registry (given settings before.messages iteration) before.tools
        iteration.outcome after) :
      Conversation settings registry initial (past ++ [iteration])
        (passed ++ [given settings before.messages iteration]) after

end SynapseYield.Agent.Loop
