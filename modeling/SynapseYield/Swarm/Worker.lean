import SynapseYield.Agent.Loop
import SynapseYield.Shared.Format
import SynapseYield.Swarm.Runtime

set_option autoImplicit false

namespace SynapseYield.Swarm.Worker

open Shared JsonText
open Agent.Loop (ToolCall clearFirst formatToolResult isText)

def maxPlanOnlyNudges : Nat := 2

def maxConsecutiveContentFilterSkips : Nat := 10

def contentFilterSkipMessage : PyString :=
  "[SYSTEM] The previous response was blocked by content moderation. Skip the current item and " ++
    "continue with the next one. Do not retry the same content."

def keepRecentTools : Nat := 3

def toolResultLimit : Nat := 10000

def genericTools : List PyString := ["bash", "read_file", "write_file", "load_skill", "edit_file"]

def unparsedToolMarkers : List PyString :=
  ["<\uff5ctool\u2581calls\u2581begin\uff5c>", "<tool_calls_begin>", "<tool_call_begin>",
    "<tool_sep>", "tool\u2581sep"]

def fabricationMarkers : List PyString :=
  ["mock data", "without actual data", "fabricated data", "placeholder data"]

def planPrefixes : List PyString :=
  ["# phase 1", "## phase 1", "### phase 1", "phase 1 \u2014 plan", "phase 1 - plan",
    "phase 1: plan", "# plan", "## plan", "### plan", "**plan**"]

def handoffTails : List PyString :=
  ["execute", "execute.", "execute:", "skills.", "skills", "proceed?", "proceed.",
    "without writing files.", "let me adjust the approach", "let me adjust the approach.",
    "stand by for final synthesis."]

section Texts

def startsWithAny (text : PyString) (fronts : List PyString) : Bool :=
  fronts.any (·.points.isPrefixOf text.points)

def endsWithAny (text : PyString) (endings : List PyString) : Bool :=
  endings.any (·.points.isSuffixOf text.points)

def within (part text : PyString) : Bool := decide (part.points <:+: text.points)

-- text[:n]
def first (n : Nat) (text : PyString) : PyString := ⟨text.points.take n⟩

-- What follows the last place of a part that is not empty
def afterLast (part : Text) : Text → Option Text
  | [] => none
  | c :: rest =>
    match afterLast part rest with
    | some after => some after
    | none => if part.isPrefixOf (c :: rest) then some ((c :: rest).drop part.length) else none

variable [PyText]

-- A letter in front is not stripped, and keeps what is behind it from being the left end.
def rstrip (text : PyString) : PyString := ⟨(("x" : PyString) ++ text).strip.points.drop 1⟩

end Texts

section Deliverables

variable [PyText]

def isDataAgent (agent : SwarmAgentSpec) : Bool := agent.tools.any (· ∉ genericTools)

def isErrorResult (result : PyString) : Bool :=
  let text := result.strip
  if text = .empty ∨ startsWithAny text ["\x7b"] = false then false
  else
    match loads text with
    | none =>
      let head := (first 160 text).lower
      within "\"status\": \"error\"" head || within "\"status\":\"error\"" head
    | some (.obj members) => isText "error" (members.lookup ("status" : PyString))
    | some _ => false

-- The plan of a worker that has not gone on to the rest of its task
def isPlanStub (text : PyString) : Bool :=
  let low := text.lower
  let tail : Option PyString := (afterLast ("phase 2" : PyString).points low.points).map (⟨·⟩)
  startsWithAny low planPrefixes &&
    (decide (text.points.length < 600) || endsWithAny (rstrip low) handoffTails ||
      tail.any fun tail => decide (tail.strip.points.length < 80))

def isEnvelope (text : PyString) : Bool :=
  startsWithAny text ["\x7b"] && within "\"status\"" (first 40 text) &&
    (within "\"content\"" (first 300 text) || within "\"ok\"" (first 40 text))

def classifyDeliverable (summary : PyString) (isDataAgent reportWritten : Bool)
    (dataToolCalls : Nat) : Option PyString :=
  let text := summary.strip
  if text = .empty then some "empty deliverable"
  else if unparsedToolMarkers.any (within · text.lower) then
    some "unparsed tool-call markup (provider did not parse tool calls)"
  else if fabricationMarkers.any (within · text.lower) then
    some "explicitly fabricated / mock data"
  else if isEnvelope text then some "raw tool-result envelope, not analysis"
  else if isPlanStub text then some "plan-only stub (no executed analysis / conclusion)"
  else if isDataAgent && ! reportWritten && decide (dataToolCalls = 0) then
    some "data agent produced no tool calls and no report.md"
  else none

end Deliverables

section Responses

-- What the provider counts itself
structure Usage where
  inputTokens : Nat
  outputTokens : Nat

structure LLMResponse where
  content : Option PyString := none
  toolCalls : List ToolCall := []
  usageMetadata : Option Usage := none
  contentFilterTriggered : Bool := false

structure ProviderStreamError where
  retryable : Bool
  text : PyString

-- How registry.execute ends.
inductive Execution where
  | returned (result : PyString)
  | denied (userSafeMessage : PyString)
  | raised (error : PyError)

structure Config where
  defaultMaxIterations : Int := 50
  defaultTimeoutSeconds : Int := 300
  streamMaxRetries : Nat := 2
  maxTokenEstimate : Nat := 120000

-- What one run finds around it, by its iterations. What is read of the disk at the end of a run is
-- read twice.
structure Surroundings where
  systemPrompt : PyString
  -- The rendered prompt, or what rendering it raises and its text
  userPrompt : Except (PyError × PyString) PyString
  -- A fourth of the length of the messages as JSON
  estimateTokens : List Agent.Loop.Message → Nat
  elapsed : Nat → ℚ
  -- By the attempts of the iteration
  stream : Nat → Nat → Except ProviderStreamError LLMResponse
  -- By the calls of the iteration
  execute : Nat → Nat → Execution
  report : Nat → Option PyString
  reportAgain : Nat → Option PyString
  artifacts : Nat → List PyString
  contentFilterWarnings : Nat → Nat → List PyString

-- The retries of a stream, of which so many are left
def retryStream (stream : Nat → Except ProviderStreamError LLMResponse) :
    Nat → Nat → Nat × Except ProviderStreamError LLMResponse
  | 0, attempt => (attempt + 1, stream attempt)
  | left + 1, attempt =>
    match stream attempt with
    | .ok response => (attempt + 1, .ok response)
    | .error raised =>
      if raised.retryable then retryStream stream left (attempt + 1)
      else (attempt + 1, .error raised)

-- How many attempts are made, and what the last of them gives
def streamWithRetries (stream : Nat → Except ProviderStreamError LLMResponse) (maxRetries : Nat) :
    Nat × Except ProviderStreamError LLMResponse :=
  retryStream stream maxRetries 0

end Responses

section Run

-- A request of the model, and how it ends. Without tools, the last one forces an answer in text.
structure Request where
  iteration : Nat
  messages : List Agent.Loop.Message
  tools : Bool
  attempts : Nat
  response : Except ProviderStreamError LLMResponse

structure Executed where
  call : ToolCall
  result : PyString

inductive Event where
  | workerStarted
  | workerFailed (error : PyString)
  | workerTimeout (elapsed : ℚ)
  | workerTokenLimit (tokens : Nat)
  | contentFilterCircuitBreaker (count : Nat)
  | contentFilterSkipped (iteration contentFilterCount : Nat)
  | workerPlanOnlyNudge (iteration count : Nat)
  | workerIncomplete (iterations : Int) (reason : PyString)
  | workerCompleted (iterations : Nat)
  | workerIterationLimit

structure State where
  messages : List Agent.Loop.Message
  totalInputTokens : Nat := 0
  totalOutputTokens : Nat := 0
  lastAssistantContent : PyString := .empty
  dataToolCalls : Nat := 0
  contentFilterCount : Nat := 0
  consecutiveContentFilterCount : Nat := 0
  planOnlyNudgeCount : Nat := 0
  -- All messages as they were appended, the requests, the tool calls and the events so far
  history : List Agent.Loop.Message
  requests : List Request := []
  executed : List Executed := []
  events : List Event := [.workerStarted]

-- What a run leaves besides its result
structure Ending where
  result : WorkerResult
  contentFilterWarnings : List PyString := []
  summaryFile : Option PyString := none
  messagesFile : Option (List Agent.Loop.Message) := none

inductive Progress where
  | next (s : State)
  | done (ending : Ending) (s : State)
  | raised (error : PyError) (s : State)

namespace State

def say (messages : List Agent.Loop.Message) (s : State) : State :=
  { s with messages := s.messages ++ messages, history := s.history ++ messages }

def emit (event : Event) (s : State) : State := { s with events := s.events ++ [event] }

def microcompact (s : State) : State :=
  { s with
    messages :=
      clearFirst (s.messages.countP Agent.Loop.Message.isTool - keepRecentTools) s.messages }

end State

variable [PyText]

def bestSummary (messages : List Agent.Loop.Message) (fallback : PyString) : PyString :=
  let texts := messages.filterMap fun message =>
    match message with
    | .assistant (some content) _ =>
      if 100 < content.strip.points.length then some content else none
    | _ => none
  match texts with
  | [] => fallback
  | text :: rest =>
    rest.foldl (fun best other => if best.points.length < other.points.length then other else best)
      text

-- report.md, if it says anything
def resolveSummary (report : Option PyString) (fallback : PyString) : PyString :=
  match report with
  | some content => if content.strip = .empty then fallback else content.strip
  | none => fallback

def reportWritten (report : Option PyString) : Bool :=
  report.any fun content => content.strip ≠ .empty

def orElse (text fallback : PyString) : PyString := if text = .empty then fallback else text

def intText (n : Int) : PyString :=
  if n < 0 then ("-" : PyString) ++ ⟨decimal n.natAbs⟩ else ⟨decimal n.natAbs⟩

def natText (n : Nat) : PyString := ⟨decimal n⟩

def timeoutText (elapsed : ℚ) (iteration : Nat) : PyString :=
  ("Worker timed out after " : PyString) ++ intText (roundHalfEven elapsed) ++ ("s (" : PyString) ++
    natText iteration ++ (" iterations)" : PyString)

def tokenLimitText (tokens iteration : Nat) : PyString :=
  ("Worker context too large (~" : PyString) ++ natText tokens ++ (" tokens, " : PyString) ++
    natText iteration ++ (" iterations)" : PyString)

def iterationLimitText (maxIterations : Int) : PyString :=
  ("Worker hit iteration limit (" : PyString) ++ intText maxIterations ++
    (" iterations)" : PyString)

def wrapUpText (remaining : Int) : PyString :=
  ("[SYSTEM] You have " : PyString) ++ intText remaining ++
    (" iterations remaining. If report.md is not written yet, make one final write_file call " ++
      "for report.md. Otherwise stop calling tools and output your final analysis summary as " ++
      "plain text." : String)

def nudgeText : PyString :=
  "[SYSTEM] That was Phase 1 (plan only, 0 tool calls) \u2014 noted. Now move to Phase 2: make " ++
    "actual tool calls (load_skill, write_file, bash, etc.) instead of describing them in text."

variable (config : Config) (agent : SwarmAgentSpec) (around : Surroundings)

-- An attribute of 0 is none.
def maxIterations : Int :=
  if agent.maxIterations = 0 then config.defaultMaxIterations else agent.maxIterations

def timeout : Int :=
  if agent.timeoutSeconds = 0 then config.defaultTimeoutSeconds else agent.timeoutSeconds

def wrapUpAt : Int := max 1 (maxIterations config agent * 4 / 5)

def isLastIteration (iteration : Nat) : Bool :=
  decide ((iteration : Int) = maxIterations config agent - 1)

def estimateTokens (messages : List Agent.Loop.Message) (response : LLMResponse) : Nat × Nat :=
  let fallback :=
    (around.estimateTokens messages, (response.content.getD .empty).points.length / 4)
  match response.usageMetadata with
  | some usage =>
    if usage.inputTokens = 0 ∧ usage.outputTokens = 0 then fallback
    else (usage.inputTokens, usage.outputTokens)
  | none => fallback

-- The result of a run that ends in an iteration
def State.result (iteration : Nat) (status : WorkerStatus) (summary : PyString) (iterations : Int)
    (error : Option PyString) (s : State) : WorkerResult where
  status := status
  summary := summary
  artifactPaths := around.artifacts iteration
  iterations := iterations
  error := error
  inputTokens := s.totalInputTokens
  outputTokens := s.totalOutputTokens

def State.warnings (iteration : Nat) (s : State) : List PyString :=
  around.contentFilterWarnings s.contentFilterCount (iteration + 1)

def timedOut (iteration : Nat) (s : State) : Progress :=
  let summary := resolveSummary (around.report iteration) <|
    orElse (bestSummary s.messages s.lastAssistantContent)
      (timeoutText (around.elapsed iteration) iteration)
  .done
    { result := s.result around iteration .timeout summary iteration none
      contentFilterWarnings := s.warnings around iteration
      summaryFile := some summary
      messagesFile := some s.messages }
    (s.emit (.workerTimeout (around.elapsed iteration)))

def tokenLimited (iteration tokens : Nat) (s : State) : Progress :=
  let summary := resolveSummary (around.report iteration) <|
    orElse s.lastAssistantContent (tokenLimitText tokens iteration)
  .done
    { result := s.result around iteration .tokenLimit summary iteration none
      contentFilterWarnings := s.warnings around iteration
      summaryFile := some summary }
    (s.emit (.workerTokenLimit tokens))

def nudge (iteration : Nat) (s : State) : State :=
  if (iteration : Int) = wrapUpAt config agent then
    s.say [.user (wrapUpText (maxIterations config agent - iteration))]
  else s

def llmFailed (iteration : Nat) (raised : ProviderStreamError) (s : State) : Progress :=
  let errorMsg := ("LLM call failed at iteration " : PyString) ++ natText iteration ++
    (": " : PyString) ++ raised.text
  .done
    { result := s.result around iteration .failed
        (resolveSummary (around.report iteration) s.lastAssistantContent) iteration (some errorMsg)
      contentFilterWarnings := s.warnings around iteration }
    (s.emit (.workerFailed errorMsg))

def account (response : LLMResponse) (s : State) : State :=
  let tokens := estimateTokens around s.messages response
  { s with
    totalInputTokens := s.totalInputTokens + tokens.1
    totalOutputTokens := s.totalOutputTokens + tokens.2
    lastAssistantContent :=
      match response.content with
      | some content =>
        if 20 < content.strip.points.length then content else s.lastAssistantContent
      | none => s.lastAssistantContent }

def circuitBreakerError : PyString :=
  ("content_filter_circuit_breaker: " : PyString) ++ natText maxConsecutiveContentFilterSkips ++
    (" consecutive LLM responses were blocked by content moderation" : PyString)

-- Of a response that the provider has blocked
def filtered (iteration : Nat) (s : State) : Progress :=
  let s := { s with
    contentFilterCount := s.contentFilterCount + 1
    consecutiveContentFilterCount := s.consecutiveContentFilterCount + 1 }
  if maxConsecutiveContentFilterSkips ≤ s.consecutiveContentFilterCount then
    let summary := resolveSummary (around.report iteration) s.lastAssistantContent
    .done
      { result :=
          s.result around iteration .failed summary (iteration + 1) (some circuitBreakerError)
        contentFilterWarnings := s.warnings around iteration
        summaryFile := some summary }
      (s.emit (.contentFilterCircuitBreaker s.contentFilterCount))
  else
    .next ((s.emit (.contentFilterSkipped iteration s.contentFilterCount)).say
      [.system contentFilterSkipMessage])

-- The end of a run whose summary is judged. before: what precedes the reason
def judged (iteration : Nat) (summary : PyString) (iterations : Int)
    (before noDeliverable : PyString) (event : Event)
    (messagesFile : Option (List Agent.Loop.Message)) (s : State) : Progress :=
  let summary := resolveSummary (around.report iteration) summary
  let ending (status : WorkerStatus) (error : Option PyString) : Ending :=
    { result := s.result around iteration status summary iterations error
      contentFilterWarnings := s.warnings around iteration
      summaryFile := some summary
      messagesFile }
  match classifyDeliverable summary (isDataAgent agent)
      (reportWritten (around.reportAgain iteration)) s.dataToolCalls with
  | some reason =>
    .done (ending .incomplete (some (noDeliverable ++ reason)))
      (s.emit (.workerIncomplete iterations (before ++ reason)))
  | none => .done (ending .completed none) (s.emit event)

-- Of a response without tool calls
def concluded (iteration : Nat) (response : LLMResponse) (s : State) : Progress :=
  if startsWithAny (response.content.getD .empty).strip.lower planPrefixes ∧
      s.planOnlyNudgeCount < maxPlanOnlyNudges then
    let s := { s with planOnlyNudgeCount := s.planOnlyNudgeCount + 1 }
    .next ((s.emit (.workerPlanOnlyNudge iteration s.planOnlyNudgeCount)).say
      [.assistant response.content [], .user nudgeText])
  else
    judged agent around iteration
      (orElse (response.content.getD .empty) (orElse s.lastAssistantContent "(no summary)"))
      (iteration + 1) .empty "output contract not met: " (.workerCompleted (iteration + 1)) none s

def answerOf : Execution → Except PyError PyString
  | .returned result => .ok result
  | .denied userSafeMessage => .ok userSafeMessage
  | .raised error => .error error

def isDataCall (executed : Executed) : Bool :=
  executed.call.name ≠ "load_skill" && ! isErrorResult executed.result

def recordCall (executed : Executed) (s : State) : State :=
  let s := { s with
    dataToolCalls := if isDataCall executed then s.dataToolCalls + 1 else s.dataToolCalls
    executed := s.executed ++ [executed] }
  s.say [.tool (formatToolResult executed.call (first toolResultLimit executed.result))]

-- The calls of a response, from one of a number on, up to one that raises
def executeCalls (iteration : Nat) : Nat → List ToolCall → State → State × Option PyError
  | _, [], s => (s, none)
  | index, call :: rest, s =>
    match answerOf (around.execute iteration index) with
    | .ok result => executeCalls iteration (index + 1) rest (recordCall ⟨call, result⟩ s)
    | .error error => (s, some error)

def called (iteration : Nat) (response : LLMResponse) (s : State) : Progress :=
  let executed := executeCalls around iteration 0 response.toolCalls
    (s.say [.assistant response.content response.toolCalls])
  match executed.2 with
  | none => .next executed.1
  | some error => .raised error executed.1

def answered (iteration : Nat) (response : LLMResponse) (s : State) : Progress :=
  if response.contentFilterTriggered then filtered around iteration s
  else
    let s := { s with consecutiveContentFilterCount := 0 }
    if response.toolCalls = [] then concluded agent around iteration response s
    else called around iteration response s

def ask (iteration : Nat) (s : State) : Progress :=
  let answer := streamWithRetries (around.stream iteration) config.streamMaxRetries
  let request : Request :=
    ⟨iteration, s.messages, ! isLastIteration config agent iteration, answer.1, answer.2⟩
  let s := { s with requests := s.requests ++ [request] }
  match answer.2 with
  | .error raised => llmFailed around iteration raised s
  | .ok response => answered agent around iteration response (account around response s)

def iterate (iteration : Nat) (s : State) : Progress :=
  let s := s.microcompact
  if (timeout config agent : ℚ) < around.elapsed iteration then timedOut around iteration s
  else if config.maxTokenEstimate < around.estimateTokens s.messages then
    tokenLimited around iteration (around.estimateTokens s.messages) s
  else ask config agent around iteration (nudge config agent iteration s)

-- The last iteration is over, or there was none.
def iterationLimit (s : State) : Progress :=
  judged agent around (maxIterations config agent - 1).toNat
    (orElse (bestSummary s.messages s.lastAssistantContent)
      (iterationLimitText (maxIterations config agent)))
    (maxIterations config agent) "iteration limit; "
    "hit iteration limit without a valid deliverable: " .workerIterationLimit (some s.messages) s

-- The iterations from one of a number on, of which so many are left
def runIterations : Nat → Nat → State → Progress
  | 0, _, s => iterationLimit config agent around s
  | left + 1, iteration, s =>
    match iterate config agent around iteration s with
    | .next s => runIterations left (iteration + 1) s
    | ended => ended

def runWorker : Progress :=
  match around.userPrompt with
  | .ok userPrompt =>
    let messages := [.system around.systemPrompt, .user userPrompt]
    runIterations config agent around (maxIterations config agent).toNat 0
      { messages, history := messages }
  | .error (raised, text) =>
    let s : State := { messages := [], history := [] }
    if raised = .keyError ∨ raised = .valueError then
      let errorMsg := ("Failed to render prompt template: " : PyString) ++ text
      .done { result := { status := .failed, summary := .empty, error := some errorMsg } }
        (s.emit (.workerFailed errorMsg))
    else .raised raised s

def Progress.state : Progress → State
  | .next s => s
  | .done _ s => s
  | .raised _ s => s

end Run

end SynapseYield.Swarm.Worker
