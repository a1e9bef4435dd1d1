import SynapseYield.Properties.SwarmRuns
import SynapseYield.Properties.Transcripts
import SynapseYield.Swarm.Worker

set_option autoImplicit false

namespace SynapseYield.Agent.Loop

section Clearing

variable {messages more : List Message} {message : Message} {count bound : Nat}

theorem cleared_isTool : message.cleared.isTool = message.isTool := by
  unfold Message.cleared
  split
  · split
    · cases message <;> rfl
    · rfl
  · rfl

theorem cleared_cleared : message.cleared.cleared = message.cleared := by
  cases text : message.content with
  | none =>
    have same : message.cleared = message := by simp only [Message.cleared, text]
    rw [same, same]
  | some content =>
    by_cases long : 100 < content.points.length
    · have same : message.cleared = message.withContent "[cleared]" := by
        simp only [Message.cleared, text, if_pos long]
      rw [same]
      cases message <;> rfl
    · have same : message.cleared = message := by
        simp only [Message.cleared, text, if_neg long]
      rw [same, same]

theorem clearFirst_zero : clearFirst 0 messages = messages := by
  unfold clearFirst
  rfl

theorem clearFirst_tools :
    (clearFirst count messages).countP Message.isTool = messages.countP Message.isTool := by
  induction messages generalizing count with
  | nil => cases count <;> rfl
  | cons message rest ih =>
    cases count with
    | zero => rw [clearFirst_zero]
    | succ count =>
      rw [clearFirst]
      split
      next => rw [List.countP_cons, List.countP_cons, cleared_isTool, ih]
      next => rw [List.countP_cons, List.countP_cons, ih]

theorem clearFirst_append (enough : count ≤ messages.countP Message.isTool) :
    clearFirst count (messages ++ more) = clearFirst count messages ++ more := by
  induction messages generalizing count with
  | nil =>
    obtain rfl : count = 0 := Nat.le_zero.mp enough
    rw [clearFirst_zero, clearFirst_zero]
  | cons message rest ih =>
    cases count with
    | zero => rw [clearFirst_zero, clearFirst_zero]
    | succ count =>
      rw [List.countP_cons] at enough
      rw [List.cons_append, clearFirst, clearFirst]
      split
      next tool =>
        rw [if_pos tool] at enough
        rw [ih (Nat.le_of_succ_le_succ enough), List.cons_append]
      next other =>
        rw [if_neg other] at enough
        rw [ih enough, List.cons_append]

theorem clearFirst_clearFirst (fewer : bound ≤ count) :
    clearFirst count (clearFirst bound messages) = clearFirst count messages := by
  induction messages generalizing count bound with
  | nil => cases bound <;> rfl
  | cons message rest ih =>
    cases bound with
    | zero => rw [clearFirst_zero]
    | succ bound =>
      obtain ⟨count, rfl⟩ := Nat.exists_eq_add_of_le' (Nat.lt_of_lt_of_le bound.succ_pos fewer)
      have fewer := Nat.le_of_succ_le_succ fewer
      rw [clearFirst, clearFirst]
      split
      next tool => rw [clearFirst, cleared_isTool, if_pos tool, cleared_cleared, ih fewer]
      next other => rw [clearFirst, if_neg other, ih (Nat.succ_le_succ fewer)]

end Clearing

end SynapseYield.Agent.Loop

namespace SynapseYield.Swarm.Worker

open Shared Shared.Answers
open Agent.Loop (ToolCall clearFirst clearFirst_append clearFirst_clearFirst
  clearFirst_tools clearFirst_zero entries formatToolResult)

section Streams

variable {stream : Nat → Except ProviderStreamError LLMResponse} {maxRetries : Nat}

-- What the attempts at a stream come to: every one but the last fails, and may be made again.
structure Streamed (stream : Nat → Except ProviderStreamError LLMResponse)
    (maxRetries attempts : Nat) (response : Except ProviderStreamError LLMResponse) : Prop where
  made : 0 < attempts
  bounded : attempts ≤ maxRetries + 1
  last : response = stream (attempts - 1)
  failed : ∀ attempt, attempt + 1 < attempts → ∃ raised, stream attempt = .error raised ∧
    raised.retryable = true
  spent : ∀ raised, response = .error raised → raised.retryable = true → attempts = maxRetries + 1

theorem retryStream_spec (left attempt : Nat) (whole : attempt + left = maxRetries)
    (failed : ∀ earlier < attempt, ∃ raised, stream earlier = .error raised ∧
      raised.retryable = true) :
    Streamed stream maxRetries (retryStream stream left attempt).1
      (retryStream stream left attempt).2 := by
  induction left generalizing attempt with
  | zero =>
    refine ⟨Nat.succ_pos _, Nat.succ_le_succ whole.le, rfl, fun earlier before => ?_, ?_⟩
    · exact failed earlier (Nat.lt_of_succ_lt_succ before)
    · exact fun _ _ _ => congrArg Nat.succ whole
  | succ left ih =>
    have here : attempt + 1 ≤ maxRetries + 1 := by omega
    unfold retryStream
    cases answer : stream attempt with
    | ok response =>
      refine ⟨Nat.succ_pos _, here, answer.symm, fun earlier before => ?_, ?_⟩
      · exact failed earlier (Nat.lt_of_succ_lt_succ before)
      · rintro _ ⟨⟩
    | error raised =>
      dsimp only
      split
      next again =>
        refine ih (attempt + 1) (by omega) fun earlier before => ?_
        obtain before | rfl := Nat.lt_succ_iff_lt_or_eq.mp before
        · exact failed earlier before
        · exact ⟨raised, answer, again⟩
      next final =>
        refine ⟨Nat.succ_pos _, here, answer.symm, fun earlier before => ?_, ?_⟩
        · exact failed earlier (Nat.lt_of_succ_lt_succ before)
        · rintro _ ⟨⟩ again
          exact absurd again final

theorem streamWithRetries_spec : Streamed stream maxRetries
    (streamWithRetries stream maxRetries).1 (streamWithRetries stream maxRetries).2 :=
  retryStream_spec maxRetries 0 (Nat.zero_add _) fun _ before => absurd before (Nat.not_lt_zero _)

end Streams

-- What is left of a history where all results but the last are cleared
def shown (history : List Agent.Loop.Message) : List Agent.Loop.Message :=
  clearFirst (history.countP Agent.Loop.Message.isTool - keepRecentTools) history

theorem shown_recent {before after : List Agent.Loop.Message}
    (few : after.countP Agent.Loop.Message.isTool ≤ keepRecentTools) :
    after <:+ shown (before ++ after) := by
  have enough : (before ++ after).countP Agent.Loop.Message.isTool - keepRecentTools ≤
      before.countP Agent.Loop.Message.isTool := by
    rw [List.countP_append]
    omega
  exact ⟨_, (clearFirst_append enough).symm⟩

variable (config : Config) (agent : SwarmAgentSpec) (around : Surroundings)

-- A history begins with the prompts, and every call in it is answered at once.
def Opened (history : List Agent.Loop.Message) : Prop :=
  ∃ userPrompt rest, around.userPrompt = .ok userPrompt ∧
    history = .system around.systemPrompt :: .user userPrompt :: rest ∧ WellFormed (entries rest)

def Request.inputTokens (request : Request) : Nat :=
  match request.response with
  | .ok response => (estimateTokens around request.messages response).1
  | .error _ => 0

def Request.outputTokens (request : Request) : Nat :=
  match request.response with
  | .ok response => (estimateTokens around request.messages response).2
  | .error _ => 0

def Request.after (request : Request) (s : State) : State :=
  { s with
    requests := s.requests ++ [request]
    totalInputTokens := s.totalInputTokens + request.inputTokens around
    totalOutputTokens := s.totalOutputTokens + request.outputTokens around }

section Openings

variable {around} {history messages : List Agent.Loop.Message}

theorem Opened.append (opened : Opened around history) (plain : WellFormed (entries messages)) :
    Opened around (history ++ messages) := by
  obtain ⟨userPrompt, rest, rendered, rfl, wellFormed⟩ := opened
  refine ⟨userPrompt, rest ++ messages, rendered, rfl, ?_⟩
  rw [entries, List.map_append]
  exact wellFormed.append plain

theorem wellFormed_user (text : PyString) : WellFormed (entries [.user text]) :=
  .plain .nil

def Executed.message (executed : Executed) : Agent.Loop.Message :=
  .tool (formatToolResult executed.call (first toolResultLimit executed.result))

theorem answered_calls (content : Option PyString) (done : List Executed) :
    WellFormed (entries (.assistant content (done.map (·.call)) :: done.map Executed.message)) := by
  have block := WellFormed.block (.refl (done.map (·.call.id))) WellFormed.nil
  rw [List.append_nil] at block
  have same : entries (.assistant content (done.map (·.call)) :: done.map Executed.message) =
      .calls (done.map (·.call.id)) :: (done.map (·.call.id)).map .answer := by
    rw [entries, List.map_cons, List.map_map, List.map_map]
    refine congrArg₂ List.cons ?_ rfl
    exact congrArg Entry.calls (List.map_map ..)
  rw [same]
  exact block

end Openings

variable [PyText]

structure Kept (n : Nat) (s : State) : Prop where
  numbered : s.requests.map (·.iteration) = List.range n
  streamed : ∀ request ∈ s.requests, Streamed (around.stream request.iteration)
    config.streamMaxRetries request.attempts request.response
  tools : ∀ request ∈ s.requests, request.tools = ! isLastIteration config agent request.iteration
  inputTokens : s.totalInputTokens = (s.requests.map (Request.inputTokens around)).sum
  outputTokens : s.totalOutputTokens = (s.requests.map (Request.outputTokens around)).sum
  counted : s.dataToolCalls = s.executed.countP isDataCall

structure Going (n : Nat) (s : State) : Prop extends Kept config agent around n s where
  answered : ∀ request ∈ s.requests, ∃ response, request.response = .ok response
  opened : Opened around s.history
  cleared : ∃ count ≤ s.history.countP Agent.Loop.Message.isTool - keepRecentTools,
    s.messages = clearFirst count s.history

structure Closes (m : Nat) (ending : Ending) (s : State) : Prop
    extends Kept config agent around m s where
  spent : ending.result.inputTokens = s.totalInputTokens ∧
    ending.result.outputTokens = s.totalOutputTokens
  broken : ∀ request ∈ s.requests, ∀ raised, request.response = .error raised →
    request.iteration + 1 = m ∧ ending.result.status = .failed
  judged : ending.result.status = .completed →
    ending.summaryFile = some ending.result.summary ∧
      classifyDeliverable ending.result.summary (isDataAgent agent)
        (reportWritten (around.reportAgain (m - 1))) s.dataToolCalls = none

inductive Outcome (n : Nat) : Progress → Prop where
  | next {s : State} (going : Going config agent around (n + 1) s) : Outcome n (.next s)
  | done {m : Nat} {ending : Ending} {s : State} (within : m ≤ n + 1)
      (closes : Closes config agent around m ending s) :
      Outcome n (.done ending s)
  | raised {error : PyError} {s : State} (kept : Kept config agent around (n + 1) s)
      (answered : ∀ request ∈ s.requests, ∃ response, request.response = .ok response) :
      Outcome n (.raised error s)

inductive Ended (limit : Nat) : Progress → Prop where
  | done {m : Nat} {ending : Ending} {s : State} (within : m ≤ limit)
      (closes : Closes config agent around m ending s) : Ended limit (.done ending s)
  | raised {m : Nat} {error : PyError} {s : State} (within : m ≤ limit)
      (kept : Kept config agent around m s)
      (answered : ∀ request ∈ s.requests, ∃ response, request.response = .ok response) :
      Ended limit (.raised error s)

variable {config agent around} {n m : Nat} {s s' : State}
  {messages history : List Agent.Loop.Message}
  {iteration : Nat}

structure Quiet (s s' : State) : Prop where
  requests : s'.requests = s.requests
  inputTokens : s'.totalInputTokens = s.totalInputTokens
  outputTokens : s'.totalOutputTokens = s.totalOutputTokens
  counted : s.dataToolCalls = s.executed.countP isDataCall →
    s'.dataToolCalls = s'.executed.countP isDataCall

theorem Quiet.trans {s'' : State} (before : Quiet s s') (after : Quiet s' s'') : Quiet s s'' :=
  ⟨after.requests.trans before.requests, after.inputTokens.trans before.inputTokens,
    after.outputTokens.trans before.outputTokens, after.counted ∘ before.counted⟩

theorem Kept.quiet (kept : Kept config agent around n s) (quiet : Quiet s s') :
    Kept config agent around n s' := by
  obtain ⟨requests, inputTokens, outputTokens, counted⟩ := quiet
  refine ⟨?_, ?_, ?_, ?_, ?_, counted kept.counted⟩
  · exact requests ▸ kept.numbered
  · exact requests ▸ kept.streamed
  · exact requests ▸ kept.tools
  · rw [requests, inputTokens, kept.inputTokens]
  · rw [requests, outputTokens, kept.outputTokens]

theorem Going.quietly (going : Going config agent around n s) (quiet : Quiet s s')
    (messages : s'.messages = s.messages) (history : s'.history = s.history) :
    Going config agent around n s' := by
  refine ⟨going.quiet quiet, ?_, ?_, ?_⟩
  · exact quiet.requests ▸ going.answered
  · exact history ▸ going.opened
  · rw [messages, history]
    exact going.cleared

theorem quiet_say : Quiet s (s.say messages) :=
  ⟨rfl, rfl, rfl, id⟩

theorem Going.say (going : Going config agent around n s)
    (plain : WellFormed (entries messages)) : Going config agent around n (s.say messages) := by
  refine ⟨going.quiet quiet_say, going.answered, going.opened.append plain, ?_⟩
  obtain ⟨count, few, same⟩ := going.cleared
  refine ⟨count, few.trans ?_, ?_⟩
  · dsimp only [State.say]
    rw [List.countP_append]
    omega
  · dsimp only [State.say]
    rw [clearFirst_append (few.trans (Nat.sub_le _ _)), same]

theorem Going.microcompact (going : Going config agent around n s) :
    Going config agent around n s.microcompact ∧ s.microcompact.messages = shown s.history := by
  obtain ⟨count, few, same⟩ := going.cleared
  have current : s.microcompact.messages = shown s.history := by
    dsimp only [State.microcompact]
    rw [same, clearFirst_tools, clearFirst_clearFirst few]
    rfl
  exact ⟨⟨going.quiet ⟨rfl, rfl, rfl, id⟩, going.answered, going.opened,
    _, Nat.le_refl _, current⟩, current⟩

theorem Going.nudge (going : Going config agent around n s)
    (current : s.messages = Worker.shown s.history) (iteration : Nat) :
    Going config agent around n (nudge config agent iteration s) ∧
      (nudge config agent iteration s).messages =
        Worker.shown (nudge config agent iteration s).history := by
  unfold Worker.nudge
  split
  next =>
    refine ⟨going.say (wellFormed_user _), ?_⟩
    dsimp only [State.say]
    rw [current, Worker.shown, Worker.shown, List.countP_append]
    exact (clearFirst_append (Nat.sub_le _ _)).symm
  next => exact ⟨going, current⟩

theorem Going.request (going : Going config agent around n s) (request : Request)
    (number : request.iteration = n)
    (tools : request.tools = ! isLastIteration config agent n)
    (streamed : Streamed (around.stream n) config.streamMaxRetries request.attempts
      request.response) :
    Kept config agent around (n + 1) (request.after around s) := by
  have each {P : Request → Prop} (before : ∀ request ∈ s.requests, P request) (last : P request) :
      ∀ other ∈ s.requests ++ [request], P other := by
    intro other listed
    obtain old | new := List.mem_append.mp listed
    · exact before other old
    · exact List.mem_singleton.mp new ▸ last
  subst number
  refine ⟨?_, each going.streamed streamed, each going.tools tools, ?_, ?_, going.counted⟩
  · dsimp only [Request.after]
    rw [List.map_append, going.numbered, List.range_succ]
    rfl
  · dsimp only [Request.after]
    rw [List.map_append, List.sum_append, going.inputTokens]
    simp
  · dsimp only [Request.after]
    rw [List.map_append, List.sum_append, going.outputTokens]
    simp

section Endings

theorem Going.closes (going : Going config agent around n s) {ending : Ending}
    (spent : ending.result.inputTokens = s.totalInputTokens ∧
      ending.result.outputTokens = s.totalOutputTokens)
    (judged : ending.result.status = .completed →
      ending.summaryFile = some ending.result.summary ∧
        classifyDeliverable ending.result.summary (isDataAgent agent)
          (reportWritten (around.reportAgain (n - 1))) s.dataToolCalls = none) (event : Event) :
    Closes config agent around n ending (s.emit event) where
  toKept := going.quiet ⟨rfl, rfl, rfl, id⟩
  spent := spent
  judged := judged
  broken := by
    intro request listed raised broken
    obtain ⟨response, answered⟩ := going.answered request listed
    rw [answered] at broken
    cases broken

theorem judged_closes (going : Going config agent around n s) (last : iteration = n - 1)
    (summary : PyString) (iterations : Int) (before noDeliverable : PyString) (event : Event)
    (messagesFile : Option (List Agent.Loop.Message)) :
    ∃ ending last, judged agent around iteration summary iterations before noDeliverable event
      messagesFile s = .done ending last ∧ Closes config agent around n ending last := by
  unfold judged
  dsimp only
  split
  next =>
    refine ⟨_, _, rfl, going.closes ⟨rfl, rfl⟩ ?_ _⟩
    rintro ⟨⟩
  next verdict =>
    exact ⟨_, _, rfl, going.closes ⟨rfl, rfl⟩ (fun _ => ⟨rfl, last ▸ verdict⟩) _⟩

end Endings

section Steps

theorem filtered_outcome (going : Going config agent around (n + 1) s) :
    Outcome config agent around n (filtered around n s) := by
  have counted : Going config agent around (n + 1) { s with
      contentFilterCount := s.contentFilterCount + 1
      consecutiveContentFilterCount := s.consecutiveContentFilterCount + 1 } :=
    going.quietly ⟨rfl, rfl, rfl, id⟩ rfl rfl
  unfold filtered
  dsimp only
  split
  next =>
    refine .done (Nat.le_refl _) (counted.closes ⟨rfl, rfl⟩ ?_ _)
    rintro ⟨⟩
  next =>
    refine .next (Going.say ?_ ?_)
    · exact counted.quietly ⟨rfl, rfl, rfl, id⟩ rfl rfl
    · exact .plain .nil

theorem concluded_outcome (going : Going config agent around (n + 1) s) (response : LLMResponse) :
    Outcome config agent around n (concluded agent around n response s) := by
  unfold concluded
  split
  next =>
    dsimp only
    refine .next (Going.say ?_ ?_)
    · exact going.quietly ⟨rfl, rfl, rfl, id⟩ rfl rfl
    · exact .plain (.plain .nil)
  next =>
    obtain ⟨ending, last, same, closes⟩ := judged_closes going
      (Nat.add_sub_cancel n 1).symm
      (orElse (response.content.getD .empty) (orElse s.lastAssistantContent "(no summary)"))
      (n + 1) .empty "output contract not met: " (.workerCompleted (n + 1)) none
    rw [same]
    exact .done (Nat.le_refl _) closes

def recordCalls (done : List Executed) (s : State) : State :=
  done.foldl (fun s executed => recordCall executed s) s

theorem recordCalls_say (done : List Executed) (s : State) :
    (recordCalls done s).messages = s.messages ++ done.map Executed.message ∧
      (recordCalls done s).history = s.history ++ done.map Executed.message := by
  induction done generalizing s with
  | nil => exact ⟨(List.append_nil _).symm, (List.append_nil _).symm⟩
  | cons executed rest ih =>
    obtain ⟨messages, history⟩ := ih (recordCall executed s)
    rw [recordCalls, List.foldl_cons]
    rw [recordCalls] at messages history
    rw [messages, history, List.map_cons]
    exact ⟨List.append_assoc _ [_] _, List.append_assoc _ [_] _⟩

theorem recordCalls_quiet (done : List Executed) : Quiet s (recordCalls done s) := by
  induction done generalizing s with
  | nil => exact ⟨rfl, rfl, rfl, id⟩
  | cons executed rest ih =>
    have first : Quiet s (recordCall executed s) :=
      ⟨rfl, rfl, rfl, fun counted => ?_⟩
    · exact first.trans ih
    dsimp only [recordCall, State.say]
    rw [List.countP_append, ← counted, List.countP_singleton]
    split <;> rfl

theorem executeCalls_spec (around : Surroundings) (iteration index : Nat) (calls : List ToolCall)
    (s : State) : ∃ done : List Executed,
      (executeCalls around iteration index calls s).1 = recordCalls done s ∧
      ((executeCalls around iteration index calls s).2 = none → done.map (·.call) = calls) := by
  induction calls generalizing index s with
  | nil => exact ⟨[], rfl, fun _ => rfl⟩
  | cons call rest ih =>
    unfold executeCalls
    cases answerOf (around.execute iteration index) with
    | ok result =>
      obtain ⟨done, same, all⟩ := ih (index + 1) (recordCall ⟨call, result⟩ s)
      exact ⟨⟨call, result⟩ :: done, same, fun ended => congrArg (call :: ·) (all ended)⟩
    | error raised =>
      refine ⟨[], rfl, ?_⟩
      rintro ⟨⟩

theorem called_outcome (going : Going config agent around (n + 1) s) (response : LLMResponse) :
    Outcome config agent around n (called around iteration response s) := by
  obtain ⟨done, same, all⟩ := executeCalls_spec around iteration 0 response.toolCalls
    (s.say [.assistant response.content response.toolCalls])
  have quiet : Quiet s
      (recordCalls done (s.say [.assistant response.content response.toolCalls])) :=
    quiet_say.trans (recordCalls_quiet done)
  unfold called
  dsimp only
  rw [same]
  split
  next ended =>
    have calls := all ended
    have said := recordCalls_say done (s.say [.assistant response.content response.toolCalls])
    have going' := going.say (answered_calls response.content done)
    rw [calls] at going'
    refine .next ⟨going.quiet quiet, ?_, ?_, ?_⟩
    · rw [quiet.requests]
      exact going.answered
    · rw [said.2]
      dsimp only [State.say] at going' ⊢
      rw [List.append_assoc]
      exact going'.opened
    · rw [said.1, said.2]
      dsimp only [State.say] at going' ⊢
      rw [List.append_assoc, List.append_assoc]
      exact going'.cleared
  next =>
    refine .raised (going.quiet quiet) ?_
    rw [quiet.requests]
    exact going.answered

theorem answered_outcome (going : Going config agent around (n + 1) s) (response : LLMResponse) :
    Outcome config agent around n (answered agent around n response s) := by
  have reset : Going config agent around (n + 1)
      { s with consecutiveContentFilterCount := 0 } :=
    going.quietly ⟨rfl, rfl, rfl, id⟩ rfl rfl
  unfold answered
  dsimp only
  split
  next => exact filtered_outcome going
  next =>
    split
    next => exact concluded_outcome reset response
    next => exact called_outcome reset response

theorem ask_outcome (going : Going config agent around n s) :
    Outcome config agent around n (ask config agent around n s) := by
  rcases same : streamWithRetries (around.stream n) config.streamMaxRetries with
    ⟨attempts, response⟩
  have streamed := @streamWithRetries_spec (around.stream n) config.streamMaxRetries
  rw [same] at streamed
  have kept := going.request
    ⟨n, s.messages, ! isLastIteration config agent n, attempts, response⟩ rfl rfl streamed
  unfold ask
  rw [same]
  dsimp only
  cases response with
  | error raised =>
    refine .done (Nat.le_refl _)
      ⟨kept.quiet ⟨rfl, rfl, rfl, id⟩, ⟨rfl, rfl⟩, ?_, ?_⟩
    · intro request listed other broken
      obtain old | new := List.mem_append.mp listed
      · obtain ⟨response, answered⟩ := going.answered request old
        rw [answered] at broken
        cases broken
      · obtain rfl := List.mem_singleton.mp new
        exact ⟨rfl, rfl⟩
    · rintro ⟨⟩
  | ok response =>
    let request : Request :=
      ⟨n, s.messages, ! isLastIteration config agent n, attempts, .ok response⟩
    have same : Quiet (request.after around s)
        (account around response { s with requests := s.requests ++ [request] }) :=
      ⟨rfl, rfl, rfl, id⟩
    refine answered_outcome ⟨kept.quiet same, ?_, going.opened, going.cleared⟩ response
    intro request listed
    obtain old | new := List.mem_append.mp listed
    · exact going.answered request old
    · obtain rfl := List.mem_singleton.mp new
      exact ⟨response, rfl⟩

theorem iterate_outcome (going : Going config agent around n s) :
    Outcome config agent around n (iterate config agent around n s) := by
  obtain ⟨going, current⟩ := going.microcompact
  unfold iterate
  dsimp only
  split
  next =>
    refine .done (Nat.le_succ _) (going.closes ⟨rfl, rfl⟩ ?_ _)
    rintro ⟨⟩
  next =>
    split
    next =>
      refine .done (Nat.le_succ _) (going.closes ⟨rfl, rfl⟩ ?_ _)
      rintro ⟨⟩
    next =>
      exact ask_outcome (going.nudge current n).1

end Steps

theorem runIterations_ended (left : Nat) (going : Going config agent around n s)
    (whole : n + left = (maxIterations config agent).toNat) :
    Ended config agent around (n + left)
      (runIterations config agent around left n s) := by
  induction left generalizing n s with
  | zero =>
    have here : (maxIterations config agent - 1).toNat = n - 1 := by omega
    obtain ⟨ending, last, same, closes⟩ := judged_closes going here _ _ _ _ _ _
    unfold runIterations iterationLimit
    rw [same]
    exact .done (Nat.le_refl _) closes
  | succ left ih =>
    have outcome := iterate_outcome going
    unfold runIterations
    cases progress : iterate config agent around n s with
    | next s =>
      rw [progress] at outcome
      cases outcome with
      | next going =>
        rw [← Nat.succ_add_eq_add_succ] at whole ⊢
        exact ih going whole
    | done ending s =>
      rw [progress] at outcome
      cases outcome with
      | done within closes => exact .done (within.trans (by omega)) closes
    | raised error s =>
      rw [progress] at outcome
      cases outcome with
      | raised kept answered => exact .raised (by omega) kept answered

theorem start_going {userPrompt : PyString} (rendered : around.userPrompt = .ok userPrompt) :
    Going config agent around 0
      { messages := [.system around.systemPrompt, .user userPrompt]
        history := [.system around.systemPrompt, .user userPrompt] } where
  numbered := rfl
  streamed := List.forall_mem_nil _
  tools := List.forall_mem_nil _
  inputTokens := rfl
  outputTokens := rfl
  counted := rfl
  answered := List.forall_mem_nil _
  opened := ⟨userPrompt, [], rendered, rfl, .nil⟩
  cleared := ⟨0, Nat.zero_le _, clearFirst_zero.symm⟩

theorem runWorker_ended (config : Config) (agent : SwarmAgentSpec) (around : Surroundings) :
    Ended config agent around (maxIterations config agent).toNat
      (runWorker config agent around) := by
  have none_yet {P : Request → Prop} : ∀ request ∈ ([] : List Request), P request :=
    List.forall_mem_nil P
  unfold runWorker
  cases rendered : around.userPrompt with
  | ok userPrompt =>
    have start : Going config agent around 0
        { messages := [.system around.systemPrompt, .user userPrompt]
          history := [.system around.systemPrompt, .user userPrompt] } :=
      start_going rendered
    have ended := runIterations_ended (maxIterations config agent).toNat start (Nat.zero_add _)
    rwa [Nat.zero_add] at ended
  | error failure =>
    have start : Kept config agent around 0 { messages := [], history := [] } :=
      ⟨rfl, none_yet, none_yet, rfl, rfl, rfl⟩
    dsimp only
    split
    next =>
      refine .done (Nat.zero_le _) ⟨start.quiet ⟨rfl, rfl, rfl, id⟩, ⟨rfl, rfl⟩,
        none_yet, ?_⟩
      rintro ⟨⟩
    next => exact .raised (Nat.zero_le _) start none_yet

-- One iteration asks the model once, with tools but in the last one, and tries again what may be
-- tried again. What has failed for good is the last request, and fails the run.
theorem worker_requests : ∃ n ≤ (maxIterations config agent).toNat,
    (runWorker config agent around).state.requests.map (·.iteration) = List.range n ∧
      ∀ request ∈ (runWorker config agent around).state.requests,
        Streamed (around.stream request.iteration) config.streamMaxRetries request.attempts
          request.response ∧
        (request.tools = false ↔ (request.iteration : Int) + 1 = maxIterations config agent) ∧
        ∀ raised, request.response = .error raised → request.iteration + 1 = n ∧
          ∃ ending s, runWorker config agent around = .done ending s ∧
            ending.result.status = .failed := by
  have tools (iteration : Nat) : (! isLastIteration config agent iteration) = false ↔
      (iteration : Int) + 1 = maxIterations config agent := by
    rw [isLastIteration, Bool.not_eq_false', decide_eq_true_iff]
    omega
  have ended := runWorker_ended config agent around
  cases ran : runWorker config agent around with
  | next s =>
    rw [ran] at ended
    cases ended
  | done ending s =>
    rw [ran] at ended
    cases ended with
    | done within closes =>
      refine ⟨_, within, closes.numbered, fun request listed => ?_⟩
      refine ⟨closes.streamed request listed, closes.tools request listed ▸ tools _,
        fun raised broken => ?_⟩
      obtain ⟨last, failed⟩ := closes.broken request listed raised broken
      exact ⟨last, ending, s, rfl, failed⟩
  | raised error s =>
    rw [ran] at ended
    cases ended with
    | raised within kept answered =>
      refine ⟨_, within, kept.numbered, fun request listed => ?_⟩
      refine ⟨kept.streamed request listed, kept.tools request listed ▸ tools _,
        fun raised broken => ?_⟩
      obtain ⟨response, same⟩ := answered request listed
      rw [same] at broken
      cases broken

section Histories

variable {requests : List Request}

def reminded (config : Config) (agent : SwarmAgentSpec) (iteration : Nat) :
    List Agent.Loop.Message :=
  if (iteration : Int) = max 1 (maxIterations config agent * 4 / 5) then
    [.user (wrapUpText (maxIterations config agent - iteration))]
  else []

def Execution.text : Execution → Option PyString
  | .returned result => some result
  | .denied userSafeMessage => some userSafeMessage
  | .raised _ => none

def results (around : Surroundings) (iteration index : Nat) (calls : List ToolCall) :
    List Agent.Loop.Message :=
  (calls.zipIdx index).filterMap fun (call, index) =>
    (around.execute iteration index).text.map fun text =>
      .tool (formatToolResult call (first toolResultLimit text))

def replied (around : Surroundings) (iteration : Nat) (response : LLMResponse) :
    List Agent.Loop.Message :=
  if response.contentFilterTriggered then [.system contentFilterSkipMessage]
  else if response.toolCalls = [] then [.assistant response.content [], .user nudgeText]
  else .assistant response.content response.toolCalls ::
    results around iteration 0 response.toolCalls

def turn (config : Config) (agent : SwarmAgentSpec) (around : Surroundings) (request : Request) :
    List Agent.Loop.Message :=
  reminded config agent request.iteration ++
    match request.response with
    | .ok response => replied around request.iteration response
    | .error _ => []

def opening (around : Surroundings) : List Agent.Loop.Message :=
  match around.userPrompt with
  | .ok userPrompt => [.system around.systemPrompt, .user userPrompt]
  | .error _ => []

def transcript (config : Config) (agent : SwarmAgentSpec) (around : Surroundings)
    (requests : List Request) : List Agent.Loop.Message :=
  opening around ++ requests.flatMap (turn config agent around)

def Fits (config : Config) (agent : SwarmAgentSpec) (around : Surroundings)
    (requests : List Request) : Prop :=
  ∀ before request after, requests = before ++ request :: after →
    request.messages = shown (transcript config agent around before ++
      reminded config agent request.iteration) ∧
    Opened around (transcript config agent around before ++
      reminded config agent request.iteration)

omit [PyText] in
theorem transcript_snoc (request : Request) :
    transcript config agent around (requests ++ [request]) =
      transcript config agent around requests ++ turn config agent around request := by
  simp [transcript]

omit [PyText] in
theorem Fits.snoc (fits : Fits config agent around requests) {request : Request}
    (messages : request.messages = shown (transcript config agent around requests ++
      reminded config agent request.iteration))
    (opened : Opened around (transcript config agent around requests ++
      reminded config agent request.iteration)) :
    Fits config agent around (requests ++ [request]) := by
  intro before other after split
  obtain rfl | ⟨after, last, rfl⟩ := List.eq_nil_or_concat after
  · obtain ⟨rfl, same⟩ := List.append_inj' split rfl
    obtain rfl := (List.cons.inj same).1
    exact ⟨messages, opened⟩
  · rw [List.concat_eq_append, ← List.cons_append, ← List.append_assoc] at split
    exact fits before other after (List.append_inj' split rfl).1

omit [PyText] in
theorem results_cons {iteration index : Nat} {call : ToolCall} {rest : List ToolCall}
    {text : PyString} (given : (around.execute iteration index).text = some text) :
    results around iteration index (call :: rest) =
      .tool (formatToolResult call (first toolResultLimit text)) ::
        results around iteration (index + 1) rest := by
  rw [results, List.zipIdx_cons, List.filterMap_cons]
  simp only [given, Option.map_some]
  rfl

theorem executeCalls_told (around : Surroundings) (iteration index : Nat) (calls : List ToolCall)
    (s : State) :
    (executeCalls around iteration index calls s).1.requests = s.requests ∧
      ((executeCalls around iteration index calls s).2 = none →
        (executeCalls around iteration index calls s).1.history =
          s.history ++ results around iteration index calls) := by
  induction calls generalizing index s with
  | nil => exact ⟨rfl, fun _ => (List.append_nil _).symm⟩
  | cons call rest ih =>
    unfold executeCalls
    cases execution : around.execute iteration index with
    | raised error =>
      refine ⟨rfl, ?_⟩
      rintro ⟨⟩
    | returned result | denied result =>
      obtain ⟨requests, history⟩ := ih (index + 1) (recordCall ⟨call, result⟩ s)
      rw [results_cons (congrArg Execution.text execution)]
      exact ⟨requests, fun ended => (history ended).trans (List.append_assoc ..)⟩

theorem answered_told (agent : SwarmAgentSpec) (around : Surroundings) (iteration : Nat)
    (response : LLMResponse) (s : State) :
    (answered agent around iteration response s).state.requests = s.requests ∧
      ∀ s', answered agent around iteration response s = .next s' →
        s'.history = s.history ++ replied around iteration response := by
  unfold answered replied
  split
  next =>
    unfold filtered
    dsimp only
    split
    next => exact ⟨rfl, nofun⟩
    next =>
      refine ⟨rfl, ?_⟩
      rintro _ ⟨⟩
      rfl
  next =>
    dsimp only
    split
    next none =>
      unfold concluded
      split
      next =>
        refine ⟨rfl, ?_⟩
        rintro _ ⟨⟩
        rfl
      next =>
        unfold judged
        dsimp only
        split
        next => exact ⟨rfl, nofun⟩
        next => exact ⟨rfl, nofun⟩
    next =>
      obtain ⟨requests, history⟩ := executeCalls_told around iteration 0 response.toolCalls
        (State.say [.assistant response.content response.toolCalls]
          { s with consecutiveContentFilterCount := 0 })
      unfold called
      dsimp only
      split
      next ended =>
        refine ⟨requests, ?_⟩
        rintro _ ⟨⟩
        exact (history ended).trans (List.append_assoc ..)
      next => exact ⟨requests, nofun⟩

omit [PyText] in
theorem nudge_told (config : Config) (agent : SwarmAgentSpec) (iteration : Nat) (s : State) :
    (nudge config agent iteration s).requests = s.requests ∧
      (nudge config agent iteration s).history = s.history ++ reminded config agent iteration := by
  unfold nudge reminded wrapUpAt
  split
  next => exact ⟨rfl, rfl⟩
  next => exact ⟨rfl, (List.append_nil _).symm⟩

theorem ask_told (fits : Fits config agent around s.requests)
    (messages : s.messages = shown s.history) (opened : Opened around s.history)
    (history : s.history =
      transcript config agent around s.requests ++ reminded config agent n) :
    Fits config agent around (ask config agent around n s).state.requests ∧
      ∀ s', ask config agent around n s = .next s' →
        s'.history = transcript config agent around s'.requests := by
  unfold ask
  rcases streamWithRetries (around.stream n) config.streamMaxRetries with ⟨attempts, answer⟩
  let request : Request := ⟨n, s.messages, ! isLastIteration config agent n, attempts, answer⟩
  have longer : Fits config agent around (s.requests ++ [request]) :=
    fits.snoc (messages.trans (congrArg shown history)) (history ▸ opened)
  cases answer with
  | error raised => exact ⟨longer, nofun⟩
  | ok response =>
    dsimp only
    obtain ⟨requests, told⟩ := answered_told agent around n response
      (account around response { s with requests := s.requests ++ [request] })
    refine ⟨requests ▸ longer, fun s' goes => ?_⟩
    rw [goes] at requests
    rw [told s' goes, show s'.requests = s.requests ++ [request] from requests, transcript_snoc]
    change s.history ++ _ = _
    rw [history, List.append_assoc]
    rfl

theorem iterate_told (going : Going config agent around n s)
    (history : s.history = transcript config agent around s.requests)
    (fits : Fits config agent around s.requests) :
    Fits config agent around (iterate config agent around n s).state.requests ∧
      ∀ s', iterate config agent around n s = .next s' →
        s'.history = transcript config agent around s'.requests := by
  obtain ⟨going, current⟩ := going.microcompact
  obtain ⟨reminding, whole⟩ := going.nudge current n
  obtain ⟨requests, longer⟩ := nudge_told config agent n s.microcompact
  unfold iterate
  dsimp only
  split
  next => exact ⟨fits, nofun⟩
  next =>
    split
    next => exact ⟨fits, nofun⟩
    next =>
      refine ask_told (requests ▸ fits) whole reminding.opened ?_
      rw [longer, requests]
      exact congrArg (· ++ reminded config agent n) history

theorem runIterations_told (left : Nat) (going : Going config agent around n s)
    (history : s.history = transcript config agent around s.requests)
    (fits : Fits config agent around s.requests) :
    Fits config agent around (runIterations config agent around left n s).state.requests := by
  induction left generalizing n s with
  | zero =>
    unfold runIterations iterationLimit judged
    dsimp only
    split
    next => exact fits
    next => exact fits
  | succ left ih =>
    obtain ⟨kept, told⟩ := iterate_told going history fits
    have outcome := iterate_outcome going
    unfold runIterations
    cases progress : iterate config agent around n s with
    | next s =>
      rw [progress] at outcome kept
      cases outcome with
      | next going => exact ih going (told s progress) kept
    | done ending s =>
      rw [progress] at kept
      exact kept
    | raised error s =>
      rw [progress] at kept
      exact kept

end Histories

theorem worker_given {before after : List Request} {request : Request}
    (asked : (runWorker config agent around).state.requests = before ++ request :: after) :
    ∃ past userPrompt rest,
      past = transcript config agent around before ++ reminded config agent request.iteration ∧
      around.userPrompt = .ok userPrompt ∧
      past = .system around.systemPrompt :: .user userPrompt :: rest ∧ WellFormed (entries rest) ∧
      request.messages =
        clearFirst (past.countP Agent.Loop.Message.isTool - keepRecentTools) past ∧
      ∀ front tail, past = front ++ tail →
        tail.countP Agent.Loop.Message.isTool ≤ keepRecentTools → tail <:+ request.messages := by
  have fits : Fits config agent around (runWorker config agent around).state.requests := by
    have none : Fits config agent around [] := fun before request after split =>
      absurd split.symm (by simp)
    unfold runWorker
    cases rendered : around.userPrompt with
    | ok userPrompt =>
      refine runIterations_told _ (start_going rendered) ?_ none
      simp [transcript, opening, rendered]
    | error failure =>
      dsimp only
      split
      next => exact none
      next => exact none
  obtain ⟨given, userPrompt, rest, rendered, same, wellFormed⟩ := fits before request after asked
  refine ⟨_, userPrompt, rest, rfl, rendered, same, wellFormed, given, fun front tail split few => ?_⟩
  rw [given, split]
  exact shown_recent few

structure Substantive (summary : PyString) : Prop where
  nonempty : summary.strip ≠ .empty
  parsed : ∀ marker ∈ unparsedToolMarkers, ¬ marker.points <:+: summary.strip.lower.points
  genuine : ∀ marker ∈ fabricationMarkers, ¬ marker.points <:+: summary.strip.lower.points
  analysis : isEnvelope summary.strip = false
  beyondPlan : isPlanStub summary.strip = false

theorem classifyDeliverable_none {summary : PyString} {isDataAgent reportWritten : Bool}
    {dataToolCalls : Nat}
    (accepted : classifyDeliverable summary isDataAgent reportWritten dataToolCalls = none) :
    Substantive summary ∧
      (isDataAgent = true → reportWritten = true ∨ 0 < dataToolCalls) := by
  unfold classifyDeliverable at accepted
  dsimp only at accepted
  split at accepted
  next => cases accepted
  next nonempty =>
    split at accepted
    next => cases accepted
    next parsed =>
      split at accepted
      next => cases accepted
      next genuine =>
        split at accepted
        next => cases accepted
        next analysis =>
          split at accepted
          next => cases accepted
          next beyondPlan =>
            split at accepted
            next => cases accepted
            next evidence =>
              refine ⟨⟨nonempty, ?_, ?_, ?_, ?_⟩, fun data => ?_⟩
              · simpa [within] using parsed
              · simpa [within] using genuine
              · simpa using analysis
              · simpa using beyondPlan
              · simp only [data, Bool.true_and, Bool.and_eq_true, Bool.not_eq_true',
                  decide_eq_true_eq, not_and] at evidence
                cases reportWritten with
                | true => exact .inl rfl
                | false => exact .inr (Nat.pos_of_ne_zero (evidence rfl))

-- What a completed worker leaves: a summary of substance, in its file as well, and of an agent with
-- tools for data a report or the result of a call.
structure Delivered (agent : SwarmAgentSpec) (around : Surroundings) (ending : Ending) (s : State) :
    Prop where
  summaryFile : ending.summaryFile = some ending.result.summary
  substantive : Substantive ending.result.summary
  -- The report is that of the last iteration.
  evidence : isDataAgent agent = true →
    reportWritten (around.reportAgain (s.requests.length - 1)) = true ∨
      ∃ executed ∈ s.executed, executed.call.name ≠ "load_skill" ∧
        isErrorResult executed.result = false

theorem worker_delivers {ending : Ending} (ran : runWorker config agent around = .done ending s)
    (completed : ending.result.status = .completed) : Delivered agent around ending s := by
  have ended := runWorker_ended config agent around
  rw [ran] at ended
  cases ended with
  | done within closes =>
    obtain ⟨summaryFile, accepted⟩ := closes.judged completed
    have made := congrArg List.length closes.numbered
    rw [List.length_map, List.length_range] at made
    rw [← made] at accepted
    obtain ⟨substantive, evidence⟩ := classifyDeliverable_none accepted
    refine ⟨summaryFile, substantive, fun data => ?_⟩
    obtain written | called := evidence data
    · exact .inl written
    · rw [closes.counted] at called
      obtain ⟨executed, listed, counts⟩ := List.countP_pos_iff.mp called
      simp only [isDataCall, Bool.and_eq_true, decide_eq_true_eq, Bool.not_eq_true'] at counts
      exact .inr ⟨executed, listed, counts⟩

def analyst : SwarmAgentSpec := { id := "a", tools := ["get_market_data"], maxIterations := 3 }

def office : Surroundings where
  systemPrompt := "Read."
  userPrompt := .ok "Read the report."
  estimateTokens _ := 1
  elapsed _ := 0
  stream iteration _ := .ok <|
    if iteration = 0 then { toolCalls := [⟨"1", "get_market_data", []⟩] }
    else { content := some "Up 4%." }
  execute _ _ := .returned "\x7b\"status\": \"ok\"\x7d"
  report _ := none
  reportAgain _ := none
  artifacts _ := []
  contentFilterWarnings _ _ := []

def Progress.status? : Progress → Option WorkerStatus
  | .done ending _ => some ending.result.status
  | _ => none

def Progress.booking : Progress → WorkerResult
  | .done ending _ => ending.result
  | _ => { status := .failed, summary := .empty }

omit [PyText] in
theorem Progress.done_of_status {progress : Progress} {status : WorkerStatus}
    (same : progress.status? = some status) :
    ∃ ending s, progress = .done ending s ∧ ending.result.status = status := by
  cases progress with
  | done ending s => exact ⟨ending, s, rfl, Option.some.inj same⟩
  | next s => cases same
  | raised error s => cases same

def officeRun : Progress :=
  let _ := asciiText
  runWorker {} analyst office

omit [PyText] in
theorem office_completed : officeRun.status? = some .completed := by decide +kernel

omit [PyText] in
theorem office_asks : officeRun.state.requests.length = 2 := by decide +kernel

-- The second request is made of the question, the call and its result.
omit [PyText] in
theorem worker_given_office : let _ := asciiText
    ∃ asked answered, (runWorker {} analyst office).state.requests = [asked, answered] ∧
      ∀ front tail, transcript {} analyst office [asked] ++
          reminded {} analyst answered.iteration = front ++ tail →
        tail.countP Agent.Loop.Message.isTool ≤ keepRecentTools → tail <:+ answered.messages := by
  intro _
  obtain ⟨asked, answered, both⟩ := List.length_eq_two.mp office_asks
  rw [officeRun] at both
  have split : (runWorker {} analyst office).state.requests = [asked] ++ answered :: [] := both
  obtain ⟨past, _, _, same, -, -, -, -, recent⟩ := worker_given split
  rw [same] at recent
  exact ⟨asked, answered, split, recent⟩

omit [PyText] in
theorem office_delivers : let _ := asciiText
    ∃ ending s, runWorker {} analyst office = .done ending s ∧
      ending.result.status = .completed ∧ officeRun = .done ending s := by
  intro _
  obtain ⟨ending, s, ran, completed⟩ := Progress.done_of_status office_completed
  have same : runWorker {} analyst office = officeRun := by
    rw [officeRun]
  exact ⟨ending, s, same.trans ran, completed, ran⟩

section Swarms

variable {tasks : List SwarmTask} {preset : Preset} {allIds : IdSet (ids (buildTasks preset))}
  {host : Host} {run : FinishedRun} {agentOf : PyString → SwarmAgentSpec}
  {aroundOf : PyString → Nat → Surroundings} {maxRetries : PyString → Nat} {id : PyString}

def Worked (config : Config) (host : Host) (agentOf : PyString → SwarmAgentSpec)
    (aroundOf : PyString → Nat → Surroundings) (maxRetries : PyString → Nat) : Prop :=
  ∀ id, (host.worker id).status = .completed → ∃ attempt : Nat → WorkerResult,
    (∀ made, ∃ ending s, runWorker config (agentOf id) (aroundOf id made) = .done ending s ∧
      attempt made = ending.result) ∧
    runWorkerWithRetries attempt (maxRetries id) = some (host.worker id)

def usage (tokens : Surroundings → Request → Nat) (config : Config) (agent : SwarmAgentSpec)
    (around : Nat → Surroundings) (last : Nat) : Nat :=
  ((List.range (last + 1)).map fun made =>
    ((runWorker config agent (around made)).state.requests.map (tokens (around made))).sum).sum

structure Completing (config : Config) (host : Host) (agentOf : PyString → SwarmAgentSpec)
    (aroundOf : PyString → Nat → Surroundings) (maxRetries : PyString → Nat) (id : PyString)
    (last : Nat) : Prop where
  bounded : last ≤ maxRetries id
  failed : ∀ made < last, ∃ ending s, runWorker config (agentOf id) (aroundOf id made) =
    .done ending s ∧ ending.result.status = .failed
  delivered : ∃ ending s, runWorker config (agentOf id) (aroundOf id last) = .done ending s ∧
    Delivered (agentOf id) (aroundOf id last) ending s ∧
    (host.worker id).summary = ending.result.summary
  inputTokens : (host.worker id).inputTokens =
    usage Request.inputTokens config (agentOf id) (aroundOf id) last
  outputTokens : (host.worker id).outputTokens =
    usage Request.outputTokens config (agentOf id) (aroundOf id) last

theorem result_tokens {ending : Ending} (ran : runWorker config agent around = .done ending s) :
    ending.result.inputTokens =
        ((runWorker config agent around).state.requests.map (Request.inputTokens around)).sum ∧
      ending.result.outputTokens =
        ((runWorker config agent around).state.requests.map (Request.outputTokens around)).sum := by
  have ended := runWorker_ended config agent around
  rw [ran] at ended ⊢
  cases ended with
  | done within closes =>
    exact ⟨closes.spent.1.trans closes.inputTokens, closes.spent.2.trans closes.outputTokens⟩

theorem Worked.completing (worked : Worked config host agentOf aroundOf maxRetries)
    (completed : (host.worker id).status = .completed) :
    ∃ last, Completing config host agentOf aroundOf maxRetries id last := by
  obtain ⟨attempt, made, retried⟩ := worked id completed
  obtain ⟨last, decides, result⟩ := runWorkerWithRetries_spec attempt (maxRetries id)
  have same := Option.some.inj (retried.symm.trans result)
  have tokens (n : Nat) :
      (attempt n).inputTokens = ((runWorker config (agentOf id) (aroundOf id n)).state.requests.map
          (Request.inputTokens (aroundOf id n))).sum ∧
        (attempt n).outputTokens = ((runWorker config (agentOf id)
          (aroundOf id n)).state.requests.map (Request.outputTokens (aroundOf id n))).sum := by
    obtain ⟨ending, s, ran, result⟩ := made n
    exact result ▸ result_tokens ran
  obtain ⟨ending, s, ran, final⟩ := made last
  have status : ending.result.status = .completed := by
    rw [← final]
    rwa [same] at completed
  refine ⟨last, decides.bound, ?_, ⟨ending, s, ran, worker_delivers ran status, ?_⟩, ?_, ?_⟩
  · intro n earlier
    obtain ⟨ending, s, ran, result⟩ := made n
    exact ⟨ending, s, ran, result ▸ decides.failed n earlier⟩
  · rw [same, ← final]
  · rw [same]
    exact congrArg List.sum (List.map_congr_left fun n _ => (tokens n).1)
  · rw [same]
    exact congrArg List.sum (List.map_congr_left fun n _ => (tokens n).2)

theorem run_delivers (finished : Finished preset allIds host tasks run)
    (worked : Worked config host agentOf aroundOf maxRetries) :
    (∀ id, run.Completed id → ∃ last,
      Completing config host agentOf aroundOf maxRetries id last) ∧
      ∀ dispatch ∈ run.dispatched, ∀ entry ∈ dispatch.upstreamSummaries, Substantive entry.2 := by
  obtain ⟨s, closing⟩ := finished.closing
  have completing {id : PyString} (completed : CompletedIn s.taskStore id) :=
    worked.completing (closing.worked id completed).1
  refine ⟨fun id completed => completing ((closing.completed_iff id).mp completed), ?_⟩
  obtain ⟨layers, rfl⟩ := closing.finished
  intro dispatch listed entry given
  obtain ⟨source, -, completed, same⟩ := (closing.justified dispatch listed).told entry given
  obtain ⟨last, -, -, ⟨ending, s, -, delivered, summary⟩, -⟩ := completing completed
  rw [same, summary]
  exact delivered.substantive

def booked : WorkerResult := officeRun.booking

def diligent : Host := { steady with worker := fun _ => booked }

omit [PyText] in
theorem diligent_worked : let _ := asciiText
    Worked {} diligent (fun _ => analyst) (fun _ _ => office) fun _ => 0 := by
  intro _ id completed
  obtain ⟨ending, s, ran, -, done⟩ := office_delivers
  have same : booked = ending.result := by
    rw [booked, done]
    rfl
  refine ⟨fun _ => booked, fun _ => ⟨ending, s, ran, same⟩, ?_⟩
  simp [runWorkerWithRetries, runAttempts, diligent]

omit [PyText] in
theorem diligent_runs : ∃ run, readerRun diligent = some run ∧ run.status = .completed := by
  have ended : (readerRun diligent).any (fun run => decide (run.status = .completed)) = true := by
    decide +kernel
  obtain ⟨run, ran, completed⟩ := (Option.any_eq_true ..).mp ended
  exact ⟨run, ran, of_decide_eq_true completed⟩

omit [PyText] in
theorem run_delivers_diligent : let _ := asciiText
    ∃ run, readerRun diligent = some run ∧
      ∀ dispatch ∈ run.dispatched, ∀ entry ∈ dispatch.upstreamSummaries, Substantive entry.2 := by
  intro _
  obtain ⟨run, ran, -⟩ := diligent_runs
  exact ⟨run, ran, (run_delivers (reader_finished ran) diligent_worked).2⟩

theorem completed_run_usage (finished : Finished preset allIds host tasks run)
    (worked : Worked config host agentOf aroundOf maxRetries)
    (completed : run.status = .completed) :
    ∃ last : PyString → Nat,
      (∀ id ∈ ids tasks, Completing config host agentOf aroundOf maxRetries id (last id)) ∧
      run.totalInputTokens = ((ids tasks).map fun id =>
        usage Request.inputTokens config (agentOf id) (aroundOf id) (last id)).sum ∧
      run.totalOutputTokens = ((ids tasks).map fun id =>
        usage Request.outputTokens config (agentOf id) (aroundOf id) (last id)).sum := by
  obtain ⟨s, closing⟩ := finished.closing
  obtain ⟨-, each⟩ := closing.status_completed.mp completed
  have completing (id : PyString) : ∃ last, id ∈ ids tasks →
      Completing config host agentOf aroundOf maxRetries id last := by
    by_cases member : id ∈ ids tasks
    · obtain ⟨last, completing⟩ := worked.completing (closing.worked id (each id member)).1
      exact ⟨last, fun _ => completing⟩
    · exact ⟨0, fun listed => absurd listed member⟩
  choose last completing using completing
  obtain ⟨input, output⟩ := closing.tokens (closing.succeeded.mpr each)
  obtain ⟨layers, rfl⟩ := closing.finished
  refine ⟨last, completing, input.trans ?_, output.trans ?_⟩
  · exact congrArg List.sum
      (List.map_congr_left fun id member => (completing id member).inputTokens)
  · exact congrArg List.sum
      (List.map_congr_left fun id member => (completing id member).outputTokens)

omit [PyText] in
theorem completed_run_usage_diligent : let _ := asciiText
    ∃ run, ∃ last : PyString → Nat, readerRun diligent = some run ∧
      run.totalInputTokens = ((ids (buildTasks readerPreset)).map fun id =>
        usage Request.inputTokens {} analyst (fun _ => office) (last id)).sum := by
  intro _
  obtain ⟨run, ran, completed⟩ := diligent_runs
  obtain ⟨last, -, input, -⟩ :=
    completed_run_usage (reader_finished ran) diligent_worked completed
  exact ⟨run, last, ran, input⟩

end Swarms

end SynapseYield.Swarm.Worker
