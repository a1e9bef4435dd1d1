import SynapseYield.Orchestrator.HarnessAgent

set_option autoImplicit false

namespace SynapseYield

open Shared

def Message.isOutcome : Message → Bool
  | .orderResult _ => true
  | .error _ => true
  | _ => false

namespace HarnessAgentGraph

section Turns

variable [PyText] {σ : Type} {graph : HarnessAgentGraph σ} {state : HarnessState} {raw : PyValue}
  {desk desk' : Desk σ}

def requestOf (graph : HarnessAgentGraph σ) (state : HarnessState) (raw : PyValue) :
    Except PyException (StockPick × ExecuteRequest) := do
  let pick ← StockPick.modelValidate graph.pydantic raw
  let proposal ← pick.proposal
  let decision ← HumanApprovalDecision.approve state.reviewer
  return (pick, { proposal, decision, accountId := state.accountId })

def request? (graph : HarnessAgentGraph σ) (state : HarnessState) (raw : PyValue) :
    Option ExecuteRequest :=
  match graph.requestOf state raw with
  | .ok (_, request) => some request
  | .error _ => none

-- The messages of one pick: a refusal, or the executor's answer to the request.
inductive Turn (graph : HarnessAgentGraph σ) (state : HarnessState) : PyValue → List Message → Prop
  | refused {entries : PyDict} {raised : PyException}
      (invalid : graph.requestOf state (.dict entries) = .error raised) :
      Turn graph state (.dict entries) [.error (graph.errorText entries raised)]
  | failed {entries : PyDict} {pick : StockPick} {request : ExecuteRequest} {raised : PyException}
      {world world' : σ} (valid : graph.requestOf state (.dict entries) = .ok (pick, request))
      (answer : graph.executor request world = .error raised world') :
      Turn graph state (.dict entries)
        [.executing (executingText pick), .error (graph.errorText entries raised)]
  | placed {raw : PyValue} {pick : StockPick} {request : ExecuteRequest}
      {result : LLMTradingRunResult} {world world' : σ}
      (valid : graph.requestOf state raw = .ok (pick, request))
      (answer : graph.executor request world = .ok result world') :
      Turn graph state raw [.executing (executingText pick), .orderResult result]

theorem Turn.one_outcome {messages : List Message} (turn : Turn graph state raw messages) :
    messages.countP Message.isOutcome = 1 := by
  cases turn <;> rfl

def worldAfter (graph : HarnessAgentGraph σ) (world : σ) (requests : List ExecuteRequest) : σ :=
  requests.foldl (fun world request => leaves (graph.executor request world)) world

structure Handled (graph : HarnessAgentGraph σ) (state : HarnessState) (desk : Desk σ)
    (picks : List PyValue) (desk' : Desk σ) : Prop where
  pushed : ∃ turns, desk'.pushed = desk.pushed ++ turns.flatten ∧
    List.Forall₂ (Turn graph state) picks turns
  requests : desk'.requests = desk.requests ++ picks.filterMap (graph.request? state)
  world : desk'.world = graph.worldAfter desk.world (picks.filterMap (graph.request? state))

theorem Handled.none : Handled graph state desk [] desk where
  pushed := ⟨[], by simp, .nil⟩
  requests := by simp
  world := rfl

theorem request?_singleton (graph : HarnessAgentGraph σ) (state : HarnessState) (raw : PyValue) :
    [raw].filterMap (graph.request? state) = (graph.request? state raw).toList := by
  cases found : graph.request? state raw <;> simp [found]

theorem Handled.snoc {desk'' : Desk σ} {before : List PyValue} {messages : List Message}
    (handled : Handled graph state desk before desk') (turn : Turn graph state raw messages)
    (pushed : desk''.pushed = desk'.pushed ++ messages)
    (requests : desk''.requests = desk'.requests ++ (graph.request? state raw).toList)
    (world : desk''.world = graph.worldAfter desk'.world (graph.request? state raw).toList) :
    Handled graph state desk (before ++ [raw]) desk'' where
  pushed := by
    obtain ⟨turns, already, each⟩ := handled.pushed
    refine ⟨turns ++ [messages], ?_, List.rel_append each (.cons turn .nil)⟩
    rw [pushed, already]
    simp
  requests := by
    rw [requests, handled.requests, List.filterMap_append, List.append_assoc, request?_singleton]
  world := by
    rw [world, handled.world, List.filterMap_append, request?_singleton]
    simp [worldAfter]

def asked (desk : Desk σ) (pick : StockPick) (request : ExecuteRequest) (world : σ) : Desk σ where
  pushed := desk.pushed ++ [.executing (executingText pick)]
  requests := desk.requests ++ [request]
  world := world

theorem tryPick_invalid {raised : PyException} (invalid : graph.requestOf state raw = .error raised) :
    graph.tryPick state raw desk = .error raised desk := by
  unfold requestOf at invalid
  unfold tryPick
  rcases validated : StockPick.modelValidate graph.pydantic raw with failed | pick
  · rw [validated] at invalid
    cases invalid
    rfl
  · rw [validated] at invalid
    rw [bind_of_ok (show lift (.ok pick) desk = .ok pick desk from rfl)]
    rcases proposed : pick.proposal with failed | proposal
    · simp only [proposed, bind, Except.bind] at invalid
      cases invalid
      rfl
    · rw [bind_of_ok (show lift (.ok proposal) desk = .ok proposal desk from rfl)]
      rcases approved : HumanApprovalDecision.approve state.reviewer with failed | decision
      · simp only [proposed, approved, bind, Except.bind] at invalid
        cases invalid
        rfl
      · simp only [proposed, approved, bind, Except.bind, pure, Except.pure] at invalid
        cases invalid

theorem tryPick_valid {pick : StockPick} {request : ExecuteRequest}
    (valid : graph.requestOf state raw = .ok (pick, request)) :
    graph.tryPick state raw desk =
      match graph.executor request desk.world with
      | .ok result world =>
        let desk := asked desk pick request world
        .ok () { desk with pushed := desk.pushed ++ [.orderResult result] }
      | .error raised world => .error raised (asked desk pick request world) := by
  unfold requestOf at valid
  unfold tryPick
  rcases validated : StockPick.modelValidate graph.pydantic raw with failed | pick'
  · rw [validated] at valid
    cases valid
  · rw [validated] at valid
    rcases proposed : pick'.proposal with failed | proposal
    · simp only [proposed, bind, Except.bind] at valid
      cases valid
    · rcases approved : HumanApprovalDecision.approve state.reviewer with failed | decision
      · simp only [proposed, approved, bind, Except.bind] at valid
        cases valid
      · simp only [proposed, approved, bind, Except.bind, pure, Except.pure] at valid
        cases valid
        rw [bind_of_ok (show lift (.ok pick) desk = .ok pick desk from rfl), proposed,
          bind_of_ok (show lift (.ok proposal) desk = .ok proposal desk from rfl),
          bind_of_ok (show lift (.ok decision) desk = .ok decision desk from rfl), bind_run]
        simp only [push, modify_run]
        rw [bind_run]
        unfold submit
        dsimp only
        cases graph.executor ⟨proposal, decision, state.accountId⟩ desk.world <;> rfl

theorem executePick_turn (desk : Desk σ) (object : ∃ entries, raw = .dict entries) :
    ∃ desk' messages, graph.executePick state raw desk = .ok () desk' ∧
      Turn graph state raw messages ∧ desk'.pushed = desk.pushed ++ messages ∧
      desk'.requests = desk.requests ++ (graph.request? state raw).toList ∧
      desk'.world = graph.worldAfter desk.world (graph.request? state raw).toList := by
  obtain ⟨entries, rfl⟩ := object
  unfold executePick request?
  rcases requested : graph.requestOf state (.dict entries) with raised | ⟨pick, request⟩
  · rw [tryPick_invalid requested]
    exact ⟨_, _, rfl, .refused requested, rfl, by simp, rfl⟩
  · rw [tryPick_valid requested]
    rcases answer : graph.executor request desk.world with ⟨result, world⟩ | ⟨raised, world⟩
    · exact ⟨_, _, rfl, .placed requested answer, by simp [asked], rfl, by
        simp [worldAfter, answer, asked]⟩
    · exact ⟨_, _, rfl, .failed requested answer, by simp [asked], rfl, by
        simp [worldAfter, answer, asked]⟩

-- Every pick has its turn with one outcome, in order, and then comes done. The executor gets the
-- request of each valid pick, whatever the picks before it were.
structure Processed (graph : HarnessAgentGraph σ) (state : HarnessState) (desk desk' : Desk σ) :
    Prop where
  pushed : ∃ announced turns finished,
    desk'.pushed = desk.pushed ++ .thinking announced :: turns.flatten ++ [.done finished] ∧
      List.Forall₂ (fun raw messages =>
        Turn graph state raw messages ∧ messages.countP Message.isOutcome = 1)
        state.confirmedPicks turns
  requests : desk'.requests =
    desk.requests ++ state.confirmedPicks.filterMap (graph.request? state)
  world : desk'.world =
    graph.worldAfter desk.world (state.confirmedPicks.filterMap (graph.request? state))

def Processes (graph : HarnessAgentGraph σ) (state : HarnessState) (desk : Desk σ) : Prop :=
  ∃ desk', graph.execute state desk = .ok () desk' ∧ Processed graph state desk desk'

theorem picks_handled (graph : HarnessAgentGraph σ) (desk : Desk σ)
    (objects : ∀ raw ∈ state.confirmedPicks, ∃ entries, raw = .dict entries) :
    ∃ desk', state.confirmedPicks.forM (graph.executePick state) desk = .ok () desk' ∧
      Handled graph state desk state.confirmedPicks desk' := by
  refine forM_run (I := Handled graph state desk) ?_ .none
  intro before raw after current split handled
  have object := objects raw (split ▸ List.mem_append_right _ List.mem_cons_self)
  obtain ⟨desk', messages, ran, turn, pushed, requests, world⟩ :=
    executePick_turn current object
  exact ⟨desk', ran, handled.snoc turn pushed requests world⟩

theorem execute_processes (graph : HarnessAgentGraph σ) (state : HarnessState) (desk : Desk σ)
    (objects : ∀ raw ∈ state.confirmedPicks, ∃ entries, raw = .dict entries) :
    (state.confirmedPicks ≠ [] → Processes graph state desk) ∧
      (state.confirmedPicks = [] → ∃ text,
        graph.execute state desk = .ok () { desk with pushed := desk.pushed ++ [.message text] }) := by
  unfold Processes execute
  constructor
  · intro some
    rw [if_neg some]
    let announced := s!"正在提交 {state.confirmedPicks.length} 笔订单……"
    let started : Desk σ := { desk with pushed := desk.pushed ++ [.thinking announced] }
    obtain ⟨handled, ran, after⟩ := picks_handled graph started objects
    obtain ⟨turns, pushed, each⟩ := after.pushed
    refine ⟨{ handled with pushed := handled.pushed ++ [.done "全部处理完毕。"] }, ?_, ?_, ?_, ?_⟩
    · rw [bind_of_ok (show push (.thinking announced) desk = .ok () started from rfl), bind_of_ok ran]
      rfl
    · refine ⟨announced, turns, "全部处理完毕。", ?_,
        each.imp fun _ _ turn => ⟨turn, turn.one_outcome⟩⟩
      dsimp only
      rw [pushed, List.append_assoc desk.pushed]
      rfl
    · exact after.requests
    · exact after.world
  · intro none
    rw [if_pos none]
    exact ⟨_, rfl⟩

end Turns

-- A client that reads every object as one pick, and an executor that refuses each request.
def refusing : HarnessAgentGraph Unit where
  pydantic :=
    { readFields _ := .ok
        { symbol := "AAPL.US", action := .buy, confidence := 1, quantity := ⟨1, 0⟩, rationale := "r" }
      exceptionText _ := "refused"
      valueText _ := "AAPL.US" }
  executor _ := throw (.runtimeError "refused")

def confirming (picks : List PyValue) : HarnessState where
  accountId := "account"
  reviewer := "user"
  confirmedPicks := picks

def applePick : PyValue := .dict [(.str "symbol", .str "AAPL.US")]

theorem execute_processes_refused :
    @Processes asciiText Unit refusing (confirming [applePick, applePick]) { world := () } :=
  let := asciiText
  (execute_processes refusing (confirming [applePick, applePick]) { world := () } (by
    intro raw member
    simp only [confirming, List.mem_cons, List.not_mem_nil, or_false] at member
    rcases member with rfl | rfl <;> exact ⟨_, rfl⟩)).1 (by simp [confirming])

-- A text among the picks ends the run: the object after it is not executed, and nothing is done.
-- And for no picks at all there is no done.
theorem bare_text_aborts :
    ¬ @Processes asciiText Unit refusing (confirming [.str "AAPL.US", applePick]) { world := () } ∧
      ¬ @Processes asciiText Unit refusing (confirming []) { world := () } := by
  let := asciiText
  constructor
  · rintro ⟨desk', ran, -⟩
    have aborted : returned (refusing.execute (confirming [.str "AAPL.US", applePick])
        { world := () }) = false := by decide +kernel
    rw [ran] at aborted
    cases aborted
  · rintro ⟨desk', ran, processed⟩
    obtain ⟨announced, turns, finished, pushed, -⟩ := processed.pushed
    have quiet : (leaves (refusing.execute (confirming []) { world := () })).pushed.length = 1 := rfl
    rw [ran, leaves_ok, pushed] at quiet
    simp at quiet

end HarnessAgentGraph

end SynapseYield
