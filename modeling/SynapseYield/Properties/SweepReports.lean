import SynapseYield.Live.OrderGuard
import SynapseYield.Properties.Sweeps

set_option autoImplicit false

namespace SynapseYield.Runtime

open Shared Live

inductive SweepCall where
  | cancel (orderId : PyValue) (answer : Except Failure PyValue)
  | close (symbol : PyValue) (qty : Number) (answer : Except Failure PyValue)

namespace SweepCall

def answer : SweepCall → Except Failure PyValue
  | .cancel _ answer => answer
  | .close _ _ answer => answer

def returned (call : SweepCall) : Bool := call.answer.isOk

def listedCancel : SweepCall → Option PyValue
  | .cancel orderId _ => some orderId
  | .close _ _ _ => none

def request : SweepCall → PyDict
  | .cancel orderId _ => cancelRequest orderId
  | .close symbol qty _ => closeRequest symbol qty

def listedClose : SweepCall → Option PyDict
  | .close symbol qty (.ok answer) => some (fields [
      ("symbol", symbol), ("qty", .float qty.abs), ("side", .str (closeSide qty)),
      ("response", answer)])
  | _ => none

-- The entry of a failed call in the errors of the report
def failure (message : PyString) : SweepCall → PyDict
  | .cancel orderId _ =>
    fields [("phase", .str "cancel"), ("order_id", orderId), ("error", .str message)]
  | .close symbol _ _ =>
    fields [("phase", .str "flatten"), ("symbol", symbol), ("error", .str message)]

/-- The broker took the call: submit returned, and no error envelope. -/
def accepted [PyText] (call : SweepCall) : Bool :=
  match call.answer with
  | .ok (.dict response) => ! (LiveOrderGuardTool.isErrorEnvelope response).toOption.getD false
  | _ => false

def outcome (counts : SweepCall → Bool) (call : SweepCall) : PyDict × LiveActionOutcome :=
  (call.request, if counts call then .accepted else .error)

end SweepCall

section Calls

variable [PyText]

def cancelCalls (row : Answered) : List SweepCall := [.cancel (row.1.get "order_id") row.2.submit]

def closeCalls (row : Answered) : List SweepCall :=
  match sweepQty row.1 with
  | .ok qty => if Number.same qty 0 then [] else [.close (row.1.get "symbol") qty row.2.submit]
  | .error _ => []

def SweepInput.calls (input : SweepInput) : List SweepCall :=
  (rowsOf input.openOrders).flatMap cancelCalls ++
    if resolveAllowFlatten input = .ok true then (rowsOf input.positions).flatMap closeCalls else []

/-- The report and the ledger of a sweep, where `counts` says which of its calls succeeded. -/
structure Told (counts : SweepCall → Bool) (calls : List SweepCall) (report : SweepReport)
    (audited : List SweepEvent) : Prop where
  cancelled : report.cancelledOrderIds = (calls.filter counts).filterMap SweepCall.listedCancel
  closed : report.flattenOrdersSubmitted = (calls.filter counts).filterMap SweepCall.listedClose
  failed : ∀ call ∈ calls, counts call = false →
    ∃ message, call.failure message ∈ report.errors
  outcomes : (audited.map fun event => (event.brokerRequest, event.outcome)) =
    calls.map (SweepCall.outcome counts)

end Calls

section Runs

variable {calls more : List SweepCall} {s s' s'' : SweepState}

-- What calls have added to a state: a call counts where it did not raise.
structure Added (calls : List SweepCall) (s s' : SweepState) : Prop where
  cancelled : s'.report.cancelledOrderIds = s.report.cancelledOrderIds ++
    (calls.filter SweepCall.returned).filterMap SweepCall.listedCancel
  closed : s'.report.flattenOrdersSubmitted = s.report.flattenOrdersSubmitted ++
    (calls.filter SweepCall.returned).filterMap SweepCall.listedClose
  errors : s.report.errors <+: s'.report.errors
  failed : ∀ call ∈ calls, call.returned = false →
    ∃ message, call.failure message ∈ s'.report.errors
  outcomes : (s'.audited.map fun event => (event.brokerRequest, event.outcome)) =
    (s.audited.map fun event => (event.brokerRequest, event.outcome)) ++
      calls.map (SweepCall.outcome SweepCall.returned)

theorem Added.refl (s : SweepState) : Added [] s s :=
  ⟨(List.append_nil _).symm, (List.append_nil _).symm, List.prefix_refl _, List.forall_mem_nil _,
    (List.append_nil _).symm⟩

theorem Added.trans (first : Added calls s s') (second : Added more s' s'') :
    Added (calls ++ more) s s'' := by
  refine ⟨?_, ?_, first.errors.trans second.errors, fun call member failed => ?_, ?_⟩
  · rw [second.cancelled, first.cancelled, List.filter_append, List.filterMap_append,
      List.append_assoc]
  · rw [second.closed, first.closed, List.filter_append, List.filterMap_append, List.append_assoc]
  · obtain earlier | later := List.mem_append.mp member
    · obtain ⟨message, entry⟩ := first.failed call earlier failed
      exact ⟨message, second.errors.subset entry⟩
    · exact second.failed call later failed
  · rw [second.outcomes, first.outcomes, List.map_append, List.append_assoc]

theorem Added.refused {call : SweepCall} {event : SweepEvent} {requests : List PyDict}
    {message : PyString} (raised : call.returned = false)
    (named : event.brokerRequest = call.request) (told : event.outcome = .error) :
    Added [call] s { s with
      submitted := requests
      report.errors := s.report.errors ++ [call.failure message]
      audited := s.audited ++ [event] } := by
  have none : [call].filter SweepCall.returned = [] := by simp [raised]
  refine ⟨?_, ?_, List.prefix_append _ _, ?_, ?_⟩
  · rw [none, List.filterMap_nil, List.append_nil]
  · rw [none, List.filterMap_nil, List.append_nil]
  · exact List.forall_mem_singleton.mpr fun _ =>
      ⟨message, List.mem_append_right _ (.head _)⟩
  · simp [SweepCall.outcome, raised, named, told]

theorem Added.answered {call : SweepCall} {event : SweepEvent} {requests : List PyDict}
    (returned : call.returned = true) (named : event.brokerRequest = call.request)
    (told : event.outcome = .accepted) :
    Added [call] s { s with
      submitted := requests
      report.cancelledOrderIds := s.report.cancelledOrderIds ++ call.listedCancel.toList
      report.flattenOrdersSubmitted := s.report.flattenOrdersSubmitted ++ call.listedClose.toList
      audited := s.audited ++ [event] } := by
  have all : [call].filter SweepCall.returned = [call] := by simp [returned]
  have single {α : Type} (f : SweepCall → Option α) : [call].filterMap f = (f call).toList := by
    cases listed : f call <;> simp [listed]
  refine ⟨?_, ?_, List.prefix_refl _, ?_, ?_⟩
  · rw [all, single]
  · rw [all, single]
  · exact List.forall_mem_singleton.mpr fun raised => by rw [returned] at raised; cases raised
  · simp [SweepCall.outcome, returned, named, told]

def Makes {α : Type} (calls : List SweepCall) (x : SweepProgram α) : Prop :=
  ∀ s a s', x s = .ok a s' → Added calls s s'

theorem Makes.bind {α β : Type} {x : SweepProgram α} {f : α → SweepProgram β}
    (first : Makes calls x) (rest : ∀ a, Makes more (f a)) : Makes (calls ++ more) (x >>= f) := by
  intro s b s'' run
  obtain ⟨a, s', head, tail⟩ := bind_ok.mp run
  exact (first s a s' head).trans (rest a s' b s'' tail)

theorem Makes.forM {rows : List Answered} {f : Answered → SweepProgram PUnit}
    {made : Answered → List SweepCall} (each : ∀ row, Makes (made row) (f row)) :
    Makes (rows.flatMap made) (rows.forM f) := by
  induction rows with
  | nil =>
    intro s a s' run
    obtain ⟨-, rfl⟩ := pure_ok.mp run
    exact .refl s
  | cons row rest ih => exact (each row).bind fun _ => ih

theorem ofResult_keeps {α : Type} {result : Except PyError α} {a : α}
    (run : ofResult result s = .ok a s') : result = .ok a ∧ s = s' := by
  cases result with
  | ok b =>
    obtain ⟨rfl, rfl⟩ := pure_ok.mp run
    exact ⟨rfl, rfl⟩
  | error raised => exact absurd run throw_ok

theorem sweepCaught_keeps {α : Type} {result answer : Except Failure α}
    (run : sweepCaught result s = .ok answer s') : answer = result ∧ s = s' := by
  cases result with
  | ok b =>
    obtain ⟨rfl, rfl⟩ := pure_ok.mp run
    exact ⟨rfl, rfl⟩
  | error raised =>
    unfold sweepCaught at run
    dsimp only at run
    split at run
    next =>
      obtain ⟨rfl, rfl⟩ := pure_ok.mp run
      exact ⟨rfl, rfl⟩
    next => exact absurd run throw_ok

theorem sweepTool_keeps {fallback name : PyString} {answers : CallAnswers}
    (run : sweepTool fallback answers s = .ok name s') : s = s' := by
  unfold sweepTool at run
  revert run
  cases answers.tool with
  | ok named =>
    cases named with
    | some name => exact fun run => (pure_ok.mp run).2
    | none => exact fun run => (pure_ok.mp run).2
  | error raised =>
    intro run
    dsimp only at run
    split at run
    next => exact (pure_ok.mp run).2
    next => exact absurd run throw_ok

theorem submitRequest_notes {request : PyDict} {answers : CallAnswers}
    {response : Except Failure PyValue} (run : submitRequest request answers s = .ok response s') :
    response = answers.submit ∧ { s with submitted := s.submitted ++ [request] } = s' := by
  obtain ⟨_, noted, written, caught⟩ := bind_ok.mp run
  obtain ⟨rfl, rfl⟩ := sweepCaught_keeps caught
  exact ⟨rfl, modify_ok.mp written⟩

theorem sweepAudit_notes {event : SweepEvent} {answers : CallAnswers} {u : PUnit}
    (run : sweepAudit event answers s = .ok u s') :
    { s with audited := s.audited ++ [event] } = s' := by
  obtain ⟨_, noted, written, audited⟩ := bind_ok.mp run
  obtain ⟨_, rfl⟩ := ofResult_keeps audited
  exact modify_ok.mp written

theorem addError_adds (entries : List (PyString × PyValue)) : Makes [] (addError entries) := by
  intro s _ s' run
  obtain rfl := modify_ok.mp run
  exact ⟨(List.append_nil _).symm, (List.append_nil _).symm, List.prefix_append _ _,
    List.forall_mem_nil _, (List.append_nil _).symm⟩

variable [PyText]

theorem cancelOrder_makes (broker : PyString) (row : Answered) :
    Makes (cancelCalls row) (cancelOrder broker row) := by
  intro s _ s' run
  obtain ⟨response, noted, asked, run⟩ := bind_ok.mp run
  obtain ⟨rfl, rfl⟩ := submitRequest_notes asked
  unfold cancelCalls
  cases answer : row.2.submit with
  | error raised =>
    rw [answer] at run
    obtain ⟨_, failed, written, run⟩ := bind_ok.mp run
    obtain rfl := modify_ok.mp written
    obtain ⟨tool, named, called, run⟩ := bind_ok.mp run
    obtain rfl := sweepTool_keeps called
    obtain ⟨intent, worded, text, run⟩ := bind_ok.mp run
    obtain ⟨-, rfl⟩ := ofResult_keeps text
    obtain rfl := sweepAudit_notes run
    exact .refused rfl rfl rfl
  | ok value =>
    rw [answer] at run
    obtain ⟨_, listed, written, run⟩ := bind_ok.mp run
    obtain rfl := modify_ok.mp written
    obtain ⟨tool, named, called, run⟩ := bind_ok.mp run
    obtain rfl := sweepTool_keeps called
    obtain ⟨intent, worded, text, run⟩ := bind_ok.mp run
    obtain ⟨-, rfl⟩ := ofResult_keeps text
    obtain rfl := sweepAudit_notes run
    have added := (@Added.answered s (.cancel (row.1.get "order_id") (.ok value))
      (sweepEvent broker tool intent (cancelRequest (row.1.get "order_id")) (.ok value))
      (s.submitted ++ [cancelRequest (row.1.get "order_id")])) rfl rfl rfl
    simpa [SweepCall.listedCancel, SweepCall.listedClose] using added

theorem closePosition_makes (broker : PyString) (row : Answered) :
    Makes (closeCalls row) (closePosition broker row) := by
  intro s _ s' run
  obtain ⟨qty, read, counted, run⟩ := bind_ok.mp run
  obtain ⟨quantity, rfl⟩ := ofResult_keeps counted
  unfold closeCalls
  rw [quantity]
  dsimp only
  split at run
  next flat =>
    obtain ⟨-, rfl⟩ := pure_ok.mp run
    rw [if_pos flat]
    exact .refl s
  next held =>
    rw [if_neg held]
    obtain ⟨intent, worded, text, run⟩ := bind_ok.mp run
    obtain ⟨-, rfl⟩ := ofResult_keeps text
    obtain ⟨response, noted, asked, run⟩ := bind_ok.mp run
    obtain ⟨rfl, rfl⟩ := submitRequest_notes asked
    cases answer : row.2.submit with
    | error raised =>
      rw [answer] at run
      obtain ⟨_, failed, written, run⟩ := bind_ok.mp run
      obtain rfl := modify_ok.mp written
      obtain ⟨tool, named, called, run⟩ := bind_ok.mp run
      obtain rfl := sweepTool_keeps called
      obtain rfl := sweepAudit_notes run
      exact .refused rfl rfl rfl
    | ok value =>
      rw [answer] at run
      obtain ⟨_, listed, written, run⟩ := bind_ok.mp run
      obtain rfl := modify_ok.mp written
      obtain ⟨tool, named, called, run⟩ := bind_ok.mp run
      obtain rfl := sweepTool_keeps called
      obtain rfl := sweepAudit_notes run
      have added := (@Added.answered s (.close (row.1.get "symbol") qty (.ok value))
        (sweepEvent broker tool intent (closeRequest (row.1.get "symbol") qty) (.ok value))
        (s.submitted ++ [closeRequest (row.1.get "symbol") qty])) rfl rfl rfl
      simpa [SweepCall.listedCancel, SweepCall.listedClose] using added

omit [PyText] in
theorem overRows_makes {phase : PyString} {read : Except Failure (List Answered)}
    {handle : Answered → SweepProgram PUnit} {made : Answered → List SweepCall}
    (each : ∀ row, Makes (made row) (handle row)) :
    Makes ((rowsOf read).flatMap made)
      (do (← readRows phase read).forM handle : SweepProgram PUnit) := by
  intro s a s' run
  obtain ⟨rows, gathered, reads, run⟩ := bind_ok.mp run
  obtain ⟨answer, kept, caught, reads⟩ := bind_ok.mp reads
  obtain ⟨rfl, rfl⟩ := sweepCaught_keeps caught
  cases answer with
  | ok given =>
    obtain ⟨rfl, rfl⟩ := pure_ok.mp reads
    exact Makes.forM each _ _ _ run
  | error raised =>
    obtain ⟨_, failed, written, reads⟩ := bind_ok.mp reads
    obtain ⟨rfl, rfl⟩ := pure_ok.mp reads
    obtain ⟨-, rfl⟩ := pure_ok.mp run
    exact addError_adds _ _ _ _ written

theorem flattenAndCancel_makes (broker : PyString) (input : SweepInput) {report : SweepReport}
    (run : flattenAndCancel broker input s = .ok report s') :
    Added input.calls s s' ∧ report = s'.report := by
  obtain ⟨_, cancelled, cancels, run⟩ := bind_ok.mp run
  have first := overRows_makes (cancelOrder_makes broker) _ _ _ cancels
  obtain ⟨permits, resolved, decided, run⟩ := bind_ok.mp run
  obtain ⟨permitted, rfl⟩ := ofResult_keeps decided
  unfold SweepInput.calls
  rw [permitted]
  cases permits with
  | true =>
    obtain ⟨_, closed, closes, run⟩ := bind_ok.mp run
    obtain ⟨_, _, given, run⟩ := bind_ok.mp run
    obtain ⟨rfl, rfl⟩ := get_ok.mp given
    obtain ⟨rfl, rfl⟩ := pure_ok.mp run
    rw [if_pos rfl]
    exact ⟨first.trans (overRows_makes (closePosition_makes broker) _ _ _ closes), rfl⟩
  | false =>
    obtain ⟨_, skipped, written, run⟩ := bind_ok.mp run
    obtain rfl := modify_ok.mp written
    obtain ⟨_, _, given, run⟩ := bind_ok.mp run
    obtain ⟨rfl, rfl⟩ := get_ok.mp given
    obtain ⟨rfl, rfl⟩ := pure_ok.mp run
    rw [if_neg (by simp), List.append_nil]
    exact ⟨⟨first.cancelled, first.closed, first.errors, first.failed, first.outcomes⟩, rfl⟩

end Runs

section Reports

variable [PyText]

theorem accepted_returned {call : SweepCall} (taken : call.accepted = true) :
    call.returned = true := by
  unfold SweepCall.accepted at taken
  unfold SweepCall.returned
  cases answer : call.answer with
  | ok value => rfl
  | error raised =>
    rw [answer] at taken
    cases taken

theorem flattenAndCancel_told {broker : PyString} {input : SweepInput} {report : SweepReport}
    {state : SweepState}
    (run : flattenAndCancel broker input (sweepStart broker) = .ok report state) :
    Told SweepCall.returned input.calls report state.audited := by
  obtain ⟨added, rfl⟩ := flattenAndCancel_makes broker input run
  exact ⟨added.cancelled, added.closed, added.failed, added.outcomes⟩

theorem told_iff {calls : List SweepCall} {report : SweepReport} {audited : List SweepEvent}
    (told : Told SweepCall.returned calls report audited) :
    Told SweepCall.accepted calls report audited ↔
      ∀ call ∈ calls, call.returned = true → call.accepted = true := by
  constructor
  · intro truthful call member returned
    have same := told.outcomes.symm.trans truthful.outcomes
    have outcome := congrArg Prod.snd (List.map_inj_left.mp same call member)
    simp only [SweepCall.outcome, returned, if_true] at outcome
    by_contra refused
    rw [if_neg refused] at outcome
    cases outcome
  · intro honest
    have same (call : SweepCall) (member : call ∈ calls) : call.returned = call.accepted :=
      Bool.eq_iff_iff.mpr ⟨honest call member, accepted_returned⟩
    have filtered : calls.filter SweepCall.returned = calls.filter SweepCall.accepted :=
      List.filter_congr same
    refine ⟨?_, ?_, fun call member refused => ?_, ?_⟩
    · rw [told.cancelled, filtered]
    · rw [told.closed, filtered]
    · exact told.failed call member ((same call member).trans refused)
    · rw [told.outcomes]
      refine List.map_congr_left fun call member => ?_
      unfold SweepCall.outcome
      rw [same call member]

/-- The report and the ledger tell what the broker took, exactly where no call that returned was
answered with an error envelope. -/
theorem flattenAndCancel_reports (broker : PyString) (input : SweepInput) (report : SweepReport)
    (state : SweepState)
    (run : flattenAndCancel broker input (sweepStart broker) = .ok report state) :
    Told SweepCall.accepted input.calls report state.audited ↔
      ∀ call ∈ input.calls, call.returned = true → call.accepted = true :=
  told_iff (flattenAndCancel_told run)

end Reports

def restingOrder : PyDict := fields [("order_id", .str "o1")]

def cancelSweep (answer : PyValue) : SweepInput where
  allowFlatten := some false
  mandate := .ok none
  openOrders := .ok [(restingOrder, ⟨.ok answer, .ok none, .ok ()⟩)]
  positions := .ok []

def cancelled : PyValue := .dict (fields [("status", .str "cancelled")])

def notCancellable : PyValue :=
  .dict (fields [("status", .str "error"), ("error", .str "order is not cancellable")])

def cancelRun (answer : PyValue) : EStateM.Result PyError SweepState SweepReport :=
  @flattenAndCancel asciiText "robinhood" (cancelSweep answer) (sweepStart "robinhood")

theorem cancelRun_returns :
    returned (cancelRun cancelled) = true ∧ returned (cancelRun notCancellable) = true := by
  decide +kernel

theorem cancelled_accepted :
    (@SweepInput.calls asciiText (cancelSweep cancelled)).all
        (@SweepCall.accepted asciiText) = true ∧
      (@SweepInput.calls asciiText (cancelSweep notCancellable)).any
        (fun call => call.returned && ! @SweepCall.accepted asciiText call) = true := by
  decide +kernel

theorem flattenAndCancel_reports_cancelled :
    ∃ report state, cancelRun cancelled = .ok report state ∧
      @Told (@SweepCall.accepted asciiText) (@SweepInput.calls asciiText (cancelSweep cancelled))
        report state.audited := by
  let text := asciiText
  obtain ⟨report, run⟩ := ok_of_returned cancelRun_returns.1
  refine ⟨report, _, run, (flattenAndCancel_reports _ _ _ _ run).mpr fun call member _ => ?_⟩
  exact List.all_eq_true.mp cancelled_accepted.1 call member

-- The refusal is reported as a cancelled order.
theorem flattenAndCancel_misreports :
    ¬ ∀ broker input report state,
      @flattenAndCancel asciiText broker input (sweepStart broker) = .ok report state →
        Told (@SweepCall.accepted asciiText) (@SweepInput.calls asciiText input) report
          state.audited := by
  let text := asciiText
  intro always
  obtain ⟨report, run⟩ := ok_of_returned cancelRun_returns.2
  have honest := (told_iff (flattenAndCancel_told run)).mp (always _ _ _ _ run)
  obtain ⟨call, member, refused⟩ := List.any_eq_true.mp cancelled_accepted.2
  rw [Bool.and_eq_true, Bool.not_eq_true'] at refused
  rw [honest call member refused.1] at refused
  cases refused.2

end SynapseYield.Runtime
