import SynapseYield.Harness.LongbridgeExecution

set_option autoImplicit false

namespace SynapseYield

open Shared OrderService

-- The request may be at the market: it was accepted, or nobody knows.
def SubmitOutcome.live : SubmitOutcome → Bool
  | .accepted _ => true
  | .unknown _ => true
  | .refused _ => false

-- Each request of the call that may be live has an order in the database.
def LiveRecorded (w w' : World) : Prop :=
  ∀ call ∈ w'.gatewayCalls.drop w.gatewayCalls.length, call.outcome.live →
    ∃ order ∈ w'.db.orders.rows, order.clientOrderId = call.request.clientOrderId ∧
      order.status ≠ .created ∧ order.status ≠ .riskApproved

instance (w w' : World) : Decidable (LiveRecorded w w') := by
  unfold LiveRecorded
  infer_instance

theorem LiveRecorded.uncalled {w w' : World} (same : w'.gatewayCalls = w.gatewayCalls) :
    LiveRecorded w w' := by
  intro call made
  simp [same] at made

theorem Filed.liveRecorded {broker : LongbridgeBroker} {filings : List Filing} {w w' : World}
    (filed : Filed broker filings w w') : LiveRecorded w w' := by
  intro call made _
  rw [filed.gatewayCalls, List.drop_left] at made
  obtain ⟨filing, member, rfl⟩ := List.mem_map.mp made
  refine ⟨filing.row, ?_, filing.row_clientOrderId, filing.row_status⟩
  rw [filed.rows]
  exact List.mem_append_right _ (List.mem_map_of_mem member)

namespace TradeExecutor

variable {executor : TradeExecutor} {broker : LongbridgeBroker} {proposal : LLMTradeProposal}
  {decision : HumanApprovalDecision} {accountId traceId threadId : String}
  {marketIsOpen : Option Bool} {w : World}

structure Submits (executor : TradeExecutor) (broker : LongbridgeBroker)
    (proposal : LLMTradeProposal) (accountId traceId : String) (marketIsOpen : Option Bool)
    (w : World) : Prop where
  unmatched : executor.findExistingOrder w.db traceId proposal.symbol = none
  placeable : ∃ side quote, Placeable executor proposal accountId marketIsOpen w side quote
  safe : Longbridge.submissionSafetyError broker = none

-- The prices of the children are valid and told apart by the idempotency key, and no broker
-- order id that the gateway answers with is taken.
structure BracketFits (broker : LongbridgeBroker) (proposal : LLMTradeProposal) (w : World) :
    Prop where
  positive : ∀ trigger ∈ childTriggers proposal, 0 < trigger.value
  distinct : ((childTriggers proposal).map Decimal.str).Nodup
  numbered : (w.db.orders.rows.filterMap Order.brokerOrderId ++
    (answers broker w (1 + (childTriggers proposal).length)).filterMap
      SubmitOutcome.brokerOrderId).Nodup

def Survives (broker : LongbridgeBroker) (proposal : LLMTradeProposal) (w : World) : Prop :=
  match broker.gateway.submitOutcome w.gatewayCalls.length with
  | .refused _ => True
  | .unknown _ => False
  | .accepted _ => BracketFits broker proposal w

theorem erased_unrecorded {mid w' : World} {filing : Filing} (fresh : FreshIds w)
    (filed : Filed broker [filing] w mid) (live : filing.outcome.live)
    (calls : mid.gatewayCalls <+: w'.gatewayCalls) (db : w'.db = w.db) :
    ¬ LiveRecorded w w' := by
  intro recorded
  have made : filing.call ∈ w'.gatewayCalls.drop w.gatewayCalls.length := by
    obtain ⟨later, whole⟩ := calls
    rw [← whole, filed.gatewayCalls, List.append_assoc, List.drop_left]
    simp
  obtain ⟨order, stored, same, -⟩ := recorded _ made live
  obtain ⟨n, low, -, drawn⟩ := filed.clientOrderIds filing (by simp)
  exact fresh.clientOrderId order (db ▸ stored) n low (same.trans drawn)

theorem submitChildren_calls (routed : executor.broker = Longbridge.adapter broker)
    (proposal : LLMTradeProposal) (decision : HumanApprovalDecision)
    (accountId traceId threadId : String) (placed : PlacedOrder) (result : BrokerOrderResult)
    (w : World) :
    w.gatewayCalls <+: (leaves (executor.submitChildren proposal decision accountId traceId threadId
      placed result w)).gatewayCalls := by
  have grown := (Lifecycle.grown_lifecycle w).writes.submitChildren
    (fun traceId orderId quote => by
      rw [routed]
      exact (Lifecycle.grown_lifecycle w).longbridge_submitOrder broker traceId orderId)
    proposal decision accountId traceId threadId placed result w ⟨le_rfl, List.prefix_refl _⟩
  exact grown.gatewayCalls

section Placed

variable {placed : PlacedOrder} {order : Order} {mid sent : World} {result : BrokerOrderResult}
  {filing : Filing} {side : OrderSide}

theorem uniqueColumns_fits {filings : List Filing} {last : World} {signalId : String}
    (fresh : FreshIds w) (unique : w.db.UniqueColumns) (drawn : signalId = idText "sig" w.serial)
    (main : filing.key = idempotencyKey (executor.intentFields proposal accountId side signalId))
    (sided : orderSide proposal.action = .ok side)
    (filed : Filed broker (filing :: filings) w last)
    (keys : filings.map Filing.key =
      (childTriggers proposal).map (executor.childKey proposal accountId signalId)) :
    last.db.UniqueColumns ↔ ((childTriggers proposal).map Decimal.str).Nodup ∧
      (w.db.orders.rows.filterMap Order.brokerOrderId ++
        (answers broker w (1 + (childTriggers proposal).length)).filterMap
          SubmitOutcome.brokerOrderId).Nodup := by
  have counted : (filing :: filings).length = 1 + (childTriggers proposal).length := by
    have lengths := congrArg List.length keys
    simp only [List.length_map] at lengths
    rw [List.length_cons, lengths, Nat.add_comm]
  have other : filing.key ∉ filings.map Filing.key := by
    rw [keys, main]
    intro member
    obtain ⟨trigger, given, same⟩ := List.mem_map.mp member
    exact mainKey_other sided given same.symm
  have unseen : ∀ key ∈ (filing :: filings).map Filing.key, ∀ row ∈ w.db.orders.rows,
      row.idempotencyKey ≠ key := by
    intro key member
    rw [List.map_cons, keys, main] at member
    obtain rfl | member := List.mem_cons.mp member
    · exact fresh.signalId _ _ le_rfl (drawn ▸ rfl)
    · obtain ⟨trigger, -, rfl⟩ := List.mem_map.mp member
      exact fresh.signalId _ _ le_rfl (drawn ▸ rfl)
  rw [filed.uniqueColumns fresh.toUnusedIds unique unseen, counted, List.map_cons,
    List.nodup_cons, keys, childKeys_distinct, ← keys]
  simp only [other, not_false_iff, true_and]

section Accepted

variable (routed : executor.broker = Longbridge.adapter broker)
  (safe : Longbridge.submissionSafetyError broker = none) (fresh : FreshIds w)
  (unique : w.db.UniqueColumns) (filed : Filed broker [filing] w sent)
  (drawn : placed.signalId = idText "sig" w.serial)
  (orderId : placed.orderId = filing.order.orderId)
  (main : filing.key = idempotencyKey (executor.intentFields proposal accountId side
    placed.signalId)) (sided : orderSide proposal.action = .ok side)

include fresh filed drawn in
theorem accepted_unawaited (fields : IntentFields)
    (named : fields.sourceSignalId = some placed.signalId) : Unawaited sent.db fields :=
  filed.unawaited fun row member same =>
    absurd same (fresh.signalId fields _ le_rfl (drawn ▸ named) row member)

include routed safe fresh unique filed drawn orderId main sided

theorem accepted_commits (decision : HumanApprovalDecision) (traceId threadId : String)
    (result : BrokerOrderResult) :
    (∃ completed last, executor.submitChildren proposal decision accountId traceId threadId placed
      result sent = .ok completed last ∧ last.db.UniqueColumns) ↔ BracketFits broker proposal w := by
  have unawaited := accepted_unawaited fresh filed drawn
  constructor
  · rintro ⟨completed, last, children, columns⟩
    obtain ⟨filings, filed', keys, positive⟩ :=
      submitChildren_filed routed safe children unawaited
    obtain ⟨distinct, numbered⟩ :=
      (uniqueColumns_fits fresh unique drawn main sided (filed.trans filed') keys).mp columns
    exact ⟨positive, distinct, numbered⟩
  · intro fitting
    have unseen : ∀ fields : IntentFields, fields.sourceSignalId = some placed.signalId →
        Unseen w.db fields := fun fields named =>
      fresh.signalId fields _ le_rfl (drawn ▸ named)
    have numbered := fitting.numbered
    have answered := filed.answers_append (childTriggers proposal).length
    have numbers := filed.numbers
    rw [List.length_singleton] at answered numbers
    rw [answered, List.filterMap_append, ← List.append_assoc, ← numbers] at numbered
    have columns : sent.db.UniqueColumns := by
      rw [filed.uniqueColumns fresh.toUnusedIds unique, List.map_singleton]
      · refine ⟨List.nodup_singleton _, ?_⟩
        rw [List.length_singleton, ← numbers]
        exact numbered.sublist (List.sublist_append_left _ _)
      · rw [List.map_singleton, main]
        intro key member
        rw [List.mem_singleton.mp member]
        exact unseen _ rfl
    have stored : sent.db.orders.find? placed.orderId = some filing.row := by
      rw [Table.find?_eq_some, filed.rows, filing.row_orderId]
      exact ⟨by simp, orderId.symm⟩
    obtain ⟨completed, last, children⟩ := submitChildren_returns routed safe sent decision accountId
      traceId threadId placed result fitting.positive
      ((childKeys_distinct executor proposal accountId _).mpr fitting.distinct) numbered
      (fun trigger given => filed.unseen (unseen _ rfl) (by
        rw [List.map_singleton, List.mem_singleton, main]
        exact (mainKey_other sided given).symm))
      unawaited (filed.unusedIds fresh.toUnusedIds) columns ⟨_, stored⟩
    obtain ⟨filings, filed', keys, -⟩ := submitChildren_filed routed safe children unawaited
    exact ⟨completed, last, children,
      (uniqueColumns_fits fresh unique drawn main sided (filed.trans filed') keys).mpr
        ⟨fitting.distinct, fitting.numbered⟩⟩

theorem accepted_liveRecorded (opened : w.opened = w)
    (run : executor.doExecute proposal decision accountId traceId threadId marketIsOpen w =
      executor.submitChildren proposal decision accountId traceId threadId placed result sent)
    (live : filing.outcome.live) :
    LiveRecorded w (leaves (transaction (executor.doExecute proposal decision accountId traceId
      threadId marketIsOpen) w)) ↔ BracketFits broker proposal w := by
  have commits := accepted_commits routed safe fresh unique filed drawn orderId main sided decision
    traceId threadId result
  have later := submitChildren_calls routed proposal decision accountId traceId threadId placed
    result sent
  rw [← opened] at run
  rw [← commits]
  cases children : executor.submitChildren proposal decision accountId traceId threadId placed
      result sent with
  | ok completed last =>
    rw [children, leaves_ok] at later
    rw [transaction_of_ok (run.trans children)]
    by_cases columns : last.db.UniqueColumns
    · obtain ⟨filings, filed', -, -⟩ := submitChildren_filed routed safe children
        (accepted_unawaited fresh filed drawn)
      have recorded : LiveRecorded w { last with unflushed := [] } :=
        (filed.trans filed').liveRecorded
      rw [if_pos columns]
      exact iff_of_true recorded ⟨completed, last, rfl, columns⟩
    · rw [if_neg columns]
      refine iff_of_false (erased_unrecorded fresh filed live later rfl) ?_
      rintro ⟨_, _, same, columns'⟩
      cases same
      exact columns columns'
  | error raised last =>
    rw [children, leaves_error] at later
    rw [transaction_of_error (run.trans children)]
    refine iff_of_false (erased_unrecorded fresh filed live later rfl) ?_
    rintro ⟨_, _, same, -⟩
    cases same

end Accepted

theorem submitPlaced_refused (refused : result.accepted = false)
    (submitted : executor.broker.submitOrder traceId placed.orderId placed.quote mid =
      .ok result sent) :
    executor.submitPlaced proposal decision accountId traceId threadId placed mid =
      .error (.runtimeError s!"券商拒绝下单：{result.message}") sent := by
  rw [submitPlaced, bind_of_ok submitted]
  simp only [refused, Bool.not_false, if_true]
  rfl

theorem submitPlaced_accepted (accepted : result.accepted = true)
    (submitted : executor.broker.submitOrder traceId placed.orderId placed.quote mid =
      .ok result sent) :
    executor.submitPlaced proposal decision accountId traceId threadId placed mid =
      executor.submitChildren proposal decision accountId traceId threadId placed result sent := by
  rw [submitPlaced, bind_of_ok submitted]
  simp only [accepted, Bool.not_true, Bool.false_eq_true, if_false]

theorem placed_liveRecorded (routed : executor.broker = Longbridge.adapter broker)
    (safe : Longbridge.submissionSafetyError broker = none) (fresh : FreshIds w)
    (unique : w.db.UniqueColumns) (opened : w.opened = w)
    (unmatched : executor.findExistingOrder w.db traceId proposal.symbol = none)
    (placing : executor.placeOrder proposal accountId traceId marketIsOpen w = .ok placed mid) :
    LiveRecorded w (leaves (transaction (executor.doExecute proposal decision accountId traceId
      threadId marketIsOpen) w)) ↔ Survives broker proposal w := by
  obtain ⟨side, order, placeable, -, drawn, orderId, approved, appended, serial⟩ :=
    placeOrder_ok fresh placing
  obtain ⟨result, sent, submitted⟩ :=
    submitOrder_answers routed safe traceId placed.quote appended approved.status
  obtain ⟨filed, accepted⟩ := submitOrder_filed routed safe submitted approved appended
    (Nat.le_succ _) (by omega)
  rw [← orderId] at submitted
  have run : executor.doExecute proposal decision accountId traceId threadId marketIsOpen w.opened =
      executor.submitPlaced proposal decision accountId traceId threadId placed mid := by
    rw [opened, doExecute, bind_of_ok (get_ok.mpr ⟨rfl, rfl⟩), unmatched]
    exact bind_of_ok placing
  unfold Survives
  cases outcome : broker.gateway.submitOutcome w.gatewayCalls.length with
  | accepted brokerOrderId =>
    rw [outcome] at filed accepted
    rw [submitPlaced_accepted (accepted.mpr ⟨_, rfl⟩) submitted, opened] at run
    exact accepted_liveRecorded routed safe fresh unique filed drawn orderId
      approved.idempotencyKey placeable.sided opened run rfl
  | unknown error =>
    rw [outcome] at filed accepted
    have refused : result.accepted = false := by simpa using accepted
    rw [transaction_of_error (run.trans (submitPlaced_refused refused submitted))]
    exact iff_of_false (erased_unrecorded fresh filed rfl (List.prefix_refl _) rfl) not_false
  | refused error =>
    rw [outcome] at filed accepted
    have refused : result.accepted = false := by simpa using accepted
    rw [transaction_of_error (run.trans (submitPlaced_refused refused submitted))]
    refine iff_of_true (fun call made live => ?_) trivial
    rw [leaves_error, filed.gatewayCalls, List.drop_left, List.map_singleton,
      List.mem_singleton] at made
    rw [made] at live
    cases live

end Placed

theorem doExecute_uncalled (routed : executor.broker = Longbridge.adapter broker)
    (proposal : LLMTradeProposal) (decision : HumanApprovalDecision)
    (accountId traceId threadId : String) (marketIsOpen : Option Bool) (fresh : FreshIds w)
    (kept : ¬ Submits executor broker proposal accountId traceId marketIsOpen w) :
    (leaves (executor.doExecute proposal decision accountId traceId threadId marketIsOpen
      w)).gatewayCalls = w.gatewayCalls := by
  rw [doExecute, bind_of_ok (get_ok.mpr ⟨rfl, rfl⟩)]
  cases unmatched : executor.findExistingOrder w.db traceId proposal.symbol with
  | some existing => rfl
  | none =>
    cases placing : executor.placeOrder proposal accountId traceId marketIsOpen w with
    | error raised mid =>
      have quiet := (Lifecycle.uncalled_bookkeeping w.gatewayCalls).placeOrder executor proposal
        accountId traceId marketIsOpen w rfl
      rw [placing] at quiet
      simp only [bind_of_error placing]
      exact quiet
    | ok placed mid =>
      obtain ⟨side, order, placeable, -, -, orderId, approved, appended, -⟩ :=
        placeOrder_ok fresh placing
      cases safe : Longbridge.submissionSafetyError broker with
      | none => exact absurd ⟨unmatched, ⟨side, _, placeable⟩, safe⟩ kept
      | some safetyError =>
        obtain ⟨result, sent, blocked, refused, calls, -⟩ :=
          Longbridge.submitOrder_blocked traceId appended.stored approved.status safe
        have submitted : executor.broker.submitOrder traceId placed.orderId placed.quote mid =
            .ok result sent := by
          rw [routed, orderId]
          exact blocked
        simp only [bind_of_ok placing, submitPlaced_refused refused submitted]
        exact calls.trans appended.gatewayCalls

theorem Submits.placed (submits : Submits executor broker proposal accountId traceId marketIsOpen w)
    (fresh : FreshIds w) (unique : w.db.UniqueColumns) :
    ∃ placed mid, executor.placeOrder proposal accountId traceId marketIsOpen w =
      .ok placed mid := by
  obtain ⟨side, quote, placeable⟩ := submits.placeable
  exact placeOrder_returns fresh unique placeable

theorem Submits.called (routed : executor.broker = Longbridge.adapter broker)
    (submits : Submits executor broker proposal accountId traceId marketIsOpen w)
    (fresh : FreshIds w) (unique : w.db.UniqueColumns) (decision : HumanApprovalDecision)
    (threadId : String) :
    ∃ call, w.gatewayCalls ++ [call] <+: (leaves (executor.doExecute proposal decision accountId
      traceId threadId marketIsOpen w)).gatewayCalls := by
  obtain ⟨placed, mid, placing⟩ := submits.placed fresh unique
  obtain ⟨side, order, -, -, -, orderId, approved, appended, serial⟩ := placeOrder_ok fresh placing
  obtain ⟨result, sent, submitted⟩ :=
    submitOrder_answers routed submits.safe traceId placed.quote appended approved.status
  obtain ⟨filed, -⟩ := submitOrder_filed routed submits.safe submitted approved appended
    (Nat.le_succ _) (by omega)
  rw [← orderId] at submitted
  rw [doExecute, bind_of_ok (get_ok.mpr ⟨rfl, rfl⟩), submits.unmatched]
  simp only [bind_of_ok placing, submitPlaced, bind_of_ok submitted]
  have calls := filed.gatewayCalls
  rw [List.map_singleton] at calls
  refine ⟨Filing.call ⟨order, broker.gateway.submitOutcome w.gatewayCalls.length⟩, ?_⟩
  rw [← calls]
  split
  next => exact List.prefix_refl _
  next =>
    exact submitChildren_calls routed proposal decision accountId traceId threadId placed result sent

theorem start_liveRecorded (routed : executor.broker = Longbridge.adapter broker)
    (proposal : LLMTradeProposal) (decision : HumanApprovalDecision)
    (accountId traceId threadId : String) (marketIsOpen : Option Bool)
    (fresh : FreshIds w) (unique : w.db.UniqueColumns) (opened : w.opened = w) :
    LiveRecorded w (leaves (transaction (executor.doExecute proposal decision accountId traceId
      threadId marketIsOpen) w)) ↔
      (Submits executor broker proposal accountId traceId marketIsOpen w →
        Survives broker proposal w) := by
  by_cases submits : Submits executor broker proposal accountId traceId marketIsOpen w
  · obtain ⟨placed, mid, placing⟩ := submits.placed fresh unique
    rw [placed_liveRecorded routed submits.safe fresh unique opened submits.unmatched placing]
    exact ⟨fun survives _ => survives, fun survives => survives submits⟩
  · refine iff_of_true (LiveRecorded.uncalled ?_) fun sent => absurd sent submits
    rw [transaction_calls, opened]
    exact doExecute_uncalled routed proposal decision accountId traceId threadId marketIsOpen fresh
      submits

theorem submits_later (serial : Nat) :
    Submits executor broker proposal accountId traceId marketIsOpen
        { w with serial, unflushed := [] } ↔
      Submits executor broker proposal accountId traceId marketIsOpen w := by
  constructor <;>
  · rintro ⟨unmatched, ⟨side, quote, placeable⟩, safe⟩
    exact ⟨unmatched, ⟨side, quote, placeable.sided, placeable.priced, placeable.approved⟩, safe⟩

theorem survives_later (serial : Nat) :
    Survives broker proposal { w with serial, unflushed := [] } ↔ Survives broker proposal w := by
  unfold Survives
  cases broker.gateway.submitOutcome w.gatewayCalls.length with
  | refused error => exact Iff.rfl
  | unknown error => exact Iff.rfl
  | accepted brokerOrderId =>
    constructor <;>
    · intro fits
      exact ⟨fits.positive, fits.distinct, fits.numbered⟩

theorem liveRecorded_iff (routed : executor.broker = Longbridge.adapter broker)
    (proposal : LLMTradeProposal) (decision : HumanApprovalDecision) (accountId : String)
    (traceId threadId : Option String) (marketIsOpen : Option Bool) (fresh : FreshIds w)
    (unique : w.db.UniqueColumns) :
    LiveRecorded w (leaves (executor.execute proposal decision accountId traceId threadId
      marketIsOpen w)) ↔
      (Submits executor broker proposal accountId (resolvedId traceId "trace" w.serial)
        marketIsOpen w → Survives broker proposal w) := by
  obtain ⟨resolvedThreadId, serial, later, run⟩ :=
    execute_run executor proposal decision accountId traceId threadId marketIsOpen w
  let start : World := { w with serial, unflushed := [] }
  have fresh' : FreshIds start := fresh.later rfl later
  have started := start_liveRecorded routed proposal decision accountId
    (resolvedId traceId "trace" w.serial) resolvedThreadId marketIsOpen fresh' unique rfl
  rw [run]
  exact started.trans (imp_congr (submits_later serial) (survives_later serial))

def answering (outcome : Nat → SubmitOutcome) : LongbridgeBroker where
  gateway := { submitOutcome := outcome }
  config := { enableOrderSubmission := true }

def through (broker : LongbridgeBroker) : TradeExecutor where
  broker := Longbridge.adapter broker

def numbering : LongbridgeBroker := answering fun n => .accepted (idText "lb" n)

def timingOut : LongbridgeBroker := answering fun _ => .unknown "timed out"

theorem timedOut_erased : ¬ LiveRecorded (cashOnly 5000)
    (leaves ((through timingOut).execute (buyTen none none) reviewed "acct" none none none
      (cashOnly 5000))) := by
  decide +kernel

-- The children come after the main order was accepted, and a negative price is refused there.
example : ¬ LiveRecorded (cashOnly 5000)
    (leaves ((through numbering).execute (buyTen none (some ⟨-90, 0⟩)) reviewed "acct" none none
      none (cashOnly 5000))) := by
  decide +kernel

theorem liveRecorded_bracket : LiveRecorded (cashOnly 5000)
    (leaves ((through numbering).execute (buyTen (some (wholeShares 110)) (some (wholeShares 90)))
      reviewed "acct" none none none (cashOnly 5000))) :=
  have routed : (through numbering).broker = Longbridge.adapter numbering := rfl
  have fits : BracketFits numbering (buyTen (some (wholeShares 110)) (some (wholeShares 90)))
      (cashOnly 5000) :=
    { positive := by decide +kernel
      distinct := by decide +kernel
      numbered := by decide +kernel }
  (liveRecorded_iff routed _ _ _ _ _ _ (cashOnly_fresh 5000) (by decide)).mpr fun _ => fits

end TradeExecutor

end SynapseYield
