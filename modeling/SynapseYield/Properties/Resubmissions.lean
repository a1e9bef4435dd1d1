import SynapseYield.Harness.Handover
import SynapseYield.Properties.LiveOrders

set_option autoImplicit false

namespace SynapseYield.TradeExecutor

open Shared OrderService

-- One call of execute, with the order in which the database answers the lookup in it.
structure Attempt where
  proposal : LLMTradeProposal
  decision : HumanApprovalDecision
  accountId : String
  threadId : Option String := none
  marketIsOpen : Option Bool := none
  rowOrder : RowOrder := {}
  now : Int := 0

variable {executor : TradeExecutor} {broker : Broker} {traceId symbol : String}
  {start w w' : World} {first : Attempt} {tried : List (Attempt × World)}
  {completed : LLMTradingRunResult} {signal : StrategySignal} {children : List String}

def Attempt.configured (attempt : Attempt) (executor : TradeExecutor) (broker : Broker) :
    TradeExecutor :=
  { executor with broker := broker.adapter, rowOrder := attempt.rowOrder }

def Attempt.run (attempt : Attempt) (executor : TradeExecutor) (broker : Broker)
    (traceId : String) (w : World) : EStateM.Result PyException World LLMTradingRunResult :=
  (attempt.configured executor broker).execute attempt.proposal attempt.decision attempt.accountId
    (some traceId) attempt.threadId attempt.marketIsOpen { w with now := attempt.now }

def afterAll (executor : TradeExecutor) (broker : Broker) (traceId : String)
    (attempts : List Attempt) (w : World) : World :=
  attempts.foldl (fun w attempt => leaves (attempt.run executor broker traceId w)) w

-- Calls that raised, one after the other, each with the state it found.
inductive Failed (executor : TradeExecutor) (broker : Broker) (traceId : String) :
    World → List (Attempt × World) → World → Prop
  | none (w : World) : Failed executor broker traceId w [] w
  | next {start w w' : World} {tried : List (Attempt × World)} (attempt : Attempt)
      (raised : PyException) (earlier : Failed executor broker traceId start tried w)
      (run : attempt.run executor broker traceId w = .error raised w') :
      Failed executor broker traceId start (tried ++ [(attempt, w)]) w'

def Attempt.Sends (attempt : Attempt) (executor : TradeExecutor) (broker : Broker)
    (traceId : String) (w : World) : Prop :=
  match broker with
  | .localSim _ => False
  | .longbridge gateway => Submits (attempt.configured executor broker) gateway attempt.proposal
      attempt.accountId traceId attempt.marketIsOpen { w with now := attempt.now }

structure NewTrace (executor : TradeExecutor) (traceId symbol : String) (w : World) : Prop
    extends FreshIds w where
  unmatched : executor.findExistingOrder w.db traceId symbol = none
  signals : ∀ order ∈ w.db.orders.rows, ∀ n, w.serial ≤ n →
    order.sourceSignalId ≠ some (idText "sig" n)

-- The calls around the first successful one, which goes from w to w'.
structure SubmittedOnce (executor : TradeExecutor) (broker : Broker) (traceId symbol : String)
    (completed : LLMTradingRunResult) (start w w' : World) : Prop where
  earlier : w.db = start.db ∧ w.gatewayCalls = start.gatewayCalls
  later : ∀ (attempts : List Attempt) (next : Attempt),
    (∀ attempt ∈ attempts, attempt.proposal.symbol = symbol) → next.proposal.symbol = symbol →
    ∃ repeated last,
      next.run executor broker traceId (afterAll executor broker traceId attempts w') =
        .ok repeated last ∧
      last.db = w'.db ∧ last.gatewayCalls = w'.gatewayCalls ∧
      repeated.orderId = completed.orderId ∧
      repeated.riskDecisionId = completed.riskDecisionId ∧
      repeated.brokerOrderId = completed.brokerOrderId

section Lookup

def selects (strategyName : String) (signals : List StrategySignal) (traceId symbol : String)
    (sourceSignalId : Option String) : Bool :=
  signals.any fun signal => sourceSignalId == some signal.signalId && signal.traceId == traceId &&
    signal.strategyName == strategyName && signal.symbol == symbol

def matched (strategyName : String) (db : Database) (traceId symbol : String) : List Order :=
  db.orders.rows.filter fun order =>
    selects strategyName db.strategySignals traceId symbol order.sourceSignalId

theorem findExistingOrder_matched (executor : TradeExecutor) (db : Database)
    (traceId symbol : String) : executor.findExistingOrder db traceId symbol =
      (executor.rowOrder.arrange (matched executor.strategyName db traceId symbol)).head? := rfl

theorem findExistingOrder_none (executor : TradeExecutor) {db : Database} :
    executor.findExistingOrder db traceId symbol = none ↔
      matched executor.strategyName db traceId symbol = [] := by
  have arranged := executor.rowOrder.perm (matched executor.strategyName db traceId symbol)
  rw [findExistingOrder_matched, List.head?_eq_none_iff]
  constructor
  · intro empty
    rw [empty] at arranged
    exact List.nil_perm.mp arranged
  · intro empty
    rw [empty] at arranged
    rw [empty]
    exact List.perm_nil.mp arranged

theorem matched_origins (strategyName : String) (db : Database) (traceId symbol : String) :
    (matched strategyName db traceId symbol).map Order.orderId =
      ((db.orders.rows.map Order.origin).filter fun origin =>
        selects strategyName db.strategySignals traceId symbol origin.2).map Prod.fst := by
  rw [List.filter_map, List.map_map]
  rfl

theorem HandedOver.matched (handed : HandedOver completed signal children w w')
    (unmatched : executor.findExistingOrder w.db traceId symbol = none)
    (undrawn : ∀ order ∈ w.db.orders.rows, order.sourceSignalId ≠ some signal.signalId)
    (traced : signal.traceId = traceId) (named : signal.strategyName = executor.strategyName)
    (traded : signal.symbol = symbol) :
    (matched executor.strategyName w'.db traceId symbol).map Order.orderId =
      completed.orderId :: children := by
  have old : (w.db.orders.rows.map Order.origin).filter (fun origin =>
      selects executor.strategyName (w.db.strategySignals ++ [signal]) traceId symbol origin.2) =
        [] := by
    rw [List.filter_map, List.map_eq_nil_iff, List.filter_eq_nil_iff]
    intro row stored
    have earlier := List.filter_eq_nil_iff.mp ((findExistingOrder_none executor).mp unmatched) row stored
    simp only [Function.comp_apply, Order.origin, selects, List.any_append, Bool.or_eq_true,
      not_or] at earlier ⊢
    exact ⟨earlier, by simp [undrawn row stored]⟩
  have new : selects executor.strategyName (w.db.strategySignals ++ [signal]) traceId symbol
      (some signal.signalId) = true := by
    simp [selects, traced, named, traded]
  rw [matched_origins, handed.origins, handed.strategySignals, List.filter_append, old,
    List.nil_append, List.filter_eq_self.mpr, List.map_map]
  · exact List.map_id _
  · intro origin member
    obtain ⟨orderId, -, rfl⟩ := List.mem_map.mp member
    exact new

end Lookup

section Calls

variable {attempt : Attempt} {attempts : List Attempt}

theorem resolvedId_given (named : traceId ≠ "") (idPrefix : String) (serial : Nat) :
    resolvedId (some traceId) idPrefix serial = traceId := if_neg named

theorem Attempt.run_transaction (attempt : Attempt) (executor : TradeExecutor) (broker : Broker)
    (named : traceId ≠ "") (w : World) :
    ∃ threadId serial, w.serial ≤ serial ∧ attempt.run executor broker traceId w =
      transaction ((attempt.configured executor broker).doExecute attempt.proposal attempt.decision
        attempt.accountId traceId threadId attempt.marketIsOpen)
        { w with now := attempt.now, serial } := by
  obtain ⟨threadId, serial, later, run⟩ := execute_run (attempt.configured executor broker)
    attempt.proposal attempt.decision attempt.accountId (some traceId) attempt.threadId
    attempt.marketIsOpen { w with now := attempt.now }
  rw [resolvedId_given named] at run
  exact ⟨threadId, serial, later, run⟩

theorem Attempt.grown (attempt : Attempt) (executor : TradeExecutor) (broker : Broker)
    (traceId : String) (w : World) :
    Lifecycle.Grown w (leaves (attempt.run executor broker traceId w)) :=
  (Lifecycle.grown_lifecycle w).execute broker { executor with rowOrder := attempt.rowOrder }
    attempt.proposal attempt.decision attempt.accountId (some traceId) attempt.threadId
    attempt.marketIsOpen { w with now := attempt.now } ⟨le_rfl, List.prefix_refl _⟩

theorem NewTrace.later (begun : NewTrace executor traceId symbol w) (same : w'.db = w.db)
    (serial : w.serial ≤ w'.serial) : NewTrace executor traceId symbol w' where
  toFreshIds := begun.toFreshIds.later same serial
  unmatched := same ▸ begun.unmatched
  signals := fun order member n later =>
    begun.signals order (same ▸ member) n (serial.trans later)

theorem Attempt.raised (named : traceId ≠ "") (fresh : FreshIds w) (unique : w.db.UniqueColumns)
    {raised : PyException} (run : attempt.run executor broker traceId w = .error raised w') :
    w'.db = w.db ∧
      (w'.gatewayCalls = w.gatewayCalls ↔ ¬ attempt.Sends executor broker traceId w) := by
  obtain ⟨threadId, serial, later, whole⟩ := attempt.run_transaction executor broker named w
  let opened : World := { w with now := attempt.now, serial, unflushed := [] }
  have fresh' : FreshIds opened := fresh.later rfl later
  have calls := transaction_calls ((attempt.configured executor broker).doExecute attempt.proposal
    attempt.decision attempt.accountId traceId threadId attempt.marketIsOpen)
    { w with now := attempt.now, serial }
  rw [← whole, run, leaves_error] at calls
  constructor
  · rw [whole] at run
    obtain ⟨mid, -, rfl⟩ := transaction_error run
    rfl
  · rw [calls]
    cases broker with
    | localSim config =>
      refine iff_of_true ?_ not_false
      have quiet := Lifecycle.uncalled_bookkeeping w.gatewayCalls
      exact quiet.doExecute (fun traceId orderId quote =>
        quiet.writes.localSim_submitOrder config traceId orderId quote) _ _ _ _ _ _ opened rfl
    | longbridge gateway =>
      have submits : attempt.Sends executor (.longbridge gateway) traceId w ↔
          Submits (attempt.configured executor (.longbridge gateway)) gateway attempt.proposal
            attempt.accountId traceId attempt.marketIsOpen opened :=
        (submits_later serial).symm
      rw [submits]
      constructor
      · intro same sends
        obtain ⟨call, more⟩ := sends.called rfl fresh' unique attempt.decision threadId
        have longer := more.length_le
        rw [List.length_append, List.length_singleton] at longer
        exact absurd (congrArg List.length same) (Nat.ne_of_gt longer)
      · exact doExecute_uncalled rfl _ _ _ _ _ _ fresh'

theorem Failed.unsent (named : traceId ≠ "") (failed : Failed executor broker traceId start tried w)
    (begun : NewTrace executor traceId symbol start) (unique : start.db.UniqueColumns) :
    w.db = start.db ∧ start.serial ≤ w.serial ∧ start.gatewayCalls <+: w.gatewayCalls ∧
      (w.gatewayCalls = start.gatewayCalls ↔
        ∀ attempt before, (attempt, before) ∈ tried →
          ¬ attempt.Sends executor broker traceId before) := by
  induction failed with
  | none => exact ⟨rfl, le_rfl, List.prefix_refl _, by simp⟩
  | @next before after tried attempt raised earlier run ih =>
    obtain ⟨same, serial, calls, unsent⟩ := ih
    have grown := attempt.grown executor broker traceId before
    rw [run, leaves_error] at grown
    obtain ⟨kept, quiet⟩ := attempt.raised named (begun.later same serial).toFreshIds
      (same ▸ unique) run
    refine ⟨kept.trans same, serial.trans grown.serial, calls.trans grown.gatewayCalls, ?_⟩
    constructor
    · intro unchanged
      have between : before.gatewayCalls = start.gatewayCalls := by
        refine (calls.eq_of_length_le ?_).symm
        exact unchanged ▸ grown.gatewayCalls.length_le
      intro other found member
      obtain member | last := List.mem_append.mp member
      · exact unsent.mp between other found member
      · cases List.mem_singleton.mp last
        exact quiet.mp (unchanged.trans between.symm)
    · intro none
      have between := unsent.mpr fun other found member =>
        none other found (List.mem_append_left _ member)
      exact (quiet.mpr (none attempt before (by simp))).trans between

theorem Attempt.handedOver (named : traceId ≠ "") {attempt : Attempt}
    (begun : NewTrace executor traceId attempt.proposal.symbol w)
    (run : attempt.run executor broker traceId w = .ok completed w') :
    w'.db.UniqueColumns ∧ ∃ signal children,
      children.length = (childTriggers attempt.proposal).length ∧
      HandedOver completed signal children w w' ∧ signal.traceId = traceId ∧
      signal.strategyName = executor.strategyName ∧ signal.symbol = attempt.proposal.symbol ∧
      ∀ order ∈ w.db.orders.rows, order.sourceSignalId ≠ some signal.signalId := by
  obtain ⟨threadId, serial, mid, later, executed, unique, rfl⟩ := execute_ok run
  rw [resolvedId_given named] at executed
  let opened : World := { w with now := attempt.now, serial, unflushed := [] }
  have begun' : NewTrace executor traceId attempt.proposal.symbol opened := begun.later rfl later
  refine ⟨unique, ?_⟩
  obtain ⟨existing, found, -⟩ | ⟨-, placed, placedWorld, placing, submitting⟩ := doExecute_ok executed
  · have none := (findExistingOrder_none executor).mp begun.unmatched
    cases found.symm.trans ((findExistingOrder_none (attempt.configured executor broker)).mpr none)
  · obtain ⟨side, children, count, handed⟩ :=
      submitPlaced_handedOver rfl begun'.toFreshIds placing submitting
    refine ⟨_, children, count, ⟨handed.origins, handed.strategySignals, handed.main⟩, rfl, rfl, rfl, ?_⟩
    exact fun order member => begun'.signals order member serial le_rfl

theorem Attempt.repeated (named : traceId ≠ "") (unique : w.db.UniqueColumns)
    {existing : Order} (found : (attempt.configured executor broker).findExistingOrder w.db traceId
      attempt.proposal.symbol = some existing) :
    ∃ repeated last, attempt.run executor broker traceId w = .ok repeated last ∧
      last.db = w.db ∧ last.gatewayCalls = w.gatewayCalls ∧
      repeated.orderId = existing.orderId ∧ repeated.riskDecisionId = existing.riskDecisionId ∧
      repeated.brokerOrderId = existing.brokerOrderId := by
  obtain ⟨threadId, serial, later, whole⟩ := attempt.run_transaction executor broker named w
  let opened : World := { w with now := attempt.now, serial, unflushed := [] }
  have fetched : (attempt.configured executor broker).doExecute attempt.proposal attempt.decision
      attempt.accountId traceId threadId attempt.marketIsOpen opened = _ :=
    bind_of_ok (get_ok.mpr ⟨rfl, rfl⟩)
  rw [found] at fetched
  rw [whole, transaction_of_ok fetched, if_pos unique]
  exact ⟨_, _, rfl, rfl, rfl, rfl, rfl, rfl⟩

theorem Attempt.finds (attempt : Attempt) (executor : TradeExecutor) (broker : Broker)
    (found : matched executor.strategyName w.db traceId attempt.proposal.symbol ≠ []) :
    ∃ existing, (attempt.configured executor broker).findExistingOrder w.db traceId
      attempt.proposal.symbol = some existing := by
  refine Option.ne_none_iff_exists'.mp fun missing => ?_
  exact found ((findExistingOrder_none (attempt.configured executor broker)).mp missing)

theorem afterAll_unchanged (named : traceId ≠ "") (unique : w.db.UniqueColumns)
    (found : matched executor.strategyName w.db traceId symbol ≠ [])
    (traded : ∀ attempt ∈ attempts, attempt.proposal.symbol = symbol) :
    (afterAll executor broker traceId attempts w).db = w.db ∧
      (afterAll executor broker traceId attempts w).gatewayCalls = w.gatewayCalls := by
  induction attempts generalizing w with
  | nil => exact ⟨rfl, rfl⟩
  | cons attempt rest ih =>
    obtain ⟨existing, hit⟩ := attempt.finds executor broker
      (traded attempt List.mem_cons_self ▸ found)
    obtain ⟨repeated, last, run, same, calls, -⟩ := Attempt.repeated named unique hit
    have rest' := ih (w := last) (same ▸ unique) (same ▸ found)
      fun attempt member => traded attempt (List.mem_cons_of_mem _ member)
    rw [afterAll, List.foldl_cons, run]
    exact ⟨rest'.1.trans same, rest'.2.trans calls⟩

theorem found_matched {existing : Order}
    (found : executor.findExistingOrder w.db traceId symbol = some existing) :
    existing ∈ matched executor.strategyName w.db traceId symbol := by
  have arranged := executor.rowOrder.perm (matched executor.strategyName w.db traceId symbol)
  exact arranged.mem_iff.mp (List.mem_of_head? found)

theorem HandedOver.reused (executor : TradeExecutor)
    (handed : HandedOver completed signal [] w w') {existing : Order}
    (ids : (TradeExecutor.matched executor.strategyName w'.db traceId symbol).map Order.orderId =
      [completed.orderId])
    (found : executor.findExistingOrder w'.db traceId symbol = some existing) :
    existing.orderId = completed.orderId ∧ existing.riskDecisionId = completed.riskDecisionId ∧
      existing.brokerOrderId = completed.brokerOrderId := by
  have member := found_matched found
  have named : existing.orderId = completed.orderId := by
    have listed : existing.orderId ∈ [completed.orderId] := ids ▸ List.mem_map_of_mem member
    exact List.mem_singleton.mp listed
  obtain ⟨row, stored, same, decision, number⟩ := handed.main
  obtain rfl : existing = row := by
    have hit := Table.find?_of_mem (List.mem_of_mem_filter member)
    rw [named, ← same, Table.find?_of_mem stored] at hit
    exact (Option.some.inj hit).symm
  exact ⟨named, decision, number⟩

def reversed : RowOrder where
  arrange := List.reverse
  perm := List.reverse_perm

-- With the rows the other way round the lookup takes the last child.
theorem reversed_child (last : children ≠ []) {existing : Order}
    (ids : (matched executor.strategyName w.db traceId symbol).map Order.orderId =
      completed.orderId :: children)
    (found : ({ executor with rowOrder := reversed } : TradeExecutor).findExistingOrder w.db traceId
      symbol = some existing) : existing.orderId ≠ completed.orderId := by
  have distinct : ((matched executor.strategyName w.db traceId symbol).map Order.orderId).Nodup :=
    w.db.orders.unique.sublist (List.filter_sublist.map _)
  have taken : ((matched executor.strategyName w.db traceId symbol).map Order.orderId).getLast? =
      some existing.orderId := by
    rw [List.getLast?_map, ← List.head?_reverse]
    exact congrArg (Option.map Order.orderId) found
  rw [ids] at distinct taken
  rw [List.getLast?_cons, List.getLast?_eq_some_getLast last, Option.getD_some,
    Option.some.injEq] at taken
  intro same
  exact (List.nodup_cons.mp distinct).1 (same ▸ taken ▸ List.getLast_mem last)

theorem submittedOnce_iff (named : traceId ≠ "")
    (begun : NewTrace executor traceId first.proposal.symbol start)
    (unique : start.db.UniqueColumns) (failed : Failed executor broker traceId start tried w)
    (run : first.run executor broker traceId w = .ok completed w') :
    SubmittedOnce executor broker traceId first.proposal.symbol completed start w w' ↔
      (∀ attempt before, (attempt, before) ∈ tried →
        ¬ attempt.Sends executor broker traceId before) ∧ childTriggers first.proposal = [] := by
  obtain ⟨same, serial, -, unsent⟩ := failed.unsent named begun unique
  have begun' := begun.later same serial
  obtain ⟨unique', signal, children, count, handed, traced, strategy, traded, undrawn⟩ :=
    first.handedOver named begun' run
  have ids := handed.matched begun'.unmatched undrawn traced strategy traded
  have stored : matched executor.strategyName w'.db traceId first.proposal.symbol ≠ [] := by
    intro none
    rw [none] at ids
    cases ids
  constructor
  · intro once
    refine ⟨unsent.mp once.earlier.2, ?_⟩
    by_contra asked
    have last : children ≠ [] := by
      rintro rfl
      exact asked (List.length_eq_zero_iff.mp count.symm)
    let again : Attempt := { first with rowOrder := reversed }
    obtain ⟨existing, hit⟩ := again.finds executor broker stored
    obtain ⟨repeated, _, rerun, -, -, reused, -⟩ := Attempt.repeated named unique' hit
    obtain ⟨repeated', _, rerun', -, -, main, -⟩ := once.later [] again (by simp) rfl
    cases rerun.symm.trans rerun'
    exact reversed_child last ids hit (reused.symm.trans main)
  · rintro ⟨none, alone⟩
    rw [alone, List.length_nil, List.length_eq_zero_iff] at count
    subst count
    refine ⟨⟨same, unsent.mpr none⟩, fun attempts next symbols symbol => ?_⟩
    obtain ⟨kept, calls⟩ := afterAll_unchanged named unique' stored symbols
    obtain ⟨existing, hit⟩ := next.finds executor broker (kept.symm ▸ symbol ▸ stored)
    obtain ⟨repeated, last, rerun, unchanged, uncalled, orderId, decision, number⟩ :=
      Attempt.repeated named (kept.symm ▸ unique') hit
    rw [kept, symbol] at hit
    obtain ⟨main, main', main''⟩ := handed.reused (next.configured executor broker) ids hit
    exact ⟨repeated, last, rerun, unchanged.trans kept, uncalled.trans calls, orderId.trans main,
      decision.trans main', number.trans main''⟩

end Calls

-- A call that asks for ten shares, and the lookup turned round.
def tenShares (takeProfitPrice stopLossPrice : Option Decimal) (rowOrder : RowOrder := {}) :
    Attempt where
  proposal := buyTen takeProfitPrice stopLossPrice
  decision := reviewed
  accountId := "acct"
  rowOrder := rowOrder

def withChild : World :=
  leaves ((tenShares (some (wholeShares 110)) none).run simulated (.localSim {}) "t1"
    (cashOnly 5000))

theorem resubmitted_child : ∃ completed,
    (tenShares (some (wholeShares 110)) none).run simulated (.localSim {}) "t1" (cashOnly 5000) =
        .ok completed withChild ∧
      ¬ SubmittedOnce simulated (.localSim {}) "t1" "AAPL.US" completed (cashOnly 5000)
        (cashOnly 5000) withChild := by
  obtain ⟨completed, run⟩ := ok_of_returned (show returned ((tenShares (some (wholeShares 110))
    none).run simulated (.localSim {}) "t1" (cashOnly 5000)) by decide +kernel)
  have first : (answer ((tenShares (some (wholeShares 110)) none).run simulated (.localSim {})
      "t1" (cashOnly 5000))).map LLMTradingRunResult.orderId = some "ord_2" := by decide +kernel
  have second : (answer ((tenShares (some (wholeShares 110)) none reversed).run simulated
      (.localSim {}) "t1" withChild)).map LLMTradingRunResult.orderId ≠ some "ord_2" := by
    decide +kernel
  refine ⟨completed, run, fun once => second ?_⟩
  obtain ⟨repeated, last, rerun, -, -, same, -⟩ :=
    once.later [] (tenShares (some (wholeShares 110)) none reversed) (by simp) rfl
  rw [run] at first
  rw [show afterAll simulated (.localSim {}) "t1" [] withChild = withChild from rfl] at rerun
  rw [rerun]
  exact (congrArg some same).trans first

theorem submittedOnce_plain : ∃ completed w',
    (tenShares none none).run simulated (.localSim {}) "t1" (cashOnly 5000) =
        .ok completed w' ∧
      SubmittedOnce simulated (.localSim {}) "t1" "AAPL.US" completed (cashOnly 5000)
        (cashOnly 5000) w' := by
  obtain ⟨completed, run⟩ := ok_of_returned (show returned ((tenShares none none).run simulated
    (.localSim {}) "t1" (cashOnly 5000)) by decide +kernel)
  have begun : NewTrace simulated "t1" "AAPL.US" (cashOnly 5000) :=
    { cashOnly_fresh 5000 with
      unmatched := rfl
      signals := by simp [cashOnly, Table.empty] }
  refine ⟨completed, _, run, (submittedOnce_iff (by decide) begun (by decide) (.none _) run).mpr ?_⟩
  exact ⟨by simp, rfl⟩

end SynapseYield.TradeExecutor
