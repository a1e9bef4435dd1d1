import SynapseYield.Harness.LocalExecution

set_option autoImplicit false

namespace SynapseYield.TradeExecutor

open Shared OrderService LocalSim

variable {executor : TradeExecutor} {config : LocalSimConfig} {proposal : LLMTradeProposal}
  {decision : HumanApprovalDecision} {accountId : String} {traceId threadId : Option String}
  {marketIsOpen : Option Bool} {w w' : World} {completed : LLMTradingRunResult}

def Touches (quote : MarketQuote) (order : Order) : Prop :=
  ∃ trigger, order.triggerPrice = some trigger ∧
    match order.orderType with
    | .limitIfTouched => trigger.value ≤ quote.bid
    | .stopLimit => quote.bid ≤ trigger.value
    | _ => False

structure Resting (db : Database) (orderId : String) : Prop where
  waiting : ∃ order, db.orders.find? orderId = some order ∧ order.status = .submitted ∧
    ∀ quote, fillPrice order quote ≠ none → Touches quote order
  unfilled : ∀ fill ∈ db.fills, fill.orderId ≠ orderId

theorem Resting.submitted {db : Database} {orderId : String} {stored : Order}
    (resting : Resting db orderId) (found : db.orders.find? orderId = some stored) :
    stored.status = .submitted := by
  obtain ⟨order, found', submitted, -⟩ := resting.waiting
  cases found.symm.trans found'
  exact submitted

-- The children the call names rest, and the call has sold nothing.
structure BracketResting (completed : LLMTradingRunResult) (w w' : World) : Prop where
  takeProfit : ∀ orderId, completed.takeProfitOrderId = some orderId → Resting w'.db orderId
  stopLoss : ∀ orderId, completed.stopLossOrderId = some orderId → Resting w'.db orderId
  unsold : ∀ fill ∈ w'.db.fills.drop w.db.fills.length, fill.side ≠ .sell

theorem bracketResting_iff (routed : executor.broker = LocalSim.adapter config)
    (buying : proposal.action = .buy) (fresh : FreshIds w)
    (run : executor.execute proposal decision accountId traceId threadId marketIsOpen w =
      .ok completed w') :
    BracketResting completed w w' ↔
      (executor.findExistingOrder w.db (resolvedId traceId "trace" w.serial) proposal.symbol ≠ none ∨
        childTriggers proposal = []) := by
  obtain ⟨threadId, serial, last, later, executed, -, rfl⟩ := execute_ok run
  let start : World := { w with serial, unflushed := [] }
  have fresh' : FreshIds start := fresh.later rfl later
  obtain ⟨existing, found, rfl, -, -, -, noProfit, noLoss⟩ |
    ⟨unmatched, placed, mid, placing, submitting⟩ := doExecute_ok executed
  · refine iff_of_true ⟨?_, ?_, ?_⟩ (.inl ?_)
    · simp [noProfit]
    · simp [noLoss]
    · simp
    · rw [found]
      exact Option.some_ne_none existing
  · obtain ⟨side, order, sent, between, final, auditLogs, placeable, approved, appended, accepted,
      profit, loss, rfl, -⟩ := submitPlaced_run routed fresh' placing submitting
    obtain ⟨noLoss, given, rfl⟩ | ⟨orderId, stored, named, given, found, moved⟩ :=
      loss.unrested (.inr rfl)
    · obtain ⟨noProfit, given', rfl⟩ | ⟨orderId, stored, named, given', found, moved⟩ :=
        profit.unrested (.inl rfl)
      · refine iff_of_true ⟨?_, ?_, ?_⟩ (.inr ?_)
        · simp [noProfit]
        · simp [noLoss]
        · obtain ⟨added, fills, side⟩ := accepted.fills
          have bought : order.side = .buy := by
            have sided := placeable.sided
            rw [buying] at sided
            exact (congrArg IntentFields.side approved.made).trans (Except.ok.inj sided).symm
          rw [fills, appended.fills, List.drop_left]
          intro fill member
          rw [side fill member, bought]
          nofun
        · rw [childTriggers, given, given', List.append_nil]
      · refine iff_of_false (fun resting => ?_) ?_
        · exact moved ((resting.takeProfit orderId named).submitted found)
        · simp [childTriggers, given', unmatched]
    · refine iff_of_false (fun resting => ?_) ?_
      · exact moved ((resting.stopLoss orderId named).submitted found)
      · simp [childTriggers, given, unmatched]

theorem bracketResting_plain : ∃ completed w',
    simulated.execute (buyTen none none) reviewed "acct" none none none (cashOnly 5000) =
      .ok completed w' ∧ BracketResting completed (cashOnly 5000) w' := by
  obtain ⟨completed, run⟩ := ok_of_returned (show returned (simulated.execute (buyTen none none)
    reviewed "acct" none none none (cashOnly 5000)) by decide +kernel)
  exact ⟨completed, _, run, (bracketResting_iff rfl rfl (cashOnly_fresh 5000) run).mpr (.inr rfl)⟩

def bracketSold : World :=
  leaves (simulated.execute (buyTen (some (wholeShares 110)) (some (wholeShares 90))) reviewed "acct"
    none none none (cashOnly 5000))

theorem bracketSold_unrested : ∃ completed,
    simulated.execute (buyTen (some (wholeShares 110)) (some (wholeShares 90))) reviewed "acct" none
        none none (cashOnly 5000) = .ok completed bracketSold ∧
      ¬ BracketResting completed (cashOnly 5000) bracketSold ∧
      bracketSold.db.fills.map Fill.side = [.buy, .sell, .sell] := by
  obtain ⟨completed, run⟩ := ok_of_returned (show returned (simulated.execute
    (buyTen (some (wholeShares 110)) (some (wholeShares 90))) reviewed "acct" none none none
    (cashOnly 5000)) by decide +kernel)
  have sold : ¬ ∀ fill ∈ bracketSold.db.fills, fill.side ≠ .sell := by decide +kernel
  exact ⟨completed, run, fun resting => sold resting.unsold, by decide +kernel⟩

end SynapseYield.TradeExecutor
