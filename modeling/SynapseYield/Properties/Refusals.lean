import SynapseYield.Harness.LocalCompletion
import SynapseYield.Properties.LiveOrders
import SynapseYield.Risk.Rules

set_option autoImplicit false

namespace SynapseYield.TradeExecutor

open Shared OrderService

variable {executor : TradeExecutor} {broker : Broker} {proposal : LLMTradeProposal}
  {decision : HumanApprovalDecision} {accountId traceId threadId : String}
  {marketIsOpen : Option Bool} {placed : PlacedOrder} {result : BrokerOrderResult}
  {w mid sent : World}

-- The risk check or the broker refused the main order.
def Refused (raised : PyException) : Prop :=
  (∃ reasonCode : String, raised = .runtimeError s!"风控拒绝：{reasonCode}") ∨
    ∃ message : String, raised = .runtimeError s!"券商拒绝下单：{message}"

theorem Refused.refusal {raised : PyException} (refused : Refused raised) :
    raised.refusal = true := by
  obtain ⟨_, rfl⟩ | ⟨_, rfl⟩ := refused <;> rfl

theorem not_refused {raised : PyException} (other : raised.refusal = false) : ¬ Refused raised := by
  intro refused
  rw [refused.refusal] at other
  cases other

def CommitsOrRefused {α : Type} : EStateM.Result PyException World α → Prop
  | .ok _ _ => True
  | .error raised _ => Refused raised

section Raises

theorem unrefused_writes (message : String) :
    Writes (fun x => NeverRaises (.runtimeError message) x) := by
  refine writes_of_parts .pure .get (fun other => .throw ?_) .bind ?_ ?_ ?_ fun _ => .modified _
  · rintro rfl
    cases other
  · intro idPrefix s s' failed
    cases failed
  · refine .bind .get fun w => ?_
    split
    next =>
      intro s s' failed
      cases failed
    next => exact .throw nofun
  · intro order
    refine .bind .get fun w => ?_
    cases w.db.orders.insert? order with
    | some orders =>
      intro s s' failed
      cases failed
    | none => exact .throw nofun

theorem adapter_unrefused (broker : Broker) (message traceId orderId : String)
    (quote : MarketQuote) :
    NeverRaises (.runtimeError message) (broker.adapter.submitOrder traceId orderId quote) := by
  cases broker with
  | localSim config => exact (unrefused_writes message).localSim_submitOrder config traceId orderId quote
  | longbridge broker =>
    refine (unrefused_writes message).longbridge_submitOrder (fun _ _ => ?_) broker traceId orderId
    intro s s' failed
    cases failed

end Raises

section Placing

def signalled (executor : TradeExecutor) (proposal : LLMTradeProposal) (traceId : String)
    (side : OrderSide) (w : World) : World :=
  { w with
    db := { w.db with strategySignals := w.db.strategySignals ++
      [executor.buildSignal (idText "sig" w.serial) traceId proposal side] }
    serial := w.serial + 1 }

theorem addSignal_run (executor : TradeExecutor) (proposal : LLMTradeProposal) (traceId : String)
    (side : OrderSide) (w : World) :
    addStrategySignal (executor.buildSignal (idText "sig" w.serial) traceId proposal side)
      { w with serial := w.serial + 1 } = .ok () (executor.signalled proposal traceId side w) := rfl

theorem signalled_flush {side : OrderSide} (unique : w.db.UniqueColumns) :
    flush (executor.signalled proposal traceId side w) =
      .ok () (executor.signalled proposal traceId side w).opened := flush_ok.mpr ⟨unique, rfl⟩

theorem signalled_creates {side : OrderSide} {intent : OrderIntent} (fresh : FreshIds w)
    (unique : w.db.UniqueColumns)
    (valid : OrderIntent.validate (executor.intentFields proposal accountId side
      (idText "sig" w.serial)) = .ok intent) :
    ∃ order created, createOrderFromIntent traceId intent
        (executor.signalled proposal traceId side w).opened = .ok order.orderId created ∧
      created.db.orders.find? order.orderId = some order ∧ order.status = .created ∧
      created.db.UniqueColumns := by
  have made := OrderIntent.validate_ok valid
  have unseen : Unseen w.db intent.toIntentFields :=
    made ▸ fresh.signalId (executor.intentFields proposal accountId side _) _ le_rfl rfl
  obtain ⟨orderId, created, creating⟩ : ∃ orderId created, createOrderFromIntent traceId intent
      (executor.signalled proposal traceId side w).opened = .ok orderId created :=
    createOrder_returns traceId unseen
      (fun row member => fresh.orderId row member _ (Nat.le_succ _)) fun _ => unique
  obtain ⟨grown, rfl, -, -⟩ := createOrder_grown creating unseen
  exact ⟨_, created, creating, grown.stored, rfl, grown.unique unique unseen
    (fun row member => fresh.clientOrderId row member _ (Nat.le_add_right _ 2)) rfl⟩

theorem placeOrder_answers {side : OrderSide} {limit : Decimal} (fresh : FreshIds w)
    (unique : w.db.UniqueColumns) (sided : orderSide proposal.action = .ok side)
    (limited : proposal.limitPrice = some limit) (positive : 0 < limit.value)
    (trading : proposal.action ≠ .hold) :
    (∃ placed w', executor.placeOrder proposal accountId traceId marketIsOpen w = .ok placed w') ∨
      ∃ raised w', executor.placeOrder proposal accountId traceId marketIsOpen w =
        .error raised w' ∧ Refused raised := by
  obtain ⟨intent, valid⟩ : ∃ intent, OrderIntent.validate
      (executor.intentFields proposal accountId side (idText "sig" w.serial)) = .ok intent := by
    refine OrderIntent.validate_returns (proposal.trade_quantity trading) ?_
      (by simp [intentFields]) fun _ => by simp [intentFields, limited]
    intro price given
    simp only [intentFields, limited, Option.mem_some_iff] at given
    exact given ▸ positive
  obtain ⟨order, created, creating, found, status, columns⟩ := signalled_creates fresh unique valid
  let quote : MarketQuote := .atPrice proposal.symbol limit.value positive
  have quoting : liftExcept (MarketQuote.validate proposal.symbol (mainPrice proposal)
      (some (mainPrice proposal)) (some (mainPrice proposal))) created = .ok quote created := by
    rw [show mainPrice proposal = limit.value by simp [mainPrice, limited]]
    exact liftExcept_ok.mpr ⟨MarketQuote.validate_atPrice.mpr ⟨positive, rfl⟩, rfl⟩
  obtain ⟨decision, checkedWorld, checking⟩ := runRiskCheck_returns executor.riskConfig traceId
    (some quote) marketIsOpen found status columns
  obtain ⟨checked, stored, -⟩ := runRiskCheck_verdict checking found
  rw [placeOrder, bind_of_ok (newId_ok.mpr ⟨rfl, rfl⟩),
    bind_of_ok (liftExcept_ok.mpr ⟨sided, rfl⟩),
    bind_of_ok (addSignal_run executor proposal traceId side w), bind_of_ok (signalled_flush unique),
    bind_of_ok (liftExcept_ok.mpr ⟨valid, rfl⟩), bind_of_ok creating, bind_of_ok quoting,
    bind_of_ok checking, bind_of_ok (getOrder_ok.mpr ⟨stored, rfl⟩)]
  split
  next => exact .inr ⟨_, _, rfl, .inl ⟨_, rfl⟩⟩
  next => exact .inl ⟨_, _, rfl⟩

theorem placeOrder_unpriced {side : OrderSide} (fresh : FreshIds w) (unique : w.db.UniqueColumns)
    (sided : orderSide proposal.action = .ok side)
    (unpriced : ¬ ∃ limit, proposal.limitPrice = some limit ∧ 0 < limit.value) :
    ∃ raised w', executor.placeOrder proposal accountId traceId marketIsOpen w =
      .error raised w' ∧ raised.refusal = false := by
  rw [placeOrder, bind_of_ok (newId_ok.mpr ⟨rfl, rfl⟩),
    bind_of_ok (liftExcept_ok.mpr ⟨sided, rfl⟩),
    bind_of_ok (addSignal_run executor proposal traceId side w), bind_of_ok (signalled_flush unique)]
  cases valid : OrderIntent.validate
      (executor.intentFields proposal accountId side (idText "sig" w.serial)) with
  | error raised => exact ⟨raised, _, rfl, OrderIntent.validate_error valid⟩
  | ok intent =>
    have unlimited : proposal.limitPrice = none := by
      by_contra given
      obtain ⟨limit, limited⟩ := Option.ne_none_iff_exists'.mp given
      refine unpriced ⟨limit, limited, intent.limit_pos limit ?_⟩
      rw [OrderIntent.validate_ok valid]
      exact limited
    obtain ⟨order, created, creating, -, -, -⟩ := signalled_creates fresh unique valid
    have price : mainPrice proposal = 0 := by rw [mainPrice, unlimited]
    rw [bind_of_ok (liftExcept_ok.mpr ⟨rfl, rfl⟩), bind_of_ok creating]
    cases quoted : MarketQuote.validate proposal.symbol (mainPrice proposal)
        (some (mainPrice proposal)) (some (mainPrice proposal)) with
    | error raised =>
      exact ⟨raised, created, bind_of_error rfl, MarketQuote.validate_error quoted⟩
    | ok quote =>
      obtain ⟨positive, -⟩ := MarketQuote.validate_atPrice.mp quoted
      rw [price] at positive
      exact absurd positive (lt_irrefl 0)

end Placing

section Submitting

theorem submitted_outcome (routed : executor.broker = broker.adapter)
    (run : executor.doExecute proposal decision accountId traceId threadId marketIsOpen w.opened =
      executor.submitChildren proposal decision accountId traceId threadId placed result sent) :
    CommitsOrRefused (transaction (executor.doExecute proposal decision accountId traceId threadId
      marketIsOpen) w) ↔
      ∃ completed last, executor.submitChildren proposal decision accountId traceId threadId placed
        result sent = .ok completed last ∧ last.db.UniqueColumns := by
  cases children : executor.submitChildren proposal decision accountId traceId threadId placed
      result sent with
  | ok completed last =>
    rw [transaction_of_ok (run.trans children)]
    split
    next columns => exact iff_of_true trivial ⟨completed, last, rfl, columns⟩
    next duplicate =>
      refine iff_of_false (not_refused rfl) ?_
      rintro ⟨_, _, same, columns⟩
      cases same
      exact duplicate columns
  | error raised last =>
    rw [transaction_of_error (run.trans children)]
    refine iff_of_false (fun refused => ?_) ?_
    · have quiet : ∀ message, raised ≠ .runtimeError message := by
        rintro message rfl
        refine (unrefused_writes message).submitChildren (fun traceId orderId quote => ?_) proposal
          decision accountId traceId threadId placed result sent last children
        rw [routed]
        exact adapter_unrefused broker message traceId orderId quote
      obtain ⟨_, same⟩ | ⟨_, same⟩ := refused
      · exact quiet _ same
      · exact quiet _ same
    · rintro ⟨_, _, same, -⟩
      cases same

-- What a main order that the broker takes needs of its children, seen before the call.
def Completes (broker : Broker) (proposal : LLMTradeProposal) (accountId : String) (w : World) :
    Prop :=
  match broker with
  | .localSim config => Funded config proposal accountId w → ChildrenFit proposal
  | .longbridge gateway => Longbridge.submissionSafetyError gateway = none →
      ∀ brokerOrderId,
        gateway.gateway.submitOutcome w.gatewayCalls.length = .accepted brokerOrderId →
          BracketFits gateway proposal w

theorem ChildrenFit.of_childless (childless : childTriggers proposal = []) :
    ChildrenFit proposal where
  positive := by simp [childless]
  distinct := by simp [childless]

theorem childTriggers_idle (idle : proposal.action ≠ .buy) : childTriggers proposal = [] :=
  List.eq_nil_iff_forall_not_mem.mpr fun _ given => idle (childTriggers_buy given)

section Placed

variable (fresh : FreshIds w) (unique : w.db.UniqueColumns) (opened : w.opened = w)
  (unmatched : executor.findExistingOrder w.db traceId proposal.symbol = none)
  (placing : executor.placeOrder proposal accountId traceId marketIsOpen w = .ok placed mid)

include unmatched placing opened in
theorem placed_refused (decision : HumanApprovalDecision) (threadId : String)
    (submitted : executor.broker.submitOrder traceId placed.orderId placed.quote mid =
      .ok result sent) (refused : result.accepted = false) :
    CommitsOrRefused (transaction (executor.doExecute proposal decision accountId traceId threadId
      marketIsOpen) w) := by
  have run : executor.doExecute proposal decision accountId traceId threadId marketIsOpen w.opened =
      .error (.runtimeError s!"券商拒绝下单：{result.message}") sent := by
    rw [opened, doExecute, bind_of_ok (get_ok.mpr ⟨rfl, rfl⟩), unmatched]
    exact (bind_of_ok placing).trans (submitPlaced_refused refused submitted)
  rw [transaction_of_error run]
  exact .inr ⟨_, rfl⟩

include unmatched placing opened in
theorem placed_accepted (routed : executor.broker = broker.adapter)
    (decision : HumanApprovalDecision) (threadId : String)
    (submitted : executor.broker.submitOrder traceId placed.orderId placed.quote mid =
      .ok result sent) (accepted : result.accepted = true) :
    CommitsOrRefused (transaction (executor.doExecute proposal decision accountId traceId threadId
      marketIsOpen) w) ↔
      ∃ completed last, executor.submitChildren proposal decision accountId traceId threadId placed
        result sent = .ok completed last ∧ last.db.UniqueColumns := by
  refine submitted_outcome routed ?_
  rw [opened, doExecute, bind_of_ok (get_ok.mpr ⟨rfl, rfl⟩), unmatched]
  exact (bind_of_ok placing).trans (submitPlaced_accepted accepted submitted)

include fresh unique opened unmatched placing

theorem localSim_outcome {config : LocalSimConfig}
    (routed : executor.broker = (Broker.localSim config).adapter)
    (unnumbered : ∀ row ∈ w.db.orders.rows, ∀ n, w.serial ≤ n →
      row.brokerOrderId ≠ some (idText "ls_order" n))
    (decision : HumanApprovalDecision) (threadId : String) :
    CommitsOrRefused (transaction (executor.doExecute proposal decision accountId traceId threadId
      marketIsOpen) w) ↔ Completes (.localSim config) proposal accountId w := by
  obtain ⟨side, order, placeable, -, drawn, orderId, approved, appended, serial⟩ :=
    placeOrder_ok fresh placing
  have unseen : ∀ fields : IntentFields, fields.sourceSignalId = some placed.signalId →
      Unseen w.db fields := fun fields named =>
    fresh.signalId fields _ le_rfl (drawn ▸ named)
  obtain ⟨account, held, -⟩ := (RiskEngine.check_approved placeable.approved).1.account
  have sound : Sound accountId w :=
    { fresh.toUnusedIds with
      unnumbered := unnumbered
      unique := unique
      account := ⟨account, held⟩ }
  have ready : Sound accountId mid :=
    sound.appended approved appended (unseen _ rfl) (Nat.le_succ _) (by omega)
  obtain ⟨account', held'⟩ := ready.account
  obtain ⟨result, sent, submitted⟩ := LocalSim.submitOrder_returns config traceId placed.quote
    appended.stored (by rw [approved.made]; exact held') ready.unique ready.unnumbered
  have taken : proposal.action = .buy →
      (result.accepted = true ↔ Funded config proposal accountId w) :=
    mainOrder_taken submitted placeable approved rfl appended
  have routedTo : executor.broker.submitOrder traceId placed.orderId placed.quote mid =
      .ok result sent := by
    rw [routed, orderId]
    exact submitted
  cases accepted : result.accepted with
  | false =>
    refine iff_of_true (placed_refused opened unmatched placing decision threadId routedTo accepted) ?_
    intro funded
    by_cases buying : proposal.action = .buy
    · rw [(taken buying).mpr funded] at accepted
      cases accepted
    · exact .of_childless (childTriggers_idle buying)
  | true =>
    have done := submitOrder_submitted submitted appended.stored approved.status
    have handled : Handled order result mid sent :=
      @submitOrder_handled (.localSim config) _ _ _ _ _ _ submitted appended.stored approved.status
    have keys : ∀ trigger ∈ childTriggers proposal, ∀ row ∈ sent.db.orders.rows,
        row.idempotencyKey ≠ executor.childKey proposal accountId placed.signalId trigger := by
      intro trigger given row present same
      have listed := List.mem_map_of_mem (f := Order.idempotencyKey) present
      rw [done.keys, appended.rows, List.map_append, same] at listed
      obtain earlier | main := List.mem_append.mp listed
      · obtain ⟨old, stored, key⟩ := List.mem_map.mp earlier
        exact unseen _ rfl old stored key
      · rw [List.map_singleton, List.mem_singleton, approved.idempotencyKey] at main
        exact mainKey_other placeable.sided given main.symm
    have unawaited : ∀ fields : IntentFields, fields.sourceSignalId = some placed.signalId →
        Unawaited sent.db fields := fun fields named =>
      ((appended.advanced approved.status).trans handled.advanced).unawaited
        fun row member same => absurd same (unseen fields named row member)
    obtain ⟨row, stored, -⟩ := handled.numbered accepted
    rw [placed_accepted opened unmatched placing routed decision threadId routedTo accepted,
      submitChildren_commits routed (ready.submitted submitted appended.stored approved.status)
        decision traceId threadId result ⟨row, orderId ▸ stored⟩ keys unawaited]
    refine ⟨fun fits _ => fits, fun completes => ?_⟩
    by_cases buying : proposal.action = .buy
    · exact completes ((taken buying).mp accepted)
    · exact .of_childless (childTriggers_idle buying)

theorem longbridge_outcome {gateway : LongbridgeBroker}
    (routed : executor.broker = (Broker.longbridge gateway).adapter)
    (decision : HumanApprovalDecision) (threadId : String) :
    CommitsOrRefused (transaction (executor.doExecute proposal decision accountId traceId threadId
      marketIsOpen) w) ↔ Completes (.longbridge gateway) proposal accountId w := by
  obtain ⟨side, order, placeable, -, drawn, orderId, approved, appended, serial⟩ :=
    placeOrder_ok fresh placing
  cases safe : Longbridge.submissionSafetyError gateway with
  | some safetyError =>
    obtain ⟨result, sent, blocked, refused, -⟩ :=
      Longbridge.submitOrder_blocked traceId appended.stored approved.status safe
    have submitted : executor.broker.submitOrder traceId placed.orderId placed.quote mid =
        .ok result sent := by
      rw [routed, orderId]
      exact blocked
    refine iff_of_true (placed_refused opened unmatched placing decision threadId submitted refused) ?_
    intro unblocked
    rw [safe] at unblocked
    cases unblocked
  | none =>
    obtain ⟨result, sent, submitted⟩ :=
      submitOrder_answers routed safe traceId placed.quote appended approved.status
    obtain ⟨filed, accepted⟩ := submitOrder_filed routed safe submitted approved appended
      (Nat.le_succ _) (by omega)
    rw [← orderId] at submitted
    cases taken : result.accepted with
    | false =>
      refine iff_of_true (placed_refused opened unmatched placing decision threadId submitted taken) ?_
      intro _ brokerOrderId outcome
      rw [accepted.mpr ⟨brokerOrderId, outcome⟩] at taken
      cases taken
    | true =>
      obtain ⟨brokerOrderId, outcome⟩ := accepted.mp taken
      rw [placed_accepted opened unmatched placing routed decision threadId submitted taken,
        accepted_commits routed safe fresh unique filed drawn orderId approved.idempotencyKey
          placeable.sided]
      exact ⟨fun fits _ _ _ => fits, fun completes => completes safe brokerOrderId outcome⟩

end Placed

end Submitting

-- The proposal has a positive limit price, and if its main order is approved and taken, the
-- children can follow.
structure Executable (executor : TradeExecutor) (broker : Broker) (proposal : LLMTradeProposal)
    (accountId : String) (marketIsOpen : Option Bool) (w : World) : Prop where
  priced : ∃ limit, proposal.limitPrice = some limit ∧ 0 < limit.value
  completes : (∃ side quote, Placeable executor proposal accountId marketIsOpen w side quote) →
    Completes broker proposal accountId w

theorem start_outcome (routed : executor.broker = broker.adapter)
    (trading : proposal.action ≠ .hold) (decision : HumanApprovalDecision)
    (accountId traceId threadId : String) (marketIsOpen : Option Bool) (fresh : FreshIds w) (unique : w.db.UniqueColumns)
    (opened : w.opened = w)
    (unnumbered : ∀ row ∈ w.db.orders.rows, ∀ n, w.serial ≤ n →
      row.brokerOrderId ≠ some (idText "ls_order" n)) :
    CommitsOrRefused (transaction (executor.doExecute proposal decision accountId traceId threadId
      marketIsOpen) w) ↔
      executor.findExistingOrder w.db traceId proposal.symbol ≠ none ∨
        Executable executor broker proposal accountId marketIsOpen w := by
  have fetched : executor.doExecute proposal decision accountId traceId threadId marketIsOpen
      w.opened = _ := bind_of_ok (get_ok.mpr ⟨rfl, rfl⟩)
  rw [opened] at fetched
  obtain ⟨side, sided⟩ : ∃ side, orderSide proposal.action = .ok side := by
    cases action : proposal.action with
    | buy => exact ⟨.buy, rfl⟩
    | sell => exact ⟨.sell, rfl⟩
    | hold => exact absurd action trading
  cases unmatched : executor.findExistingOrder w.db traceId proposal.symbol with
  | some existing =>
    rw [unmatched, ← opened] at fetched
    rw [transaction_of_ok fetched, if_pos (by rw [opened]; exact unique)]
    exact iff_of_true trivial (.inl nofun)
  | none =>
    have narrowed : (none : Option Order) ≠ none ∨
        Executable executor broker proposal accountId marketIsOpen w ↔
          Executable executor broker proposal accountId marketIsOpen w := by simp
    rw [narrowed]
    have placedFirst : ∀ raised mid, executor.placeOrder proposal accountId traceId marketIsOpen w =
        .error raised mid → transaction (executor.doExecute proposal decision accountId traceId
          threadId marketIsOpen) w = .error raised { mid with db := w.db, unflushed := [] } := by
      intro raised mid placing
      refine transaction_of_error ?_
      rw [opened, fetched, unmatched]
      exact bind_of_error placing
    by_cases priced : ∃ limit, proposal.limitPrice = some limit ∧ 0 < limit.value
    · obtain ⟨limit, limited, positive⟩ := priced
      obtain ⟨placed, mid, placing⟩ | ⟨raised, mid, placing, refused⟩ :=
        @placeOrder_answers executor proposal accountId traceId marketIsOpen w side limit fresh
          unique sided limited positive trading
      · obtain ⟨side, _, placeable, -⟩ := placeOrder_ok fresh placing
        have outcome : CommitsOrRefused (transaction (executor.doExecute proposal decision accountId
            traceId threadId marketIsOpen) w) ↔ Completes broker proposal accountId w := by
          cases broker with
          | localSim config =>
            exact localSim_outcome fresh unique opened unmatched placing routed unnumbered decision
              threadId
          | longbridge gateway =>
            exact longbridge_outcome fresh unique opened unmatched placing routed decision threadId
        rw [outcome]
        exact ⟨fun completes => ⟨⟨limit, limited, positive⟩, fun _ => completes⟩,
          fun executable => executable.completes ⟨side, _, placeable⟩⟩
      · rw [placedFirst raised mid placing]
        refine iff_of_true refused ⟨⟨limit, limited, positive⟩, ?_⟩
        rintro ⟨side, quote, placeable⟩
        obtain ⟨placed, w', returned⟩ : ∃ placed w',
            executor.placeOrder proposal accountId traceId marketIsOpen w = .ok placed w' :=
          placeOrder_returns fresh unique placeable
        rw [placing] at returned
        cases returned
    · obtain ⟨raised, mid, placing, other⟩ := placeOrder_unpriced fresh unique sided priced
      rw [placedFirst raised mid placing]
      exact iff_of_false (not_refused other) fun executable => priced executable.priced

theorem executable_later (serial : Nat) :
    Executable executor broker proposal accountId marketIsOpen { w with serial, unflushed := [] } ↔
      Executable executor broker proposal accountId marketIsOpen w := by
  have placed : (∃ side quote, Placeable executor proposal accountId marketIsOpen
      { w with serial, unflushed := [] } side quote) ↔
        ∃ side quote, Placeable executor proposal accountId marketIsOpen w side quote := by
    constructor <;>
    · rintro ⟨side, quote, placeable⟩
      exact ⟨side, quote, placeable.sided, placeable.priced, placeable.approved⟩
  have completed : Completes broker proposal accountId { w with serial, unflushed := [] } ↔
      Completes broker proposal accountId w := by
    cases broker with
    | localSim config => exact Iff.rfl
    | longbridge gateway =>
      constructor <;>
      · intro completes safe brokerOrderId outcome
        have fits := completes safe brokerOrderId outcome
        exact ⟨fits.positive, fits.distinct, fits.numbered⟩
  constructor <;>
  · rintro ⟨priced, completes⟩
    exact ⟨priced, by simpa only [placed, completed] using completes⟩

theorem commitsOrRefused_iff (routed : executor.broker = broker.adapter)
    (trading : proposal.action ≠ .hold) (decision : HumanApprovalDecision)
    (accountId : String) (traceId threadId : Option String) (marketIsOpen : Option Bool)
    (fresh : FreshIds w) (unique : w.db.UniqueColumns)
    (unnumbered : ∀ row ∈ w.db.orders.rows, ∀ n, w.serial ≤ n →
      row.brokerOrderId ≠ some (idText "ls_order" n)) :
    CommitsOrRefused (executor.execute proposal decision accountId traceId threadId marketIsOpen w) ↔
      executor.findExistingOrder w.db (resolvedId traceId "trace" w.serial) proposal.symbol ≠ none ∨
        Executable executor broker proposal accountId marketIsOpen w := by
  obtain ⟨resolvedThreadId, serial, later, run⟩ :=
    execute_run executor proposal decision accountId traceId threadId marketIsOpen w
  let start : World := { w with serial, unflushed := [] }
  have fresh' : FreshIds start := fresh.later rfl later
  have started := start_outcome routed trading decision accountId
    (resolvedId traceId "trace" w.serial) resolvedThreadId marketIsOpen fresh' unique rfl fun row member n high => unnumbered row member n (later.trans high)
  rw [run]
  exact started.trans (or_congr Iff.rfl (executable_later serial))

def settled {α : Type} : EStateM.Result PyException World α → Bool
  | .ok _ _ => true
  | .error raised _ => raised.refusal

theorem CommitsOrRefused.settled {α : Type} {result : EStateM.Result PyException World α}
    (holds : CommitsOrRefused result) : settled result = true := by
  cases result with
  | ok a w => rfl
  | error raised w => exact Refused.refusal holds

def atMarket : LLMTradeProposal :=
  { buyTen none none with
    orderType := .market
    limitPrice := none
    hold_idle := by simp [buyTen]
    trade_limit := nofun }

example : ¬ CommitsOrRefused (simulated.execute atMarket reviewed "acct" none none
    none (cashOnly 5000)) := by
  intro holds
  have unsettled : settled (simulated.execute atMarket reviewed "acct" none none none
      (cashOnly 5000)) = false := by decide +kernel
  rw [holds.settled] at unsettled
  cases unsettled

-- Two children at one price have one idempotency key.
example : settled (simulated.execute (buyTen (some (wholeShares 110)) (some (wholeShares 110)))
    reviewed "acct" none none none (cashOnly 5000)) = false := by
  decide +kernel

theorem commitsOrRefused_bracket : CommitsOrRefused (simulated.execute
    (buyTen (some (wholeShares 110)) (some (wholeShares 90))) reviewed "acct" none none none
    (cashOnly 5000)) := by
  have routed : simulated.broker = (Broker.localSim {}).adapter := rfl
  have fits : ChildrenFit (buyTen (some (wholeShares 110)) (some (wholeShares 90))) :=
    { positive := by decide +kernel
      distinct := by decide +kernel }
  have unnumbered : ∀ row ∈ (cashOnly 5000).db.orders.rows, ∀ n, (cashOnly 5000).serial ≤ n →
      row.brokerOrderId ≠ some (idText "ls_order" n) := by
    simp [cashOnly, Table.empty]
  refine (commitsOrRefused_iff routed (by decide) reviewed "acct" none none none (cashOnly_fresh 5000)
    (by decide) unnumbered).mpr (.inr ⟨⟨wholeShares 100, rfl, ?_⟩, fun _ _ => fits⟩)
  decide +kernel

end SynapseYield.TradeExecutor
