import SynapseYield.Harness.LocalExecution
import SynapseYield.Properties.Pnl

set_option autoImplicit false

namespace SynapseYield.LocalSim

open Shared OrderService TradeExecutor

variable {config : LocalSimConfig} {order : Order} {quote : MarketQuote} {price : ℚ}
  {db db' : Database} {accountId symbol : String}

theorem Step.mono {meets meets' : Database → Order → ℚ → Prop}
    (step : Step config meets db db')
    (weaker : ∀ db order price, meets db order price → meets' db order price) :
    Step config meets' db db' := by
  cases step with
  | quiet same => exact .quiet same
  | created order fresh => exact .created order fresh
  | restatused order target changed => exact .restatused order target changed
  | rested order quote accepted unmatched => exact .rested order quote accepted unmatched
  | crossed order submitted quote price accepted matched met settled same =>
    exact .crossed order submitted quote price accepted matched (weaker _ _ _ met) settled same
  | settled order quote price resting matched met settled =>
    exact .settled order quote price resting matched (weaker _ _ _ met) settled
  | cancelled order cancelled => exact .cancelled order cancelled

-- A bracket order of the account has sold the symbol.
def BracketFilled (db : Database) (accountId symbol : String) : Prop :=
  ∃ order ∈ db.orders.rows, isBracketOrder order.toOrderIntent ∧ order.accountId = accountId ∧
    order.symbol = symbol ∧ order.status = .filled

-- Bracket sales find the shares they sell, and so do the sales after one of them.
def saleCovered (db : Database) (order : Order) (price : ℚ) : Prop :=
  isBracketOrder order.toOrderIntent ∨ BracketFilled db order.accountId order.symbol →
    saleHeld db order price

theorem filled_kept {orderId : String} {update : RowUpdate String Order Order.orderId}
    (stored : db.orders.find? orderId = some order) (open' : order.status ≠ .filled)
    (orders : db'.orders = db.orders.modify orderId update) {row : Order}
    (member : row ∈ db.orders.rows) (filled : row.status = .filled) : row ∈ db'.orders.rows := by
  rw [orders, Table.mem_modify]
  refine .inr ⟨member, ?_⟩
  rintro rfl
  cases stored.symm.trans (Table.find?_of_mem member)
  exact open' filled

theorem Settled.unfilled (settled : Settled config order price db db') : order.status ≠ .filled := by
  intro filled
  have allowed := settled.fillable
  rw [filled] at allowed
  simp [allowedOrderTransitions] at allowed

theorem Step.filled_kept {meets : Database → Order → ℚ → Prop} (step : Step config meets db db')
    {row : Order} (member : row ∈ db.orders.rows) (filled : row.status = .filled) :
    row ∈ db'.orders.rows := by
  cases step with
  | quiet same => rwa [same.orders]
  | created order fresh =>
    rw [((Table.insert?_eq_some _ _ _).mp fresh.inserted).2]
    exact List.mem_append_left _ member
  | restatused order target changed =>
    obtain ⟨_, orders⟩ := changed.orders
    have before := changed.before
    simp only [untraded, decide_eq_true_eq] at before
    exact LocalSim.filled_kept changed.stored before.2 orders member filled
  | rested order quote accepted =>
    obtain ⟨_, orders⟩ := accepted.orders
    exact LocalSim.filled_kept accepted.stored (by simp [accepted.approved]) orders member filled
  | crossed order submitted quote price accepted matched met settled same =>
    obtain ⟨_, orders⟩ := accepted.orders
    have first := LocalSim.filled_kept accepted.stored (by simp [accepted.approved]) orders member
      filled
    exact LocalSim.filled_kept settled.stored settled.unfilled settled.orders first filled
  | settled order quote price resting matched met settled =>
    exact LocalSim.filled_kept settled.stored settled.unfilled settled.orders member filled
  | cancelled order cancelled =>
    exact LocalSim.filled_kept cancelled.stored (by simp [cancelled.submitted]) cancelled.orders
      member filled

theorem BracketFilled.kept (sold : BracketFilled db accountId symbol)
    (kept : ∀ row ∈ db.orders.rows, row.status = .filled → row ∈ db'.orders.rows) :
    BracketFilled db' accountId symbol := by
  obtain ⟨row, member, bracket, own, same, filled⟩ := sold
  exact ⟨row, kept row member filled, bracket, own, same, filled⟩

structure NetPositions (db : Database) : Prop where
  net : NetHeld db
  shares : ∀ accountId symbol, ¬ BracketFilled db accountId symbol → SharesAt db accountId symbol

theorem NetPositions.unfilled (inv : NetPositions db)
    (step : Step config (fun _ _ _ => False) db db') : NetPositions db' where
  net := inv.net.step (step.mono fun _ _ _ none => none.elim)
  shares accountId symbol unsold :=
    (inv.shares accountId symbol fun sold =>
      unsold (sold.kept fun _ member filled => step.filled_kept member filled)).step
        (fun _ _ _ none => none.elim) step

-- Without a bracket sale before it, a resting sale finds the shares it has reserved.
theorem NetPositions.saleHeld (inv : NetPositions db) (settled : Settled config order price db db')
    (submitted : order.status = .submitted) (met : saleCovered db order price) :
    LocalSim.saleHeld db order price := by
  intro selling
  by_cases sold : isBracketOrder order.toOrderIntent ∨
      BracketFilled db order.accountId order.symbol
  · exact met sold selling
  · obtain ⟨plain, unsold⟩ := not_or.mp sold
    have shares := inv.shares order.accountId order.symbol unsold
    have resting := settled.resting submitted (reservedShares order.accountId order.symbol)
    have remaining : 0 ≤ restingSum db' (reservedShares order.accountId order.symbol) :=
      restingSum_nonneg (reservedShares_nonneg _ _)
    have reserved : reservedShares order.accountId order.symbol order.toOrderIntent =
        order.quantity.value := by
      have sale := (plainSell_or_bracket selling).resolve_right plain
      simp [reservedShares, sale]
    linarith [shares.accounted, shares.nonneg]

theorem NetPositions.settled (inv : NetPositions db) (settled : Settled config order price db db')
    (submitted : order.status = .submitted) (met : saleCovered db order price) :
    NetPositions db' where
  net := inv.net.settled settled (inv.saleHeld settled submitted met)
  shares accountId symbol unsold := by
    have before : ¬ BracketFilled db accountId symbol := fun sold =>
      unsold (sold.kept fun _ member filled =>
        LocalSim.filled_kept settled.stored settled.unfilled settled.orders member filled)
    refine (inv.shares accountId symbol before).settled settled submitted fun own same bracket => ?_
    have found := Table.find?_modify_self db.orders order.orderId
      { apply := fun row : Order => { row with
          status := .filled
          filledQuantity := row.quantity.value
          avgFillPrice := some price } }
    rw [settled.stored, ← settled.orders] at found
    exact absurd ⟨_, Table.find?_mem found, bracket, own, same, rfl⟩ unsold

theorem saleCovered_accepted (accepted : Accepted config order quote db db')
    {submitted : Order} (same : submitted.toOrderIntent = order.toOrderIntent)
    (met : saleCovered db order price) : saleCovered db' submitted price := by
  intro sold
  refine saleHeld_accepted accepted same (met ?_)
  rw [same] at sold
  refine sold.imp_right fun ⟨row, member, bracket, own, symbol, filled⟩ => ?_
  obtain ⟨_, orders⟩ := accepted.orders
  obtain rfl | ⟨stored, -⟩ := mem_modified accepted.stored orders member
  · cases filled
  · exact ⟨row, stored, bracket, own, symbol, filled⟩

theorem NetPositions.accepted (inv : NetPositions db)
    (accepted : Accepted config order quote db db') : NetPositions db' where
  net := inv.net.accepted accepted
  shares accountId symbol unsold := by
    obtain ⟨_, orders⟩ := accepted.orders
    refine (inv.shares accountId symbol fun sold => unsold (sold.kept fun _ member filled => ?_)).accepted
      accepted
    exact LocalSim.filled_kept accepted.stored (by simp [accepted.approved]) orders member filled

theorem NetPositions.crossed (inv : NetPositions db) {mid : Database} {submitted : Order}
    (accepted : Accepted config order quote db mid)
    (settled : Settled config submitted price mid db') (same : submitted.orderId = order.orderId)
    (met : saleCovered db order price) : NetPositions db' := by
  obtain ⟨_, rfl⟩ := accepted.submitted (same ▸ settled.stored)
  exact (inv.accepted accepted).settled settled rfl (saleCovered_accepted accepted rfl met)

theorem NetPositions.step (inv : NetPositions db) (step : Step config saleCovered db db') :
    NetPositions db' := by
  cases step with
  | quiet same =>
    have quiet : Step config (fun _ _ _ => False) db db' := .quiet same
    exact inv.unfilled quiet
  | created order fresh =>
    have created : Step config (fun _ _ _ => False) db db' := .created order fresh
    exact inv.unfilled created
  | restatused order target changed =>
    have restatused : Step config (fun _ _ _ => False) db db' := .restatused order target changed
    exact inv.unfilled restatused
  | rested order quote accepted => exact inv.accepted accepted
  | crossed order submitted quote price accepted matched met settled same =>
    exact inv.crossed accepted settled same met
  | settled order quote price resting matched met settled =>
    exact inv.settled settled resting met
  | cancelled order cancelled => exact inv.unfilled (.cancelled order cancelled)

section Executed

variable {executor : TradeExecutor} {proposal : LLMTradeProposal} {signalId traceId : String}
  {marketIsOpen : Option Bool} {w w' : World}

theorem NetPositions.appended (inv : NetPositions w.db) (appended : Appended order w w')
    (approved : order.status = .riskApproved) (unfilled : order.filledQuantity = 0) :
    NetPositions w'.db where
  net := by
    refine inv.net.kept appended.fills (fun _ _ => ?_) fun fill member => ?_
    · rw [held, held, appended.positions]
    · have known := inv.net.traced fill member
      unfold ownerOf at known ⊢
      obtain ⟨row, found⟩ : ∃ row, w.db.orders.find? fill.orderId = some row := by
        cases found : w.db.orders.find? fill.orderId with
        | none => simp [found] at known
        | some row => exact ⟨row, rfl⟩
      have kept : w'.db.orders.find? fill.orderId = some row := by
        rw [Table.find?_eq_some, appended.rows]
        exact ⟨List.mem_append_left _ (Table.find?_mem found), Table.find?_key found⟩
      rw [found, kept]
  shares accountId symbol unsold := by
    have before := inv.shares accountId symbol fun sold => unsold (sold.kept fun row member _ => by
      rw [appended.rows]
      exact List.mem_append_left _ member)
    refine before.untouched appended.positions (fun value => ?_) fun row member own same _ => ?_
    · rw [restingSum, Table.sum, appended.rows]
      simp [approved, restingSum, Table.sum]
    · rw [appended.rows] at member
      obtain stored | new := List.mem_append.mp member
      · exact before.unfilled row stored own same ‹_›
      · rw [List.mem_singleton.mp new]
        exact unfilled

theorem NetPositions.submitted {taken : Bool} (inv : NetPositions db)
    (submitted : Submitted config order quote taken db db')
    (met : ∀ price, fillPrice order quote = some price → saleCovered db order price) :
    NetPositions db' := by
  cases submitted with
  | failed changed =>
    have restatused : Step config (fun _ _ _ => False) db db' := .restatused order .failed changed
    exact inv.unfilled restatused
  | rested accepted unmatched => exact inv.accepted accepted
  | filled price accepted matched submitted same sameId settled =>
    exact inv.crossed accepted settled sameId (met price matched)

theorem held_submitted {taken : Bool}
    (submitted : Submitted config order quote taken db db')
    (matched : fillPrice order quote = some price) :
    held db' order.accountId order.symbol =
      if taken then
        if order.side = .buy then held db order.accountId order.symbol + order.quantity.value
        else max 0 (held db order.accountId order.symbol - order.quantity.value)
      else held db order.accountId order.symbol := by
  cases submitted with
  | failed changed => rw [held, held, changed.positions]; rfl
  | rested accepted unmatched =>
    rw [unmatched] at matched
    cases matched
  | filled price accepted matched submitted same sameId settled =>
    rw [settled.held_change, same, (accepted.shares_locked _ _).1]
    simp

-- What has to hold before execute for none of its sales to exceed the shares held. Only calls
-- that go through count, and the children of a BUY only where both are submitted.
structure ExecuteCovered (config : LocalSimConfig) (executor : TradeExecutor)
    (proposal : LLMTradeProposal) (accountId traceId : String) (marketIsOpen : Option Bool)
    (w : World) : Prop where
  sale : executor.findExistingOrder w.db traceId proposal.symbol = none → ∀ quote,
    Placeable executor proposal accountId marketIsOpen w .sell quote →
    (proposal.orderType = .limitIfTouched ∨ proposal.orderType = .stopLimit ∨
      BracketFilled w.db accountId proposal.symbol) →
    proposal.quantity.value ≤ held w.db accountId proposal.symbol
  children : executor.findExistingOrder w.db traceId proposal.symbol = none → ∀ quote,
    Placeable executor proposal accountId marketIsOpen w .buy quote →
    (∃ account, w.db.accounts.find? accountId = some account ∧
      proposal.quantity.value * quote.lastPrice +
        commission config (proposal.quantity.value * quote.lastPrice) ≤ account.cashAvailable) →
    ∀ takeProfit stopLoss, childTrigger proposal proposal.takeProfitPrice = [takeProfit] →
      childTrigger proposal proposal.stopLossPrice = [stopLoss] → 0 < takeProfit.value →
      0 < stopLoss.value → takeProfit.str ≠ stopLoss.str →
    proposal.quantity.value ≤ held w.db accountId proposal.symbol

theorem NetPositions.child {orderType : OrderType} {price : Option Decimal} {child : Option String}
    (inv : NetPositions w.db) (bracket : orderType = .limitIfTouched ∨ orderType = .stopLimit)
    (run : ChildRun executor config proposal accountId signalId orderType price child w w')
    (covered : childTrigger proposal price ≠ [] →
      proposal.quantity.value ≤ held w.db accountId proposal.symbol) :
    NetPositions w'.db ∧
      held w.db accountId proposal.symbol - (if childTrigger proposal price = [] then 0
        else proposal.quantity.value) ≤ held w'.db accountId proposal.symbol := by
  cases run with
  | unasked given => exact ⟨inv, by simp [given]⟩
  | submitted trigger order positive taken asked approved appended sent =>
    have matched := child_matched approved.made bracket positive
    have account : order.accountId = accountId := congrArg IntentFields.accountId approved.made
    have symbol : order.symbol = proposal.symbol := congrArg IntentFields.symbol approved.made
    have side : order.side = .sell := congrArg IntentFields.side approved.made
    have quantity : order.quantity = proposal.quantity :=
      congrArg IntentFields.quantity approved.made
    have asking : childTrigger proposal price ≠ [] := by simp [asked]
    have change := held_submitted sent matched
    have selling : ¬ order.side = .buy := by simp [side]
    rw [account, symbol, quantity, if_neg selling] at change
    have same : held _ accountId proposal.symbol = held w.db accountId proposal.symbol :=
      congrArg (fun positions => (positionOf positions accountId proposal.symbol).quantity)
        appended.positions
    refine ⟨(inv.appended appended approved.status approved.unfilled).submitted sent
      fun price _ _ _ => ?_, ?_⟩
    · rw [account, symbol, quantity, same]
      exact covered asking
    · rw [change, same, if_neg asking]
      have positive := order.quantity_pos
      rw [quantity] at positive
      cases taken with
      | true => exact le_max_right _ _
      | false => simpa using positive.le

theorem NetPositions.placed {side : OrderSide} {sent mid between last : World}
    {takeProfitId stopLossId : Option String} (inv : NetPositions w.db)
    (covered : ExecuteCovered config executor proposal accountId traceId marketIsOpen w)
    (unmatched : executor.findExistingOrder w.db traceId proposal.symbol = none)
    (placeable : Placeable executor proposal accountId marketIsOpen w side quote)
    (approved : Approved (executor.intentFields proposal accountId side signalId) (w.serial + 1)
      order)
    (appended : Appended order w mid) (accepted : Submitted config order quote true mid.db sent.db)
    (profit : ChildRun executor config proposal accountId signalId .limitIfTouched
      proposal.takeProfitPrice takeProfitId sent between)
    (loss : ChildRun executor config proposal accountId signalId .stopLimit
      proposal.stopLossPrice stopLossId between last)
    (unique : last.db.UniqueColumns) : NetPositions last.db := by
  have account : order.accountId = accountId := congrArg IntentFields.accountId approved.made
  have symbol : order.symbol = proposal.symbol := congrArg IntentFields.symbol approved.made
  have sides : order.side = side := congrArg IntentFields.side approved.made
  have quantity : order.quantity = proposal.quantity := congrArg IntentFields.quantity approved.made
  have type : order.orderType = proposal.orderType := congrArg IntentFields.orderType approved.made
  have limits : order.limitPrice = proposal.limitPrice :=
    congrArg IntentFields.limitPrice approved.made
  have same : held mid.db accountId proposal.symbol = held w.db accountId proposal.symbol :=
    congrArg (fun positions => (positionOf positions accountId proposal.symbol).quantity)
      appended.positions
  have placed := inv.appended appended approved.status approved.unfilled
  cases side with
  | sell =>
    have selling : proposal.action ≠ .buy := by
      intro buying
      have sided := placeable.sided
      rw [buying] at sided
      cases sided
    have submitted := placed.submitted accepted fun price _ sold _ => by
      rw [account, symbol, quantity, same]
      rw [account, symbol] at sold
      refine covered.sale unmatched quote placeable ?_
      obtain bracket | ⟨row, member, bracket, own, named, filled⟩ := sold
      · simp only [isBracketOrder, decide_eq_true_eq, type] at bracket
        exact bracket.2.imp_right .inl
      · rw [appended.rows] at member
        obtain stored | new := List.mem_append.mp member
        · exact .inr (.inr ⟨row, stored, bracket, own, named, filled⟩)
        · rw [List.mem_singleton.mp new, approved.status] at filled
          cases filled
    obtain ⟨first, -⟩ := submitted.child (.inl rfl) profit fun asked => by
      simp [childTrigger, selling] at asked
    exact (first.child (.inr rfl) loss fun asked => by simp [childTrigger, selling] at asked).1
  | buy =>
    obtain ⟨limit, positive, limited, rfl⟩ := placeable.priced
    have matched := mainOrder_matched sides (limits.trans limited) positive proposal.symbol
    have submitted := placed.submitted accepted fun _ _ _ selling => absurd sides selling
    have bought := held_submitted accepted matched
    rw [account, symbol, quantity, if_pos rfl, if_pos sides, same] at bought
    have nonneg := inv.net.nonneg accountId proposal.symbol
    obtain ⟨first, left⟩ := submitted.child (.inl rfl) profit fun _ => by linarith
    refine (first.child (.inr rfl) loss fun lossAsked => ?_).1
    by_cases profitAsked : childTrigger proposal proposal.takeProfitPrice = []
    · rw [if_pos profitAsked] at left
      linarith
    · rw [if_neg profitAsked] at left
      obtain ⟨takeProfit, given⟩ := childTrigger_single profitAsked
      obtain ⟨stopLoss, given'⟩ := childTrigger_single lossAsked
      obtain ⟨owner, found, enough⟩ := accepted.funded sides
      rw [account, appended.accounts] at found
      simp only [reserveAmount, limits.trans limited, Option.map_some, Option.getD_some,
        quantity] at enough
      have short := covered.children unmatched _ placeable ⟨owner, found, enough⟩ takeProfit
        stopLoss given given' (profit.positive _ (by simp [given]))
        (loss.positive _ (by simp [given'])) (childTexts_differ profit loss unique given given')
      linarith

def AllowedExecuting (config : LocalSimConfig) : Operation → World → Prop
  | .execute (.localSim used) executor proposal _ accountId traceId _ marketIsOpen, w =>
    used = config ∧ FreshIds w ∧
      ExecuteCovered config { executor with broker := LocalSim.adapter config } proposal accountId
        (resolvedId traceId "trace" w.serial) marketIsOpen w
  | operation, w => Allowed config saleCovered operation w

theorem NetPositions.execute {decision : HumanApprovalDecision} {givenTraceId threadId : Option String}
    (routed : executor.broker = LocalSim.adapter config) (inv : NetPositions w.db)
    (fresh : FreshIds w)
    (covered : ExecuteCovered config executor proposal accountId
      (resolvedId givenTraceId "trace" w.serial) marketIsOpen w) :
    NetPositions (leaves (executor.execute proposal decision accountId givenTraceId threadId
      marketIsOpen w)).db := by
  cases run : executor.execute proposal decision accountId givenTraceId threadId marketIsOpen w with
  | error raised w' =>
    obtain ⟨_, serial, -, executed⟩ := execute_run executor proposal decision accountId givenTraceId
      threadId marketIsOpen w
    rw [executed] at run
    obtain ⟨mid, -, rfl⟩ := transaction_error run
    exact inv
  | ok completed w' =>
    obtain ⟨threadId, serial, last, later, executed, unique, rfl⟩ := execute_ok run
    let start : World := { w with serial, unflushed := [] }
    have fresh' : FreshIds start := fresh.later rfl later
    obtain ⟨existing, -, rfl, -⟩ | ⟨unmatched, placed, mid, placing, submitting⟩ :=
      doExecute_ok executed
    · exact inv
    · obtain ⟨side, order, sent, between, final, auditLogs, placeable, approved, appended, accepted,
        profit, loss, rfl, -⟩ := submitPlaced_run routed fresh' placing submitting
      have covered' : ExecuteCovered config executor proposal accountId
          (resolvedId givenTraceId "trace" w.serial) marketIsOpen start :=
        { sale := fun none quote given => covered.sale none quote
            ⟨given.sided, given.priced, given.approved⟩
          children := fun none quote given => covered.children none quote
            ⟨given.sided, given.priced, given.approved⟩ }
      have before : NetPositions start.db := inv
      have net := before.placed covered' unmatched placeable approved appended accepted profit loss
        unique
      exact { net := { net.net with }, shares := fun a s unsold => { net.shares a s unsold with } }

theorem netPositions_start (unopened : ∀ accountId, Unopened db accountId) : NetPositions db where
  net :=
    { net := fun accountId symbol => by
        rw [held, (unopened accountId).position, netFills, (unopened accountId).fillsIn]
        rfl
      nonneg := fun accountId symbol => by
        rw [held, (unopened accountId).position]
        exact le_rfl
      traced := (unopened "").traced }
  shares accountId symbol _ := sharesConsistent_iff.mp (unopened accountId).shares symbol

theorem NetPositions.perform {operation : Operation} (inv : NetPositions w.db)
    (allowed : AllowedExecuting config operation w) : NetPositions (perform operation w).db := by
  have stepped : Allowed config saleCovered operation w →
      NetPositions (SynapseYield.perform operation w).db := fun allowed =>
    (perform_steps allowed).keeps (fun _ _ step before => before.step step) inv
  cases operation with
  | execute broker executor proposal decision accountId traceId threadId marketIsOpen =>
    cases broker with
    | localSim used =>
      obtain ⟨rfl, fresh, covered⟩ := allowed
      exact NetPositions.execute rfl inv fresh covered
    | longbridge => exact stepped allowed
  | _ => exact stepped allowed

theorem netPositions_correct (run : Run (AllowedExecuting config) w w')
    (unopened : ∀ accountId, Unopened w.db accountId) (accountId symbol : String) :
    held w'.db accountId symbol = netFills w'.db accountId symbol ∧
      0 ≤ held w'.db accountId symbol := by
  have step : ∀ operation w, AllowedExecuting config operation w → NetPositions w.db →
      NetPositions (SynapseYield.perform operation w).db :=
    fun _ _ allowed before => before.perform allowed
  have inv : NetPositions w'.db := run.keeps step (netPositions_start unopened)
  exact ⟨inv.net.net accountId symbol, inv.net.nonneg accountId symbol⟩

end Executed

def executed (takeProfitPrice stopLossPrice : Option Decimal) : World :=
  perform (.execute (.localSim {}) { broker := LocalSim.adapter {} }
    (buyTen takeProfitPrice stopLossPrice) reviewed "acct" none none none) (cashOnly 5000)

theorem netPositions_correct_stopped :
    held (executed none (some (wholeShares 90))).db "acct" "AAPL.US" =
        netFills (executed none (some (wholeShares 90))).db "acct" "AAPL.US" ∧
      0 ≤ held (executed none (some (wholeShares 90))).db "acct" "AAPL.US" := by
  have covered : ExecuteCovered {} { broker := LocalSim.adapter {} }
      (buyTen none (some (wholeShares 90))) "acct"
      (resolvedId none "trace" (cashOnly 5000).serial) none (cashOnly 5000) :=
    { sale := fun _ _ placeable => nomatch placeable.sided
      children := fun _ _ _ _ _ _ profit => nomatch profit }
  have run : Run (AllowedExecuting {}) (cashOnly 5000) (executed none (some (wholeShares 90))) :=
    .followed .refl _ ⟨rfl, cashOnly_fresh 5000, covered⟩
  exact netPositions_correct run (cashOnly_unopened 5000) "acct" "AAPL.US"

theorem bothSold_negative :
    (∀ accountId, Unopened (cashOnly 5000).db accountId) ∧
      Run (fun _ _ => True) (cashOnly 5000)
        (executed (some (wholeShares 110)) (some (wholeShares 90))) ∧
      held (executed (some (wholeShares 110)) (some (wholeShares 90))).db "acct" "AAPL.US" = 0 ∧
      netFills (executed (some (wholeShares 110)) (some (wholeShares 90))).db "acct" "AAPL.US" =
        -10 :=
  ⟨cashOnly_unopened 5000, .followed .refl _ trivial, by decide +kernel, by decide +kernel⟩

end SynapseYield.LocalSim
