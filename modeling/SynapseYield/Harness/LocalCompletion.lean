import SynapseYield.Broker.LocalReturns
import SynapseYield.Harness.Handover

set_option autoImplicit false

namespace SynapseYield.TradeExecutor

open Shared OrderService LocalSim

variable {executor : TradeExecutor} {config : LocalSimConfig} {proposal : LLMTradeProposal}
  {accountId traceId signalId : String} {orderType : OrderType} {price : Option Decimal}
  {order : Order} {quote : MarketQuote} {result : BrokerOrderResult} {w mid w' : World}

-- What the simulator needs to answer every order of an account.
structure Sound (accountId : String) (w : World) : Prop extends UnusedIds w where
  unnumbered : ∀ row ∈ w.db.orders.rows, ∀ n, w.serial ≤ n →
    row.brokerOrderId ≠ some (idText "ls_order" n)
  unique : w.db.UniqueColumns
  account : ∃ account, w.db.accounts.find? accountId = some account

theorem Sound.appended {fields : IntentFields} {serial : Nat} (sound : Sound accountId w)
    (approved : Approved fields serial order) (appended : Appended order w mid)
    (unseen : Unseen w.db fields) (first : w.serial ≤ serial) (last : serial + 2 ≤ mid.serial) :
    Sound accountId mid where
  orderId := by
    intro row member n later
    rw [appended.rows] at member
    obtain stored | new := List.mem_append.mp member
    · exact sound.orderId row stored n (by omega)
    · rw [List.mem_singleton.mp new, approved.orderId]
      intro same
      have := idText_injective "ord" same
      omega
  clientOrderId := by
    intro row member n later
    rw [appended.rows] at member
    obtain stored | new := List.mem_append.mp member
    · exact sound.clientOrderId row stored n (by omega)
    · rw [List.mem_singleton.mp new, approved.clientOrderId]
      intro same
      have := idText_injective "client" same
      omega
  unnumbered := by
    intro row member n later
    rw [appended.rows] at member
    obtain stored | new := List.mem_append.mp member
    · exact sound.unnumbered row stored n (by omega)
    · rw [List.mem_singleton.mp new, approved.brokerOrderId]
      nofun
  unique := by
    refine appended.unique sound.unique (fun row member => ?_) (fun row member => ?_)
      approved.brokerOrderId
    · rw [approved.idempotencyKey]
      exact unseen row member
    · rw [approved.clientOrderId]
      exact sound.clientOrderId row member _ (by omega)
  account := by
    rw [appended.accounts]
    exact sound.account

theorem Submitted.account {taken : Bool} {db db' : Database}
    (submitted : Submitted config order quote taken db db')
    (held : ∃ account, db.accounts.find? accountId = some account) :
    ∃ account, db'.accounts.find? accountId = some account := by
  obtain ⟨account, found⟩ := held
  cases submitted with
  | failed changed => exact ⟨account, changed.accounts ▸ found⟩
  | rested accepted _ => exact ⟨_, (accepted.accountRow accountId).trans (congrArg _ found)⟩
  | filled price accepted _ submitted same sameId settled =>
    exact ⟨_, (settled.accountRow accountId).trans
      (congrArg _ ((accepted.accountRow accountId).trans (congrArg _ found)))⟩

theorem Sound.submitted (sound : Sound accountId w)
    (run : LocalSim.submitOrder config traceId order.orderId quote w = .ok result w')
    (stored : w.db.orders.find? order.orderId = some order)
    (approved : order.status = .riskApproved) : Sound accountId w' := by
  obtain ⟨number, update, orders, rewrites, given⟩ :=
    LocalSim.submitOrder_modified run stored approved
  have serial : w.serial ≤ w'.serial :=
    (Preserves.of_keeps ((Lifecycle.grown_lifecycle w).writes.localSim_submitOrder _ _ _ _) _ _ _
      run ⟨le_rfl, List.prefix_refl _⟩).serial
  have rows : ∀ row ∈ w'.db.orders.rows, ∃ old ∈ w.db.orders.rows,
      row = old ∨ row = update.apply old := by
    intro row member
    rw [orders, Table.mem_modify] at member
    obtain ⟨old, found, rfl⟩ | ⟨member, -⟩ := member
    · exact ⟨old, Table.find?_mem found, .inr rfl⟩
    · exact ⟨row, member, .inl rfl⟩
  refine { orderId := ?_, clientOrderId := ?_, unnumbered := ?_, unique := ?_, account := ?_ }
  · intro row member n later
    obtain ⟨old, present, rfl | rfl⟩ := rows row member
    · exact sound.orderId _ present n (serial.trans later)
    · rw [update.keeps]
      exact sound.orderId old present n (serial.trans later)
  · intro row member n later
    obtain ⟨old, present, rfl | rfl⟩ := rows row member
    · exact sound.clientOrderId _ present n (serial.trans later)
    · rw [rewrites.clientOrderId]
      exact sound.clientOrderId old present n (serial.trans later)
  · intro row member n later
    obtain ⟨old, present, rfl | rfl⟩ := rows row member
    · exact sound.unnumbered _ present n (serial.trans later)
    · rw [rewrites.brokerOrderId]
      obtain ⟨rfl, -⟩ | ⟨-, -, k, -, high, rfl⟩ := given
      · exact sound.unnumbered old present n (serial.trans later)
      · intro same
        have := idText_injective "ls_order" (Option.some.inj same)
        omega
  · refine Database.uniqueColumns_modify number sound.unique orders rewrites.idempotencyKey
      rewrites.clientOrderId rewrites.brokerOrderId ?_
    obtain ⟨rfl, -⟩ | ⟨-, -, k, low, -, rfl⟩ := given
    · simp
    · rintro _ ⟨⟩ row member
      exact sound.unnumbered row member k low
  · exact (submitOrder_submitted run stored approved).account sound.account

theorem submitChild_sound (routed : executor.broker = LocalSim.adapter config)
    (sound : Sound accountId w) (traceId : String) (orderType : OrderType)
    (positive : ∀ trigger ∈ childTrigger proposal price, 0 < trigger.value)
    (unseen : ∀ trigger ∈ childTrigger proposal price, ∀ row ∈ w.db.orders.rows,
      row.idempotencyKey ≠ executor.childKey proposal accountId signalId trigger)
    (unawaited : ∀ fields : IntentFields, fields.sourceSignalId = some signalId →
      Unawaited w.db fields) :
    ∃ child w', executor.submitChild traceId accountId proposal orderType price signalId w =
      .ok child w' ∧ Sound accountId w' := by
  have returns : ∃ child w', executor.submitChild traceId accountId proposal orderType price
      signalId w = .ok child w' := by
    unfold submitChild
    cases given : truthy price with
    | none => exact ⟨_, _, rfl⟩
    | some trigger =>
      simp only
      split
      next buy =>
        have asked : trigger ∈ childTrigger proposal price := by simp [childTrigger, buy, given]
        have large : 0 < proposal.quantity.value := proposal.trade_quantity (by simp [buy])
        have fresh : Unseen w.db (executor.bracketFields accountId proposal.symbol
          proposal.quantity orderType trigger signalId) := unseen trigger asked
        obtain ⟨child, w', submitted⟩ := submitBracketOrder_returns w traceId
          (positive trigger asked) large fresh
          (fun row member => sound.orderId row member _ le_rfl) (fun _ => sound.unique)
          fun order mid appended approved serial => by
            have ready := sound.appended approved appended fresh le_rfl serial.ge
            obtain ⟨account, held⟩ := ready.account
            rw [routed]
            exact LocalSim.submitOrder_returns config traceId _ appended.stored
              (by rw [approved.made]; exact held) ready.unique ready.unnumbered
        exact returns_bind submitted ⟨_, _, rfl⟩
      next => exact ⟨_, _, rfl⟩
  obtain ⟨child, w', run⟩ := returns
  refine ⟨child, w', run, ?_⟩
  obtain ⟨-, -, rfl⟩ | ⟨trigger, order, positive', mid, result, asked, -, approved, appended,
    serial, sent⟩ := submitChild_ok run fun trigger _ => unawaited _ rfl
  · exact sound
  · rw [routed] at sent
    have ready := sound.appended approved appended (unseen trigger (by simp [asked])) le_rfl
      serial.ge
    exact ready.submitted sent appended.stored approved.status

section Main

theorem submitOrder_taken
    (run : LocalSim.submitOrder config traceId order.orderId quote w = .ok result w')
    (stored : w.db.orders.find? order.orderId = some order)
    (approved : order.status = .riskApproved) (symbol : quote.symbol = order.symbol)
    (buying : order.side = .buy) {account : Account}
    (held : w.db.accounts.find? order.accountId = some account)
    (funds : reserveAmount config order.toOrderIntent quote.ask ≤ account.cashAvailable) :
    result.accepted = true := by
  obtain ⟨reservedWorld, reserving⟩ : ∃ reservedWorld,
      reserveResources config traceId order.orderId quote w = .ok none reservedWorld :=
    reserveResources_passes config traceId stored held (fun _ => funds) fun plain => by
      simp [plainSell, buying] at plain
  simp only [LocalSim.submitOrder, bind_ok, getOrder_ok] at run
  obtain ⟨_, _, ⟨found, rfl⟩, rest⟩ := run
  obtain rfl := Option.some.inj (stored.symm.trans found)
  rw [if_neg (not_not.mpr approved), if_neg (not_not.mpr symbol), bind_of_ok reserving] at rest
  simp only [bind_ok] at rest
  obtain ⟨_, _, -, _, _, -, _, _, -, _, _, -, _, _, -, rest⟩ := rest
  cases matched : fillPrice order quote with
  | none =>
    simp only [matched, pure_ok] at rest
    rw [← rest.1]
  | some price =>
    simp only [matched, bind_ok, pure_ok] at rest
    obtain ⟨_, _, -, rfl, -⟩ := rest
    rfl

-- The account can pay for a BUY, commission included.
def Funded (config : LocalSimConfig) (proposal : LLMTradeProposal) (accountId : String)
    (w : World) : Prop :=
  ∃ limit account, proposal.limitPrice = some limit ∧
    w.db.accounts.find? accountId = some account ∧
    proposal.quantity.value * limit.value +
      commission config (proposal.quantity.value * limit.value) ≤ account.cashAvailable

theorem mainOrder_taken {fields : IntentFields} {serial : Nat} {side : OrderSide}
    {placedQuote : MarketQuote} {marketIsOpen : Option Bool}
    (run : LocalSim.submitOrder config traceId order.orderId placedQuote mid = .ok result w')
    (placeable : Placeable executor proposal accountId marketIsOpen w side placedQuote)
    (approved : Approved fields serial order)
    (made : fields = executor.intentFields proposal accountId side signalId)
    (appended : Appended order w mid) (buying : proposal.action = .buy) :
    result.accepted = true ↔ Funded config proposal accountId w := by
  subst made
  have bought : order.side = .buy := by
    have sided := placeable.sided
    rw [buying] at sided
    exact (congrArg IntentFields.side approved.made).trans (Except.ok.inj sided).symm
  obtain ⟨limit, positive, limited, rfl⟩ := placeable.priced
  have priced : order.limitPrice = some limit :=
    (congrArg IntentFields.limitPrice approved.made).trans limited
  have quantity : order.quantity = proposal.quantity :=
    congrArg IntentFields.quantity approved.made
  have account : order.accountId = accountId := congrArg IntentFields.accountId approved.made
  have amount : reserveAmount config order.toOrderIntent
      (MarketQuote.atPrice proposal.symbol limit.value positive).ask =
        proposal.quantity.value * limit.value +
          commission config (proposal.quantity.value * limit.value) := by
    simp [reserveAmount, priced, quantity]
  constructor
  · intro taken
    have submitted := submitOrder_submitted run appended.stored approved.status
    rw [taken] at submitted
    obtain ⟨row, found, enough⟩ := submitted.funded bought
    rw [appended.accounts, account] at found
    exact ⟨limit, row, limited, found, amount ▸ enough⟩
  · rintro ⟨_, row, limited', found, enough⟩
    obtain rfl := Option.some.inj (limited.symm.trans limited')
    refine submitOrder_taken run appended.stored approved.status
      (congrArg IntentFields.symbol approved.made).symm bought ?_ (amount ▸ enough)
    rw [appended.accounts, account]
    exact found

end Main

section Children

variable {decision : HumanApprovalDecision} {threadId : String} {placed : PlacedOrder}
  {completed : LLMTradingRunResult}

-- The prices of the children are valid, and the idempotency key tells them apart.
structure ChildrenFit (proposal : LLMTradeProposal) : Prop where
  positive : ∀ trigger ∈ childTriggers proposal, 0 < trigger.value
  distinct : ((childTriggers proposal).map Decimal.str).Nodup

theorem ChildrenFit.of_committed {takeProfitId stopLossId : Option String}
    (first : ChildRun executor config proposal accountId signalId .limitIfTouched
      proposal.takeProfitPrice takeProfitId w mid)
    (second : ChildRun executor config proposal accountId signalId .stopLimit
      proposal.stopLossPrice stopLossId mid w')
    (unique : w'.db.UniqueColumns) : ChildrenFit proposal where
  positive := fun trigger member =>
    (List.mem_append.mp member).elim (first.positive trigger) (second.positive trigger)
  distinct := by
    rw [← childKeys_distinct executor proposal accountId signalId]
    have keys := unique.1
    rw [second.keys, first.keys, List.append_assoc, ← List.map_append] at keys
    exact (List.nodup_append.mp keys).2.1

theorem submitChildren_commits (routed : executor.broker = LocalSim.adapter config)
    (sound : Sound accountId w) (decision : HumanApprovalDecision) (traceId threadId : String)
    (result : BrokerOrderResult)
    (stored : ∃ order, w.db.orders.find? placed.orderId = some order)
    (unseen : ∀ trigger ∈ childTriggers proposal, ∀ row ∈ w.db.orders.rows,
      row.idempotencyKey ≠ executor.childKey proposal accountId placed.signalId trigger)
    (unawaited : ∀ fields : IntentFields, fields.sourceSignalId = some placed.signalId →
      Unawaited w.db fields) :
    (∃ completed last, executor.submitChildren proposal decision accountId traceId threadId placed
      result w = .ok completed last ∧ last.db.UniqueColumns) ↔ ChildrenFit proposal := by
  constructor
  · rintro ⟨completed, last, children, columns⟩
    obtain ⟨_, _, _, _, _, first, second, rfl, -⟩ := submitChildren_ok children
    have firstRun := submitChild_run routed first unawaited
    have secondRun := submitChild_run routed second fun fields named =>
      firstRun.advanced.unawaited (unawaited fields named)
    exact .of_committed firstRun secondRun columns
  · rintro ⟨positive, distinct⟩
    rw [← childKeys_distinct executor proposal accountId placed.signalId] at distinct
    unfold childTriggers at positive unseen distinct
    rw [List.map_append, List.nodup_append] at distinct
    obtain ⟨takeProfit, between, first, sound'⟩ := submitChild_sound routed sound traceId
      .limitIfTouched (fun trigger member => positive trigger (List.mem_append_left _ member))
      (fun trigger member => unseen trigger (List.mem_append_left _ member)) unawaited
    have firstRun := submitChild_run routed first unawaited
    have unawaited' : ∀ fields : IntentFields, fields.sourceSignalId = some placed.signalId →
        Unawaited between.db fields := fun fields named =>
      firstRun.advanced.unawaited (unawaited fields named)
    have others : ∀ trigger ∈ childTrigger proposal proposal.stopLossPrice,
        ∀ row ∈ between.db.orders.rows,
          row.idempotencyKey ≠ executor.childKey proposal accountId placed.signalId trigger := by
      intro trigger member row present same
      have listed := List.mem_map_of_mem (f := Order.idempotencyKey) present
      rw [firstRun.keys, same] at listed
      obtain earlier | profit := List.mem_append.mp listed
      · obtain ⟨old, stored', key⟩ := List.mem_map.mp earlier
        exact unseen trigger (List.mem_append_right _ member) old stored' key
      · exact distinct.2.2 _ profit _ (List.mem_map_of_mem member) rfl
    obtain ⟨stopLoss, last, second, sound''⟩ := submitChild_sound routed sound' traceId .stopLimit
      (fun trigger member => positive trigger (List.mem_append_right _ member)) others unawaited'
    have byAdapter : executor.broker = (Broker.localSim config).adapter := routed
    obtain ⟨_, -, firstGrew⟩ := submitChild_grew byAdapter first unawaited
    obtain ⟨_, -, secondGrew⟩ := submitChild_grew byAdapter second unawaited'
    obtain ⟨order, found⟩ := stored
    have kept : last.db.orders.find? placed.orderId = some order := by
      rw [Table.find?_eq_some]
      exact ⟨secondGrew.kept _ (firstGrew.kept _ (Table.find?_mem found)), Table.find?_key found⟩
    obtain ⟨completed, last', children⟩ : ∃ completed last', executor.submitChildren proposal
        decision accountId traceId threadId placed result w = .ok completed last' :=
      returns_bind first (returns_bind second (returns_then (modify_ok.mpr rfl)
        (returns_bind (getOrder_ok.mpr ⟨kept, rfl⟩) ⟨_, _, rfl⟩)))
    obtain ⟨_, _, _, _, _, first', second', rfl, -⟩ := submitChildren_ok children
    cases first.symm.trans first'
    cases second.symm.trans second'
    exact ⟨completed, _, children, sound''.unique⟩

end Children

end SynapseYield.TradeExecutor
