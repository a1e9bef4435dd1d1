import SynapseYield.Broker.LocalOperations

set_option autoImplicit false

namespace SynapseYield.LocalSim

open Shared OrderService

variable {config : LocalSimConfig} {traceId orderId : String} {quote : MarketQuote}
  {w w' : World} {order : Order} {account : Account} {price : ℚ}

theorem reserveResources_passes (config : LocalSimConfig) (traceId : String)
    (found : w.db.orders.find? orderId = some order)
    (held : w.db.accounts.find? order.accountId = some account)
    (funds : order.side = .buy →
      reserveAmount config order.toOrderIntent quote.ask ≤ account.cashAvailable)
    (shares : plainSell order.toOrderIntent →
      ∃ position, w.db.positions.find? (order.accountId, order.symbol) = some position ∧
        order.quantity.value ≤ position.availableQuantity) :
    ∃ w', reserveResources config traceId orderId quote w = .ok none w' := by
  rw [reserveResources, bind_of_ok (getOrder_ok.mpr ⟨found, rfl⟩),
    bind_of_ok (getAccount_ok.mpr ⟨held, rfl⟩)]
  simp only
  split
  next buying =>
    have computed : liftExcept (reservedCash config order (some quote) none) w =
        .ok (reserveAmount config order.toOrderIntent quote.ask) w := by
      rw [reservedCash_quote]
      rfl
    rw [bind_of_ok computed, if_neg (funds buying).not_gt]
    exact ⟨_, rfl⟩
  next selling =>
    split
    next => exact ⟨_, rfl⟩
    next unbracketed =>
      have plain : plainSell order.toOrderIntent := by
        cases side : order.side <;> simp_all [plainSell]
      obtain ⟨position, stored, enough⟩ := shares plain
      rw [bind_of_ok (findPosition_ok.mpr ⟨stored, rfl⟩)]
      simp only [enough.not_gt, if_false]
      exact ⟨_, rfl⟩

theorem reserveResources_returns (config : LocalSimConfig) (traceId : String) (quote : MarketQuote)
    (found : w.db.orders.find? orderId = some order) :
    ∃ refusal db, reserveResources config traceId orderId quote w = .ok refusal { w with db } := by
  rw [reserveResources, bind_of_ok (getOrder_ok.mpr ⟨found, rfl⟩),
    bind_of_ok (getAccount_ok.mpr ⟨rfl, rfl⟩)]
  cases w.db.accounts.find? order.accountId with
  | none => exact ⟨_, w.db, rfl⟩
  | some account =>
    simp only
    split
    next =>
      have computed : liftExcept (reservedCash config order (some quote) none) w =
          .ok (reserveAmount config order.toOrderIntent quote.ask) w := by
        rw [reservedCash_quote]
        rfl
      rw [bind_of_ok computed]
      split
      next => exact ⟨_, w.db, rfl⟩
      next => exact ⟨_, _, rfl⟩
    next =>
      split
      next => exact ⟨_, _, rfl⟩
      next =>
        rw [bind_of_ok (findPosition_ok.mpr ⟨rfl, rfl⟩)]
        cases w.db.positions.find? (order.accountId, order.symbol) with
        | none => exact ⟨_, w.db, rfl⟩
        | some position =>
          simp only
          split
          next => exact ⟨_, w.db, rfl⟩
          next => exact ⟨_, _, rfl⟩

theorem recordBrokerEvent_run (eventType : String) (brokerFillId : Option String)
    (found : w.db.orders.find? orderId = some order) :
    recordBrokerEvent traceId orderId eventType brokerFillId w =
      .ok () { w with db := { w.db with brokerEvents := w.db.brokerEvents ++
        [{ traceId, brokerName, brokerOrderId := order.brokerOrderId, brokerFillId, eventType
           processedAt := w.now }] } } := by
  rw [recordBrokerEvent, bind_of_ok (getOrder_ok.mpr ⟨found, rfl⟩),
    bind_of_ok (get_ok.mpr ⟨rfl, rfl⟩)]
  rfl

theorem applyFill_returns (config : LocalSimConfig) (traceId : String) (price : ℚ)
    (found : w.db.orders.find? orderId = some order)
    (fillable : .filled ∈ allowedOrderTransitions order.status)
    (held : w.db.accounts.find? order.accountId = some account)
    (unique : w.db.UniqueColumns) :
    ∃ u w', applyFill config traceId orderId price w = .ok u w' := by
  obtain rfl : order.orderId = orderId := Table.find?_key found
  rw [applyFill, bind_of_ok (getOrder_ok.mpr ⟨found, rfl⟩),
    bind_of_ok (getAccount_ok.mpr ⟨held, rfl⟩)]
  simp only
  refine returns_bind (get_ok.mpr ⟨rfl, rfl⟩) (returns_bind (newId_ok.mpr ⟨rfl, rfl⟩)
    (returns_bind (newId_ok.mpr ⟨rfl, rfl⟩) (returns_then (modify_ok.mpr rfl) ?_)))
  refine returns_bind (getOrCreatePosition_ok.mpr ⟨rfl, rfl⟩)
    (returns_then (bookFill_ok.mpr rfl) (returns_then (modify_ok.mpr rfl) ?_))
  refine returns_then (flush_ok.mpr ⟨?_, rfl⟩) (returns_bind (get_ok.mpr ⟨rfl, rfl⟩)
    (returns_then (modify_ok.mpr rfl) (returns_bind (getAccount_ok.mpr ⟨rfl, rfl⟩) ?_)))
  · exact Database.uniqueColumns_modify none unique rfl (fun _ => rfl) (fun _ => rfl) (fun _ => rfl)
      (by simp)
  · simp only [Table.find?_modify_self, held, Option.map_some]
    refine returns_then (modify_ok.mpr rfl) (returns_then (transitionOrder_ok.mpr
      ⟨_, (Table.find?_modify_self _ _ _).trans (congrArg _ found), fillable, rfl⟩) ?_)
    refine returns_then (audit_ok.mpr rfl) (returns_then (recordBrokerEvent_run _ _
      ((Table.find?_modify_self _ _ _).trans (congrArg _ ((Table.find?_modify_self _ _ _).trans
        (congrArg _ found))))) ?_)
    exact returns_then (enqueueEvent_ok.mpr rfl) ⟨_, _, rfl⟩

theorem submitOrder_returns (config : LocalSimConfig) (traceId : String) (quote : MarketQuote)
    (found : w.db.orders.find? orderId = some order)
    (held : w.db.accounts.find? order.accountId = some account)
    (unique : w.db.UniqueColumns)
    (unnumbered : ∀ row ∈ w.db.orders.rows, ∀ n, w.serial ≤ n →
      row.brokerOrderId ≠ some (idText "ls_order" n)) :
    ∃ result w', submitOrder config traceId orderId quote w = .ok result w' := by
  obtain rfl : order.orderId = orderId := Table.find?_key found
  rw [submitOrder, bind_of_ok (getOrder_ok.mpr ⟨found, rfl⟩)]
  split
  next => exact ⟨_, _, rfl⟩
  next approved =>
    rw [not_not] at approved
    split
    next =>
      exact returns_then (transitionOrder_ok.mpr
        ⟨order, found, by simp [approved, allowedOrderTransitions], rfl⟩) ⟨_, _, rfl⟩
    next =>
      obtain ⟨refusal, db, reserving⟩ := reserveResources_returns config traceId quote found
      have kept : db.orders = w.db.orders ∧
          ∃ account, db.accounts.find? order.accountId = some account := by
        obtain ⟨-, same⟩ | ⟨-, _, found', reserved, orders⟩ := reserveResources_ok reserving
        · obtain rfl : w.db = db := congrArg World.db same
          exact ⟨rfl, account, held⟩
        · obtain rfl := Option.some.inj (found.symm.trans found')
          refine ⟨orders, ?_⟩
          rw [reserved.accounts]
          split
          next => exact ⟨_, (Table.find?_modify_self _ _ _).trans (congrArg _ held)⟩
          next => exact ⟨account, held⟩
      obtain ⟨orders, account', held'⟩ := kept
      rw [← orders] at found
      rw [bind_of_ok reserving]
      cases refusal with
      | some error =>
        exact returns_then (transitionOrder_ok.mpr
          ⟨order, found, by simp [approved, allowedOrderTransitions], rfl⟩) ⟨_, _, rfl⟩
      | none =>
        refine returns_bind (newId_ok.mpr ⟨rfl, rfl⟩) (returns_then (transitionOrder_ok.mpr
          ⟨order, found, by simp [approved, allowedOrderTransitions], rfl⟩) ?_)
        have submitting := (Table.find?_modify_self db.orders order.orderId
          { apply := fun row => { row with status := .submitting } }).trans (congrArg _ found)
        have numbered := (Table.find?_modify_self _ order.orderId
          { apply := fun row =>
            { row with brokerOrderId := some (idText "ls_order" w.serial) } }).trans
          (congrArg _ submitting)
        refine returns_then (modify_ok.mpr rfl) (returns_then (transitionOrder_ok.mpr
          ⟨_, numbered, by simp [allowedOrderTransitions], rfl⟩) ?_)
        have submitted := (Table.find?_modify_self _ order.orderId
          { apply := fun row => { row with status := .submitted } }).trans (congrArg _ numbered)
        refine returns_then (recordBrokerEvent_run _ _ submitted) ?_
        cases fillPrice order quote with
        | none => exact ⟨_, _, rfl⟩
        | some price =>
          refine returns_total (applyFill_returns config traceId price submitted
            (by simp [allowedOrderTransitions]) held' ?_) fun _ _ => ⟨_, _, rfl⟩
          have before : db.UniqueColumns := by
            rw [Database.UniqueColumns, orders]
            exact unique
          rw [← orders] at unnumbered
          refine Database.uniqueColumns_modify (some (idText "ls_order" w.serial)) before
            ((congrArg (fun table => Table.modify table order.orderId _)
              (Table.modify_modify _ _ _ _)).trans (Table.modify_modify _ _ _ _))
            (fun _ => rfl) (fun _ => rfl) (fun _ => rfl) ?_
          rintro _ ⟨⟩ row member
          exact unnumbered row member _ le_rfl

end SynapseYield.LocalSim
