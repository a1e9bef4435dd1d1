import SynapseYield.Broker.LocalOperations

set_option autoImplicit false

namespace SynapseYield.LocalSim

open Shared

variable {config : LocalSimConfig} {order : Order} {quote : MarketQuote} {price : ℚ}
  {db db' : Database} {target : OrderStatus} {M : Type} [AddCommGroup M]

-- A total over the orders that rest at the simulator.
def restingSum (db : Database) (value : OrderIntent → M) : M :=
  db.orders.sum fun order => if order.status = .submitted then value order.toOrderIntent else 0

theorem restingSum_modify (value : OrderIntent → M) {orderId : String}
    {update : RowUpdate String Order Order.orderId}
    (found : db.orders.find? orderId = some order)
    (orders : db'.orders = db.orders.modify orderId update)
    (intent : (update.apply order).toOrderIntent = order.toOrderIntent) :
    restingSum db' value = restingSum db value +
      ((if (update.apply order).status = .submitted then value order.toOrderIntent else 0) -
        if order.status = .submitted then value order.toOrderIntent else 0) := by
  rw [restingSum, orders, Table.sum_modify _ _ _ _ found, intent]
  rfl

theorem mem_modified {orderId : String} {row : Order}
    {update : RowUpdate String Order Order.orderId}
    (found : db.orders.find? orderId = some order)
    (orders : db'.orders = db.orders.modify orderId update) (member : row ∈ db'.orders.rows) :
    row = update.apply order ∨ (row ∈ db.orders.rows ∧ row.orderId ≠ orderId) := by
  rw [orders, Table.mem_modify, found] at member
  rcases member with ⟨_, same, rfl⟩ | kept
  · cases same
    exact .inl rfl
  · exact .inr kept

theorem Quiet.resting (same : Quiet db db') (value : OrderIntent → M) :
    restingSum db' value = restingSum db value := by
  rw [restingSum, same.orders]
  rfl

theorem Created.resting (created : Created order db db') (value : OrderIntent → M) :
    restingSum db' value = restingSum db value := by
  rw [restingSum, Table.sum_insert created.inserted]
  simp [created.status, restingSum]

theorem Restatused.resting (changed : Restatused order target db db') (value : OrderIntent → M) :
    restingSum db' value = restingSum db value := by
  obtain ⟨decided, orders⟩ := changed.orders
  have before := changed.before
  have after := changed.after
  simp only [untraded, decide_eq_true_eq] at before after
  rw [restingSum_modify value changed.stored orders rfl]
  simp [before.1, after.1]

theorem Accepted.resting (accepted : Accepted config order quote db db')
    (value : OrderIntent → M) :
    restingSum db' value = restingSum db value + value order.toOrderIntent := by
  obtain ⟨_, orders⟩ := accepted.orders
  rw [restingSum_modify value accepted.stored orders rfl]
  simp [accepted.approved]

theorem Settled.resting (settled : Settled config order price db db')
    (submitted : order.status = .submitted) (value : OrderIntent → M) :
    restingSum db' value = restingSum db value - value order.toOrderIntent := by
  rw [restingSum_modify value settled.stored settled.orders rfl]
  simp [submitted, sub_eq_add_neg]

theorem Cancelled.resting (cancelled : Cancelled config order db db') (value : OrderIntent → M) :
    restingSum db' value = restingSum db value - value order.toOrderIntent := by
  rw [restingSum_modify value cancelled.stored cancelled.orders rfl]
  simp [cancelled.submitted, sub_eq_add_neg]

theorem Accepted.submitted {submitted : Order} (accepted : Accepted config order quote db db')
    (found : db'.orders.find? order.orderId = some submitted) :
    ∃ brokerOrderId, submitted =
      { order with status := .submitted, brokerOrderId := some brokerOrderId } := by
  obtain ⟨brokerOrderId, orders⟩ := accepted.orders
  rw [orders, Table.find?_modify_self, accepted.stored] at found
  exact ⟨brokerOrderId, (Option.some.inj found).symm⟩

theorem Accepted.accountRow (accepted : Accepted config order quote db db') (accountId : String) :
    db'.accounts.find? accountId = (db.accounts.find? accountId).map fun row =>
      if order.side = .buy ∧ order.accountId = accountId then
        frozenAccount row (reserveAmount config order.toOrderIntent quote.ask)
      else row := by
  rw [accepted.accounts]
  by_cases buying : order.side = .buy
  · by_cases same : accountId = order.accountId
    · simp [buying, same, Table.find?_modify_self]
    · simp [buying, Table.find?_modify_other _ _ same, Ne.symm same]
  · simp [buying]

theorem Cancelled.accountRow (cancelled : Cancelled config order db db') (accountId : String) :
    db'.accounts.find? accountId = (db.accounts.find? accountId).map fun row =>
      if order.side = .buy ∧ order.accountId = accountId then
        thawedAccount row (reserveAmount config order.toOrderIntent 0)
      else row := by
  rw [cancelled.accounts]
  by_cases buying : order.side = .buy
  · by_cases same : accountId = order.accountId
    · simp [buying, same, Table.find?_modify_self]
    · simp [buying, Table.find?_modify_other _ _ same, Ne.symm same]
  · simp [buying]

theorem Settled.accountRow (settled : Settled config order price db db') (accountId : String) :
    db'.accounts.find? accountId = (db.accounts.find? accountId).map fun row =>
      if order.accountId = accountId then
        revalued (filledAccount config order.toOrderIntent price
          (positionOf db.positions order.accountId order.symbol).avgCost row) db'
      else row := by
  have rows := congrArg (Table.find? · accountId) settled.accounts
  by_cases same : accountId = order.accountId
  · subst same
    simpa [Table.find?_modify_self] using rows
  · simpa [Table.find?_modify_other _ _ same, Ne.symm same] using rows

theorem Accepted.positionRow (accepted : Accepted config order quote db db')
    (accountId symbol : String) :
    db'.positions.find? (accountId, symbol) = (db.positions.find? (accountId, symbol)).map
      fun row =>
        if plainSell order.toOrderIntent ∧ order.accountId = accountId ∧ order.symbol = symbol then
          lockedPosition row order.quantity.value
        else row := by
  rw [accepted.positions]
  by_cases plain : plainSell order.toOrderIntent
  · by_cases same : (accountId, symbol) = (order.accountId, order.symbol)
    · obtain ⟨rfl, rfl⟩ := Prod.mk.inj same
      simp [plain, Table.find?_modify_self]
    · rw [if_pos plain, Table.find?_modify_other _ _ same]
      have other : ¬ (order.accountId = accountId ∧ order.symbol = symbol) :=
        fun both => same (Prod.ext both.1.symm both.2.symm)
      simp [other]
  · simp [plain]

theorem Cancelled.positionRow (cancelled : Cancelled config order db db')
    (accountId symbol : String) :
    db'.positions.find? (accountId, symbol) = (db.positions.find? (accountId, symbol)).map
      fun row =>
        if plainSell order.toOrderIntent ∧ order.accountId = accountId ∧ order.symbol = symbol then
          unlockedPosition row (order.quantity.value - order.filledQuantity)
        else row := by
  rw [cancelled.positions]
  by_cases plain : plainSell order.toOrderIntent
  · by_cases same : (accountId, symbol) = (order.accountId, order.symbol)
    · obtain ⟨rfl, rfl⟩ := Prod.mk.inj same
      simp [plain, Table.find?_modify_self]
    · rw [if_pos plain, Table.find?_modify_other _ _ same]
      have other : ¬ (order.accountId = accountId ∧ order.symbol = symbol) :=
        fun both => same (Prod.ext both.1.symm both.2.symm)
      simp [other]
  · simp [plain]

theorem Accepted.position_same {α : Type} (accepted : Accepted config order quote db db')
    {value : Position → α} (same : ∀ row quantity, value (lockedPosition row quantity) = value row)
    (accountId symbol : String) : value (positionOf db'.positions accountId symbol) =
      value (positionOf db.positions accountId symbol) := by
  rw [positionOf, positionOf, accepted.positionRow]
  cases db.positions.find? (accountId, symbol) with
  | none => rfl
  | some row =>
    simp only [Option.map_some, Option.getD_some]
    split
    next => exact same _ _
    next => rfl

theorem Cancelled.position_same {α : Type} (cancelled : Cancelled config order db db')
    {value : Position → α}
    (same : ∀ row quantity, value (unlockedPosition row quantity) = value row)
    (accountId symbol : String) : value (positionOf db'.positions accountId symbol) =
      value (positionOf db.positions accountId symbol) := by
  rw [positionOf, positionOf, cancelled.positionRow]
  cases db.positions.find? (accountId, symbol) with
  | none => rfl
  | some row =>
    simp only [Option.map_some, Option.getD_some]
    split
    next => exact same _ _
    next => rfl

theorem Settled.positionRow (settled : Settled config order price db db')
    (accountId symbol : String) :
    positionOf db'.positions accountId symbol =
      if order.accountId = accountId ∧ order.symbol = symbol then
        filledPosition config order.toOrderIntent price (positionOf db.positions accountId symbol)
      else positionOf db.positions accountId symbol := by
  rw [positionOf, settled.positions]
  by_cases same : (accountId, symbol) = (order.accountId, order.symbol)
  · obtain ⟨rfl, rfl⟩ := Prod.mk.inj same
    rw [Table.find?_modify_self, find?_ensured]
    simp
  · have other : ¬ (order.accountId = accountId ∧ order.symbol = symbol) :=
      fun both => same (Prod.ext both.1.symm both.2.symm)
    have key : (accountId, symbol) ≠ (emptyPosition order.accountId order.symbol).key := same
    rw [Table.find?_modify_other _ _ same, Table.find?_ensure, if_neg key, if_neg other]
    rfl

-- Price and commission of a whole order.
def fillCost (config : LocalSimConfig) (order : OrderIntent) (price : ℚ) : ℚ :=
  order.quantity.value * price + commission config (order.quantity.value * price)

-- A total over the positions of one account.
def positionSum (db : Database) (accountId : String) (value : Position → ℚ) : ℚ :=
  db.positions.sum fun position => if position.accountId = accountId then value position else 0

theorem totalMarketValue_sum (db : Database) (accountId : String) :
    totalMarketValue db accountId = positionSum db accountId Position.marketValue := by
  simpa [totalMarketValue, positionsOf, positionSum] using
    db.positions.sum_filter (fun position => position.accountId = accountId) Position.marketValue

theorem totalUnrealizedPnl_sum (db : Database) (accountId : String) :
    totalUnrealizedPnl db accountId = positionSum db accountId Position.unrealizedPnl := by
  simpa [totalUnrealizedPnl, positionsOf, positionSum] using
    db.positions.sum_filter (fun position => position.accountId = accountId)
      Position.unrealizedPnl

theorem Accepted.positionSum (accepted : Accepted config order quote db db') (accountId : String)
    {value : Position → ℚ} (same : ∀ row quantity, value (lockedPosition row quantity) = value row) :
    positionSum db' accountId value = positionSum db accountId value := by
  rw [LocalSim.positionSum, accepted.positions]
  split
  next =>
    refine Table.sum_modify_same _ _ _ _ fun row _ => ?_
    simp only [same]
    rfl
  next => rfl

theorem Cancelled.positionSum (cancelled : Cancelled config order db db') (accountId : String)
    {value : Position → ℚ}
    (same : ∀ row quantity, value (unlockedPosition row quantity) = value row) :
    positionSum db' accountId value = positionSum db accountId value := by
  rw [LocalSim.positionSum, cancelled.positions]
  split
  next =>
    refine Table.sum_modify_same _ _ _ _ fun row _ => ?_
    simp only [same]
    rfl
  next => rfl

theorem Settled.positionSum (settled : Settled config order price db db') (accountId : String)
    {value : Position → ℚ} (empty : ∀ accountId symbol, value (emptyPosition accountId symbol) = 0) :
    positionSum db' accountId value = positionSum db accountId value +
      if order.accountId = accountId then
        value (filledPosition config order.toOrderIntent price
          (positionOf db.positions order.accountId order.symbol)) -
        value (positionOf db.positions order.accountId order.symbol)
      else 0 := by
  have found := find?_ensured db.positions order.accountId order.symbol
  have owner : (positionOf db.positions order.accountId order.symbol).accountId =
      order.accountId := congrArg Prod.fst (Table.find?_key found)
  have owner' : (filledPosition config order.toOrderIntent price
      (positionOf db.positions order.accountId order.symbol)).accountId = order.accountId :=
    (congrArg Prod.fst (filledPosition_key config order.toOrderIntent price _)).trans owner
  rw [LocalSim.positionSum, settled.positions, Table.sum_modify _ _ _ _ found,
    Table.sum_ensure _ _ _ (by simp [empty])]
  simp only [owner, owner']
  by_cases own : order.accountId = accountId <;> simp [own, LocalSim.positionSum]

theorem Step.accounts_kept {meets : Database → Order → ℚ → Prop}
    (step : Step config meets db db') (accountId : String) :
    (db'.accounts.find? accountId).isSome = (db.accounts.find? accountId).isSome := by
  cases step with
  | quiet same => rw [same.accounts]
  | created order fresh => rw [fresh.accounts]
  | restatused order target changed => rw [changed.accounts]
  | rested order quote accepted => rw [accepted.accountRow, Option.isSome_map]
  | crossed order submitted quote price accepted matched met settled =>
    rw [settled.accountRow, accepted.accountRow, Option.isSome_map, Option.isSome_map]
  | settled order quote price resting matched met settled =>
    rw [settled.accountRow, Option.isSome_map]
  | cancelled order cancelled => rw [cancelled.accountRow, Option.isSome_map]

theorem Steps.accounts_kept {meets : Database → Order → ℚ → Prop}
    (steps : Steps config meets db db') (accountId : String) :
    (db'.accounts.find? accountId).isSome = (db.accounts.find? accountId).isSome := by
  induction steps with
  | refl => rfl
  | tail _ last ih => rw [last.accounts_kept, ih]

end SynapseYield.LocalSim
