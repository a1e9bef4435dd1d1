import SynapseYield.Properties.Shares

set_option autoImplicit false

namespace SynapseYield.LocalSim

open Shared OrderService

variable {config : LocalSimConfig} {order : Order} {quote : MarketQuote} {price : ℚ}
  {db db' : Database} {target : OrderStatus} {accountId symbol : String}

def ownerOf (db : Database) (orderId : String) : Option String :=
  (db.orders.find? orderId).map fun order => order.accountId

def fillsIn (db : Database) (accountId symbol : String) : List Fill :=
  db.fills.filter fun fill => fill.symbol = symbol ∧ ownerOf db fill.orderId = some accountId

-- fills.order_id refers to orders.
def Traced (db : Database) : Prop := ∀ fill ∈ db.fills, ownerOf db fill.orderId ≠ none

theorem ownerOf_modified {orderId : String} {update : RowUpdate String Order Order.orderId}
    (orders : db'.orders = db.orders.modify orderId update)
    (intent : ∀ row, (update.apply row).accountId = row.accountId) (id : String) :
    ownerOf db' id = ownerOf db id := by
  unfold ownerOf
  rw [orders, Table.find?_modify]
  split
  next same =>
    rw [same, Option.map_map]
    congr 1
    exact funext intent
  next => rfl

theorem fillsIn_same (fills : db'.fills = db.fills)
    (owners : ∀ fill ∈ db.fills, ownerOf db' fill.orderId = ownerOf db fill.orderId)
    (accountId symbol : String) : fillsIn db' accountId symbol = fillsIn db accountId symbol := by
  unfold fillsIn
  rw [fills]
  apply List.filter_congr
  intro fill member
  rw [owners fill member]

theorem Traced.same (traced : Traced db) (fills : db'.fills = db.fills)
    (owners : ∀ fill ∈ db.fills, ownerOf db' fill.orderId = ownerOf db fill.orderId) :
    Traced db' := by
  intro fill member
  rw [fills] at member
  rw [owners fill member]
  exact traced fill member

theorem Created.owners (created : Created order db db') (traced : Traced db) :
    ∀ fill ∈ db.fills, ownerOf db' fill.orderId = ownerOf db fill.orderId := by
  intro fill member
  have known := traced fill member
  have unused := ((Table.insert?_eq_some _ _ _).mp created.inserted).1
  unfold ownerOf at known ⊢
  rw [Table.find?_insert created.inserted, if_neg]
  rintro same
  apply known
  rw [Option.map_eq_none_iff, Table.find?_eq_none, same]
  exact fun row stored used => unused (List.mem_map.mpr ⟨row, stored, used⟩)

theorem Accepted.owners (accepted : Accepted config order quote db db') (id : String) :
    ownerOf db' id = ownerOf db id := by
  obtain ⟨_, orders⟩ := accepted.orders
  exact ownerOf_modified orders (fun _ => rfl) id

theorem Restatused.owners (changed : Restatused order target db db') (id : String) :
    ownerOf db' id = ownerOf db id := by
  obtain ⟨_, orders⟩ := changed.orders
  exact ownerOf_modified orders (fun _ => rfl) id

theorem Cancelled.owners (cancelled : Cancelled config order db db') (id : String) :
    ownerOf db' id = ownerOf db id :=
  ownerOf_modified cancelled.orders (fun _ => rfl) id

theorem Settled.owners (settled : Settled config order price db db') (id : String) :
    ownerOf db' id = ownerOf db id :=
  ownerOf_modified settled.orders (fun _ => rfl) id

theorem Settled.owner (settled : Settled config order price db db') :
    ownerOf db order.orderId = some order.accountId := by
  simp [ownerOf, settled.stored]

theorem Settled.traced (settled : Settled config order price db db') (traced : Traced db) :
    Traced db' := by
  obtain ⟨fill, fills, filled, -⟩ := settled.fills
  intro member stored
  rw [settled.owners]
  rw [fills] at stored
  rcases List.mem_append.mp stored with old | new
  · exact traced member old
  · rw [List.mem_singleton.mp new, filled, settled.owner]
    exact Option.some_ne_none _

theorem Settled.fillsIn (settled : Settled config order price db db')
    (accountId symbol : String) :
    ∃ fill, fill.side = order.side ∧ fill.quantity = order.quantity.value ∧ fill.price = price ∧
      fill.commission = commission config (order.quantity.value * price) ∧
      fillsIn db' accountId symbol = fillsIn db accountId symbol ++
        if order.accountId = accountId ∧ order.symbol = symbol then [fill] else [] := by
  obtain ⟨fill, fills, filled, symbolSame, side, quantity, priced, charge⟩ := settled.fills
  refine ⟨fill, side, quantity, priced, charge, ?_⟩
  have owners : ∀ id, ownerOf db' id = ownerOf db id := settled.owners
  simp only [LocalSim.fillsIn, fills, owners, List.filter_append, List.filter_cons,
    List.filter_nil, filled, settled.owner, symbolSame, Option.some.injEq]
  by_cases own : order.accountId = accountId <;> by_cases same : order.symbol = symbol <;>
    simp [own, same]

def signedQuantity (fill : Fill) : ℚ := if fill.side = .buy then fill.quantity else -fill.quantity

-- The sum of the BUY fills less the sum of the SELL fills.
def netFills (db : Database) (accountId symbol : String) : ℚ :=
  ((fillsIn db accountId symbol).map signedQuantity).sum

def saleHeld (db : Database) (order : Order) (_ : ℚ) : Prop :=
  order.side ≠ .buy → order.quantity.value ≤ held db order.accountId order.symbol

structure NetHeld (db : Database) : Prop where
  net : ∀ accountId symbol, held db accountId symbol = netFills db accountId symbol
  nonneg : ∀ accountId symbol, 0 ≤ held db accountId symbol
  traced : Traced db

theorem NetHeld.kept (inv : NetHeld db) (fills : db'.fills = db.fills)
    (holdings : ∀ accountId symbol, held db' accountId symbol = held db accountId symbol)
    (owners : ∀ fill ∈ db.fills, ownerOf db' fill.orderId = ownerOf db fill.orderId) :
    NetHeld db' where
  net accountId symbol := by
    rw [holdings, netFills, fillsIn_same fills owners]
    exact inv.net accountId symbol
  nonneg accountId symbol := by
    rw [holdings]
    exact inv.nonneg accountId symbol
  traced := inv.traced.same fills owners

theorem NetHeld.accepted (inv : NetHeld db) (accepted : Accepted config order quote db db') :
    NetHeld db' :=
  inv.kept accepted.fills (fun accountId symbol => (accepted.shares_locked accountId symbol).1)
    (fun fill _ => accepted.owners fill.orderId)

theorem Cancelled.held_same (cancelled : Cancelled config order db db')
    (accountId symbol : String) : held db' accountId symbol = held db accountId symbol :=
  cancelled.position_same (fun _ _ => rfl) accountId symbol

theorem NetHeld.settled (inv : NetHeld db) (settled : Settled config order price db db')
    (met : saleHeld db order price) : NetHeld db' := by
  have sale : order.side ≠ .buy → max 0 (held db order.accountId order.symbol -
      order.quantity.value) = held db order.accountId order.symbol - order.quantity.value :=
    fun selling => max_eq_right (sub_nonneg.mpr (met selling))
  refine ⟨fun accountId symbol => ?_, fun accountId symbol => ?_, settled.traced inv.traced⟩
  · obtain ⟨fill, side, quantity, -, -, fills⟩ := settled.fillsIn accountId symbol
    rw [settled.held_change, netFills, fills, List.map_append, List.sum_append,
      show ((fillsIn db accountId symbol).map signedQuantity).sum = held db accountId symbol from
        (inv.net accountId symbol).symm]
    split
    next same =>
      obtain ⟨rfl, rfl⟩ := same
      by_cases buying : order.side = .buy
      · simp [signedQuantity, side, quantity, buying]
      · rw [if_neg buying, sale buying]
        simp [signedQuantity, side, quantity, buying, sub_eq_add_neg]
    next => simp
  · have nonneg := inv.nonneg accountId symbol
    rw [settled.held_change]
    split
    next =>
      split
      next => linarith [order.quantity_pos]
      next => exact le_max_left _ _
    next => exact nonneg

theorem saleHeld_accepted (accepted : Accepted config order quote db db')
    {submitted : Order} (same : submitted.toOrderIntent = order.toOrderIntent)
    (met : saleHeld db order price) : saleHeld db' submitted price := by
  intro selling
  rw [same] at selling ⊢
  rw [(accepted.shares_locked _ _).1]
  exact met selling

theorem NetHeld.step (inv : NetHeld db) (step : Step config saleHeld db db') : NetHeld db' := by
  cases step with
  | quiet same =>
    refine inv.kept same.fills (fun _ _ => ?_) (fun _ _ => ?_)
    · rw [held, held, same.positions]
    · rw [ownerOf, ownerOf, same.orders]
  | created order fresh =>
    refine inv.kept fresh.fills (fun _ _ => ?_) (fresh.owners inv.traced)
    rw [held, held, fresh.positions]
  | restatused order target changed =>
    refine inv.kept changed.fills (fun _ _ => ?_) (fun fill _ => changed.owners fill.orderId)
    rw [held, held, changed.positions]
  | rested order quote accepted => exact inv.accepted accepted
  | crossed order submitted quote price accepted matched met settled same =>
    obtain ⟨_, rfl⟩ := accepted.submitted (same ▸ settled.stored)
    exact (inv.accepted accepted).settled settled (saleHeld_accepted accepted rfl met)
  | settled order quote price resting matched met settled => exact inv.settled settled met
  | cancelled order cancelled =>
    exact inv.kept cancelled.fills cancelled.held_same fun fill _ => cancelled.owners fill.orderId

end SynapseYield.LocalSim
