import SynapseYield.Broker.LocalEvents
import Mathlib.Logic.Relation

set_option autoImplicit false

namespace SynapseYield.LocalSim

open Shared OrderService

theorem giveBack_ok {config : LocalSimConfig} {order : Order} {w w' : World} {u : Unit}
    (run : giveBack config order w = .ok u w') :
    (∃ account, w.db.accounts.find? order.accountId = some account) ∧
    (order.side = .buy → ∃ limit, order.limitPrice = some limit) ∧
    w' = { w with db := { w.db with
      accounts := if order.side = .buy then w.db.accounts.modify order.accountId
          { apply := fun row => thawedAccount row (reserveAmount config order.toOrderIntent 0) }
        else w.db.accounts
      positions := if plainSell order.toOrderIntent then
          w.db.positions.modify (order.accountId, order.symbol)
            { apply := fun row =>
                unlockedPosition row (order.quantity.value - order.filledQuantity) }
        else w.db.positions } } := by
  simp only [giveBack, bind_ok, getAccount_ok] at run
  obtain ⟨_, _, ⟨rfl, rfl⟩, rest⟩ := run
  cases held : w.db.accounts.find? order.accountId with
  | none =>
    simp only [held] at rest
    exact absurd rest throw_ok
  | some account =>
    refine ⟨⟨account, rfl⟩, ?_⟩
    simp only [held] at rest
    split at rest
    next buying =>
      simp only [bind_ok, liftExcept_ok, updateAccount, modify_ok] at rest
      obtain ⟨_, _, ⟨computed, rfl⟩, rfl⟩ := rest
      obtain ⟨limit, limited, rfl⟩ := reservedCash_ok computed
      have plain : ¬ plainSell order.toOrderIntent := by simp [plainSell, buying]
      refine ⟨fun _ => ⟨limit, limited⟩, ?_⟩
      rw [reserveAmount_limit config _ limited limit.value 0, if_pos buying, if_neg plain]
      rfl
    next selling =>
      refine ⟨fun buying => absurd buying selling, ?_⟩
      split at rest
      next bracket =>
        obtain ⟨-, rfl⟩ := pure_ok.mp rest
        have plain : ¬ plainSell order.toOrderIntent := by simp [plainSell, bracket]
        rw [if_neg selling, if_neg plain]
      next plainOrder =>
        have plain : plainSell order.toOrderIntent := by
          cases side : order.side <;> simp_all [plainSell]
        simp only [bind_ok, findPosition_ok] at rest
        obtain ⟨_, _, ⟨rfl, rfl⟩, rest⟩ := rest
        cases stored : w.db.positions.find? (order.accountId, order.symbol) with
        | none =>
          simp only [stored] at rest
          exact absurd rest throw_ok
        | some position =>
          simp only [stored, updatePosition, modify_ok] at rest
          subst rest
          rw [if_neg selling, if_pos plain]
          rfl

theorem cancelOrder_ok {config : LocalSimConfig} {traceId orderId : String} {w w' : World}
    {result : BrokerOrderResult} (run : cancelOrder config traceId orderId w = .ok result w') :
    w = w' ∨ ∃ order, w.db.orders.find? orderId = some order ∧
      Cancelled config order w.db w'.db := by
  simp only [cancelOrder, bind_ok, getOrder_ok] at run
  obtain ⟨order, _, ⟨found, rfl⟩, rest⟩ := run
  have named : order.orderId = orderId := Table.find?_key found
  subst named
  split at rest
  next => exact .inl (pure_ok.mp rest).2
  next resting =>
    refine .inr ⟨order, found, ?_⟩
    simp only [releaseResources, recordEvent, recordBrokerEvent, addBrokerEvent, bind_ok,
      transitionOrder_ok, getOrder_ok, audit_ok, get_ok, modify_ok, enqueueEvent_ok, pure_ok]
      at rest
    obtain ⟨_, _, ⟨_, _, -, rfl⟩, _, _, ⟨pending, _, ⟨stored, rfl⟩, _, _, released, rfl⟩, rest⟩ :=
      rest
    obtain ⟨held, limited, rfl⟩ := giveBack_ok released
    obtain ⟨_, _, ⟨_, _, -, rfl⟩, _, _, ⟨_, _, ⟨-, rfl⟩, _, _, ⟨rfl, rfl⟩, rfl⟩, _, _, rfl, rfl,
      rfl⟩ := rest
    simp only [Table.find?_modify_self, found, Option.map_some, Option.some.injEq] at stored
    subst stored
    dsimp only
    exact {
      stored := found
      submitted := not_not.mp resting
      account := held
      limited := limited
      accounts := rfl
      positions := rfl
      orders := Table.modify_modify _ _ _ _
      fills := rfl
      cashLedger := rfl
      outboxEvents := ⟨_, rfl, rfl⟩ }

-- No order changes, and the events sent are of no settlement.
structure Quiet (db db' : Database) : Prop where
  accounts : db'.accounts = db.accounts
  positions : db'.positions = db.positions
  orders : db'.orders = db.orders
  fills : db'.fills = db.fills
  cashLedger : db'.cashLedger = db.cashLedger
  outboxEvents : ∃ events, db'.outboxEvents = db.outboxEvents ++ events ∧
    ∀ event ∈ events, event.eventType ≠ "ORDER_FILLED"

structure Created (order : Order) (db db' : Database) : Prop where
  inserted : db.orders.insert? order = some db'.orders
  status : order.status = .created
  unfilled : order.filledQuantity = 0
  accounts : db'.accounts = db.accounts
  positions : db'.positions = db.positions
  fills : db'.fills = db.fills
  cashLedger : db'.cashLedger = db.cashLedger
  outboxEvents : db'.outboxEvents = db.outboxEvents

def untraded (status : OrderStatus) : Bool := status ≠ .submitted ∧ status ≠ .filled

-- A status change away from the simulator: a risk verdict, or a submit that failed.
structure Restatused (order : Order) (target : OrderStatus) (db db' : Database) : Prop where
  stored : db.orders.find? order.orderId = some order
  before : untraded order.status
  after : untraded target
  orders : ∃ decided : Option String → Option String, db'.orders = db.orders.modify order.orderId
    { apply := fun row =>
        { row with status := target, riskDecisionId := decided row.riskDecisionId } }
  accounts : db'.accounts = db.accounts
  positions : db'.positions = db.positions
  fills : db'.fills = db.fills
  cashLedger : db'.cashLedger = db.cashLedger
  outboxEvents : ∃ events, db'.outboxEvents = db.outboxEvents ++ events ∧
    ∀ event ∈ events, event.eventType ≠ "ORDER_FILLED"

-- What one call does to the database, cut at every fill. meets is a condition on each
-- fill: the database before it, the order and the price.
inductive Step (config : LocalSimConfig) (meets : Database → Order → ℚ → Prop) :
    Database → Database → Prop
  | quiet {db db'} (same : Quiet db db') : Step config meets db db'
  | created {db db'} (order) (fresh : Created order db db') : Step config meets db db'
  | restatused {db db'} (order target) (changed : Restatused order target db db') :
      Step config meets db db'
  | rested {db db'} (order quote) (accepted : Accepted config order quote db db')
      (unmatched : fillPrice order quote = none) : Step config meets db db'
  | crossed {db mid db'} (order submitted quote price)
      (accepted : Accepted config order quote db mid)
      (matched : fillPrice order quote = some price) (met : meets db order price)
      (settled : Settled config submitted price mid db')
      (same : submitted.orderId = order.orderId) : Step config meets db db'
  | settled {db db'} (order quote price) (resting : order.status = .submitted)
      (matched : fillPrice order quote = some price) (met : meets db order price)
      (settled : Settled config order price db db') : Step config meets db db'
  | cancelled {db db'} (order) (cancelled : Cancelled config order db db') :
      Step config meets db db'

abbrev Steps (config : LocalSimConfig) (meets : Database → Order → ℚ → Prop) :
    Database → Database → Prop :=
  Relation.ReflTransGen (Step config meets)

def SubmitMeets (meets : Database → Order → ℚ → Prop) (orderId : String) (quote : MarketQuote)
    (w : World) : Prop :=
  ∀ order price, w.db.orders.find? orderId = some order → order.status = .riskApproved →
    quote.symbol = order.symbol → fillPrice order quote = some price → meets w.db order price

-- The condition on each fill of a quote, in the state that fill finds.
def FillsMeet (meets : Database → Order → ℚ → Prop) (config : LocalSimConfig) (traceId : String)
    (quote : MarketQuote) : List String → World → Prop
  | [], _ => True
  | orderId :: rest, w =>
    ∀ order, w.db.orders.find? orderId = some order →
      match fillPrice order quote with
      | none => FillsMeet meets config traceId quote rest w
      | some price => meets w.db order price ∧ ∀ w',
          applyFill config traceId orderId price w = .ok () w' →
            FillsMeet meets config traceId quote rest w'

def QuoteMeets (meets : Database → Order → ℚ → Prop) (config : LocalSimConfig)
    (rowOrder : RowOrder) (traceId : String) (quote : MarketQuote) (w : World) : Prop :=
  FillsMeet meets config traceId quote
    ((rowOrder.arrange (restingOrders w.db quote.symbol)).map Order.orderId) w

-- No condition on the fills.
abbrev anyFill : Database → Order → ℚ → Prop := fun _ _ _ => True

theorem submitMeets_any (orderId : String) (quote : MarketQuote) (w : World) :
    SubmitMeets anyFill orderId quote w := fun _ _ _ _ _ _ => trivial

theorem fillsMeet_any (config : LocalSimConfig) (traceId : String) (quote : MarketQuote)
    (orderIds : List String) (w : World) :
    FillsMeet anyFill config traceId quote orderIds w := by
  induction orderIds generalizing w with
  | nil => trivial
  | cons orderId rest ih =>
    intro order _
    split
    next => exact ih w
    next => exact ⟨trivial, fun w' _ => ih w'⟩

theorem Quiet.refl (db : Database) : Quiet db db where
  accounts := rfl
  positions := rfl
  orders := rfl
  fills := rfl
  cashLedger := rfl
  outboxEvents := ⟨[], by simp, by simp⟩

theorem transitionOrder_restatused {traceId orderId eventType : String} {target : OrderStatus}
    {w w' : World} {u : Unit} {order : Order}
    (run : transitionOrder traceId orderId target eventType w = .ok u w')
    (found : w.db.orders.find? orderId = some order) (before : untraded order.status)
    (after : untraded target) : Restatused order target w.db w'.db := by
  obtain ⟨stored, found', -, rfl⟩ := transitionOrder_ok.mp run
  obtain rfl : order.orderId = orderId := Table.find?_key found
  exact {
    stored := found
    before := before
    after := after
    orders := ⟨id, rfl⟩
    accounts := rfl
    positions := rfl
    fills := rfl
    cashLedger := rfl
    outboxEvents := ⟨[], (List.append_nil _).symm, by simp⟩ }

theorem submitOrder_ok {config : LocalSimConfig} {traceId orderId : String} {quote : MarketQuote}
    {w w' : World} {result : BrokerOrderResult}
    (run : submitOrder config traceId orderId quote w = .ok result w') :
    ∃ order, w.db.orders.find? orderId = some order ∧
      ((order.status ≠ .riskApproved ∧ result.accepted = false ∧ w = w') ∨
      (result.accepted = false ∧ Restatused order .failed w.db w'.db) ∨
      (result.accepted = true ∧ ∃ mid, Accepted config order quote w.db mid ∧
        match fillPrice order quote with
        | none => w'.db = mid
        | some price => ∃ submitted, submitted.orderId = order.orderId ∧
            Settled config submitted price mid w'.db)) := by
  simp only [submitOrder, bind_ok, getOrder_ok] at run
  obtain ⟨order, _, ⟨found, rfl⟩, rest⟩ := run
  obtain rfl : order.orderId = orderId := Table.find?_key found
  refine ⟨order, found, ?_⟩
  split at rest
  next unapproved =>
    obtain ⟨rfl, rfl⟩ := pure_ok.mp rest
    exact .inl ⟨unapproved, rfl, rfl⟩
  next approved =>
    rw [not_not] at approved
    right
    split at rest
    next =>
      simp only [bind_ok, pure_ok] at rest
      obtain ⟨_, _, failed, rfl, rfl⟩ := rest
      exact .inl ⟨rfl, transitionOrder_restatused failed found (by simp [untraded, approved]) rfl⟩
    next symbol =>
      rw [not_not] at symbol
      obtain ⟨refusal, reservedWorld, reserving, rest⟩ := bind_ok.mp rest
      rcases reserveResources_ok reserving with ⟨refused, rfl⟩ | ⟨rfl, _, found', reserved, kept⟩
      · cases refusal with
        | none => exact absurd rfl refused
        | some message =>
          simp only [bind_ok, pure_ok] at rest
          obtain ⟨_, _, failed, rfl, rfl⟩ := rest
          exact .inl ⟨rfl, transitionOrder_restatused failed found (by simp [untraded, approved]) rfl⟩
      · obtain rfl : order = _ := Option.some.inj (found.symm.trans found')
        simp only [recordBrokerEvent, addBrokerEvent, updateOrder, bind_ok, newId_ok,
          transitionOrder_ok, modify_ok, getOrder_ok, get_ok] at rest
        obtain ⟨brokerOrderId, _, ⟨-, rfl⟩, _, _, ⟨_, _, -, rfl⟩, _, _, rfl, _, _,
          ⟨_, _, -, rfl⟩, _, _, ⟨_, _, ⟨-, rfl⟩, _, _, ⟨rfl, rfl⟩, rfl⟩, rest⟩ := rest
        have accepted : ∀ (auditLogs : List AuditLog) (brokerEvents : List BrokerEvent),
            Accepted config order quote w.db { reservedWorld.db with
              auditLogs, brokerEvents
              orders := w.db.orders.modify order.orderId { apply := fun row =>
                { row with status := .submitted, brokerOrderId := some brokerOrderId } } } :=
          fun _ _ => { reserved with
            stored := found
            approved := approved
            symbol := symbol
            orders := ⟨brokerOrderId, rfl⟩ }
        simp only [Table.modify_modify, kept] at rest
        cases matched : fillPrice order quote with
        | none =>
          simp only [matched, pure_ok] at rest
          obtain ⟨rfl, rfl⟩ := rest
          exact .inr ⟨rfl, _, accepted _ _, rfl⟩
        | some price =>
          simp only [matched, bind_ok, pure_ok] at rest
          obtain ⟨_, _, filling, rfl, rfl⟩ := rest
          obtain ⟨submitted, stored, settled⟩ := applyFill_ok filling
          exact .inr ⟨rfl, _, accepted _ _, submitted, Table.find?_key stored, settled⟩

theorem submitOrder_step {config : LocalSimConfig} {meets : Database → Order → ℚ → Prop}
    {traceId orderId : String} {quote : MarketQuote} {w w' : World} {result : BrokerOrderResult}
    (run : submitOrder config traceId orderId quote w = .ok result w')
    (met : SubmitMeets meets orderId quote w) : Step config meets w.db w'.db := by
  obtain ⟨order, found, ⟨-, -, rfl⟩ | ⟨-, failed⟩ | ⟨-, mid, accepted, rest⟩⟩ := submitOrder_ok run
  · exact .quiet (.refl _)
  · exact .restatused order .failed failed
  · cases matched : fillPrice order quote with
    | none =>
      simp only [matched] at rest
      subst rest
      exact .rested order quote accepted matched
    | some price =>
      simp only [matched] at rest
      obtain ⟨submitted, same, settled⟩ := rest
      exact .crossed order submitted quote price accepted matched
        (met order price found accepted.approved accepted.symbol matched) settled same

theorem fillOrders_steps {config : LocalSimConfig} {meets : Database → Order → ℚ → Prop}
    {traceId : String} {quote : MarketQuote} (orderIds : List String) {w w' : World}
    {filled : List String} (run : fillOrders config traceId quote orderIds w = .ok filled w')
    (distinct : orderIds.Nodup)
    (resting : ∀ orderId ∈ orderIds, ∀ order, w.db.orders.find? orderId = some order →
      order.status = .submitted)
    (met : FillsMeet meets config traceId quote orderIds w) : Steps config meets w.db w'.db := by
  induction orderIds generalizing w filled with
  | nil =>
    obtain ⟨-, rfl⟩ := pure_ok.mp run
    exact .refl
  | cons orderId rest ih =>
    simp only [fillOrders, bind_ok, getOrder_ok] at run
    obtain ⟨order, _, ⟨found, rfl⟩, run⟩ := run
    have named : order.orderId = orderId := Table.find?_key found
    have others := List.nodup_cons.mp distinct
    have meeting := met order found
    cases matched : fillPrice order quote with
    | none =>
      simp only [matched] at run meeting
      exact ih run others.2 (fun id member => resting id (List.mem_cons_of_mem _ member)) meeting
    | some price =>
      simp only [matched, bind_ok, pure_ok] at run meeting
      obtain ⟨_, mid, filling, _, _, filled, -, rfl⟩ := run
      obtain ⟨_, found', settled⟩ := applyFill_ok filling
      obtain rfl := Option.some.inj (found.symm.trans found')
      have first : Step config meets w.db mid.db :=
        .settled order quote price (resting orderId List.mem_cons_self order found) matched
          meeting.1 settled
      -- The fill changed the row of this order only, so the rest is still resting.
      have still : ∀ id ∈ rest, ∀ row, mid.db.orders.find? id = some row →
          row.status = .submitted := by
        intro id member row stored
        have other : id ≠ order.orderId := by
          rintro rfl
          exact others.1 (named ▸ member)
        rw [settled.orders, Table.find?_modify_other _ _ other] at stored
        exact resting id (List.mem_cons_of_mem _ member) row stored
      exact .head first (ih filled others.2 still (meeting.2 mid filling))

theorem processQuote_steps {config : LocalSimConfig} {meets : Database → Order → ℚ → Prop}
    {rowOrder : RowOrder} {traceId : String} {quote : MarketQuote} {w w' : World}
    {filled : List String} (run : processQuote config rowOrder traceId quote w = .ok filled w')
    (met : QuoteMeets meets config rowOrder traceId quote w) : Steps config meets w.db w'.db := by
  simp only [processQuote, bind_ok, get_ok] at run
  obtain ⟨_, _, ⟨rfl, rfl⟩, run⟩ := run
  have arranged := rowOrder.perm (restingOrders w.db quote.symbol)
  refine fillOrders_steps _ run ?_ ?_ met
  · rw [(arranged.map Order.orderId).nodup_iff]
    exact (w.db.orders.unique).sublist (List.filter_sublist.map _)
  · intro orderId member order found
    obtain ⟨row, stored, rfl⟩ := List.mem_map.mp member
    have kept := List.mem_filter.mp (arranged.mem_iff.mp stored)
    have same := (Table.find?_of_mem kept.1).symm.trans found
    cases Option.some.inj same
    simpa using (of_decide_eq_true kept.2).2

theorem cancelOrder_step {config : LocalSimConfig} {meets : Database → Order → ℚ → Prop}
    {traceId orderId : String} {w w' : World} {result : BrokerOrderResult}
    (run : cancelOrder config traceId orderId w = .ok result w') :
    Step config meets w.db w'.db := by
  rcases cancelOrder_ok run with rfl | ⟨order, -, cancelled⟩
  · exact .quiet (.refl _)
  · exact .cancelled order cancelled

theorem createOrder_step {config : LocalSimConfig} {meets : Database → Order → ℚ → Prop}
    {traceId orderId : String} {intent : OrderIntent} {w w' : World}
    (run : createOrderFromIntent traceId intent w = .ok orderId w') :
    Step config meets w.db w'.db := by
  obtain ⟨_, -, ⟨_, _, -, -, rfl⟩ | ⟨orders, _, -, inserted, -, rfl⟩⟩ := createOrder_ok run
  · exact .quiet { Quiet.refl w.db with }
  · exact .created (newOrder intent w.serial w.now)
      { inserted := inserted
        status := rfl
        unfilled := rfl
        accounts := rfl
        positions := rfl
        fills := rfl
        cashLedger := rfl
        outboxEvents := rfl }

theorem runRiskCheck_step {localConfig : LocalSimConfig} {meets : Database → Order → ℚ → Prop}
    {config : RiskConfig} {traceId orderId : String} {quote : Option MarketQuote}
    {marketIsOpen : Option Bool} {w w' : World} {decision : RiskDecision}
    (run : runRiskCheck config traceId orderId quote marketIsOpen w = .ok decision w') :
    Step localConfig meets w.db w'.db := by
  obtain ⟨order, approved, _, _, found, created, -, -, rfl⟩ := runRiskCheck_ok run
  obtain rfl : order.orderId = orderId := Table.find?_key found
  refine .restatused order (verdict approved)
    { stored := found
      before := by simp [untraded, created]
      after := by cases approved <;> rfl
      orders := ⟨fun _ => _, rfl⟩
      accounts := rfl
      positions := rfl
      fills := rfl
      cashLedger := rfl
      outboxEvents := ⟨readyEvents traceId order.orderId approved, rfl, ?_⟩ }
  cases approved <;> simp [readyEvents]

end SynapseYield.LocalSim
