import Mathlib.Tactic.Linarith
import Mathlib.Tactic.Ring
import SynapseYield.Properties.FrozenCash

set_option autoImplicit false

namespace SynapseYield.LocalSim

open Shared OrderService

variable {config : LocalSimConfig} {order : Order} {quote : MarketQuote} {price : ℚ}
  {db db' : Database} {target : OrderStatus}

def ledgerSum (db : Database) (accountId : String) : ℚ :=
  ((db.cashLedger.filter fun row => row.accountId = accountId).map CashLedger.amount).sum

def cashOf (db : Database) (accountId : String) : Option ℚ :=
  (db.accounts.find? accountId).map fun row => row.cashAvailable + row.cashFrozen

theorem filledAccount_cash (order : OrderIntent) (price avgCost : ℚ) (row : Account) :
    (filledAccount config order price avgCost row).cashAvailable +
        (filledAccount config order price avgCost row).cashFrozen =
      row.cashAvailable + row.cashFrozen + cashAmount config order price := by
  by_cases buying : order.side = .buy
  · simp only [filledAccount_buy config price avgCost row buying, boughtAccount, cashAmount,
      buying, if_true]
    ring
  · simp only [filledAccount_sell config price avgCost row buying, soldAccount, cashAmount,
      buying, if_false]
    ring

theorem Accepted.cash (accepted : Accepted config order quote db db') (accountId : String) :
    cashOf db' accountId = cashOf db accountId := by
  rw [cashOf, accepted.accountRow, cashOf, Option.map_map]
  congr 1
  funext row
  by_cases charged : order.side = .buy ∧ order.accountId = accountId <;>
    simp [charged, frozenAccount]

theorem Cancelled.cash (cancelled : Cancelled config order db db') (accountId : String) :
    cashOf db' accountId = cashOf db accountId := by
  rw [cashOf, cancelled.accountRow, cashOf, Option.map_map]
  congr 1
  funext row
  by_cases charged : order.side = .buy ∧ order.accountId = accountId
  · simp only [Function.comp, charged, and_self, if_true, thawedAccount]
    ring
  · simp [charged]

theorem Settled.cash (settled : Settled config order price db db') (accountId : String) :
    cashOf db' accountId = (cashOf db accountId).map
      (· + if order.accountId = accountId then cashAmount config order.toOrderIntent price else 0)
      := by
  rw [cashOf, settled.accountRow, cashOf, Option.map_map, Option.map_map]
  congr 1
  funext row
  by_cases same : order.accountId = accountId
  · simp only [Function.comp, same, if_true, revalued]
    exact filledAccount_cash _ _ _ _
  · simp [same]

theorem Settled.ledger (settled : Settled config order price db db') (accountId : String) :
    ledgerSum db' accountId = ledgerSum db accountId +
      if order.accountId = accountId then cashAmount config order.toOrderIntent price else 0 := by
  obtain ⟨row, _, appended, -, owner, -, amount, -⟩ := settled.cashLedger
  rw [ledgerSum, appended]
  by_cases same : order.accountId = accountId <;> simp [same, owner, amount, ledgerSum]

theorem Accepted.marketValue (accepted : Accepted config order quote db db')
    (accountId : String) : totalMarketValue db' accountId = totalMarketValue db accountId := by
  rw [totalMarketValue_sum, totalMarketValue_sum, accepted.positionSum]
  exact fun _ _ => rfl

theorem Cancelled.marketValue (cancelled : Cancelled config order db db') (accountId : String) :
    totalMarketValue db' accountId = totalMarketValue db accountId := by
  rw [totalMarketValue_sum, totalMarketValue_sum, cancelled.positionSum]
  exact fun _ _ => rfl

theorem Settled.otherMarketValue (settled : Settled config order price db db')
    {accountId : String} (other : order.accountId ≠ accountId) :
    totalMarketValue db' accountId = totalMarketValue db accountId := by
  rw [totalMarketValue_sum, totalMarketValue_sum, settled.positionSum, if_neg other, add_zero]
  exact fun _ _ => rfl

-- equity = cash_available + cash_frozen + the market value of the positions
def Valued (db : Database) : Prop :=
  ∀ accountId account, db.accounts.find? accountId = some account →
    account.equity = account.cashAvailable + account.cashFrozen + totalMarketValue db accountId

theorem Valued.moved (valued : Valued db)
    (values : ∀ accountId, totalMarketValue db' accountId = totalMarketValue db accountId)
    (rows : ∀ accountId account', db'.accounts.find? accountId = some account' →
      ∃ account, db.accounts.find? accountId = some account ∧ account'.equity = account.equity ∧
        account'.cashAvailable + account'.cashFrozen =
          account.cashAvailable + account.cashFrozen) : Valued db' := by
  intro accountId account' found
  obtain ⟨account, found, equity, cash⟩ := rows accountId account' found
  rw [values, equity, cash]
  exact valued accountId account found

theorem Accepted.valued (accepted : Accepted config order quote db db') (valued : Valued db) :
    Valued db' := by
  refine valued.moved accepted.marketValue fun accountId account' found => ?_
  rw [accepted.accountRow] at found
  obtain ⟨account, stored, rfl⟩ := Option.map_eq_some_iff.mp found
  refine ⟨account, stored, ?_⟩
  split <;> simp [frozenAccount]

theorem Cancelled.valued (cancelled : Cancelled config order db db') (valued : Valued db) :
    Valued db' := by
  refine valued.moved cancelled.marketValue fun accountId account' found => ?_
  rw [cancelled.accountRow] at found
  obtain ⟨account, stored, rfl⟩ := Option.map_eq_some_iff.mp found
  refine ⟨account, stored, ?_⟩
  split
  next =>
    simp only [thawedAccount, true_and]
    ring
  next => exact ⟨rfl, rfl⟩

theorem Settled.valued (settled : Settled config order price db db') (valued : Valued db) :
    Valued db' := by
  intro accountId account' found
  rw [settled.accountRow] at found
  obtain ⟨account, stored, rfl⟩ := Option.map_eq_some_iff.mp found
  by_cases same : order.accountId = accountId
  · have owner : account.accountId = accountId := Table.find?_key stored
    simp only [same, if_true, revalued, filledAccount_id, owner]
  · simp only [same, if_false]
    rw [settled.otherMarketValue same]
    exact valued accountId account stored

-- The cash of every account has moved by its ledger rows, one row for each fill.
structure Ledgered (start db : Database) : Prop where
  cash : ∀ accountId, cashOf db accountId = (cashOf start accountId).map
    (· + (ledgerSum db accountId - ledgerSum start accountId))
  rows : db.cashLedger.length + start.fills.length = start.cashLedger.length + db.fills.length
  equity : Valued db

theorem Ledgered.unbooked (inv : Ledgered db db') {next : Database}
    (cash : ∀ accountId, cashOf next accountId = cashOf db' accountId)
    (ledger : next.cashLedger = db'.cashLedger) (fills : next.fills = db'.fills)
    (equity : Valued next) : Ledgered db next := by
  refine ⟨fun accountId => ?_, ?_, equity⟩
  · rw [cash, inv.cash, ledgerSum, ledgerSum, ledgerSum, ledger]
  · rw [ledger, fills]
    exact inv.rows

theorem Ledgered.accepted (inv : Ledgered db db') {next : Database}
    (accepted : Accepted config order quote db' next) : Ledgered db next :=
  inv.unbooked accepted.cash accepted.cashLedger accepted.fills (accepted.valued inv.equity)

theorem Ledgered.settled (inv : Ledgered db db') {next : Database}
    (settled : Settled config order price db' next) : Ledgered db next := by
  refine ⟨fun accountId => ?_, ?_, settled.valued inv.equity⟩
  · rw [settled.cash, inv.cash, settled.ledger, Option.map_map]
    congr 1
    funext cash
    simp only [Function.comp]
    ring
  · obtain ⟨_, _, ledger, -⟩ := settled.cashLedger
    obtain ⟨_, fills, -⟩ := settled.fills
    have rows := inv.rows
    simp only [ledger, fills, List.length_append, List.length_singleton]
    omega

theorem Ledgered.untouched (inv : Ledgered db db') {next : Database}
    (accounts : next.accounts = db'.accounts) (positions : next.positions = db'.positions)
    (ledger : next.cashLedger = db'.cashLedger) (fills : next.fills = db'.fills) :
    Ledgered db next := by
  have cash : ∀ accountId, cashOf next accountId = cashOf db' accountId := by
    simp [cashOf, accounts]
  refine inv.unbooked cash ledger fills fun accountId account found => ?_
  rw [totalMarketValue, positionsOf, positions]
  exact inv.equity accountId account (accounts ▸ found)

theorem Ledgered.step (inv : Ledgered db db') {meets : Database → Order → ℚ → Prop}
    {next : Database} (step : Step config meets db' next) : Ledgered db next := by
  cases step with
  | quiet same =>
    exact inv.untouched same.accounts same.positions same.cashLedger same.fills
  | created order fresh =>
    exact inv.untouched fresh.accounts fresh.positions fresh.cashLedger fresh.fills
  | restatused order target changed =>
    exact inv.untouched changed.accounts changed.positions changed.cashLedger changed.fills
  | rested order quote accepted => exact inv.accepted accepted
  | crossed order submitted quote price accepted matched met settled =>
    exact (inv.accepted accepted).settled settled
  | settled order quote price resting matched met settled => exact inv.settled settled
  | cancelled order cancelled =>
    exact inv.unbooked cancelled.cash cancelled.cashLedger cancelled.fills
      (cancelled.valued inv.equity)

theorem cashLedger_correct {initial : String → ℚ} {w w' : World}
    (run : Run (Allowed config anyFill) w w')
    (cash : ∀ accountId account, w.db.accounts.find? accountId = some account →
      account.cashAvailable + account.cashFrozen = initial accountId + ledgerSum w.db accountId)
    (equity : Valued w.db) :
    (∀ accountId account, w'.db.accounts.find? accountId = some account →
      account.cashAvailable + account.cashFrozen =
        initial accountId + ledgerSum w'.db accountId) ∧
    (∀ accountId account, w'.db.accounts.find? accountId = some account →
      account.equity =
        account.cashAvailable + account.cashFrozen + totalMarketValue w'.db accountId) ∧
    w'.db.cashLedger.length + w.db.fills.length = w.db.cashLedger.length + w'.db.fills.length ∧
    (∀ traceId orderId price before after,
      applyFill config traceId orderId price before = .ok () after →
      ∃ row account, after.db.cashLedger = before.db.cashLedger ++ [row] ∧
        after.db.accounts.find? row.accountId = some account ∧
        row.balanceAfter = account.cashAvailable) := by
  have inv : Ledgered w.db w'.db := (run_steps run).keeps (fun _ _ step inv => inv.step step)
    ⟨fun accountId => by simp, rfl, equity⟩
  refine ⟨fun accountId account found => ?_, inv.equity, inv.rows, ?_⟩
  · have moved := inv.cash accountId
    simp only [cashOf, found, Option.map_some] at moved
    obtain ⟨total, start, same⟩ := Option.map_eq_some_iff.mp moved.symm
    obtain ⟨old, stored, rfl⟩ := Option.map_eq_some_iff.mp start
    rw [← same, cash accountId old stored]
    ring
  · intro traceId orderId price before after filling
    obtain ⟨order, -, settled⟩ := applyFill_ok filling
    obtain ⟨row, account, appended, found, owner, -, -, balance⟩ := settled.cashLedger
    exact ⟨row, account, appended, owner ▸ found, balance⟩

def filledBuy : World := perform (.processQuote {} {} "t" (quoteAt 90)) restingBuy

theorem filledBuy_run : Run (Allowed {} anyFill) (cashOnly 5000) filledBuy :=
  restingBuy_run.followed _ ⟨rfl, fillsMeet_any _ _ _ _ _⟩

theorem cashLedger_correct_filled :
    ∃ account, filledBuy.db.accounts.find? "acct" = some account ∧
      account.cashAvailable + account.cashFrozen = 5000 + ledgerSum filledBuy.db "acct" := by
  have kept : (filledBuy.db.accounts.find? "acct").isSome = true := by decide +kernel
  obtain ⟨account, found⟩ := Option.isSome_iff_exists.mp kept
  have correct := @cashLedger_correct _ (fun _ => 5000) _ _ filledBuy_run
    (by simp [cashOnly, Table.find?, ledgerSum])
    (by simp [Valued, cashOnly, Table.find?, totalMarketValue, positionsOf, Table.empty])
  exact ⟨account, found, correct.1 "acct" account found⟩

example : ledgerSum filledBuy.db "acct" = -900 := by decide +kernel

end SynapseYield.LocalSim

namespace SynapseYield.LocalSim

open Shared OrderService

variable {config : LocalSimConfig} {order : Order} {quote : MarketQuote} {price : ℚ}
  {db db' : Database} {target : OrderStatus}

def fillsOf (db : Database) (orderId : String) : List Fill :=
  db.fills.filter fun fill => fill.orderId = orderId

def ledgerOf (db : Database) (orderId : String) : List CashLedger :=
  db.cashLedger.filter fun row => row.orderId = some orderId

def filledEvents (db : Database) (orderId : String) : List OutboxEvent :=
  db.outboxEvents.filter fun event =>
    event.eventType = "ORDER_FILLED" ∧ event.aggregateId = orderId

structure Unsettled (db : Database) (orderId : String) : Prop where
  fills : fillsOf db orderId = []
  ledger : ledgerOf db orderId = []
  events : filledEvents db orderId = []

structure SettledOnce (db : Database) (order : Order) : Prop where
  fill : ∃ fill, fillsOf db order.orderId = [fill] ∧ fill.quantity = order.quantity.value
  quantity : order.filledQuantity = order.quantity.value
  ledger : (ledgerOf db order.orderId).length = 1
  events : (filledEvents db order.orderId).length = 1

def Exact (db : Database) (orderId : String) : Prop :=
  match db.orders.find? orderId with
  | none => Unsettled db orderId
  | some order =>
    if order.status = .filled then SettledOnce db order
    else Unsettled db orderId ∧ order.filledQuantity = 0

structure SameRecords (db db' : Database) (orderId : String) : Prop where
  fills : fillsOf db' orderId = fillsOf db orderId
  ledger : ledgerOf db' orderId = ledgerOf db orderId
  events : filledEvents db' orderId = filledEvents db orderId

theorem SameRecords.unsettled {orderId : String} (same : SameRecords db db' orderId)
    (unsettled : Unsettled db orderId) : Unsettled db' orderId :=
  ⟨same.fills.trans unsettled.fills, same.ledger.trans unsettled.ledger,
    same.events.trans unsettled.events⟩

theorem filledEvents_quiet {orderId : String} {events : List OutboxEvent}
    (grown : db'.outboxEvents = db.outboxEvents ++ events)
    (quiet : ∀ event ∈ events, event.eventType ≠ "ORDER_FILLED") :
    filledEvents db' orderId = filledEvents db orderId := by
  have none : events.filter (fun event =>
      decide (event.eventType = "ORDER_FILLED" ∧ event.aggregateId = orderId)) = [] := by
    rw [List.filter_eq_nil_iff]
    intro event member
    simp [quiet event member]
  rw [filledEvents, grown, List.filter_append, none, List.append_nil]
  rfl

theorem sameRecords_of_tables {events : List OutboxEvent} (orderId : String)
    (fills : db'.fills = db.fills) (ledger : db'.cashLedger = db.cashLedger)
    (grown : db'.outboxEvents = db.outboxEvents ++ events)
    (quiet : ∀ event ∈ events, event.eventType ≠ "ORDER_FILLED") :
    SameRecords db db' orderId where
  fills := by rw [fillsOf, fills]; rfl
  ledger := by rw [ledgerOf, ledger]; rfl
  events := filledEvents_quiet grown quiet

theorem Exact.kept {orderId : String} (exact : Exact db orderId)
    (same : SameRecords db db' orderId)
    (row : db'.orders.find? orderId = db.orders.find? orderId) : Exact db' orderId := by
  unfold Exact at exact ⊢
  rw [row]
  cases found : db.orders.find? orderId with
  | none =>
    rw [found] at exact
    exact same.unsettled exact
  | some order =>
    have named : order.orderId = orderId := Table.find?_key found
    subst named
    simp only [found] at exact ⊢
    split at exact
    next filled =>
      rw [if_pos filled]
      exact ⟨by rw [same.fills]; exact exact.fill, exact.quantity,
        by rw [same.ledger]; exact exact.ledger, by rw [same.events]; exact exact.events⟩
    next unfilled =>
      rw [if_neg unfilled]
      exact ⟨same.unsettled exact.1, exact.2⟩

theorem Exact.unfilled (exact : Exact db order.orderId)
    (stored : db.orders.find? order.orderId = some order) (open' : order.status ≠ .filled) :
    Unsettled db order.orderId ∧ order.filledQuantity = 0 := by
  simp only [Exact, stored, open', if_false] at exact
  exact exact

theorem Exact.moved {update : RowUpdate String Order Order.orderId}
    (exact : ∀ orderId, Exact db orderId)
    (stored : db.orders.find? order.orderId = some order)
    (orders : db'.orders = db.orders.modify order.orderId update)
    (same : ∀ orderId, SameRecords db db' orderId) (before : order.status ≠ .filled)
    (after : (update.apply order).status ≠ .filled)
    (quantity : (update.apply order).filledQuantity = order.filledQuantity) :
    ∀ orderId, Exact db' orderId := by
  intro orderId
  by_cases hit : orderId = order.orderId
  · subst hit
    obtain ⟨unsettled, unfilled⟩ := (exact order.orderId).unfilled stored before
    unfold Exact
    rw [orders, Table.find?_modify_self, stored, Option.map_some]
    simp only [after, if_false]
    exact ⟨(same order.orderId).unsettled unsettled, quantity.trans unfilled⟩
  · apply (exact orderId).kept (same orderId)
    rw [orders, Table.find?_modify_other _ _ hit]

theorem Accepted.exact (accepted : Accepted config order quote db db')
    (exact : ∀ orderId, Exact db orderId) : ∀ orderId, Exact db' orderId := by
  obtain ⟨_, orders⟩ := accepted.orders
  refine Exact.moved exact accepted.stored orders (fun orderId => ?_) ?_ ?_ rfl
  · exact @sameRecords_of_tables _ _ [] orderId accepted.fills accepted.cashLedger
      (by simp [accepted.outboxEvents]) (by simp)
  · simp [accepted.approved]
  · simp

theorem Settled.sameRecords (settled : Settled config order price db db') {orderId : String}
    (other : orderId ≠ order.orderId) : SameRecords db db' orderId := by
  obtain ⟨fill, fills, filledOrder, -⟩ := settled.fills
  obtain ⟨row, _, ledger, -, -, booked, -⟩ := settled.cashLedger
  obtain ⟨filled, updated, events, -, filledId, updatedType⟩ := settled.outboxEvents
  have others : ¬ order.orderId = orderId := fun same => other same.symm
  refine ⟨?_, ?_, ?_⟩
  · simp [fillsOf, fills, filledOrder, others]
  · simp [ledgerOf, ledger, booked, others]
  · simp [filledEvents, events, filledId, updatedType, others]

theorem Settled.exact (settled : Settled config order price db db')
    (submitted : order.status = .submitted) (exact : ∀ orderId, Exact db orderId) :
    ∀ orderId, Exact db' orderId := by
  intro orderId
  by_cases hit : orderId = order.orderId
  · subst hit
    obtain ⟨unsettled, -⟩ := (exact order.orderId).unfilled settled.stored (by simp [submitted])
    obtain ⟨fill, fills, filledOrder, -, -, quantity, -⟩ := settled.fills
    obtain ⟨row, _, ledger, -, -, booked, -⟩ := settled.cashLedger
    obtain ⟨filled, updated, events, filledType, filledId, updatedType⟩ := settled.outboxEvents
    have grownFills : fillsOf db' order.orderId = fillsOf db order.orderId ++ [fill] := by
      simp [fillsOf, fills, filledOrder]
    have grownLedger : ledgerOf db' order.orderId = ledgerOf db order.orderId ++ [row] := by
      simp [ledgerOf, ledger, booked]
    have grownEvents :
        filledEvents db' order.orderId = filledEvents db order.orderId ++ [filled] := by
      simp [filledEvents, events, filledType, filledId, updatedType]
    unfold Exact
    rw [settled.orders, Table.find?_modify_self, settled.stored, Option.map_some]
    simp only [if_true]
    refine ⟨⟨fill, ?_, quantity⟩, rfl, ?_, ?_⟩
    · rw [grownFills, unsettled.fills, List.nil_append]
    · rw [grownLedger, unsettled.ledger, List.nil_append, List.length_singleton]
    · rw [grownEvents, unsettled.events, List.nil_append, List.length_singleton]
  · apply (exact orderId).kept (settled.sameRecords hit)
    rw [settled.orders, Table.find?_modify_other _ _ hit]

theorem Exact.step (exact : ∀ orderId, Exact db orderId)
    {meets : Database → Order → ℚ → Prop} (step : Step config meets db db') :
    ∀ orderId, Exact db' orderId := by
  cases step with
  | quiet same =>
    obtain ⟨_, grown, quiet⟩ := same.outboxEvents
    exact fun orderId => (exact orderId).kept
      (sameRecords_of_tables orderId same.fills same.cashLedger grown quiet) (by rw [same.orders])
  | created order fresh =>
    intro orderId
    have same : SameRecords db db' orderId := @sameRecords_of_tables _ _ [] orderId
      fresh.fills fresh.cashLedger (by simp [fresh.outboxEvents]) (by simp)
    by_cases hit : orderId = order.orderId
    · subst hit
      have unused := ((Table.insert?_eq_some _ _ _).mp fresh.inserted).1
      have missing : db.orders.find? order.orderId = none := by
        rw [Table.find?_eq_none]
        exact fun row stored used => unused (List.mem_map.mpr ⟨row, stored, used⟩)
      have before := exact order.orderId
      simp only [Exact, missing] at before
      simp only [Exact, Table.find?_insert fresh.inserted, if_true, fresh.status, reduceCtorEq,
        if_false]
      exact ⟨same.unsettled before, fresh.unfilled⟩
    · apply (exact orderId).kept same
      rw [Table.find?_insert fresh.inserted, if_neg hit]
  | restatused order target changed =>
    obtain ⟨_, orders⟩ := changed.orders
    obtain ⟨_, grown, quiet⟩ := changed.outboxEvents
    have before := changed.before
    have after := changed.after
    simp only [untraded, decide_eq_true_eq] at before after
    exact Exact.moved exact changed.stored orders
      (fun orderId => sameRecords_of_tables orderId changed.fills changed.cashLedger grown quiet)
      before.2 after.2 rfl
  | rested order quote accepted => exact accepted.exact exact
  | crossed order submitted quote price accepted matched met settled same =>
    obtain ⟨_, rfl⟩ := accepted.submitted (same ▸ settled.stored)
    exact settled.exact rfl (accepted.exact exact)
  | settled order quote price resting matched met settled => exact settled.exact resting exact
  | cancelled order cancelled =>
    obtain ⟨event, grown, kind⟩ := cancelled.outboxEvents
    refine Exact.moved exact cancelled.stored cancelled.orders (fun orderId => ?_) ?_ ?_ rfl
    · exact sameRecords_of_tables orderId cancelled.fills cancelled.cashLedger grown
        (by simp [kind])
    · simp [cancelled.submitted]
    · simp

theorem settlement_correct {w w' : World} (run : Run (Allowed config anyFill) w w')
    (start : ∀ orderId, Exact w.db orderId) :
    ∀ order ∈ w'.db.orders.rows,
      (order.status = .filled →
        (∃ fill, fillsOf w'.db order.orderId = [fill] ∧ fill.quantity = order.quantity.value) ∧
        order.filledQuantity = order.quantity.value ∧
        (ledgerOf w'.db order.orderId).length = 1 ∧
        (filledEvents w'.db order.orderId).length = 1) ∧
      (order.status ≠ .filled →
        fillsOf w'.db order.orderId = [] ∧ ledgerOf w'.db order.orderId = [] ∧
        filledEvents w'.db order.orderId = [] ∧ order.filledQuantity = 0) := by
  have exact : ∀ orderId, Exact w'.db orderId :=
    (run_steps run).keeps (fun _ _ step exact => Exact.step exact step) start
  intro order member
  have found := Table.find?_of_mem member
  have rows := exact order.orderId
  simp only [Exact, found] at rows
  constructor
  · intro filled
    rw [if_pos filled] at rows
    exact ⟨rows.fill, rows.quantity, rows.ledger, rows.events⟩
  · intro unfilled
    rw [if_neg unfilled] at rows
    exact ⟨rows.1.fills, rows.1.ledger, rows.1.events, rows.2⟩

theorem settlement_correct_filled :
    ∃ order ∈ filledBuy.db.orders.rows, order.status = .filled ∧
      (ledgerOf filledBuy.db order.orderId).length = 1 := by
  have stored : ∃ order ∈ filledBuy.db.orders.rows, order.status = .filled := by decide +kernel
  obtain ⟨order, member, filled⟩ := stored
  have settled := settlement_correct filledBuy_run (fun _ => by exact ⟨rfl, rfl, rfl⟩) order member
  exact ⟨order, member, filled, (settled.1 filled).2.2.1⟩

example : filledBuy.db.orders.rows.map Order.status = [.filled] := by decide +kernel

end SynapseYield.LocalSim
