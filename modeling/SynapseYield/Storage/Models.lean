import SynapseYield.Domain.Schemas
import SynapseYield.Shared.Table
import Mathlib.Data.List.Pairwise

set_option autoImplicit false

namespace SynapseYield

open Shared

structure Account where
  accountId : String
  baseCurrency : String := "USD"
  cashAvailable : ℚ := 0
  cashFrozen : ℚ := 0
  equity : ℚ := 0
  realizedPnl : ℚ := 0
  unrealizedPnl : ℚ := 0
deriving DecidableEq, Repr

structure Position where
  accountId : String
  symbol : String
  quantity : ℚ := 0
  availableQuantity : ℚ := 0
  avgCost : ℚ := 0
  marketPrice : ℚ := 0
  marketValue : ℚ := 0
  unrealizedPnl : ℚ := 0
deriving DecidableEq, Repr

-- ux_positions_account_symbol
def Position.key (position : Position) : String × String := (position.accountId, position.symbol)

structure StrategySignal where
  signalId : String
  traceId : String
  strategyName : String
  strategyVersion : String
  symbol : String
  side : OrderSide
  confidence : ℚ
  targetQuantity : Decimal
  orderType : OrderType
  limitPrice : Option Decimal
  reason : String

-- The values RiskEngine.check adds to the dump of the intent.
structure RiskSnapshot where
  intent : IntentFields
  estimatedValue : Option ℚ := none
  cashAvailable : Option ℚ := none
  availableQuantity : Option ℚ := none
  realizedPnl : Option ℚ := none
  dailyOrderCount : Option Nat := none
  projectedSymbolPositionRatio : Option ℚ := none
  limitPriceDeviationRatio : Option ℚ := none
  similarOpenOrders : Option Nat := none
  recentSimilarOrders : Option Nat := none
deriving DecidableEq, Repr

structure RiskDecision where
  riskDecisionId : String
  traceId : String
  signalId : Option String
  decision : RiskDecisionStatus
  reasonCode : String
  message : String
  checkedRules : List String
  inputSnapshot : RiskSnapshot

-- The columns copied from the intent, raw_request included, and the state of the order.
structure Order extends OrderIntent where
  orderId : String
  clientOrderId : String
  idempotencyKey : String
  status : OrderStatus := .created
  filledQuantity : ℚ := 0
  brokerOrderId : Option String := none
  avgFillPrice : Option ℚ := none
  riskDecisionId : Option String := none
  createdAt : Int
deriving DecidableEq

structure Fill where
  fillId : String
  orderId : String
  brokerFillId : Option String
  symbol : String
  side : OrderSide
  quantity : ℚ
  price : ℚ
  commission : ℚ
  fillTime : Int
deriving DecidableEq, Repr

structure CashLedger where
  accountId : String
  orderId : Option String
  fillId : Option String
  eventType : String
  amount : ℚ
  currency : String
  balanceAfter : ℚ
deriving DecidableEq, Repr

-- order_id is the order that the snapshots of the row name.
structure AuditLog where
  traceId : String
  actorType : String
  actorName : String
  eventType : String
  orderId : Option String
  previousState : Option OrderStatus
  nextState : Option OrderStatus
deriving DecidableEq, Repr

structure OutboxEvent where
  traceId : String
  eventType : String
  aggregateType : String
  aggregateId : String
  status : OutboxStatus
deriving DecidableEq, Repr

structure BrokerEvent where
  traceId : String
  brokerName : String
  brokerOrderId : Option String
  brokerFillId : Option String := none
  eventType : String
  processedAt : Int
deriving DecidableEq, Repr

structure Database where
  accounts : Table String Account Account.accountId
  positions : Table (String × String) Position Position.key := .empty
  orders : Table String Order Order.orderId := .empty
  fills : List Fill := []
  cashLedger : List CashLedger := []
  auditLogs : List AuditLog := []
  outboxEvents : List OutboxEvent := []
  brokerEvents : List BrokerEvent := []
  riskDecisions : List RiskDecision := []
  strategySignals : List StrategySignal := []

-- The unique columns of orders besides the primary key.
def Database.UniqueColumns (db : Database) : Prop :=
  (db.orders.rows.map Order.idempotencyKey).Nodup ∧
    (db.orders.rows.map Order.clientOrderId).Nodup ∧
    (db.orders.rows.filterMap Order.brokerOrderId).Nodup

instance (db : Database) : Decidable db.UniqueColumns := by
  unfold Database.UniqueColumns
  infer_instance

theorem Database.UniqueColumns.numbered {db : Database} (unique : db.UniqueColumns)
    {order other : Order} (stored : order ∈ db.orders.rows) (present : other ∈ db.orders.rows)
    {brokerOrderId : String} (given : order.brokerOrderId = some brokerOrderId)
    (same : other.brokerOrderId = some brokerOrderId) : other = order := by
  have apart := unique.2.2
  unfold List.Nodup at apart
  rw [List.pairwise_filterMap] at apart
  have symmetric : Std.Symm fun row row' : Order => ∀ b, row.brokerOrderId = some b →
      ∀ b', row'.brokerOrderId = some b' → b ≠ b' :=
    ⟨fun _ _ apart b given b' given' same => apart b' given' b given same.symm⟩
  by_contra different
  exact apart.forall present stored different _ same _ given rfl

theorem Database.uniqueColumns_append {db db' : Database} {order : Order}
    (rows : db'.orders.rows = db.orders.rows ++ [order]) :
    db'.UniqueColumns ↔ db.UniqueColumns ∧
      (∀ row ∈ db.orders.rows, row.idempotencyKey ≠ order.idempotencyKey) ∧
      (∀ row ∈ db.orders.rows, row.clientOrderId ≠ order.clientOrderId) ∧
      ∀ row ∈ db.orders.rows, ∀ brokerOrderId, row.brokerOrderId = some brokerOrderId →
        order.brokerOrderId ≠ some brokerOrderId := by
  unfold Database.UniqueColumns
  rw [rows]
  cases given : order.brokerOrderId with
  | none =>
    simp [List.nodup_append, List.filterMap_append, given]
    tauto
  | some id =>
    simp [List.nodup_append, List.filterMap_append, given]
    tauto

theorem Database.uniqueColumns_modify {db db' : Database} {orderId : String}
    {update : RowUpdate String Order Order.orderId} (number : Option String)
    (unique : db.UniqueColumns) (orders : db'.orders = db.orders.modify orderId update)
    (key : ∀ row, (update.apply row).idempotencyKey = row.idempotencyKey)
    (client : ∀ row, (update.apply row).clientOrderId = row.clientOrderId)
    (numbered : ∀ row, (update.apply row).brokerOrderId = number.or row.brokerOrderId)
    (unused : ∀ given ∈ number, ∀ row ∈ db.orders.rows, row.brokerOrderId ≠ some given) :
    db'.UniqueColumns := by
  unfold Database.UniqueColumns at unique ⊢
  rw [orders, Table.map_modify _ _ _ _ key, Table.map_modify _ _ _ _ client]
  refine ⟨unique.1, unique.2.1, ?_⟩
  have before := unique.2.2
  have ids := db.orders.unique
  unfold List.Nodup at before ids ⊢
  rw [List.pairwise_filterMap] at before ⊢
  rw [List.pairwise_map] at ids
  rw [Table.modify, List.pairwise_map]
  refine (before.and ids).imp_of_mem fun {row row'} member member' distinct => ?_
  obtain ⟨apart, other⟩ := distinct
  cases number with
  | none =>
    have same : ∀ row : Order, (if row.orderId = orderId then update.apply row
        else row).brokerOrderId = row.brokerOrderId := by
      intro row
      split
      next => rw [numbered, Option.none_or]
      next => rfl
    simpa only [same] using apart
  | some given =>
    have free := unused given rfl
    by_cases hit : row.orderId = orderId
    · have miss : row'.orderId ≠ orderId := fun hit' => other (hit.trans hit'.symm)
      simp only [hit, miss, if_true, if_false, numbered, Option.some_or]
      rintro _ ⟨⟩ b' held rfl
      exact free row' member' held
    · by_cases hit' : row'.orderId = orderId
      · simp only [hit, hit', if_true, if_false, numbered, Option.some_or]
        rintro b held _ ⟨⟩ rfl
        exact free row member held
      · simpa only [hit, hit', if_false] using apart

end SynapseYield
