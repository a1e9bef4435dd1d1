import SynapseYield.Broker.LocalOperations
import SynapseYield.Harness.TradeExecutor

set_option autoImplicit false

namespace SynapseYield

open Shared OrderService

inductive Broker where
  | localSim (config : LocalSimConfig)
  | longbridge (broker : LongbridgeBroker)

def Broker.adapter : Broker → BrokerAdapter
  | .localSim config => LocalSim.adapter config
  | .longbridge broker => Longbridge.adapter broker

-- The calls a caller of the harness can make; elapse moves the clock between calls.
inductive Operation where
  | createOrder (traceId : String) (intent : OrderIntent)
  | runRiskCheck (config : RiskConfig) (traceId orderId : String) (quote : Option MarketQuote)
      (marketIsOpen : Option Bool)
  | transitionOrder (traceId orderId : String) (target : OrderStatus) (eventType : String)
  | recordEvent (traceId eventType orderId : String)
  | enqueueEvent (traceId eventType aggregateType aggregateId : String)
  | submitOrder (broker : Broker) (traceId orderId : String) (quote : MarketQuote)
  | processQuote (config : LocalSimConfig) (rowOrder : RowOrder) (traceId : String)
      (quote : MarketQuote)
  | cancelOrder (broker : Broker) (traceId orderId : String)
  | handleOrderEvent (broker : LongbridgeBroker) (payload : Longbridge.Payload)
      (traceId : Option String)
  | execute (broker : Broker) (executor : TradeExecutor) (proposal : LLMTradeProposal)
      (decision : HumanApprovalDecision) (accountId : String) (traceId threadId : Option String)
      (marketIsOpen : Option Bool)
  | elapse (now : Int)

-- What an operation does in the session of its caller; execute opens one of its own.
def Operation.body : Operation → Exec Unit
  | .createOrder traceId intent => discarded (createOrderFromIntent traceId intent)
  | .runRiskCheck config traceId orderId quote marketIsOpen =>
    discarded (OrderService.runRiskCheck config traceId orderId quote marketIsOpen)
  | .transitionOrder traceId orderId target eventType =>
    OrderService.transitionOrder traceId orderId target eventType
  | .recordEvent traceId eventType orderId => OrderService.recordEvent traceId eventType orderId
  | .enqueueEvent traceId eventType aggregateType aggregateId =>
    OrderService.enqueueEvent traceId eventType aggregateType aggregateId
  | .submitOrder broker traceId orderId quote =>
    discarded (broker.adapter.submitOrder traceId orderId quote)
  | .processQuote config rowOrder traceId quote =>
    discarded (LocalSim.processQuote config rowOrder traceId quote)
  | .cancelOrder broker traceId orderId => discarded (broker.adapter.cancelOrder traceId orderId)
  | .handleOrderEvent broker payload traceId =>
    discarded (Longbridge.handleOrderEvent broker payload traceId)
  | .execute .. => pure ()
  | .elapse _ => pure ()

def perform : Operation → World → World
  | .execute broker executor proposal decision accountId traceId threadId marketIsOpen, w =>
    leaves ({ executor with broker := broker.adapter }.execute proposal decision accountId traceId
      threadId marketIsOpen w)
  | .elapse now, w => { w with now }
  | operation, w => leaves (transaction operation.body w)

def Run (allowed : Operation → World → Prop) : World → World → Prop :=
  Relation.ReflTransGen fun w w' => ∃ operation, allowed operation w ∧ w' = perform operation w

-- Calls that share a session. A caller may catch what one of them raises and make the next.
def Calls : World → World → Prop :=
  Relation.ReflTransGen fun w w' => ∃ operation : Operation, w' = leaves (operation.body w)

-- The units of work, also those that make several calls before they commit or roll back.
inductive UnitOfWork : World → World → Prop where
  | performed (operation : Operation) (w : World) : UnitOfWork w (perform operation w)
  | committed {w w' : World} (calls : Calls w.opened w') (unique : w'.db.UniqueColumns) :
      UnitOfWork w { w' with unflushed := [] }
  | rolledBack {w w' : World} (calls : Calls w.opened w') :
      UnitOfWork w { w' with db := w.db, unflushed := [] }

theorem Run.followed {allowed : Operation → World → Prop} {w w' : World}
    (run : Run allowed w w') (operation : Operation) (allow : allowed operation w') :
    Run allowed w (perform operation w') :=
  .tail run ⟨operation, allow, rfl⟩

theorem Run.works {allowed : Operation → World → Prop} {w w' : World} (run : Run allowed w w') :
    Relation.ReflTransGen UnitOfWork w w' := by
  induction run with
  | refl => exact .refl
  | tail _ last ih =>
    obtain ⟨operation, -, rfl⟩ := last
    exact ih.tail (.performed operation _)

theorem Run.keeps {allowed : Operation → World → Prop} {inv : World → Prop} {w w' : World}
    (run : Run allowed w w')
    (step : ∀ operation w, allowed operation w → inv w → inv (perform operation w))
    (start : inv w) : inv w' := by
  induction run with
  | refl => exact start
  | tail _ last ih =>
    obtain ⟨operation, allow, rfl⟩ := last
    exact step operation _ allow ih

-- A relation between databases that a returning call establishes also covers the raising one.
theorem transaction_relates {α : Type} {body : Exec α} {w : World}
    {relates : Database → Database → Prop} (same : relates w.db w.db)
    (returns : ∀ result w', body w.opened = .ok result w' → relates w.opened.db w'.db) :
    relates w.db (leaves (transaction body w)).db := by
  cases run : transaction body w with
  | ok result w' =>
    obtain ⟨mid, inner, -, rfl⟩ := transaction_ok run
    exact returns result mid inner
  | error raised w' =>
    obtain ⟨mid, -, rfl⟩ := transaction_error run
    exact same

namespace LocalSim

-- The calls around one simulator, every fill among them under a condition.
def Allowed (config : LocalSimConfig) (meets : Database → Order → ℚ → Prop) :
    Operation → World → Prop
  | .createOrder _ _, _ => True
  | .runRiskCheck _ _ _ _ _, _ => True
  | .submitOrder (.localSim used) _ orderId quote, w =>
    used = config ∧ SubmitMeets meets orderId quote w.opened
  | .processQuote used rowOrder traceId quote, w =>
    used = config ∧ QuoteMeets meets config rowOrder traceId quote w.opened
  | .cancelOrder (.localSim used) _ _, _ => used = config
  | .elapse _, _ => True
  | _, _ => False

theorem perform_steps {config : LocalSimConfig} {meets : Database → Order → ℚ → Prop}
    {operation : Operation} {w : World} (allowed : Allowed config meets operation w) :
    Steps config meets w.db (perform operation w).db := by
  cases operation with
  | createOrder traceId intent =>
    refine transaction_relates .refl fun _ _ run => ?_
    obtain ⟨_, run⟩ := discarded_ok.mp run
    exact .single (createOrder_step run)
  | runRiskCheck riskConfig traceId orderId quote marketIsOpen =>
    refine transaction_relates .refl fun _ _ run => ?_
    obtain ⟨_, run⟩ := discarded_ok.mp run
    exact .single (runRiskCheck_step run)
  | submitOrder broker traceId orderId quote =>
    cases broker with
    | localSim used =>
      obtain ⟨rfl, met⟩ := allowed
      refine transaction_relates .refl fun _ _ run => ?_
      obtain ⟨_, run⟩ := discarded_ok.mp run
      exact .single (submitOrder_step run met)
    | longbridge => exact allowed.elim
  | processQuote used rowOrder traceId quote =>
    obtain ⟨rfl, met⟩ := allowed
    refine transaction_relates .refl fun _ _ run => ?_
    obtain ⟨_, run⟩ := discarded_ok.mp run
    exact processQuote_steps run met
  | cancelOrder broker traceId orderId =>
    cases broker with
    | localSim used =>
      obtain rfl := allowed
      refine transaction_relates .refl fun _ _ run => ?_
      obtain ⟨_, run⟩ := discarded_ok.mp run
      exact .single (cancelOrder_step run)
    | longbridge => exact allowed.elim
  | elapse now => exact .refl
  | transitionOrder | recordEvent | enqueueEvent | handleOrderEvent | execute =>
    exact allowed.elim

theorem Steps.keeps {config : LocalSimConfig} {meets : Database → Order → ℚ → Prop}
    {inv : Database → Prop} {db db' : Database} (steps : Steps config meets db db')
    (step : ∀ db db', Step config meets db db' → inv db → inv db') (start : inv db) : inv db' := by
  induction steps with
  | refl => exact start
  | tail _ last ih => exact step _ _ last ih

theorem run_steps {config : LocalSimConfig} {meets : Database → Order → ℚ → Prop} {w w' : World}
    (run : Run (Allowed config meets) w w') : Steps config meets w.db w'.db := by
  induction run with
  | refl => exact .refl
  | tail _ last ih =>
    obtain ⟨operation, allowed, rfl⟩ := last
    exact ih.trans (perform_steps allowed)

end LocalSim

-- One account with cash and nothing else, and the inputs of the small runs on it.
def cashOnly (cash : ℚ) : World where
  db := { accounts := ⟨[{ accountId := "acct", cashAvailable := cash, equity := cash }], by simp⟩ }

theorem ten_pos : 0 < 10 := by decide

theorem fifty_pos : 0 < 50 := by decide

theorem ninety_pos : 0 < 90 := by decide

theorem hundred_pos : 0 < 100 := by decide

def quoteAt (price : ℕ)
    (positive : 0 < price := by first | exact hundred_pos | exact ninety_pos | decide) :
    MarketQuote where
  symbol := "AAPL.US"
  lastPrice := price
  last_pos := Nat.cast_pos.mpr positive
  bid_pos := by simp
  ask_pos := by simp

def wholeShares (quantity : ℕ) : Decimal := { coefficient := quantity, exponent := 0 }

theorem no_price_pos : ∀ price ∈ (none : Option Decimal), 0 < price.value := by simp

theorem wholeShares_value (quantity : ℕ) : (wholeShares quantity).value = quantity := by
  simp [wholeShares, Decimal.value]

-- A proposal to buy ten shares at 100, with the prices of its children.
def buyTen (takeProfitPrice stopLossPrice : Option Decimal) : LLMTradeProposal where
  action := .buy
  symbol := "AAPL.US"
  confidence := 1
  quantity := wholeShares 10
  orderType := .limit
  limitPrice := some (wholeShares 100)
  takeProfitPrice := takeProfitPrice
  stopLossPrice := stopLossPrice
  rationale := "breakout"
  symbol_nonempty := by decide
  confidence_range := by simp
  quantity_nonneg := by simp [wholeShares_value]
  rationale_nonempty := by decide
  hold_idle := nofun
  trade_quantity := by simp [wholeShares_value]
  trade_limit := by simp

def reviewed : HumanApprovalDecision where
  approved := true
  reviewer := "user"
  reviewer_nonempty := by decide

def TradeExecutor.simulated : TradeExecutor where
  broker := LocalSim.adapter {}

def limitIntent (side : OrderSide) (orderType : OrderType) (quantity limit : ℕ)
    (someShares : 0 < quantity := by exact ten_pos)
    (priced : 0 < limit := by first | exact hundred_pos | exact fifty_pos | decide) : OrderIntent where
  accountId := "acct"
  symbol := "AAPL.US"
  side := side
  orderType := orderType
  quantity := wholeShares quantity
  limitPrice := some (wholeShares limit)
  quantity_pos := by simpa [wholeShares_value] using someShares
  limit_pos := by simpa [wholeShares_value] using priced
  trigger_pos := by simp
  limit_required := by simp

end SynapseYield
