import SynapseYield.Shared.Program
import SynapseYield.Storage.Models

set_option autoImplicit false

namespace SynapseYield

open Shared

structure LongbridgeSubmitRequest where
  clientOrderId : String
  symbol : String
  side : OrderSide
  orderType : OrderType
  quantity : Decimal
  timeInForce : TimeInForce
  limitPrice : Option Decimal := none
  triggerPrice : Option Decimal := none
deriving DecidableEq, Repr

-- unknown is a TimeoutError or ConnectionError, refused any other exception.
inductive SubmitOutcome where
  | accepted (brokerOrderId : String)
  | unknown (error : String)
  | refused (error : String)
deriving DecidableEq, Repr

structure GatewayCall where
  request : LongbridgeSubmitRequest
  outcome : SubmitOutcome
deriving DecidableEq, Repr

-- A query without ORDER BY returns its rows in an order the database chooses.
structure RowOrder where
  arrange : List Order → List Order := id
  perm : ∀ rows, (arrange rows).Perm rows := by intro rows; exact List.Perm.refl rows

-- What a session works on. Only db and unflushed belong to the database
-- transaction; new ids, the clock and requests already sent are never rolled back.
structure World where
  db : Database
  unflushed : List String := []
  autoflush : Bool := false
  serial : Nat := 0
  now : Int := 0
  gatewayCalls : List GatewayCall := []

abbrev Exec (α : Type) := EStateM PyException World α

-- uuid4().hex is the number of ids drawn before.
def idText (idPrefix : String) (serial : Nat) : String := idPrefix ++ "_" ++ toString serial

def newId (idPrefix : String) : Exec String := do
  let w ← get
  set { w with serial := w.serial + 1 }
  return idText idPrefix w.serial

-- trace_id or new_id(prefix)
def orNewId (given : Option String) (idPrefix : String) : Exec String :=
  match given with
  | some id => if id = "" then newId idPrefix else pure id
  | none => newId idPrefix

def resolvedId (given : Option String) (idPrefix : String) (serial : Nat) : String :=
  match given with
  | some id => if id = "" then idText idPrefix serial else id
  | none => idText idPrefix serial

theorem idText_injective (idPrefix : String) {m n : Nat} (same : idText idPrefix m = idText idPrefix n) :
    m = n := by
  have repr : m.repr = n.repr := (String.append_right_inj _).mp same
  have digits : Nat.toDigits 10 m = Nat.toDigits 10 n := by
    rw [← Nat.toList_repr, ← Nat.toList_repr, repr]
  rw [← Nat.ofDigitChars_ten_toDigits (n := m), digits, Nat.ofDigitChars_ten_toDigits]

def flush : Exec Unit := do
  let w ← get
  if w.db.UniqueColumns then set { w with unflushed := [] }
  else throw (.integrityError "orders")

-- A query of a session created with autoflush first sends the pending rows.
def autoflush : Exec Unit := do
  let w ← get
  if w.autoflush then flush else pure ()

-- A new session on the database: nothing is pending.
def World.opened (w : World) : World := { w with unflushed := [] }

-- One unit of work: commit at the end, rollback when anything raises.
def transaction {α : Type} (body : Exec α) : Exec α := fun w =>
  match (do let result ← body; flush; pure result : Exec α) w.opened with
  | .ok result w' => .ok result w'
  | .error raised w' => .error raised { w' with db := w.db, unflushed := [] }

def liftExcept {α : Type} : Except PyException α → Exec α
  | .ok a => pure a
  | .error raised => throw raised

def getOrder (orderId : String) : Exec Order := do
  let w ← get
  match w.db.orders.find? orderId with
  | some order => pure order
  | none => throw (.noSuchRow "orders")

def addOrder (order : Order) : Exec Unit := do
  let w ← get
  match w.db.orders.insert? order with
  | some orders =>
    set { w with db := { w.db with orders }, unflushed := w.unflushed ++ [order.orderId] }
  | none => throw (.integrityError "orders.order_id")

def updateOrder (orderId : String) (f : Order → Order)
    (keeps : ∀ order, (f order).orderId = order.orderId := by intro _; rfl) : Exec Unit :=
  modify fun w => { w with
    db := { w.db with orders := w.db.orders.modify orderId { apply := f, keeps } } }

def updateAccount (accountId : String) (f : Account → Account)
    (keeps : ∀ account, (f account).accountId = account.accountId := by intro _; rfl) :
    Exec Unit :=
  modify fun w => { w with
    db := { w.db with accounts := w.db.accounts.modify accountId { apply := f, keeps } } }

def updatePosition (key : String × String) (f : Position → Position)
    (keeps : ∀ position, (f position).key = position.key := by intro _; rfl) : Exec Unit :=
  modify fun w => { w with
    db := { w.db with positions := w.db.positions.modify key { apply := f, keeps } } }

def addFill (fill : Fill) : Exec Unit :=
  modify fun w => { w with db := { w.db with fills := w.db.fills ++ [fill] } }

def addCashLedger (row : CashLedger) : Exec Unit :=
  modify fun w => { w with db := { w.db with cashLedger := w.db.cashLedger ++ [row] } }

def addAuditLog (row : AuditLog) : Exec Unit :=
  modify fun w => { w with db := { w.db with auditLogs := w.db.auditLogs ++ [row] } }

def addOutboxEvent (row : OutboxEvent) : Exec Unit :=
  modify fun w => { w with db := { w.db with outboxEvents := w.db.outboxEvents ++ [row] } }

def addBrokerEvent (row : BrokerEvent) : Exec Unit :=
  modify fun w => { w with db := { w.db with brokerEvents := w.db.brokerEvents ++ [row] } }

def addRiskDecision (row : RiskDecision) : Exec Unit :=
  modify fun w => { w with db := { w.db with riskDecisions := w.db.riskDecisions ++ [row] } }

def addStrategySignal (row : StrategySignal) : Exec Unit :=
  modify fun w => { w with db := { w.db with strategySignals := w.db.strategySignals ++ [row] } }

theorem newId_ok {idPrefix id : String} {w w' : World} :
    newId idPrefix w = .ok id w' ↔
      id = idText idPrefix w.serial ∧ w' = { w with serial := w.serial + 1 } := by
  simp only [newId, bind_run, get_run, set_run, pure, EStateM.pure, EStateM.Result.ok.injEq]
  constructor <;> rintro ⟨rfl, rfl⟩ <;> exact ⟨rfl, rfl⟩

theorem orNewId_run (given : Option String) (idPrefix : String) (w : World) :
    ∃ serial, w.serial ≤ serial ∧
      orNewId given idPrefix w = .ok (resolvedId given idPrefix w.serial) { w with serial } := by
  cases given with
  | none => exact ⟨_, Nat.le_succ _, newId_ok.mpr ⟨rfl, rfl⟩⟩
  | some id =>
    simp only [orNewId, resolvedId]
    split
    next => exact ⟨_, Nat.le_succ _, newId_ok.mpr ⟨rfl, rfl⟩⟩
    next => exact ⟨w.serial, le_rfl, rfl⟩

theorem flush_ok {w w' : World} {u : Unit} :
    flush w = .ok u w' ↔ w.db.UniqueColumns ∧ w' = { w with unflushed := [] } := by
  simp only [flush, bind_run, get_run]
  by_cases unique : w.db.UniqueColumns
  · simp only [unique, if_true, true_and, set_run,
      EStateM.Result.ok.injEq]
    exact eq_comm
  · simp only [unique, if_false, false_and, iff_false]
    exact throw_ok

theorem liftExcept_ok {α : Type} {x : Except PyException α} {a : α} {w w' : World} :
    liftExcept x w = .ok a w' ↔ x = .ok a ∧ w = w' := by
  cases x with
  | ok b => simp only [liftExcept, pure_ok, Except.ok.injEq]
  | error raised => simp [liftExcept, throw_ok]

theorem getOrder_ok {orderId : String} {order : Order} {w w' : World} :
    getOrder orderId w = .ok order w' ↔ w.db.orders.find? orderId = some order ∧ w = w' := by
  simp only [getOrder, bind_run, get_run]
  cases found : w.db.orders.find? orderId with
  | some stored => simp only [pure_ok, Option.some.injEq]
  | none => simp [throw_ok]

theorem getOrder_error {orderId : String} {raised : PyException} {w w' : World}
    (run : getOrder orderId w = .error raised w') : w' = w := by
  rw [getOrder, bind_run] at run
  cases found : w.db.orders.find? orderId with
  | some order => simp [get_run, found, pure, EStateM.pure] at run
  | none =>
    simp only [get_run, found] at run
    cases run
    rfl

theorem addOrder_ok {order : Order} {w w' : World} {u : Unit} :
    addOrder order w = .ok u w' ↔ ∃ orders, w.db.orders.insert? order = some orders ∧
      w' = { w with
        db := { w.db with orders }
        unflushed := w.unflushed ++ [order.orderId] } := by
  simp only [addOrder, bind_run, get_run]
  cases inserted : w.db.orders.insert? order with
  | some orders =>
    simp only [set_run, EStateM.Result.ok.injEq]
    constructor
    · rintro ⟨-, rfl⟩
      exact ⟨orders, rfl, rfl⟩
    · rintro ⟨_, same, rfl⟩
      cases same
      exact ⟨trivial, rfl⟩
  | none => simp [throw_ok]

theorem addOrder_error {order : Order} {raised : PyException} {w w' : World}
    (run : addOrder order w = .error raised w') : w' = w := by
  rw [addOrder, bind_run] at run
  cases inserted : w.db.orders.insert? order with
  | some orders =>
    simp [get_run, inserted, set_run] at run
  | none =>
    simp only [get_run, inserted] at run
    cases run
    rfl

theorem keeps_liftExcept {α : Type} {inv : World → Prop} (x : Except PyException α) :
    Keeps inv (liftExcept x) := by
  cases x with
  | ok a => exact .pure a
  | error raised => exact .throw raised

theorem keeps_getOrder {inv : World → Prop} (orderId : String) : Keeps inv (getOrder orderId) := by
  refine .bind_get fun w holds => ?_
  cases w.db.orders.find? orderId with
  | some order => exact holds
  | none => exact holds

theorem transaction_of_ok {α : Type} {body : Exec α} {w mid : World} {result : α}
    (run : body w.opened = .ok result mid) :
    transaction body w =
      if mid.db.UniqueColumns then .ok result { mid with unflushed := [] }
      else .error (.integrityError "orders") { mid with db := w.db, unflushed := [] } := by
  unfold transaction
  rw [bind_of_ok run]
  by_cases unique : mid.db.UniqueColumns
  · have flushed : flush mid = .ok () { mid with unflushed := [] } := flush_ok.mpr ⟨unique, rfl⟩
    rw [bind_of_ok flushed, if_pos unique]
    rfl
  · have refused : flush mid = .error (.integrityError "orders") mid := by
      rw [flush, bind_of_ok (get_ok.mpr ⟨rfl, rfl⟩), if_neg unique]
      rfl
    rw [bind_of_error refused, if_neg unique]

theorem transaction_of_error {α : Type} {body : Exec α} {w mid : World} {raised : PyException}
    (run : body w.opened = .error raised mid) :
    transaction body w = .error raised { mid with db := w.db, unflushed := [] } := by
  unfold transaction
  rw [bind_of_error run]

theorem transaction_calls {α : Type} (body : Exec α) (w : World) :
    (leaves (transaction body w)).gatewayCalls = (leaves (body w.opened)).gatewayCalls := by
  cases run : body w.opened with
  | ok result mid =>
    rw [transaction_of_ok run]
    split
    next => rfl
    next => rfl
  | error raised mid =>
    rw [transaction_of_error run]
    rfl

theorem transaction_ok {α : Type} {body : Exec α} {w w' : World} {result : α}
    (run : transaction body w = .ok result w') :
    ∃ mid, body w.opened = .ok result mid ∧ mid.db.UniqueColumns ∧
      w' = { mid with unflushed := [] } := by
  unfold transaction at run
  split at run
  next _ result' after inner =>
    cases run
    obtain ⟨a, mid, first, rest⟩ := bind_ok.mp inner
    obtain ⟨_, flushed, flushing, last⟩ := bind_ok.mp rest
    obtain ⟨unique, rfl⟩ := flush_ok.mp flushing
    obtain ⟨rfl, rfl⟩ := pure_ok.mp last
    exact ⟨mid, first, unique, rfl⟩
  next => cases run

theorem transaction_error {α : Type} {body : Exec α} {w w' : World} {raised : PyException}
    (run : transaction body w = .error raised w') :
    ∃ mid, (do let result ← body; flush; pure result : Exec α) w.opened = .error raised mid ∧
      w' = { mid with db := w.db, unflushed := [] } := by
  unfold transaction at run
  split at run
  next => cases run
  next raised' mid inner =>
    cases run
    exact ⟨mid, inner, rfl⟩

end SynapseYield
