import SynapseYield.Harness.Lifecycle
import SynapseYield.Properties.FrozenCash
import SynapseYield.Shared.Trail

set_option autoImplicit false

namespace SynapseYield.AuditTrail

open Shared

-- The status change of this order that an audit row records, if it records one.
def statusChange (orderId : String) (row : AuditLog) : Option (Entry OrderStatus String) :=
  if row.orderId = some orderId then
    row.nextState.map fun next => ⟨row.previousState, next, row.eventType⟩
  else none

def statusChanges (auditLogs : List AuditLog) (orderId : String) : List (Entry OrderStatus String) :=
  auditLogs.filterMap (statusChange orderId)

abbrev StatusTrail : List (Entry OrderStatus String) → OrderStatus → Prop :=
  Trail .created (fun source target => target ∈ allowedOrderTransitions source)
    (fun eventType => eventType = "ORDER_IDEMPOTENCY_HIT")

def Recorded (stored : Option Order) (changes : List (Entry OrderStatus String)) : Prop :=
  match stored with
  | some order => StatusTrail changes order.status
  | none => changes = []

def Audited (db : Database) : Prop :=
  ∀ orderId, Recorded (db.orders.find? orderId) (statusChanges db.auditLogs orderId)

theorem statusChanges_append (auditLogs : List AuditLog) (row : AuditLog) (orderId : String) :
    statusChanges (auditLogs ++ [row]) orderId =
      statusChanges auditLogs orderId ++ (statusChange orderId row).toList := by
  simp only [statusChanges, List.filterMap_append, List.filterMap_cons, List.filterMap_nil]
  cases statusChange orderId row <;> rfl

theorem statusChange_other {row : AuditLog} {orderId rowOrder : String}
    (about : row.orderId = some rowOrder) (other : orderId ≠ rowOrder) :
    statusChange orderId row = none := by
  have different : ¬ rowOrder = orderId := fun same => other same.symm
  simp [statusChange, about, different]

theorem statusChange_self {row : AuditLog} {orderId : String} {previous : Option OrderStatus}
    {next : OrderStatus} (about : row.orderId = some orderId)
    (left : row.previousState = previous) (entered : row.nextState = some next) :
    statusChange orderId row = some ⟨previous, next, row.eventType⟩ := by
  simp [statusChange, about, left, entered]

theorem recorded_event {row : AuditLog} (unchanged : row.nextState = none) (orderId : String) :
    statusChange orderId row = none := by
  simp [statusChange, unchanged]

theorem Audited.row {db db' : Database} {row : AuditLog} {orderId : String} {next : OrderStatus}
    {previous : Option OrderStatus} (audited : Audited db)
    (logged : db'.auditLogs = db.auditLogs ++ [row]) (about : row.orderId = some orderId)
    (left : row.previousState = previous) (entered : row.nextState = some next)
    (others : ∀ other, other ≠ orderId → db'.orders.find? other = db.orders.find? other)
    (self : Recorded (db'.orders.find? orderId)
      (statusChanges db.auditLogs orderId ++ [⟨previous, next, row.eventType⟩])) :
    Audited db' := by
  intro other
  rw [logged, statusChanges_append]
  by_cases same : other = orderId
  · subst same
    rw [statusChange_self about left entered]
    exact self
  · rw [statusChange_other about same, others other same]
    simpa using audited other

theorem Audited.stored {db : Database} {order : Order} (audited : Audited db)
    (found : db.orders.find? order.orderId = some order) :
    StatusTrail (statusChanges db.auditLogs order.orderId) order.status := by
  have recorded := audited order.orderId
  rw [found] at recorded
  exact recorded

theorem audited_lifecycle : Lifecycle fun w => Audited w.db where
  elsewhere := by
    intro w w' audited orders auditLogs _ _ orderId
    rw [orders, auditLogs]
    exact audited orderId
  recorded := by
    intro w row unchanged audited orderId
    rw [statusChanges_append, recorded_event unchanged, Option.toList_none, List.append_nil]
    exact audited orderId
  noted := by
    intro w orderId update status audited other
    have recorded := audited other
    rw [Table.find?_modify]
    split
    next same =>
      subst same
      cases found : w.db.orders.find? other with
      | none => rwa [found] at recorded
      | some order =>
        rw [found] at recorded
        simpa only [Option.map_some, Recorded, status] using recorded
    next => exact recorded
  created := by
    intro w order orders row inserted fresh about left entered audited
    have missing : w.db.orders.find? order.orderId = none := by
      rw [Table.find?_eq_none]
      intro old member same
      exact ((Table.insert?_eq_some _ _ _).mp inserted).1 (List.mem_map.mpr ⟨old, member, same⟩)
    have unrecorded := audited order.orderId
    rw [missing] at unrecorded
    refine audited.row rfl about left entered (fun other different => ?_) ?_
    · rw [Table.find?_insert inserted, if_neg different]
    · rw [Table.find?_insert inserted, if_pos rfl, unrecorded]
      simpa only [Recorded, fresh, List.nil_append] using Trail.opened row.eventType
  repeated := by
    intro w order row member hit about left entered audited
    have found := Table.find?_of_mem member
    refine audited.row rfl about left entered (fun _ _ => rfl) ?_
    rw [found]
    exact (audited.stored found).repeated hit
  moved := by
    intro w order target row update found allowed status about left entered audited
    refine audited.row rfl about left entered (fun other different => ?_) ?_
    · exact Table.find?_modify_other _ _ different
    · rw [Table.find?_modify_self, found]
      simpa only [Option.map_some, Recorded, status] using
        (audited.stored found).moved row.eventType allowed
  called := fun audited => audited

theorem appended_lifecycle (earlier : List AuditLog) :
    Lifecycle fun w => earlier <+: w.db.auditLogs where
  elsewhere := fun kept _ auditLogs _ _ => auditLogs ▸ kept
  recorded := fun _ kept => kept.trans (List.prefix_append _ _)
  noted := fun _ kept => kept
  created := fun _ _ _ _ _ kept => kept.trans (List.prefix_append _ _)
  repeated := fun _ _ _ _ _ kept => kept.trans (List.prefix_append _ _)
  moved := fun _ _ _ _ _ _ kept => kept.trans (List.prefix_append _ _)
  called := fun kept => kept

def finalStatuses : List OrderStatus := [.riskRejected, .filled, .cancelled]

theorem final_stuck {status : OrderStatus} (final : status ∈ finalStatuses) (next : OrderStatus) :
    next ∉ allowedOrderTransitions status := by
  cases status <;> simp [finalStatuses, allowedOrderTransitions] at final ⊢

theorem submitting_gated (source : OrderStatus)
    (allowed : OrderStatus.submitting ∈ allowedOrderTransitions source) :
    source = .riskApproved := by
  cases source <;> simp [allowedOrderTransitions] at allowed ⊢

theorem Audited.stays {db db' : Database} (before : Audited db) (after : Audited db')
    (grown : db.auditLogs <+: db'.auditLogs) {order : Order} (member : order ∈ db.orders.rows)
    (final : order.status ∈ finalStatuses) :
    ∃ order', db'.orders.find? order.orderId = some order' ∧ order'.status = order.status := by
  obtain ⟨entry, entered, target⟩ := (before.stored (Table.find?_of_mem member)).last_target
  have kept : entry ∈ statusChanges db'.auditLogs order.orderId :=
    (grown.filterMap _).subset entered
  have recorded := after order.orderId
  cases found : db'.orders.find? order.orderId with
  | none =>
    rw [found] at recorded
    rw [show statusChanges db'.auditLogs order.orderId = [] from recorded] at kept
    exact absurd kept List.not_mem_nil
  | some order' =>
    rw [found] at recorded
    exact ⟨order', rfl, Trail.stays recorded (final_stuck final) kept target⟩

theorem Audited.gated {db : Database} (audited : Audited db) {orderId : String}
    {earlier later : List (Entry OrderStatus String)} {entry : Entry OrderStatus String}
    (split : statusChanges db.auditLogs orderId = earlier ++ entry :: later)
    (submitting : entry.target = .submitting) :
    ∃ passed ∈ earlier, passed.target = .riskApproved := by
  have recorded := audited orderId
  cases found : db.orders.find? orderId with
  | none =>
    rw [found] at recorded
    rw [show statusChanges db.auditLogs orderId = [] from recorded] at split
    simp at split
  | some order =>
    rw [found] at recorded
    exact Trail.gated recorded (by decide) submitting_gated split submitting

theorem auditTrail_correct {w w' : World} (works : Relation.ReflTransGen UnitOfWork w w')
    (audited : Audited w.db) :
    (∀ order ∈ w'.db.orders.rows,
      StatusTrail (statusChanges w'.db.auditLogs order.orderId) order.status) ∧
    (∀ orderId, w'.db.orders.find? orderId = none → statusChanges w'.db.auditLogs orderId = []) ∧
    (∀ order ∈ w.db.orders.rows, order.status ∈ finalStatuses →
      ∃ order', w'.db.orders.find? order.orderId = some order' ∧ order'.status = order.status) ∧
    ∀ orderId earlier entry later,
      statusChanges w'.db.auditLogs orderId = earlier ++ entry :: later →
      entry.target = .submitting → ∃ passed ∈ earlier, passed.target = .riskApproved := by
  have after : Audited w'.db := audited_lifecycle.works works audited
  refine ⟨fun order member => after.stored (Table.find?_of_mem member), fun orderId missing => ?_,
    fun order member final => ?_, fun orderId earlier entry later split => after.gated split⟩
  · have recorded := after orderId
    rwa [missing] at recorded
  · have grown := (appended_lifecycle w.db.auditLogs).works works (List.prefix_refl _)
    exact audited.stays after grown member final

theorem audited_empty {db : Database} (orders : db.orders.rows = []) (auditLogs : db.auditLogs = []) :
    Audited db := by
  intro orderId
  have missing : db.orders.find? orderId = none := by
    rw [Table.find?_eq_none, orders]
    simp
  rw [missing, auditLogs]
  rfl

-- One session: a transition that is refused, caught by the caller, and then a cancel.
def refusedMove : World :=
  leaves ((Operation.transitionOrder "t" "ord_0" .riskApproved "RETRY").body
    LocalSim.restingBuy.opened)

def cancelledBuy : World :=
  { leaves ((Operation.cancelOrder (.localSim {}) "t" "ord_0").body refusedMove) with unflushed := [] }

theorem cancelledBuy_works : Relation.ReflTransGen UnitOfWork (cashOnly 5000) cancelledBuy := by
  have calls : Calls LocalSim.restingBuy.opened
      (leaves ((Operation.cancelOrder (.localSim {}) "t" "ord_0").body refusedMove)) :=
    .tail (.tail .refl ⟨_, rfl⟩) ⟨_, rfl⟩
  exact LocalSim.restingBuy_run.works.tail (.committed calls (by decide +kernel))

theorem auditTrail_correct_cancelled :
    (∀ order ∈ cancelledBuy.db.orders.rows,
      StatusTrail (statusChanges cancelledBuy.db.auditLogs order.orderId) order.status) ∧
    (cancelledBuy.db.orders.find? "ord_0").map Order.status = some .cancelled :=
  ⟨(auditTrail_correct cancelledBuy_works (audited_empty rfl rfl)).1, by decide +kernel⟩

example : (statusChanges cancelledBuy.db.auditLogs "ord_0").map Entry.target =
    [.created, .riskApproved, .submitting, .submitted, .cancelPending, .cancelled] := by
  decide +kernel

end SynapseYield.AuditTrail
