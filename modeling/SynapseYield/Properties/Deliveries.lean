import SynapseYield.Properties.Submissions

set_option autoImplicit false

namespace SynapseYield.Longbridge

open Shared OrderService

variable {broker : LongbridgeBroker} {w w' : World} {order : Order} {brokerOrderId : String}

-- A push and the trace id it is handled under, in a transaction of its own.
abbrev Push := Payload × Option String

def handled (broker : LongbridgeBroker) (w : World) (push : Push) : World :=
  perform (.handleOrderEvent broker push.1 push.2) w

theorem handled_eq (broker : LongbridgeBroker) (w : World) (push : Push) :
    handled broker w push =
      leaves (transaction (discarded (handleOrderEvent broker push.1 push.2)) w) := rfl

def delivered (broker : LongbridgeBroker) (w : World) (pushes : List Push) : World :=
  pushes.foldl (handled broker) w

def receive (status : OrderStatus) (target : Option OrderStatus) : OrderStatus :=
  match target with
  | some target => if target ∈ allowedOrderTransitions status then target else status
  | none => status

structure Numbered (brokerOrderId orderId : String) (status : OrderStatus) (w : World) : Prop where
  unique : w.db.UniqueColumns
  stored : ∃ order, w.db.orders.find? orderId = some order ∧ order.status = status ∧
    order.brokerOrderId = some brokerOrderId

def about (brokerOrderId : String) (push : Push) : Prop :=
  payloadValue push.1 ["order_id", "broker_order_id"] = some brokerOrderId

theorem pushedOrder_numbered {push : Push} (unique : w.db.UniqueColumns)
    (stored : order ∈ w.db.orders.rows) (numbered : order.brokerOrderId = some brokerOrderId)
    (addressed : about brokerOrderId push) : pushedOrder w.db push.1 = some order := by
  unfold pushedOrder
  rw [show payloadValue push.1 _ = _ from addressed]
  cases found : w.db.orders.rows.find? fun row => row.brokerOrderId = some brokerOrderId with
  | none => exact absurd numbered (by simpa using List.find?_eq_none.mp found order stored)
  | some other =>
    have same : other.brokerOrderId = some brokerOrderId := by simpa using List.find?_some found
    rw [← unique.numbered stored (List.mem_of_find?_eq_some found) numbered same]
    exact found

theorem Numbered.kept {orderId : String} {status : OrderStatus}
    (held : Numbered brokerOrderId orderId status w) (orders : w'.db.orders = w.db.orders) :
    Numbered brokerOrderId orderId status w' := by
  obtain ⟨unique, stored⟩ := held
  exact ⟨by unfold Database.UniqueColumns at unique ⊢; rwa [orders], by rwa [orders]⟩

theorem Numbered.restatused {orderId : String} {status target : OrderStatus}
    (held : Numbered brokerOrderId orderId status w)
    (orders : w'.db.orders = w.db.orders.modify orderId (restatus target)) :
    Numbered brokerOrderId orderId target w' := by
  obtain ⟨unique, order, stored, -, numbered⟩ := held
  refine ⟨?_, { order with status := target }, ?_, rfl, numbered⟩
  · exact Database.uniqueColumns_modify none unique orders (fun _ => rfl) (fun _ => rfl)
      (fun _ => rfl) (by simp)
  · rw [orders]
    exact find?_restatus stored target

theorem receive_same (status : OrderStatus) : receive status (some status) = status := by
  unfold receive
  simp only
  split <;> rfl

theorem Numbered.handled {orderId : String} {status : OrderStatus} {push : Push}
    (held : Numbered brokerOrderId orderId status w) (addressed : about brokerOrderId push) :
    Numbered brokerOrderId orderId (receive status (pushedTarget broker push.1))
      (handled broker w push) := by
  obtain ⟨order, stored, standing, numbered⟩ := held.stored
  have found : pushedOrder w.opened.db push.1 = some order :=
    pushedOrder_numbered (w := w) held.unique (Table.find?_mem stored) numbered addressed
  have opened : Numbered brokerOrderId orderId status w.opened := held.kept rfl
  obtain ⟨eventTraceId, serial, brokerEvents, run⟩ :=
    handleOrderEvent_run broker push.1 push.2 w.opened
  unfold pushMove at run
  rw [found] at run
  obtain rfl : order.orderId = orderId := Table.find?_key stored
  -- A push that returns is committed: no id is changed by one.
  have returned : ∀ {result : Option String} {mid : World} {next : OrderStatus},
      handleOrderEvent broker push.1 push.2 w.opened = .ok result mid →
      Numbered brokerOrderId order.orderId next mid →
      Numbered brokerOrderId order.orderId next (Longbridge.handled broker w push) := by
    intro result mid next run after
    rw [handled_eq, transaction_of_ok (discarded_of_ok run), if_pos after.unique]
    exact after.kept rfl
  cases mapped : pushedTarget broker push.1 with
  | none =>
    simp only [mapped] at run
    obtain ⟨result, run⟩ := run
    exact returned run (opened.kept rfl)
  | some target =>
    simp only [mapped] at run
    by_cases same : target = order.status
    · simp only [if_pos same] at run
      obtain ⟨result, run⟩ := run
      rw [same, standing, receive_same]
      exact returned run (opened.kept rfl)
    · simp only [if_neg same] at run
      unfold receive
      by_cases allowed : target ∈ allowedOrderTransitions order.status
      · simp only [if_pos allowed] at run
        obtain ⟨auditLogs, run⟩ := run
        simp only [standing ▸ allowed, if_true]
        exact returned run (opened.restatused rfl)
      · simp only [if_neg allowed] at run
        simp only [show ¬ target ∈ allowedOrderTransitions status from standing ▸ allowed, if_false]
        rw [handled_eq, transaction_of_error (discarded_of_error run)]
        exact held.kept rfl

theorem Numbered.delivered (broker : LongbridgeBroker) {orderId : String} {status : OrderStatus}
    (pushes : List Push) (held : Numbered brokerOrderId orderId status w)
    (addressed : ∀ push ∈ pushes, about brokerOrderId push) :
    Numbered brokerOrderId orderId
      ((pushes.map fun push => pushedTarget broker push.1).foldl receive status)
      (delivered broker w pushes) := by
  induction pushes generalizing w status with
  | nil => exact held
  | cons push rest ih =>
    exact ih (held.handled (addressed push List.mem_cons_self))
      fun later member => addressed later (List.mem_cons_of_mem _ member)

-- The statuses with which the broker ends an order, where the order stands until then, and the
-- two of these from which the adjacency table has no way to FAILED.
def terminalStatuses : List OrderStatus := [.filled, .cancelled, .failed]

def workingStatuses : List OrderStatus := [.submitted, .partiallyFilled, .cancelPending]

def startedStatuses : List OrderStatus := [.partiallyFilled, .cancelPending]

section Targets

variable {targets : List (Option OrderStatus)} {status final : OrderStatus}

structure EndsOnlyIn (final : OrderStatus) (targets : List (Option OrderStatus)) : Prop where
  mapped : ∀ target, some target ∈ targets → target ∈ statusMapping.map Prod.snd
  only : ∀ target, some target ∈ targets → target ∈ terminalStatuses → target = final

theorem EndsOnlyIn.rest {target : Option OrderStatus} (ends : EndsOnlyIn final (target :: targets)) :
    EndsOnlyIn final targets where
  mapped := fun target member => ends.mapped target (List.mem_cons_of_mem _ member)
  only := fun target member => ends.only target (List.mem_cons_of_mem _ member)

theorem receive_terminal : ∀ final ∈ terminalStatuses, ∀ target ∈ statusMapping.map Prod.snd,
    receive final (some target) = final := by decide

theorem receive_working : ∀ status ∈ workingStatuses, ∀ target ∈ statusMapping.map Prod.snd,
    target ∉ terminalStatuses → receive status (some target) ∈ workingStatuses := by decide

theorem receive_started : ∀ status ∈ startedStatuses, ∀ target ∈ statusMapping.map Prod.snd,
    target ∉ [OrderStatus.filled, .cancelled] → receive status (some target) ∈ startedStatuses := by
  decide

theorem receive_submitted : ∀ target ∈ statusMapping.map Prod.snd, target ∉ terminalStatuses →
    receive .submitted (some target) = if target ∈ startedStatuses then target else .submitted := by
  decide

theorem receive_final : ∀ status ∈ workingStatuses, ∀ final ∈ [OrderStatus.filled, .cancelled],
    receive status (some final) = final := by decide

theorem foldl_terminal (terminal : final ∈ terminalStatuses) (ends : EndsOnlyIn final targets) :
    targets.foldl receive final = final := by
  induction targets with
  | nil => rfl
  | cons target rest ih =>
    rw [List.foldl_cons]
    cases target with
    | none => exact ih ends.rest
    | some target =>
      rw [receive_terminal final terminal target (ends.mapped target List.mem_cons_self)]
      exact ih ends.rest

theorem foldl_final (ended : final ∈ [OrderStatus.filled, .cancelled])
    (working : status ∈ workingStatuses) (ends : EndsOnlyIn final targets)
    (present : some final ∈ targets) : targets.foldl receive status = final := by
  have terminal : final ∈ terminalStatuses := by
    simp only [terminalStatuses, List.mem_cons, List.not_mem_nil, or_false] at ended ⊢
    tauto
  induction targets generalizing status with
  | nil => cases present
  | cons target rest ih =>
    rw [List.foldl_cons]
    cases target with
    | none => exact ih working ends.rest (by simpa using present)
    | some target =>
      by_cases stops : target ∈ terminalStatuses
      · obtain rfl := ends.only target List.mem_cons_self stops
        rw [receive_final status working target ended]
        exact foldl_terminal terminal ends.rest
      · have later : some final ∈ rest := by
          refine (List.mem_cons.mp present).resolve_left ?_
          rintro ⟨⟩
          exact stops terminal
        exact ih (receive_working status working target (ends.mapped target List.mem_cons_self)
          stops) ends.rest later

theorem foldl_started (started : status ∈ startedStatuses) (ends : EndsOnlyIn .failed targets) :
    targets.foldl receive status ∈ startedStatuses := by
  induction targets generalizing status with
  | nil => exact started
  | cons target rest ih =>
    rw [List.foldl_cons]
    cases target with
    | none => exact ih started ends.rest
    | some target =>
      refine ih (receive_started status started target
        (ends.mapped target List.mem_cons_self) fun other => ?_) ends.rest
      simp only [List.mem_cons, List.not_mem_nil, or_false] at other
      have failed := ends.only target List.mem_cons_self (by
        obtain rfl | rfl := other <;> simp [terminalStatuses])
      obtain rfl | rfl := other <;> cases failed

theorem foldl_failed (ends : EndsOnlyIn .failed targets) (present : some .failed ∈ targets) :
    targets.foldl receive .submitted = .failed ↔
      ∀ status, some status ∈ targets.takeWhile (fun target => target ≠ some .failed) →
        status ∉ startedStatuses := by
  induction targets with
  | nil => cases present
  | cons target rest ih =>
    rw [List.foldl_cons]
    cases target with
    | none => simpa [receive] using ih ends.rest (by simpa using present)
    | some target =>
      by_cases failed : target = .failed
      · subst failed
        simp only [ne_eq, not_true_eq_false, decide_false, Bool.false_eq_true, not_false_eq_true,
          List.takeWhile_cons_of_neg, List.not_mem_nil, false_imp_iff, implies_true, iff_true]
        have rejected : receive .submitted (some .failed) = .failed := by decide
        rw [rejected]
        exact foldl_terminal (by decide) ends.rest
      · have stops : target ∉ terminalStatuses := fun stops =>
          failed (ends.only target List.mem_cons_self stops)
        have later : some .failed ∈ rest := by
          refine (List.mem_cons.mp present).resolve_left ?_
          rintro ⟨⟩
          exact failed rfl
        rw [receive_submitted target (ends.mapped target List.mem_cons_self) stops,
          List.takeWhile_cons_of_pos (by simpa using failed)]
        by_cases started : target ∈ startedStatuses
        · rw [if_pos started]
          have kept := foldl_started started ends.rest
          constructor
          · intro same
            rw [same] at kept
            exact absurd kept (by decide)
          · intro none
            exact absurd started (none target List.mem_cons_self)
        · rw [if_neg started, ih ends.rest later]
          simp only [List.mem_cons, Option.some.injEq]
          constructor
          · rintro none status (rfl | member)
            · exact started
            · exact none status member
          · intro none status member
            exact none status (.inr member)

end Targets

theorem delivered_final {orderId : String} {pushes : List Push} {final : OrderStatus}
    (unique : w.db.UniqueColumns) (stored : w.db.orders.find? orderId = some order)
    (submitted : order.status = .submitted) (numbered : order.brokerOrderId = some brokerOrderId)
    (addressed : ∀ push ∈ pushes, about brokerOrderId push) (terminal : final ∈ terminalStatuses)
    (only : ∀ push ∈ pushes, ∀ target ∈ pushedTarget broker push.1,
      target ∈ terminalStatuses → target = final)
    (present : ∃ push ∈ pushes, pushedTarget broker push.1 = some final) :
    statusOf (delivered broker w pushes).db orderId = some final ↔
      (final = .failed →
        ∀ push ∈ pushes.takeWhile (fun push => pushedTarget broker push.1 ≠ some .failed),
          ∀ target ∈ pushedTarget broker push.1, target ∉ startedStatuses) := by
  let targets := pushes.map fun push => pushedTarget broker push.1
  have ends : EndsOnlyIn final targets := by
    constructor
    · intro target member
      obtain ⟨push, -, mapped⟩ := List.mem_map.mp member
      exact mapOrderStatus_mapped mapped
    · intro target member
      obtain ⟨push, pushed, mapped⟩ := List.mem_map.mp member
      exact only push pushed target mapped
  have last : some final ∈ targets := by
    obtain ⟨push, pushed, mapped⟩ := present
    exact List.mem_map.mpr ⟨push, pushed, mapped⟩
  have held : Numbered brokerOrderId orderId .submitted w :=
    ⟨unique, order, stored, submitted, numbered⟩
  obtain ⟨-, after, found, standing, -⟩ := held.delivered broker pushes addressed
  rw [statusOf, found, Option.map_some, standing, Option.some.injEq]
  change targets.foldl receive .submitted = final ↔ _
  simp only [terminalStatuses, List.mem_cons, List.not_mem_nil, or_false] at terminal
  obtain rfl | rfl | rfl := terminal
  · simpa using foldl_final (by decide) (by decide) ends last
  · simpa using foldl_final (by decide) (by decide) ends last
  · rw [foldl_failed ends last]
    simp only [targets, List.takeWhile_map, List.mem_map, forall_const]
    constructor
    · intro unstarted push pushed target mapped
      exact unstarted target ⟨push, pushed, mapped⟩
    · rintro unstarted target ⟨push, pushed, mapped⟩
      exact unstarted push pushed target mapped

def pushFor (status : String) : Push :=
  ([("order_id", some "lb_0"), ("status", some status)], some "t")

theorem delivered_rejection :
    submittedTen.db.UniqueColumns ∧ statusOf submittedTen.db "ord_0" = some .submitted ∧
      [pushFor "PartialFilled", pushFor "Rejected"].map
        (fun push => pushedTarget (paperAccount (.accepted "lb_0")) push.1) =
          [some .partiallyFilled, some .failed] ∧
      statusOf (delivered (paperAccount (.accepted "lb_0")) submittedTen
        [pushFor "PartialFilled", pushFor "Rejected"]).db "ord_0" = some .partiallyFilled := by
  decide +kernel

theorem delivered_final_filled :
    statusOf (delivered (paperAccount (.accepted "lb_0")) submittedTen
      [pushFor "New", pushFor "Filled", pushFor "PartialFilled", pushFor "Filled"]).db "ord_0" =
        some .filled := by
  have stored : ∃ order, submittedTen.db.orders.find? "ord_0" = some order ∧
      order.status = .submitted ∧ order.brokerOrderId = some "lb_0" := by decide +kernel
  obtain ⟨order, found, submitted, numbered⟩ := stored
  exact (delivered_final (by decide +kernel) found submitted numbered (by unfold about; decide +kernel)
    (by decide) (by decide +kernel) (by decide +kernel)).mpr nofun

end SynapseYield.Longbridge
