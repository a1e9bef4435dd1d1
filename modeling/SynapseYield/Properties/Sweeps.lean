import SynapseYield.Runtime.Flatten
import SynapseYield.Shared.Delivery
import SynapseYield.Shared.Outcome

set_option autoImplicit false

namespace SynapseYield.Runtime

open Shared Live

variable [PyText]

-- The identity of an order and the symbol of a position, as reconcile reads them.
def ownId (order : PyDict) : Option PyValue := firstTruthy order (brokerIdKeys ++ clientIdKeys)

def ownSymbol (position : PyDict) : Option PyValue := firstTruthy position symbolKeys

def dueCancel (order : PyDict) : PyDict :=
  fields [("action", .str "cancel"), ("order_id", (ownId order).getD (order.get "order_id"))]

-- The side and the size of the order that brings a holding to zero: what is held long is sold,
-- what is held short is bought back. A NaN has no sign.
def offset : Number → PyString × Number
  | .finite held => (if held < 0 then "buy" else "sell", .finite |held|)
  | .posInf => ("sell", .posInf)
  | .negInf => ("buy", .posInf)
  | .nan => ("buy", .nan)

-- A market order against the quantity that reconcile reads, where it is not zero.
def dueClose (position : PyDict) : Option PyDict :=
  match positionQty position with
  | .ok qty =>
    if Number.same qty 0 then none
    else some (fields [
      ("action", .str "close"),
      ("symbol", (ownSymbol position).getD (position.get "symbol")),
      ("side", .str (offset qty).1),
      ("qty", .float (offset qty).2),
      ("type", .str "market")])
  | .error _ => none

omit [PyText] in
theorem closes_offset {qty : Number} (held : ¬ Number.same qty 0) :
    closeSide qty = (offset qty).1 ∧ qty.abs = (offset qty).2 := by
  cases qty with
  | nan => exact ⟨rfl, rfl⟩
  | negInf => exact ⟨rfl, rfl⟩
  | posInf => exact ⟨rfl, rfl⟩
  | finite qty =>
    have nonzero : qty ≠ 0 := fun zero => held ⟨congrArg Number.finite zero, nofun⟩
    have long : (0 : Number) < .finite qty ↔ ¬ qty < 0 := by
      rw [show (0 : Number) = .finite 0 from rfl, Number.finite_lt, not_lt]
      exact (Ne.symm nonzero).le_iff_lt.symm
    refine ⟨?_, rfl⟩
    simp only [closeSide, long, ite_not, offset]

def rowsOf (read : Except Failure (List Answered)) : List Answered := read.toOption.getD []

-- A cancel for each open order, and then a close for each position where closing is permitted.
def SweepInput.due (input : SweepInput) : List PyDict :=
  (rowsOf input.openOrders).map (fun row => dueCancel row.1) ++
    if resolveAllowFlatten input = .ok true then
      (rowsOf input.positions).filterMap (fun row => dueClose row.1) else []

def SweepsAll (broker : PyString) (input : SweepInput) : Prop :=
  (leaves (flattenAndCancel broker input (sweepStart broker))).submitted = input.due

section Conditions

def caughtAll {α : Type} : Except PyError α → Bool
  | .ok _ => true
  | .error raised => raised.isException

def CallAnswers.pass (answers : CallAnswers) : Bool :=
  caughtAll (answers.submit.mapError Failure.error) && caughtAll answers.tool && answers.audit.isOk

def passesCancel (row : Answered) : Bool :=
  row.2.pass && (cancelIntent (row.1.get "order_id")).isOk

def passesClose (row : Answered) : Bool :=
  match sweepQty row.1 with
  | .ok qty =>
    Number.same qty 0 || (closeIntent (row.1.get "symbol") qty).isOk && row.2.pass
  | .error _ => false

def sentClose (position : PyDict) : Option PyDict :=
  match sweepQty position with
  | .ok qty =>
    if ¬ Number.same qty 0 ∧ (closeIntent (position.get "symbol") qty).isOk then
      some (closeRequest (position.get "symbol") qty)
    else none
  | .error _ => none

def cancelDuty (row : Answered) : Duty PyDict where
  due := some (dueCancel row.1)
  sent := some (cancelRequest (row.1.get "order_id"))
  passes := passesCancel row

def closeDuty (row : Answered) : Duty PyDict where
  due := dueClose row.1
  sent := sentClose row.1
  passes := passesClose row

def freeDuty (passes : Bool) : Duty PyDict where
  due := none
  sent := none
  passes

def readDuty (read : Except Failure (List Answered)) : Duty PyDict :=
  freeDuty (caughtAll (read.mapError Failure.error))

def SweepInput.closing (input : SweepInput) : List (Duty PyDict) :=
  if resolveAllowFlatten input = .ok true then
    readDuty input.positions :: (rowsOf input.positions).map closeDuty else []

def SweepInput.steps (input : SweepInput) : List (Duty PyDict) :=
  readDuty input.openOrders :: (rowsOf input.openOrders).map cancelDuty ++
    freeDuty (resolveAllowFlatten input).isOk :: input.closing

end Conditions

section Sent

abbrev Submits (requests : List PyDict) (passes : Bool) {α : Type} (x : SweepProgram α) : Prop :=
  Sends SweepState.submitted requests passes x

omit [PyText] in
theorem silent {f : SweepState → SweepState} (same : ∀ s, (f s).submitted = s.submitted) :
    Submits [] true (modify f : SweepProgram PUnit) :=
  .modified fun s => by rw [same, List.append_nil]

omit [PyText] in
theorem after_note {α : Type} {f : SweepState → SweepState} {x : SweepProgram α} {passes : Bool}
    (same : ∀ s, (f s).submitted = s.submitted) (rest : Submits [] passes x) :
    Submits [] passes (modify f >>= fun _ => x) := (silent same).quietly fun _ => rest

omit [PyText] in
theorem ofResult_submits {α : Type} (result : Except PyError α) :
    Submits [] result.isOk (ofResult result) := by
  cases result with
  | ok a => exact .pure a
  | error raised => exact .throw raised

omit [PyText] in
theorem sweepCaught_submits {α : Type} (result : Except Failure α) :
    Submits [] (caughtAll (result.mapError Failure.error)) (sweepCaught result) := by
  cases result with
  | ok a => exact .pure _
  | error raised =>
    unfold sweepCaught caughtAll Except.mapError
    dsimp only
    split
    next holds => simpa [holds] using Sends.pure _
    next fails => simpa [fails] using Sends.throw _

omit [PyText] in
theorem sweepTool_submits (fallback : PyString) (answers : CallAnswers) :
    Submits [] (caughtAll answers.tool) (sweepTool fallback answers) := by
  unfold sweepTool
  cases answers.tool with
  | ok name =>
    cases name with
    | some name => exact .pure _
    | none => exact .pure _
  | error raised =>
    dsimp only [caughtAll]
    split
    next holds => simpa [holds] using Sends.pure _
    next fails => simpa [fails] using Sends.throw _

omit [PyText] in
theorem submitRequest_submits (request : PyDict) (answers : CallAnswers) :
    Submits [request] (caughtAll (answers.submit.mapError Failure.error))
      (submitRequest request answers) := by
  have appended : Submits [request] true (modify fun state : SweepState =>
      { state with submitted := state.submitted ++ [request] }) := .modified fun _ => rfl
  exact appended.quietly fun _ => sweepCaught_submits answers.submit

omit [PyText] in
theorem sweepAudit_submits (event : SweepEvent) (answers : CallAnswers) :
    Submits [] answers.audit.isOk (sweepAudit event answers) := by
  have written : Submits [] true (modify fun state : SweepState =>
      { state with audited := state.audited ++ [event] }) := silent fun _ => rfl
  exact written.quietly fun _ => ofResult_submits answers.audit

omit [PyText] in
theorem addError_submits (entries : List (PyString × PyValue)) :
    Submits [] true (addError entries) := silent fun _ => rfl

theorem cancelOrder_submits (broker : PyString) (row : Answered) :
    Submits (cancelDuty row).sent.toList (cancelDuty row).passes (cancelOrder broker row) := by
  have ends : (cancelDuty row).passes = (caughtAll (row.2.submit.mapError Failure.error) &&
      (caughtAll row.2.tool &&
        ((cancelIntent (row.1.get "order_id")).isOk && row.2.audit.isOk))) := by
    simp only [cancelDuty, passesCancel, CallAnswers.pass, Bool.and_assoc]
    rw [Bool.and_comm row.2.audit.isOk]
  rw [ends]
  refine (submitRequest_submits _ row.2).quietly fun response => ?_
  have recorded := (sweepTool_submits cancelTool row.2).quietly fun tool =>
    (ofResult_submits (cancelIntent (row.1.get "order_id"))).quietly fun intent =>
      sweepAudit_submits (sweepEvent broker tool intent
        (cancelRequest (row.1.get "order_id")) response) row.2
  cases response with
  | error raised => exact (addError_submits _).quietly fun _ => recorded
  | ok answer => exact after_note (fun _ => rfl) recorded

theorem closePosition_submits (broker : PyString) (row : Answered) :
    Submits (closeDuty row).sent.toList (closeDuty row).passes (closePosition broker row) := by
  unfold closePosition closeDuty sentClose passesClose
  cases sweepQty row.1 with
  | error raised => exact .throw raised
  | ok qty =>
    dsimp only [ofResult]
    rw [pure_bind]
    by_cases flat : Number.same qty 0
    · simp only [flat, if_true, not_true, false_and, if_false, decide_true, Bool.true_or]
      exact .pure _
    · simp only [flat, if_false, not_false_iff, true_and, decide_false, Bool.false_or]
      cases worded : closeIntent (row.1.get "symbol") qty with
      | error raised => exact .throw raised
      | ok intent =>
        dsimp only [ofResult]
        rw [pure_bind]
        change Submits [closeRequest (row.1.get "symbol") qty] row.2.pass _
        rw [CallAnswers.pass, Bool.and_assoc]
        refine (submitRequest_submits _ row.2).quietly fun response => ?_
        have recorded := (sweepTool_submits flattenTool row.2).quietly fun tool =>
          sweepAudit_submits (sweepEvent broker tool intent
            (closeRequest (row.1.get "symbol") qty) response) row.2
        cases response with
        | error raised => exact (addError_submits _).quietly fun _ => recorded
        | ok answer => exact after_note (fun _ => rfl) recorded

omit [PyText] in
theorem overRows_submits {phase : PyString} {read : Except Failure (List Answered)}
    {handle : Answered → SweepProgram PUnit} {duty : Answered → Duty PyDict}
    (each : ∀ row, Submits (duty row).sent.toList (duty row).passes (handle row)) :
    Submits (delivered (readDuty read :: (rowsOf read).map duty))
      ((readDuty read :: (rowsOf read).map duty).all Duty.passes)
      (do (← readRows phase read).forM handle) := by
  unfold readRows
  cases read with
  | ok rows => exact .forM each
  | error raised =>
    by_cases caught : raised.error.isException
    · have passes : (readDuty (.error raised)).passes = true := decide_eq_true caught
      simp only [sweepCaught, caught, if_true, pure_bind, rowsOf, Except.toOption, Option.getD_none,
        List.map_nil, delivered, passes, List.all_cons, List.all_nil, Bool.and_self, ite_self,
        List.append_nil, bind_assoc]
      exact (addError_submits _).quietly fun _ => .pure _
    · have raises : (readDuty (.error raised)).passes = false := decide_eq_false caught
      simp only [sweepCaught, caught, if_false, delivered, raises, List.all_cons, Bool.false_and]
      exact .throw _

omit [PyText] in
theorem reported : Submits [] true (do return (← get).report) :=
  fun _ => ⟨(List.append_nil _).symm, rfl⟩

theorem flattenAndCancel_submits (broker : PyString) (input : SweepInput) :
    Submits (delivered input.steps) (input.steps.all Duty.passes) (flattenAndCancel broker input) := by
  have cancels : Submits _ _ (cancelRestingOrders broker input) :=
    overRows_submits (cancelOrder_submits broker)
  have closes : Submits _ _ (flattenOpenPositions broker input) :=
    overRows_submits (closePosition_submits broker)
  have steps : input.steps = (readDuty input.openOrders :: (rowsOf input.openOrders).map cancelDuty) ++
    freeDuty (resolveAllowFlatten input).isOk :: input.closing := rfl
  rw [steps, delivered_append, List.all_append]
  refine cancels.bind fun _ => ?_
  cases permitted : resolveAllowFlatten input with
  | error raised =>
    have raises : (freeDuty (Except.error raised : Except PyError Bool).isOk).passes = false := rfl
    simp only [delivered, raises, List.all_cons, Bool.false_and]
    exact .throw _
  | ok permits =>
    cases permits with
    | false =>
      have closing : input.closing = [] := if_neg (by simp [permitted])
      rw [closing]
      exact after_note (fun _ => rfl) reported
    | true =>
      have closing : input.closing =
          readDuty input.positions :: (rowsOf input.positions).map closeDuty := if_pos permitted
      have ended := closes.quietly fun _ => reported
      rw [Bool.and_true] at ended
      rw [closing]
      exact ended

end Sent

section Rows

omit [PyText]

-- The key that the sweep reads holds what reconcile takes for the row's own.
def KeyedBy (row : PyDict) (key : PyString) (own : Option PyValue) : Prop :=
  own = none ∨ (row.get key).truthy = true

theorem keyedBy_iff {row : PyDict} {key : PyString} {rest : List PyString} :
    (firstTruthy row (key :: rest)).getD (row.get key) = row.get key ↔
      KeyedBy row key (firstTruthy row (key :: rest)) := by
  unfold KeyedBy
  cases found : firstTruthy row (key :: rest) with
  | none => simp
  | some value =>
    have truthy : value.truthy = true := List.find?_some found
    simp only [Option.getD_some, reduceCtorEq, false_or]
    constructor
    · rintro rfl
      exact truthy
    · intro holds
      have first : firstTruthy row (key :: rest) = some (row.get key) :=
        List.find?_cons_of_pos holds
      exact Option.some.inj (found.symm.trans first)

theorem cancelRequest_inj {orderId orderId' : PyValue} :
    cancelRequest orderId = cancelRequest orderId' ↔ orderId = orderId' := by
  simp [cancelRequest, fields]

theorem closeRequest_inj {symbol symbol' : PyValue} {qty : Number} :
    closeRequest symbol qty = closeRequest symbol' qty ↔ symbol = symbol' := by
  simp [closeRequest, fields]

end Rows

section Quantities

omit [PyText] in
theorem same_zero : Number.same 0 0 := ⟨rfl, nofun⟩

omit [PyText] in
theorem floatOfInt_zero : floatOfInt 0 = .ok 0 := by decide +kernel

theorem toFloat_falsy {value : PyValue} {qty : Number} (falsy : value.truthy = false)
    (read : value.toFloat = .ok qty) : qty = 0 := by
  cases value with
  | bool b =>
    obtain rfl : b = false := falsy
    exact (Except.ok.inj read).symm
  | int n =>
    obtain rfl : n = 0 := by simpa [PyValue.truthy] using falsy
    exact (Except.ok.inj (floatOfInt_zero.symm.trans read)).symm
  | float x =>
    obtain rfl : x = .finite 0 := by simpa [PyValue.truthy] using falsy
    exact (Except.ok.inj read).symm
  | str s =>
    obtain ⟨points⟩ := s
    obtain rfl : points = [] := by simpa [PyValue.truthy] using falsy
    have unread : (⟨[]⟩ : PyString).parseFloat = none := rfl
    simp [PyValue.toFloat, unread] at read
  | object o => cases falsy
  | none => cases read
  | list items => cases read
  | tuple items => cases read
  | dict entries => cases read

theorem positionQty_present {position : PyDict} (present : (position.get "qty").isNone = false) :
    positionQty position = match (position.get "qty").toFloat with
      | .ok qty => .ok qty
      | .error .typeError => .ok 0
      | .error .valueError => .ok 0
      | .error raised => .error raised := by
  have first : (quantityKeys.map position.get).find? (! ·.isNone) = some (position.get "qty") :=
    List.find?_cons_of_pos (by simp [present])
  cases read : (position.get "qty").toFloat with
  | ok qty => simp only [positionQty, first, read]
  | error raised => cases raised <;> simp only [positionQty, first, read]

omit [PyText] in
theorem lookup_present {position : PyDict} {key : PyString}
    (present : (position.get key).isNone = false) : position.lookup key = some (position.get key) := by
  unfold PyDict.get at present ⊢
  cases found : position.lookup key with
  | some value => rfl
  | none =>
    rw [found] at present
    cases present

theorem sweepQty_positionQty {position : PyDict} {qty : Number} (read : sweepQty position = .ok qty)
    (held : ¬ Number.same qty 0) :
    (position.get "qty").isNone = false ∧ positionQty position = .ok qty := by
  unfold sweepQty at read
  dsimp only at read
  split at read
  next truthy =>
    have present : (position.get "qty").isNone = false := by
      unfold PyDict.get
      cases found : position.lookup "qty" with
      | none =>
        rw [found] at truthy
        cases truthy
      | some value =>
        rw [found] at truthy
        cases value with
        | none => cases truthy
        | _ => rfl
    refine ⟨present, ?_⟩
    rw [lookup_present present, Option.getD_some] at read
    rw [positionQty_present present, read]
  next =>
    obtain rfl : qty = 0 := (Except.ok.inj (floatOfInt_zero.symm.trans read)).symm
    exact absurd same_zero held

theorem positionQty_sweepQty {position : PyDict} {qty : Number}
    (read : positionQty position = .ok qty) (held : ¬ Number.same qty 0)
    (present : (position.get "qty").isNone = false) : sweepQty position = .ok qty := by
  have nonzero : qty ≠ 0 := by
    rintro rfl
    exact held same_zero
  rw [positionQty_present present] at read
  have float : (position.get "qty").toFloat = .ok qty := by
    split at read
    next other float => rw [float, Except.ok.inj read]
    next => exact absurd (Except.ok.inj read).symm nonzero
    next => exact absurd (Except.ok.inj read).symm nonzero
    next => cases read
  have truthy : (position.get "qty").truthy = true := by
    by_contra falsy
    exact nonzero (toFloat_falsy (Bool.eq_false_iff.mpr falsy) float)
  simp only [sweepQty, lookup_present present, Option.getD_some, truthy, if_true, float]

end Quantities

-- A position that is not flat has its quantity and its symbol under the keys that the sweep reads.
def Closable (position : PyDict) : Prop :=
  ∀ qty, positionQty position = .ok qty → ¬ Number.same qty 0 →
    (position.get "qty").isNone = false ∧ KeyedBy position "symbol" (ownSymbol position) ∧
      ∃ intent, closeIntent (position.get "symbol") qty = .ok intent

theorem sentClose_some {position : PyDict} {request : PyDict} :
    sentClose position = some request ↔ ∃ qty intent, sweepQty position = .ok qty ∧
      ¬ Number.same qty 0 ∧ closeIntent (position.get "symbol") qty = .ok intent ∧
        closeRequest (position.get "symbol") qty = request := by
  unfold sentClose
  cases sweepQty position with
  | error raised => simp
  | ok qty =>
    simp only [Except.ok.injEq, exists_and_left, exists_eq_left']
    cases closeIntent (position.get "symbol") qty with
    | ok intent => simp [Except.isOk, Except.toBool]
    | error raised => simp [Except.isOk, Except.toBool]

theorem dueClose_some {position : PyDict} {request : PyDict} :
    dueClose position = some request ↔ ∃ qty, positionQty position = .ok qty ∧
      ¬ Number.same qty 0 ∧
        closeRequest ((ownSymbol position).getD (position.get "symbol")) qty = request := by
  unfold dueClose
  cases positionQty position with
  | error raised => simp
  | ok qty =>
    by_cases flat : Number.same qty 0
    · simp [flat]
    · obtain ⟨side, size⟩ := closes_offset flat
      simp only [flat, if_false, ← side, ← size]
      simp [flat, closeRequest]

theorem closeDuty_owed {position : PyDict} (free : dueClose position = none) :
    sentClose position = none := by
  by_contra sends
  obtain ⟨request, sent⟩ := Option.ne_none_iff_exists'.mp sends
  obtain ⟨qty, -, read, held, -⟩ := sentClose_some.mp sent
  have due := dueClose_some.mpr ⟨qty, (sweepQty_positionQty read held).2, held, rfl⟩
  rw [free] at due
  cases due

theorem closable_iff {position : PyDict} :
    sentClose position = dueClose position ↔ Closable position := by
  constructor
  · intro same qty read held
    have sent := same.trans (dueClose_some.mpr ⟨qty, read, held, rfl⟩)
    obtain ⟨qty', intent, swept, held', worded, request⟩ := sentClose_some.mp sent
    obtain ⟨present, read'⟩ := sweepQty_positionQty swept held'
    obtain rfl := Except.ok.inj (read.symm.trans read')
    exact ⟨present, keyedBy_iff.mp (closeRequest_inj.mp request).symm, intent, worded⟩
  · intro closable
    cases due : dueClose position with
    | none => exact closeDuty_owed due
    | some request =>
      obtain ⟨qty, read, held, rfl⟩ := dueClose_some.mp due
      obtain ⟨present, keyed, intent, worded⟩ := closable qty read held
      refine sentClose_some.mpr ⟨qty, intent, positionQty_sweepQty read held present, held, worded, ?_⟩
      exact closeRequest_inj.mpr (keyedBy_iff.mpr keyed).symm

-- The rows are keyed as the sweep reads them, and no step raises while something is due.
structure Orderly (input : SweepInput) : Prop where
  addressed : ∀ row ∈ rowsOf input.openOrders, KeyedBy row.1 "order_id" (ownId row.1)
  closable : resolveAllowFlatten input = .ok true →
    ∀ row ∈ rowsOf input.positions, Closable row.1
  unbroken : Unbroken input.steps

theorem steps_due (input : SweepInput) : input.steps.filterMap Duty.due = input.due := by
  have cancels : ((rowsOf input.openOrders).map cancelDuty).filterMap Duty.due =
      (rowsOf input.openOrders).map fun row => dueCancel row.1 := by
    rw [List.filterMap_map]
    exact congrFun List.filterMap_eq_map _
  have closes : input.closing.filterMap Duty.due =
      if resolveAllowFlatten input = .ok true then
        (rowsOf input.positions).filterMap (fun row => dueClose row.1) else [] := by
    unfold SweepInput.closing
    split
    · rw [List.filterMap_cons_none rfl, List.filterMap_map]
      rfl
    · rfl
  rw [SweepInput.steps, List.filterMap_append, List.filterMap_cons_none rfl, cancels,
    List.filterMap_cons_none rfl, closes, SweepInput.due]

theorem steps_owed (input : SweepInput) :
    ∀ step ∈ input.steps, step.due = none → step.sent = none := by
  intro step member free
  obtain opened | closed := List.mem_append.mp member
  · obtain rfl | cancel := List.mem_cons.mp opened
    · rfl
    · obtain ⟨row, -, rfl⟩ := List.mem_map.mp cancel
      cases free
  · obtain rfl | closing := List.mem_cons.mp closed
    · rfl
    · unfold SweepInput.closing at closing
      split at closing
      next =>
        obtain rfl | close := List.mem_cons.mp closing
        · rfl
        · obtain ⟨row, -, rfl⟩ := List.mem_map.mp close
          exact closeDuty_owed free
      next => cases closing

theorem steps_keyed {input : SweepInput} :
    (∀ step ∈ input.steps, step.sent = step.due) ↔
      (∀ row ∈ rowsOf input.openOrders, KeyedBy row.1 "order_id" (ownId row.1)) ∧
        (resolveAllowFlatten input = .ok true → ∀ row ∈ rowsOf input.positions, Closable row.1) := by
  have cancels (row : Answered) :
      (cancelDuty row).sent = (cancelDuty row).due ↔ KeyedBy row.1 "order_id" (ownId row.1) := by
    rw [cancelDuty, Option.some.injEq, show dueCancel row.1 = cancelRequest _ from rfl,
      cancelRequest_inj, eq_comm]
    exact keyedBy_iff
  have closes (row : Answered) : (closeDuty row).sent = (closeDuty row).due ↔ Closable row.1 :=
    closable_iff
  have closing : (∀ step ∈ input.closing, step.sent = step.due) ↔
      (resolveAllowFlatten input = .ok true → ∀ row ∈ rowsOf input.positions, Closable row.1) := by
    unfold SweepInput.closing
    split
    next permitted =>
      simp only [List.forall_mem_cons, List.forall_mem_map, closes, permitted, forall_true_left]
      exact and_iff_right rfl
    next forbidden => simp [forbidden]
  simp only [SweepInput.steps, List.forall_mem_append, List.forall_mem_cons, List.forall_mem_map,
    cancels, closing]
  exact ⟨fun ⟨⟨_, keyed⟩, _, close⟩ => ⟨keyed, close⟩, fun ⟨keyed, close⟩ => ⟨⟨rfl, keyed⟩, rfl, close⟩⟩

theorem sweepsAll_iff (broker : PyString) (input : SweepInput) :
    SweepsAll broker input ↔ Orderly input := by
  have sent : (leaves (flattenAndCancel broker input (sweepStart broker))).submitted =
      delivered input.steps := (flattenAndCancel_submits broker input _).1
  rw [SweepsAll, sent, ← steps_due, delivered_iff (steps_owed input), steps_keyed]
  exact ⟨fun ⟨⟨keyed, close⟩, clear⟩ => ⟨keyed, close, clear⟩,
    fun orderly => ⟨⟨orderly.addressed, orderly.closable⟩, orderly.unbroken⟩⟩

section Examples

omit [PyText]

def accepting : CallAnswers := ⟨.ok (.dict []), .ok none, .ok ()⟩

def unnamedOrder : PyDict := fields [("id", .str "o1")]

def unnamedSweep : SweepInput := ⟨some false, .ok none, .ok [(unnamedOrder, accepting)], .ok []⟩

-- The order is reported under an id key that reconcile reads, and the cancel carries none.
theorem sweepsAll_fails :
    ¬ ∀ (_ : PyText) (broker : PyString) (input : SweepInput), SweepsAll broker input := by
  intro all
  let _ := asciiText
  have sent : [cancelRequest .none] = [cancelRequest (.str "o1")] := all asciiText "robinhood" unnamedSweep
  cases cancelRequest_inj.mp (List.cons.inj sent).1

end Examples

end SynapseYield.Runtime
