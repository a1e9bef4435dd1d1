import SynapseYield.Domain.Decimal
import SynapseYield.Properties.Estimates

set_option autoImplicit false

namespace SynapseYield.OrderService

open Shared

structure SameIntent (a b : IntentFields) : Prop where
  accountId : a.accountId = b.accountId
  strategyName : a.strategyName = b.strategyName
  sourceSignalId : a.sourceSignalId = b.sourceSignalId
  symbol : a.symbol = b.symbol
  side : a.side = b.side
  orderType : a.orderType = b.orderType
  quantity : a.quantity.value = b.quantity.value
  limitPrice : a.limitPrice.map Decimal.value = b.limitPrice.map Decimal.value
  triggerPrice : a.triggerPrice.map Decimal.value = b.triggerPrice.map Decimal.value

-- The free texts of an intent, cut at the separator of the key.
def pieces (intent : IntentFields) : List (List Char) :=
  [intent.accountId, intent.strategyName.getD "", intent.sourceSignalId.getD "",
    intent.symbol].flatMap fun text => text.toList.splitOn '|'

theorem splitOn_intercalate (c : Char) {texts : List (List Char)} (some_text : texts ≠ []) :
    ([c].intercalate texts).splitOn c = texts.flatMap (·.splitOn c) := by
  induction texts with
  | nil => exact absurd rfl some_text
  | cons text rest ih =>
    cases rest with
    | nil => simp [List.intercalate]
    | cons next rest =>
      rw [List.intercalate_cons_cons, List.flatMap_cons, ← ih (by simp), List.append_assoc]
      exact List.splitOnP_append_cons text _ (by simp)

theorem coefficient_pos {d : Decimal} (positive : 0 < d.value) : 0 < d.coefficient := by
  unfold Decimal.value at positive
  split at positive
  next n _ =>
    have product : 0 < d.coefficient * 10 ^ n := by exact_mod_cast positive
    exact pos_of_mul_pos_left product (by positivity)
  next n _ => exact (Rat.mkRat_pos_iff _ (by positivity)).mp positive

def limitText (intent : IntentFields) : String :=
  match intent.limitPrice with
  | some price => if price.coefficient = 0 then "" else price.str
  | none => ""

def lastTexts (intent : IntentFields) : List (List Char) :=
  [intent.side.value.toList, intent.quantity.str.toList, (limitText intent).toList]

theorem limitText_some {intent : OrderIntent} {price : Decimal}
    (limited : intent.limitPrice = some price) :
    limitText intent.toIntentFields = price.str ∧ 0 < price.coefficient := by
  have positive := coefficient_pos (intent.limit_pos price limited)
  exact ⟨by simp [limitText, limited, positive.ne'], positive⟩

theorem limitText_injective {a b : OrderIntent}
    (same : limitText a.toIntentFields = limitText b.toIntentFields) :
    a.limitPrice = b.limitPrice := by
  cases first : a.limitPrice with
  | none =>
    cases second : b.limitPrice with
    | none => rfl
    | some price =>
      obtain ⟨text, positive⟩ := limitText_some second
      rw [text] at same
      simp only [limitText, first] at same
      exact absurd same.symm (Decimal.str_nonempty positive.le)
  | some price =>
    obtain ⟨text, positive⟩ := limitText_some first
    rw [text] at same
    cases second : b.limitPrice with
    | none =>
      simp only [limitText, second] at same
      exact absurd same (Decimal.str_nonempty positive.le)
    | some other =>
      obtain ⟨text', positive'⟩ := limitText_some second
      rw [text'] at same
      rw [Decimal.str_injective positive.le positive'.le same]

theorem side_injective {first second : OrderSide} (same : first.value = second.value) :
    first = second := by
  cases first <;> cases second <;> first | rfl | exact absurd same (by decide)

theorem lastTexts_whole (intent : OrderIntent) :
    (lastTexts intent.toIntentFields).flatMap (·.splitOn '|') = lastTexts intent.toIntentFields := by
  have whole {text : List Char} (free : '|' ∉ text) : text.splitOn '|' = [text] := by
    refine List.splitOnP_eq_singleton fun c member => ?_
    rw [beq_eq_false_iff_ne]
    rintro rfl
    exact free member
  have side : '|' ∉ intent.side.value.toList := by cases intent.side <;> decide
  have quantity := Decimal.str_characters (coefficient_pos intent.quantity_pos).le
  have limit : '|' ∉ (limitText intent.toIntentFields).toList := by
    cases limited : intent.limitPrice with
    | none => simp [limitText, limited]
    | some price =>
      obtain ⟨text, positive⟩ := limitText_some limited
      rw [text]
      exact Decimal.str_characters positive.le
  simp [lastTexts, whole side, whole quantity, whole limit]

theorem idempotencyKey_split (intent : OrderIntent) :
    (idempotencyKey intent.toIntentFields).toList.splitOn '|' =
      pieces intent.toIntentFields ++ lastTexts intent.toIntentFields := by
  rw [← lastTexts_whole]
  unfold idempotencyKey
  rw [String.toList_intercalate]
  refine (splitOn_intercalate '|' (by simp)).trans ?_
  simp only [pieces, lastTexts, List.map_cons, List.map_nil, List.flatMap_cons, List.flatMap_nil,
    List.append_nil, List.append_assoc]
  rfl

theorem idempotencyKey_iff (a b : OrderIntent) :
    idempotencyKey a.toIntentFields = idempotencyKey b.toIntentFields ↔
      pieces a.toIntentFields = pieces b.toIntentFields ∧ a.side = b.side ∧
        a.quantity = b.quantity ∧ a.limitPrice = b.limitPrice := by
  have texts : idempotencyKey a.toIntentFields = idempotencyKey b.toIntentFields ↔
      pieces a.toIntentFields ++ lastTexts a.toIntentFields =
        pieces b.toIntentFields ++ lastTexts b.toIntentFields := by
    rw [← idempotencyKey_split, ← idempotencyKey_split]
    constructor
    · intro same
      rw [same]
    · intro same
      have joined := congrArg (List.intercalate ['|']) same
      rw [List.intercalate_splitOn, List.intercalate_splitOn] at joined
      exact String.toList_injective joined
  rw [texts]
  constructor
  · intro same
    obtain ⟨heads, lasts⟩ := List.append_inj' same rfl
    simp only [lastTexts, List.cons.injEq, and_true] at lasts
    obtain ⟨side, quantity, limit⟩ := lasts
    exact ⟨heads, side_injective (String.toList_injective side),
      Decimal.str_injective (coefficient_pos a.quantity_pos).le (coefficient_pos b.quantity_pos).le
        (String.toList_injective quantity),
      limitText_injective (String.toList_injective limit)⟩
  · rintro ⟨heads, side, quantity, limit⟩
    simp [heads, lastTexts, limitText, side, quantity, limit]

-- The key tells the two intents apart where it has to, and only there.
structure Told (a b : IntentFields) : Prop where
  spelled : SameIntent a b → a.quantity = b.quantity ∧ a.limitPrice = b.limitPrice
  complete : a.side = b.side → a.quantity = b.quantity → a.limitPrice = b.limitPrice →
    pieces a = pieces b →
      a.accountId = b.accountId ∧ a.strategyName = b.strategyName ∧
      a.sourceSignalId = b.sourceSignalId ∧ a.symbol = b.symbol ∧ a.orderType = b.orderType ∧
      a.triggerPrice.map Decimal.value = b.triggerPrice.map Decimal.value

theorem keys_told_iff (a b : OrderIntent) :
    (idempotencyKey a.toIntentFields = idempotencyKey b.toIntentFields ↔
      SameIntent a.toIntentFields b.toIntentFields) ↔ Told a.toIntentFields b.toIntentFields := by
  rw [idempotencyKey_iff]
  constructor
  · intro agree
    refine ⟨fun same => (agree.mpr same).2.2, fun side quantity limit heads => ?_⟩
    have same := agree.mp ⟨heads, side, quantity, limit⟩
    exact ⟨same.accountId, same.strategyName, same.sourceSignalId, same.symbol, same.orderType,
      same.triggerPrice⟩
  · intro told
    constructor
    · rintro ⟨heads, side, quantity, limit⟩
      obtain ⟨accountId, strategyName, sourceSignalId, symbol, orderType, triggerPrice⟩ :=
        told.complete side quantity limit heads
      exact ⟨accountId, strategyName, sourceSignalId, symbol, side, orderType, by rw [quantity],
        by rw [limit], triggerPrice⟩
    · intro same
      refine ⟨?_, same.side, told.spelled same⟩
      simp only [pieces, same.accountId, same.strategyName, same.sourceSignalId, same.symbol]

section Creation

open LocalSim

variable {config : LocalSimConfig} {traceId orderId : String} {intent : OrderIntent} {w w' : World}
  {meets : Database → Order → ℚ → Prop} {db db' : Database}

def StoredFor (intent : OrderIntent) (orderId : String) (db : Database) : Prop :=
  ∃ row, db.orders.find? orderId = some row ∧
    row.idempotencyKey = idempotencyKey intent.toIntentFields

theorem StoredFor.step (stored : StoredFor intent orderId db) (step : Step config meets db db') :
    StoredFor intent orderId db' := by
  obtain ⟨row, found, key⟩ := stored
  obtain ⟨row', found', -, same⟩ := step.intent_kept found
  exact ⟨row', found', same.trans key⟩

variable (config) in
theorem createOrder_stored
    (run : transaction (createOrderFromIntent traceId intent) w = .ok orderId w') :
    StoredFor intent orderId w'.db ∧ w'.db.UniqueColumns ∧
      Step config anyFill w.db w'.db := by
  obtain ⟨mid, created, unique, rfl⟩ := transaction_ok run
  have step : Step config anyFill w.opened.db mid.db := createOrder_step created
  refine ⟨?_, unique, step⟩
  obtain ⟨_, -, ⟨existing, _, hit, rfl, rfl⟩ | ⟨orders, _, -, inserted, rfl, rfl⟩⟩ :=
    createOrder_ok created
  · have key := List.find?_some hit
    simp only [Bool.and_eq_true, beq_iff_eq] at key
    exact ⟨existing, Table.find?_of_mem (List.mem_of_find?_eq_some hit), key.1⟩
  · refine ⟨newOrder intent w.opened.serial w.opened.now, ?_, rfl⟩
    exact (Table.find?_insert inserted _).trans (if_pos rfl)

theorem sameOrder_iff {a b : OrderIntent} {first second : String} (unique : db.UniqueColumns)
    (stored : StoredFor a first db) (stored' : StoredFor b second db) :
    second = first ↔ idempotencyKey a.toIntentFields = idempotencyKey b.toIntentFields := by
  obtain ⟨row, found, key⟩ := stored
  obtain ⟨row', found', key'⟩ := stored'
  constructor
  · rintro rfl
    obtain rfl := Option.some.inj (found.symm.trans found')
    exact key.symm.trans key'
  · intro same
    have one : row = row' := List.inj_on_of_nodup_map unique.1 (Table.find?_mem found)
      (Table.find?_mem found') (key.trans (same.trans key'.symm))
    rw [← Table.find?_key found, ← Table.find?_key found', one]

-- The keys agree for one intent only, and so the order that was created for one intent is
-- returned for another just when it is the same intent again.
def Repeats (a b : OrderIntent) : Prop :=
  (idempotencyKey a.toIntentFields = idempotencyKey b.toIntentFields ↔
    SameIntent a.toIntentFields b.toIntentFields) ∧
  ∀ (config : LocalSimConfig) (w created later w' : World) (traceId traceId' first second : String),
    transaction (createOrderFromIntent traceId a) w = .ok first created →
    Run (Allowed config anyFill) created later →
    transaction (createOrderFromIntent traceId' b) later = .ok second w' →
      (second = first ↔ SameIntent a.toIntentFields b.toIntentFields)

theorem repeats_iff (a b : OrderIntent) :
    Repeats a b ↔ Told a.toIntentFields b.toIntentFields := by
  rw [← keys_told_iff]
  constructor
  · exact fun repeats => repeats.1
  · intro agree
    refine ⟨agree, fun config w created later w' traceId traceId' first second run between again => ?_⟩
    obtain ⟨stored, -, -⟩ := createOrder_stored config run
    have kept : StoredFor a first later.db :=
      (run_steps between).keeps (fun _ _ step inv => inv.step step) stored
    obtain ⟨stored', unique, step⟩ := createOrder_stored config again
    rw [← agree]
    exact sameOrder_iff unique (kept.step step) stored'

end Creation

-- The take profit and the stop loss of one position, at one price.
theorem repeats_fails :
    ¬ Repeats (limitIntent .sell .limitIfTouched 10 100) (limitIntent .sell .stopLimit 10 100) := by
  rintro ⟨agree, -⟩
  have same := agree.mp (by decide +kernel)
  exact absurd same.orderType (by decide)

end SynapseYield.OrderService
