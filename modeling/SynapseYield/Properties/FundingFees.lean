import Mathlib.Data.List.Perm.Subperm
import SynapseYield.Backtest.Funding
import SynapseYield.Shared.Firsts

set_option autoImplicit false

namespace SynapseYield.Backtest.Funding

open Shared Firsts

variable {Float : Type}

section Keys

-- The hour of a settlement, or none for the bars of all other hours
def slotOf (timestamp : Timestamp) : Option Nat :=
  if hourOf timestamp ∈ fundingHours then some (hourOf timestamp) else none

def callKey (call : Call Float) : PyString × Int × Option Nat :=
  (call.symbol, dateOf call.timestamp, slotOf call.timestamp)

def Dedup.Holds (sets : Dedup) (seen : List (PyString × Int × Option Nat)) : Prop :=
  (∀ symbol date, ∀ hour, (symbol, date, hour) ∈ sets.applied ↔ (symbol, date, some hour) ∈ seen) ∧
    ∀ symbol date, (symbol, date) ∈ sets.dailyDone ↔ (symbol, date, none) ∈ seen

theorem callKey_eq_some {call : Call Float} {symbol : PyString} {date : Int} {hour : Nat}
    (settles : hour ∈ fundingHours) :
    callKey call = (symbol, date, some hour) ↔
      (call.symbol = symbol ∧ dateOf call.timestamp = date) ∧ hourOf call.timestamp = hour := by
  have slot : slotOf call.timestamp = some hour ↔ hourOf call.timestamp = hour := by
    rw [slotOf]
    split
    next => exact Option.some_inj
    next unsettled =>
      refine iff_of_false (by simp) ?_
      rintro rfl
      exact unsettled settles
  rw [callKey, Prod.mk.injEq, Prod.mk.injEq, slot, and_assoc]

variable [Zero Float] [Mul Float] {call : Call Float} {sets : Dedup}
  {seen : List (PyString × Int × Option Nat)}

theorem calcCryptoFundingFee_fst (holds : sets.Holds seen) :
    (calcCryptoFundingFee sets call).1 = if callKey call ∉ seen then due call else 0 := by
  rw [calcCryptoFundingFee]
  by_cases settles : hourOf call.timestamp ∈ fundingHours
  · have key : callKey call =
        (call.symbol, dateOf call.timestamp, some (hourOf call.timestamp)) := by
      rw [callKey, slotOf, if_pos settles]
    simp only [if_pos settles, key, ← holds.1, ite_not]
    exact apply_ite Prod.fst _ _ _
  · have key : callKey call = (call.symbol, dateOf call.timestamp, none) := by
      rw [callKey, slotOf, if_neg settles]
    simp only [if_neg settles, key, ← holds.2, ite_not]
    exact apply_ite Prod.fst _ _ _

theorem calcCryptoFundingFee_holds (holds : sets.Holds seen) :
    (calcCryptoFundingFee sets call).2.Holds (callKey call :: seen) := by
  rw [calcCryptoFundingFee, callKey, slotOf]
  split
  next settles =>
    constructor
    · intro symbol date hour
      dsimp only
      split
      next old =>
        have old' := (holds.1 _ _ _).mp old
        rw [List.mem_cons, holds.1 symbol date hour, or_iff_right_of_imp]
        rintro same
        exact same ▸ old'
      next =>
        rw [List.mem_cons, List.mem_cons, holds.1]
        simp
    · intro symbol date
      dsimp only
      split <;> simp [holds.2]
  next settles =>
    constructor
    · intro symbol date hour
      dsimp only
      split <;> simp [holds.1]
    · intro symbol date
      dsimp only
      split
      next old =>
        have old' := (holds.2 _ _).mp old
        rw [List.mem_cons, holds.2 symbol date, or_iff_right_of_imp]
        rintro same
        exact same ▸ old'
      next =>
        rw [List.mem_cons, List.mem_cons, holds.2]
        simp

theorem fees_eq (holds : sets.Holds seen) (calls : List (Call Float)) :
    fees sets calls = (marked callKey seen calls).map fun entry =>
      if entry.2 then due entry.1 else 0 := by
  induction calls generalizing sets seen with
  | nil => rfl
  | cons call rest ih =>
    rw [fees, marked, List.map_cons, ih (calcCryptoFundingFee_holds holds),
      calcCryptoFundingFee_fst holds]
    simp only [decide_eq_true_eq]

end Keys

section Charges

variable [Zero Float] [Mul Float] [DecidableEq Float] (drive : Drive Float)

def Drive.charges : List (Call Float × Float) :=
  (drive.calls.zip (fees Dedup.empty drive.calls)).filter (·.2 ≠ 0)

def Drive.chargesOn (symbol : PyString) (date : Int) : List (Call Float × Float) :=
  drive.charges.filter fun charge =>
    charge.1.symbol = symbol ∧ dateOf charge.1.timestamp = date

def Drive.chargesAt (symbol : PyString) (date : Int) (hour : Nat) : List (Call Float × Float) :=
  (drive.chargesOn symbol date).filter fun charge => hourOf charge.1.timestamp = hour

def settlementTime (date : Int) (hour : Nat) : Int := date * dayNanos + hour * hourNanos

def feeOf (call : Call Float) (position : Position Float) : Float :=
  position.size * call.close.getD position.entryPrice * call.fundingRate * position.direction

/-- What the funding of a backtest is to be like -/
structure Drive.Funded : Prop where
  settlements : ∀ symbol date, ∀ hour ∈ fundingHours, (drive.chargesAt symbol date hour).length ≤ 1
  days : ∀ symbol date, (drive.chargesOn symbol date).length ≤ 3
  -- The bar of a settlement, at its first call
  held : ∀ before call after position, ∀ hour ∈ fundingHours,
    drive.calls = before ++ call :: after →
    call.timestamp = settlementTime (dateOf call.timestamp) hour →
    (∀ earlier ∈ before, earlier.symbol = call.symbol → earlier.timestamp ≠ call.timestamp) →
    call.positions call.symbol = some position →
    drive.chargesAt call.symbol (dateOf call.timestamp) hour =
      [(call, feeOf call position)].filter (·.2 ≠ 0)
  repeated : ∀ before call after again rest, drive.calls =
    before ++ call :: after ++ again :: rest →
    again.symbol = call.symbol → again.timestamp = call.timestamp →
    (fees Dedup.empty drive.calls)[before.length + 1 + after.length]? = some 0

def Drive.Owed (symbol : PyString) (date : Int) (slot : Option Nat) : Prop :=
  ∃ call, drive.calls.find? (fun call => callKey call = (symbol, date, slot)) = some call ∧
    due call ≠ 0

end Charges

section Paid

variable [Zero Float] [Mul Float] [DecidableEq Float] {drive : Drive Float} {symbol : PyString}
  {date : Int}

theorem empty_holds : Dedup.empty.Holds [] := by simp [Dedup.Holds, Dedup.empty]

theorem charges_eq : drive.charges =
    ((firsts callKey [] drive.calls).filter (due · ≠ 0)).map fun call => (call, due call) := by
  rw [Drive.charges, fees_eq empty_holds]
  nth_rewrite 1 [← @marked_fst _ _ _ callKey [] drive.calls]
  rw [List.zip_map', firsts, List.filter_map, List.filter_map, List.map_map, List.filter_filter]
  have same : (marked callKey [] drive.calls).filter
        ((fun charge => decide (charge.2 ≠ 0)) ∘ fun entry =>
          (entry.1, if entry.2 = true then due entry.1 else 0)) =
      (marked callKey [] drive.calls).filter fun entry =>
        ((fun call => decide (due call ≠ 0)) ∘ fun entry => entry.1) entry && entry.2 := by
    refine List.filter_congr fun entry _ => ?_
    cases new : entry.2 <;> simp [new]
  rw [same]
  refine List.map_congr_left fun entry member => ?_
  have new := (Bool.and_eq_true_iff.mp (List.mem_filter.mp member).2).2
  simp [new]

theorem chargesOn_eq : drive.chargesOn symbol date =
    (((firsts callKey [] drive.calls).filter (due · ≠ 0)).filter fun call =>
      call.symbol = symbol ∧ dateOf call.timestamp = date).map fun call => (call, due call) := by
  rw [Drive.chargesOn, charges_eq, List.filter_map]
  rfl

def Drive.slotsOn (drive : Drive Float) (symbol : PyString) (date : Int) : List (Option Nat) :=
  (drive.chargesOn symbol date).map fun charge => slotOf charge.1.timestamp

theorem slotsOn_nodup : (drive.slotsOn symbol date).Nodup := by
  let paid := ((firsts callKey [] drive.calls).filter (due · ≠ 0)).filter fun call =>
    call.symbol = symbol ∧ dateOf call.timestamp = date
  have keys : (paid.map callKey).Nodup := by
    refine (@firsts_nodup _ _ _ callKey [] drive.calls).sublist (List.Sublist.map _ ?_)
    exact List.filter_sublist.trans List.filter_sublist
  have same : paid.map callKey =
      (drive.slotsOn symbol date).map fun slot => (symbol, date, slot) := by
    rw [Drive.slotsOn, chargesOn_eq, List.map_map, List.map_map]
    refine List.map_congr_left fun call member => ?_
    have here := (List.mem_filter.mp member).2
    rw [decide_eq_true_eq] at here
    rw [callKey, here.1, here.2]
    rfl
  exact (same ▸ keys).of_map _

theorem mem_slotsOn {slot : Option Nat} :
    slot ∈ drive.slotsOn symbol date ↔ drive.Owed symbol date slot := by
  rw [Drive.slotsOn, chargesOn_eq, List.map_map, List.mem_map]
  constructor
  · rintro ⟨call, member, rfl⟩
    simp only [List.mem_filter, decide_eq_true_eq] at member
    obtain ⟨⟨first, owes⟩, rfl, rfl⟩ := member
    exact ⟨call, mem_firsts.mp first, owes⟩
  · rintro ⟨call, found, owes⟩
    have key := List.find?_some found
    rw [decide_eq_true_eq] at key
    obtain ⟨symbol', rest⟩ := Prod.mk.inj key
    obtain ⟨date', slot'⟩ := Prod.mk.inj rest
    refine ⟨call, ?_, slot'⟩
    simp only [List.mem_filter, decide_eq_true_eq]
    exact ⟨⟨mem_firsts.mpr (key ▸ found), owes⟩, symbol', date'⟩

def slots : List (Option Nat) := [none, some 0, some 8, some 16]

theorem slotOf_mem (timestamp : Timestamp) : slotOf timestamp ∈ slots := by
  rw [slotOf]
  split
  next settles =>
    rw [fundingHours] at settles
    simpa [slots] using settles
  next => exact List.mem_cons_self

theorem days_iff : (drive.chargesOn symbol date).length ≤ 3 ↔
    ¬ ∀ slot ∈ slots, drive.Owed symbol date slot := by
  have count : (drive.chargesOn symbol date).length = (drive.slotsOn symbol date).length :=
    (List.length_map _).symm
  have among : drive.slotsOn symbol date ⊆ slots := by
    intro slot member
    obtain ⟨charge, -, rfl⟩ := List.mem_map.mp member
    exact slotOf_mem _
  simp only [← mem_slotsOn]
  constructor
  · intro few all
    have many : slots.length ≤ (drive.slotsOn symbol date).length :=
      ((by decide : slots.Nodup).subperm all).length_le
    exact absurd (many.trans (count ▸ few)) (by decide)
  · intro lacks
    by_contra many
    refine lacks fun slot member => ?_
    have four : slots.length ≤ (drive.slotsOn symbol date).length := by
      rw [← count]
      exact not_le.mp many
    exact ((slotsOn_nodup.subperm among).perm_of_length_le four).mem_iff.mpr member

theorem chargesAt_eq {hour : Nat} (settles : hour ∈ fundingHours) :
    drive.chargesAt symbol date hour =
      ((drive.calls.find? fun call => callKey call = (symbol, date, some hour)).toList.filter
        (due · ≠ 0)).map fun call => (call, due call) := by
  rw [Drive.chargesAt, chargesOn_eq, List.filter_map, List.filter_filter, List.filter_comm]
  have keyed := @firsts_key _ _ _ callKey [] drive.calls (symbol, date, some hour)
  rw [if_neg List.not_mem_nil] at keyed
  rw [← keyed]
  refine congrArg (fun calls => List.map _ (List.filter _ calls)) (List.filter_congr ?_)
  intro call _
  rw [Bool.eq_iff_iff, Bool.and_eq_true, decide_eq_true_eq, decide_eq_true_eq,
    callKey_eq_some settles, and_comm]
  exact and_congr_right fun _ => decide_eq_true_iff

theorem settlement_once {hour : Nat} (settles : hour ∈ fundingHours) :
    (drive.chargesAt symbol date hour).length ≤ 1 := by
  rw [chargesAt_eq settles, List.length_map]
  refine (List.length_filter_le _ _).trans ?_
  cases drive.calls.find? _ <;> simp

theorem clock_eq (timestamp : Int) (date : Int) (hour : Nat) :
    dateOf timestamp = timestamp / 86400000000000 ∧
      hourOf timestamp = (timestamp % 86400000000000 / 3600000000000).toNat ∧
      settlementTime date hour = date * 86400000000000 + hour * 3600000000000 := ⟨rfl, rfl, rfl⟩

theorem settlementTime_le {timestamp : Int} {hour : Nat}
    (same : hourOf timestamp = hour) : settlementTime (dateOf timestamp) hour ≤ timestamp := by
  obtain ⟨isDate, isHour, isTime⟩ := clock_eq timestamp (dateOf timestamp) hour
  omega

theorem hourOf_sharp {timestamp : Int} {hour : Nat} (settles : hour ∈ fundingHours)
    (sharp : timestamp = settlementTime (dateOf timestamp) hour) : hourOf timestamp = hour := by
  have small : hour < 24 := by
    simp only [fundingHours, List.mem_cons, List.not_mem_nil, or_false] at settles
    omega
  obtain ⟨isDate, isHour, isTime⟩ := clock_eq timestamp (dateOf timestamp) hour
  omega

theorem held_charged {before after : List (Call Float)} {call : Call Float}
    {position : Position Float} {hour : Nat} (settles : hour ∈ fundingHours)
    (split : drive.calls = before ++ call :: after)
    (sharp : call.timestamp = settlementTime (dateOf call.timestamp) hour)
    (fresh : ∀ earlier ∈ before, earlier.symbol = call.symbol →
      earlier.timestamp ≠ call.timestamp)
    (holds : call.positions call.symbol = some position) :
    drive.chargesAt call.symbol (dateOf call.timestamp) hour =
      [(call, feeOf call position)].filter (·.2 ≠ 0) := by
  have own : callKey call = (call.symbol, dateOf call.timestamp, some hour) := by
    exact (callKey_eq_some settles).mpr ⟨⟨rfl, rfl⟩, hourOf_sharp settles sharp⟩
  have found : drive.calls.find? (fun other => callKey other =
      (call.symbol, dateOf call.timestamp, some hour)) = some call := by
    rw [split, List.find?_append, List.find?_eq_none.mpr, Option.none_or, List.find?_cons_of_pos]
    · simpa using own
    · intro earlier member same
      rw [decide_eq_true_eq, callKey_eq_some settles] at same
      obtain ⟨⟨symbol, date⟩, hour'⟩ := same
      have ascending := drive.ascending
      rw [split] at ascending
      have early := (List.pairwise_append.mp ascending).2.2 earlier member call List.mem_cons_self
      have late := settlementTime_le hour'
      rw [date, ← sharp] at late
      exact fresh earlier member symbol (early.antisymm late)
  have owed : due call = feeOf call position := by
    rw [due, holds, feeOf]
  rw [chargesAt_eq settles, found, Option.toList_some, ← owed]
  by_cases free : due call = 0 <;> simp [free]

omit [DecidableEq Float] in
theorem repeated_free {before after rest : List (Call Float)} {call again : Call Float}
    (split : drive.calls = before ++ call :: after ++ again :: rest)
    (symbol : again.symbol = call.symbol) (time : again.timestamp = call.timestamp) :
    (fees Dedup.empty drive.calls)[before.length + 1 + after.length]? = some 0 := by
  have same : callKey again = callKey call := by
    rw [callKey, callKey, symbol, time]
  have count : before.length + 1 + after.length = (before ++ call :: after).length := by
    rw [List.length_append, List.length_cons]
    omega
  have old : callKey again ∈ ((before ++ call :: after).map callKey).reverse ++ [] := by
    rw [same, List.append_nil, List.mem_reverse]
    exact List.mem_map_of_mem (List.mem_append_right _ List.mem_cons_self)
  have length : (marked callKey [] (before ++ call :: after)).length =
      (before ++ call :: after).length := by
    rw [← List.length_map (·.1), marked_fst]
  rw [fees_eq empty_holds, List.getElem?_map, split, count, marked_append,
    List.getElem?_append_right length.le, length, Nat.sub_self, marked]
  simp only [List.getElem?_cons_zero, Option.map_some, old, not_true, decide_false,
    Bool.false_eq_true, if_false]

theorem funded_iff_days : drive.Funded ↔
    ∀ symbol date, (drive.chargesOn symbol date).length ≤ 3 := by
  constructor
  · exact Drive.Funded.days
  · intro few
    refine ⟨fun _ _ _ settles => settlement_once settles, few, ?_, ?_⟩
    · intro before call after position hour settles split sharp fresh holds
      exact held_charged settles split sharp fresh holds
    · intro before call after again rest split symbol time
      exact repeated_free split symbol time

/-- The funding is as it should be exactly where no symbol owes a fee on one day at all three
settlements and at the first bar of another hour. Each fee is that of a settlement exactly where
nothing is owed at such a bar. -/
theorem funded_iff (drive : Drive Float) :
    (drive.Funded ↔ ∀ symbol date, ¬ ∀ slot ∈ slots, drive.Owed symbol date slot) ∧
    ((drive.Funded ∧ ∀ charge ∈ drive.charges, hourOf charge.1.timestamp ∈ fundingHours) ↔
      ∀ symbol date, ¬ drive.Owed symbol date none) := by
  have days : drive.Funded ↔ ∀ symbol date, ¬ ∀ slot ∈ slots, drive.Owed symbol date slot := by
    rw [funded_iff_days]
    exact forall₂_congr fun _ _ => days_iff
  refine ⟨days, ?_⟩
  constructor
  · rintro ⟨-, settled⟩ symbol date owed
    obtain ⟨charge, member, slot⟩ := List.mem_map.mp (mem_slotsOn.mpr owed)
    rw [slotOf, if_pos (settled charge (List.mem_of_mem_filter member))] at slot
    cases slot
  · intro unowed
    refine ⟨days.mpr fun symbol date all => unowed symbol date (all none (by decide)), ?_⟩
    intro charge member
    by_contra unsettled
    refine unowed charge.1.symbol (dateOf charge.1.timestamp) (mem_slotsOn.mp ?_)
    refine List.mem_map.mpr ⟨charge, List.mem_filter.mpr ⟨member, by simp⟩, ?_⟩
    rw [slotOf, if_neg unsettled]

end Paid

section Examples

def heldPosition : Position Int := ⟨1, 100, 2⟩

def hourlyCalls (hours : List Nat) : List (Call Int) :=
  hours.map fun hour => ⟨"BTC-USDT", some 100, hour * hourNanos, fun _ => some heldPosition, 1⟩

theorem fourHourly_ascending :
    (hourlyCalls [0, 4, 8, 12, 16, 20]).Pairwise (·.timestamp ≤ ·.timestamp) := by
  decide

def fourHourly : Drive Int := ⟨hourlyCalls [0, 4, 8, 12, 16, 20], fourHourly_ascending⟩

/-- A position that is held for a day of bars of four hours is charged four times. -/
theorem fourHourly_overcharged : ¬ fourHourly.Funded := by
  intro funded
  exact absurd (funded.days "BTC-USDT" 0) (by decide)

end Examples

end SynapseYield.Backtest.Funding
