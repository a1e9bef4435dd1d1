import SynapseYield.Shared.Fifo
import SynapseYield.Tools.TradeJournal

set_option autoImplicit false

namespace SynapseYield.Tools

open Shared

abbrev Placed := JournalRow × Nat

theorem fifoDust_nonneg : 0 ≤ fifoDust := by decide +kernel

def journalBook : Fifo.Book Placed PyString where
  buys order := order.1.isBuy
  key order := order.1.symbol
  quantity order := order.1.quantity
  dust := fifoDust
  dust_nonneg := fifoDust_nonneg

def orders (df : List JournalRow) : List Placed := df.zipIdx

-- The states of the inner loop, each before what it does
def turns (df : List JournalRow) : List (Fifo.Turn Placed) := journalBook.turns (orders df)

def lotOf (lot : Fifo.Lot Placed) : OpenLot := { lot.buy.1.lot with qty := lot.left }

def report (turn : Fifo.Turn Placed) : Roundtrip :=
  roundtrip turn.sell.1 (lotOf turn.lot) turn.take

def chargedBuy (turn : Fifo.Turn Placed) : ℚ := (lotOf turn.lot).buyFee turn.take

def chargedSell (turn : Fifo.Turn Placed) : ℚ := turn.sell.1.sellFee turn.take

structure Reports (turn : Fifo.Turn Placed) (trip : Roundtrip) : Prop where
  symbol : trip.symbol = turn.sell.1.symbol
  opened : trip.buyDt = turn.lot.buy.1.datetime ∧ trip.buyPrice = turn.lot.buy.1.price
  closed : trip.sellDt = turn.sell.1.datetime ∧ trip.sellPrice = turn.sell.1.price
  qty : trip.qty = turn.take
  pnl : trip.pnl = roundTo 2 ((turn.sell.1.price - turn.lot.buy.1.price) * turn.take -
    chargedBuy turn - chargedSell turn)

theorem report_reports (turn : Fifo.Turn Placed) : Reports turn (report turn) :=
  ⟨rfl, ⟨rfl, rfl⟩, ⟨rfl, rfl⟩, rfl, rfl⟩

/-- The roundtrips are turns at the oldest open buys, and what they take and charge is what the
rows of the journal have. -/
structure PairsJournal (df : List JournalRow) : Prop where
  reported : pairTradesFifo df = (turns df).map report
  told : List.Forall₂ Reports (turns df) (pairTradesFifo df)
  oldest : ∀ before turn later, turns df = before ++ turn :: later →
    journalBook.Sound (orders df) before turn
  served : ∀ sell ∈ orders df, sell.1.isBuy = false →
    journalBook.Served (orders df) (turns df) sell
  bought : ∀ buy ∈ orders df, buy.1.isBuy = true →
    Fifo.bought (turns df) buy ≤ buy.1.quantity
  buyFees : ∀ buy ∈ orders df, buy.1.isBuy = true →
    (((turns df).filter (·.lot.buy = buy)).map chargedBuy).sum =
      buy.1.fee * (Fifo.bought (turns df) buy / buy.1.quantity)
  sellFees : ∀ sell ∈ orders df, sell.1.isBuy = false →
    (((turns df).filter (·.sell = sell)).map chargedSell).sum =
      sell.1.fee * (Fifo.sold (turns df) sell / sell.1.quantity)

section Reported

variable {row : JournalRow} {place : Nat}

theorem matchSell_eq {fuel : Nat} {asked : ℚ} {lots : List (Fifo.Lot Placed)} :
    matchSell row fuel asked (lots.map lotOf) =
      let sold := journalBook.sell (row, place) fuel asked lots
      (sold.1.map report, sold.2.2.map lotOf) := by
  induction fuel generalizing asked lots with
  | zero => simp [matchSell, Fifo.Book.sell]
  | succ fuel ih =>
    cases lots with
    | nil => simp [matchSell, Fifo.Book.sell]
    | cons lot rest =>
      rw [List.map_cons, matchSell, Fifo.Book.sell]
      split
      next more =>
        have more' : journalBook.dust < asked := more
        let left := lot.left - min lot.left asked
        have step := @ih (asked - min lot.left asked)
          (if left ≤ fifoDust then rest else ⟨lot.buy, left⟩ :: rest)
        rw [apply_ite (List.map lotOf)] at step
        simp only [if_pos more']
        exact congrArg (fun later => (report ⟨(row, place), asked, lot⟩ :: later.1, later.2)) step
      next small =>
        have small' : ¬ journalBook.dust < asked := small
        simp [small']

theorem pairFrom_eq {queues : PyString → List (Fifo.Lot Placed)} {rest : List Placed} :
    pairFrom (List.map lotOf ∘ queues) (rest.map Prod.fst) =
      (journalBook.turnsFrom queues rest).map report := by
  induction rest generalizing queues with
  | nil => rfl
  | cons order rest ih =>
    obtain ⟨row, place⟩ := order
    rw [List.map_cons, pairFrom, Fifo.Book.turnsFrom]
    cases isBuy : row.isBuy with
    | true =>
      have buys : journalBook.buys (row, place) = true := isBuy
      have step := @ih (Function.update queues row.symbol
        (queues row.symbol ++ [⟨(row, place), row.quantity⟩]))
      rw [Function.comp_update, List.map_append] at step
      simp only [buys, if_true]
      exact step
    | false =>
      have sells : journalBook.buys (row, place) = false := isBuy
      have matched := @matchSell_eq row place ((queues row.symbol).length + 1) row.quantity
        (queues row.symbol)
      let sold := journalBook.sell (row, place) ((queues row.symbol).length + 1) row.quantity
        (queues row.symbol)
      have step := @ih (Function.update queues row.symbol sold.2.2)
      rw [Function.comp_update] at step
      simp only [sells, Bool.false_eq_true, if_false, Function.comp_apply, List.length_map, matched,
        List.map_append]
      exact congrArg (sold.1.map report ++ ·) step

theorem pairTradesFifo_eq (df : List JournalRow) :
    pairTradesFifo df = (turns df).map report := by
  have paired := @pairFrom_eq (fun _ => []) (orders df)
  rw [orders, List.zipIdx_map_fst] at paired
  exact paired

end Reported

section Journal

variable {df : List JournalRow}

theorem orders_nodup (df : List JournalRow) : (orders df).Nodup := by
  refine List.Nodup.of_map Prod.snd ?_
  rw [orders, List.zipIdx_map_snd]
  exact List.nodup_range'

theorem orders_positive (positive : ∀ row ∈ df, 0 < row.quantity) :
    ∀ order ∈ orders df, 0 < journalBook.quantity order := fun order mem =>
  positive order.1 (List.fst_mem_of_mem_zipIdx mem)

theorem turns_inTurn (positive : ∀ row ∈ df, 0 < row.quantity) :
    journalBook.InTurn (orders df) (turns df) :=
  Fifo.Book.turns_inTurn (orders_nodup df) (orders_positive positive)

theorem chargedSell_eq {turn : Fifo.Turn Placed} (positive : 0 < turn.sell.1.quantity) :
    chargedSell turn = turn.sell.1.fee * (turn.take / turn.sell.1.quantity) :=
  if_pos positive.ne'

theorem chargedBuy_eq {turn : Fifo.Turn Placed} (left : 0 < turn.lot.left) :
    chargedBuy turn = turn.lot.buy.1.fee * (turn.take / turn.lot.left) :=
  if_pos left.ne'

theorem sellFees (positive : ∀ row ∈ df, 0 < row.quantity) {sell : Placed}
    (mem : sell ∈ orders df) :
    (((turns df).filter (·.sell = sell)).map chargedSell).sum =
      sell.1.fee * (Fifo.sold (turns df) sell / sell.1.quantity) := by
  rw [Fifo.sold_div, ← List.sum_map_mul_left]
  refine congrArg List.sum (List.map_congr_left fun turn among => ?_)
  obtain rfl : turn.sell = sell := by simpa using (List.mem_filter.mp among).2
  exact chargedSell_eq (orders_positive positive _ mem)

theorem buyFees_iff (positive : ∀ row ∈ df, 0 < row.quantity) {buy : Placed} :
    (((turns df).filter (·.lot.buy = buy)).map chargedBuy).sum =
        buy.1.fee * (Fifo.bought (turns df) buy / buy.1.quantity) ↔
      ∀ turn ∈ turns df, turn.lot.buy = buy → turn.lot.left = buy.1.quantity ∨ buy.1.fee = 0 := by
  have charged : ((turns df).filter (·.lot.buy = buy)).map chargedBuy =
      ((turns df).filter (·.lot.buy = buy)).map fun turn =>
        buy.1.fee * (turn.take / turn.lot.left) := by
    refine List.map_congr_left fun turn among => ?_
    obtain ⟨mem, same⟩ := List.mem_filter.mp among
    obtain rfl : turn.lot.buy = buy := by simpa using same
    exact chargedBuy_eq ((turns_inTurn positive).left_le mem).1
  rw [charged, List.sum_map_mul_left]
  have shares := (turns_inTurn positive).shares_iff buy
  by_cases free : buy.1.fee = 0
  · simp [free]
  · simp only [free, or_false]
    rw [mul_right_inj' free]
    exact shares

theorem pairsJournal_iff (positive : ∀ row ∈ df, 0 < row.quantity) :
    PairsJournal df ↔
      ∀ turn ∈ turns df, turn.lot.left = turn.lot.buy.1.quantity ∨ turn.lot.buy.1.fee = 0 := by
  have inTurn := turns_inTurn positive
  constructor
  · intro pairs turn mem
    obtain ⟨before, -, sound⟩ := inTurn.exists_sound mem
    exact (buyFees_iff positive).mp
      (pairs.buyFees _ (sound.earlier.subset (by simp)) sound.buys) turn mem rfl
  · intro whole
    refine ⟨pairTradesFifo_eq df, ?_, fun before turn later split => (inTurn.split split).2,
      fun sell mem sells => ?_, fun buy mem buys => ?_, fun buy _ _ => ?_,
      fun sell mem _ => sellFees positive mem⟩
    · rw [pairTradesFifo_eq, List.forall₂_map_right_iff, List.forall₂_same]
      exact fun turn _ => report_reports turn
    · exact Fifo.Book.turns_served (orders_nodup df) (orders_positive positive) mem sells
    · exact Fifo.Book.turns_bought (orders_nodup df) (orders_positive positive) mem buys
    · refine (buyFees_iff positive).mpr fun turn mem same => ?_
      subst same
      exact whole turn mem

-- Two sells of one buy: the second is charged the whole fee again.
def splitJournal : List JournalRow :=
  [⟨0, "600519", "buy", 100, 10, 10⟩, ⟨86400, "600519", "sell", 50, 11, 0⟩,
    ⟨172800, "600519", "sell", 50, 12, 0⟩]

theorem splitJournal_overcharged :
    (∀ row ∈ splitJournal, 0 < row.quantity) ∧ ¬ PairsJournal splitJournal := by
  refine ⟨by decide +kernel, fun pairs => ?_⟩
  have charged := pairs.buyFees (⟨0, "600519", "buy", 100, 10, 10⟩, 0) (by decide +kernel)
    (by decide +kernel)
  revert charged
  decide +kernel

-- One sell for a buy, and a buy without a fee that two sells share
def fairJournal : List JournalRow :=
  [⟨0, "600519", "buy", 100, 10, 10⟩, ⟨86400, "600519", "sell", 100, 11, 5⟩,
    ⟨172800, "000858", "buy", 30, 12, 0⟩, ⟨259200, "000858", "sell", 10, 13, 1⟩,
    ⟨345600, "000858", "sell", 20, 14, 1⟩]

theorem fairJournal_pairs : PairsJournal fairJournal :=
  (pairsJournal_iff (by decide +kernel)).mpr (by decide +kernel)

end Journal

end SynapseYield.Tools
