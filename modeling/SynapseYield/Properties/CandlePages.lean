import SynapseYield.Backtest.Candles
import SynapseYield.Shared.Paging

set_option autoImplicit false

namespace SynapseYield.Backtest

open Shared StableSort Paging

section Frames

variable {candles : List (Candle Int)} {rows : List (Candle Int)} {startTs endTs : Int}

def inRange (startTs endTs : Int) (candle : Candle Int) : Bool :=
  startTs ≤ candle.time && candle.time < endTs

theorem sortBy_of_ascending (ascending : candles.Pairwise (·.time < ·.time)) :
    sortBy Candle.time candles = candles :=
  (ascending.imp le_of_lt).insertionSort_eq

theorem time_inj (ascending : candles.Pairwise (·.time < ·.time)) {x y : Candle Int}
    (mem : x ∈ candles) (mem' : y ∈ candles) (same : x.time = y.time) : x = y :=
  List.inj_on_of_nodup_map (List.pairwise_map.mpr (ascending.imp ne_of_lt)) mem mem' same

theorem sortBy_of_descending (ascending : candles.Pairwise (·.time < ·.time)) :
    sortBy Candle.time candles.reverse = candles := by
  have same : (sortBy Candle.time candles.reverse).Perm candles :=
    (List.perm_insertionSort _ _).trans candles.reverse_perm
  refine List.Perm.eq_of_pairwise (fun x y mem mem' le ge => ?_) sortBy_sorted
    (ascending.imp le_of_lt) same
  exact time_inj ascending (same.subset mem) mem' (le_antisymm le ge)

theorem cut_eq_iff {all some : List (Candle Int)} (p : Candle Int → Bool)
    (ascending : all.Pairwise (·.time < ·.time)) (part : some.Sublist all) :
    some.filter p = all.filter p ↔ ∀ candle ∈ all, p candle = true → candle ∈ some := by
  constructor
  · intro same candle mem holds
    have : candle ∈ all.filter p := List.mem_filter.mpr ⟨mem, holds⟩
    rw [← same] at this
    exact List.mem_of_mem_filter this
  · intro covered
    have distinct : (all.filter p).Nodup :=
      (ascending.filter p).imp fun before same => (same ▸ before).false
    refine (part.filter p).eq_of_length_le
      (List.subperm_of_subset distinct fun candle mem => ?_).length_le
    have ⟨mem, holds⟩ := List.mem_filter.mp mem
    exact List.mem_filter.mpr ⟨covered candle mem holds, holds⟩

end Frames

namespace Okx

structure Exchange where
  rows : List Row
  ascending : rows.Pairwise (·.ts < ·.ts)
  perPage : Nat

variable (exchange : Exchange) (toNumeric : PyString → Number) (expired : Nat → Bool)

def Exchange.older (after : Int) : List Row := (exchange.rows.filter (·.ts < after)).reverse

def Exchange.request (limit : Nat) (after : Int) : Except PyError Reply :=
  .ok ⟨"0", (exchange.older after).take (min limit exchange.perPage)⟩

def deadline (expired : Nat → Bool) (page : Nat) : Option PyError :=
  if expired page then some .osError else none

def Exchange.pager (startTs : Int) : Pager Row PyError where
  asked := maxPerPage
  served := min maxPerPage exchange.perPage
  keep := Row.confirmed
  past row := row.ts ≤ startTs
  expired := deadline expired

def wanted (startTs : Int) (row : Row) : Bool :=
  row.confirmed && startTs ≤ row.ts && (row.candle toNumeric).priced

/-- The confirmed candles of the range, or an exception. -/
def Exchange.Complete (startTs endTs : Int) (maxPages : Nat) : Prop :=
  match fetchCandles exchange.request expired toNumeric startTs endTs maxPages with
  | .error _ => True
  | .ok frame => frame.getD [] =
    (((exchange.rows.filter Row.confirmed).map (Row.candle toNumeric)).filter
      (inRange startTs endTs)).filter Candle.priced

variable {exchange expired}

theorem Exchange.older_pairwise {after : Int} :
    (exchange.older after).Pairwise fun newer row => decide (row.ts < newer.ts) = true := by
  rw [Exchange.older, List.pairwise_reverse]
  exact (exchange.ascending.filter _).imp decide_eq_true

theorem Exchange.mem_older {after : Int} {row : Row} :
    row ∈ exchange.older after ↔ row ∈ exchange.rows ∧ row.ts < after := by
  simp [Exchange.older]

theorem Exchange.older_of_le {before after : Int} (le : before ≤ after) :
    exchange.older before = (exchange.older after).filter (·.ts < before) := by
  rw [Exchange.older, Exchange.older, ← List.filter_reverse, ← List.filter_reverse,
    List.filter_filter]
  refine List.filter_congr fun row _ => ?_
  rw [Bool.eq_iff_iff]
  simp only [Bool.and_eq_true, decide_eq_true_iff]
  omega

theorem Exchange.older_next {startTs after : Int} {last : Row}
    (ends : ((exchange.pager expired startTs).reach
      ((exchange.older after).take (min maxPerPage exchange.perPage))).getLast? = some last) :
    exchange.older last.ts = (exchange.older after).drop ((exchange.pager expired startTs).reach
      ((exchange.older after).take (min maxPerPage exchange.perPage))).length := by
  have split := @Pager.reach_append_drop _ _ (exchange.pager expired startTs)
    (exchange.older after)
  have mem : last ∈ exchange.older after :=
    List.mem_of_mem_take (Pager.reach_starts.subset (List.mem_of_getLast? ends))
  rw [Exchange.older_of_le (Exchange.mem_older.mp mem).2.le]
  conv_lhs => rw [← split]
  refine filter_after (r := fun newer row : Row => decide (row.ts < newer.ts)) ?_ ?_ ends
  · rw [split]
    exact Exchange.older_pairwise
  · intro newer row before
    rw [decide_eq_true_iff] at before
    exact decide_eq_false before.not_gt

theorem Exchange.candleRows_succ {startTs after : Int} {left page : Nat}
    (live : expired page = false) :
    candleRows exchange.request expired startTs (left + 1) page after =
      let data := (exchange.older after).take (min maxPerPage exchange.perPage)
      let rows := data.filter Row.confirmed
      let oldest := (rows.getLast?.map Row.ts).getD startTs
      if data = [] then .ok []
      else if oldest ≤ startTs ∨ data.length < maxPerPage then .ok rows
      else do
        let older ← candleRows exchange.request expired startTs left (page + 1) oldest
        return rows ++ older := by
  rw [candleRows, live, if_neg Bool.false_ne_true]
  change (if ("0" : PyString) ≠ ("0" : PyString) ∨ _ then _ else _) = _
  simp only [ne_eq, not_true_eq_false, false_or]
  rfl

theorem Exchange.scan_succ {startTs after : Int} {left page : Nat}
    (live : expired page = false) :
    (exchange.pager expired startTs).scan (left + 1) page (exchange.older after) =
      let data := (exchange.older after).take (min maxPerPage exchange.perPage)
      match (data.filter Row.confirmed).getLast? with
      | none => .ok []
      | some last =>
        if last.ts ≤ startTs || data.length < maxPerPage then .ok (data.filter Row.confirmed)
        else do
          let older ← (exchange.pager expired startTs).scan left (page + 1)
            ((exchange.older after).drop ((exchange.pager expired startTs).reach data).length)
          return data.filter Row.confirmed ++ older := by
  have unexpired : (exchange.pager expired startTs).expired page = none := by
    simp [Exchange.pager, deadline, live]
  have filtered := @Pager.getLast?_filter _ _ (exchange.pager expired startTs)
    ((exchange.older after).take (min maxPerPage exchange.perPage))
  have served : (exchange.pager expired startTs).served = min maxPerPage exchange.perPage := rfl
  rw [Pager.scan, unexpired]
  have kept : (exchange.pager expired startTs).keep = Row.confirmed := rfl
  dsimp only
  rw [served, ← filtered, kept]
  cases (((exchange.older after).take (min maxPerPage exchange.perPage)).filter
    Row.confirmed).getLast? <;> rfl

theorem Exchange.candleRows_eq {startTs : Int} {left page : Nat} {after : Int} :
    candleRows exchange.request expired startTs left page after =
      (exchange.pager expired startTs).scan left page (exchange.older after) := by
  induction left generalizing page after with
  | zero => rfl
  | succ left ih =>
    cases late : expired page with
    | true => simp [candleRows, Pager.scan, Exchange.pager, deadline, late]
    | false =>
      rw [Exchange.candleRows_succ late, Exchange.scan_succ late]
      dsimp only
      cases ends : (((exchange.older after).take (min maxPerPage exchange.perPage)).filter
          Row.confirmed).getLast? with
      | none =>
        rw [List.getLast?_eq_none_iff.mp ends]
        simp
      | some last =>
        have some : (exchange.older after).take (min maxPerPage exchange.perPage) ≠ [] := by
          intro none
          rw [none] at ends
          cases ends
        have next := (@Exchange.older_next exchange expired startTs after _)
          (Pager.getLast?_filter.symm.trans ends)
        rw [if_neg some, ← next, ← ih]
        simp only [Option.map_some, Option.getD_some, Bool.or_eq_true, decide_eq_true_iff]

variable {toNumeric}

theorem Exchange.candles_ascending :
    ((exchange.rows.filter Row.confirmed).map (Row.candle toNumeric)).Pairwise
      (·.time < ·.time) :=
  List.pairwise_map.mpr (exchange.ascending.filter _)

theorem Exchange.fetchCandles_ok {startTs endTs : Int} {maxPages : Nat} {rows : List Row}
    (fetched : candleRows exchange.request expired startTs maxPages 0 endTs = .ok rows) :
    exchange.Complete toNumeric expired startTs endTs maxPages ↔
      ((frame toNumeric rows startTs endTs).getD [] =
        (((exchange.rows.filter Row.confirmed).map (Row.candle toNumeric)).filter
          (inRange startTs endTs)).filter Candle.priced) := by
  rw [Exchange.Complete, fetchCandles, fetched]
  cases rows <;> rfl

theorem Exchange.rows_part {rows : List Row} {endTs : Int}
    (front : rows <+: (exchange.older endTs).filter Row.confirmed) :
    rows.reverse.Sublist (exchange.rows.filter Row.confirmed) := by
  refine front.sublist.reverse.trans ?_
  rw [Exchange.older, ← List.filter_reverse, List.reverse_reverse]
  exact List.filter_sublist.filter _

theorem Exchange.frame_eq {rows : List Row} {startTs endTs : Int}
    (front : rows <+: (exchange.older endTs).filter Row.confirmed) :
    (frame toNumeric rows startTs endTs).getD [] =
      ((rows.reverse.map (Row.candle toNumeric)).filter (inRange startTs endTs)).filter
        Candle.priced := by
  have ascending := (@Exchange.candles_ascending exchange toNumeric).sublist
    ((Exchange.rows_part front).map (Row.candle toNumeric))
  have sorted := sortBy_of_descending ascending
  rw [← List.map_reverse, List.reverse_reverse] at sorted
  rw [frame, frameOf_getD, sorted]
  rfl

theorem Exchange.frame_iff {rows : List Row} {startTs endTs : Int}
    (front : rows <+: (exchange.older endTs).filter Row.confirmed) :
    (frame toNumeric rows startTs endTs).getD [] =
        (((exchange.rows.filter Row.confirmed).map (Row.candle toNumeric)).filter
          (inRange startTs endTs)).filter Candle.priced ↔
      ∀ row ∈ exchange.older endTs, wanted toNumeric startTs row = true → row ∈ rows := by
  have part := (Exchange.rows_part front).map (Row.candle toNumeric)
  rw [Exchange.frame_eq front, List.filter_filter, List.filter_filter,
    cut_eq_iff _ Exchange.candles_ascending part]
  simp only [List.forall_mem_map, List.mem_filter, Bool.and_eq_true, inRange, wanted,
    decide_eq_true_iff, Exchange.mem_older, List.map_reverse, List.mem_reverse]
  constructor
  · rintro covered row ⟨mem, before⟩ ⟨⟨confirmed, since⟩, priced⟩
    obtain ⟨row', mem', same⟩ := List.mem_map.mp
      (covered row ⟨mem, confirmed⟩ ⟨priced, since, before⟩)
    have inHistory : row' ∈ exchange.rows :=
      List.mem_of_mem_filter ((Exchange.rows_part front).subset (List.mem_reverse.mpr mem'))
    have at_once : row'.ts = row.ts := congrArg Candle.time same
    rwa [← List.inj_on_of_nodup_map (List.pairwise_map.mpr (exchange.ascending.imp ne_of_lt))
      inHistory mem at_once]
  · rintro covered row ⟨mem, confirmed⟩ ⟨priced, since, before⟩
    exact List.mem_map_of_mem (covered row ⟨mem, before⟩ ⟨⟨confirmed, since⟩, priced⟩)

theorem Exchange.complete_iff (startTs endTs : Int) (maxPages : Nat) :
    exchange.Complete toNumeric expired startTs endTs maxPages ↔
      (exchange.pager expired startTs).Enough (wanted toNumeric startTs) maxPages 0
        (exchange.older endTs) := by
  have correct := @Pager.scan_correct _ _ (exchange.pager expired startTs) (wanted toNumeric startTs)
    (exchange.older endTs)
    (fun row want => by simp only [wanted, Bool.and_eq_true] at want; exact want.1.1)
    maxPages 0 (exchange.older_pairwise.imp fun before same => by simp [same] at before)
    (exchange.older_pairwise.imp fun before past => by
      simp only [Exchange.pager, decide_eq_true_iff] at past before
      rw [wanted, decide_eq_false (by omega), Bool.and_false, Bool.false_and])
  rw [← Exchange.candleRows_eq] at correct
  cases fetched : candleRows exchange.request expired startTs maxPages 0 endTs with
  | error raised =>
    rw [fetched] at correct
    refine iff_of_true ?_ correct
    rw [Exchange.Complete, fetchCandles, fetched]
    trivial
  | ok rows =>
    rw [fetched] at correct
    obtain ⟨front, covers⟩ := correct
    rw [Exchange.fetchCandles_ok fetched, covers]
    exact Exchange.frame_iff front

end Okx

namespace Ccxt

structure Exchange where
  rows : List (Candle Int)
  ascending : rows.Pairwise (·.time < ·.time)
  perPage : Nat

variable (exchange : Exchange) (expired : Nat → Bool)

def Exchange.newer (since : Int) : List (Candle Int) := exchange.rows.filter (since ≤ ·.time)

def Exchange.fetchOhlcv (since : Int) (limit : Nat) : Except PyError (List (Candle Int)) :=
  .ok ((exchange.newer since).take (min limit exchange.perPage))

def Exchange.pager (endMs : Int) : Pager (Candle Int) PyError where
  asked := limit
  served := min limit exchange.perPage
  keep _ := true
  past candle := endMs ≤ candle.time
  expired := Okx.deadline expired

def wanted (endMs : Int) (candle : Candle Int) : Bool := candle.time < endMs && candle.priced

/-- The candles of the range, or an exception. -/
def Exchange.Complete (sinceMs endMs : Int) : Prop :=
  match fetchOne exchange.fetchOhlcv expired sinceMs endMs with
  | .error _ => True
  | .ok frame => frame.getD [] =
    (exchange.rows.filter (inRange sinceMs endMs)).filter Candle.priced

variable {exchange expired}

theorem Exchange.newer_pairwise {since : Int} :
    (exchange.newer since).Pairwise fun older candle => decide (older.time < candle.time) = true :=
  (exchange.ascending.filter _).imp decide_eq_true

theorem Exchange.mem_newer {since : Int} {candle : Candle Int} :
    candle ∈ exchange.newer since ↔ candle ∈ exchange.rows ∧ since ≤ candle.time := by
  simp [Exchange.newer]

theorem Exchange.newer_next {endMs since : Int} {last : Candle Int}
    (ends : ((exchange.pager expired endMs).reach
      ((exchange.newer since).take (min limit exchange.perPage))).getLast? = some last) :
    exchange.newer (last.time + 1) = (exchange.newer since).drop
      ((exchange.pager expired endMs).reach
        ((exchange.newer since).take (min limit exchange.perPage))).length := by
  have split := @Pager.reach_append_drop _ _ (exchange.pager expired endMs)
    (exchange.newer since)
  have mem : last ∈ exchange.newer since :=
    List.mem_of_mem_take (Pager.reach_starts.subset (List.mem_of_getLast? ends))
  have begins := (Exchange.mem_newer.mp mem).2
  have narrowed : exchange.newer (last.time + 1) =
      (exchange.newer since).filter (last.time < ·.time) := by
    rw [Exchange.newer, Exchange.newer, List.filter_filter]
    refine List.filter_congr fun candle _ => ?_
    rw [Bool.eq_iff_iff]
    simp only [Bool.and_eq_true, decide_eq_true_iff]
    omega
  rw [narrowed]
  conv_lhs => rw [← split]
  refine filter_after (r := fun older candle : Candle Int => decide (older.time < candle.time))
    ?_ ?_ ends
  · rw [split]
    exact Exchange.newer_pairwise
  · intro older candle before
    rw [decide_eq_true_iff] at before
    exact decide_eq_false before.not_gt

theorem filter_keep {endMs : Int} (data : List (Candle Int)) :
    data.filter (exchange.pager expired endMs).keep = data :=
  List.filter_eq_self.mpr fun _ _ => rfl

theorem Exchange.ohlcvRows_eq {endMs since : Int} {left page : Nat} :
    ohlcvRows exchange.fetchOhlcv expired endMs left page since =
      (exchange.pager expired endMs).scan left page (exchange.newer since) := by
  induction left generalizing page since with
  | zero => rfl
  | succ left ih =>
    cases late : expired page with
    | true => simp [ohlcvRows, Pager.scan, Exchange.pager, Okx.deadline, late]
    | false =>
      have unexpired : (exchange.pager expired endMs).expired page = none := by
        simp [Exchange.pager, Okx.deadline, late]
      have served : (exchange.pager expired endMs).served = min limit exchange.perPage := rfl
      rw [ohlcvRows, late, if_neg Bool.false_ne_true, Pager.scan, unexpired]
      dsimp only
      rw [served, ← Pager.getLast?_filter, filter_keep]
      have fetched : exchange.fetchOhlcv since limit =
          .ok ((exchange.newer since).take (min limit exchange.perPage)) := rfl
      rw [fetched]
      dsimp only [bind, Except.bind]
      cases ends : ((exchange.newer since).take (min limit exchange.perPage)).getLast? with
      | none => rfl
      | some last =>
        have next := (@Exchange.newer_next exchange expired endMs since _)
          (Pager.getLast?_filter.symm.trans ((congrArg _ (filter_keep _)).trans ends))
        rw [← next, ← ih]
        dsimp only
        have stops : (endMs ≤ last.time ∨
            ((exchange.newer since).take (min limit exchange.perPage)).length < limit) ↔
            ((exchange.pager expired endMs).past last ||
              decide (((exchange.newer since).take (min limit exchange.perPage)).length <
                (exchange.pager expired endMs).asked)) = true := by
          rw [Bool.or_eq_true, decide_eq_true_iff]
          exact or_congr_left decide_eq_true_iff.symm
        rw [if_congr stops rfl rfl]
        rfl

theorem Exchange.complete_iff (sinceMs endMs : Int) :
    exchange.Complete expired sinceMs endMs ↔
      (exchange.pager expired endMs).Enough (wanted endMs) maxPages 0 (exchange.newer sinceMs) := by
  have correct := @Pager.scan_correct _ _ (exchange.pager expired endMs) (wanted endMs)
    (exchange.newer sinceMs) (fun _ _ => rfl) maxPages 0
    (exchange.newer_pairwise.imp fun before same => by simp [same] at before)
    (exchange.newer_pairwise.imp fun before past => by
      simp only [Exchange.pager, decide_eq_true_iff] at past before
      rw [wanted, decide_eq_false (by omega), Bool.false_and])
  rw [← Exchange.ohlcvRows_eq] at correct
  cases fetched : ohlcvRows exchange.fetchOhlcv expired endMs maxPages 0 sinceMs with
  | error raised =>
    rw [fetched] at correct
    refine iff_of_true ?_ correct
    rw [Exchange.Complete, fetchOne, fetched]
    trivial
  | ok rows =>
    rw [fetched] at correct
    obtain ⟨front, covers⟩ := correct
    rw [filter_keep] at front
    have part : rows.Sublist exchange.rows := front.sublist.trans List.filter_sublist
    have framed : exchange.Complete expired sinceMs endMs ↔
        (((sortBy Candle.time rows).filter (inRange sinceMs endMs)).filter Candle.priced =
          (exchange.rows.filter (inRange sinceMs endMs)).filter Candle.priced) := by
      rw [Exchange.Complete, fetchOne, fetched]
      cases rows with
      | nil => rfl
      | cons row rows =>
        change (frameOf _).getD [] = _ ↔ _
        rw [frameOf_getD]
        rfl
    rw [framed, covers, sortBy_of_ascending (exchange.ascending.sublist part),
      List.filter_filter, List.filter_filter, cut_eq_iff _ exchange.ascending part]
    simp only [Bool.and_eq_true, inRange, wanted, decide_eq_true_iff, Exchange.mem_newer]
    constructor
    · rintro covered candle ⟨mem, since⟩ ⟨before, priced⟩
      exact covered candle mem ⟨priced, since, before⟩
    · rintro covered candle mem ⟨priced, since, before⟩
      exact covered candle ⟨mem, since⟩ ⟨before, priced⟩

end Ccxt

/-- Both downloads are complete, or raise, where no page short of the limit, without confirmed rows
or beyond the number of pages ends them before the last of the wanted candles. -/
theorem downloads_iff (okx : Okx.Exchange) (ccxt : Ccxt.Exchange) (toNumeric : PyString → Number)
    (expired : Nat → Bool) (startTs endTs : Int) (maxPages : Nat) :
    (okx.Complete toNumeric expired startTs endTs maxPages ∧
        ccxt.Complete expired startTs endTs) ↔
      (okx.pager expired startTs).Enough (Okx.wanted toNumeric startTs) maxPages 0
          (okx.older endTs) ∧
        (ccxt.pager expired endTs).Enough (Ccxt.wanted endTs) Ccxt.maxPages 0
          (ccxt.newer startTs) :=
  and_congr (Okx.Exchange.complete_iff ..) (Ccxt.Exchange.complete_iff ..)

-- Replies of one candle, where there are two: the first page is taken for the last.
def okxRow (ts : Int) : Okx.Row := ⟨ts, "10", "11", "9", "10", "1", "1"⟩

def okxRows : List Okx.Row := [okxRow 0, okxRow 86400000]

theorem okxRows_ascending : okxRows.Pairwise (·.ts < ·.ts) := by decide

def okxOnePerPage : Okx.Exchange := ⟨okxRows, okxRows_ascending, 1⟩

def ccxtRow (time : Int) : Candle Int :=
  ⟨time, .finite 10, .finite 11, .finite 9, .finite 10, .finite 1⟩

def ccxtRows : List (Candle Int) := [ccxtRow 0, ccxtRow 86400000]

theorem ccxtRows_ascending : ccxtRows.Pairwise (·.time < ·.time) := by decide

def ccxtOnePerPage : Ccxt.Exchange := ⟨ccxtRows, ccxtRows_ascending, 1⟩

def numeric (text : PyString) : Number := (Ascii.parseFloat text).getD .nan

def inTime (_page : Nat) : Bool := false

theorem shortPages_truncate :
    ¬ okxOnePerPage.Complete numeric inTime 0 172800000 20 ∧
      ¬ ccxtOnePerPage.Complete inTime 0 172800000 := by
  have pages : Ccxt.maxPages = 199 + 1 := rfl
  rw [Okx.Exchange.complete_iff, Ccxt.Exchange.complete_iff, pages,
    Pager.enough_iff_of_short (by decide) rfl, Pager.enough_iff_of_short (by decide) rfl]
  decide +kernel

end SynapseYield.Backtest
