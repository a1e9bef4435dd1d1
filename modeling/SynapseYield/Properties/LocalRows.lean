import SynapseYield.Backtest.LocalFiles
import SynapseYield.Shared.Outcome

set_option autoImplicit false

namespace SynapseYield.Backtest.LocalFiles

open Shared StableSort Outcome

section Rows

variable {Row : Type} (table : Table Row)

def columnsMapped (columns : List PyString) (colMap : ColumnMap) : Option Columns :=
  let source := sourceOf colMap
  if ∀ key ∈ [dateKey, openKey, highKey, lowKey, closeKey], source key ∈ columns then
    some
      { date := source dateKey
        open_ := source openKey
        high := source highKey
        low := source lowKey
        close := source closeKey
        volume := if source volumeKey ∈ columns then some (source volumeKey) else none }
  else none

-- The bar of a row, where its date parses to a time of the window and its prices are numbers that
-- pass validate_ohlc
def barOf (columns : Columns) (inWindow : ℚ → Bool) (row : Row) : Option (Candle ℚ) :=
  (table.dates columns.date).bind fun dates => (dates row).bind fun time =>
    let candle := candleAt table columns row time
    if candle.priced && isValid candle && inWindow time then some candle else none

def untilMidnight (start finish time : ℚ) : Bool := start ≤ time && time ≤ finish

def untilDayEnd (start finish time : ℚ) : Bool := start ≤ time && time < finish + 86400

def qualifying (colMap : ColumnMap) (start finish : ℚ) (row : Row) : Option (Candle ℚ) :=
  (columnsMapped table.columns colMap).bind fun columns =>
    barOf table columns (untilDayEnd start finish) row

/-- The bars are those of the rows that qualify, each from its row, and ascend. -/
structure Exact (colMap : ColumnMap) (start finish : ℚ) : Prop where
  ascending : (fetched table colMap start finish).Pairwise fun bar later =>
    bar.2.time ≤ later.2.time
  rows : (fetched table colMap start finish).Perm
    (table.rows.filterMap fun row => (qualifying table colMap start finish row).map fun candle =>
      (row, candle))

-- After the renaming the name is that of the column and of no other.
def NameOf (columns : List PyString) (colMap : ColumnMap) (name source : PyString) : Prop :=
  ∀ column ∈ columns, renamed columns colMap column = name ↔ column = source

/-- Each name that is used stands for the column that it is mapped to and for no other. A column
that has the name of a standard one, and is not the one that is mapped to it, has to be renamed
itself, and no two names may be mapped to one column. -/
structure Clear (columns : List PyString) (colMap : ColumnMap) : Prop where
  present : ∀ key ∈ [dateKey, openKey, highKey, lowKey, closeKey], sourceOf colMap key ∈ columns
  date : NameOf columns colMap (sourceOf colMap dateKey) (sourceOf colMap dateKey)
  standard : ∀ key ∈ [openKey, highKey, lowKey, closeKey, volumeKey],
    NameOf columns colMap key (sourceOf colMap key)
  tradeDate : (under columns colMap tradeDateKey).length ≤ 1

-- The bar of a row by the columns that have the names, up to the midnight that the last day
-- begins with
def standing (colMap : ColumnMap) (start finish : ℚ) (row : Row) : Option (Candle ℚ) :=
  match columnsRead table.columns colMap with
  | .ok (some read) => barOf table read (untilMidnight start finish) row
  | _ => none

/-- The names are clear and no row that qualifies is later than the midnight that the last day
begins with, or they are not and the columns that have them instead, if any, happen to give for
every row what those of the map do. -/
def Sound (colMap : ColumnMap) (start finish : ℚ) : Prop :=
  (Clear table.columns colMap ∧
    ∀ row ∈ table.rows, ∀ candle, qualifying table colMap start finish row = some candle →
      candle.time ≤ finish) ∨
  (¬ Clear table.columns colMap ∧
    ∀ row ∈ table.rows, standing table colMap start finish row =
      qualifying table colMap start finish row)

end Rows

section Fetched

variable {Row : Type} {table : Table Row} {colMap : ColumnMap} {start finish : ℚ} {read : Columns}

def paired {Row : Type} (bar : Row → Option (Candle ℚ)) (row : Row) : Option (Row × Candle ℚ) :=
  (bar row).map fun candle => (row, candle)

def passes (start finish : ℚ) (bar : Row × Candle ℚ) : Bool :=
  bar.2.priced && (isValid bar.2 && untilMidnight start finish bar.2.time)

theorem filtered (bars : Bars Row) :
    ((bars.filter fun bar => bar.2.priced).filter fun bar => isValid bar.2).filter
      (fun bar => start ≤ bar.2.time && bar.2.time ≤ finish) =
    bars.filter (passes start finish) := by
  rw [List.filter_filter, List.filter_filter]
  refine List.filter_congr fun bar _ => ?_
  rw [passes, untilMidnight, Bool.and_comm, Bool.and_comm (isValid bar.2), Bool.and_assoc]

theorem filtered_row (row : Row) (time : ℚ) :
    ((some (row, candleAt table read row time)).filter (passes start finish)) =
    (if (candleAt table read row time).priced && isValid (candleAt table read row time) &&
      untilMidnight start finish time then some (candleAt table read row time) else none).map
        fun candle => (row, candle) := by
  have same : (candleAt table read row time).time = time := rfl
  generalize candleAt table read row time = candle at same
  subst same
  rw [Option.filter_some, passes, Bool.and_assoc]
  split <;> rfl

theorem filtered_rows {dates : Row → Option ℚ} (rows : List Row)
    (parsed : table.dates read.date = some dates) :
    (((rows.filterMap fun row => (dates row).map fun time => (row, time)).map fun entry =>
      (entry.1, candleAt table read entry.1 entry.2)).filter (passes start finish)) =
    rows.filterMap (paired (barOf table read (untilMidnight start finish))) := by
  rw [List.map_filterMap, List.filter_filterMap]
  refine List.filterMap_congr fun row _ => ?_
  rw [paired, barOf, parsed, Option.bind_some]
  cases dates row with
  | none => rfl
  | some time => exact filtered_row row time

theorem fetched_some {dates : Row → Option ℚ}
    (reads : columnsRead table.columns colMap = .ok (some read))
    (parsed : table.dates read.date = some dates) :
    fetched table colMap start finish =
      ((sortBy Prod.snd (table.rows.filterMap fun row =>
        (dates row).map fun time => (row, time))).map fun entry =>
          (entry.1, candleAt table read entry.1 entry.2)).filter (passes start finish) := by
  rw [fetched, fetchOne, normalizeColumns, reads]
  dsimp only [bind, Except.bind]
  rw [parsed]
  dsimp only
  rw [filtered]
  generalize List.filter (passes start finish) _ = bars
  cases bars <;> rfl

theorem fetched_undated (reads : columnsRead table.columns colMap = .ok (some read))
    (parsed : table.dates read.date = none) : fetched table colMap start finish = [] := by
  rw [fetched, fetchOne, normalizeColumns, reads]
  dsimp only [bind, Except.bind]
  rw [parsed]

theorem fetched_unread (reads : ∀ read, columnsRead table.columns colMap ≠ .ok (some read)) :
    fetched table colMap start finish = [] := by
  rw [fetched, fetchOne, normalizeColumns]
  cases read : columnsRead table.columns colMap with
  | error => rfl
  | ok columns =>
    cases columns with
    | none => rfl
    | some columns => exact absurd read (reads columns)

theorem fetched_perm : (fetched table colMap start finish).Perm
    (table.rows.filterMap (paired (standing table colMap start finish))) := by
  by_cases reads : ∃ read, columnsRead table.columns colMap = .ok (some read)
  · obtain ⟨read, reads⟩ := reads
    have stands : standing table colMap start finish =
        barOf table read (untilMidnight start finish) := by
      funext row
      rw [standing, reads]
    rw [stands]
    cases parsed : table.dates read.date with
    | none =>
      rw [fetched_undated reads parsed, List.filterMap_eq_nil_iff.mpr]
      intro row _
      rw [paired, barOf, parsed, Option.bind_none, Option.map_none]
    | some dates =>
      rw [fetched_some reads parsed, ← filtered_rows table.rows parsed]
      exact ((List.perm_insertionSort _ _).map _).filter _
  · rw [fetched_unread (not_exists.mp reads), List.filterMap_eq_nil_iff.mpr]
    intro row _
    rw [paired, standing]
    split
    next read given => exact absurd ⟨read, given⟩ reads
    next => rfl

theorem fetched_ascending : (fetched table colMap start finish).Pairwise fun bar later =>
    bar.2.time ≤ later.2.time := by
  by_cases reads : ∃ read, columnsRead table.columns colMap = .ok (some read)
  · obtain ⟨read, reads⟩ := reads
    cases parsed : table.dates read.date with
    | none =>
      rw [fetched_undated reads parsed]
      exact .nil
    | some dates =>
      rw [fetched_some reads parsed]
      refine List.Pairwise.filter _ (List.pairwise_map.mpr ?_)
      exact sortBy_sorted
  · rw [fetched_unread (not_exists.mp reads)]
    exact .nil

theorem paired_perm {bar bar' : Row → Option (Candle ℚ)} {rows : List Row} :
    (rows.filterMap (paired bar)).Perm (rows.filterMap (paired bar')) ↔
      ∀ row ∈ rows, bar row = bar' row := by
  constructor
  · intro same row member
    refine Option.ext fun candle => ?_
    have bars : ∀ bar : Row → Option (Candle ℚ),
        (row, candle) ∈ rows.filterMap (paired bar) ↔ bar row = some candle := by
      intro bar
      rw [List.mem_filterMap]
      constructor
      · rintro ⟨other, _, found⟩
        obtain ⟨candle', given, same⟩ := Option.map_eq_some_iff.mp found
        obtain ⟨rfl, rfl⟩ := Prod.mk.inj same
        exact given
      · intro found
        exact ⟨row, member, by rw [paired, found, Option.map_some]⟩
    exact (bars bar).symm.trans (same.mem_iff.trans (bars bar'))
  · intro same
    refine .of_eq (List.filterMap_congr fun row member => ?_)
    rw [paired, paired, same row member]

end Fetched

section Names

variable {columns : List PyString} {colMap : ColumnMap} {name source : PyString} {read : Columns}

theorem sole_eq_ok {found : List PyString} {column : PyString} :
    sole found = .ok column ↔ found = [column] := by
  constructor
  · intro given
    rw [sole.eq_def] at given
    split at given
    · rw [Except.ok.inj given]
    · cases given
  · rintro rfl
    rfl

theorem under_eq_nil : under columns colMap name = [] ↔
    ∀ column ∈ columns, renamed columns colMap column ≠ name := by
  rw [under, List.filter_eq_nil_iff]
  simp only [decide_eq_true_eq, ne_eq]

theorem under_eq_sole (distinct : columns.Nodup) : under columns colMap name = [source] ↔
    source ∈ columns ∧ NameOf columns colMap name source := by
  constructor
  · intro sole
    have mem : ∀ column, column ∈ columns ∧ renamed columns colMap column = name ↔
        column = source := by
      intro column
      rw [← List.mem_singleton (a := column), ← sole, under, List.mem_filter, decide_eq_true_eq]
    refine ⟨((mem source).mpr rfl).1, fun column member => ?_⟩
    rw [← mem column, and_iff_right member]
  · rintro ⟨member, nameOf⟩
    have same : under columns colMap name = columns.filter (· == source) := by
      refine List.filter_congr fun column member => ?_
      rw [Bool.eq_iff_iff, decide_eq_true_eq, beq_iff_eq]
      exact nameOf column member
    rw [same, List.filter_beq, List.count_eq_one_of_mem distinct member]
    rfl

theorem columnsRead_eq : columnsRead columns colMap = .ok (some read) ↔
    under columns colMap (sourceOf colMap dateKey) = [read.date] ∧
    under columns colMap openKey = [read.open_] ∧ under columns colMap highKey = [read.high] ∧
    under columns colMap lowKey = [read.low] ∧ under columns colMap closeKey = [read.close] ∧
    (under columns colMap tradeDateKey).length ≤ 1 ∧
    under columns colMap volumeKey = read.volume.toList := by
  constructor
  · intro given
    rw [columnsRead] at given
    split at given
    · cases given
    split at given
    · cases given
    obtain ⟨date, isDate, given⟩ := bind_ok.mp given
    split at given
    · cases given
    next single =>
      obtain ⟨open_, isOpen, given⟩ := bind_ok.mp given
      obtain ⟨high, isHigh, given⟩ := bind_ok.mp given
      obtain ⟨low, isLow, given⟩ := bind_ok.mp given
      obtain ⟨close, isClose, given⟩ := bind_ok.mp given
      rw [sole_eq_ok] at isDate isOpen isHigh isLow isClose
      split at given
      next without =>
        obtain rfl := Option.some.inj (Except.ok.inj given)
        exact ⟨isDate, isOpen, isHigh, isLow, isClose, not_lt.mp single, without⟩
      · obtain ⟨volume, isVolume, given⟩ := bind_ok.mp given
        obtain rfl := Option.some.inj (Except.ok.inj given)
        exact ⟨isDate, isOpen, isHigh, isLow, isClose, not_lt.mp single, sole_eq_ok.mp isVolume⟩
  · rintro ⟨isDate, isOpen, isHigh, isLow, isClose, single, isVolume⟩
    obtain ⟨date, open_, high, low, close, volume⟩ := read
    dsimp only at isDate isOpen isHigh isLow isClose isVolume
    rw [columnsRead, isDate, isOpen, isHigh, isLow, isClose, isVolume, if_neg (by simp),
      if_neg (by simp)]
    change (if _ then _ else _) = _
    rw [if_neg (not_lt.mpr single)]
    cases volume <;> rfl

theorem clear_iff (distinct : columns.Nodup) : Clear columns colMap ↔
    ∃ read, columnsMapped columns colMap = some read ∧
      columnsRead columns colMap = .ok (some read) := by
  constructor
  · intro clear
    refine ⟨_, if_pos clear.present, columnsRead_eq.mpr ?_⟩
    have found : ∀ key ∈ [openKey, highKey, lowKey, closeKey],
        under columns colMap key = [sourceOf colMap key] := by
      intro key member
      refine (under_eq_sole distinct).mpr ⟨clear.present key ?_, clear.standard key ?_⟩
      · exact List.mem_cons_of_mem _ member
      · exact List.mem_append_left [volumeKey] member
    refine ⟨(under_eq_sole distinct).mpr ⟨clear.present _ List.mem_cons_self, clear.date⟩,
      found _ (by decide), found _ (by decide), found _ (by decide), found _ (by decide),
      clear.tradeDate, ?_⟩
    have volume := clear.standard volumeKey (by decide)
    dsimp only
    split
    next member => exact (under_eq_sole distinct).mpr ⟨member, volume⟩
    next missing =>
      refine under_eq_nil.mpr fun column member same => missing ?_
      exact (volume column member).mp same ▸ member
  · rintro ⟨read, mapped, reads⟩
    obtain ⟨isDate, isOpen, isHigh, isLow, isClose, single, isVolume⟩ := columnsRead_eq.mp reads
    rw [columnsMapped] at mapped
    split at mapped
    next present =>
      obtain rfl := Option.some.inj mapped
      rw [under_eq_sole distinct] at isDate isOpen isHigh isLow isClose
      have volume : NameOf columns colMap volumeKey (sourceOf colMap volumeKey) := by
        dsimp only at isVolume
        split at isVolume
        · exact ((under_eq_sole distinct).mp isVolume).2
        next missing =>
          intro column member
          refine iff_of_false (under_eq_nil.mp isVolume column member) ?_
          rintro rfl
          exact missing member
      refine ⟨present, isDate.2, ?_, single⟩
      simp only [List.forall_mem_cons]
      exact ⟨isOpen.2, isHigh.2, isLow.2, isClose.2, volume, fun _ member => by cases member⟩
    · cases mapped

end Names

section Bars

variable {Row : Type} {table : Table Row} {colMap : ColumnMap} {start finish : ℚ} {read : Columns}

-- A window that ends at midnight and one that ends with the day differ in what is later.
theorem barOf_windows (row : Row) :
    barOf table read (untilMidnight start finish) row =
        barOf table read (untilDayEnd start finish) row ↔
      ∀ candle, barOf table read (untilDayEnd start finish) row = some candle →
        candle.time ≤ finish := by
  rw [barOf, barOf]
  cases table.dates read.date with
  | none => simp
  | some dates =>
    rw [Option.bind_some, Option.bind_some]
    cases dates row with
    | none => simp
    | some time =>
      have same : (candleAt table read row time).time = time := rfl
      simp only [Option.bind_some]
      generalize candleAt table read row time = candle at same
      subst same
      by_cases late : candle.time ≤ finish
      · have within : candle.time < finish + 86400 := by linarith
        simp only [untilMidnight, late, decide_true, Bool.and_true, Bool.and_eq_true,
          decide_eq_true_eq, untilDayEnd, within, Option.ite_none_right_eq_some,
          Option.some.injEq, and_imp, true_iff]
        rintro _ _ _ _ rfl
        exact late
      · simp only [untilMidnight, late, decide_false, Bool.and_false, Bool.false_eq_true,
          ↓reduceIte, untilDayEnd, Bool.and_eq_true, decide_eq_true_eq, right_eq_ite_iff,
          reduceCtorEq, imp_false, not_and, not_lt, and_imp, Option.ite_none_right_eq_some,
          Option.some.injEq]
        constructor
        · intro outside _ priced valid started inside _
          exact absurd inside (not_lt.mpr (outside priced valid started))
        · intro early priced valid started
          by_contra inside
          exact late (early candle priced valid started (not_le.mp inside) rfl)

/-- A local source gives exactly the bars of its qualifying rows, ascending, exactly when the
names and the end of the window do no harm. -/
theorem exact_iff : Exact table colMap start finish ↔ Sound table colMap start finish := by
  have rows : Exact table colMap start finish ↔ ∀ row ∈ table.rows,
      standing table colMap start finish row = qualifying table colMap start finish row := by
    rw [← paired_perm]
    constructor
    · intro exact_
      exact fetched_perm.symm.trans exact_.rows
    · intro same
      exact ⟨fetched_ascending, fetched_perm.trans same⟩
  rw [rows, Sound]
  by_cases clear : Clear table.columns colMap
  · obtain ⟨read, mapped, reads⟩ := (clear_iff table.distinct).mp clear
    have late : ∀ row, standing table colMap start finish row =
          qualifying table colMap start finish row ↔
        ∀ candle, qualifying table colMap start finish row = some candle →
          candle.time ≤ finish := by
      intro row
      rw [standing, reads, qualifying, mapped, Option.bind_some]
      exact barOf_windows row
    simp only [late, clear, true_and, not_true, false_and, or_false]
  · simp only [clear, false_and, not_false_eq_true, true_and, false_or]

theorem not_exact {row : Row} (empty : fetched table colMap start finish = [])
    (member : row ∈ table.rows)
    (qualifies : qualifying table colMap start finish row ≠ none) :
    ¬ Exact table colMap start finish := by
  intro exact_
  have nothing := (empty ▸ exact_.rows).symm.eq_nil
  rw [List.filterMap_eq_nil_iff] at nothing
  exact qualifies (Option.map_eq_none_iff.mp (nothing row member))

end Bars

section Examples

def flatTable (columns : List PyString) (distinct : columns.Nodup) (rows : List ℚ) : Table ℚ where
  columns := columns
  distinct := distinct
  rows := rows
  dates column := if column = dateKey then some some else none
  number _ _ := .finite 10

def adjClose : PyString := "adj_close"

def sessionColumns : List PyString := [dateKey, openKey, highKey, lowKey, closeKey]

theorem sessionColumns_nodup : sessionColumns.Nodup := by decide

theorem adjusted_nodup : (sessionColumns ++ [adjClose]).Nodup := by decide

/-- The bar of three in the afternoon is not given for a range that ends on its day, and a table
with an adjusted close beside the close has no bars where the former is mapped to close. -/
theorem rows_lost :
    ¬ Exact (flatTable sessionColumns sessionColumns_nodup [54000]) defaultColumns 0 0 ∧
    ¬ Exact (flatTable (sessionColumns ++ [adjClose]) adjusted_nodup [0])
      (colMapOf [(closeKey, adjClose)]) 0 0 := by
  constructor
  · exact not_exact (by decide +kernel) List.mem_cons_self (by decide +kernel)
  · exact not_exact (by decide +kernel) List.mem_cons_self (by decide +kernel)

end Examples

end SynapseYield.Backtest.LocalFiles
