import SynapseYield.Tools.ReportAudit

set_option autoImplicit false

namespace SynapseYield.Tools.ReportAudit

open Shared JsonText Lines

-- A table of a report: its header, and its rows with the numbers of their lines
structure Table where
  header : Text
  rows : List (Nat × Text)
deriving DecidableEq

-- The cells of a line: the bars at its ends stand before no cell and after none.
def cellsOf (marks : List CodePoint) (line : Text) : List Text :=
  let parts := line.splitOn bar
  let parts := if line.head? = some bar then parts.tail else parts
  let parts := if line.getLast? = some bar then parts.dropLast else parts
  parts.map (cleaned marks)

def Table.headers (table : Table) : List Text := cellsOf emphasis table.header

def Table.WellShaped (table : Table) : Prop :=
  ∀ row ∈ table.rows, (cellsOf cellEmphasis row.2).length = table.headers.length

-- Where the tables of a report are: as the scanner goes, with the lines themselves
inductive Spot where
  | outside
  | separator (header : Text)
  | rows (table : Table)

def outerSpot (line : Text) (rest : List Text) : Spot :=
  if bar ∈ line ∧ ! isSeparator line ∧ (rest.head?.any fun next => isSeparator (strip next)) then
    .separator line
  else .outside

def tablesFrom : Spot → Nat → List Text → List Table
  | .rows table, _, [] => [table]
  | _, _, [] => []
  | .outside, lineno, line :: rest => tablesFrom (outerSpot (strip line) rest) (lineno + 1) rest
  | .separator header, lineno, _ :: rest => tablesFrom (.rows ⟨header, []⟩) (lineno + 1) rest
  | .rows table, lineno, line :: rest =>
    if isRow (strip line) then
      tablesFrom (.rows { table with rows := table.rows ++ [(lineno, strip line)] }) (lineno + 1) rest
    else table :: tablesFrom (outerSpot (strip line) rest) (lineno + 1) rest

def tables (lines : List Text) : List Table := tablesFrom .outside 1 lines

section Scanned

variable [PyText] (isDecimal : CodePoint → Bool)

def Table.values (table : Table) : List TableValue :=
  table.rows.flatMap fun row => rowValues isDecimal (pieces emphasis table.header) row.1 row.2

def Spot.place : Spot → Place
  | .outside => .outside
  | .separator header => .separator (pieces emphasis header)
  | .rows table => .rows (pieces emphasis table.header)

def Spot.values : Spot → List TableValue
  | .rows table => table.values isDecimal
  | _ => []

omit [PyText] in
theorem outerSpot_place (line : Text) (rest : List Text) :
    (outerSpot line rest).place = outerPlace line rest := by
  unfold outerSpot outerPlace
  split <;> rfl

theorem outerSpot_values (line : Text) (rest : List Text) :
    (outerSpot line rest).values isDecimal = [] := by
  unfold outerSpot
  split <;> rfl

theorem scanTables_eq (spot : Spot) (lineno : Nat) (lines : List Text) :
    spot.values isDecimal ++ scanTables isDecimal spot.place lineno lines =
      (tablesFrom spot lineno lines).flatMap (Table.values isDecimal) := by
  induction lines generalizing spot lineno with
  | nil => cases spot <;> simp [tablesFrom, scanTables, Spot.values]
  | cons line rest ih =>
    cases spot with
    | outside =>
      rw [Spot.place, scanTables, tablesFrom, ← ih, outerSpot_place, outerSpot_values]
      rfl
    | separator header =>
      rw [Spot.place, scanTables, tablesFrom, ← ih]
      rfl
    | rows table =>
      rw [Spot.place, scanTables, tablesFrom]
      split
      next =>
        rw [← ih, ← List.append_assoc]
        congr 1
        simp [Spot.values, Table.values]
      next =>
        rw [List.flatMap_cons, ← ih, outerSpot_place, outerSpot_values]
        rfl

/-- The scanner reads the tables of the report. -/
theorem parseMdTables_eq (lines : List Text) :
    parseMdTables isDecimal lines = (tables lines).flatMap (Table.values isDecimal) :=
  scanTables_eq isDecimal .outside 1 lines

end Scanned

section Rows

variable [PyText] (isDecimal : CodePoint → Bool)

def isNumeric (cell : Text) : Bool := (cellNumber isDecimal cell).isSome

-- What a row says, each number under its own column
def ownValues (headers : List Text) (lineno : Nat) (row : Text) : List TableValue :=
  match cellsOf cellEmphasis row with
  | label :: cells => (cells.zip headers.tail).filterMap fun cell =>
    (cellNumber isDecimal cell.1).map fun number =>
      ⟨label, cell.2, number.1, number.2, lineno, row⟩
  | [] => []

-- A row without a label may be passed over.
def RowRight (table : Table) (row : Nat × Text) : Prop :=
  let values := rowValues isDecimal (pieces emphasis table.header) row.1 row.2
  values = ownValues isDecimal table.headers row.1 row.2 ∨
    (cellsOf cellEmphasis row.2).headD [] = [] ∧ values = []

-- The numeric cells find their headers by the number of non-empty cells before them, the label
-- among them.
def InPlace (headers : List Text) : Nat → List Text → List Text → Prop
  | before, cell :: cells, own :: owns =>
    (isNumeric isDecimal cell = true → colHeader headers before = own) ∧
      InPlace headers (if cell = [] then before else before + 1) cells owns
  | _, _, _ => True

def RowInPlace (table : Table) (row : Nat × Text) : Prop :=
  match cellsOf cellEmphasis row.2 with
  | [] => True
  | label :: cells =>
    if label ≠ [] then InPlace isDecimal (pieces emphasis table.header) 1 cells table.headers.tail
    else ∀ cell ∈ (cells.filter (· ≠ [])).tail, isNumeric isDecimal cell = false

variable {isDecimal}

theorem not_isNumeric_nil : isNumeric isDecimal [] = false := rfl

omit [PyText] in
theorem cleaned_nil (marks : List CodePoint) : cleaned marks [] = [] := rfl

def solid (marks : List CodePoint) (parts : List Text) : List Text :=
  (parts.map (cleaned marks)).filter (· ≠ [])

omit [PyText] in
theorem solid_tail {marks : List CodePoint} {parts : List Text}
    (starts : ∀ part, parts.head? = some part → part = []) :
    solid marks parts.tail = solid marks parts := by
  cases parts with
  | nil => rfl
  | cons part rest =>
    obtain rfl := starts part rfl
    rfl

omit [PyText] in
theorem solid_dropLast {marks : List CodePoint} {parts : List Text}
    (ends : ∀ part, parts.getLast? = some part → part = []) :
    solid marks parts.dropLast = solid marks parts := by
  rcases List.eq_nil_or_concat parts with rfl | ⟨rest, part, rfl⟩
  · rfl
  · obtain rfl := ends part (by simp)
    simp [solid, cleaned_nil]

omit [PyText] in
theorem splitOn_head {line : Text} (starts : line.head? = some bar) :
    (line.splitOn bar).head? = some [] := by
  cases line with
  | nil => cases starts
  | cons first rest =>
    cases starts
    exact congrArg List.head? (List.splitOn_append_cons_self [] rest)

omit [PyText] in
theorem splitOn_last {line : Text} (ends : line.getLast? = some bar) :
    (line.splitOn bar).getLast? = some [] := by
  obtain ⟨before, rfl⟩ := List.getLast?_eq_some_iff.mp ends
  rw [List.splitOn_append_cons_self, List.splitOn_nil, List.getLast?_concat]

omit [PyText] in
theorem cellsOf_filter (marks : List CodePoint) (line : Text) :
    (cellsOf marks line).filter (· ≠ []) = pieces marks line := by
  let parts := if line.head? = some bar then (line.splitOn bar).tail else line.splitOn bar
  have first : solid marks parts = solid marks (line.splitOn bar) := by
    simp only [parts]
    split
    next starts =>
      refine solid_tail fun part same => ?_
      rw [splitOn_head starts] at same
      exact (Option.some.inj same).symm
    next => rfl
  have last : solid marks (if line.getLast? = some bar then parts.dropLast else parts) =
      solid marks parts := by
    split
    next ends =>
      refine solid_dropLast fun part same => ?_
      have whole : (line.splitOn bar).getLast? = some part := by
        simp only [parts] at same
        split at same
        next =>
          rw [List.getLast?_tail] at same
          split at same
          next => cases same
          next => exact same
        next => exact same
      rw [splitOn_last ends] at whole
      exact (Option.some.inj whole).symm
    next => rfl
  exact last.trans first

variable {label : Text} {headers : List Text} {lineno : Nat} {row : Text}

theorem inPlace_iff {cells owns : List Text} {before : Nat} (same : cells.length = owns.length) :
    (((cells.filter (· ≠ [])).zipIdx before).filterMap fun cell =>
        (cellNumber isDecimal cell.1).map fun number => (⟨label, colHeader headers cell.2, number.1,
          number.2, lineno, row⟩ : TableValue)) =
      ((cells.zip owns).filterMap fun cell => (cellNumber isDecimal cell.1).map fun number =>
        (⟨label, cell.2, number.1, number.2, lineno, row⟩ : TableValue)) ↔
    InPlace isDecimal headers before cells owns := by
  induction cells generalizing owns before with
  | nil => simp [InPlace]
  | cons cell cells ih =>
    cases owns with
    | nil => cases same
    | cons own owns =>
      have rest := (@ih owns (if cell = [] then before else before + 1))
        (Nat.succ.inj same)
      rw [InPlace, ← rest, List.zip_cons_cons]
      by_cases empty : cell = []
      · subst empty
        have skipped : cellNumber isDecimal [] = none := rfl
        simp [not_isNumeric_nil, skipped]
      · rw [List.filter_cons_of_pos (by simpa using empty), List.zipIdx_cons, if_neg empty]
        cases number : cellNumber isDecimal cell with
        | none =>
          rw [List.filterMap_cons_none (by simp [number]),
            List.filterMap_cons_none (by simp [number])]
          simp [isNumeric, number]
        | some found =>
          rw [List.filterMap_cons_some (by rw [number]; rfl),
            List.filterMap_cons_some (by rw [number]; rfl)]
          simp [isNumeric, number]

theorem cellValues_eq_nil {cells : List Text} :
    cellValues isDecimal headers lineno row label cells = [] ↔
      ∀ cell ∈ cells, isNumeric isDecimal cell = false := by
  rw [cellValues, List.filterMap_eq_nil_iff]
  constructor
  · intro none cell mem
    obtain ⟨i, at_i⟩ := List.mem_iff_getElem?.mp mem
    have := none (cell, 1 + i) (List.mk_add_mem_zipIdx_iff_getElem?.mpr at_i)
    simpa [isNumeric] using this
  · intro none cell mem
    have := none cell.1 (List.fst_mem_of_mem_zipIdx mem)
    simpa [isNumeric] using this

theorem cellValues_label {cells : List Text} {value : TableValue}
    (mem : value ∈ cellValues isDecimal headers lineno row label cells) :
    value.rowLabel = label := by
  obtain ⟨cell, -, found⟩ := List.mem_filterMap.mp mem
  obtain ⟨number, -, rfl⟩ := Option.map_eq_some_iff.mp found
  rfl

theorem ownValues_label {value : TableValue} (mem : value ∈ ownValues isDecimal headers lineno row) :
    value.rowLabel = (cellsOf cellEmphasis row).headD [] := by
  unfold ownValues at mem
  split at mem
  next labelled =>
    obtain ⟨cell, -, found⟩ := List.mem_filterMap.mp mem
    obtain ⟨number, -, rfl⟩ := Option.map_eq_some_iff.mp found
    rw [labelled]
    rfl
  next => cases mem

theorem unlabelled_iff {rowLabel : Text} {cells : List Text} {owns : List TableValue}
    (unlabelled : ∀ value ∈ owns, value.rowLabel = []) (named : rowLabel ≠ []) :
    (cellValues isDecimal headers lineno row rowLabel cells = owns ∨
        cellValues isDecimal headers lineno row rowLabel cells = []) ↔
      ∀ cell ∈ cells, isNumeric isDecimal cell = false := by
  rw [← @cellValues_eq_nil _ _ rowLabel headers lineno row]
  refine or_iff_right_of_imp fun same => ?_
  cases values : cellValues isDecimal headers lineno row rowLabel cells with
  | nil => rfl
  | cons value more =>
    have mem : value ∈ cellValues isDecimal headers lineno row rowLabel cells := by simp [values]
    have none := unlabelled value (same ▸ mem)
    rw [cellValues_label mem] at none
    exact absurd none named

theorem rowRight_iff {table : Table} {row : Nat × Text}
    (same : (cellsOf cellEmphasis row.2).length = table.headers.length) :
    RowRight isDecimal table row ↔ RowInPlace isDecimal table row := by
  have label_eq : ∀ value ∈ ownValues isDecimal table.headers row.1 row.2, _ :=
    fun value mem => ownValues_label mem
  have texts := cellsOf_filter cellEmphasis row.2
  rw [RowRight, RowInPlace, rowValues, ← texts]
  cases cells : cellsOf cellEmphasis row.2 with
  | nil => simp [ownValues, cells]
  | cons label rest =>
    rw [cells] at label_eq same
    by_cases unlabelled : label = []
    · subst unlabelled
      dsimp only
      rw [if_neg (not_not.mpr rfl), List.headD_cons, List.filter_cons_of_neg (by simp),
        eq_self, true_and]
      cases labels : rest.filter (· ≠ []) with
      | nil => simp
      | cons rowLabel cells =>
        have mem : rowLabel ∈ rest.filter (· ≠ []) := labels ▸ List.mem_cons_self
        exact unlabelled_iff label_eq (by simpa using (List.mem_filter.mp mem).2)
    · dsimp only
      rw [if_pos unlabelled, List.headD_cons, List.filter_cons_of_pos (by simpa using unlabelled)]
      have lengths : rest.length = table.headers.tail.length := by
        rw [List.length_tail, ← same]
        rfl
      rw [← (@inPlace_iff _ _ label _ row.1 row.2) lengths, ownValues, cells]
      simp only [unlabelled, false_and, or_false]
      rfl

end Rows

section Points

variable [PyText] (isDecimal : CodePoint → Bool)

structure PointOf (value : TableValue) (point : Point) : Prop where
  label : point.label =
    strip ((metric value.rowLabel value.colHeader).filter fun c => c ∉ textOf "*_`")
  reportedValue : point.reportedValue = value.value
  unit : point.unit = value.unit
  lineNumber : point.lineNumber = value.lineno

-- A point is a value of a table, or it comes from a line without a bar.
def Attributed (lines : List Text) (point : Point) : Prop :=
  (∃ value ∈ parseMdTables isDecimal lines, PointOf value point) ∨
    ∃ line, (line, point.lineNumber) ∈ lines.zipIdx 1 ∧ bar ∉ strip line

/-- The tables of a report say what they say: every number of a labelled row is found under the
header of its own column, and no data point says anything else. -/
structure ReportRight (mdText : Text) : Prop where
  scanned : parseMdTables isDecimal (mdText.splitOn newline) =
    (tables (mdText.splitOn newline)).flatMap (Table.values isDecimal)
  rows : ∀ table ∈ tables (mdText.splitOn newline), table.WellShaped →
    ∀ row ∈ table.rows, RowRight isDecimal table row
  points : ∀ point ∈ extractDataPoints isDecimal mdText,
    Attributed isDecimal (mdText.splitOn newline) point

variable {isDecimal} {state : Extraction} {label unit raw : Text} {val : Option Number} {lineno : Nat}

theorem add_points {point : Point}
    (mem : point ∈ (add isDecimal state label val unit lineno raw).points) :
    point ∈ state.points ∨ point.label = strip (label.filter fun c => c ∉ textOf "*_`") ∧
      val = some point.reportedValue ∧ point.unit = unit ∧ point.lineNumber = lineno := by
  unfold add at mem
  dsimp only at mem
  cases val with
  | none => exact .inl mem
  | some val =>
    dsimp only at mem
    split at mem
    next => exact .inl mem
    next =>
      split at mem
      next => exact .inl mem
      next =>
        rcases List.mem_append.mp mem with mem | mem
        · exact .inl mem
        · rw [List.mem_singleton.mp mem]
          exact .inr ⟨rfl, rfl, rfl, rfl⟩

variable {lines : List Text}

theorem addTableValue_attributed {value : TableValue}
    (among : value ∈ parseMdTables isDecimal lines)
    (held : ∀ point ∈ state.points, Attributed isDecimal lines point) :
    ∀ point ∈ (addTableValue isDecimal state value).points, Attributed isDecimal lines point := by
  intro point mem
  unfold addTableValue at mem
  split at mem
  next => exact held point mem
  next =>
    split at mem
    next => exact held point mem
    next =>
      rcases add_points mem with mem | ⟨label, val, unit, lineNumber⟩
      · exact held point mem
      · exact .inl ⟨value, among, label, (Option.some.inj val).symm, unit, lineNumber⟩

theorem foldl_attributed {α : Type} {f : Extraction → α → Extraction} {items : List α}
    (step : ∀ state, ∀ item ∈ items, (∀ point ∈ state.points, Attributed isDecimal lines point) →
      ∀ point ∈ (f state item).points, Attributed isDecimal lines point)
    (held : ∀ point ∈ state.points, Attributed isDecimal lines point) :
    ∀ point ∈ (items.foldl f state).points, Attributed isDecimal lines point := by
  induction items generalizing state with
  | nil => exact held
  | cons item rest ih =>
    exact ih (fun state item mem => step state item (List.mem_cons_of_mem _ mem))
      (step state item (by simp) held)

theorem addKvLine_attributed {inCode : Bool} {line : Text × Nat} (among : line ∈ lines.zipIdx 1)
    (held : ∀ point ∈ state.points, Attributed isDecimal lines point) :
    ∀ point ∈ (addKvLine isDecimal (state, inCode) line).1.points,
      Attributed isDecimal lines point := by
  unfold addKvLine
  dsimp only
  split
  next => exact held
  next =>
    split
    next => exact held
    next free =>
      have barless : bar ∉ strip line.1 := by
        intro mem
        simp [mem] at free
      refine foldl_attributed (fun state found _ held point mem => ?_) held
      rcases add_points mem with mem | ⟨-, -, -, at_line⟩
      · exact held point mem
      · exact .inr ⟨line.1, at_line ▸ among, barless⟩

theorem extractDataPoints_attributed (mdText : Text) :
    ∀ point ∈ extractDataPoints isDecimal mdText,
      Attributed isDecimal (mdText.splitOn newline) point := by
  have lines_attributed : ∀ (items : List (Text × Nat)) (state : Extraction × Bool),
      (∀ line ∈ items, line ∈ (mdText.splitOn newline).zipIdx 1) →
      (∀ point ∈ state.1.points, Attributed isDecimal (mdText.splitOn newline) point) →
      ∀ point ∈ (items.foldl (addKvLine isDecimal) state).1.points,
        Attributed isDecimal (mdText.splitOn newline) point := by
    intro items
    induction items with
    | nil => exact fun state _ held => held
    | cons line rest ih =>
      intro state among held
      exact ih _ (fun line mem => among line (List.mem_cons_of_mem _ mem))
        (addKvLine_attributed (among line (by simp)) held)
  exact lines_attributed _ _ (fun _ mem => mem)
    (foldl_attributed (fun state value mem held => addTableValue_attributed mem held)
      (List.forall_mem_nil _))

end Points

def noDecimals (_c : CodePoint) : Bool := false

-- A year without a figure: the figure of the next one is found under it.
def gapReport : Text :=
  textOf "| Metric | 2023 | 2024 |\n|---|---|---|\n| Revenue |  | 5.5 |"

end SynapseYield.Tools.ReportAudit
