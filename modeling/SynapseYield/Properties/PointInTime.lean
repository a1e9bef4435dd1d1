import Mathlib.Data.List.Dedup
import SynapseYield.Backtest.Fundamentals

set_option autoImplicit false

namespace SynapseYield.Backtest.Fundamentals

open Shared StableSort

theorem isText_iff {cell : Cell} {s : PyString} : cell.isText s = true ↔ cell = .text s := by
  cases cell <;> simp [Cell.isText]

section Rows

variable {row : Row} {columns : List PyString} {column : PyString} {schema : TableSchema}
  {fields : List PyString} {rows : List Row}

def Row.Within (row : Row) (columns : List PyString) : Prop :=
  ∀ column, column ∉ columns → row column = .nan

theorem restrict_within (row : Row) (columns : List PyString) :
    (row.restrict columns).Within columns :=
  fun _ outside => if_neg outside

theorem restrict_apply (member : column ∈ columns) : row.restrict columns column = row column :=
  if_pos member

def identityColumns (schema : TableSchema) : List PyString :=
  ["ts_code", "end_date", "ann_date", schema.pointInTimeColumn]

theorem outputColumns_mem : column ∈ outputColumns schema columns fields ↔
    column ∈ columns ∧ (column ∈ identityColumns schema ∨ column ∈ fields) := by
  unfold outputColumns identityColumns
  rw [List.mem_filter, List.mem_dedup, decide_eq_true_eq, and_comm]
  refine and_congr_right fun member => ?_
  by_cases given : schema.pointInTimeColumn ∈ columns
  · simp [given, or_assoc]
  · have other : column ≠ schema.pointInTimeColumn := fun same => given (same ▸ member)
    simp [given, other, or_assoc]

theorem restrict_output (within : row.Within columns) (wanted : column ∈ identityColumns schema) :
    row.restrict (outputColumns schema columns fields) column = row column := by
  by_cases member : column ∈ columns
  · exact restrict_apply (outputColumns_mem.mpr ⟨member, .inl wanted⟩)
  · rw [within column member]
    exact if_neg fun output => member (outputColumns_mem.mp output).1

-- The cell that dates a row, whatever the other rows of its frame are.
def publishedCell (schema : TableSchema) (row : Row) : Cell :=
  if schema.pointInTimeColumn ≠ "ann_date" ∧ (row schema.pointInTimeColumn).isna then row "ann_date"
  else row schema.pointInTimeColumn

theorem pitValue_published (within : row.Within columns) (member : row ∈ rows)
    (announced : ("ann_date" : PyString) ∈ columns) :
    pitValue (pitColumnOf schema columns rows) columns row = publishedCell schema row := by
  unfold pitColumnOf publishedCell
  by_cases fallback : schema.pointInTimeColumn ∉ columns ∨
      rows.all (fun row => (row schema.pointInTimeColumn).isna)
  · rw [if_pos fallback]
    have undated : (row schema.pointInTimeColumn).isna = true := by
      rcases fallback with absent | all
      · rw [within _ absent]
        rfl
      · exact List.all_eq_true.mp all row member
    unfold pitValue
    rw [if_neg (by simp)]
    split
    · rfl
    next same =>
      have dated : schema.pointInTimeColumn = "ann_date" := by
        by_contra other
        exact same ⟨other, undated⟩
      rw [dated]
  · rw [if_neg fallback]
    simp only [pitValue, announced, true_and]

end Rows

section Published

variable {Rank : Type} (pandas : Pandas Rank) (schema : TableSchema)

def published (row : Row) : Option Int :=
  match parseTushareDate pandas (publishedCell schema row) with
  | .ok day => day
  | .error _ => none

def publishedBy (bound : Int) (row : Row) : Bool := (published pandas schema row).any (· ≤ bound)

-- The rows that the provider has for a code, with the columns of their frame.
def rowsFor (api : FundamentalApi) (schema : TableSchema) (code : PyString) : List Row :=
  match api.answer schema.apiName code with
  | .ok (some frame) =>
    if frame.isEmpty then [] else frame.rows.map fun row => row.restrict frame.columns
  | _ => []

def contentRows (api : FundamentalApi) (schema : TableSchema) (codes : List PyString) : List Row :=
  codes.flatMap (rowsFor api schema)

def AgreeUntil (bound : Int) (api api' : FundamentalApi) : Prop :=
  ∀ schema ∈ schemas, ∀ code,
    (rowsFor api schema code).filter (publishedBy pandas schema bound) =
      (rowsFor api' schema code).filter (publishedBy pandas schema bound)

variable {pandas schema} {api : FundamentalApi} {codes columns fields : List PyString}
  {rows all : List Row} {frames : List Frame}

theorem AgreeUntil.contentRows {bound : Int} {api api' : FundamentalApi}
    (agree : AgreeUntil pandas bound api api') (known : schema ∈ schemas) :
    (contentRows api schema codes).filter (publishedBy pandas schema bound) =
      (contentRows api' schema codes).filter (publishedBy pandas schema bound) := by
  unfold Fundamentals.contentRows
  rw [List.filter_flatMap, List.filter_flatMap]
  exact congrArg List.flatten (List.map_congr_left fun code _ => agree schema known code)

theorem fetchFrames_ok (ran : fetchFrames api schema codes = .ok frames) :
    (concat frames).rows = contentRows api schema codes := by
  unfold fetchFrames at ran
  obtain ⟨answers, asked, rest⟩ := Outcome.bind_ok.mp ran
  cases rest
  have each := Outcome.mapM_ok.mp asked
  clear asked ran
  induction each with
  | nil => rfl
  | @cons code frame codes answers head tail ih =>
    unfold contentRows concat at ih ⊢
    rw [List.flatMap_cons, ← ih, rowsFor, head]
    cases frame with
    | none => rfl
    | some frame =>
      cases empty : frame.isEmpty <;> simp [Option.filter, empty]

theorem concat_within {row : Row} (member : row ∈ (concat frames).rows) :
    row.Within (concat frames).columns := by
  obtain ⟨frame, given, restricted⟩ := List.mem_flatMap.mp member
  obtain ⟨original, -, rfl⟩ := List.mem_map.mp restricted
  intro column outside
  refine restrict_within original frame.columns column fun inside => outside ?_
  exact List.mem_dedup.mpr (List.mem_flatMap.mpr ⟨frame, given, inside⟩)

theorem datedRows_ok {dated : List (Row × Option Int)} (within : ∀ row ∈ rows, row.Within columns)
    (subset : rows ⊆ all) (announced : ("ann_date" : PyString) ∈ columns)
    (ran : datedRows pandas (pitColumnOf schema columns all) columns rows = .ok dated) :
    dated = rows.map fun row => (row, published pandas schema row) := by
  have each := Outcome.mapM_ok.mp ran
  clear ran
  induction each with
  | nil => rfl
  | @cons row entry rows dated head tail ih =>
    obtain ⟨day, parsed, same⟩ := Outcome.bind_ok.mp head
    cases same
    rw [pitValue_published (within row List.mem_cons_self) (subset List.mem_cons_self) announced] at parsed
    rw [List.map_cons, ih (fun row member => within row (.tail _ member))
      fun row member => subset (.tail _ member)]
    simp [published, parsed]

-- The rows of a query: published by the day of the query, and of one of its periods.
def selects (pandas : Pandas Rank) (schema : TableSchema) (asOfDate : Cell)
    (periods : List PyString) (row : Row) : Bool :=
  (periods.isEmpty || cellText pandas (row "end_date") ∈ periods) &&
    match parseTushareDate pandas asOfDate with
    | .ok (some bound) => publishedBy pandas schema bound row
    | _ => false

theorem describeTable_ok {table : PyString} (found : describeTable table = .ok schema) :
    schema ∈ schemas ∧ schema.name = table := by
  unfold describeTable at found
  split at found
  next search =>
    cases found
    exact ⟨List.mem_of_find?_eq_some search, by simpa using List.find?_some search⟩
  next => cases found

theorem schemas_required : ∀ schema ∈ schemas, ("ann_date" : PyString) ∈ schema.requiredColumns := by
  decide +kernel

variable [LinearOrder Rank] {table : PyString} {asOfDate : Cell} {periods : List PyString}
  {result : Frame}

structure Queried (pandas : Pandas Rank) (api : FundamentalApi) (schema : TableSchema)
    (codes : List PyString) (asOfDate : Cell) (periods fields columns : List PyString)
    (result : Frame) : Prop where
  output : result.columns = outputColumns schema columns fields
  announced : ("ann_date" : PyString) ∈ columns
  within : ∀ row ∈ contentRows api schema codes, row.Within columns
  selected : result.rows = sortBy (queryKey pandas)
    (((contentRows api schema codes).filter (selects pandas schema asOfDate periods)).map
      fun row => row.restrict result.columns)

theorem queryFundamentals_ok
    (ran : queryFundamentals pandas api table codes asOfDate periods fields = .ok result) :
    ∃ schema, describeTable table = .ok schema ∧
      (result.rows = [] ∧ contentRows api schema codes = [] ∨
        ∃ columns, Queried pandas api schema codes asOfDate periods fields columns result) := by
  unfold queryFundamentals at ran
  obtain ⟨schema, described, ran⟩ := Outcome.bind_ok.mp ran
  refine ⟨schema, described, ?_⟩
  split at ran
  · cases ran
  obtain ⟨frames, fetched, ran⟩ := Outcome.bind_ok.mp ran
  have content := fetchFrames_ok fetched
  split at ran
  next none =>
    cases ran
    rw [List.isEmpty_iff.mp none] at content
    exact .inl ⟨rfl, content.symm⟩
  next some =>
    obtain ⟨_, valid, ran⟩ := Outcome.bind_ok.mp ran
    obtain ⟨asOfDay, bounded, ran⟩ := Outcome.bind_ok.mp ran
    obtain ⟨dated, dates, ran⟩ := Outcome.bind_ok.mp ran
    have announced : ("ann_date" : PyString) ∈ (concat frames).columns := by
      unfold validateSchema at valid
      split at valid
      next all =>
        exact of_decide_eq_true (List.all_eq_true.mp all _
          (schemas_required schema (describeTable_ok described).1))
      next => cases valid
    have within : ∀ row ∈ (concat frames).rows, row.Within (concat frames).columns :=
      fun row member => concat_within member
    have days := datedRows_ok (fun row member => within row (List.mem_of_mem_filter member))
      (List.Subset.refl _) announced dates
    cases ran
    refine .inr ⟨(concat frames).columns, rfl, announced, content ▸ within, ?_⟩
    simp only [days, ← content]
    congr 1
    rw [List.filter_map, List.map_map, List.filter_filter]
    congr 1
    refine List.filter_congr fun row _ => ?_
    simp only [selects, bounded, publishedBy, Function.comp]
    cases published pandas schema row <;> cases asOfDay <;>
      simp [Bool.and_comm]

end Published

section Visible

variable {Rank Prices : Type} [LinearOrder Rank] {pandas : Pandas Rank} {api : FundamentalApi}
  {schema : TableSchema} {codes columns periods fields : List PyString} {asOfDate : Cell}
  {fundamentals : Frame} {code : PyString}

def dayKey (pandas : Pandas Rank) (schema : TableSchema) (row : Row) : Int :=
  (published pandas schema row).getD 0

def valueColumns (schema : TableSchema) (fields : List PyString) : List PyString :=
  (identityColumns schema ++ fields).filter (· ∉ keyColumns)

-- The rows of a code that a query gives, in the order of their fiscal periods.
def history (pandas : Pandas Rank) (api : FundamentalApi) (schema : TableSchema)
    (codes : List PyString) (asOfDate : Cell) (periods : List PyString) (code : PyString) :
    List Row :=
  sortBy (queryKey pandas) ((contentRows api schema codes).filter fun row =>
    selects pandas schema asOfDate periods row && (row "ts_code").isText code)

def visible (pandas : Pandas Rank) (api : FundamentalApi) (schema : TableSchema)
    (codes : List PyString) (asOfDate : Cell) (periods fields : List PyString) (code : PyString)
    (day : Int) : Option Row :=
  (asOf (dayKey pandas schema) day (history pandas api schema codes asOfDate periods code)).map
    fun row => row.restrict (valueColumns schema fields)

omit [LinearOrder Rank] in
theorem selects_published {row : Row} (selected : selects pandas schema asOfDate periods row = true) :
    ∃ bound, parseTushareDate pandas asOfDate = .ok (some bound) ∧
      published pandas schema row = some (dayKey pandas schema row) ∧
      dayKey pandas schema row ≤ bound := by
  unfold selects at selected
  obtain ⟨-, within⟩ := Bool.and_eq_true_iff.mp selected
  split at within
  next bound parsed =>
    unfold publishedBy at within
    cases found : published pandas schema row with
    | none => simp [found] at within
    | some day =>
      simp only [found, Option.any_some, decide_eq_true_eq] at within
      exact ⟨bound, parsed, by simp [dayKey, found], by simpa [dayKey, found] using within⟩
  next => cases within

theorem history_mem {row : Row}
    (member : row ∈ history pandas api schema codes asOfDate periods code) :
    row ∈ contentRows api schema codes ∧ selects pandas schema asOfDate periods row = true ∧
      (row "ts_code").isText code = true := by
  obtain ⟨given, both⟩ := List.mem_filter.mp (mem_sortBy.mp member)
  exact ⟨given, Bool.and_eq_true_iff.mp both⟩

namespace Queried

variable (queried : Queried pandas api schema codes asOfDate periods fields columns fundamentals)

include queried

theorem restrict_identity {row : Row} (given : row ∈ contentRows api schema codes)
    {column : PyString} (wanted : column ∈ identityColumns schema) :
    row.restrict fundamentals.columns column = row column := by
  rw [queried.output]
  exact restrict_output (queried.within row given) wanted

theorem published_restrict {row : Row} (given : row ∈ contentRows api schema codes) :
    published pandas schema (row.restrict fundamentals.columns) = published pandas schema row := by
  unfold published publishedCell
  rw [queried.restrict_identity given (by simp [identityColumns]),
    queried.restrict_identity given (by simp [identityColumns])]

theorem rows_of_code (code : PyString) :
    fundamentals.rows.filter (fun row => (row "ts_code").isText code) =
      (history pandas api schema codes asOfDate periods code).map
        fun row => row.restrict fundamentals.columns := by
  rw [queried.selected, filter_sortBy, List.filter_map, sortBy_map, List.filter_filter]
  unfold history
  congr 1
  have same : ((contentRows api schema codes).filter fun row =>
        ((fun row => (row "ts_code").isText code) ∘ fun row : Row =>
          row.restrict fundamentals.columns) row && selects pandas schema asOfDate periods row) =
      (contentRows api schema codes).filter fun row =>
        selects pandas schema asOfDate periods row && (row "ts_code").isText code := by
    refine List.filter_congr fun row given => ?_
    simp only [Function.comp]
    rw [queried.restrict_identity given (by simp [identityColumns]), Bool.and_comm]
  rw [same]
  refine sortBy_congr fun row member => ?_
  have given := List.mem_of_mem_filter member
  unfold queryKey
  simp only [Function.comp]
  rw [queried.restrict_identity given (by simp [identityColumns]),
    queried.restrict_identity given (by simp [identityColumns])]

theorem restrict_values {row : Row} (given : row ∈ contentRows api schema codes) :
    (row.restrict fundamentals.columns).restrict
        (fundamentals.columns.filter (· ∉ keyColumns)) =
      row.restrict (valueColumns schema fields) := by
  funext column
  have within := queried.within row given column
  rw [queried.output]
  unfold Row.restrict valueColumns
  simp only [List.mem_filter, outputColumns_mem, List.mem_append]
  by_cases member : column ∈ columns
  · by_cases wanted : column ∈ identityColumns schema ∨ column ∈ fields
    · by_cases key : column ∈ keyColumns <;> simp [member, key, wanted]
    · simp [member, wanted]
  · rw [within member]
    simp [member]

end Queried

-- A bar gets a row for one table, and keeps those of the others.
structure Step (table : PyString) (value : Int → Option Row) (bar bar' : EnrichedBar Prices) :
    Prop where
  same : bar'.bar = bar.bar
  others : ∀ other, other ≠ table → bar'.merged.lookup other = bar.merged.lookup other
  given : bar.merged.lookup table = none → bar'.row table = value bar.bar.tradeDate

theorem Step.unmerged {table : PyString} {value : Int → Option Row} {bar : EnrichedBar Prices}
    (nothing : value bar.bar.tradeDate = none) : Step table value bar bar where
  same := rfl
  others _ _ := rfl
  given absent := by simp [EnrichedBar.row, absent, nothing]

theorem mergeAsOf_step {table : PyString} {value : Int → Option Row} {right : List (Row × Int)}
    (found : ∀ day, (asOf Prod.snd day right).map (fun entry => entry.1) = value day)
    (bar : EnrichedBar Prices) : Step table value bar (mergeAsOf table right bar) where
  same := rfl
  others other different := by
    simp [mergeAsOf, List.lookup_append, List.lookup_cons, beq_false_of_ne different]
  given absent := by
    simp [EnrichedBar.row, mergeAsOf, List.lookup_append, absent, found]

theorem forall₂_self {α : Type} {related : α → α → Prop} {items : List α}
    (holds : ∀ item ∈ items, related item item) : List.Forall₂ related items items :=
  List.forall₂_same.mpr holds

theorem forall₂_map {α β : Type} {related : α → β → Prop} {f : α → β} {items : List α}
    (holds : ∀ item, related item (f item)) : List.Forall₂ related items (items.map f) := by
  rw [List.forall₂_map_right_iff]
  exact List.forall₂_same.mpr fun item _ => holds item

variable {frame frame' : List (EnrichedBar Prices)}

theorem Queried.dated_rows
    (queried : Queried pandas api schema codes asOfDate periods fields columns fundamentals)
    {dated : List (Row × Option Int)}
    (ran : datedRows pandas (pitColumnOf schema fundamentals.columns fundamentals.rows)
      fundamentals.columns (fundamentals.rows.filter fun row => (row "ts_code").isText code) =
        .ok dated) :
    dated.filterMap (fun entry => entry.2.map fun day => (entry.1, day)) =
      (history pandas api schema codes asOfDate periods code).map
        fun row => (row.restrict fundamentals.columns, dayKey pandas schema row) := by
  have announced : ("ann_date" : PyString) ∈ fundamentals.columns := by
    rw [queried.output]
    exact outputColumns_mem.mpr ⟨queried.announced, .inl (by simp [identityColumns])⟩
  have within : ∀ row ∈ fundamentals.rows.filter (fun row => (row "ts_code").isText code),
      row.Within fundamentals.columns := by
    rw [queried.rows_of_code]
    intro row member
    obtain ⟨original, -, rfl⟩ := List.mem_map.mp member
    exact restrict_within _ _
  obtain rfl := datedRows_ok within (fun _ => List.mem_of_mem_filter) announced ran
  rw [queried.rows_of_code, List.map_map, List.filterMap_map, ← List.filterMap_eq_map]
  refine List.filterMap_congr fun row member => ?_
  obtain ⟨given, selected, -⟩ := history_mem member
  obtain ⟨_, -, dates, -⟩ := selects_published selected
  simp only [Function.comp]
  rw [queried.published_restrict given, dates]
  rfl

theorem enrichFrame_ok
    (queried : Queried pandas api schema codes asOfDate periods fields columns fundamentals)
    (ran : enrichFrame pandas schema fundamentals code frame = .ok frame') :
    List.Forall₂
      (Step schema.name (visible pandas api schema codes asOfDate periods fields code)) frame frame' := by
  unfold enrichFrame at ran
  simp only at ran
  split at ran
  next nothing =>
    cases ran
    refine forall₂_self fun bar member => .unmerged ?_
    rcases Bool.or_eq_true_iff.mp nothing with noRows | noBars
    · have empty := queried.rows_of_code code
      rw [List.isEmpty_iff.mp noRows, eq_comm, List.map_eq_nil_iff] at empty
      rw [visible, empty]
      rfl
    · rw [List.isEmpty_iff.mp noBars] at member
      cases member
  next =>
    obtain ⟨dated, dates, rest⟩ := Outcome.bind_ok.mp ran
    rw [queried.dated_rows dates] at rest
    split at rest
    next none =>
      cases rest
      refine forall₂_self fun bar _ => .unmerged ?_
      have empty := List.isEmpty_iff.mp none
      have noHistory : history pandas api schema codes asOfDate periods code = [] := by
        rw [List.eq_nil_iff_forall_not_mem]
        intro row member
        have listed := List.mem_map_of_mem
          (f := fun row : Row => (row.restrict fundamentals.columns, dayKey pandas schema row)) member
        rw [← mem_sortBy (κ := Int), empty] at listed
        cases listed
      rw [visible, noHistory]
      rfl
    next =>
      cases rest
      refine forall₂_map fun bar => mergeAsOf_step (fun day => ?_) bar
      rw [asOf_sortBy, asOf_map, visible]
      change ((asOf Prod.snd day (sortBy Prod.snd _)).map _).map _ = _
      rw [asOf_sortBy, asOf_map]
      change ((asOf (dayKey pandas schema) day _).map _ |>.map _).map _ = _
      rw [Option.map_map, Option.map_map]
      refine Option.map_congr fun row found => ?_
      exact queried.restrict_values (history_mem (asOf_mem found).1).1

theorem forall₂_then {α β γ : Type} {first : α → β → Prop} {second : β → γ → Prop}
    {both : α → γ → Prop} {xs : List α} {ys : List β} {zs : List γ}
    (related : List.Forall₂ first xs ys) (related' : List.Forall₂ second ys zs)
    (joins : ∀ x y z, first x y → second y z → both x z) : List.Forall₂ both xs zs := by
  induction related generalizing zs with
  | nil =>
    cases related'
    exact .nil
  | cons head _ ih =>
    cases related' with
    | cons head' tail' => exact .cons (joins _ _ _ head head') (ih tail')

def tableRow (pandas : Pandas Rank) (api : FundamentalApi) (codes : List PyString)
    (asOfDate : Cell) (periods : List PyString) (entry : PyString × List PyString)
    (code : PyString) (day : Int) : Option Row :=
  match describeTable entry.1 with
  | .ok schema => visible pandas api schema codes asOfDate periods entry.2 code day
  | .error _ => none

theorem history_nil (nothing : contentRows api schema codes = []) :
    history pandas api schema codes asOfDate periods code = [] := by
  rw [history, nothing]
  rfl

theorem enrichTable_ok {enriched enriched' : EnrichedMap Prices}
    {entry : PyString × List PyString}
    (ran : enrichTable pandas api asOfDate periods codes enriched entry = .ok enriched') :
    List.Forall₂ (fun item item' => item'.1 = item.1 ∧
      List.Forall₂ (Step entry.1 (tableRow pandas api codes asOfDate periods entry item.1))
        item.2 item'.2) enriched enriched' := by
  unfold enrichTable at ran
  obtain ⟨fundamentals, asked, ran⟩ := Outcome.bind_ok.mp ran
  obtain ⟨schema, described, outcome⟩ := queryFundamentals_ok asked
  have named := (describeTable_ok described).2
  have row (code : PyString) (day : Int) :
      tableRow pandas api codes asOfDate periods entry code day =
        visible pandas api schema codes asOfDate periods entry.2 code day := by
    rw [tableRow, described]
  split at ran
  next empty =>
    cases ran
    refine forall₂_self fun item _ => ⟨rfl, forall₂_self fun bar _ => .unmerged ?_⟩
    rw [row, visible]
    suffices history pandas api schema codes asOfDate periods item.1 = [] by rw [this]; rfl
    rcases outcome with ⟨-, nothing⟩ | ⟨columns, queried⟩
    · exact history_nil nothing
    · rcases Bool.or_eq_true_iff.mp empty with noColumns | noRows
      · have announced : ("ann_date" : PyString) ∈ fundamentals.columns := by
          rw [queried.output]
          exact outputColumns_mem.mpr ⟨queried.announced, .inl (by simp [identityColumns])⟩
        rw [List.isEmpty_iff.mp noColumns] at announced
        cases announced
      · have none := queried.rows_of_code item.1
        rw [List.isEmpty_iff.mp noRows, List.filter_nil, eq_comm, List.map_eq_nil_iff] at none
        exact none
  next some =>
    rcases outcome with ⟨nothing, -⟩ | ⟨columns, queried⟩
    · simp [Frame.isEmpty, nothing] at some
    · obtain ⟨schema', described', ran⟩ := Outcome.bind_ok.mp ran
      cases described.symm.trans described'
      refine (Outcome.mapM_ok.mp ran).imp fun item item' turned => ?_
      obtain ⟨frame, framed, same⟩ := Outcome.bind_ok.mp turned
      cases same
      have steps := enrichFrame_ok queried framed
      rw [named] at steps
      refine ⟨rfl, ?_⟩
      rwa [show tableRow pandas api codes asOfDate periods entry item.1 =
        visible pandas api schema codes asOfDate periods entry.2 item.1 from funext (row item.1)]

-- The tables are merged one after another, each once.
structure Merged (pandas : Pandas Rank) (api : FundamentalApi) (codes : List PyString)
    (asOfDate : Cell) (periods : List PyString) (fieldsByTable : List (PyString × List PyString))
    (code : PyString) (bar bar' : EnrichedBar Prices) : Prop where
  same : bar'.bar = bar.bar
  others : ∀ other, other ∉ fieldsByTable.map Prod.fst →
    bar'.merged.lookup other = bar.merged.lookup other
  given : ∀ entry ∈ fieldsByTable, bar.merged.lookup entry.1 = none →
    bar'.row entry.1 = tableRow pandas api codes asOfDate periods entry code bar.bar.tradeDate

theorem Merged.step {entry : PyString × List PyString} {rest : List (PyString × List PyString)}
    {bar bar' bar'' : EnrichedBar Prices} (fresh : entry.1 ∉ rest.map Prod.fst)
    (step : Step entry.1 (tableRow pandas api codes asOfDate periods entry code) bar bar')
    (merged : Merged pandas api codes asOfDate periods rest code bar' bar'') :
    Merged pandas api codes asOfDate periods (entry :: rest) code bar bar'' where
  same := merged.same.trans step.same
  others other outside := by
    simp only [List.map_cons, List.mem_cons, not_or] at outside
    rw [merged.others other outside.2, step.others other outside.1]
  given := by
    refine List.forall_mem_cons.mpr ⟨fun absent => ?_, fun later member absent => ?_⟩
    · have kept : bar''.row entry.1 = bar'.row entry.1 := by
        rw [EnrichedBar.row, merged.others _ fresh, EnrichedBar.row]
      rw [kept, step.given absent]
    · have different : later.1 ≠ entry.1 := fun same =>
        fresh (same ▸ List.mem_map_of_mem (f := Prod.fst) member)
      rw [merged.given later member (by rw [step.others _ different, absent]), step.same]

theorem enrichTables_ok {fieldsByTable : List (PyString × List PyString)}
    {enriched enriched' : EnrichedMap Prices} (tables : (fieldsByTable.map Prod.fst).Nodup)
    (ran : fieldsByTable.foldlM (enrichTable pandas api asOfDate periods codes) enriched =
      .ok enriched') :
    List.Forall₂ (fun item item' => item'.1 = item.1 ∧
      List.Forall₂ (Merged pandas api codes asOfDate periods fieldsByTable item.1) item.2 item'.2)
      enriched enriched' := by
  induction fieldsByTable generalizing enriched with
  | nil =>
    cases ran
    exact forall₂_self fun item _ => ⟨rfl, forall₂_self fun bar _ => ⟨rfl, fun _ _ => rfl, by simp⟩⟩
  | cons entry rest ih =>
    obtain ⟨fresh, tables⟩ := List.nodup_cons.mp tables
    rw [List.foldlM_cons] at ran
    obtain ⟨first, turned, ran⟩ := Outcome.bind_ok.mp ran
    refine forall₂_then (enrichTable_ok turned) (ih tables ran) ?_
    rintro item item' item'' ⟨named, steps⟩ ⟨named', merged⟩
    rw [named] at merged
    exact ⟨named'.trans named, forall₂_then steps merged fun _ _ _ step rest => .step fresh step rest⟩

theorem visible_agree {api' : FundamentalApi} {bound day : Int}
    (agree : AgreeUntil pandas bound api api') (known : schema ∈ schemas) (before : day ≤ bound) :
    visible pandas api schema codes asOfDate periods fields code day =
      visible pandas api' schema codes asOfDate periods fields code day := by
  have shown (api : FundamentalApi) :
      visible pandas api schema codes asOfDate periods fields code day =
        (asOf (dayKey pandas schema) day (sortBy (queryKey pandas)
          (((contentRows api schema codes).filter (publishedBy pandas schema bound)).filter fun row =>
            selects pandas schema asOfDate periods row && (row "ts_code").isText code))).map
          fun row => row.restrict (valueColumns schema fields) := by
    rw [List.filter_comm, ← filter_sortBy, asOf_filter]
    · rfl
    intro row member within
    obtain ⟨-, selected, -⟩ := history_mem member
    obtain ⟨_, -, dated, -⟩ := selects_published selected
    simp [publishedBy, dated, within.trans before]
  rw [shown api, shown api', agree.contentRows known]

-- The row of a bar: of its code, published by its day and by that of the query, and the one
-- announced last. Of the rows announced on one day it has the latest fiscal period end, where a
-- missing one comes last.
def FromRow (pandas : Pandas Rank) (api : FundamentalApi) (schema : TableSchema)
    (codes : List PyString) (asOfDate : Cell) (periods fields : List PyString) (code : PyString)
    (day : Int) (snapshot : Row) : Prop :=
  ∃ row announced, row ∈ contentRows api schema codes ∧ (row "ts_code").isText code = true ∧
    selects pandas schema asOfDate periods row = true ∧
    snapshot = row.restrict (valueColumns schema fields) ∧
    published pandas schema row = some announced ∧ announced ≤ day ∧
    ∀ other ∈ contentRows api schema codes, (other "ts_code").isText code = true →
      selects pandas schema asOfDate periods other = true →
      ∀ announced' ∈ published pandas schema other, announced' ≤ day →
        announced' < announced ∨ announced' = announced ∧
          rankOf pandas (other "end_date") ≤ rankOf pandas (row "end_date")

theorem visible_fromRow {day : Int} {snapshot : Row}
    (found : visible pandas api schema codes asOfDate periods fields code day = some snapshot) :
    FromRow pandas api schema codes asOfDate periods fields code day snapshot := by
  obtain ⟨row, chosen, rfl⟩ := Option.map_eq_some_iff.mp found
  obtain ⟨member, within⟩ := asOf_mem chosen
  obtain ⟨given, selected, ownCode⟩ := history_mem member
  obtain ⟨_, -, dated, -⟩ := selects_published selected
  refine ⟨row, _, given, ownCode, selected, rfl, dated, within, ?_⟩
  intro other otherGiven otherCode otherSelected announced otherDated otherWithin
  have key : dayKey pandas schema other = announced := by
    rw [dayKey, Option.mem_def.mp otherDated]
    rfl
  have listed : other ∈ history pandas api schema codes asOfDate periods code :=
    mem_sortBy.mpr (List.mem_filter.mpr ⟨otherGiven, by simp [otherSelected, otherCode]⟩)
  have sameCode : other "ts_code" = row "ts_code" :=
    (isText_iff.mp otherCode).trans (isText_iff.mp ownCode).symm
  have last := asOf_last (r := fun x y => queryKey pandas x ≤ queryKey pandas y)
    sortBy_sorted le_rfl chosen listed (key ▸ otherWithin)
  rw [key] at last
  refine last.imp_right fun ⟨same, earlier⟩ => ⟨same, ?_⟩
  simpa [queryKey, Prod.Lex.toLex_le_toLex, sameCode] using earlier

variable {api' : FundamentalApi} {bound : Int} {fieldsByTable : List (PyString × List PyString)}
  {dataMap : List (PyString × List (Bar Prices))} {enriched enriched' : EnrichedMap Prices}

def SameUntil (bound : Int) (fieldsByTable : List (PyString × List PyString))
    (enriched enriched' : EnrichedMap Prices) : Prop :=
  List.Forall₂ (fun item item' => item'.1 = item.1 ∧
    List.Forall₂ (fun bar bar' => bar'.bar = bar.bar ∧ (bar.bar.tradeDate ≤ bound →
      ∀ entry ∈ fieldsByTable, bar'.row entry.1 = bar.row entry.1)) item.2 item'.2)
    enriched enriched'

def FromRows (pandas : Pandas Rank) (api : FundamentalApi)
    (dataMap : List (PyString × List (Bar Prices)))
    (fieldsByTable : List (PyString × List PyString)) (asOfDate : Cell) (periods : List PyString)
    (enriched : EnrichedMap Prices) : Prop :=
  List.Forall₂ (fun given item => item.1 = given.1 ∧
    List.Forall₂ (fun bar enrichedBar => enrichedBar.bar = bar ∧
      ∀ entry ∈ fieldsByTable, ∀ snapshot ∈ enrichedBar.row entry.1,
        ∃ schema, describeTable entry.1 = .ok schema ∧
          FromRow pandas api schema (dataMap.map Prod.fst) asOfDate periods entry.2 given.1
            bar.tradeDate snapshot) given.2 item.2)
    dataMap enriched

theorem given_of_merged (tables : (fieldsByTable.map Prod.fst).Nodup)
    (ran : fieldsByTable.foldlM (enrichTable pandas api asOfDate periods (dataMap.map Prod.fst))
      (dataMap.map fun entry => (entry.1, entry.2.map fun bar => { bar })) = .ok enriched) :
    List.Forall₂ (fun given item => item.1 = given.1 ∧
      List.Forall₂ (fun bar enrichedBar => enrichedBar.bar = bar ∧
        ∀ entry ∈ fieldsByTable, enrichedBar.row entry.1 =
          tableRow pandas api (dataMap.map Prod.fst) asOfDate periods entry given.1 bar.tradeDate)
        given.2 item.2) dataMap enriched := by
  have merged := enrichTables_ok tables ran
  rw [List.forall₂_map_left_iff] at merged
  refine merged.imp fun given item ⟨named, bars⟩ => ⟨named, ?_⟩
  rw [List.forall₂_map_left_iff] at bars
  refine bars.imp fun bar enrichedBar holds => ⟨holds.same, fun entry member => ?_⟩
  exact holds.given entry member rfl

theorem enrich_ok (tables : (fieldsByTable.map Prod.fst).Nodup)
    (ran : enrichWithFundamentals pandas api dataMap fieldsByTable asOfDate periods =
      .ok enriched) :
    List.Forall₂ (fun given item => item.1 = given.1 ∧
      List.Forall₂ (fun bar enrichedBar => enrichedBar.bar = bar ∧
        ∀ entry ∈ fieldsByTable, enrichedBar.row entry.1 =
          tableRow pandas api (dataMap.map Prod.fst) asOfDate periods entry given.1 bar.tradeDate)
        given.2 item.2) dataMap enriched := by
  unfold enrichWithFundamentals at ran
  split at ran
  next nothing =>
    rcases Bool.or_eq_true_iff.mp nothing with noBars | noTables
    · obtain rfl := List.isEmpty_iff.mp noBars
      cases ran
      exact .nil
    · obtain rfl := List.isEmpty_iff.mp noTables
      exact given_of_merged tables ran
  next => exact given_of_merged tables ran

theorem tableRow_agree (agree : AgreeUntil pandas bound api api') {day : Int}
    (before : day ≤ bound) (entry : PyString × List PyString) :
    tableRow pandas api codes asOfDate periods entry code day =
      tableRow pandas api' codes asOfDate periods entry code day := by
  unfold tableRow
  cases described : describeTable entry.1 with
  | error raised => rfl
  | ok schema => exact visible_agree agree (describeTable_ok described).1 before

theorem tableRow_fromRow {entry : PyString × List PyString} {day : Int} {snapshot : Row}
    (found : tableRow pandas api codes asOfDate periods entry code day = some snapshot) :
    ∃ schema, describeTable entry.1 = .ok schema ∧
      FromRow pandas api schema codes asOfDate periods entry.2 code day snapshot := by
  unfold tableRow at found
  cases described : describeTable entry.1 with
  | error raised =>
    rw [described] at found
    cases found
  | ok schema =>
    rw [described] at found
    exact ⟨schema, rfl, visible_fromRow found⟩

theorem enrich_pointInTime (tables : (fieldsByTable.map Prod.fst).Nodup)
    (agree : AgreeUntil pandas bound api api')
    (ran : enrichWithFundamentals pandas api dataMap fieldsByTable asOfDate periods =
      .ok enriched)
    (ran' : enrichWithFundamentals pandas api' dataMap fieldsByTable asOfDate periods =
      .ok enriched') :
    SameUntil bound fieldsByTable enriched enriched' ∧
      FromRows pandas api dataMap fieldsByTable asOfDate periods enriched := by
  have given := enrich_ok tables ran
  have given' := enrich_ok tables ran'
  constructor
  · refine forall₂_then given.flip given' ?_
    rintro item entry item' ⟨named, bars⟩ ⟨named', bars'⟩
    refine ⟨named'.trans named.symm, forall₂_then bars.flip bars' ?_⟩
    rintro enrichedBar bar enrichedBar' ⟨rfl, rows⟩ ⟨same, rows'⟩
    refine ⟨same, fun before table member => ?_⟩
    rw [rows table member, rows' table member, tableRow_agree agree before]
  · refine given.imp fun entry item ⟨named, bars⟩ => ⟨named, ?_⟩
    refine bars.imp fun bar enrichedBar ⟨same, rows⟩ => ⟨same, fun table member snapshot found => ?_⟩
    rw [Option.mem_def, rows table member] at found
    exact tableRow_fromRow found

-- What the merge takes for granted: of the rows published by the day of a bar, the one that it is
-- given has the latest fiscal period end.
def LatestPeriods (pandas : Pandas Rank) (api : FundamentalApi)
    (dataMap : List (PyString × List (Bar Prices)))
    (fieldsByTable : List (PyString × List PyString)) (asOfDate : Cell) (periods : List PyString) :
    Prop :=
  ∀ enriched, enrichWithFundamentals pandas api dataMap fieldsByTable asOfDate periods =
      .ok enriched →
    ∀ item ∈ enriched, ∀ bar ∈ item.2, ∀ entry ∈ fieldsByTable, ∀ snapshot ∈ bar.row entry.1,
      ∀ schema ∈ schemas, schema.name = entry.1 →
        ∀ other ∈ rowsFor api schema item.1, (other "ts_code").isText item.1 = true →
          publishedBy pandas schema bar.bar.tradeDate other = true →
          rankOf pandas (other "end_date") ≤ rankOf pandas (snapshot "end_date")

end Visible

-- Texts of digits in the order of their numbers, and dates of eight digits.
def plainPandas : Pandas Nat where
  toDatetime _ := .error .valueError
  strptime text := .ok (some (Ascii.natural text.points))
  isdigit text := text.points.all Ascii.isDigit
  timestampText _ := "2024-01-01"
  rank
    | .text s => Ascii.natural s.points
    | _ => 0

def indicatorRow (announced period roe : PyString) : Row := fun column =>
  if column = "ts_code" then .text "600000.SH"
  else if column = "ann_date" then .text announced
  else if column = "end_date" then .text period
  else if column = "roe" then .text roe
  else .nan

def indicatorColumns : List PyString := ["ts_code", "ann_date", "end_date", "roe"]

def indicators (rows : List Row) : FundamentalApi where
  hasMethod _ := true
  answer _ _ := .ok (some ⟨indicatorColumns, rows⟩)

-- The year 2023 is announced before a correction of the year 2022.
def annual : Row := indicatorRow "20240301" "20231231" "11.2"

def correction : Row := indicatorRow "20240401" "20221231" "9.7"

def mayBars : List (PyString × List (Bar Unit)) := [("600000.SH", [⟨20240315, ()⟩, ⟨20240506, ()⟩])]

def roeRun (rows : List Row) : Except PyError (EnrichedMap Unit) :=
  enrichWithFundamentals plainPandas (indicators rows) mayBars [("fina_indicator", ["roe"])]
    (.text "20240601") []

def shows (enriched : EnrichedMap Unit) (day : Int) (period : PyString) : Bool :=
  enriched.any fun item => item.1 = "600000.SH" && item.2.any fun bar =>
    bar.bar.tradeDate = day &&
      (bar.row "fina_indicator").any fun row => (row "end_date").isText period

theorem roeRun_shows : ∃ enriched, roeRun [annual, correction] = .ok enriched ∧
    shows enriched 20240506 "20221231" = true := by
  have shown : (roeRun [annual, correction]).toOption.any
      (shows · 20240506 "20221231") = true := by decide +kernel
  cases outcome : roeRun [annual, correction] with
  | error raised => simp [outcome, Except.toOption] at shown
  | ok enriched => exact ⟨enriched, rfl, by simpa [outcome, Except.toOption] using shown⟩

-- In May the bar shows the year 2022, though the year 2023 was published in March.
theorem correction_hides_annual :
    ¬ LatestPeriods plainPandas (indicators [annual, correction]) mayBars
      [("fina_indicator", ["roe"])] (.text "20240601") [] := by
  intro latest
  obtain ⟨enriched, ran, shown⟩ := roeRun_shows
  obtain ⟨item, listed, shown⟩ := List.any_eq_true.mp shown
  obtain ⟨code, shown⟩ := Bool.and_eq_true_iff.mp shown
  obtain ⟨bar, barred, shown⟩ := List.any_eq_true.mp shown
  obtain ⟨day, shown⟩ := Bool.and_eq_true_iff.mp shown
  obtain ⟨snapshot, found, period⟩ := (Option.any_eq_true _ _).mp shown
  have ranked := latest enriched ran item listed bar barred _ List.mem_cons_self snapshot found
    indicatorSchema (by simp [schemas]) rfl (annual.restrict indicatorColumns) List.mem_cons_self
    (by rw [of_decide_eq_true code]; decide +kernel)
    (by rw [of_decide_eq_true day]; decide +kernel)
  rw [isText_iff.mp period] at ranked
  exact absurd ranked (by decide +kernel)

theorem annual_alone : ∃ enriched enriched', roeRun [annual] = .ok enriched ∧
    roeRun [annual, correction] = .ok enriched' ∧
    SameUntil 20240331 [("fina_indicator", ["roe"])] enriched enriched' ∧
    FromRows plainPandas (indicators [annual]) mayBars [("fina_indicator", ["roe"])]
      (.text "20240601") [] enriched := by
  have returns : (roeRun [annual]).isOk = true := by decide +kernel
  obtain ⟨enriched', ran', -⟩ := roeRun_shows
  cases outcome : roeRun [annual] with
  | error raised =>
    rw [outcome] at returns
    cases returns
  | ok enriched =>
    refine ⟨enriched, enriched', rfl, ran', enrich_pointInTime (by decide) ?_ outcome ran'⟩
    intro schema known code
    have later : ∀ schema ∈ schemas, publishedBy plainPandas schema 20240331
        (correction.restrict indicatorColumns) = false := by decide +kernel
    change List.filter _ [annual.restrict indicatorColumns] =
      List.filter _ [annual.restrict indicatorColumns, correction.restrict indicatorColumns]
    simp [List.filter_cons, later schema known]

end SynapseYield.Backtest.Fundamentals
