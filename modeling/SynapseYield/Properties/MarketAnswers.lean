import Mathlib.Data.List.Induction
import Mathlib.Data.List.Nodup
import SynapseYield.Properties.LocalRequests

set_option autoImplicit false

namespace SynapseYield.Backtest.MarketData

open Shared

section Rows

variable {Record : Type}

def CappedRows.data : CappedRows Record → List Record
  | .all records => records
  | .sampled _ _ _ data => data

structure Sampled (maxRows : Int) (records rows : List Record) : Prop where
  sublist : rows.Sublist records
  capped : rows.length ≤ maxRows
  last : rows.getLast? = records.getLast?

-- The stride and the pinned last row, of n rows where more than m are there.
def strideRows (n m : Nat) : Nat :=
  let step := (n + m - 1) / m
  (n - 1 + step - 1) / step + 1

/-- The number of rows fits under the cap, once the last one is pinned. -/
def Fits (n m : Nat) : Prop := n ≤ m ∨ strideRows n m ≤ m

theorem stride_snoc (step : Nat) (records : List Record) (record : Record) :
    stride step (records ++ [record]) =
      stride step records ++ if records.length % step = 0 then [record] else [] := by
  unfold stride
  rw [List.zipIdx_append, List.filter_append, List.map_append, Nat.zero_add]
  congr 1
  by_cases divides : records.length % step = 0
  · simp [divides]
  · simp [divides]

theorem stride_sublist (step : Nat) (records : List Record) :
    (stride step records).Sublist records := by
  unfold stride
  have kept := (List.filter_sublist (p := fun entry : Record × Nat => entry.2 % step = 0)
    (l := records.zipIdx)).map Prod.fst
  rwa [List.zipIdx_map_fst] at kept

theorem length_stride {step : Nat} (positive : 0 < step) (records : List Record) :
    (stride step records).length = (records.length + step - 1) / step := by
  induction records using List.reverseRecOn with
  | nil =>
    refine (Nat.div_eq_of_lt ?_).symm
    simp only [List.length_nil]
    omega
  | append_singleton records record ih =>
    rw [stride_snoc, List.length_append, ih, List.length_append, List.length_singleton]
    have next : records.length + 1 + step - 1 = records.length + step - 1 + 1 := by omega
    rw [next, Nat.succ_div]
    congr 1
    have same : step ∣ records.length + step - 1 + 1 ↔ records.length % step = 0 := by
      have sum : records.length + step - 1 + 1 = records.length + step := by omega
      rw [sum, Nat.dvd_add_self_right, Nat.dvd_iff_mod_eq_zero]
    by_cases divides : records.length % step = 0
    · rw [if_pos divides, if_pos (same.mpr divides)]
      rfl
    · rw [if_neg divides, if_neg (same.not.mpr divides)]
      rfl

theorem pinned_snoc {step : Nat} (records : List Record) (record : Record) :
    let sampled := stride step (records ++ [record])
    (if records.length % step = 0 then sampled else sampled ++ [record]) =
      stride step records ++ [record] := by
  dsimp only
  rw [stride_snoc]
  split
  next => rfl
  next => rw [List.append_nil]

theorem capRows_few {maxRows : Int} (positive : 1 ≤ maxRows) {records : List Record}
    (few : records.length ≤ maxRows.toNat) : capRows maxRows records = .all records := by
  have cap : (if maxRows < 0 then defaultMaxRows else maxRows.toNat) = maxRows.toNat :=
    if_neg (by omega)
  unfold capRows
  dsimp only
  rw [cap, if_pos (.inr few)]

theorem capRows_many {maxRows : Int} (positive : 1 ≤ maxRows) (records : List Record)
    (record : Record) (many : maxRows.toNat < (records ++ [record]).length) :
    (capRows maxRows (records ++ [record])).data =
      stride (((records ++ [record]).length + maxRows.toNat - 1) / maxRows.toNat) records ++
        [record] := by
  have cap : (if maxRows < 0 then defaultMaxRows else maxRows.toNat) = maxRows.toNat :=
    if_neg (by omega)
  have last : (records ++ [record]).getLast?.toList = [record] := by
    rw [List.getLast?_concat]
    rfl
  have before : (records ++ [record]).length - 1 = records.length := by
    rw [List.length_append]
    exact Nat.add_sub_cancel _ 1
  unfold capRows
  dsimp only
  rw [cap, if_neg (by omega), last, before]
  exact pinned_snoc records record

/-- The rows of a symbol are what a caller may expect exactly where they fit. -/
theorem capRows_sampled {maxRows : Int} (positive : 1 ≤ maxRows) (records : List Record) :
    Sampled maxRows records (capRows maxRows records).data ↔
      Fits records.length maxRows.toNat := by
  by_cases few : records.length ≤ maxRows.toNat
  · rw [capRows_few positive few]
    refine iff_of_true ⟨List.Sublist.refl _, ?_, rfl⟩ (.inl few)
    change (records.length : Int) ≤ maxRows
    omega
  · obtain rfl | ⟨records, record, rfl⟩ := List.eq_nil_or_concat' records
    · exact absurd (Nat.zero_le _) few
    · have many : maxRows.toNat < (records ++ [record]).length := Nat.lt_of_not_le few
      have step : 0 < ((records ++ [record]).length + maxRows.toNat - 1) / maxRows.toNat :=
        Nat.div_pos (by omega) (by omega)
      have length : (stride (((records ++ [record]).length + maxRows.toNat - 1) / maxRows.toNat)
          records ++ [record]).length = strideRows (records ++ [record]).length maxRows.toNat := by
        rw [List.length_append, length_stride step, strideRows]
        simp only [List.length_append, List.length_singleton, Nat.add_sub_cancel]
      rw [capRows_many positive records record many]
      constructor
      · rintro ⟨-, capped, -⟩
        rw [length] at capped
        exact .inr (by omega)
      · intro fits
        refine ⟨(stride_sublist _ records).append_right _, ?_, ?_⟩
        · rw [length]
          have capped := fits.resolve_left few
          omega
        · rw [List.getLast?_concat, List.getLast?_concat]

end Rows

section Items

variable {β : Type} {key other : PyString} {value : β}

theorem lookup_setItem (items : List (PyString × β)) :
    (setItem key value items).lookup other =
      if other = key then some value else items.lookup other := by
  induction items with
  | nil =>
    by_cases same : other = key
    · simp [setItem, same]
    · simp [setItem, List.lookup_cons, beq_false_of_ne same, same]
  | cons first rest ih =>
    obtain ⟨place, held⟩ := first
    unfold setItem
    by_cases here : place = key
    · rw [if_pos here]
      by_cases same : other = key
      · simp [same]
      · subst here
        simp [List.lookup_cons, beq_false_of_ne same, same]
    · rw [if_neg here, List.lookup_cons, List.lookup_cons, ih]
      by_cases there : other = place
      · have different : other ≠ key := fun same => here (there.symm.trans same)
        simp only [if_neg different]
      · rw [beq_false_of_ne there]

end Items

section Groups

variable {key : PyString → PyString} {groups : List (PyString × List PyString)}

theorem keys_addToGroup (market code : PyString) (groups : List (PyString × List PyString)) :
    (addToGroup market code groups).map Prod.fst =
      if market ∈ groups.map Prod.fst then groups.map Prod.fst
      else groups.map Prod.fst ++ [market] := by
  induction groups with
  | nil => rfl
  | cons first rest ih =>
    unfold addToGroup
    split
    next same => simp [same]
    next other =>
      have different : market ≠ first.1 := Ne.symm other
      simp only [List.map_cons, ih, List.mem_cons, different, false_or]
      split <;> rfl

theorem nodup_fold {codes : List PyString} (distinct : (groups.map Prod.fst).Nodup) :
    ((codes.foldl (fun groups code => addToGroup (key code) code groups) groups).map
      Prod.fst).Nodup := by
  induction codes generalizing groups with
  | nil => exact distinct
  | cons code codes ih =>
    refine ih ?_
    rw [keys_addToGroup]
    split
    next => exact distinct
    next new =>
      refine List.nodup_append.mpr ⟨distinct, List.nodup_singleton _, ?_⟩
      rintro market old _ (_ | ⟨_, ⟨⟩⟩) rfl
      exact new old

theorem codes_fold {codes : List PyString} :
    ∀ group ∈ codes.foldl (fun groups code => addToGroup (key code) code groups) groups,
      ∀ code ∈ group.2, code ∈ codes ∨ ∃ group' ∈ groups, code ∈ group'.2 := by
  induction codes generalizing groups with
  | nil => exact fun group member code given => .inr ⟨group, member, given⟩
  | cons first codes ih =>
    intro group member code given
    obtain later | ⟨group', old, there⟩ := ih group member code given
    · exact .inl (List.mem_cons_of_mem _ later)
    · obtain ⟨rfl, -⟩ | ⟨group'', old, -, there⟩ := mem_addToGroup old code there
      · exact .inl List.mem_cons_self
      · exact .inr ⟨group'', old, there⟩

end Groups

section Answers

variable {Frame Record : Type} [PyText] (loaders : Loaders Frame) (others : PyString → PyString)
  (records : Frame → List Record) (request : MarketRequest)

def symbols : List PyString := (originalByNormalized request.codes).map Prod.fst

def groups : List (PyString × List PyString) :=
  sourceGroups others request.source (symbols request)

omit [PyText] in
def sourceOf (symbol : PyString) : PyString :=
  if request.source = "auto" then detectSource others symbol else request.source

omit [PyText] in
/-- A class is found for the source, and its constructor returns. -/
def Reaches (source : PyString) : Prop :=
  ∃ name loader, getLoaderClsWithFallback loaders source = some name ∧
    construct loaders name = .ok loader

omit [PyText] in
-- What the loader of a group returns: nothing where one of its calls raises.
def framesOf (group : PyString × List PyString) : DataMap Frame :=
  match getLoaderClsWithFallback loaders group.1 with
  | none => []
  | some name =>
    match construct loaders name with
    | .error _ => []
    | .ok loader =>
      match loader.fetch (sourceRequest request group.2) with
      | .ok frames => frames
      | .error _ => []

def answered (symbol : PyString) : Option Frame :=
  ((groups others request).find? (·.1 = sourceOf others request symbol)).bind fun group =>
    (framesOf loaders request group).lookup symbol

omit [PyText] in
/-- The loaders return frames for some of the codes that they are asked for, or raise an
exception. -/
def Ordinary : Prop :=
  ∀ name, ∀ loader ∈ loaders.registry name, ∀ request,
    (∀ frames, loader.fetch request = .ok frames →
      (frames.map Prod.fst).Nodup ∧ ∀ symbol ∈ frames.map Prod.fst, symbol ∈ request.codes) ∧
    ∀ raised, loader.fetch request = .error raised → raised.isException

def unresolvedKey : PyString := "_unresolved"

def hintKey : PyString := "_hint"

inductive MarketEntry (Record : Type) where
  | rows (capped : CappedRows Record)
  | codes (unresolved : List PyString)
  | hint (source : PyString)

omit [PyText] in
def MarketResults.entries (results : MarketResults Record) :
    List (PyString × MarketEntry Record) :=
  let data := results.data.map fun entry => (entry.1, .rows entry.2)
  let data := if results.unresolved = [] then data
    else setItem unresolvedKey (.codes results.unresolved) data
  match results.hint with
  | some source => setItem hintKey (.hint source) data
  | none => data

structure Served (results : MarketResults Record) : Prop where
  rows : ∀ code ∈ request.codes, ∀ frame,
    answered loaders others request (normalizeCode code) = some frame →
      (∃ rows, results.entries.lookup code = some (.rows rows) ∧
        Sampled request.maxRows (records frame) rows.data) ∧
      ∀ codes, results.entries.lookup unresolvedKey = some (.codes codes) → code ∉ codes
  unresolved : ∀ code ∈ request.codes,
    answered loaders others request (normalizeCode code) = none →
      ∃ codes, results.entries.lookup unresolvedKey = some (.codes codes) ∧ code ∈ codes

/-- What the requests are that fetch_market_data serves. -/
structure Servable : Prop where
  reached : ∀ group ∈ groups others request, Reaches loaders group.1
  alone : ∀ code ∈ request.codes, ∀ other ∈ request.codes, code ≠ other →
    normalizeCode code = normalizeCode other →
      answered loaders others request (normalizeCode code) = none
  named : unresolvedKey ∈ request.codes →
    answered loaders others request (normalizeCode unresolvedKey) ≠ none →
      ∀ code ∈ request.codes, answered loaders others request (normalizeCode code) ≠ none
  fits : ∀ code ∈ request.codes, ∀ frame,
    answered loaders others request (normalizeCode code) = some frame →
      Fits (records frame).length request.maxRows.toNat

end Answers

section Codes

variable [PyText] {codes : List PyString} {code symbol : PyString}

theorem originals_fold {originals : List (PyString × PyString)} :
    (codes.foldl (fun originals code => setItem (normalizeCode code) code originals)
        originals).lookup symbol = some code →
      code ∈ codes ∧ normalizeCode code = symbol ∨ originals.lookup symbol = some code := by
  induction codes generalizing originals with
  | nil => exact .inr
  | cons first rest ih =>
    intro found
    obtain ⟨later, same⟩ | old := ih found
    · exact .inl ⟨List.mem_cons_of_mem _ later, same⟩
    · rw [lookup_setItem] at old
      split at old
      next same =>
        obtain rfl := Option.some.inj old
        exact .inl ⟨List.mem_cons_self, same.symm⟩
      next => exact .inr old

theorem originalSymbol_symbols (member : symbol ∈ (originalByNormalized codes).map Prod.fst) :
    originalSymbol codes symbol ∈ codes ∧ normalizeCode (originalSymbol codes symbol) = symbol := by
  unfold originalSymbol
  cases found : (originalByNormalized codes).lookup symbol with
  | none =>
    obtain ⟨entry, given, rfl⟩ := List.mem_map.mp member
    exact absurd given (by simpa using List.lookup_eq_none_iff.mp found entry)
  | some code =>
    obtain given | none := originals_fold found
    · exact given
    · cases none

end Codes

section Frames

variable {Frame Record : Type} [PyText] {loaders : Loaders Frame} {others : PyString → PyString}
  {records : Frame → List Record} {request : MarketRequest}
  {group : PyString × List PyString} {symbol : PyString}

omit [PyText] in
theorem framesOf_ordinary (ordinary : Ordinary loaders) :
    ((framesOf loaders request group).map Prod.fst).Nodup ∧
      ∀ symbol ∈ (framesOf loaders request group).map Prod.fst, symbol ∈ group.2 := by
  unfold framesOf
  split
  next => exact ⟨List.nodup_nil, List.forall_mem_nil _⟩
  next name named =>
    split
    next => exact ⟨List.nodup_nil, List.forall_mem_nil _⟩
    next loader constructed =>
      split
      next frames fetched =>
        exact (ordinary name loader (construct_ok.mp constructed).1 _).1 frames fetched
      next => exact ⟨List.nodup_nil, List.forall_mem_nil _⟩

theorem groups_codes (member : group ∈ groups others request) (given : symbol ∈ group.2) :
    symbol ∈ symbols request ∧ sourceOf others request symbol = group.1 := by
  unfold groups sourceGroups at member
  unfold sourceOf
  split at member
  next auto =>
    rw [if_pos auto]
    constructor
    · obtain listed | ⟨_, none, -⟩ := codes_fold group member symbol given
      · exact listed
      · cases none
    · exact grouped_fold (fun _ none => by cases none) group member symbol given
  next named =>
    rw [if_neg named]
    obtain rfl := List.mem_singleton.mp member
    exact ⟨given, rfl⟩

theorem groups_distinct : ((groups others request).map Prod.fst).Nodup := by
  unfold groups sourceGroups
  split
  · exact nodup_fold List.nodup_nil
  · exact List.nodup_singleton _

theorem framesOf_codes (ordinary : Ordinary loaders) (member : group ∈ groups others request)
    (given : symbol ∈ (framesOf loaders request group).map Prod.fst) :
    symbol ∈ symbols request ∧ sourceOf others request symbol = group.1 :=
  groups_codes member ((framesOf_ordinary ordinary).2 symbol given)

omit [PyText] in
theorem lookup_absent {β : Type} {items : List (PyString × β)} {key : PyString}
    (absent : key ∉ items.map Prod.fst) : items.lookup key = none := by
  rw [List.lookup_eq_none_iff]
  intro entry member
  rw [bne_iff_ne]
  rintro rfl
  exact absent (List.mem_map_of_mem member)

variable {key : PyString}

theorem lookup_addFrames {dataMap : DataMap Frame}
    (distinct : (dataMap.map Prod.fst).Nodup)
    (inside : ∀ symbol ∈ dataMap.map Prod.fst, symbol ∈ symbols request)
    (results : List (PyString × CappedRows Record)) :
    (addFrames records request results dataMap).lookup key =
      if originalSymbol request.codes (normalizeCode key) = key then
        ((dataMap.lookup (normalizeCode key)).map fun frame =>
          capRows request.maxRows (records frame)).or (results.lookup key)
      else results.lookup key := by
  unfold addFrames
  induction dataMap generalizing results with
  | nil => simp
  | cons entry rest ih =>
    obtain ⟨first, later⟩ := List.forall_mem_cons.mp inside
    obtain ⟨fresh, distinct⟩ := List.nodup_cons.mp distinct
    obtain ⟨-, back⟩ := originalSymbol_symbols first
    rw [List.foldl_cons, ih distinct later, lookup_setItem]
    have foreign (other : normalizeCode key ≠ entry.1) :
        key ≠ originalSymbol request.codes entry.1 := by
      rintro rfl
      exact other back
    by_cases own : originalSymbol request.codes (normalizeCode key) = key
    · rw [if_pos own, if_pos own]
      by_cases same : normalizeCode key = entry.1
      · rw [same] at own ⊢
        rw [if_pos own.symm, lookup_absent fresh, List.lookup_cons, beq_self_eq_true]
        rfl
      · rw [if_neg (foreign same), List.lookup_cons, beq_false_of_ne same]
    · rw [if_neg own, if_neg own]
      refine if_neg fun same => own ?_
      rw [same, back]

theorem lookup_groups (ordinary : Ordinary loaders) {asked : List (PyString × List PyString)}
    (inside : ∀ group ∈ asked, group ∈ groups others request)
    (distinct : (asked.map Prod.fst).Nodup) (results : List (PyString × CappedRows Record)) :
    (asked.foldl (fun results group =>
        addFrames records request results (framesOf loaders request group)) results).lookup key =
      if originalSymbol request.codes (normalizeCode key) = key then
        (((asked.find? (·.1 = sourceOf others request (normalizeCode key))).bind fun group =>
          (framesOf loaders request group).lookup (normalizeCode key)).map fun frame =>
            capRows request.maxRows (records frame)).or (results.lookup key)
      else results.lookup key := by
  induction asked generalizing results with
  | nil => simp
  | cons group rest ih =>
    obtain ⟨first, later⟩ := List.forall_mem_cons.mp inside
    obtain ⟨fresh, distinct⟩ := List.nodup_cons.mp distinct
    have frames := (@framesOf_ordinary _ _ request group) ordinary
    rw [List.foldl_cons, ih later distinct, lookup_addFrames frames.1 fun symbol given =>
      (framesOf_codes ordinary first given).1]
    by_cases own : originalSymbol request.codes (normalizeCode key) = key
    · rw [if_pos own, if_pos own, if_pos own]
      by_cases same : group.1 = sourceOf others request (normalizeCode key)
      · have gone : rest.find? (·.1 = sourceOf others request (normalizeCode key)) = none := by
          rw [List.find?_eq_none]
          intro other member equal
          refine fresh (List.mem_map.mpr ⟨other, member, ?_⟩)
          rw [same]
          exact of_decide_eq_true equal
        rw [gone, List.find?_cons_of_pos (by simp [same])]
        rfl
      · have none : (framesOf loaders request group).lookup (normalizeCode key) = none := by
          refine lookup_absent fun given => same ?_
          exact (framesOf_codes ordinary first given).2.symm
        rw [none, List.find?_cons_of_neg (by simp [same])]
        rfl
    · rw [if_neg own, if_neg own, if_neg own]

variable (records) in
theorem fetchSource_run (ordinary : Ordinary loaders) (reaches : Reaches loaders group.1)
    (results : List (PyString × CappedRows Record)) (log : FetchLog) :
    ∃ log', fetchSource loaders records request results group log =
      .ok (addFrames records request results (framesOf loaders request group)) log' := by
  obtain ⟨name, loader, named, constructed⟩ := reaches
  unfold fetchSource framesOf
  rw [named]
  dsimp only
  rw [constructed]
  have built : (liftExcept (.ok loader : Except PyError (Loader Frame)) : Fetching _) log =
      .ok loader log := rfl
  rw [bind_of_ok built]
  dsimp only
  cases answer : loader.fetch (sourceRequest request group.2) with
  | ok frames =>
    refine ⟨{ log with calls := log.calls ++ [⟨name, sourceRequest request group.2⟩] },
      bind_of_ok ?_⟩
    rw [tryCatch_run, Fetching.fetch_ok answer]
  | error raised =>
    have caught := (ordinary name loader (construct_ok.mp constructed).1 _).2 raised answer
    refine ⟨{ log with calls := log.calls ++ [⟨name, sourceRequest request group.2⟩] },
      bind_of_ok ?_⟩
    rw [tryCatch_run, Fetching.fetch_error answer]
    dsimp only
    rw [if_pos caught]
    rfl

variable (records) in
theorem fetchSource_fails (lost : ¬ Reaches loaders group.1)
    (results : List (PyString × CappedRows Record)) (log : FetchLog) :
    ∃ raised log', fetchSource loaders records request results group log = .error raised log' := by
  unfold fetchSource
  cases named : getLoaderClsWithFallback loaders group.1 with
  | none => exact ⟨_, _, rfl⟩
  | some name =>
    dsimp only
    cases constructed : construct loaders name with
    | ok loader => exact absurd ⟨name, loader, named, constructed⟩ lost
    | error raised => exact ⟨raised, log, rfl⟩

variable (records) in
theorem fetchSources_run (ordinary : Ordinary loaders) {asked : List (PyString × List PyString)}
    (reached : ∀ group ∈ asked, Reaches loaders group.1)
    (results : List (PyString × CappedRows Record)) (log : FetchLog) :
    ∃ log', asked.foldlM (fetchSource loaders records request) results log =
      .ok (asked.foldl (fun results group =>
        addFrames records request results (framesOf loaders request group)) results) log' := by
  induction asked generalizing results log with
  | nil => exact ⟨log, rfl⟩
  | cons group rest ih =>
    obtain ⟨first, later⟩ := List.forall_mem_cons.mp reached
    obtain ⟨log₁, turn⟩ := (@fetchSource_run _ _ _ _ records request) ordinary first results log
    obtain ⟨log₂, turns⟩ := ih later (addFrames records request results
      (framesOf loaders request group)) log₁
    refine ⟨log₂, ?_⟩
    rw [List.foldlM_cons, bind_of_ok turn]
    exact turns

theorem fetchSources_reached {asked : List (PyString × List PyString)}
    {results left : List (PyString × CappedRows Record)} {log log' : FetchLog}
    (run : asked.foldlM (fetchSource loaders records request) results log = .ok left log') :
    ∀ group ∈ asked, Reaches loaders group.1 := by
  induction asked generalizing results log with
  | nil => exact List.forall_mem_nil _
  | cons group rest ih =>
    rw [List.foldlM_cons] at run
    obtain ⟨next, log₁, turn, run⟩ := bind_ok.mp run
    refine List.forall_mem_cons.mpr ⟨?_, ih run⟩
    by_contra lost
    obtain ⟨raised, log₂, failed⟩ := (@fetchSource_fails _ _ _ _ records request) lost results log
    rw [failed] at turn
    cases turn

variable (loaders others records request) in
-- The rows that are there when every source has been asked.
def collected : List (PyString × CappedRows Record) :=
  (groups others request).foldl (fun results group =>
    addFrames records request results (framesOf loaders request group)) []

theorem lookup_collected (ordinary : Ordinary loaders) :
    (collected loaders others records request).lookup key =
      if originalSymbol request.codes (normalizeCode key) = key then
        (answered loaders others request (normalizeCode key)).map fun frame =>
          capRows request.maxRows (records frame)
      else none := by
  unfold collected answered
  rw [lookup_groups ordinary (fun _ member => member) groups_distinct]
  simp

variable (loaders others records request) in
def answers : MarketResults Record :=
  let data := collected loaders others records request
  let unresolved := request.codes.filter (· ∉ data.map Prod.fst)
  let failed := unresolved ≠ [] ∧ request.source ≠ "auto" ∧
    unresolved.length = request.codes.length
  { data, unresolved, hint := if failed then some request.source else none }

theorem fetchMarketData_run (ordinary : Ordinary loaders)
    (reached : ∀ group ∈ groups others request, Reaches loaders group.1) (log : FetchLog) :
    ∃ log', fetchMarketData loaders others records request log =
      .ok (answers loaders others records request) log' := by
  obtain ⟨log', run⟩ := (@fetchSources_run _ _ _ _ records request) ordinary reached [] log
  refine ⟨log', ?_⟩
  unfold fetchMarketData
  exact bind_of_ok run

theorem fetchMarketData_reached {results : MarketResults Record} {log log' : FetchLog}
    (run : fetchMarketData loaders others records request log = .ok results log') :
    ∀ group ∈ groups others request, Reaches loaders group.1 := by
  unfold fetchMarketData at run
  obtain ⟨left, log₁, asked, -⟩ := bind_ok.mp run
  exact fetchSources_reached asked

section Entries

variable {results : MarketResults Record}

omit [PyText] in
theorem lookup_map_rows (data : List (PyString × CappedRows Record)) (key : PyString) :
    (data.map fun entry => (entry.1, MarketEntry.rows entry.2)).lookup key =
      (data.lookup key).map .rows := by
  induction data with
  | nil => rfl
  | cons entry rest ih =>
    rw [List.map_cons, List.lookup_cons, List.lookup_cons, ih]
    cases key == entry.1 <;> rfl

omit [PyText] in
theorem lookup_entries (key : PyString) :
    results.entries.lookup key =
      if key = hintKey ∧ results.hint.isSome then results.hint.map .hint
      else if key = unresolvedKey ∧ results.unresolved ≠ [] then some (.codes results.unresolved)
      else (results.data.lookup key).map .rows := by
  have base : (if results.unresolved = [] then
        results.data.map fun entry => (entry.1, MarketEntry.rows entry.2)
      else setItem unresolvedKey (.codes results.unresolved)
        (results.data.map fun entry => (entry.1, MarketEntry.rows entry.2))).lookup key =
      if key = unresolvedKey ∧ results.unresolved ≠ [] then some (.codes results.unresolved)
      else (results.data.lookup key).map .rows := by
    by_cases none : results.unresolved = []
    · rw [if_pos none, if_neg (by simp [none]), lookup_map_rows]
    · rw [if_neg none, lookup_setItem, lookup_map_rows]
      simp only [none, ne_eq, not_false_iff, and_true]
  unfold MarketResults.entries
  dsimp only
  cases hint : results.hint with
  | none =>
    have unhinted : ¬ (key = hintKey ∧ (Option.none : Option PyString).isSome = true) := by simp
    rw [if_neg unhinted]
    exact base
  | some source =>
    dsimp only
    rw [lookup_setItem, base]
    simp only [Option.isSome_some, and_true, Option.map_some]

end Entries

omit [PyText] in
theorem keys_differ : unresolvedKey ≠ hintKey := by decide +kernel

section Listed

variable {code : PyString}

theorem listed_iff : code ∈ (answers loaders others records request).unresolved ↔
    code ∈ request.codes ∧ (collected loaders others records request).lookup code = none := by
  have keys : code ∉ (collected loaders others records request).map Prod.fst ↔
      (collected loaders others records request).lookup code = none := by
    constructor
    · exact lookup_absent
    · intro none listed
      obtain ⟨entry, member, rfl⟩ := List.mem_map.mp listed
      exact absurd (List.lookup_eq_none_iff.mp none entry member) (by simp)
  unfold answers
  dsimp only
  rw [List.mem_filter, decide_eq_true_eq, keys]

theorem rows_collected {rows : CappedRows Record}
    (found : (answers loaders others records request).entries.lookup code = some (.rows rows)) :
    (collected loaders others records request).lookup code = some rows := by
  rw [lookup_entries] at found
  split at found
  next => cases hint : (answers loaders others records request).hint <;> simp [hint] at found
  next =>
    split at found
    next => cases found
    next =>
      obtain ⟨held, stored, same⟩ := Option.map_eq_some_iff.mp found
      cases same
      exact stored

theorem unresolved_entry (listed : code ∈ (answers loaders others records request).unresolved) :
    (answers loaders others records request).entries.lookup unresolvedKey =
      some (.codes (answers loaders others records request).unresolved) := by
  rw [lookup_entries, if_neg fun same => keys_differ same.1,
    if_pos ⟨rfl, List.ne_nil_of_mem listed⟩]

theorem hint_all (hinted : (answers loaders others records request).hint.isSome = true)
    (given : code ∈ request.codes) :
    code ∈ (answers loaders others records request).unresolved := by
  unfold answers at hinted ⊢
  dsimp only at hinted ⊢
  split at hinted
  next failed =>
    rw [List.filter_sublist.eq_of_length failed.2.2]
    exact given
  next => cases hinted

end Listed

theorem servable_of_served (ordinary : Ordinary loaders) (positive : 1 ≤ request.maxRows)
    (reached : ∀ group ∈ groups others request, Reaches loaders group.1)
    (served : Served loaders others records request (answers loaders others records request)) :
    Servable loaders others records request := by
  have own {code : PyString} (given : code ∈ request.codes) {frame : Frame}
      (answer : answered loaders others request (normalizeCode code) = some frame) :
      originalSymbol request.codes (normalizeCode code) = code ∧
        ∃ rows, Sampled request.maxRows (records frame) rows.data ∧
          capRows request.maxRows (records frame) = rows := by
    obtain ⟨⟨rows, found, sampled⟩, -⟩ := served.rows code given frame answer
    have stored := rows_collected found
    rw [lookup_collected ordinary, answer] at stored
    split at stored
    next same => exact ⟨same, rows, sampled, Option.some.inj stored⟩
    next => cases stored
  refine ⟨reached, fun code given other listed different same => ?_, fun given answer => ?_,
    fun code given frame answer => ?_⟩
  · by_contra some
    obtain ⟨frame, answer⟩ := Option.ne_none_iff_exists'.mp some
    have first := (own given answer).1
    have second := (own listed (same ▸ answer)).1
    rw [← same, first] at second
    exact different second
  · intro code member none
    obtain ⟨frame, answer⟩ := Option.ne_none_iff_exists'.mp answer
    obtain ⟨⟨rows, found, -⟩, -⟩ := served.rows unresolvedKey given frame answer
    obtain ⟨codes, listed, -⟩ := served.unresolved code member none
    rw [found] at listed
    cases listed
  · obtain ⟨-, rows, sampled, rfl⟩ := own given answer
    exact (capRows_sampled positive _).mp sampled

theorem served_of_servable (ordinary : Ordinary loaders) (positive : 1 ≤ request.maxRows)
    (servable : Servable loaders others records request) :
    Served loaders others records request (answers loaders others records request) := by
  have stored {code : PyString} (given : code ∈ request.codes) {frame : Frame}
      (answer : answered loaders others request (normalizeCode code) = some frame) :
      (collected loaders others records request).lookup code =
        some (capRows request.maxRows (records frame)) := by
    have own : originalSymbol request.codes (normalizeCode code) = code := by
      by_contra other
      obtain ⟨listed, same⟩ := originalSymbol_symbols (normalized_key given)
      have none := servable.alone code given _ listed (Ne.symm other) same.symm
      rw [answer] at none
      cases none
    rw [lookup_collected ordinary, if_pos own, answer]
    rfl
  have held {code : PyString} {frame : Frame}
      (answer : answered loaders others request (normalizeCode code) = some frame) :
      code ∉ (answers loaders others records request).unresolved := fun listed => by
    obtain ⟨given, none⟩ := listed_iff.mp listed
    rw [stored given answer] at none
    cases none
  refine ⟨fun code given frame answer =>
      ⟨⟨capRows request.maxRows (records frame), ?_, ?_⟩, fun codes found => ?_⟩,
    fun code given none => ?_⟩
  · rw [lookup_entries, if_neg fun hinted => held answer (hint_all hinted.2 given), if_neg]
    · exact congrArg (Option.map _) (stored given answer)
    · rintro ⟨rfl, some⟩
      obtain ⟨code, listed⟩ := List.exists_mem_of_ne_nil _ some
      have answers := servable.named given (by rw [answer]; simp) code (listed_iff.mp listed).1
      obtain ⟨frame, answer⟩ := Option.ne_none_iff_exists'.mp answers
      exact held answer listed
  · exact (capRows_sampled positive _).mpr (servable.fits code given frame answer)
  · intro listed
    rw [lookup_entries, if_neg fun same => keys_differ same.1] at found
    split at found
    next =>
      cases found
      exact held answer listed
    next =>
      obtain ⟨rows, -, same⟩ := Option.map_eq_some_iff.mp found
      cases same
  · have absent : (collected loaders others records request).lookup code = Option.none := by
      rw [lookup_collected ordinary, none]
      split <;> rfl
    have listed := listed_iff.mpr ⟨given, absent⟩
    exact ⟨_, unresolved_entry listed, listed⟩

theorem servable_of_run {results : MarketResults Record} {log log' : FetchLog}
    (ordinary : Ordinary loaders) (positive : 1 ≤ request.maxRows)
    (run : fetchMarketData loaders others records request log = .ok results log')
    (served : Served loaders others records request results) :
    Servable loaders others records request := by
  have reached := fetchMarketData_reached run
  obtain ⟨_, returns⟩ := (@fetchMarketData_run _ _ _ _ _ records) ordinary reached log
  cases run.symm.trans returns
  exact servable_of_served ordinary positive reached served

end Frames

/-- fetch_market_data returns, with the rows or the absence of each requested code, exactly for
the requests that are servable. -/
theorem fetchMarketData_serves {Frame Record : Type} [PyText] (loaders : Loaders Frame)
    (others : PyString → PyString) (records : Frame → List Record) (request : MarketRequest)
    (log : FetchLog) (ordinary : Ordinary loaders) (positive : 1 ≤ request.maxRows) :
    (∃ results log', fetchMarketData loaders others records request log = .ok results log' ∧
        Served loaders others records request results) ↔
      Servable loaders others records request := by
  constructor
  · rintro ⟨results, log', run, served⟩
    exact servable_of_run ordinary positive run served
  · intro servable
    obtain ⟨log', run⟩ := (@fetchMarketData_run _ _ _ _ _ records) ordinary servable.reached log
    exact ⟨_, log', run, served_of_servable ordinary positive servable⟩

def okxLoader (bars : List Nat) : Loader (List Nat) where
  constructs := true
  isAvailable := true
  markets := ["crypto"]
  fetch request := .ok ((request.codes.take 1).map fun code => (code, bars))

def okx : PyString := "okx"

def okxLoaders (bars : List Nat) : Loaders (List Nat) where
  registry name := if name = okx then some (okxLoader bars) else none
  detectMarket _ := "crypto"

def bitcoin : PyString := "BTC-USDT"

def bitcoinRequest (maxRows : Int) : MarketRequest where
  codes := [bitcoin]
  startDate := "2026-01-01"
  endDate := "2026-02-01"
  source := okx
  maxRows

theorem okxLoaders_ordinary (bars : List Nat) : Ordinary (okxLoaders bars) := by
  intro name loader registered request
  unfold okxLoaders at registered
  dsimp only at registered
  split at registered
  next =>
    obtain rfl := Option.some.inj registered
    refine ⟨fun frames fetched => ?_, fun raised failed => by cases failed⟩
    obtain rfl := Except.ok.inj fetched
    obtain ⟨codes⟩ := request
    cases codes with
    | nil => exact ⟨List.nodup_nil, List.forall_mem_nil _⟩
    | cons code rest =>
      exact ⟨List.nodup_singleton _, List.forall_mem_singleton.mpr List.mem_cons_self⟩
  next => cases registered

theorem okx_reaches (bars : List Nat) : Reaches (okxLoaders bars) okx := by
  have registered : (okxLoaders bars).registry okx = some (okxLoader bars) := by
    unfold okxLoaders
    dsimp only
    rw [if_pos rfl]
  refine ⟨okx, okxLoader bars, ?_, construct_ok.mpr ⟨registered, rfl⟩⟩
  unfold getLoaderClsWithFallback
  rw [registered]
  rfl

theorem bitcoin_answered (maxRows : Int) :
    @answered (List Nat) asciiText (okxLoaders [1, 2, 3, 4]) id (bitcoinRequest maxRows)
        (@normalizeCode asciiText bitcoin) = some [1, 2, 3, 4] ∧
      @groups asciiText id (bitcoinRequest maxRows) = [(okx, [bitcoin])] ∧
        unresolvedKey ≠ bitcoin := by
  have fixed : @answered (List Nat) asciiText (okxLoaders [1, 2, 3, 4]) id (bitcoinRequest 0)
        (@normalizeCode asciiText bitcoin) = some [1, 2, 3, 4] ∧
      @groups asciiText id (bitcoinRequest 0) = [(okx, [bitcoin])] ∧
        unresolvedKey ≠ bitcoin := by decide +kernel
  exact fixed

def ether : PyString := "ETH-USDT"

def cryptoRequest : MarketRequest := { bitcoinRequest 4 with codes := [bitcoin, ether] }

theorem crypto_answered :
    @answered (List Nat) asciiText (okxLoaders [1, 2, 3, 4]) id cryptoRequest
        (@normalizeCode asciiText bitcoin) = some [1, 2, 3, 4] ∧
      @answered (List Nat) asciiText (okxLoaders [1, 2, 3, 4]) id cryptoRequest
        (@normalizeCode asciiText ether) = none ∧
      @groups asciiText id cryptoRequest = [(okx, [bitcoin, ether])] ∧
        unresolvedKey ∉ cryptoRequest.codes := by
  decide +kernel

theorem fetchMarketData_serves_bitcoin :
    ∃ results log',
      @fetchMarketData (List Nat) Nat asciiText (okxLoaders [1, 2, 3, 4]) id id cryptoRequest
          {} = .ok results log' ∧
        @Served (List Nat) Nat asciiText (okxLoaders [1, 2, 3, 4]) id id cryptoRequest
          results := by
  let text := asciiText
  obtain ⟨given, absent, only, plain⟩ := crypto_answered
  refine (fetchMarketData_serves _ _ _ _ _ (okxLoaders_ordinary _) (by decide)).mpr
    ⟨?_, ?_, ?_, ?_⟩
  · rw [only]
    exact List.forall_mem_singleton.mpr (okx_reaches _)
  · have apart : ∀ code ∈ cryptoRequest.codes, ∀ other ∈ cryptoRequest.codes, code ≠ other →
        @normalizeCode asciiText code ≠ @normalizeCode asciiText other := by decide +kernel
    intro code first other second different same
    exact absurd same (apart code first other second different)
  · intro listed
    exact absurd listed plain
  · intro code first frame answer
    obtain rfl | second := List.mem_cons.mp first
    · cases given.symm.trans answer
      exact .inl (by decide)
    · obtain rfl := List.mem_singleton.mp second
      cases absent.symm.trans answer

-- Of four bars a cap of two leaves three.
theorem fetchMarketData_overflows :
    ¬ ∀ loaders others records request log, Ordinary loaders → 1 ≤ request.maxRows →
      ∃ results log',
        @fetchMarketData (List Nat) Nat asciiText loaders others records request log =
            .ok results log' ∧
          @Served (List Nat) Nat asciiText loaders others records request results := by
  let text := asciiText
  intro always
  have ordinary := okxLoaders_ordinary [1, 2, 3, 4]
  obtain ⟨results, log', run, served⟩ := always _ id id (bitcoinRequest 2) {} ordinary (by decide)
  have servable := servable_of_run ordinary (by decide) run served
  have fits := servable.fits bitcoin List.mem_cons_self _ (bitcoin_answered 2).1
  exact absurd fits (by unfold Fits; decide)

end SynapseYield.Backtest.MarketData
