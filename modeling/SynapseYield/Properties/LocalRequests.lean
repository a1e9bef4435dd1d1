import SynapseYield.Backtest.MarketData
import SynapseYield.Shared.Outcome

set_option autoImplicit false

namespace SynapseYield.Backtest

open Shared

variable {Frame : Type}

namespace Fetching

theorem fetch_erases (name : PyString) (loader : Loader Frame) (request : Request) :
    Erases (fetch name loader request) (loader.fetch request) :=
  fun _ => Erases.liftExcept _ _

theorem runtimeFallback_erases (loaders : Loaders Frame) (skipped : PyString)
    (ask : PyString → Request) (chain : List PyString) :
    Erases (runtimeFallback loaders skipped ask chain)
      (Backtest.runtimeFallback loaders skipped ask chain) := by
  induction chain with
  | nil => exact .pure _
  | cons fbName rest ih =>
    unfold runtimeFallback Backtest.runtimeFallback
    split
    · exact ih
    refine (Erases.liftExcept _).bind fun loader => ?_
    split
    · exact ih
    refine (fetch_erases _ _ _).bind fun result => ?_
    split
    · exact ih
    · exact .pure _

variable [PyText] (loaders : Loaders Frame) (config : BacktestConfig)

theorem fetchGroup_erases (market : PyString) (marketCodes : List PyString) :
    Erases (fetchGroup loaders config market marketCodes)
      (Backtest.fetchGroup loaders config market marketCodes) := by
  unfold fetchGroup Backtest.fetchGroup
  cases primarySource loaders market with
  | none => exact .throw _
  | some srcName =>
    refine (Erases.liftExcept _).bind fun loader => (fetch_erases _ _ _).bind fun result => ?_
    split
    · exact (runtimeFallback_erases _ _ _ _).bind fun _ => .pure _
    · exact .pure _

theorem fetchAuto_erases : Erases (fetchAuto loaders config) (Backtest.fetchAuto loaders config) :=
  .foldlM (fun _ _ => (fetchGroup_erases _ _ _ _).bind fun _ => .pure _) _

omit [PyText] in
theorem warnMissing_erases (codes : List PyString) (dataMap : DataMap Frame) :
    Erases (warnMissing codes dataMap) (.ok ()) := by
  unfold warnMissing
  split
  · exact fun _ => rfl
  · exact .pure _

theorem fetchSingle_erases :
    Erases (fetchSingle loaders config) (Backtest.fetchSingle loaders config) := by
  unfold fetchSingle Backtest.fetchSingle
  cases getLoader loaders config.source with
  | none => exact .throw _
  | some name =>
    refine (Erases.liftExcept _).bind fun loader => (fetch_erases _ _ _).bind fun dataMap => ?_
    refine ((warnMissing_erases (normalizeCodes config.codes config.source) dataMap).bind
      (g := fun _ => _) fun _ => ?_)
    cases normalizeCodes config.codes config.source with
    | nil => exact .pure _
    | cons code codes =>
      dsimp only
      split
      · exact (runtimeFallback_erases _ _ _ _).bind fun _ => .pure _
      · exact .pure _

end Fetching

section Calls

theorem Fetching.fetch_ok {name : PyString} {loader : Loader Frame} {request : Request}
    {log : FetchLog} {frames : DataMap Frame} (fetched : loader.fetch request = .ok frames) :
    fetch name loader request log =
      .ok frames { log with calls := log.calls ++ [⟨name, request⟩] } := by
  unfold fetch
  rw [fetched]
  rfl

theorem Fetching.fetch_error {name : PyString} {loader : Loader Frame} {request : Request}
    {log : FetchLog} {raised : PyError} (failed : loader.fetch request = .error raised) :
    fetch name loader request log =
      .error raised { log with calls := log.calls ++ [⟨name, request⟩] } := by
  unfold fetch
  rw [failed]
  rfl

def CallsOnly (called : FetchCall → Prop) (log : FetchLog) : Prop := ∀ call ∈ log.calls, called call

variable {called : FetchCall → Prop}

theorem Fetching.fetch_calls {name : PyString} {loader : Loader Frame} {request : Request}
    (holds : called ⟨name, request⟩) : Keeps (CallsOnly called) (fetch name loader request) := by
  refine .bind (.modified fun log before call member => ?_) fun _ => .liftExcept _
  obtain member | last := List.mem_append.mp member
  · exact before call member
  · rw [List.mem_singleton.mp last]
    exact holds

theorem Fetching.warnMissing_calls (codes : List PyString) (dataMap : DataMap Frame) :
    Keeps (CallsOnly called) (warnMissing codes dataMap) := by
  unfold warnMissing
  split
  · exact .modified fun _ before => before
  · exact .pure _

end Calls

section Runner

variable [PyText] (loaders : Loaders Frame) (config : BacktestConfig) (validateOhlc : Frame → Frame)

-- str(code).lower().startswith("local:")
def localPrefixed (code : PyString) : Bool :=
  ("local:" : PyString).points.isPrefixOf code.lower.points

def mainCodes : List PyString := normalizeCodes config.codes config.source

variable {loaders config}

theorem audit_local (codes : List PyString) : auditExplicitLocal "local" codes = true := by
  have plain : ("local" : PyString).strip.lower = ("local" : PyString) := rfl
  simp [auditExplicitLocal, plain]

theorem audit_prefixed {source code : PyString} {codes : List PyString} (member : code ∈ codes)
    (explicit : localPrefixed code = true) : auditExplicitLocal source codes = true := by
  unfold auditExplicitLocal
  exact Bool.or_eq_true_iff.mpr (.inr (List.any_eq_true.mpr ⟨code, member, explicit⟩))

theorem Fetching.fetchSingle_eq {name : PyString} {loader : Loader Frame}
    (named : getLoader loaders config.source = some name)
    (constructed : construct loaders name = .ok loader)
    (explicit : auditExplicitLocal config.source (mainCodes config) = true) :
    fetchSingle loaders config =
      fetch name loader (singleRequest config config.source) >>= fun dataMap =>
        warnMissing (mainCodes config) dataMap >>= fun _ => pure (dataMap, config.source) := by
  unfold fetchSingle
  simp only [named, constructed]
  change (fetch name loader _ >>= fun dataMap => _) = _
  refine congrArg (fetch name loader (singleRequest config config.source) >>= ·) ?_
  funext dataMap
  refine congrArg (warnMissing (mainCodes config) dataMap >>= ·) ?_
  funext _
  unfold mainCodes at explicit
  cases codes : normalizeCodes config.codes config.source with
  | nil => rfl
  | cons code rest =>
    rw [codes] at explicit
    simp [explicit]

def handed (validateOhlc : Frame → Frame) (dataMap : DataMap Frame) : Option (DataMap Frame) :=
  if dataMap.isEmpty then none else some (dataMap.map fun entry => (entry.1, validateOhlc entry.2))

omit [PyText] in
theorem pure_handed (dataMap : DataMap Frame) :
    (if (dataMap.map fun entry => (entry.1, validateOhlc entry.2)).isEmpty then pure none
      else pure (some (dataMap.map fun entry => (entry.1, validateOhlc entry.2))) :
      Fetching (Option (DataMap Frame))) = pure (handed validateOhlc dataMap) := by
  cases dataMap <;> rfl

theorem Fetching.main_single (single : config.source ≠ "auto") :
    main loaders config validateOhlc =
      fetchSingle loaders config >>= fun served => pure (handed validateOhlc served.1) := by
  unfold main
  rw [if_neg single]
  refine congrArg (fetchSingle loaders config >>= ·) ?_
  funext ⟨dataMap, served⟩
  dsimp only
  rw [pure_bind, pure_handed]

theorem Fetching.main_outcome (log : FetchLog) :
    outcome (main loaders config validateOhlc log) =
      handed validateOhlc <$> (if config.source = "auto" then Backtest.fetchAuto loaders config
        else Prod.fst <$> Backtest.fetchSingle loaders config) := by
  by_cases auto : config.source = "auto"
  · have run : main loaders config validateOhlc =
        fetchAuto loaders config >>= fun dataMap => pure (handed validateOhlc dataMap) := by
      unfold main
      rw [if_pos auto]
      exact congrArg (fetchAuto loaders config >>= ·) (funext (pure_handed validateOhlc))
    rw [run, if_pos auto, map_eq_pure_bind]
    exact (fetchAuto_erases loaders config).bind (fun _ => .pure _) log
  · rw [main_single validateOhlc auto, if_neg auto, Functor.map_map, map_eq_pure_bind]
    exact (fetchSingle_erases loaders config).bind (fun _ => .pure _) log

theorem Fetching.main_eq {name : PyString} {loader : Loader Frame} (single : config.source ≠ "auto")
    (named : getLoader loaders config.source = some name)
    (constructed : construct loaders name = .ok loader)
    (explicit : auditExplicitLocal config.source (mainCodes config) = true) :
    main loaders config validateOhlc =
      fetch name loader (singleRequest config config.source) >>= fun dataMap =>
        warnMissing (mainCodes config) dataMap >>= fun _ => pure (handed validateOhlc dataMap) := by
  rw [main_single validateOhlc single, fetchSingle_eq named constructed explicit]
  simp only [bind_assoc, pure_bind]

variable (loaders) in
theorem Fetching.main_named (single : config.source ≠ "auto")
    (explicit : auditExplicitLocal config.source (mainCodes config) = true) :
    Keeps (CallsOnly fun call => getLoader loaders config.source = some call.loader)
      (main loaders config validateOhlc) := by
  cases named : getLoader loaders config.source with
  | none =>
    rw [main_single validateOhlc single]
    refine .bind ?_ fun _ => .pure _
    unfold fetchSingle
    simp only [named]
    exact .throw _
  | some name =>
    cases constructed : construct loaders name with
    | error raised =>
      rw [main_single validateOhlc single]
      refine .bind ?_ fun _ => .pure _
      unfold fetchSingle
      simp only [named, constructed]
      exact .throw _
    | ok loader =>
      rw [main_eq validateOhlc single named constructed explicit]
      have asked : some name = some (FetchCall.mk name (singleRequest config config.source)).loader := rfl
      exact .bind (fetch_calls asked) fun dataMap => (warnMissing_calls _ _).bind fun _ => .pure _

omit [PyText] in
theorem getLoader_local (ready : isReady loaders "local" = true) :
    getLoader loaders "local" = some ("local" : PyString) ∧
      ∃ loader, loaders.registry "local" = some loader ∧ construct loaders "local" = .ok loader := by
  unfold isReady at ready
  unfold getLoader getLoaderClsWithFallback
  cases found : loaders.registry "local" with
  | none => simp [found] at ready
  | some loader =>
    simp only [found] at ready
    simp only [ready, if_true, true_and]
    exact ⟨loader, rfl, construct_ok.mpr ⟨found, (Bool.and_eq_true_iff.mp ready).1⟩⟩

omit [PyText] in
theorem cls_local {name : PyString} (named : getLoaderClsWithFallback loaders "local" = some name) :
    name = "local" ∧ isReady loaders "local" = true := by
  unfold getLoaderClsWithFallback at named
  unfold isReady
  cases found : loaders.registry "local" with
  | none => simp [found] at named
  | some loader =>
    simp only [found] at named
    split at named
    next ready => exact ⟨(Option.some.inj named).symm, ready⟩
    next => simp [noNetworkFallbackSources] at named

structure LocalRun (loaders : Loaders Frame) (config : BacktestConfig) (validateOhlc : Frame → Frame) :
    Prop where
  ready : config.source = "local" → isReady loaders "local" = true →
    ∀ call ∈ (leaves (Fetching.main loaders config validateOhlc {})).calls, call.loader = "local"
  unusable : config.source = "local" → isReady loaders "local" = false →
    loaders.registry "tushare" = none →
    Fetching.main loaders config validateOhlc {} = .error .other {}
  -- No source stands in for the one that the run names.
  named : config.source ≠ "auto" → ∀ code ∈ mainCodes config, localPrefixed code = true →
    ∀ call ∈ (leaves (Fetching.main loaders config validateOhlc {})).calls,
      getLoader loaders config.source = some call.loader
  raised : config.source = "local" → isReady loaders "local" = true →
    ∀ loader ∈ loaders.registry "local", ∀ raised,
      loader.fetch (singleRequest config config.source) = .error raised →
      outcome (Fetching.main loaders config validateOhlc {}) = .error raised
  noData : config.source = "local" → isReady loaders "local" = true →
    ∀ loader ∈ loaders.registry "local", loader.fetch (singleRequest config config.source) = .ok [] →
      outcome (Fetching.main loaders config validateOhlc {}) = .ok none
  missing : config.source = "local" → isReady loaders "local" = true →
    ∀ loader ∈ loaders.registry "local", ∀ frames,
      loader.fetch (singleRequest config config.source) = .ok frames → frames ≠ [] →
      frames.length < (mainCodes config).length →
      ∀ code ∈ mainCodes config, code ∉ frames.map Prod.fst →
        code ∈ (leaves (Fetching.main loaders config validateOhlc {})).missing

theorem localRun (loaders : Loaders Frame) (config : BacktestConfig) (validateOhlc : Frame → Frame) :
    LocalRun loaders config validateOhlc := by
  have explicit (source : config.source = "local") :
      auditExplicitLocal config.source (mainCodes config) = true := by
    rw [source]
    exact audit_local _
  have single (source : config.source = "local") : config.source ≠ "auto" := by
    rw [source]
    decide
  have run (source : config.source = "local") (ready : isReady loaders "local" = true)
      {loader : Loader Frame} (found : loader ∈ loaders.registry "local") :
      Fetching.main loaders config validateOhlc =
        Fetching.fetch "local" loader (singleRequest config config.source) >>= fun dataMap =>
          Fetching.warnMissing (mainCodes config) dataMap >>= fun _ =>
            pure (handed validateOhlc dataMap) := by
    obtain ⟨named, loader', found', constructed⟩ := getLoader_local ready
    cases (Option.mem_def.mp found).symm.trans found'
    exact Fetching.main_eq validateOhlc (single source) (source ▸ named) constructed (explicit source)
  constructor
  case ready =>
    intro source ready call member
    have named := Fetching.main_named loaders validateOhlc (single source) (explicit source)
      {} (fun _ none => by cases none) call member
    rw [source, (getLoader_local ready).1] at named
    exact (Option.some.inj named).symm
  case unusable =>
    intro source unready absent
    have none : getLoader loaders config.source = none := by
      cases given : getLoaderClsWithFallback loaders "local" with
      | some name =>
        rw [(cls_local given).2] at unready
        cases unready
      | none => simp [source, getLoader, given, absent]
    rw [Fetching.main_single validateOhlc (single source), Fetching.fetchSingle]
    simp only [none]
    rfl
  case named =>
    intro source code member isLocal
    exact Fetching.main_named loaders validateOhlc source (audit_prefixed member isLocal)
      {} (fun _ none => by cases none)
  case raised =>
    intro source ready loader found raised failed
    obtain ⟨named, loader', found', constructed⟩ := getLoader_local ready
    cases (Option.mem_def.mp found).symm.trans found'
    rw [Fetching.main_outcome, if_neg (single source), fetchSingle, source, named]
    rw [source] at failed
    simp only [constructed]
    change handed validateOhlc <$> Prod.fst <$> (loader.fetch _ >>= _) = _
    rw [failed]
    rfl
  case noData =>
    intro source ready loader found fetched
    rw [run source ready found, bind_of_ok (Fetching.fetch_ok fetched)]
    rfl
  case missing =>
    intro source ready loader found frames fetched some fewer code member absent
    rw [run source ready found, bind_of_ok (Fetching.fetch_ok fetched)]
    have warns : (! frames.isEmpty && decide (frames.length < (mainCodes config).length)) = true := by
      simp [some, fewer]
    unfold Fetching.warnMissing
    rw [if_pos warns]
    exact List.mem_filter.mpr ⟨member, by simpa using absent⟩

end Runner

namespace MarketData

section Groups

variable {key : PyString → PyString} {codes : List PyString}

theorem mem_addToGroup {market code : PyString} {groups : List (PyString × List PyString)}
    {group : PyString × List PyString} (member : group ∈ addToGroup market code groups) :
    ∀ other ∈ group.2, (other = code ∧ group.1 = market) ∨
      ∃ group' ∈ groups, group'.1 = group.1 ∧ other ∈ group'.2 := by
  induction groups with
  | nil =>
    obtain rfl := List.mem_singleton.mp member
    intro other given
    exact .inl ⟨List.mem_singleton.mp given, rfl⟩
  | cons first rest ih =>
    unfold addToGroup at member
    split at member
    next same =>
      obtain rfl | later := List.mem_cons.mp member
      · intro other given
        obtain old | new := List.mem_append.mp given
        · exact .inr ⟨first, List.mem_cons_self, rfl, old⟩
        · exact .inl ⟨List.mem_singleton.mp new, same⟩
      · exact fun other given => .inr ⟨group, List.mem_cons_of_mem _ later, rfl, given⟩
    next =>
      obtain rfl | later := List.mem_cons.mp member
      · exact fun other given => .inr ⟨first, List.mem_cons_self, rfl, given⟩
      · intro other given
        obtain new | ⟨group', old, same, there⟩ := ih later other given
        · exact .inl new
        · exact .inr ⟨group', List.mem_cons_of_mem _ old, same, there⟩

theorem key_addToGroup (market code : PyString) (groups : List (PyString × List PyString)) :
    market ∈ (addToGroup market code groups).map Prod.fst ∧
      ∀ other ∈ groups.map Prod.fst, other ∈ (addToGroup market code groups).map Prod.fst := by
  induction groups with
  | nil => simp [addToGroup]
  | cons first rest ih =>
    unfold addToGroup
    split
    next same => simp [same]
    next =>
      rw [List.map_cons]
      refine ⟨List.mem_cons_of_mem _ ih.1, fun other member => ?_⟩
      obtain rfl | later := List.mem_cons.mp member
      · exact List.mem_cons_self
      · exact List.mem_cons_of_mem _ (ih.2 other later)

def Grouped (key : PyString → PyString) (groups : List (PyString × List PyString)) : Prop :=
  ∀ group ∈ groups, ∀ code ∈ group.2, key code = group.1

theorem grouped_fold {groups : List (PyString × List PyString)} (grouped : Grouped key groups) :
    Grouped key (codes.foldl (fun groups code => addToGroup (key code) code groups) groups) := by
  induction codes generalizing groups with
  | nil => exact grouped
  | cons code codes ih =>
    refine ih fun group member other given => ?_
    obtain ⟨rfl, same⟩ | ⟨group', old, same, there⟩ := mem_addToGroup member other given
    · exact same.symm
    · rw [← same]
      exact grouped group' old other there

theorem keys_fold {groups : List (PyString × List PyString)} {code : PyString} :
    code ∈ groups.map Prod.fst ∨ (∃ member ∈ codes, key member = code) →
    code ∈ (codes.foldl (fun groups code => addToGroup (key code) code groups) groups).map
      Prod.fst := by
  induction codes generalizing groups with
  | nil => simp
  | cons first codes ih =>
    rintro (old | ⟨member, given, rfl⟩)
    · exact ih (.inl ((key_addToGroup _ _ _).2 _ old))
    · obtain rfl | later := List.mem_cons.mp given
      · exact ih (.inl (key_addToGroup _ _ _).1)
      · exact ih (.inr ⟨member, later, rfl⟩)

end Groups

section Items

variable {β : Type} {key : PyString} {value : β}

theorem mem_setItem {entry : PyString × β} {items : List (PyString × β)}
    (member : entry ∈ setItem key value items) : entry = (key, value) ∨ entry ∈ items := by
  induction items with
  | nil => exact .inl (List.mem_singleton.mp member)
  | cons first rest ih =>
    unfold setItem at member
    split at member
    · exact (List.mem_cons.mp member).imp_right (List.mem_cons_of_mem _)
    · obtain rfl | later := List.mem_cons.mp member
      · exact .inr List.mem_cons_self
      · exact (ih later).imp_right (List.mem_cons_of_mem _)

theorem key_setItem (items : List (PyString × β)) : key ∈ (setItem key value items).map Prod.fst ∧
    ∀ other ∈ items.map Prod.fst, other ∈ (setItem key value items).map Prod.fst := by
  induction items with
  | nil => simp [setItem]
  | cons first rest ih =>
    unfold setItem
    split
    next same => simp [same]
    next =>
      rw [List.map_cons]
      refine ⟨List.mem_cons_of_mem _ ih.1, fun other member => ?_⟩
      obtain rfl | later := List.mem_cons.mp member
      · exact List.mem_cons_self
      · exact List.mem_cons_of_mem _ (ih.2 other later)

end Items

section Codes

theorem lower_colon {point : CodePoint}
    (lowered : (if Ascii.isUpper point then point + 32 else point) = 0x3A) : point = 0x3A := by
  split at lowered
  next upper =>
    simp only [Ascii.isUpper, Bool.and_eq_true, decide_eq_true_eq] at upper
    have value := congrArg Fin.val lowered
    rw [Fin.val_add, show ((32 : CodePoint) : Nat) = 32 from rfl,
      show ((0x3A : CodePoint) : Nat) = 58 from rfl] at value
    omega
  next => exact lowered

variable {code : PyString}

theorem colon_of_matches (explicit : matchesLocal code = true) : code.points[5]? = some 0x3A := by
  have lowered := congrArg PyString.points (of_decide_eq_true explicit)
  have fifth := congrArg (·[5]?) lowered
  simp only [Ascii.lower, List.getElem?_map, List.getElem?_take] at fifth
  cases found : code.points[5]? with
  | none =>
    rw [found] at fifth
    cases fifth
  | some point =>
    rw [found] at fifth
    exact congrArg some (lower_colon (Option.some.inj fifth))

variable [PyText]

theorem length_of_suffix (explicit : matchesLocal code = true) (plain : code.isAscii = true)
    (suffixed : ((".SS" : PyString).points <:+ code.upper.points)) : 9 ≤ code.points.length := by
  obtain ⟨front, whole⟩ := suffixed
  rw [PyString.upper, if_pos plain, Ascii.upper] at whole
  have long := congrArg List.length whole
  have fifth := congrArg (·[5]?) whole
  simp only [List.getElem?_map, colon_of_matches explicit] at fifth
  rw [List.length_append, List.length_map] at long
  by_contra short
  have three : (".SS" : PyString).points.length = 3 := rfl
  rw [List.getElem?_append_right (by omega)] at fifth
  exact absurd (List.mem_of_getElem? fifth) (by decide)

theorem matchesLocal_normalizeCode (explicit : matchesLocal code = true)
    (plain : code.isAscii = true ∨ 9 ≤ code.points.length) :
    matchesLocal (normalizeCode code) = true := by
  unfold normalizeCode
  split
  next suffix canonical found =>
    have listed := List.mem_of_find?_eq_some found
    have suffixed := List.find?_some found
    obtain ⟨rfl, rfl⟩ := Prod.mk.inj (List.mem_singleton.mp listed)
    have long : 9 ≤ code.points.length :=
      plain.elim (fun plain => length_of_suffix explicit plain (List.isSuffixOf_iff_suffix.mp suffixed)) id
    have three : (".SS" : PyString).points.length = 3 := rfl
    have front : (code.points.take (code.points.length - 3) ++ (".SH" : PyString).points).take 6 =
        code.points.take 6 := by
      rw [List.take_append_of_le_length (by rw [List.length_take]; omega), List.take_take]
      congr 1
      omega
    unfold matchesLocal
    rw [three]
    change decide (Ascii.lower ⟨(code.points.take (code.points.length - 3) ++
      (".SH" : PyString).points).take 6⟩ = _) = true
    rw [front]
    exact explicit
  next => exact explicit

end Codes

section Run

variable {Record : Type} [PyText] {loaders : Loaders Frame} {others : PyString → PyString}
  {records : Frame → List Record} {request : MarketRequest}

theorem mem_addFrames {results : List (PyString × CappedRows Record)} {dataMap : DataMap Frame}
    {code : PyString} (member : code ∈ (addFrames records request results dataMap).map Prod.fst) :
    code ∈ results.map Prod.fst ∨
      ∃ symbol ∈ dataMap.map Prod.fst, originalSymbol request.codes symbol = code := by
  unfold addFrames at member
  induction dataMap generalizing results with
  | nil => exact .inl member
  | cons entry rest ih =>
    obtain old | ⟨symbol, later, same⟩ := ih member
    · obtain ⟨item, stored, rfl⟩ := List.mem_map.mp old
      obtain rfl | old := mem_setItem stored
      · exact .inr ⟨entry.1, List.mem_cons_self, rfl⟩
      · exact .inl (List.mem_map_of_mem old)
    · exact .inr ⟨symbol, List.mem_cons_of_mem _ later, same⟩

theorem fetchSource_calls {called : FetchCall → Prop} {group : PyString × List PyString}
    (results : List (PyString × CappedRows Record))
    (holds : ∀ name, getLoaderClsWithFallback loaders group.1 = some name →
      called ⟨name, sourceRequest request group.2⟩) :
    Keeps (CallsOnly called) (fetchSource loaders records request results group) := by
  unfold fetchSource
  cases named : getLoaderClsWithFallback loaders group.1 with
  | none => exact .throw _
  | some name =>
    refine .bind (.liftExcept _) fun loader => .bind ?_ fun _ => .pure _
    exact .tryCatch (Fetching.fetch_calls (holds name named)) fun _ => .ite (.pure _) (.throw _)

theorem fetchMarketData_calls (called : FetchCall → Prop)
    (holds : ∀ group ∈ sourceGroups others request.source
        ((originalByNormalized request.codes).map Prod.fst), ∀ name,
      getLoaderClsWithFallback loaders group.1 = some name →
      called ⟨name, sourceRequest request group.2⟩) :
    Keeps (CallsOnly called) (fetchMarketData loaders others records request) :=
  .bind (.foldlM (fun results group member => fetchSource_calls results (holds group member)) _)
    fun _ => .pure _

omit [PyText] in
theorem sourceGroups_detected {codes : List PyString} (auto : request.source = "auto") :
    Grouped (detectSource others) (sourceGroups others request.source codes) := by
  unfold sourceGroups
  rw [if_pos auto]
  exact grouped_fold fun _ none => by cases none

theorem normalized_key {codes : List PyString} {code : PyString} (member : code ∈ codes) :
    normalizeCode code ∈ (originalByNormalized codes).map Prod.fst := by
  have loop : ∀ originals : List (PyString × PyString),
      normalizeCode code ∈ originals.map Prod.fst ∨ code ∈ codes →
      normalizeCode code ∈ (codes.foldl
        (fun originals code => setItem (normalizeCode code) code originals) originals).map Prod.fst := by
    clear member
    induction codes with
    | nil => simp
    | cons first rest ih =>
      rintro originals (old | given)
      · exact ih _ (.inl ((key_setItem originals).2 _ old))
      · obtain rfl | later := List.mem_cons.mp given
        · exact ih _ (.inl (key_setItem originals).1)
        · exact ih _ (.inr later)
  exact loop [] (.inr member)

variable (records request) in
theorem fetchSources_raises {groups : List (PyString × List PyString)}
    {group : PyString × List PyString} (member : group ∈ groups)
    (none : getLoaderClsWithFallback loaders group.1 = none)
    (results : List (PyString × CappedRows Record)) (log : FetchLog) :
    ∃ raised log', groups.foldlM (fetchSource loaders records request) results log =
      .error raised log' := by
  induction groups generalizing results log with
  | nil => cases member
  | cons first rest ih =>
    rw [List.foldlM_cons]
    obtain rfl | later := List.mem_cons.mp member
    · refine ⟨.other, log, bind_of_error ?_⟩
      unfold fetchSource
      rw [none]
      rfl
    · cases turn : fetchSource loaders records request results first log with
      | error raised log' => exact ⟨raised, log', bind_of_error turn⟩
      | ok results' log' =>
        rw [bind_of_ok turn]
        exact ih later results' log'

-- The frames that the calls of a log delivered for a code of the request.
def Delivered (loaders : Loaders Frame) (codes : List PyString) (calls : List FetchCall)
    (code : PyString) : Prop :=
  ∃ call ∈ calls, ∃ loader ∈ loaders.registry call.loader, ∃ frames,
    loader.fetch call.request = .ok frames ∧
      ∃ symbol ∈ frames.map Prod.fst, originalSymbol codes symbol = code

theorem Delivered.more {codes : List PyString} {calls : List FetchCall} {code : PyString}
    (delivered : Delivered loaders codes calls code) (call : FetchCall) :
    Delivered loaders codes (calls ++ [call]) code := by
  obtain ⟨call, member, rest⟩ := delivered
  exact ⟨call, List.mem_append_left _ member, rest⟩

theorem fetchSource_delivered {results results' : List (PyString × CappedRows Record)}
    {log log' : FetchLog} {group : PyString × List PyString}
    (ran : fetchSource loaders records request results group log = .ok results' log')
    (before : ∀ code ∈ results.map Prod.fst, Delivered loaders request.codes log.calls code) :
    ∀ code ∈ results'.map Prod.fst, Delivered loaders request.codes log'.calls code := by
  unfold fetchSource at ran
  cases named : getLoaderClsWithFallback loaders group.1 with
  | none =>
    simp only [named] at ran
    cases ran
  | some name =>
    simp only [named] at ran
    obtain ⟨loader, log₁, constructed, ran⟩ := bind_ok.mp ran
    obtain ⟨dataMap, log₂, fetched, ran⟩ := bind_ok.mp ran
    obtain ⟨rfl, rfl⟩ := pure_ok.mp ran
    cases built : construct loaders name with
    | error raised =>
      rw [built] at constructed
      cases constructed
    | ok loader' =>
      rw [built] at constructed
      cases constructed
      have registered := (construct_ok.mp built).1
      rw [tryCatch_run] at fetched
      cases answer : loader.fetch (sourceRequest request group.2) with
      | error raised =>
        rw [Fetching.fetch_error answer] at fetched
        dsimp only at fetched
        split at fetched
        · obtain ⟨rfl, rfl⟩ := pure_ok.mp fetched
          exact fun code member => (before code member).more _
        · cases fetched
      | ok frames =>
        rw [Fetching.fetch_ok answer] at fetched
        cases fetched
        intro code member
        obtain old | ⟨symbol, given, same⟩ := mem_addFrames member
        · exact (before code old).more _
        · exact ⟨_, List.mem_append_right _ List.mem_cons_self, loader, registered, dataMap, answer,
            symbol, given, same⟩

theorem fetchSources_delivered {groups : List (PyString × List PyString)}
    {results results' : List (PyString × CappedRows Record)} {log log' : FetchLog}
    (ran : groups.foldlM (fetchSource loaders records request) results log = .ok results' log')
    (before : ∀ code ∈ results.map Prod.fst, Delivered loaders request.codes log.calls code) :
    ∀ code ∈ results'.map Prod.fst, Delivered loaders request.codes log'.calls code := by
  induction groups generalizing results log with
  | nil =>
    cases ran
    exact before
  | cons group rest ih =>
    rw [List.foldlM_cons] at ran
    obtain ⟨next, log₁, turn, ran⟩ := bind_ok.mp ran
    exact ih ran (fetchSource_delivered turn before)

structure LocalMarketData (loaders : Loaders Frame) (others : PyString → PyString)
    (records : Frame → List Record) (request : MarketRequest) : Prop where
  localSource : request.source = "local" →
    ∀ call ∈ (leaves (fetchMarketData loaders others records request {})).calls,
      call.loader = "local"
  auto : request.source = "auto" → ∀ code ∈ request.codes, matchesLocal code = true →
    (code.isAscii = true ∨ 9 ≤ code.points.length) →
    ∀ call ∈ (leaves (fetchMarketData loaders others records request {})).calls,
      normalizeCode code ∈ call.request.codes → call.loader = "local"
  unavailable : isReady loaders "local" = false →
    (request.source = "local" ∨ request.source = "auto" ∧ ∃ code ∈ request.codes,
      matchesLocal code = true ∧ (code.isAscii = true ∨ 9 ≤ code.points.length)) →
    ∃ raised, outcome (fetchMarketData loaders others records request {}) = .error raised
  unresolved : ∀ results, outcome (fetchMarketData loaders others records request {}) = .ok results →
    ∀ code ∈ request.codes,
      ¬ Delivered loaders request.codes
        (leaves (fetchMarketData loaders others records request {})).calls code →
      code ∈ results.unresolved

theorem localMarketData (loaders : Loaders Frame) (others : PyString → PyString)
    (records : Frame → List Record) (request : MarketRequest) :
    LocalMarketData loaders others records request := by
  constructor
  case localSource =>
    intro source
    refine fetchMarketData_calls (fun call => call.loader = "local") ?_ {} fun _ none => by cases none
    intro group member name named
    rw [source, sourceGroups, if_neg (by decide), List.mem_singleton] at member
    subst member
    exact (cls_local named).1
  case auto =>
    intro source code given explicit plain
    refine fetchMarketData_calls
      (fun call => normalizeCode code ∈ call.request.codes → call.loader = "local") ?_ {}
      fun _ none => by cases none
    intro group member name named asked
    have detected := sourceGroups_detected source group member _ asked
    rw [detectSource, if_pos (matchesLocal_normalizeCode explicit plain)] at detected
    rw [← detected] at named
    exact (cls_local named).1
  case unavailable =>
    intro unready explicit
    have none : getLoaderClsWithFallback loaders "local" = none := by
      cases given : getLoaderClsWithFallback loaders "local" with
      | some name =>
        rw [(cls_local given).2] at unready
        cases unready
      | none => rfl
    have listed : ("local" : PyString) ∈ (sourceGroups others request.source
        ((originalByNormalized request.codes).map Prod.fst)).map Prod.fst := by
      rcases explicit with source | ⟨source, code, member, explicit, plain⟩
      · rw [source, sourceGroups, if_neg (by decide)]
        exact List.mem_cons_self
      · rw [sourceGroups, if_pos source]
        refine keys_fold (.inr ⟨normalizeCode code, normalized_key member, ?_⟩)
        rw [detectSource, if_pos (matchesLocal_normalizeCode explicit plain)]
    obtain ⟨group, member, isLocal⟩ := List.mem_map.mp listed
    obtain ⟨raised, log, failed⟩ := fetchSources_raises records request member (isLocal ▸ none) [] {}
    refine ⟨raised, ?_⟩
    unfold fetchMarketData
    rw [bind_of_error failed]
    rfl
  case unresolved =>
    intro results ran code member absent
    cases run : fetchMarketData loaders others records request {} with
    | error raised log =>
      rw [run] at ran
      cases ran
    | ok results' log =>
      rw [run] at ran absent
      cases ran
      unfold fetchMarketData at run
      obtain ⟨data, log', fetched, run⟩ := bind_ok.mp run
      obtain ⟨rfl, rfl⟩ := pure_ok.mp run
      refine List.mem_filter.mpr ⟨member, decide_eq_true fun stored => absent ?_⟩
      exact fetchSources_delivered fetched (fun _ none => by cases none) code stored

end Run

end MarketData

theorem local_requests {Record : Type} [PyText] (loaders : Loaders Frame) (config : BacktestConfig)
    (validateOhlc : Frame → Frame) (others : PyString → PyString) (records : Frame → List Record)
    (request : MarketData.MarketRequest) :
    LocalRun loaders config validateOhlc ∧
      MarketData.LocalMarketData loaders others records request :=
  ⟨localRun loaders config validateOhlc,
    MarketData.localMarketData loaders others records request⟩

-- No other loader is asked for a code of the source local, or for a code with its prefix.
def NeverRemote [PyText] (source : PyString) (calls : List FetchCall) : Prop :=
  ∀ call ∈ calls, call.loader ≠ "local" → ∀ code ∈ call.request.codes,
    source ≠ "local" ∧ localPrefixed code = false

def unconfigured : Loaders Unit where
  registry name :=
    if name = "tushare" then some ⟨true, true, ["a_share", "futures", "fund"], fun request =>
      .ok (request.codes.map fun code => (code, ()))⟩
    else if name = "local" then some ⟨true, false, ["a_share"], fun _ => .ok []⟩
    else none
  detectMarket _ := "a_share"

def indexConfig (source code : PyString) : BacktestConfig where
  codes := [code]
  startDate := "2024-01-01"
  endDate := "2024-06-30"
  source := source

def indexRequest : MarketData.MarketRequest where
  codes := ["local:MYINDEX"]
  startDate := "2024-01-01"
  endDate := "2024-06-30"
  source := "tushare"

def mainCalls (source code : PyString) : List FetchCall :=
  (leaves (@Fetching.main Unit asciiText unconfigured (indexConfig source code) id {})).calls

def marketCalls : List FetchCall :=
  (leaves (@MarketData.fetchMarketData Unit Unit asciiText unconfigured (fun _ => "tushare")
    (fun _ => [()]) indexRequest {})).calls

theorem remote_after_all :
    ¬ @NeverRemote asciiText "local" (mainCalls "local" "MYINDEX") ∧
    ¬ @NeverRemote asciiText "auto" (mainCalls "auto" "local:MYINDEX") ∧
    ¬ @NeverRemote asciiText "tushare" (mainCalls "tushare" "local:MYINDEX") ∧
    ¬ @NeverRemote asciiText "tushare" marketCalls := by
  have asked (source code : PyString) (calls : List FetchCall)
      (called : calls.any fun call => call.loader = "tushare" ∧ code ∈ call.request.codes)
      (explicit : source = "local" ∨ @localPrefixed asciiText code = true) :
      ¬ @NeverRemote asciiText source calls := by
    intro never
    obtain ⟨call, member, both⟩ := List.any_eq_true.mp called
    obtain ⟨remote, given⟩ := of_decide_eq_true both
    obtain ⟨other, plain⟩ := never call member (by rw [remote]; decide) code given
    obtain isLocal | isPrefixed := explicit
    · exact other isLocal
    · rw [plain] at isPrefixed
      cases isPrefixed
  exact ⟨asked _ "MYINDEX" _ (by decide +kernel) (.inl rfl),
    asked _ "local:MYINDEX" _ (by decide +kernel) (.inr (by decide +kernel)),
    asked _ "local:MYINDEX" _ (by decide +kernel) (.inr (by decide +kernel)),
    asked _ "local:MYINDEX" _ (by decide +kernel) (.inr (by decide +kernel))⟩

end SynapseYield.Backtest
