import SynapseYield.Properties.BarSizes
import SynapseYield.Properties.MarketAnswers

set_option autoImplicit false

namespace SynapseYield.Backtest

open Shared

variable [PyText] {Frame : Type} {loaders : Loaders Frame} {config : BacktestConfig}
variable {frames result : DataMap Frame} {name srcName market : PyString}
variable {marketCodes chain : List PyString}

def groupAnswer (loaders : Loaders Frame) (config : BacktestConfig) (market : PyString)
    (marketCodes : List PyString) : Except PyError (DataMap Frame × PyString) := do
  match primarySource loaders market with
  | none => .error .other
  | some srcName =>
    let loader ← construct loaders srcName
    let result ← loader.fetch (autoRequest config marketCodes srcName srcName)
    if result.isEmpty then do
      let (result, served) ← runtimeFallback loaders srcName
        (autoRequest config marketCodes srcName) (fallbackChain market)
      .ok (result, served.getD srcName)
    else .ok (result, srcName)

theorem fetchGroup_eq (market : PyString) (marketCodes : List PyString) :
    fetchGroup loaders config market marketCodes =
      Prod.fst <$> groupAnswer loaders config market marketCodes := by
  unfold fetchGroup groupAnswer
  cases primarySource loaders market with
  | none => rfl
  | some srcName =>
    dsimp only
    cases construct loaders srcName with
    | error raised => rfl
    | ok loader =>
      dsimp only [bind, Except.bind]
      cases loader.fetch (autoRequest config marketCodes srcName srcName) with
      | error raised => rfl
      | ok result =>
        dsimp only
        split
        · cases runtimeFallback loaders srcName (autoRequest config marketCodes srcName)
            (fallbackChain market) <;> rfl
        · rfl

omit [PyText] in
theorem update_keys {merged : DataMap Frame} {key : PyString} :
    key ∈ (update merged result).map Prod.fst ↔
      key ∈ merged.map Prod.fst ∨ key ∈ result.map Prod.fst := by
  rw [update, List.map_append, List.mem_append]
  by_cases new : key ∈ result.map Prod.fst
  · simp only [new, or_true]
  · simp only [new, or_false, List.mem_map, List.mem_filter, decide_eq_true_eq]
    constructor
    · rintro ⟨entry, ⟨member, -⟩, rfl⟩
      exact ⟨entry, member, rfl⟩
    · rintro ⟨entry, member, rfl⟩
      exact ⟨entry, ⟨member, fun same => new (List.mem_map.mpr same)⟩, rfl⟩

theorem fetchAuto_keys {group : PyString × List PyString}
    (fetched : fetchAuto loaders config = .ok frames)
    (among : group ∈ groupCodesByMarket loaders config.codes) :
    ∃ result, fetchGroup loaders config group.1 group.2 = .ok result ∧
      ∀ key ∈ result.map Prod.fst, key ∈ frames.map Prod.fst := by
  unfold fetchAuto at fetched
  generalize groupCodesByMarket loaders config.codes = groups at fetched among
  generalize ([] : DataMap Frame) = merged at fetched
  have kept : (∀ key ∈ merged.map Prod.fst, key ∈ frames.map Prod.fst) ∧
      (group ∈ groups → ∃ result, fetchGroup loaders config group.1 group.2 = .ok result ∧
        ∀ key ∈ result.map Prod.fst, key ∈ frames.map Prod.fst) := by
    clear among
    induction groups generalizing merged with
    | nil =>
      obtain rfl := Except.ok.inj fetched
      exact ⟨fun key member => member, fun member => by cases member⟩
    | cons first groups ih =>
      rw [List.foldlM_cons] at fetched
      obtain ⟨merged', ran, rest⟩ := Outcome.bind_ok.mp fetched
      obtain ⟨result, given, same⟩ := Outcome.bind_ok.mp ran
      obtain rfl := Except.ok.inj same
      obtain ⟨held, later⟩ := ih _ rest
      refine ⟨fun key member => held key (update_keys.mpr (.inl member)), fun member => ?_⟩
      rcases List.mem_cons.mp member with rfl | member
      · exact ⟨result, given, fun key member => held key (update_keys.mpr (.inr member))⟩
      · exact later member
  exact kept.2 among

def GivenBy (loaders : Loaders Frame) (ask : PyString → Request) (name : PyString)
    (result : DataMap Frame) : Prop :=
  ∃ loader, loaders.registry name = some loader ∧ loader.fetch (ask name) = .ok result

omit [PyText] in
theorem runtimeFallback_given {ask : PyString → Request} {served : Option PyString}
    (returned : runtimeFallback loaders srcName ask chain = .ok (result, served)) :
    result = [] ∨ ∃ name, served = some name ∧ GivenBy loaders ask name result := by
  induction chain with
  | nil =>
    cases returned
    exact .inl rfl
  | cons first chain ih =>
    rw [runtimeFallback] at returned
    split at returned
    next => exact ih returned
    next =>
      obtain ⟨loader, constructed, returned⟩ := Outcome.bind_ok.mp returned
      split at returned
      next => exact ih returned
      next =>
        obtain ⟨given, fetched, returned⟩ := Outcome.bind_ok.mp returned
        split at returned
        next => exact ih returned
        next =>
          obtain ⟨rfl, rfl⟩ := Prod.mk.inj (Except.ok.inj returned)
          exact .inr ⟨first, rfl, loader, (construct_ok.mp constructed).1, fetched⟩

theorem groupAnswer_given
    (answered : groupAnswer loaders config market marketCodes = .ok (result, name)) :
    result = [] ∨ ∃ srcName,
      GivenBy loaders (autoRequest config marketCodes srcName) name result := by
  unfold groupAnswer at answered
  split at answered
  next => cases answered
  next srcName primary =>
    obtain ⟨loader, constructed, answered⟩ := Outcome.bind_ok.mp answered
    obtain ⟨direct, given, answered⟩ := Outcome.bind_ok.mp answered
    split at answered
    next =>
      obtain ⟨⟨looped, served⟩, returned, answered⟩ := Outcome.bind_ok.mp answered
      obtain ⟨rfl, rfl⟩ := Prod.mk.inj (Except.ok.inj answered)
      rcases runtimeFallback_given returned with empty | ⟨named, rfl, found⟩
      · exact .inl empty
      · exact .inr ⟨srcName, found⟩
    next =>
      obtain ⟨rfl, rfl⟩ := Prod.mk.inj (Except.ok.inj answered)
      exact .inr ⟨srcName, loader, (construct_ok.mp constructed).1, given⟩

def normalizeCode (source code : PyString) : PyString :=
  if source = "okx" ∨ source = "ccxt" then
    PyString.upper ⟨code.points.map fun point => if point = 0x2F then 0x2D else point⟩
  else code

theorem normalizeCodes_eq (codes : List PyString) (source : PyString) :
    normalizeCodes codes source = codes.map (normalizeCode source) := by
  unfold normalizeCodes normalizeCode
  split
  · rfl
  · exact (List.map_id _).symm

section World

variable {Row : Type} {pd : Timestamps} {files : Files Row} {detectMarket : PyString → PyString}
  {world : World Row} {loader : LoaderName}

-- The key that the loader has the frame of a code under
def respelled (world : World Row) (files : Files Row) (loader : LoaderName) (code : PyString) :
    PyString :=
  (loader.source world.providers files).key (normalizeCode loader.name code)

theorem respelled_other {code : PyString}
    (other : loader ∉ [LoaderName.okx, .ccxt, .localFiles]) :
    respelled world files loader code = code := by
  cases loader <;> first | rfl | exact absurd other (by decide)

theorem fetchCodes_keys {providers : Providers Row} {request : Request} {codes : List PyString}
    {result : DataMap (Bars Row)} {cache : LoaderCache CachePayload (Bars Row)} {key : PyString}
    (member : key ∈ (fetchCodes providers pd files loader request codes result cache).1.map Prod.fst) :
    key ∈ result.map Prod.fst ∨ key ∈ codes.map (loader.source providers files).key := by
  induction codes generalizing result cache with
  | nil => exact .inl member
  | cons code codes ih =>
    have later {result : DataMap (Bars Row)} {cache : LoaderCache CachePayload (Bars Row)}
        (member : key ∈
          (fetchCodes providers pd files loader request codes result cache).1.map Prod.fst) :
        key ∈ result.map Prod.fst ∨
          key ∈ (code :: codes).map (loader.source providers files).key :=
      (ih member).imp_right (List.mem_cons_of_mem _)
    rw [fetchCodes] at member
    split at member
    next => exact later member
    next =>
      split at member
      next => exact later member
      next =>
        rcases later member with assigned | among
        · rw [assign, update_keys] at assigned
          refine assigned.imp_right fun here => ?_
          rw [List.map_singleton, List.mem_singleton] at here
          rw [here]
          exact List.mem_cons_self ..
        · exact .inr among

theorem groupAnswer_keys {result : DataMap (Bars Row)} {key : PyString}
    (answered : groupAnswer (world.loaders pd files detectMarket) config market marketCodes =
      .ok (result, name)) (member : key ∈ result.map Prod.fst) :
    ∃ loader : LoaderName, loader.name = name ∧
      ∃ code ∈ marketCodes, key = respelled world files loader code := by
  rcases groupAnswer_given answered with rfl | ⟨srcName, served, found, fetched⟩
  · cases member
  · obtain ⟨loader, named, rfl⟩ := registry_world found
    obtain rfl := ofName_some named
    obtain ⟨⟨given, after⟩, ran, rfl⟩ := Outcome.map_ok.mp fetched
    unfold LoaderName.fetch at ran
    split at ran
    next => cases ran
    next =>
      split at ran
      next => cases ran
      next =>
        have same := congrArg Prod.fst (Except.ok.inj ran)
        dsimp only at same member
        rw [← same] at member
        rcases fetchCodes_keys member with before | among
        · cases before
        · rw [show (autoRequest config marketCodes srcName loader.name).codes =
            normalizeCodes marketCodes loader.name from rfl, normalizeCodes_eq,
              List.map_map] at among
          obtain ⟨code, within, rfl⟩ := List.mem_map.mp among
          exact ⟨loader, rfl, code, within, rfl⟩

/-- Every frame that was obtained reaches the engine, and every code that a source had bars for has
an entry there, under the spelling of the source. -/
structure Reaches (pd : Timestamps) (files : Files Row) (detectMarket : PyString → PyString)
    (validate : Bars Row → Bars Row) (world : World Row) (config : BacktestConfig)
    (frames : DataMap (Bars Row)) : Prop where
  everyFrame : ∀ entry ∈ frames,
    (entry.1, validate entry.2) ∈ autoLoaderFetch (sanitizeDataMap validate frames) config.codes
  everyCode : ∀ group ∈ groupCodesByMarket (world.loaders pd files detectMarket) config.codes,
    ∀ (loader : LoaderName) result,
      groupAnswer (world.loaders pd files detectMarket) config group.1 group.2 =
        .ok (result, loader.name) →
      ∀ code ∈ group.2, respelled world files loader code ∈ result.map Prod.fst →
        respelled world files loader code ∈
          (autoLoaderFetch (sanitizeDataMap validate frames) config.codes).map Prod.fst

/-- The codes that OKX, CCXT or the local loader had bars for are in the config as these spell
them. -/
def Listed (pd : Timestamps) (files : Files Row) (detectMarket : PyString → PyString)
    (world : World Row) (config : BacktestConfig) : Prop :=
  ∀ group ∈ groupCodesByMarket (world.loaders pd files detectMarket) config.codes,
    ∀ loader ∈ [LoaderName.okx, .ccxt, .localFiles], ∀ result,
      groupAnswer (world.loaders pd files detectMarket) config group.1 group.2 =
        .ok (result, loader.name) →
      ∀ code ∈ group.2, respelled world files loader code ∈ result.map Prod.fst →
        respelled world files loader code ∈ config.codes

omit [PyText] in
theorem groupCodesByMarket_codes {codes : List PyString} {code : PyString}
    {group : PyString × List PyString} (member : group ∈ groupCodesByMarket loaders codes)
    (within : code ∈ group.2) : code ∈ codes := by
  rcases MarketData.codes_fold group member code within with among | ⟨earlier, none, -⟩
  · exact among
  · cases none

omit [PyText] in
theorem mem_autoLoaderFetch {validate : Frame → Frame} {codes : List PyString}
    {entry : PyString × Frame} : entry ∈ autoLoaderFetch (sanitizeDataMap validate frames) codes ↔
      (∃ frame, (entry.1, frame) ∈ frames ∧ validate frame = entry.2) ∧ entry.1 ∈ codes := by
  simp only [autoLoaderFetch, sanitizeDataMap, List.mem_filter, List.mem_map, decide_eq_true_eq]
  refine and_congr_left fun _ => ⟨?_, ?_⟩
  · rintro ⟨old, member, rfl⟩
    exact ⟨old.2, member, rfl⟩
  · rintro ⟨frame, member, same⟩
    exact ⟨(entry.1, frame), member, Prod.ext rfl same⟩

theorem reaches_iff_listed {validate : Bars Row → Bars Row} {frames : DataMap (Bars Row)}
    (fetched : fetchAuto (world.loaders pd files detectMarket) config = .ok frames) :
    Reaches pd files detectMarket validate world config frames ↔
      Listed pd files detectMarket world config := by
  constructor
  · intro reaches group among loader respells result answered code within received
    obtain ⟨entry, member, same⟩ := List.mem_map.mp
      (reaches.everyCode group among loader result answered code within received)
    rw [← same]
    exact (mem_autoLoaderFetch.mp member).2
  · intro listed
    -- The other sources have the codes as they stand.
    have every : ∀ group ∈ groupCodesByMarket (world.loaders pd files detectMarket) config.codes,
        ∀ (loader : LoaderName) result,
          groupAnswer (world.loaders pd files detectMarket) config group.1 group.2 =
            .ok (result, loader.name) →
          ∀ code ∈ group.2, respelled world files loader code ∈ result.map Prod.fst →
            respelled world files loader code ∈ config.codes := by
      intro group among loader result answered code within received
      by_cases respells : loader ∈ [LoaderName.okx, .ccxt, .localFiles]
      · exact listed group among loader respells result answered code within received
      · rw [respelled_other respells]
        exact groupCodesByMarket_codes among within
    refine ⟨fun entry member => ?_,
      fun group among loader result answered code within received => ?_⟩
    · obtain ⟨group, among, result, given, here⟩ := fetchAuto_mem fetched member
      rw [fetchGroup_eq] at given
      obtain ⟨⟨result', name⟩, answered, rfl⟩ := Outcome.map_ok.mp given
      have key : entry.1 ∈ result'.map Prod.fst := List.mem_map_of_mem here
      obtain ⟨loader, rfl, code, within, same⟩ := groupAnswer_keys answered key
      refine mem_autoLoaderFetch.mpr ⟨⟨entry.2, member, rfl⟩, ?_⟩
      rw [same] at key ⊢
      exact every group among loader result' answered code within key
    · obtain ⟨result', given, kept⟩ := fetchAuto_keys fetched among
      rw [fetchGroup_eq] at given
      obtain ⟨⟨same, name⟩, again, rfl⟩ := Outcome.map_ok.mp given
      rw [answered] at again
      obtain ⟨rfl, rfl⟩ := Prod.mk.inj (Except.ok.inj again)
      obtain ⟨entry, member, key⟩ := List.mem_map.mp (kept _ received)
      refine List.mem_map.mpr ⟨(entry.1, validate entry.2), mem_autoLoaderFetch.mpr ?_, key⟩
      refine ⟨⟨entry.2, member, rfl⟩, ?_⟩
      rw [show entry.1 = _ from key]
      exact every group among loader result answered code within received

end World

def pair : BacktestConfig where
  codes := ["BTC/USDT"]
  startDate := "2024-01-01"
  endDate := "2024-06-30"
  source := "auto"

omit [PyText] in
theorem okxMarkets_same (loader : LoaderName) : loader.markets.Perm loader.markets := .refl _

def okxWorld : World Unit where
  providers := answering ()
  imports loader := loader = .okx
  constructs _ := true
  isAvailable _ := true
  markets := LoaderName.markets
  sameMarkets := okxMarkets_same
  cache _ _ _ := none

def okxFrames : DataMap (Bars Unit) := [("BTC-USDT", [⟨.day, ()⟩])]

omit [PyText] in
theorem okx_fetched :
    @fetchAuto _ asciiText (@World.loaders asciiText Unit halfYear (fun _ => none)
      (fun _ => "crypto") okxWorld) pair = .ok okxFrames := by
  let text := asciiText
  decide +kernel

def listedPair : BacktestConfig := { pair with codes := ["BTC-USDT"] }

omit [PyText] in
theorem listedPair_fetched :
    @fetchAuto _ asciiText (@World.loaders asciiText Unit halfYear (fun _ => none)
      (fun _ => "crypto") okxWorld) listedPair = .ok okxFrames := by
  let text := asciiText
  decide +kernel

omit [PyText] in
theorem listedPair_groups :
    @groupCodesByMarket _ (@World.loaders asciiText Unit halfYear (fun _ => none)
      (fun _ => "crypto") okxWorld) listedPair.codes =
        [(("crypto" : PyString), [("BTC-USDT" : PyString)])] := by
  let text := asciiText
  decide +kernel

omit [PyText] in
theorem listedPair_answer :
    @groupAnswer asciiText _ (@World.loaders asciiText Unit halfYear (fun _ => none)
      (fun _ => "crypto") okxWorld) listedPair "crypto" ["BTC-USDT"] =
        .ok (okxFrames, LoaderName.okx.name) := by
  let text := asciiText
  decide +kernel

omit [PyText] in
theorem reaches_iff_listed_pair :
    @Reaches asciiText Unit halfYear (fun _ => none) (fun _ => "crypto") id okxWorld listedPair
      okxFrames := by
  let text := asciiText
  refine (reaches_iff_listed listedPair_fetched).mpr ?_
  intro group among loader own result answered code within received
  rw [listedPair_groups, List.mem_singleton] at among
  subst among
  rw [listedPair_answer] at answered
  obtain rfl := List.mem_singleton.mp within
  simp only [List.mem_cons, List.not_mem_nil, or_false] at own
  obtain rfl | rfl | rfl := own
  · decide +kernel
  · cases answered
  · cases answered

omit [PyText] in
theorem pair_dropped :
    @fetchAuto _ asciiText (@World.loaders asciiText Unit halfYear (fun _ => none)
        (fun _ => "crypto") okxWorld) pair = .ok okxFrames ∧
      ¬ @Reaches asciiText Unit halfYear (fun _ => none) (fun _ => "crypto") id okxWorld pair
        okxFrames := by
  let text := asciiText
  refine ⟨okx_fetched, fun reaches => ?_⟩
  have entry := reaches.everyFrame _ (List.mem_cons_self ..)
  revert entry
  decide +kernel

end SynapseYield.Backtest
