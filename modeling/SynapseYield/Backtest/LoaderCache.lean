import Mathlib.Logic.Function.Basic
import SynapseYield.Shared.JsonAscii
import SynapseYield.Shared.Outcome

set_option autoImplicit false

namespace SynapseYield.Backtest

open Shared

-- The arguments of cached_loader_fetch, without the fetch.
structure CacheRequest where
  source : PyString
  symbol : PyString
  timeframe : PyString
  startDate : PyString
  endDate : PyString
  fields : Option (List PyString)
deriving DecidableEq, Repr

structure CachePayload where
  source : PyString
  symbol : PyString
  timeframe : PyString
  startDate : PyString
  endDate : PyString
  fields : List PyString
deriving DecidableEq, Repr

-- pd.Timestamp(value), as milliseconds of a calendar without time zones, and
-- strftime("%Y-%m-%d") of a day of it.
structure Timestamps where
  timestamp : PyString → Option Int
  strftime : Int → PyString

def dayLength : Int := 86400000

def dayOf (moment : Int) : Int := moment / dayLength

variable (pd : Timestamps)

def normalizeCacheDate (value : PyString) : Except PyError PyString :=
  match pd.timestamp value with
  | none => .error .valueError
  | some moment => .ok (pd.strftime (dayOf moment))

def loaderCachePayload (request : CacheRequest) : Except PyError CachePayload := do
  let startDate ← normalizeCacheDate pd request.startDate
  let endDate ← normalizeCacheDate pd request.endDate
  .ok { request with startDate, endDate, fields := request.fields.getD [] }

section Names

open JsonText

def member (name : PyString) (value : Text) : Text := asciiString name ++ colon :: value

-- json.dumps(payload, sort_keys=True, separators=(",", ":")), of version 2
def blob (payload : CachePayload) : Text :=
  openBrace :: member "end_date" (asciiString payload.endDate) ++
    comma :: member "fields" (asciiItems payload.fields) ++
    comma :: member "source" (asciiString payload.source) ++
    comma :: member "start_date" (asciiString payload.startDate) ++
    comma :: member "symbol" (asciiString payload.symbol) ++
    comma :: member "timeframe" (asciiString payload.timeframe) ++
    comma :: member "version" [0x32] ++ [closeBrace]

def sanitizeCacheSegment [PyText] (value : PyString) : PyString :=
  let cleaned := value.strip.lower.points.map fun ch =>
    if PyString.isalnum ch || ch = 0x2D || ch = 0x5F then ch else 0x5F
  if cleaned = [] then "unknown" else ⟨cleaned⟩

-- Below the root of the cache: the directory, and the name without .parquet.
def loaderCachePath [PyText] (sha256 : Text → PyString) (payload : CachePayload) :
    PyString × PyString :=
  (sanitizeCacheSegment payload.source, sha256 (blob payload))

-- What decoding text and strftime give.
structure CachePayload.Decoded (payload : CachePayload) : Prop where
  source : unpaired payload.source.points = true
  symbol : unpaired payload.symbol.points = true
  timeframe : unpaired payload.timeframe.points = true
  startDate : unpaired payload.startDate.points = true
  endDate : unpaired payload.endDate.points = true
  fields : ∀ field ∈ payload.fields, unpaired field.points = true

theorem blob_injective {payload other : CachePayload} (decoded : payload.Decoded)
    (decoded' : other.Decoded) (same : blob payload = blob other) : payload = other := by
  simp only [blob, member, List.cons_append, List.append_assoc, List.cons.injEq, true_and,
    List.append_cancel_left_eq] at same
  obtain ⟨endDate, same⟩ := asciiString_append decoded.endDate decoded'.endDate same
  simp only [List.cons.injEq, true_and, List.append_cancel_left_eq] at same
  obtain ⟨fields, same⟩ := asciiItems_append decoded.fields decoded'.fields same
  simp only [List.cons.injEq, true_and, List.append_cancel_left_eq] at same
  obtain ⟨source, same⟩ := asciiString_append decoded.source decoded'.source same
  simp only [List.cons.injEq, true_and, List.append_cancel_left_eq] at same
  obtain ⟨startDate, same⟩ := asciiString_append decoded.startDate decoded'.startDate same
  simp only [List.cons.injEq, true_and, List.append_cancel_left_eq] at same
  obtain ⟨symbol, same⟩ := asciiString_append decoded.symbol decoded'.symbol same
  simp only [List.cons.injEq, true_and, List.append_cancel_left_eq] at same
  obtain ⟨timeframe, -⟩ := asciiString_append decoded.timeframe decoded'.timeframe same
  cases payload
  cases other
  simp_all

end Names

-- today is the day on the clock of the host.
def loaderCacheRangeIsFinal (today : Int) (endDate : PyString) : Bool :=
  match pd.timestamp endDate with
  | none => false
  | some moment => dayOf moment < today

-- What loader_cache_get and loader_cache_put read from the environment, each when it runs.
structure CacheMoment where
  enabled : Bool
  today : Int

section Fetch

variable {Key Frame : Type} [DecidableEq Key] (keyOf : CachePayload → Key)
  (isEmpty : Frame → Bool) (moment : CacheMoment) (request : CacheRequest)

-- The frames that can be read back, by the names of their files.
abbrev LoaderCache (Key Frame : Type) := Key → Option Frame

def cacheable : Bool := moment.enabled && loaderCacheRangeIsFinal pd moment.today request.endDate

def loaderCacheGet (cache : LoaderCache Key Frame) : Except PyError (Option Frame) :=
  if cacheable pd moment request then do
    let payload ← loaderCachePayload pd request
    .ok (cache (keyOf payload))
  else .ok none

def loaderCachePut (frame : Option Frame) (cache : LoaderCache Key Frame) :
    Except PyError (LoaderCache Key Frame) :=
  match frame with
  | none => .ok cache
  | some frame =>
    if cacheable pd moment request && ! isEmpty frame then do
      let payload ← loaderCachePayload pd request
      .ok (Function.update cache (keyOf payload) (some frame))
    else .ok cache

-- The moment of the put is after the fetch.
def cachedLoaderFetch (moment storing : CacheMoment) (request : CacheRequest)
    (fetch : Except PyError (Option Frame)) (cache : LoaderCache Key Frame) :
    Except PyError (Option Frame × LoaderCache Key Frame) := do
  match ← loaderCacheGet pd keyOf moment request cache with
  | some cached => .ok (some cached, cache)
  | none => do
    let frame ← fetch
    let cache ← loaderCachePut pd keyOf isEmpty storing request frame cache
    .ok (frame, cache)

variable {pd keyOf isEmpty moment request} {storing : CacheMoment}
  {cache after : LoaderCache Key Frame}

theorem loaderCachePayload_ok {payload : CachePayload}
    (normalized : loaderCachePayload pd request = .ok payload) :
    normalizeCacheDate pd request.startDate = .ok payload.startDate ∧
      normalizeCacheDate pd request.endDate = .ok payload.endDate ∧
      payload = { request with
        startDate := payload.startDate, endDate := payload.endDate,
        fields := request.fields.getD [] } := by
  obtain ⟨startDate, first, normalized⟩ := Outcome.bind_ok.mp normalized
  obtain ⟨endDate, second, same⟩ := Outcome.bind_ok.mp normalized
  obtain rfl := Except.ok.inj same
  exact ⟨first, second, rfl⟩

theorem payload_timeframe {payload : CachePayload}
    (normalized : loaderCachePayload pd request = .ok payload) :
    payload.timeframe = request.timeframe := by
  rw [(loaderCachePayload_ok normalized).2.2]

omit [DecidableEq Key] in
theorem loaderCacheGet_some {frame : Frame} :
    loaderCacheGet pd keyOf moment request cache = .ok (some frame) ↔
      cacheable pd moment request = true ∧
        ∃ payload, loaderCachePayload pd request = .ok payload ∧
          cache (keyOf payload) = some frame := by
  unfold loaderCacheGet
  split
  next final =>
    rw [Outcome.bind_ok]
    simp [final]
  next open' => simp [open']

theorem loaderCachePut_ok {frame : Option Frame}
    (put : loaderCachePut pd keyOf isEmpty moment request frame cache = .ok after) :
    after = cache ∨ ∃ payload kept, frame = some kept ∧ isEmpty kept = false ∧
      cacheable pd moment request = true ∧ loaderCachePayload pd request = .ok payload ∧
      after = Function.update cache (keyOf payload) (some kept) := by
  unfold loaderCachePut at put
  split at put
  next => exact .inl (Except.ok.inj put).symm
  next kept =>
    split at put
    next stores =>
      obtain ⟨final, filled⟩ := Bool.and_eq_true_iff.mp stores
      obtain ⟨payload, normalized, same⟩ := Outcome.bind_ok.mp put
      exact .inr ⟨payload, kept, rfl, by simpa using filled, final, normalized,
        (Except.ok.inj same).symm⟩
    next => exact .inl (Except.ok.inj put).symm

theorem cachedLoaderFetch_ok {fetch : Except PyError (Option Frame)} {frame : Option Frame}
    (called : cachedLoaderFetch pd keyOf isEmpty moment storing request fetch cache = .ok (frame, after)) :
    (∃ cached, loaderCacheGet pd keyOf moment request cache = .ok (some cached) ∧
      frame = some cached ∧ after = cache) ∨
    (loaderCacheGet pd keyOf moment request cache = .ok none ∧ fetch = .ok frame ∧
      loaderCachePut pd keyOf isEmpty storing request frame cache = .ok after) := by
  obtain ⟨found, got, called⟩ := Outcome.bind_ok.mp called
  cases found with
  | some cached =>
    obtain ⟨rfl, rfl⟩ := Prod.mk.inj (Except.ok.inj called)
    exact .inl ⟨cached, got, rfl, rfl⟩
  | none =>
    obtain ⟨fetched, given, called⟩ := Outcome.bind_ok.mp called
    obtain ⟨stored, put, same⟩ := Outcome.bind_ok.mp called
    obtain ⟨rfl, rfl⟩ := Prod.mk.inj (Except.ok.inj same)
    exact .inr ⟨got, given, put⟩

theorem loaderCachePut_total {frame : Option Frame} {payload : CachePayload}
    (normalized : loaderCachePayload pd request = .ok payload) :
    ∃ after, loaderCachePut pd keyOf isEmpty moment request frame cache = .ok after := by
  unfold loaderCachePut
  split
  next => exact ⟨cache, rfl⟩
  next =>
    split
    next =>
      rw [normalized]
      exact ⟨_, rfl⟩
    next => exact ⟨cache, rfl⟩

theorem cachedLoaderFetch_hit {fetch : Except PyError (Option Frame)} {cached : Frame}
    (got : loaderCacheGet pd keyOf moment request cache = .ok (some cached)) :
    cachedLoaderFetch pd keyOf isEmpty moment storing request fetch cache = .ok (some cached, cache) := by
  rw [cachedLoaderFetch, got]
  rfl

theorem cachedLoaderFetch_miss {fetch : Except PyError (Option Frame)}
    (got : loaderCacheGet pd keyOf moment request cache = .ok none) :
    cachedLoaderFetch pd keyOf isEmpty moment storing request fetch cache =
      (do
        let frame ← fetch
        let cache ← loaderCachePut pd keyOf isEmpty storing request frame cache
        .ok (frame, cache)) := by
  rw [cachedLoaderFetch, got]
  rfl

theorem cachedLoaderFetch_open {fetch : Except PyError (Option Frame)} {frame : Option Frame}
    (unread : cacheable pd moment request = false) (unstored : cacheable pd storing request = false)
    (given : fetch = .ok frame) :
    cachedLoaderFetch pd keyOf isEmpty moment storing request fetch cache = .ok (frame, cache) := by
  subst given
  have got : loaderCacheGet pd keyOf moment request cache = .ok none := by
    simp [loaderCacheGet, unread]
  have put : loaderCachePut pd keyOf isEmpty storing request frame cache = .ok cache := by
    cases frame <;> simp [loaderCachePut, unstored]
  rw [cachedLoaderFetch_miss got]
  change (do let cache ← loaderCachePut pd keyOf isEmpty storing request frame cache
             Except.ok (frame, cache)) = _
  rw [put]
  rfl

end Fetch

-- None and an empty list ask for no fields.
def CacheRequest.plainFields (request : CacheRequest) : CacheRequest :=
  { request with fields := some (request.fields.getD []) }

-- A market with its data. ends is the instant at which the last market day that the range of a
-- request takes in has ended, in the time zone of the market: from then on the data stays.
structure Provider (Frame : Type) where
  answer : CacheRequest → Int → Except PyError (Option Frame)
  ends : CacheRequest → Int
  settles : ∀ request now later, ends request ≤ now → now ≤ later →
    answer request later = answer request now
  fields : ∀ request now, answer request.plainFields now = answer request now

-- The candles between two instants, of which those before the second one of a day that has ended
-- stay.
structure Exchange (Frame : Type) where
  candles : PyString → Int → Int → PyString → Int → Except PyError (Option Frame)
  settles : ∀ symbol start finish bar now later, dayLength * (dayOf (finish - 1) + 1) ≤ now →
    now ≤ later → candles symbol start finish bar later = candles symbol start finish bar now

variable {Frame : Type}

-- The fetch that DataLoader.fetch of okx passes: from start_ts until end_ts, one day after end_date.
def okxAnswer (pd : Timestamps) (exchange : Exchange Frame) (request : CacheRequest) (now : Int) :
    Except PyError (Option Frame) :=
  match pd.timestamp request.startDate, pd.timestamp request.endDate with
  | some start, some finish =>
    exchange.candles request.symbol start (finish + dayLength) request.timeframe now
  | _, _ => .error .valueError

def okxEnds (pd : Timestamps) (request : CacheRequest) : Int :=
  dayLength * (dayOf ((pd.timestamp request.endDate).getD 0 + dayLength - 1) + 1)

def okx (pd : Timestamps) (exchange : Exchange Frame) : Provider Frame where
  answer := okxAnswer pd exchange
  ends := okxEnds pd
  settles request now later ended after := by
    unfold okxAnswer
    split
    next start finish _ found =>
      rw [okxEnds, found] at ended
      exact exchange.settles _ _ _ _ _ _ ended after
    next => rfl
  fields _ _ := rfl

-- A call looks for its entry, fetches, and stores, each at its own time, and asks each time
-- whether the cache is enabled.
structure Call where
  now : Int
  enabled : Bool
  fetched : Int
  stored : Int
  storing : Bool
  request : CacheRequest

section Calls

variable [PyText] (pd : Timestamps) (sha256 : JsonText.Text → PyString) (isEmpty : Frame → Bool)
  (host : Int → Int) (provider : Provider Frame)

abbrev CacheFiles (Frame : Type) := LoaderCache (PyString × PyString) Frame

-- What the call reads from the environment, on a host with these days.
def Call.reading (call : Call) : CacheMoment := ⟨call.enabled, host call.now⟩

def Call.writing (call : Call) : CacheMoment := ⟨call.storing, host call.stored⟩

def Call.own (call : Call) : Except PyError (Option Frame) :=
  provider.answer call.request call.fetched

def Call.run (call : Call) (files : CacheFiles Frame) :
    Except PyError (Option Frame × CacheFiles Frame) :=
  cachedLoaderFetch pd (loaderCachePath sha256) isEmpty (call.reading host) (call.writing host)
    call.request (call.own provider) files

-- What the calls return, one after the other, and the files after them.
def runCalls (files : CacheFiles Frame) :
    List Call → List (Except PyError (Option Frame)) × CacheFiles Frame
  | [] => ([], files)
  | call :: rest =>
    match call.run pd sha256 isEmpty host provider files with
    | .ok (frame, files) =>
      let (frames, files) := runCalls files rest
      (.ok frame :: frames, files)
    | .error raised =>
      let (frames, files) := runCalls files rest
      (.error raised :: frames, files)

end Calls

end SynapseYield.Backtest
