import SynapseYield.Backtest.LoaderCache

set_option autoImplicit false

namespace SynapseYield.Backtest

open Shared

section Runs

variable [PyText] {Frame : Type} (pd : Timestamps) (sha256 : JsonText.Text → PyString)
  (isEmpty : Frame → Bool) (host : Int → Int) (provider : Provider Frame)

-- A request that names its days as the key does, in decoded text.
structure CacheRequest.Named (request : CacheRequest) : Prop where
  startDate : normalizeCacheDate pd request.startDate = .ok request.startDate
  endDate : normalizeCacheDate pd request.endDate = .ok request.endDate
  decoded : ∀ payload, loaderCachePayload pd request = .ok payload → payload.Decoded

def Call.Uses (call : Call) : Prop :=
  cacheable pd (call.reading host) call.request = true ∨
    cacheable pd (call.writing host) call.request = true

-- What may be stored is fetched when the last day of its range has ended on the market.
structure Call.Sound (call : Call) : Prop where
  named : call.Uses pd host → call.request.Named pd
  ended : cacheable pd (call.writing host) call.request = true →
    provider.ends call.request ≤ call.fetched

-- A clock that does not go back, over a call and from one call to a later one.
def Call.Forward (call : Call) : Prop := call.now ≤ call.fetched ∧ call.fetched ≤ call.stored

def Clocked (calls : List Call) : Prop :=
  (∀ call ∈ calls, call.Forward) ∧ calls.Pairwise fun call later => call.stored ≤ later.now

-- No two keys of the calls are equal by chance.
def CollisionFree (calls : List Call) : Prop :=
  ∀ call ∈ calls, ∀ other ∈ calls, ∀ payload payload',
    loaderCachePayload pd call.request = .ok payload →
    loaderCachePayload pd other.request = .ok payload' →
    sha256 (blob payload) = sha256 (blob payload') → blob payload = blob payload'

def Entered (calls : List Call) (files : CacheFiles Frame) : Prop :=
  ∀ path frame, files path = some frame → ∃ call ∈ calls, ∃ payload,
    loaderCachePayload pd call.request = .ok payload ∧ path = loaderCachePath sha256 payload ∧
      call.request.Named pd ∧ provider.ends call.request ≤ call.fetched ∧
      call.own provider = .ok (some frame)

variable {pd sha256 isEmpty host provider} {call other : Call} {calls : List Call}
  {request request' : CacheRequest} {files after : CacheFiles Frame}

omit [PyText] in
theorem CacheRequest.Named.payload_ok (named : request.Named pd) :
    loaderCachePayload pd request = .ok { request with fields := request.fields.getD [] } := by
  rw [loaderCachePayload, named.startDate, named.endDate]
  rfl

omit [PyText] in
theorem CacheRequest.Named.same (named : request.Named pd) (named' : request'.Named pd)
    {payload : CachePayload} (first : loaderCachePayload pd request = .ok payload)
    (second : loaderCachePayload pd request' = .ok payload) :
    request.plainFields = request'.plainFields := by
  have one := Except.ok.inj (named.payload_ok.symm.trans first)
  have two := Except.ok.inj (named'.payload_ok.symm.trans second)
  have same := one.trans two.symm
  simp only [CachePayload.mk.injEq] at same
  obtain ⟨source, symbol, timeframe, startDate, endDate, fields⟩ := same
  simp only [CacheRequest.plainFields, CacheRequest.mk.injEq, Option.some.injEq]
  exact ⟨source, symbol, timeframe, startDate, endDate, fields⟩

theorem CacheRequest.Named.shared (named : call.request.Named pd) (named' : other.request.Named pd)
    (free : CollisionFree pd sha256 calls) (member : call ∈ calls) (member' : other ∈ calls)
    {payload payload' : CachePayload} (first : loaderCachePayload pd call.request = .ok payload)
    (second : loaderCachePayload pd other.request = .ok payload')
    (path : loaderCachePath sha256 payload = loaderCachePath sha256 payload') :
    call.request.plainFields = other.request.plainFields := by
  have texts := free call member other member' payload payload' first second (Prod.mk.inj path).2
  have same := blob_injective (named.decoded payload first) (named'.decoded payload' second) texts
  subst same
  exact named.same named' first second

omit [PyText] in
theorem answer_later (same : call.request.plainFields = other.request.plainFields)
    (ended : provider.ends call.request ≤ call.fetched) (later : call.fetched ≤ other.fetched) :
    other.own provider = call.own provider := by
  unfold Call.own
  rw [← provider.fields other.request, ← same, provider.fields]
  exact provider.settles call.request call.fetched other.fetched ended later

theorem Entered.mono {done more : List Call} (entered : Entered pd sha256 provider done files)
    (sub : done ⊆ more) : Entered pd sha256 provider more files := by
  intro path frame found
  obtain ⟨call, member, rest⟩ := entered path frame found
  exact ⟨call, sub member, rest⟩

theorem Entered.update (entered : Entered pd sha256 provider calls files) (member : call ∈ calls)
    (named : call.request.Named pd) (ended : provider.ends call.request ≤ call.fetched)
    {payload : CachePayload} {frame : Frame}
    (normalized : loaderCachePayload pd call.request = .ok payload)
    (fetched : call.own provider = .ok (some frame)) :
    Entered pd sha256 provider calls
      (Function.update files (loaderCachePath sha256 payload) (some frame)) := by
  intro path stored found
  by_cases same : path = loaderCachePath sha256 payload
  · rw [same, Function.update_self] at found
    obtain rfl := Option.some.inj found
    exact ⟨call, member, payload, normalized, same, named, ended, fetched⟩
  · rw [Function.update_of_ne same] at found
    exact entered path stored found

variable (isEmpty) in
theorem Call.run_miss (entered : Entered pd sha256 provider calls files) (member : call ∈ calls)
    (sound : call.Sound pd host provider)
    (got : loaderCacheGet pd (loaderCachePath sha256) (call.reading host) call.request files =
      .ok none) :
    (∃ frame after, call.run pd sha256 isEmpty host provider files = .ok (frame, after) ∧
      call.own provider = .ok frame ∧ Entered pd sha256 provider calls after) ∨
    ∃ raised, call.run pd sha256 isEmpty host provider files = .error raised ∧
      call.own provider = .error raised := by
  rw [Call.run, cachedLoaderFetch_miss got]
  cases fetched : call.own provider with
  | error raised => exact .inr ⟨raised, rfl, rfl⟩
  | ok frame =>
    have stores : ∃ after, loaderCachePut pd (loaderCachePath sha256) isEmpty (call.writing host)
        call.request frame files = .ok after := by
      cases final : cacheable pd (call.writing host) call.request with
      | true => exact loaderCachePut_total (sound.named (.inr final)).payload_ok
      | false => exact ⟨files, by cases frame <;> simp [loaderCachePut, final]⟩
    obtain ⟨after, put⟩ := stores
    refine .inl ⟨frame, after, ?_, rfl, ?_⟩
    · change (do let cache ← loaderCachePut pd _ isEmpty _ call.request frame files
                 Except.ok (frame, cache)) = _
      rw [put]
      rfl
    · obtain rfl | ⟨payload, stored, rfl, -, final, normalized, rfl⟩ := loaderCachePut_ok put
      · exact entered
      · exact entered.update member (sound.named (.inr final)) (sound.ended final) normalized fetched

variable (isEmpty) in
theorem Call.run_sound {done : List Call} (entered : Entered pd sha256 provider done files)
    (free : CollisionFree pd sha256 (done ++ [call])) (sound : call.Sound pd host provider)
    (forward : call.Forward) (earlier : ∀ before ∈ done, before.fetched ≤ call.now) :
    (∃ frame after, call.run pd sha256 isEmpty host provider files = .ok (frame, after) ∧
      call.own provider = .ok frame ∧ Entered pd sha256 provider (done ++ [call]) after) ∨
    ∃ raised, call.run pd sha256 isEmpty host provider files = .error raised ∧
      call.own provider = .error raised := by
  have here : call ∈ done ++ [call] := List.mem_append_right _ (.head _)
  have kept := entered.mono (List.subset_append_left done [call])
  cases final : cacheable pd (call.reading host) call.request with
  | false => exact Call.run_miss isEmpty kept here sound (by simp [loaderCacheGet, final])
  | true =>
    have named := sound.named (.inl final)
    have normalized := named.payload_ok
    cases found : files (loaderCachePath sha256 _) with
    | some cached =>
      have got := loaderCacheGet_some.mpr ⟨final, _, normalized, found⟩
      obtain ⟨before, among, payload, first, path, named', ended, fetched⟩ := entered _ _ found
      have same := named'.shared named free (List.mem_append_left _ among) here first normalized
        path.symm
      refine .inl ⟨some cached, files, cachedLoaderFetch_hit got, ?_, kept⟩
      rw [answer_later same ended ((earlier before among).trans forward.1), fetched]
    | none =>
      refine Call.run_miss isEmpty kept here sound ?_
      rw [loaderCacheGet, if_pos final, normalized]
      exact congrArg Except.ok found

variable (isEmpty) in
theorem runCalls_sound {done rest : List Call} (entered : Entered pd sha256 provider done files)
    (free : CollisionFree pd sha256 (done ++ rest)) (clocked : Clocked (done ++ rest))
    (sound : ∀ call ∈ rest, call.Sound pd host provider) :
    (runCalls pd sha256 isEmpty host provider files rest).1 = rest.map (Call.own provider) ∧
      Entered pd sha256 provider (done ++ rest)
        (runCalls pd sha256 isEmpty host provider files rest).2 := by
  induction rest generalizing done files with
  | nil =>
    rw [List.append_nil]
    exact ⟨rfl, entered⟩
  | cons call rest ih =>
    obtain ⟨first, later⟩ := List.forall_mem_cons.mp sound
    have split : done ++ call :: rest = done ++ [call] ++ rest := by simp
    rw [split] at free clocked ⊢
    have free' : CollisionFree pd sha256 (done ++ [call]) := fun one member other member' =>
      free one (List.mem_append_left _ member) other (List.mem_append_left _ member')
    have forward (one : Call) (member : one ∈ done ++ [call]) : one.Forward :=
      clocked.1 one (List.mem_append_left _ member)
    have earlier (before : Call) (member : before ∈ done) : before.fetched ≤ call.now :=
      (forward before (List.mem_append_left _ member)).2.trans
        ((List.pairwise_append.mp (List.pairwise_append.mp clocked.2).1).2.2 before member call
          (.head _))
    rw [List.map_cons, runCalls]
    obtain ⟨frame, after, ran, fetched, entered'⟩ | ⟨raised, ran, failed⟩ :=
      Call.run_sound isEmpty entered free' first (forward call (by simp)) earlier
    · obtain ⟨returned, stored⟩ := ih entered' free clocked later
      rw [ran, fetched]
      exact ⟨congrArg _ returned, stored⟩
    · obtain ⟨returned, stored⟩ := ih (entered.mono (List.subset_append_left _ _)) free clocked later
      rw [ran, failed]
      exact ⟨congrArg _ returned, stored⟩

variable (pd sha256 isEmpty host provider calls) in
-- The calls of a run that begins without files return what their own fetches return, two of them
-- share an entry where they ask for the same only, and what is stored is settled.
structure Transparent : Prop where
  returned : (runCalls pd sha256 isEmpty host provider (fun _ => none) calls).1 =
    calls.map (Call.own provider)
  shared : ∀ call ∈ calls, ∀ other ∈ calls, ∀ payload payload',
    call.Uses pd host → other.Uses pd host →
    loaderCachePayload pd call.request = .ok payload →
    loaderCachePayload pd other.request = .ok payload' →
    loaderCachePath sha256 payload = loaderCachePath sha256 payload' →
    call.request.plainFields = other.request.plainFields
  stored : ∀ before after, calls = before ++ after → ∀ path frame,
    (runCalls pd sha256 isEmpty host provider (fun _ => none) before).2 path = some frame →
    ∃ call ∈ before, ∃ payload, loaderCachePayload pd call.request = .ok payload ∧
      path = loaderCachePath sha256 payload ∧ provider.ends call.request ≤ call.fetched ∧
      call.own provider = .ok (some frame)

theorem runCalls_transparent (clocked : Clocked calls)
    (free : CollisionFree pd sha256 calls) (sound : ∀ call ∈ calls, call.Sound pd host provider) :
    Transparent pd sha256 isEmpty host provider calls := by
  have empty : Entered pd sha256 provider [] (fun _ => none) := fun path frame none => by cases none
  refine ⟨(runCalls_sound isEmpty empty free clocked sound).1, ?_, ?_⟩
  · intro call member other member' payload payload' uses uses' first second path
    exact ((sound call member).named uses).shared ((sound other member').named uses') free member
      member' first second path
  · rintro before after rfl path frame found
    have free' : CollisionFree pd sha256 before := fun one member other member' =>
      free one (List.mem_append_left _ member) other (List.mem_append_left _ member')
    have clocked' : Clocked before :=
      ⟨fun call member => clocked.1 call (List.mem_append_left _ member),
        (List.pairwise_append.mp clocked.2).1⟩
    have kept := (runCalls_sound isEmpty empty free' clocked'
      fun call member => sound call (List.mem_append_left _ member)).2
    obtain ⟨call, member, payload, normalized, same, -, ended, fetched⟩ := kept path frame found
    exact ⟨call, member, payload, normalized, same, ended, fetched⟩

end Runs

def january : Timestamps where
  timestamp value := ([("2024-01-01", dayLength * 19723), ("2024-01-02", dayLength * 19724)] :
    List (PyString × Int)).lookup value
  strftime day := if day = 19723 then "2024-01-01" else "2024-01-02"

def drifting : Exchange Nat where
  candles _ _ finish _ now := .ok (some (if now < dayLength * (dayOf (finish - 1) + 1) then 1 else 2))
  settles _ _ _ _ now later ended after := by
    rw [if_neg (by omega), if_neg (by omega)]

def bitcoin : CacheRequest where
  source := "okx"
  symbol := "BTC-USDT"
  timeframe := "1D"
  startDate := "2024-01-01"
  endDate := "2024-01-02"
  fields := none

def bitcoinAt (day hour hours : Int) : Call where
  now := dayLength * day + 3600000 * hour
  enabled := true
  fetched := dayLength * day + 3600000 * (hour + hours)
  stored := dayLength * day + 3600000 * (hour + hours)
  storing := true
  request := bitcoin

instance (calls : List Call) : Decidable (Clocked calls) :=
  inferInstanceAs (Decidable ((∀ call ∈ calls, _ ∧ _) ∧ _))

theorem collisionFree_mk (calls : List Call) : CollisionFree january PyString.mk calls :=
  fun _ _ _ _ _ _ _ _ same => congrArg PyString.points same

-- A host in London, whose day ends with the one of the exchange: the second call is made before
-- that, and fetches after it.
theorem runCalls_transparent_london :
    @Transparent asciiText Nat january PyString.mk (fun _ => false) dayOf (okx january drifting)
      [bitcoinAt 19724 17 0, bitcoinAt 19724 23 2, bitcoinAt 19725 1 0, bitcoinAt 19726 0 1] := by
  let := asciiText
  refine runCalls_transparent (by decide) (collisionFree_mk _) ?_
  have named : bitcoin.Named january := by
    refine ⟨by decide +kernel, by decide +kernel, fun payload normalized => ?_⟩
    have same : loaderCachePayload january bitcoin =
        .ok ⟨"okx", "BTC-USDT", "1D", "2024-01-01", "2024-01-02", []⟩ := by decide +kernel
    obtain rfl := Except.ok.inj (same.symm.trans normalized)
    exact ⟨by decide +kernel, by decide +kernel, by decide +kernel, by decide +kernel,
      by decide +kernel, fun field member => by cases member⟩
  have ends : (okx january drifting).ends bitcoin = dayLength * 19725 := by decide +kernel
  intro call member
  simp only [List.mem_cons, List.not_mem_nil, or_false] at member
  obtain rfl | rfl | rfl | rfl := member
  · exact ⟨fun _ => named, fun final => absurd final (by decide +kernel)⟩
  · exact ⟨fun _ => named, fun _ => ends.trans_le (by decide)⟩
  · exact ⟨fun _ => named, fun _ => ends.trans_le (by decide)⟩
  · exact ⟨fun _ => named, fun _ => ends.trans_le (by decide)⟩

-- A host in Singapore, whose day ends eight hours before the one of the exchange.
theorem transparent_fails :
    ¬ ∀ (_ : PyText) (pd : Timestamps) (sha256 : JsonText.Text → PyString) (isEmpty : Nat → Bool)
      (host : Int → Int) (provider : Provider Nat) (calls : List Call),
      Clocked calls → CollisionFree pd sha256 calls →
      Transparent pd sha256 isEmpty host provider calls := by
  intro holds
  let := asciiText
  have transparent := holds asciiText january PyString.mk (fun _ => false)
    (fun now => dayOf (now + 28800000)) (okx january drifting)
    [bitcoinAt 19724 17 0, bitcoinAt 19726 0 0] (by decide) (collisionFree_mk _)
  have returned : (runCalls january PyString.mk (fun _ => false) (fun now => dayOf (now + 28800000))
      (okx january drifting) (fun _ => none)
      [bitcoinAt 19724 17 0, bitcoinAt 19726 0 0]).1 = [.ok (some 1), .ok (some 1)] := by
    decide +kernel
  have stale := transparent.returned.symm.trans returned
  exact absurd stale (by decide +kernel)

end SynapseYield.Backtest
