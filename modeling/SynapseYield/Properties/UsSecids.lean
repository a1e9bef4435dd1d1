import SynapseYield.Backtest.Eastmoney
import SynapseYield.Shared.Padding

set_option autoImplicit false

namespace SynapseYield.Backtest.Eastmoney

open Shared JsonText

variable [PyText]

structure Call where
  symbol : PyString
  search : Option Json

def ticker (symbol : PyString) : Option PyString :=
  let code := (rpartition symbol).1.strip.upper
  if 0x2E ∈ symbol.points ∧ (rpartition symbol).2.strip.upper = "US" ∧ code ≠ "" then some code
  else none

def step (cache : SecidCache) (call : Call) : SecidCache :=
  (resolveSecid cache call.symbol call.search).2

def cacheAfter (calls : List Call) : SecidCache := calls.foldl step []

def answer (before : List Call) (call : Call) : Option PyString :=
  (resolveSecid (cacheAfter before) call.symbol call.search).1

-- What the search answers, out of the parentheses of a callback where it comes in some
def Call.payload (call : Call) : Option Json :=
  call.search.map fun
    | .str text => stripJsonp text
    | payload => payload

def IsUsMarket (market : PyString) : Prop := market = "105" ∨ market = "106" ∨ market = "107"

-- A candidate gives the identifier of an instrument of a US market: the market, a dot, the code.
def GivesUs (candidate : Json) (quoteId : PyString) : Prop :=
  ∃ members market code, candidate = .obj members ∧ members.lookup quoteIdKey = some (.str quoteId) ∧
    IsUsMarket market ∧ quoteId = market ++ "." ++ code

def FirstUs (payload : Json) (quoteId : PyString) : Prop :=
  ∃ members table before candidate after, payload = .obj members ∧
    members.lookup tableKey = some (.obj table) ∧
    table.lookup dataKey = some (.arr (before ++ candidate :: after)) ∧ GivesUs candidate quoteId ∧
    ∀ other ∈ before, ∀ quoteId, ¬ GivesUs other quoteId

def Call.Finds (call : Call) (secid : PyString) : Prop :=
  ∃ payload, call.payload = some payload ∧ FirstUs payload secid

def IsOwn (code secid : PyString) : Prop :=
  ∃ market own, IsUsMarket market ∧ secid = market ++ "." ++ own ∧ own.upper = code

/-- No answer is of another instrument, and no failure of a search is remembered. -/
structure Trustworthy (calls : List Call) : Prop where
  own : ∀ before call after code, calls = before ++ call :: after →
    ticker call.symbol = some code → ∀ secid, answer before call = some secid → IsOwn code secid
  retried : ∀ before failed between call after code,
    calls = before ++ failed :: (between ++ call :: after) → ticker failed.symbol = some code →
    (∀ earlier ∈ before, ticker earlier.symbol ≠ some code) → failed.search = none →
    ticker call.symbol = some code → ∀ secid, call.Finds secid →
    (answer (before ++ failed :: between) call).isSome = true

/-- The first search for a ticker names the ticker itself, or nothing, and where it raises, none of
the later ones would find anything. -/
structure Sincere (calls : List Call) : Prop where
  own : ∀ before call after code, calls = before ++ call :: after →
    ticker call.symbol = some code → (∀ earlier ∈ before, ticker earlier.symbol ≠ some code) →
    ∀ secid, call.Finds secid → IsOwn code secid
  retried : ∀ before failed between call after code,
    calls = before ++ failed :: (between ++ call :: after) → ticker failed.symbol = some code →
    (∀ earlier ∈ before, ticker earlier.symbol ≠ some code) → failed.search = none →
    ticker call.symbol = some code → ∀ secid, ¬ call.Finds secid

section Candidates

variable {candidate payload : Json} {quoteId secid : PyString}

omit [PyText] in
theorem usMarket_digits {market : PyString} (us : IsUsMarket market) : 0x2E ∉ market.points := by
  rcases us with rfl | rfl | rfl <;> decide

omit [PyText] in
theorem usMarket_iff {market : PyString} : market ∈ usMarkets ↔ IsUsMarket market := by
  simp [usMarkets, IsUsMarket]

omit [PyText] in
theorem secid_parts {market : PyString} (us : IsUsMarket market) (code : PyString) :
    secidMarket (market ++ "." ++ code) = market ∧ secidCode (market ++ "." ++ code) = code := by
  have parts : Ascii.cut 0x2E (market ++ "." ++ code).points = (market.points, some code.points) := by
    change Ascii.cut 0x2E (market.points ++ [0x2E] ++ code.points) = _
    rw [List.append_assoc]
    exact cut_append (usMarket_digits us)
  rw [secidMarket, secidCode, parts]
  exact ⟨rfl, rfl⟩

omit [PyText] in
theorem secid_us : 0x2E ∈ quoteId.points ∧ secidMarket quoteId ∈ usMarkets ↔
    ∃ market code, IsUsMarket market ∧ quoteId = market ++ "." ++ code := by
  constructor
  · rintro ⟨dotted, listed⟩
    obtain ⟨front, rest, whole, apart⟩ := List.eq_append_cons_of_mem dotted
    rw [secidMarket, whole, cut_append apart] at listed
    refine ⟨⟨front⟩, ⟨rest⟩, usMarket_iff.mp listed, ?_⟩
    change quoteId = ⟨front ++ [0x2E] ++ rest⟩
    rw [List.append_assoc]
    exact congrArg PyString.mk whole
  · rintro ⟨market, code, us, rfl⟩
    rw [(secid_parts us code).1, usMarket_iff]
    refine ⟨?_, us⟩
    change 0x2E ∈ market.points ++ [0x2E] ++ code.points
    simp

omit [PyText] in
theorem candidateSecid_iff : candidateSecid candidate = some quoteId ↔ GivesUs candidate quoteId := by
  constructor
  · intro given
    unfold candidateSecid at given
    split at given
    next members =>
      split at given
      next listed found =>
        split at given
        next us =>
          cases given
          obtain ⟨market, code, of, same⟩ := secid_us.mp us
          exact ⟨members, market, code, rfl, found, of, same⟩
        next => cases given
      next => cases given
    next => cases given
  · rintro ⟨members, market, code, rfl, found, us, same⟩
    have listed := secid_us.mpr ⟨market, code, us, same⟩
    have key : members.lookup quoteIdKey = some (.str quoteId) := found
    simp only [candidateSecid, key, if_pos listed]

omit [PyText] in
theorem parseUsSecid_iff : parseUsSecid payload = some secid ↔ FirstUs payload secid := by
  constructor
  · intro parsed
    unfold parseUsSecid at parsed
    split at parsed
    next members =>
      split at parsed
      next table found =>
        split at parsed
        next candidates listed =>
          obtain ⟨before, candidate, after, rfl, given, none⟩ :=
            List.findSome?_eq_some_iff.mp parsed
          refine ⟨members, table, before, candidate, after, rfl, found, listed,
            candidateSecid_iff.mp given, fun other member quoteId gives => ?_⟩
          have given := none other member
          rw [candidateSecid_iff.mpr gives] at given
          cases given
        next => cases parsed
      next => cases parsed
    next => cases parsed
  · rintro ⟨members, table, before, candidate, after, rfl, found, listed, gives, others⟩
    have first : members.lookup tableKey = some (.obj table) := found
    have second : table.lookup dataKey = some (.arr (before ++ candidate :: after)) := listed
    simp only [parseUsSecid, first, second]
    refine List.findSome?_eq_some_iff.mpr ⟨before, candidate, after, rfl,
      candidateSecid_iff.mpr gives, fun other member => ?_⟩
    by_contra given
    obtain ⟨quoteId, given⟩ := Option.ne_none_iff_exists'.mp given
    exact others other member quoteId (candidateSecid_iff.mp given)

def Call.finds (call : Call) : Option PyString := call.search.bind searched

theorem finds_iff {call : Call} : call.finds = some secid ↔ call.Finds secid := by
  have same : call.finds = call.payload.bind parseUsSecid := by
    unfold Call.finds Call.payload
    cases call.search with
    | none => rfl
    | some answer => cases answer <;> rfl
  rw [same, Option.bind_eq_some_iff]
  simp only [parseUsSecid_iff]
  rfl

end Candidates

section Cache

variable {cache : SecidCache} {call : Call} {code other : PyString} {calls before : List Call}

theorem resolveSecid_us (us : ticker call.symbol = some code) :
    resolveSecid cache call.symbol call.search = resolveUsSecid cache code call.search := by
  unfold ticker at us
  dsimp only at us
  split at us
  next named =>
    obtain ⟨dotted, suffix, some⟩ := named
    cases us
    rw [resolveSecid, if_neg (not_not.mpr dotted)]
    dsimp only
    rw [if_neg some, suffix, if_neg (by decide), if_neg (by decide), if_pos rfl]
  next => cases us

theorem step_other (other : ticker call.symbol = none) : step cache call = cache := by
  unfold ticker at other
  dsimp only at other
  split at other
  next => cases other
  next named =>
    rw [step, resolveSecid]
    split
    next => rfl
    next dotted =>
      dsimp only
      split
      next => rfl
      next some =>
        split
        next => rfl
        next =>
          split
          next => rfl
          next =>
            split
            next suffix => exact absurd ⟨not_not.mp dotted, suffix, some⟩ named
            next => rfl

theorem step_us (us : ticker call.symbol = some code) :
    step cache call = if (cache.lookup code).isSome then cache
      else (code, call.finds) :: cache := by
  rw [step, resolveSecid_us us, resolveUsSecid]
  cases cache.lookup code <;> rfl

theorem step_lookup : (step cache call).lookup code =
    (cache.lookup code).or (if ticker call.symbol = some code then some call.finds else none) := by
  cases us : ticker call.symbol with
  | none => simp [step_other us]
  | some other =>
    rw [step_us us]
    by_cases same : other = code
    · subst same
      cases held : cache.lookup other <;> simp [held]
    · have different : ¬ some other = some code := fun equal => same (Option.some.inj equal)
      rw [if_neg different, Option.or_none]
      split
      next => rfl
      next => rw [List.lookup_cons, beq_false_of_ne (Ne.symm same)]

def firstFor (calls : List Call) (code : PyString) : Option Call :=
  calls.find? fun call => ticker call.symbol = some code

theorem cacheAfter_lookup (calls : List Call) (code : PyString) :
    (cacheAfter calls).lookup code = (firstFor calls code).map Call.finds := by
  induction calls using List.reverseRecOn with
  | nil => rfl
  | append_singleton calls call ih =>
    rw [cacheAfter, List.foldl_append, List.foldl_cons, List.foldl_nil, step_lookup, ← cacheAfter,
      ih, firstFor, firstFor, List.find?_append]
    cases calls.find? fun call => ticker call.symbol = some code with
    | some first => rfl
    | none =>
      rw [Option.map_none, Option.none_or, Option.none_or, List.find?_singleton]
      split <;> simp_all

theorem answer_eq (us : ticker call.symbol = some code) :
    answer before call = ((firstFor before code).getD call).finds := by
  rw [answer, resolveSecid_us us, resolveUsSecid, cacheAfter_lookup]
  cases firstFor before code <;> rfl

theorem firstFor_some {first : Call} (found : firstFor calls code = some first) :
    ticker first.symbol = some code ∧ ∃ before after, calls = before ++ first :: after ∧
      ∀ earlier ∈ before, ticker earlier.symbol ≠ some code := by
  obtain ⟨names, before, after, split, others⟩ := List.find?_eq_some_iff_append.mp found
  exact ⟨by simpa using names, before, after, split, by simpa using others⟩

theorem firstFor_none :
    firstFor calls code = none ↔ ∀ earlier ∈ calls, ticker earlier.symbol ≠ some code := by
  simp [firstFor]

theorem firstFor_append {failed : Call} {between : List Call}
    (names : ticker failed.symbol = some code)
    (first : ∀ earlier ∈ before, ticker earlier.symbol ≠ some code) :
    firstFor (before ++ failed :: between) code = some failed := by
  rw [firstFor, List.find?_append, ← firstFor, firstFor_none.mpr first, Option.none_or,
    List.find?_cons_of_pos (by simpa using names)]

end Cache

/-- A history is trustworthy exactly where the first search for every ticker is sincere. -/
theorem trustworthy_iff (calls : List Call) : Trustworthy calls ↔ Sincere calls := by
  constructor
  · intro trustworthy
    refine ⟨fun before call after code split us first secid found => ?_,
      fun before failed between call after code split names first raised us => ?_⟩
    · refine trustworthy.own before call after code split us secid ?_
      rw [answer_eq us, firstFor_none.mpr first]
      exact finds_iff.mpr found
    · intro secid finds
      have kept := trustworthy.retried before failed between call after code split names first
        raised us secid finds
      rw [answer_eq us, firstFor_append names first, Option.getD_some, Call.finds, raised] at kept
      cases kept
  · intro sincere
    refine ⟨fun before call after code split us secid found => ?_,
      fun before failed between call after code split names first raised us secid finds => ?_⟩
    · rw [answer_eq us] at found
      cases held : firstFor before code with
      | none =>
        rw [held] at found
        exact sincere.own before call after code split us (firstFor_none.mp held) secid
          (finds_iff.mp found)
      | some first =>
        rw [held] at found
        obtain ⟨names, earlier, later, rfl, others⟩ := firstFor_some held
        exact sincere.own earlier first (later ++ call :: after) code (by simpa using split) names
          others secid (finds_iff.mp found)
    · exact absurd finds
        (sincere.retried before failed between call after code split names first raised us secid)

-- A candidate of a US market that is another instrument, the first of them
def otherCandidates : Json :=
  .obj [(tableKey, .obj [(dataKey, .arr [.obj [(quoteIdKey, .str "105.AAPU")],
    .obj [(quoteIdKey, .str "105.AAPL")]])])]

def ownCandidates : Json :=
  .obj [(tableKey, .obj [(dataKey, .arr [.obj [(quoteIdKey, .str "105.AAPL")]])])]

omit [PyText] in
theorem another_answers :
    ¬ @Trustworthy asciiText [⟨"AAPL.US", some otherCandidates⟩] ∧
      ¬ @Trustworthy asciiText [⟨"AAPL.US", none⟩, ⟨"aapl.us", some ownCandidates⟩] := by
  let text := asciiText
  constructor
  · intro trustworthy
    obtain ⟨market, own, us, same, upper⟩ := trustworthy.own [] ⟨"AAPL.US", some otherCandidates⟩ []
      "AAPL" rfl (by decide +kernel) "105.AAPU" (by decide +kernel)
    obtain rfl : "AAPU" = own := by
      rw [← (secid_parts us own).2, ← same]
      decide +kernel
    exact absurd upper (by decide +kernel)
  · intro trustworthy
    have finds : (⟨"aapl.us", some ownCandidates⟩ : Call).Finds "105.AAPL" :=
      finds_iff.mp (by decide +kernel)
    have kept := trustworthy.retried [] ⟨"AAPL.US", none⟩ [] ⟨"aapl.us", some ownCandidates⟩ []
      "AAPL" rfl (by decide +kernel) (by simp) rfl (by decide +kernel) "105.AAPL" finds
    revert kept
    decide +kernel

end SynapseYield.Backtest.Eastmoney
