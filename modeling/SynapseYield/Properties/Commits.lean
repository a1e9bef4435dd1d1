import Mathlib.Data.Rat.Floor
import SynapseYield.Live.Commit
import SynapseYield.Live.World
import SynapseYield.Shared.Outcome

set_option autoImplicit false

namespace SynapseYield.Live.Commit

open Shared

abbrev Files := LivePath → Option PyValue

-- A request that passes the checks against the files, and what is drawn up of it
structure Approved [PyText] (request : Request) (files : Files) (key : PyString)
    (proposal resolved : PyDict) (draft : Draft) : Prop where
  consent : request.consentAck = true
  keyed : brokerDir request.broker = .ok key
  live : files (.proposal key request.proposalId) = some (.dict proposal)
  fits : request.resolve proposal = .ok resolved
  caps : profileToHardCaps resolved = .ok draft.caps
  permitted : profileToUniverse resolved = .ok draft.universeSection

-- The files after the first, the second and the third thing that a commit does to them
def mandated (request : Request) (key : PyString) (draft : Draft) (files : Files) : Files :=
  Function.update files (.mandate key) (some (draft.mandateDoc request))

def recorded (request : Request) (key : PyString) (proposal resolved : PyDict) (draft : Draft)
    (files : Files) : Files :=
  Function.update (mandated request key draft files) (.consent key draft.consentRecordId)
    (some (draft.consentRecord request proposal resolved))

def spent (request : Request) (key : PyString) (proposal resolved : PyDict) (draft : Draft)
    (files : Files) : Files :=
  Function.update (recorded request key proposal resolved draft files)
    (.proposal key request.proposalId) none

section Paths

variable {request : Request} {key other proposalId : PyString} {proposal resolved : PyDict}
  {draft : Draft} {files : Files}

theorem mandated_proposal :
    mandated request key draft files (.proposal other proposalId) =
      files (.proposal other proposalId) := Function.update_of_ne (by simp) _ _

theorem recorded_proposal :
    recorded request key proposal resolved draft files (.proposal other proposalId) =
      files (.proposal other proposalId) :=
  (Function.update_of_ne (by simp) _ _).trans mandated_proposal

theorem spent_proposal :
    spent request key proposal resolved draft files (.proposal other proposalId) =
      if other = key ∧ proposalId = request.proposalId then none
      else files (.proposal other proposalId) := by
  rw [spent]
  split
  next same => rw [same.1, same.2, Function.update_self]
  next different =>
    rw [Function.update_of_ne, recorded_proposal]
    exact fun same => different (LivePath.proposal.inj same)

theorem mandated_mandate : mandated request key draft files (.mandate other) =
    if other = key then some (draft.mandateDoc request) else files (.mandate other) := by
  rw [mandated]
  split
  next same => rw [same, Function.update_self]
  next different => exact Function.update_of_ne (by simpa using different) _ _

theorem recorded_mandate : recorded request key proposal resolved draft files (.mandate other) =
    if other = key then some (draft.mandateDoc request) else files (.mandate other) :=
  (Function.update_of_ne (by simp) _ _).trans mandated_mandate

theorem spent_mandate : spent request key proposal resolved draft files (.mandate other) =
    if other = key then some (draft.mandateDoc request) else files (.mandate other) :=
  (Function.update_of_ne (by simp) _ _).trans recorded_mandate

theorem spent_consent : spent request key proposal resolved draft files
    (.consent key draft.consentRecordId) = some (draft.consentRecord request proposal resolved) :=
  (Function.update_of_ne (by simp) _ _).trans (Function.update_self _ _ _)

end Paths

-- What a commit may have done to the files at any time
def Reached [PyText] (request : Request) (before after : Files) : Prop :=
  after = before ∨ ∃ key proposal resolved draft,
    Approved request before key proposal resolved draft ∧
      (after = mandated request key draft before ∨
        after = recorded request key proposal resolved draft before ∨
          after = spent request key proposal resolved draft before)

section Commits

variable {files : Files} {always : Files → Prop} {world : World} {α : Type}

theorem attempt_safe {answer : Except PyError α} {fail : PyError → World → Prop}
    (holds : always world.files) (raises : ∀ raised, fail raised world) :
    Safe liveSurroundings (fun world => always world.files)
      (fun value next => next = world ∧ answer = .ok value) fail world (attempt answer) :=
  .ofExcept holds (fun _ same => ⟨rfl, same⟩) fun raised _ => raises raised

theorem writeJson_safe {path : LivePath} {document : PyValue} (before : always world.files)
    (after : always (Function.update world.files path (some document))) :
    Safe liveSurroundings (fun world => always world.files)
      (fun _ next => next.files = Function.update world.files path (some document))
      (fun _ next => next.files = world.files) world (writeJson path document) := by
  refine .bind (attempt_safe before fun _ => rfl) ?_
  rintro _ world _ ⟨rfl, -⟩
  refine .bind (attempt_safe before fun _ => rfl) ?_
  rintro _ world _ ⟨rfl, -⟩
  have written : Safe liveSurroundings (fun world => always world.files)
      (fun reply next => next.files = world.files ∧
        (reply = .ok () → next.tmp path = some document))
      (fun _ next => next.files = world.files) world (ask (.writeTmp path document)) := by
    refine .ask before ?_
    rintro reply next (⟨rfl, rfl⟩ | ⟨⟨raised, rfl⟩, left, rfl⟩)
    · exact ⟨before, rfl, fun _ => Function.update_self _ _ _⟩
    · exact ⟨before, rfl, nofun⟩
  refine written.bind ?_
  rintro reply first holds ⟨same, told⟩
  refine .bind (attempt_safe holds fun _ => same) ?_
  rintro _ first holds ⟨rfl, ok⟩
  have replaced : Safe liveSurroundings (fun world => always world.files)
      (fun reply next => reply = .ok () ∧
        next.files = Function.update world.files path (some document) ∨
          (∃ raised, reply = .error raised) ∧ next.files = world.files)
      (fun _ next => next.files = world.files) first (ask (.replaceTmp path)) := by
    refine .ask holds ?_
    rintro reply next (⟨held, carried, rfl, rfl⟩ | ⟨failed, rfl⟩)
    · obtain rfl := Option.some.inj ((told ok).symm.trans carried)
      have stored : always (Function.update first.files path (some document)) := by rwa [same]
      refine ⟨stored, .inl ⟨rfl, ?_⟩⟩
      rw [← same]
      rfl
    · exact ⟨holds, .inr ⟨failed, same⟩⟩
  refine replaced.bind ?_
  rintro reply last holds (⟨rfl, done⟩ | ⟨⟨raised, rfl⟩, same⟩)
  · exact ⟨holds, done⟩
  · exact ⟨holds, same⟩

theorem unlink_safe {path : LivePath} (before : always world.files)
    (after : always (Function.update world.files path none)) :
    Safe liveSurroundings (fun world => always world.files)
      (fun reply next => reply = .ok () ∧ next.files = Function.update world.files path none ∨
        (∃ raised, reply = .error raised) ∧ next.files = world.files)
      (fun _ next => next.files = world.files) world (ask (.unlink path)) := by
  refine .ask before ?_
  rintro reply next (⟨rfl, rfl⟩ | ⟨failed, rfl⟩)
  · exact ⟨after, .inl ⟨rfl, rfl⟩⟩
  · exact ⟨before, .inr ⟨failed, rfl⟩⟩

variable [PyText]

theorem loadProposal_safe {broker proposalId : PyString} (before : always world.files) :
    Safe liveSurroundings (fun world => always world.files)
      (fun found next => next = world ∧ ∀ proposal, found = some proposal → ∃ key,
        brokerDir broker = .ok key ∧ world.files (.proposal key proposalId) = some (.dict proposal))
      (fun _ next => next = world) world (loadProposal broker proposalId) := by
  unfold loadProposal
  split
  next bare =>
    cases keyed : brokerDir broker with
    | error raised => exact ⟨before, rfl, nofun⟩
    | ok key =>
      have read : Safe liveSurroundings (fun world => always world.files)
          (fun reply next => next = world ∧
            (reply = .ok (world.files (.proposal key proposalId)) ∨
              ∃ raised, reply = .error raised))
          (fun _ next => next = world) world (ask (.readJson (.proposal key proposalId))) := by
        refine .ask before ?_
        rintro reply next ⟨rfl, said⟩
        exact ⟨before, rfl, said⟩
      refine read.bind ?_
      rintro reply world _ ⟨rfl, said⟩
      split
      next proposal =>
        obtain read | ⟨_, failed⟩ := said
        · refine ⟨before, rfl, fun other same => ⟨key, rfl, ?_⟩⟩
          obtain rfl := Option.some.inj same
          exact (Except.ok.inj read).symm
        · cases failed
      next => exact ⟨before, rfl, nofun⟩
      next => exact ⟨before, rfl, nofun⟩
      next => exact ⟨before, rfl, nofun⟩
      next => exact ⟨before, rfl⟩
  next => exact ⟨before, rfl, nofun⟩

variable [Stamping]

theorem draw_safe {request : Request} {resolved : PyDict} (before : always world.files) :
    Safe liveSurroundings (fun world => always world.files)
      (fun draft next => next.files = world.files ∧ profileToHardCaps resolved = .ok draft.caps ∧
        profileToUniverse resolved = .ok draft.universeSection)
      (fun _ next => next.files = world.files) world (draw request resolved) := by
  have quiet {op : Operation} {first : World} (holds : always first.files)
      (same : first.files = world.files)
      (still : ∀ reply next, first.answers op reply next → next.files = first.files) :
      Safe liveSurroundings (fun world => always world.files)
        (fun _ next => next.files = world.files) (fun _ next => next.files = world.files) first
        (ask op) :=
    .ask holds fun reply next said =>
      ⟨(still reply next said).symm ▸ holds, (still reply next said).trans same⟩
  refine .bind (quiet before rfl fun _ _ said => congrArg World.files said.1) ?_
  intro created first holds same
  refine .bind (attempt_safe holds fun _ => same) ?_
  rintro expires first holds ⟨rfl, -⟩
  refine .bind (quiet holds same fun _ _ said => congrArg World.files said) ?_
  intro mandateId first holds same
  refine .bind (quiet holds same fun _ _ said => congrArg World.files said) ?_
  intro recordId first holds same
  refine .bind (attempt_safe holds fun _ => same) ?_
  rintro ordinal first holds ⟨rfl, -⟩
  refine .bind (attempt_safe holds fun _ => same) ?_
  rintro caps first holds ⟨rfl, capped⟩
  refine .bind (attempt_safe holds fun _ => same) ?_
  rintro permitted first holds ⟨rfl, shaped⟩
  exact ⟨holds, same, capped, shaped⟩

-- What has been done to the files before a call fails: the proposal is still there.
def Failed (request : Request) (before after : Files) : Prop :=
  Reached request before after ∧
    ∀ key proposalId, after (.proposal key proposalId) = before (.proposal key proposalId)

def Done (request : Request) (before after : Files) (answer : PyDict) : Prop :=
  ∃ key proposal resolved draft, Approved request before key proposal resolved draft ∧
    after = spent request key proposal resolved draft before ∧
      answer = summary request draft resolved

omit [Stamping] in
theorem Failed.unwritten {request : Request} (same : world.files = files) :
    Failed request files world.files :=
  ⟨.inl same, fun _ _ => congrFun same _⟩

omit [Stamping] in
theorem write_safe {request : Request} {key : PyString} {proposal resolved : PyDict} {draft : Draft}
    (approved : Approved request files key proposal resolved draft) (same : world.files = files) :
    Safe liveSurroundings (fun next => Reached request files next.files)
      (fun answer next => Done request files next.files answer)
      (fun _ next => Failed request files next.files) world (do
        writeJson (.mandate key) (draft.mandateDoc request)
        writeJson (.consent key draft.consentRecordId)
          (draft.consentRecord request proposal resolved)
        attempt (← ask (.unlink (.proposal key request.proposalId)))
        return summary request draft resolved) := by
  have first : Reached request files (mandated request key draft files) :=
    .inr ⟨key, proposal, resolved, draft, approved, .inl rfl⟩
  have second : Reached request files (recorded request key proposal resolved draft files) :=
    .inr ⟨key, proposal, resolved, draft, approved, .inr (.inl rfl)⟩
  have third : Reached request files (spent request key proposal resolved draft files) :=
    .inr ⟨key, proposal, resolved, draft, approved, .inr (.inr rfl)⟩
  have start : Reached request files world.files := .inl same
  subst same
  refine .bind ((writeJson_safe start first).mono (fun _ holds => holds) (fun _ _ done => done)
    fun _ next same => .unwritten same) ?_
  intro _ next _ same
  have holds : Reached request world.files next.files := same ▸ first
  have failed {after : World} (same : after.files = mandated request key draft world.files) :
      Failed request world.files after.files :=
    ⟨same ▸ first, fun _ _ => (congrFun same _).trans mandated_proposal⟩
  refine .bind ((writeJson_safe holds (same ▸ second)).mono (fun _ holds => holds)
    (fun _ _ done => done) fun _ after unchanged => failed (unchanged.trans same)) ?_
  intro _ after _ done
  have same : after.files = recorded request key proposal resolved draft world.files :=
    done.trans (congrArg (fun files : Files => Function.update files _ _) same)
  have holds : Reached request world.files after.files := same ▸ second
  have failed {last : World}
      (same : last.files = recorded request key proposal resolved draft world.files) :
      Failed request world.files last.files :=
    ⟨same ▸ second, fun _ _ => (congrFun same _).trans recorded_proposal⟩
  refine .bind ((unlink_safe holds (same ▸ third)).mono (fun _ holds => holds)
    (fun _ _ done => done) fun _ last unchanged => failed (unchanged.trans same)) ?_
  rintro reply last holds (⟨rfl, done⟩ | ⟨⟨raised, rfl⟩, unchanged⟩)
  · exact ⟨holds, key, proposal, resolved, draft, approved,
      done.trans (congrArg (fun files : Files => Function.update files _ _) same), rfl⟩
  · exact ⟨holds, failed (unchanged.trans same)⟩

theorem commit_safe {request : Request} (same : world.files = files) :
    Safe liveSurroundings (fun next => Reached request files next.files)
      (fun answer next => Done request files next.files answer)
      (fun _ next => Failed request files next.files) world (commitMandate request) := by
  have start {next : World} (same : next.files = files) : Reached request files next.files :=
    .inl same
  unfold commitMandate
  split
  next consent =>
    refine .bind ((loadProposal_safe (start same)).mono (fun _ holds => holds)
      (fun _ _ found => found) fun _ next unchanged => .unwritten (unchanged ▸ same)) ?_
    rintro (_ | proposal) world _ ⟨rfl, found⟩
    · exact ⟨start same, .unwritten same⟩
    · obtain ⟨key, keyed, live⟩ := found proposal rfl
      refine .bind (attempt_safe (start same) fun _ => .unwritten same) ?_
      rintro resolved world _ ⟨rfl, fits⟩
      refine .bind ((draw_safe (start same)).mono (fun _ holds => holds) (fun _ _ drawn => drawn)
        fun _ next unchanged => .unwritten (unchanged.trans same)) ?_
      rintro draft next _ ⟨unchanged, capped, shaped⟩
      have now := unchanged.trans same
      refine .bind (attempt_safe (start now) fun _ => .unwritten now) ?_
      rintro other next _ ⟨rfl, keyed'⟩
      obtain rfl := Except.ok.inj (keyed'.symm.trans keyed)
      exact write_safe ⟨consent, keyed, same ▸ live, fits, capped, shaped⟩ now
  next => exact ⟨start same, .unwritten same⟩

end Commits

section Loading

variable [PyText] {request : Request} {draft : Draft} {resolved : PyDict}

def Caps.hardCaps (caps : Caps) (instruments : List InstrumentType) : HardCaps where
  accountFundingUsd := caps.accountFundingUsd
  maxOrderNotionalUsd := caps.maxOrderNotionalUsd
  maxTotalExposureUsd := caps.maxTotalExposureUsd
  maxLeverage := caps.maxLeverage
  allowedInstruments := instruments
  maxTradesPerDay := caps.maxTradesPerDay

def Draft.consent (draft : Draft) (request : Request) : ConsentMeta where
  createdAt := draft.createdIso
  consentTokenSha256 := draft.consentToken
  broker := request.broker
  accountRef := request.accountRef
  expiresAt := draft.expiresIso

theorem parseHardCaps_document {caps : Caps} : parseHardCaps caps.document =
    caps.hardCaps <$> caps.allowedInstruments.mapM instrumentTypeOf := by
  change (caps.allowedInstruments.mapM instrumentTypeOf >>= fun instruments =>
    Except.ok (caps.hardCaps instruments)) = _
  cases caps.allowedInstruments.mapM instrumentTypeOf <;> rfl

theorem parseMandate_doc : parseMandate (draft.mandateDoc request) = (do
    let hardCaps ← parseHardCaps draft.caps.document
    let universeConstraint ← parseUniverse draft.universeSection
    return {
      schemaVersion := mandateSchemaVersion
      hardCaps, universeConstraint
      consent := draft.consent request
      flattenOnHalt := draft.flatten }) := rfl

end Loading

section Narrowing

-- A number that bounds at least as much as another, which may be NaN and bound nothing
def Narrower (narrow wide : Number) : Prop := narrow = wide ∨ 0 < narrow ∧ ¬ wide < narrow

variable {narrow wide x : Number}

theorem zero_lt_ne_nan (positive : 0 < x) : x ≠ .nan := by
  rintro rfl
  exact Number.not_lt_nan positive

theorem Narrower.bounds (narrower : Narrower narrow wide) (kept : ¬ narrow < x) : ¬ wide < x := by
  obtain rfl | ⟨positive, under⟩ := narrower
  · exact kept
  · intro above
    have real : wide ≠ .nan := fun nan => Number.not_nan_lt (nan ▸ above)
    obtain less | ⟨rfl, -⟩ := (Number.not_lt real (zero_lt_ne_nan positive)).mp under
    · exact kept (Number.lt_trans less above)
    · exact kept above

theorem Narrower.positive (narrower : Narrower narrow wide) (kept : ¬ narrow ≤ 0) : ¬ wide ≤ 0 := by
  obtain rfl | ⟨positive, under⟩ := narrower
  · exact kept
  · rintro (negative | ⟨rfl, -⟩)
    · exact under (Number.lt_trans negative positive)
    · exact under positive

theorem Narrower.trans {middle : Number} (first : Narrower narrow middle)
    (second : Narrower middle wide) : Narrower narrow wide := by
  obtain rfl | ⟨positive, under⟩ := first
  · exact second
  · obtain rfl | ⟨positive', under'⟩ := second
    · exact .inr ⟨positive, under⟩
    · exact .inr ⟨positive, fun above => under' (by
        obtain less | ⟨rfl, -⟩ := (Number.not_lt (zero_lt_ne_nan positive')
          (zero_lt_ne_nan positive)).mp under
        · exact Number.lt_trans above less
        · exact above)⟩

theorem div_nan : x / Number.nan = .nan := by
  cases x <;> rfl

theorem Narrower.quotient {post : Number} (narrower : Narrower narrow wide)
    (above : x < post.abs / wide) : x < post.abs / narrow := by
  obtain rfl | ⟨positive, under⟩ := narrower
  · exact above
  have real : wide ≠ .nan := by
    rintro rfl
    rw [div_nan] at above
    exact Number.not_lt_nan above
  obtain less | ⟨rfl, -⟩ := (Number.not_lt real (zero_lt_ne_nan positive)).mp under
  · cases narrow with
    | nan => exact absurd positive Number.not_lt_nan
    | negInf => exact absurd positive Number.not_lt_negInf
    | posInf => exact absurd less Number.not_posInf_lt
    | finite n =>
      have positive : 0 < n := Number.finite_lt.mp positive
      cases post with
      | nan => exact absurd above (by cases wide <;> exact Number.not_lt_nan)
      | negInf | posInf =>
        cases wide with
        | finite w => exact above
        | nan => exact absurd rfl real
        | negInf => exact absurd less Number.not_lt_negInf
        | posInf => exact absurd above Number.not_lt_nan
      | finite p =>
        have least : ∀ q : ℚ, q ≤ |p| / n → x < .finite q → x < .finite (|p| / n) := by
          intro q under above
          obtain less | same := under.lt_or_eq
          · exact Number.lt_trans above (Number.finite_lt.mpr less)
          · exact same ▸ above
        cases wide with
        | finite w =>
          exact least _ (div_le_div_of_nonneg_left (abs_nonneg p) positive
            (Number.finite_lt.mp less).le) above
        | nan => exact absurd rfl real
        | negInf => exact absurd less Number.not_lt_negInf
        | posInf => exact least 0 (div_nonneg (abs_nonneg p) positive.le) above
  · exact above

theorem numberOr_narrower {order order' : Number} (funding : Narrower narrow wide)
    (orders : Narrower order order') : Narrower (numberOr narrow order) (numberOr wide order') := by
  unfold numberOr
  obtain rfl | ⟨positive, under⟩ := funding
  · split
    · exact orders
    · exact .inl rfl
  · have some : narrow ≠ .finite 0 := by
      rintro rfl
      exact Number.lt_irrefl _ positive
    have some' : wide ≠ .finite 0 := by
      rintro rfl
      exact under positive
    rw [if_neg some, if_neg some']
    exact .inr ⟨positive, under⟩

structure NarrowerMandate (narrow wide : Mandate) : Prop where
  funding : Narrower narrow.hardCaps.accountFundingUsd wide.hardCaps.accountFundingUsd
  order : Narrower narrow.hardCaps.maxOrderNotionalUsd wide.hardCaps.maxOrderNotionalUsd
  exposure : Narrower narrow.hardCaps.maxTotalExposureUsd wide.hardCaps.maxTotalExposureUsd
  leverage : Narrower narrow.hardCaps.maxLeverage wide.hardCaps.maxLeverage
  trades : narrow.hardCaps.maxTradesPerDay ≤ wide.hardCaps.maxTradesPerDay
  instruments : narrow.hardCaps.allowedInstruments = wide.hardCaps.allowedInstruments
  permitted : narrow.universeConstraint = wide.universeConstraint

theorem NarrowerMandate.admits [PyText] {narrow wide : Mandate}
    (narrower : NarrowerMandate narrow wide) {loaders : Loaders} {intent : OrderIntent}
    {dailyCount : Int} {notional exposure : Number}
    (admits : Admits loaders narrow intent dailyCount notional exposure) :
    Admits loaders wide intent dailyCount notional exposure where
  named := admits.named
  sided := admits.sided
  notExcluded := narrower.permitted ▸ admits.notExcluded
  instrument := narrower.instruments ▸ admits.instrument
  bucketed := narrower.permitted ▸ admits.bucketed
  notionalCap := narrower.order.bounds admits.notionalCap
  exposureCap := narrower.exposure.bounds admits.exposureCap
  funded := narrower.funding.positive admits.funded
  leverageCap := fun above =>
    narrower.leverage.bounds admits.leverageCap (narrower.funding.quotient above)
  countCap := admits.countCap.trans narrower.trades
  fundingCap := fun buying => narrower.funding.bounds (admits.fundingCap buying)
  floors := narrower.permitted ▸ admits.floors

end Narrowing

section Adjusting

variable [PyText] {profile rendered resolved adjustments : PyDict} {key other : PyString}
  {value value' : PyValue} {f f' x x' : Number}

omit [PyText] in
theorem isKey_unique {entry : PyValue} (here : entry.isKey key = true)
    (there : entry.isKey other = true) : key = other := by
  cases entry with
  | str s => exact (of_decide_eq_true here).symm.trans (of_decide_eq_true there)
  | _ => cases here

omit [PyText] in
theorem lookup_replaced : PyDict.lookup (profile.map fun entry =>
      if entry.1.isKey key then (entry.1, value) else entry) other =
    if other = key then (profile.lookup key).map fun _ => value else profile.lookup other := by
  induction profile with
  | nil => simp [PyDict.lookup]
  | cons entry rest ih =>
    rw [PyDict.lookup, PyDict.lookup, PyDict.lookup, List.map_cons, List.find?_cons,
      List.find?_cons, List.find?_cons]
    rw [PyDict.lookup, PyDict.lookup, PyDict.lookup] at ih
    cases here : entry.1.isKey key with
    | true =>
      cases there : entry.1.isKey other with
      | true =>
        obtain rfl := isKey_unique here there
        simp [here]
      | false =>
        have different : other ≠ key := by
          rintro rfl
          rw [here] at there
          cases there
        simpa [there, different] using ih
    | false =>
      cases there : entry.1.isKey other with
      | true =>
        have different : other ≠ key := by
          rintro rfl
          rw [here] at there
          cases there
        simp [there, different]
      | false => simpa [there] using ih

omit [PyText] in
theorem lookup_set (held : (profile.lookup key).isSome = true) :
    (PyDict.set profile key value).lookup other =
      if other = key then some value else profile.lookup other := by
  obtain ⟨old, found⟩ := Option.isSome_iff_exists.mp held
  obtain ⟨entry, listed, -⟩ := Option.map_eq_some_iff.mp found
  have any : profile.any (·.1.isKey key) = true :=
    List.any_eq_true.mpr ⟨entry, List.mem_of_find?_eq_some listed,
      List.find?_some (p := fun entry : PyValue × PyValue => entry.1.isKey key) listed⟩
  rw [PyDict.set, if_pos any, lookup_replaced, found]
  rfl

def Tightened (value value' : PyValue) : Prop :=
  ∃ x x', number? value = some x ∧ number? value' = some x' ∧ 0 < x ∧ ¬ x' < x

def Limited (resolved rendered : Option PyValue) : Prop :=
  resolved = rendered ∨ ∃ value value', resolved = some value ∧ rendered = some value' ∧
    Tightened value value'

theorem toFloat_number (number : number? value = some x) (read : value.toFloat = .ok f) :
    f = x := by
  cases value with
  | bool b => exact (Except.ok.inj read).symm.trans (Option.some.inj number)
  | int n =>
    rw [PyValue.toFloat, floatOfInt] at read
    split at read
    · exact (Except.ok.inj read).symm.trans (Option.some.inj number)
    · cases read
  | float y => exact (Except.ok.inj read).symm.trans (Option.some.inj number)
  | _ => cases number

omit [PyText] in
theorem truthy_number (number : number? value = some x) (some : x ≠ .finite 0) :
    value.truthy = true := by
  cases value with
  | bool b =>
    obtain rfl := Option.some.inj number
    cases b
    · exact absurd rfl some
    · rfl
  | int n =>
    obtain rfl := Option.some.inj number
    refine decide_eq_true fun zero => some ?_
    rw [zero]
    rfl
  | float y =>
    obtain rfl := Option.some.inj number
    exact decide_eq_true some
  | _ => cases number

omit [PyText] in
theorem adjust_ok {entry : PyValue × PyValue} (adjusted : adjust profile entry = .ok resolved) :
    ∃ name current, entry.1 = .str name ∧ profile.lookup name = some current ∧
      widens current entry.2 = false ∧ ∀ key, resolved.lookup key =
        if key = name then some entry.2 else profile.lookup key := by
  unfold adjust at adjusted
  split at adjusted
  next name named =>
    split at adjusted
    next => cases adjusted
    next current found =>
      split at adjusted
      next => cases adjusted
      next within =>
        obtain rfl := Except.ok.inj adjusted
        exact ⟨name, current, named, found, Bool.not_eq_true _ ▸ within, fun key =>
          lookup_set (by rw [found]; rfl)⟩
  next => cases adjusted

-- Each number that is put in place of a limit is positive, and a number was there before.
def Tightens (rendered adjustments : PyDict) (key : PyString) : Prop :=
  ∀ entry ∈ adjustments, entry.1 = .str key → (∃ x, number? entry.2 = some x ∧ 0 < x) ∧
    ∃ current y, rendered.lookup key = some current ∧ number? current = some y

omit [PyText] in
theorem Limited.tighten {current : PyValue} (limited : Limited (some current) (some value'))
    (number : number? value = some x) (positive : 0 < x) (number' : number? value' = some x')
    (within : widens current value = false) : Limited (some value) (some value') := by
  have chain : Narrower x x' := by
    obtain same | ⟨_, _, same, same', z, z', held, held', some, under⟩ := limited
    · obtain rfl := Option.some.inj same
      rw [widens, number, number'] at within
      exact .inr ⟨positive, of_decide_eq_false within⟩
    · obtain rfl := Option.some.inj same
      obtain rfl := Option.some.inj same'
      obtain rfl := Option.some.inj (number'.symm.trans held')
      rw [widens, number, held] at within
      exact Narrower.trans (.inr ⟨positive, of_decide_eq_false within⟩) (.inr ⟨some, under⟩)
  refine .inr ⟨value, value', rfl, rfl, x, x', number, number', positive, ?_⟩
  obtain rfl | ⟨-, under⟩ := chain
  · exact Number.lt_irrefl _
  · exact under

omit [PyText] in
theorem adjusted_limited (adjusted : adjustments.foldlM adjust profile = .ok resolved)
    (limited : Limited (profile.lookup key) (rendered.lookup key))
    (tightens : Tightens rendered adjustments key) :
    Limited (resolved.lookup key) (rendered.lookup key) := by
  induction adjustments generalizing profile with
  | nil => exact Except.ok.inj adjusted ▸ limited
  | cons entry rest ih =>
    rw [List.foldlM_cons] at adjusted
    cases first : adjust profile entry with
    | error raised =>
      rw [first] at adjusted
      cases adjusted
    | ok next =>
      rw [first] at adjusted
      obtain ⟨here, later⟩ := List.forall_mem_cons.mp tightens
      refine ih adjusted ?_ later
      obtain ⟨name, current, named, found, within, looked⟩ := adjust_ok first
      rw [looked]
      split
      next same =>
        obtain rfl := same
        obtain ⟨⟨x, number, positive⟩, old, y, rendered, number'⟩ := here named
        rw [found, rendered] at limited
        rw [rendered]
        exact limited.tighten number positive number' within
      next => exact limited

omit [PyText] in
theorem adjusted_untouched (adjusted : adjustments.foldlM adjust profile = .ok resolved)
    (untouched : ∀ entry ∈ adjustments, entry.1 ≠ .str key) :
    resolved.lookup key = profile.lookup key := by
  induction adjustments generalizing profile with
  | nil => exact Except.ok.inj adjusted ▸ rfl
  | cons entry rest ih =>
    rw [List.foldlM_cons] at adjusted
    cases first : adjust profile entry with
    | error raised =>
      rw [first] at adjusted
      cases adjusted
    | ok next =>
      rw [first] at adjusted
      obtain ⟨here, later⟩ := List.forall_mem_cons.mp untouched
      obtain ⟨name, current, named, -, -, looked⟩ := adjust_ok first
      rw [ih adjusted later, looked, if_neg]
      rintro rfl
      exact here named

-- value or other, as a float
def readFloat (value : PyValue) (other : Number) : Except PyError Number :=
  (orElse value (.float other)).toFloat

theorem readFloat_falsy {order : Number} (falsy : value.truthy = false) :
    readFloat value order = .ok order := by
  rw [readFloat, orElse, falsy]
  rfl

theorem readFloat_float {order : Number} :
    readFloat (.float x) order = .ok (numberOr x order) := by
  rw [readFloat, orElse, numberOr]
  split
  next held => rw [if_neg (of_decide_eq_true held)]; rfl
  next zero => rw [if_pos (not_not.mp fun held => zero (decide_eq_true held))]; rfl

theorem Tightened.readFloat {order order' : Number} (tightened : Tightened value value')
    (read : readFloat value order = .ok f) (read' : readFloat value' order' = .ok f') :
    Narrower f f' := by
  obtain ⟨x, x', number, number', positive, under⟩ := tightened
  have some : x ≠ .finite 0 := by
    rintro rfl
    exact Number.lt_irrefl _ positive
  have some' : x' ≠ .finite 0 := by
    rintro rfl
    exact under positive
  rw [Commit.readFloat, orElse, truthy_number number some] at read
  rw [Commit.readFloat, orElse, truthy_number number' some'] at read'
  rw [toFloat_number number read, toFloat_number number' read']
  exact .inr ⟨positive, under⟩

theorem readFloat_narrower {order order' : Number} (orders : Narrower order order')
    (read : readFloat value order = .ok f) (read' : readFloat value order' = .ok f') :
    Narrower f f' := by
  cases truthy : value.truthy with
  | true =>
    rw [readFloat, orElse, truthy] at read read'
    exact .inl (Except.ok.inj (read.symm.trans read'))
  | false =>
    rw [readFloat_falsy truthy] at read read'
    obtain rfl := Except.ok.inj read
    obtain rfl := Except.ok.inj read'
    exact orders

theorem Limited.readFloat {order order' : Number} {default default' : PyValue}
    (limited : Limited (resolved.lookup key) (rendered.lookup key))
    (orders : Narrower order order')
    (absent : ∀ f f', readFloat default order = .ok f → readFloat default' order' = .ok f' →
      Narrower f f')
    (read : readFloat (getOr resolved key default) order = .ok f)
    (read' : readFloat (getOr rendered key default') order' = .ok f') : Narrower f f' := by
  rw [getOr] at read read'
  obtain same | ⟨value, value', found, found', tightened⟩ := limited
  · rw [same] at read
    cases held : rendered.lookup key with
    | none =>
      rw [held] at read read'
      exact absent f f' read read'
    | some value =>
      rw [held] at read read'
      exact readFloat_narrower orders read read'
  · rw [found] at read
    rw [found'] at read'
    exact tightened.readFloat read read'

theorem profileToHardCaps_ok {caps : Caps} (capped : profileToHardCaps profile = .ok caps) :
    ∃ funding,
      leverageOf (getOr profile "leverage" (.str "none")) = .ok caps.maxLeverage ∧
      (orElse (profile.get "instruments") (.list [.str "equity"])).iter =
        .ok caps.allowedInstruments ∧
      readFloat (getOr profile "account_funding_usd"
        (getOr profile "max_total_exposure_usd" (.float 0))) 0 = .ok funding ∧
      readFloat (getOr profile "max_order_usd" (.float 0)) 0 = .ok caps.maxOrderNotionalUsd ∧
      readFloat (getOr profile "max_total_exposure_usd"
        (.float (numberOr funding caps.maxOrderNotionalUsd))) caps.maxOrderNotionalUsd =
          .ok caps.maxTotalExposureUsd ∧
      caps.accountFundingUsd = numberOr funding caps.maxTotalExposureUsd ∧
      (orElse (getOr profile "daily_trade_cap" (.int 0)) (.int 0)).toInt =
        .ok caps.maxTradesPerDay := by
  unfold profileToHardCaps at capped
  obtain ⟨leverage, leveraged, capped⟩ := Outcome.bind_ok.mp capped
  obtain ⟨instruments, listed, capped⟩ := Outcome.bind_ok.mp capped
  obtain ⟨funding, funded, capped⟩ := Outcome.bind_ok.mp capped
  obtain ⟨order, ordered, capped⟩ := Outcome.bind_ok.mp capped
  obtain ⟨exposure, exposed, capped⟩ := Outcome.bind_ok.mp capped
  obtain ⟨trades, traded, capped⟩ := Outcome.bind_ok.mp capped
  obtain rfl := Except.ok.inj capped
  exact ⟨funding, leveraged, listed, funded, ordered, exposed, rfl, traded⟩

omit [PyText] in
theorem number_present (number : number? value = some x) :
    (value.isKey "none" || value.isNone) = false := by
  cases value with
  | bool b => rfl
  | int n => rfl
  | float y => rfl
  | _ => cases number

theorem Limited.leverage {default : PyValue}
    (limited : Limited (resolved.lookup key) (rendered.lookup key))
    (read : leverageOf (getOr resolved key default) = .ok f)
    (read' : leverageOf (getOr rendered key default) = .ok f') : Narrower f f' := by
  rw [getOr] at read read'
  obtain same | ⟨value, value', found, found', x, x', number, number', positive, under⟩ := limited
  · rw [same] at read
    exact .inl (Except.ok.inj (read.symm.trans read'))
  · rw [found, Option.getD_some, leverageOf, number_present number] at read
    rw [found', Option.getD_some, leverageOf, number_present number'] at read'
    rw [toFloat_number number read, toFloat_number number' read']
    exact .inr ⟨positive, under⟩

theorem toInt_number {n : Int} (number : number? value = some x) (read : value.toInt = .ok n) :
    ∃ q : ℚ, x = .finite q ∧ n = Int.tdiv q.num q.den := by
  cases value with
  | bool b =>
    obtain rfl := Option.some.inj number
    obtain rfl := Except.ok.inj read
    cases b
    · exact ⟨0, rfl, rfl⟩
    · exact ⟨1, rfl, rfl⟩
  | int m =>
    obtain rfl := Option.some.inj number
    obtain rfl := Except.ok.inj read
    exact ⟨m, rfl, (Int.tdiv_one m).symm⟩
  | float y =>
    obtain rfl := Option.some.inj number
    rw [PyValue.toInt] at read
    cases y with
    | finite q => exact ⟨q, rfl, (Except.ok.inj read).symm⟩
    | nan => cases read
    | negInf => cases read
    | posInf => cases read
  | _ => cases number

omit [PyText] in
theorem trunc_mono {q q' : ℚ} (nonneg : 0 ≤ q) (under : q ≤ q') :
    Int.tdiv q.num q.den ≤ Int.tdiv q'.num q'.den := by
  rw [Int.tdiv_eq_ediv_of_nonneg (Rat.num_nonneg.mpr nonneg),
    Int.tdiv_eq_ediv_of_nonneg (Rat.num_nonneg.mpr (nonneg.trans under)), ← Rat.floor_def,
    ← Rat.floor_def]
  exact Int.floor_le_floor under

theorem Limited.trades {default other : PyValue} {n n' : Int}
    (limited : Limited (resolved.lookup key) (rendered.lookup key))
    (read : (orElse (getOr resolved key default) other).toInt = .ok n)
    (read' : (orElse (getOr rendered key default) other).toInt = .ok n') : n ≤ n' := by
  rw [getOr] at read read'
  obtain same | ⟨value, value', found, found', x, x', number, number', positive, under⟩ := limited
  · rw [same] at read
    exact (Except.ok.inj (read.symm.trans read')).le
  · have some : x ≠ .finite 0 := by
      rintro rfl
      exact Number.lt_irrefl _ positive
    have some' : x' ≠ .finite 0 := by
      rintro rfl
      exact under positive
    rw [found, Option.getD_some, orElse, truthy_number number some] at read
    rw [found', Option.getD_some, orElse, truthy_number number' some'] at read'
    obtain ⟨q, rfl, rfl⟩ := toInt_number number read
    obtain ⟨q', rfl, rfl⟩ := toInt_number number' read'
    rw [Number.finite_lt, not_lt] at under
    exact trunc_mono (Number.finite_lt.mp positive).le under

def limitKeys : List PyString :=
  ["account_funding_usd", "max_order_usd", "max_total_exposure_usd", "leverage", "daily_trade_cap"]

def universeKeys : List PyString :=
  ["instruments", "asset_classes", "min_market_cap_usd", "min_avg_daily_volume_usd",
    "exclude_symbols"]

theorem caps_narrower {caps caps' : Caps} (capped : profileToHardCaps resolved = .ok caps)
    (capped' : profileToHardCaps rendered = .ok caps')
    (limits : ∀ key ∈ limitKeys, Limited (resolved.lookup key) (rendered.lookup key)) :
    Narrower caps.accountFundingUsd caps'.accountFundingUsd ∧
      Narrower caps.maxOrderNotionalUsd caps'.maxOrderNotionalUsd ∧
      Narrower caps.maxTotalExposureUsd caps'.maxTotalExposureUsd ∧
      Narrower caps.maxLeverage caps'.maxLeverage ∧
      caps.maxTradesPerDay ≤ caps'.maxTradesPerDay := by
  obtain ⟨funding, leveraged, -, funded, ordered, exposed, mirrored, traded⟩ :=
    profileToHardCaps_ok capped
  obtain ⟨funding', leveraged', -, funded', ordered', exposed', mirrored', traded'⟩ :=
    profileToHardCaps_ok capped'
  have zero : Narrower 0 0 := .inl rfl
  have constant {value : PyValue} : ∀ f f', readFloat value 0 = .ok f → readFloat value 0 = .ok f' →
      Narrower f f' := fun _ _ => readFloat_narrower zero
  have exposureLimit := limits "max_total_exposure_usd" (by decide)
  have orders : Narrower caps.maxOrderNotionalUsd caps'.maxOrderNotionalUsd :=
    (limits "max_order_usd" (by decide)).readFloat zero constant ordered ordered'
  have fundings : Narrower funding funding' :=
    (limits "account_funding_usd" (by decide)).readFloat zero
      (fun _ _ => exposureLimit.readFloat zero constant) funded funded'
  have exposures : Narrower caps.maxTotalExposureUsd caps'.maxTotalExposureUsd := by
    refine exposureLimit.readFloat orders (fun f f' read read' => ?_) exposed exposed'
    obtain rfl := Except.ok.inj (read.symm.trans readFloat_float)
    obtain rfl := Except.ok.inj (read'.symm.trans readFloat_float)
    exact numberOr_narrower (numberOr_narrower fundings orders) orders
  refine ⟨?_, orders, exposures, (limits "leverage" (by decide)).leverage leveraged leveraged',
    (limits "daily_trade_cap" (by decide)).trades traded traded'⟩
  rw [mirrored, mirrored']
  exact numberOr_narrower fundings exposures

end Adjusting

-- Adjustments of limits by positive numbers, and of nothing else that the mandate goes by
structure Narrowing (rendered adjustments : PyDict) : Prop where
  limits : ∀ key ∈ limitKeys, Tightens rendered adjustments key
  others : ∀ key ∈ universeKeys, ∀ entry ∈ adjustments, entry.1 ≠ .str key

def Request.unadjusted (request : Request) : Request := { request with adjustments := none }

section Narrows

variable [PyText] {request : Request} {proposal resolved rendered : PyDict} {draft draft' : Draft}
  {mandate mandate' : Mandate}

theorem mandateOf_doc (loaded : mandateOf (draft.mandateDoc request) = .ok (some mandate)) :
    ∃ instruments, draft.caps.allowedInstruments.mapM instrumentTypeOf = .ok instruments ∧
      mandate.hardCaps = draft.caps.hardCaps instruments ∧
      parseUniverse draft.universeSection = .ok mandate.universeConstraint := by
  unfold mandateOf at loaded
  split at loaded
  next parsed =>
    obtain rfl := Option.some.inj (Except.ok.inj loaded)
    rw [parseMandate_doc, parseHardCaps_document] at parsed
    obtain ⟨hardCaps, capped, parsed⟩ := Outcome.bind_ok.mp parsed
    obtain ⟨constraint, permitted, parsed⟩ := Outcome.bind_ok.mp parsed
    obtain ⟨instruments, listed, rfl⟩ := Outcome.map_ok.mp capped
    obtain rfl := Except.ok.inj parsed
    exact ⟨instruments, listed, rfl, permitted⟩
  all_goals cases loaded

theorem resolve_profile (fits : request.resolve proposal = .ok resolved) :
    ∃ profiles profile, (orElse (proposal.get "profiles") (.list [])).iter = .ok profiles ∧
      findProfile request.ordinal profiles = .ok (some profile) ∧
      (request.adjustments.getD []).foldlM adjust profile = .ok resolved := by
  obtain ⟨found, chosen, fits⟩ := Outcome.bind_ok.mp fits
  obtain ⟨ceilings, -, fits⟩ := Outcome.bind_ok.mp fits
  split at fits
  next =>
    obtain rfl := Except.ok.inj fits
    obtain ⟨profiles, listed, chosen⟩ := Outcome.bind_ok.mp chosen
    obtain ⟨match_, found, chosen⟩ := Outcome.bind_ok.mp chosen
    cases match_ with
    | none => cases chosen
    | some profile => exact ⟨profiles, profile, listed, found, chosen⟩
  next => cases fits

theorem resolve_adjusted (fits : request.resolve proposal = .ok resolved)
    (fits' : request.unadjusted.resolve proposal = .ok rendered) :
    (request.adjustments.getD []).foldlM adjust rendered = .ok resolved := by
  obtain ⟨profiles, profile, listed, found, adjusted⟩ := resolve_profile fits
  obtain ⟨profiles', profile', listed', found', same⟩ := resolve_profile fits'
  obtain rfl := Except.ok.inj (listed.symm.trans listed')
  obtain rfl := Option.some.inj (Except.ok.inj (found.symm.trans found'))
  obtain rfl := Except.ok.inj same
  exact adjusted

omit [PyText] in
theorem profileToUniverse_congr
    (same : ∀ key ∈ universeKeys, resolved.lookup key = rendered.lookup key) :
    profileToUniverse resolved = profileToUniverse rendered := by
  have got : ∀ key ∈ universeKeys, resolved.get key = rendered.get key := fun key listed =>
    congrArg (Option.getD · PyValue.none) (same key listed)
  rw [profileToUniverse, profileToUniverse, got "asset_classes" (by decide),
    got "exclude_symbols" (by decide), got "min_market_cap_usd" (by decide),
    got "min_avg_daily_volume_usd" (by decide)]

/-- A commit whose adjustments put positive numbers in place of limits that are numbers, and touch
nothing else that the mandate is made of, authorizes no order that the same commit without them
would not have authorized. -/
theorem adjusted_commit_narrows {files : Files} {key : PyString}
    (approved : Approved request files key proposal resolved draft)
    (approved' : Approved request.unadjusted files key proposal rendered draft')
    (narrowing : Narrowing rendered (request.adjustments.getD []))
    (loaded : mandateOf (draft.mandateDoc request) = .ok (some mandate))
    (loaded' : mandateOf (draft'.mandateDoc request.unadjusted) = .ok (some mandate'))
    (loaders : Loaders) (intent : OrderIntent) (positions balance : PyValue)
    (context : CheckContext)
    (allowed : checkMandate loaders mandate intent positions balance context = .ok none) :
    checkMandate loaders mandate' intent positions balance context = .ok none := by
  have adjusted := resolve_adjusted approved.fits approved'.fits
  have untouched : ∀ key ∈ universeKeys, resolved.lookup key = rendered.lookup key :=
    fun key listed => adjusted_untouched adjusted (narrowing.others key listed)
  obtain ⟨fundings, orders, exposures, leverages, trades⟩ :=
    caps_narrower approved.caps approved'.caps fun key listed =>
      adjusted_limited adjusted (.inl rfl) (narrowing.limits key listed)
  obtain ⟨instruments, listed, capped, permitted⟩ := mandateOf_doc loaded
  obtain ⟨instruments', listed', capped', permitted'⟩ := mandateOf_doc loaded'
  have sections : draft.universeSection = draft'.universeSection := by
    have same := profileToUniverse_congr untouched
    rw [approved.permitted, approved'.permitted] at same
    exact Except.ok.inj same
  have kinds : draft.caps.allowedInstruments = draft'.caps.allowedInstruments := by
    obtain ⟨_, -, taken, -⟩ := profileToHardCaps_ok approved.caps
    obtain ⟨_, -, taken', -⟩ := profileToHardCaps_ok approved'.caps
    have same : resolved.get "instruments" = rendered.get "instruments" :=
      congrArg (Option.getD · PyValue.none) (untouched "instruments" (by decide))
    rw [same] at taken
    exact Except.ok.inj (taken.symm.trans taken')
  rw [kinds] at listed
  obtain rfl := Except.ok.inj (listed.symm.trans listed')
  rw [sections] at permitted
  have narrower : NarrowerMandate mandate mandate' := by
    refine ⟨?_, ?_, ?_, ?_, ?_, ?_, Except.ok.inj (permitted.symm.trans permitted')⟩
    all_goals rw [capped, capped']
    · exact fundings
    · exact orders
    · exact exposures
    · exact leverages
    · exact trades
    · rfl
  rw [checkMandate_allow] at allowed ⊢
  obtain ⟨notional, exposure, resolved, read, admits⟩ := allowed
  exact ⟨notional, exposure, resolved, read, narrower.admits admits⟩

end Narrows

section Histories

variable [PyText] [Stamping]

/-- Wherever a commit fails or its process dies, it has done nothing to the files, or written the
mandate of an approved request, or also its consent record, or also removed the proposal. What it
returns after all three loads as a mandate with the limits of the resolved profile; one that raises
leaves every proposal. -/
theorem commit_stages {world after : World} {request : Request} {ending : Ending PyError PyDict}
    (plays : Plays liveSurroundings world (commitMandate request) after ending) :
    Reached request world.files after.files ∧
      (∀ answer, ending = .returned answer → ∃ key proposal resolved draft,
        Approved request world.files key proposal resolved draft ∧
          after.files = spent request key proposal resolved draft world.files ∧
          answer = summary request draft resolved ∧
          ∀ mandate, (after.files (.mandate key)).map mandateOf = some (.ok (some mandate)) →
            ∃ instruments, draft.caps.allowedInstruments.mapM instrumentTypeOf = .ok instruments ∧
              mandate.hardCaps = draft.caps.hardCaps instruments) ∧
      ∀ raised, ending = .raised raised → Failed request world.files after.files := by
  obtain ⟨reached, done, failed⟩ := (commit_safe rfl).plays plays
  refine ⟨reached, fun answer returned => ?_, failed⟩
  obtain ⟨key, proposal, resolved, draft, approved, files, told⟩ := done answer returned
  refine ⟨key, proposal, resolved, draft, approved, files, told, fun mandate loaded => ?_⟩
  rw [files, spent_mandate, if_pos rfl, Option.map_some] at loaded
  obtain ⟨instruments, listed, capped, -⟩ := mandateOf_doc (Option.some.inj loaded)
  exact ⟨instruments, listed, capped⟩

structure Attempt where
  request : Request
  before : World
  after : World
  ending : Ending PyError PyDict

-- Calls one after the other, and what others do to the files in between
inductive History (others : Files → Files → Prop) (start : World) :
    List Attempt → World → Prop where
  | nil : History others start [] start
  | other {past : List Attempt} {world next : World} (history : History others start past world)
      (moved : others world.files next.files) : History others start past next
  | commit {past : List Attempt} {t : Attempt} (history : History others start past t.before)
      (plays : Plays liveSurroundings t.before (commitMandate t.request) t.after t.ending) :
      History others start (past ++ [t]) t.after

def Attempt.Names (t : Attempt) (key proposalId : PyString) : Prop :=
  brokerDir t.request.broker = .ok key ∧ t.request.proposalId = proposalId

def Attempt.Returned (t : Attempt) : Prop := ∃ answer, t.ending = .returned answer

variable {others : Files → Files → Prop} {start world : World} {past : List Attempt} {t : Attempt}
  {key proposalId : PyString}

theorem Attempt.gone (plays : Plays liveSurroundings t.before (commitMandate t.request) t.after
    t.ending) (gone : t.before.files (.proposal key proposalId) = none) :
    t.after.files (.proposal key proposalId) = none ∧
      (t.Names key proposalId → t.after.files = t.before.files ∧ ¬ t.Returned) := by
  obtain ⟨reached, done, -⟩ := (commit_safe rfl).plays plays
  have foreign {key' : PyString} {proposal resolved : PyDict} {draft : Draft}
      (approved : Approved t.request t.before.files key' proposal resolved draft)
      (names : t.Names key proposalId) : False := by
    obtain rfl := Except.ok.inj (names.1.symm.trans approved.keyed)
    have live := approved.live
    rw [names.2, gone] at live
    cases live
  constructor
  · obtain same | ⟨key', proposal, resolved, draft, -, same | same | same⟩ := reached
    · rw [same, gone]
    · rw [same, mandated_proposal, gone]
    · rw [same, recorded_proposal, gone]
    · rw [same, spent_proposal, gone, ite_self]
  · intro names
    refine ⟨?_, fun ⟨answer, returned⟩ => ?_⟩
    · obtain same | ⟨_, _, _, _, approved, -⟩ := reached
      · exact same
      · exact (foreign approved names).elim
    · obtain ⟨_, _, _, _, approved, -⟩ := done answer returned
      exact foreign approved names

theorem Attempt.spends (plays : Plays liveSurroundings t.before (commitMandate t.request) t.after
    t.ending) (names : t.Names key proposalId) (returned : t.Returned) :
    t.after.files (.proposal key proposalId) = none := by
  obtain ⟨answer, returned⟩ := returned
  obtain ⟨key', _, _, _, approved, files, -⟩ := ((commit_safe rfl).plays plays).2.1 answer returned
  obtain rfl := Except.ok.inj (names.1.symm.trans approved.keyed)
  rw [files, spent_proposal, if_pos ⟨rfl, names.2.symm⟩]

/-- A proposal whose commit has returned is never committed again: a later commit of it leaves the
files as they are, and fails or dies. -/
theorem committed_once (history : History others start past world)
    (unsaved : ∀ before after, others before after → before (.proposal key proposalId) = none →
      after (.proposal key proposalId) = none) :
    past.Pairwise fun first second =>
      first.Names key proposalId → second.Names key proposalId → first.Returned →
        second.after.files = second.before.files ∧ ¬ second.Returned := by
  suffices held : ((∃ t ∈ past, t.Names key proposalId ∧ t.Returned) →
      world.files (.proposal key proposalId) = none) ∧ past.Pairwise _ from held.2
  induction history with
  | nil => exact ⟨fun ⟨_, member, _⟩ => absurd member List.not_mem_nil, .nil⟩
  | other history moved ih => exact ⟨fun spent => unsaved _ _ moved (ih.1 spent), ih.2⟩
  | @commit past t history plays ih =>
    obtain ⟨gone, apart⟩ := ih
    refine ⟨fun ⟨other, member, names, returned⟩ => ?_, List.pairwise_append.mpr
      ⟨apart, List.pairwise_singleton _ _, fun first earlier last here names named returned => ?_⟩⟩
    · obtain earlier | here := List.mem_append.mp member
      · exact (Attempt.gone plays (gone ⟨other, earlier, names, returned⟩)).1
      · obtain rfl := List.mem_singleton.mp here
        exact Attempt.spends plays names returned
    · obtain rfl := List.mem_singleton.mp here
      exact (Attempt.gone plays (gone ⟨first, earlier, names, returned⟩)).2 named

def Attempt.Wrote (t : Attempt) (key : PyString) (document : PyValue) : Prop :=
  ∃ proposal resolved draft, Approved t.request t.before.files key proposal resolved draft ∧
    document = draft.mandateDoc t.request ∧
    (t.Returned → t.after.files (.consent key draft.consentRecordId) =
      some (draft.consentRecord t.request proposal resolved))

theorem Attempt.wrote {document : PyValue} (plays : Plays liveSurroundings t.before
    (commitMandate t.request) t.after t.ending)
    (active : t.after.files (.mandate key) = some document) :
    t.before.files (.mandate key) = some document ∨ t.Wrote key document := by
  obtain ⟨reached, done, -⟩ := (commit_safe rfl).plays plays
  by_cases ended : t.Returned
  · obtain ⟨answer, returned⟩ := id ended
    obtain ⟨key', proposal, resolved, draft, approved, files, -⟩ := done answer returned
    rw [files, spent_mandate] at active
    split at active
    next same =>
      subst same
      exact .inr ⟨proposal, resolved, draft, approved, (Option.some.inj active).symm,
        fun _ => files ▸ spent_consent⟩
    next => exact .inl active
  · have told {key' : PyString} {proposal resolved : PyDict} {draft : Draft}
        (approved : Approved t.request t.before.files key' proposal resolved draft)
        (active : (if key = key' then some (draft.mandateDoc t.request)
          else t.before.files (.mandate key)) = some document) :
        t.before.files (.mandate key) = some document ∨ t.Wrote key document := by
      split at active
      next same =>
        subst same
        exact .inr ⟨proposal, resolved, draft, approved, (Option.some.inj active).symm,
          fun returned => absurd returned ended⟩
      next => exact .inl active
    obtain same | ⟨key', proposal, resolved, draft, approved, same | same | same⟩ := reached
    · exact .inl (same ▸ active)
    · exact told approved (mandated_mandate ▸ same ▸ active)
    · exact told approved (recorded_mandate ▸ same ▸ active)
    · exact told approved (spent_mandate ▸ same ▸ active)

/-- Where no mandate was there at first, every mandate on the disk is the one that a commit wrote of a
request with `consentAck`, and if that commit returned, then with its consent record. -/
theorem mandates_consented (history : History others start past world)
    (bare : ∀ key, start.files (.mandate key) = none)
    (unwritten : ∀ before after, others before after → ∀ key,
      after (.mandate key) = before (.mandate key) ∨ after (.mandate key) = none)
    {document : PyValue} (active : world.files (.mandate key) = some document) :
    ∃ t ∈ past, t.request.consentAck = true ∧ t.Wrote key document := by
  induction history with
  | nil =>
    rw [bare key] at active
    cases active
  | other history moved ih =>
    obtain same | gone := unwritten _ _ moved key
    · exact ih (same ▸ active)
    · rw [gone] at active
      cases active
  | @commit past t history plays ih =>
    obtain before | wrote := Attempt.wrote plays active
    · obtain ⟨other, member, rest⟩ := ih before
      exact ⟨other, List.mem_append_left _ member, rest⟩
    · obtain ⟨_, _, _, approved, -⟩ := id wrote
      exact ⟨t, List.mem_append_right _ (List.mem_singleton_self t), approved.consent, wrote⟩

end Histories

section Sample

def World.play {α : Type} (script : (op : Operation) → op.Reply) :
    World → Program α → World × Ending PyError α
  | world, .done value => (world, .returned value)
  | world, .raise error => (world, .raised error)
  | world, .perform op next =>
    World.play script (world.pick script op).2 (next (world.pick script op).1)

theorem World.plays {α : Type} (script : (op : Operation) → op.Reply) (world : World)
    (x : Program α) : Plays liveSurroundings world x (play script world x).1
      (play script world x).2 := by
  induction x generalizing world with
  | done value => exact .done value
  | raise error => exact .raise error
  | perform op next ih => exact .perform _ (World.pick_answers script world op) (ih _ _)

def isReturned {α : Type} : Ending PyError α → Bool
  | .returned _ => true
  | _ => false

@[reducible] def sampleStamping : Stamping where
  sha256 _ := ⟨"digest", by decide⟩
  later _ _ := .ok ⟨"2026-07-01T00:00:00+00:00", by decide⟩

def sampleAnswers : (op : Operation) → op.Reply
  | .readJson _ => .ok none
  | .pathExists _ => false
  | .writeTmp _ _ => .ok ()
  | .replaceTmp _ => .ok ()
  | .unlink _ => .ok ()
  | .utcNow => ⟨0, ⟨"2026-06-01T00:00:00+00:00", by decide⟩, noText⟩
  | .newId => noText
  | .callTool _ _ => .ok .none
  | .getQuote _ => none
  | .connectorRead _ => none
  | .lastClose _ _ => .ok none
  | .getenvAdvisory => .empty
  | .advisoryProviders => []
  | .review _ _ => .error .other
  | .forward _ => .ok .none
  | .appendLedger _ => ()

def sampleId : PyString := "mp_0123456789abcdef0123456789abcdef"

def sampleProfile : PyDict :=
  fields [("ordinal", .int 1), ("max_order_usd", .float (.finite 500)),
    ("max_total_exposure_usd", .float (.finite 1000)), ("daily_trade_cap", .int 4),
    ("leverage", .str "none")]

def sampleProposal : PyDict :=
  fields [("profiles", .list [.dict sampleProfile]),
    ("ceilings", .dict (fields [("max_order_notional_usd", .float (.finite 500))]))]

def sampleFiles : Files :=
  Function.update (fun _ => none) (.proposal "robinhood" sampleId) (some (.dict sampleProposal))

def sampleWorld : World := ⟨sampleFiles, fun _ => none, 0, noText⟩

def sampleRequest : Request where
  proposalId := sampleId
  ordinal := 1
  adjustments := some (fields [("max_order_usd", .float (.finite 250))])
  consentAck := true
  broker := "Robinhood"

theorem sample_returns :
    let _ := asciiText
    let _ := sampleStamping
    isReturned (World.play sampleAnswers sampleWorld (commitMandate sampleRequest)).2 = true := by
  decide +kernel

theorem sample_plays :
    let _ := asciiText
    let _ := sampleStamping
    ∃ after answer, Plays liveSurroundings sampleWorld (commitMandate sampleRequest) after
      (.returned answer) := by
  intro _ _
  have plays := World.plays sampleAnswers sampleWorld (commitMandate sampleRequest)
  have returns := sample_returns
  dsimp only at returns
  cases ending : (World.play sampleAnswers sampleWorld (commitMandate sampleRequest)).2 with
  | returned answer => exact ⟨_, answer, ending ▸ plays⟩
  | raised error =>
    rw [ending] at returns
    cases returns
  | died =>
    rw [ending] at returns
    cases returns

theorem sample_keyed :
    let _ := asciiText
    brokerDir sampleRequest.broker = .ok "robinhood" := by
  decide +kernel

theorem commit_stages_sample :
    let _ := asciiText
    let _ := sampleStamping
    ∃ (after : World) (proposal resolved : PyDict) (draft : Draft),
      Approved sampleRequest sampleFiles "robinhood" proposal resolved draft ∧
        after.files = spent sampleRequest "robinhood" proposal resolved draft sampleFiles := by
  intro _ _
  obtain ⟨after, answer, plays⟩ := sample_plays
  obtain ⟨-, done, -⟩ := commit_stages plays
  obtain ⟨key, proposal, resolved, draft, approved, files, -⟩ := done answer rfl
  obtain rfl := Except.ok.inj (approved.keyed.symm.trans sample_keyed)
  exact ⟨after, proposal, resolved, draft, approved, files⟩

-- Nothing else happens to the files.
theorem committed_once_sample :
    let _ := asciiText
    let _ := sampleStamping
    ∃ first second : Attempt, History (fun before after => after = before) sampleWorld
        [first, second] second.after ∧
      first.Returned ∧ first.request = second.request ∧ ¬ second.Returned := by
  intro _ _
  obtain ⟨after, answer, plays⟩ := sample_plays
  have once : History (fun before after => after = before) sampleWorld _ _ :=
    .commit (t := ⟨sampleRequest, sampleWorld, after, .returned answer⟩) .nil plays
  have twice := once.commit (t := ⟨sampleRequest, after, _, _⟩)
    (World.plays sampleAnswers after (commitMandate sampleRequest))
  have apart := @committed_once _ _ _ _ _ _ "robinhood" sampleId twice
    fun _ _ same gone => same ▸ gone
  have pair := (List.pairwise_cons.mp apart).1 _ (List.mem_singleton_self _)
  exact ⟨_, _, twice, ⟨answer, rfl⟩, rfl,
    (pair ⟨sample_keyed, rfl⟩ ⟨sample_keyed, rfl⟩ ⟨answer, rfl⟩).2⟩

theorem mandates_consented_sample :
    let _ := asciiText
    let _ := sampleStamping
    ∃ (t : Attempt) (document : PyValue),
      t.after.files (.mandate "robinhood") = some document ∧ t.Wrote "robinhood" document := by
  intro _ _
  obtain ⟨after, answer, plays⟩ := sample_plays
  have once : History (fun before after => after = before) sampleWorld _ _ :=
    .commit (t := ⟨sampleRequest, sampleWorld, after, .returned answer⟩) .nil plays
  obtain ⟨key, proposal, resolved, draft, approved, files, -⟩ :=
    ((commit_safe rfl).plays plays).2.1 answer rfl
  obtain rfl := Except.ok.inj (approved.keyed.symm.trans sample_keyed)
  have active : after.files (.mandate "robinhood") = some (draft.mandateDoc sampleRequest) := by
    rw [files, spent_mandate, if_pos rfl]
  have bare (key : PyString) : sampleWorld.files (.mandate key) = none := by
    have different : LivePath.mandate key ≠ .proposal "robinhood" sampleId := nofun
    exact Function.update_of_ne different (some (.dict sampleProposal)) fun _ => none
  obtain ⟨t, member, -, wrote⟩ :=
    mandates_consented once bare (fun _ _ same _ => .inl (congrFun same _)) active
  obtain rfl := List.mem_singleton.mp member
  exact ⟨_, _, active, wrote⟩

def sampleDraft (order : ℚ) : Draft where
  mandateId := "mandate_"
  consentRecordId := "cr_"
  consentToken := "digest"
  createdIso := "2026-06-01T00:00:00Z"
  expiresIso := "2026-07-01T00:00:00Z"
  flatten := false
  caps := ⟨.finite 1000, .finite order, .finite 1000, .finite 1, [.str "equity"], 4⟩
  universeSection := fields [("asset_classes", .list [.str "us_equity"]),
    ("min_market_cap_usd", .none), ("min_avg_daily_volume_usd", .none),
    ("exclude_symbols", .list [])]

def sampleMandate (order : ℚ) : Mandate where
  schemaVersion := 1
  hardCaps := (sampleDraft order).caps.hardCaps [.equity]
  universeConstraint := ⟨[.usEquity], none, none, []⟩
  consent := (sampleDraft order).consent sampleRequest

def buyHundred : OrderIntent := ⟨"AAPL", "buy", some (.finite 100), none, .equity, none⟩

theorem adjusted_commit_narrows_sample :
    let _ := asciiText
    checkMandate ⟨fun _ _ => none, fun _ _ => none⟩ (sampleMandate 500) buyHundred (.list []) .none
      ⟨"robinhood", "place_order", .empty, 0⟩ = .ok none := by
  intro _
  have adjusted : Approved sampleRequest sampleFiles "robinhood" sampleProposal
      (PyDict.set sampleProfile "max_order_usd" (.float (.finite 250))) (sampleDraft 250) :=
    ⟨rfl, sample_keyed, rfl, rfl, rfl, rfl⟩
  have unadjusted : Approved sampleRequest.unadjusted sampleFiles "robinhood" sampleProposal
      sampleProfile (sampleDraft 500) := ⟨rfl, sample_keyed, rfl, rfl, rfl, rfl⟩
  have narrowing : Narrowing sampleProfile (sampleRequest.adjustments.getD []) := by
    constructor
    · intro key _ entry member told
      obtain rfl := List.mem_singleton.mp member
      obtain rfl := PyValue.str.inj told
      exact ⟨⟨.finite 250, rfl, by decide +kernel⟩, .float (.finite 500), .finite 500, rfl, rfl⟩
    · intro key listed entry member told
      obtain rfl := List.mem_singleton.mp member
      obtain rfl := PyValue.str.inj told
      exact absurd listed (by decide)
  have loaded : mandateOf ((sampleDraft 250).mandateDoc sampleRequest) =
      .ok (some (sampleMandate 250)) := rfl
  have loaded' : mandateOf ((sampleDraft 500).mandateDoc sampleRequest.unadjusted) =
      .ok (some (sampleMandate 500)) := rfl
  have allowed : isAllow (checkMandate ⟨fun _ _ => none, fun _ _ => none⟩ (sampleMandate 250)
      buyHundred (.list []) .none ⟨"robinhood", "place_order", .empty, 0⟩) = true := by
    decide +kernel
  exact adjusted_commit_narrows adjusted unadjusted narrowing loaded loaded' _ _ _ _ _
    (isAllow_iff.mp allowed)

end Sample

end SynapseYield.Live.Commit
