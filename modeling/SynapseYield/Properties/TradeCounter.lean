import SynapseYield.Properties.HaltedForwards

set_option autoImplicit false

namespace SynapseYield.Live

open Shared

inductive CountStage where
  | before
  | reading (entries : PyDict)
  | counted (count : Int)
  | refused
  | placed
  | dated (today : AsciiString)
  | rereading (today : AsciiString) (entries : PyDict)
  | recounted (today : AsciiString) (count : Int)
  | written (today : AsciiString) (count : Int)
  | recorded
  | failed

structure CountPhase where
  confirms : Except Failure PyValue → Bool
  mandate : Option Mandate
  stage : CountStage

def CountPhase.at (phase : CountPhase) (stage : CountStage) : CountPhase := { phase with stage }

@[simp] theorem CountPhase.at_stage (phase : CountPhase) (stage : CountStage) :
    (phase.at stage).stage = stage := rfl

@[simp] theorem CountPhase.at_mandate (phase : CountPhase) (stage : CountStage) :
    (phase.at stage).mandate = phase.mandate := rfl

-- The count that a read of the counter's file gives, or the document that has it.
def counterRead (onDocument : PyDict → CountStage) (onCount : Int → CountStage) :
    Except PyError (Option PyValue) → CountStage
  | .ok (some (.dict entries)) => onDocument entries
  | .ok _ => onCount 0
  | .error .osError => onCount 0
  | .error .valueError => onCount 0
  | .error _ => .failed

def counterDated (onCount : Int → CountStage) : Except PyError Int → CountStage
  | .ok count => onCount count
  | .error _ => .failed

def Ended : CountStage → Prop
  | .before => True
  | .counted _ => True
  | .refused => True
  | .recorded => True
  | .failed => True
  | .recounted _ count => printable (count + 1) = false
  | _ => False

def Resting : CountStage → Prop
  | .before => True
  | .counted _ => True
  | .refused => True
  | .recorded => True
  | _ => False

theorem Resting.ended {stage : CountStage} (resting : Resting stage) : Ended stage := by
  cases stage <;> trivial

-- Operations away from the files and the broker. Those of an audit write its row's id first.
def elsewhere : Operation → Prop
  | .readJson _ => False
  | .writeTmp _ _ => False
  | .replaceTmp _ => False
  | .unlink _ => False
  | .forward _ => False
  | .newId => False
  | _ => True

theorem reads_elsewhere (op : Operation) (reads : op.reads) : elsewhere op := by
  cases op <;> trivial

theorem advises_elsewhere (op : Operation) (advises : op.advises) : elsewhere op := by
  cases op <;> trivial

section Protocol

variable [PyText]

def mandateRead : Except PyError (Option PyValue) → Option Mandate
  | .ok (some raw) => match mandateOf raw with
    | .ok mandate => mandate
    | .error _ => none
  | _ => none

-- An order is forwarded under a count that the cap still admits; once it is placed, the counter is
-- read again and written.
def countProtocol (key : PyString) : Protocol Operation.Reply where
  Phase := CountPhase
  allows phase op := match op with
    | .readJson (.mandate broker) => broker = key ∧ phase.stage = .before
    | .readJson (.tradeCounter broker) =>
      broker = key ∧ (phase.stage = .before ∨ ∃ today, phase.stage = .dated today)
    | .readJson _ => False
    | .forward _ => ∃ mandate count, phase.mandate = some mandate ∧ phase.stage = .counted count ∧
      count + 1 ≤ mandate.hardCaps.maxTradesPerDay
    | .writeTmp path document => ∃ today count, phase.stage = .recounted today count ∧
      path = .tradeCounter key ∧ document = counterDocument today (count + 1)
    | .replaceTmp path => ∃ today count, phase.stage = .written today count ∧
      path = .tradeCounter key
    | .unlink _ => False
    | _ => True
  next phase op := match op with
    | .readJson (.mandate _) => fun reply => { phase with mandate := mandateRead reply }
    | .readJson (.tradeCounter _) => fun reply => phase.at (match phase.stage with
      | .before => counterRead .reading .counted reply
      | .dated today => counterRead (.rereading today) (.recounted today) reply
      | stage => stage)
    | .utcNow => fun now => phase.at (match phase.stage with
      | .reading entries => counterDated .counted (countOf entries now.date)
      | .placed => .dated now.date
      | .rereading today entries => counterDated (.recounted today) (countOf entries now.date)
      | stage => stage)
    | .forward _ => fun reply => phase.at (match phase.stage with
      | .counted _ => if phase.confirms reply then .placed else .refused
      | stage => stage)
    | .newId => fun _ => phase.at (match phase.stage with
      | .counted _ => .refused
      | stage => stage)
    | .writeTmp _ _ => fun reply => phase.at (match phase.stage, reply with
      | .recounted today count, .ok _ => .written today count
      | .recounted _ _, .error _ => .failed
      | stage, _ => stage)
    | .replaceTmp _ => fun reply => phase.at (match phase.stage, reply with
      | .written _ _, .ok _ => .recorded
      | .written _ _, .error _ => .failed
      | stage, _ => stage)
    | _ => fun _ => phase

abbrev Counts {α : Type} (key : PyString) (post : α → CountPhase → Prop) (phase : CountPhase)
    (x : Program α) : Prop :=
  (countProtocol key).Obeys post (fun _ s => Ended s.stage) phase x

variable {key : PyString} {phase : CountPhase}

theorem elsewhere_unnoticed (resting : Resting phase.stage) (op : Operation)
    (quiet : elsewhere op) : (countProtocol key).allows phase op ∧
      ∀ reply, (countProtocol key).next phase op reply = phase := by
  cases op with
  | readJson path => cases quiet
  | writeTmp path document => cases quiet
  | replaceTmp path => cases quiet
  | unlink path => cases quiet
  | forward arguments => cases quiet
  | newId => cases quiet
  | utcNow =>
    refine ⟨trivial, fun now => ?_⟩
    obtain ⟨confirms, mandate, stage⟩ := phase
    cases stage <;> first | rfl | cases resting
  | _ => exact ⟨trivial, fun _ => rfl⟩

theorem audits_resting (phase : CountPhase) (op : Operation) (resting : Resting phase.stage)
    (audits : op.audits) : (countProtocol key).allows phase op ∧
      ∀ reply, Resting ((countProtocol key).next phase op reply).stage := by
  cases op with
  | newId =>
    refine ⟨trivial, fun hex => ?_⟩
    obtain ⟨confirms, mandate, stage⟩ := phase
    cases stage <;> trivial
  | utcNow =>
    obtain ⟨permitted, same⟩ := elsewhere_unnoticed resting .utcNow trivial
    exact ⟨permitted, fun now => by rw [same]; exact resting⟩
  | appendLedger record => exact ⟨trivial, fun _ => resting⟩
  | _ => cases audits

theorem Counts.after {α β : Type} {x : Program α} {f : α → Program β}
    {post : β → CountPhase → Prop} (resting : Resting phase.stage) (quiet : x.Uses elsewhere)
    (rest : ∀ a, Counts key post phase (f a)) : Counts key post phase (x >>= f) :=
  quiet.obeys_bind (elsewhere_unnoticed resting) (fun _ => resting.ended) rest

theorem Counts.audited {α : Type} {x : Program α} (resting : Resting phase.stage)
    (audits : x.Uses Operation.audits) : Counts key (fun _ s => Ended s.stage) phase x :=
  (audits.keeps resting audits_resting).mono (fun _ _ => Resting.ended) fun _ _ => Resting.ended

theorem isExpired_elsewhere (mandate : Mandate) : (isExpired mandate).Uses elsewhere := by
  unfold isExpired
  split
  · trivial
  · exact .bind (.ask trivial) fun _ => trivial

theorem haltFlagSet_elsewhere {broker : PyString} : (haltFlagSet broker).Uses elsewhere := by
  refine .bind (.ask trivial) fun found => ?_
  cases found with
  | true => trivial
  | false =>
    cases brokerDir broker with
    | ok key => exact ⟨trivial, fun _ => trivial⟩
    | error raised => trivial

omit [PyText] in
theorem counterDocument_dumps {today : PyString} {count : Int} :
    (counterDocument today count).dumps =
      if printable count then .ok () else .error .valueError := by
  unfold PyValue.dumps
  simp [counterDocument, PyValue.nodes, entryNodes, dumpsNode, bind, Except.bind]
  cases printable count with
  | true => simp [pure, Except.pure]
  | false => simp

omit [PyText] in
theorem counterDocument_encode {today : AsciiString} {count : Int} :
    (counterDocument today count).encode = .ok () := by
  unfold PyValue.encode
  refine if_pos ?_
  simp only [counterDocument, PyValue.nodes, entryNodes]
  simp [JsonNode.encodable, PyString.encodable_of_isAscii today.property]
  decide

section Counter

variable {broker : PyString} (named : brokerDir broker = .ok key)

include named

theorem attempt_named : attempt (brokerDir broker) = .done key := by
  rw [named]
  rfl

variable (phase) in
theorem readDailyCount_counts (onDocument : PyDict → CountStage) (onCount : Int → CountStage)
    (may : (countProtocol key).allows phase (.readJson (.tradeCounter key)))
    (reads : ∀ reply, (countProtocol key).next phase (.readJson (.tradeCounter key)) reply =
      phase.at (counterRead onDocument onCount reply))
    (dates : ∀ (entries : PyDict) (now : Moment),
      (countProtocol key).next (phase.at (onDocument entries)) .utcNow now =
        phase.at (counterDated onCount (countOf entries now.date))) :
    Counts key (fun count s => s = phase.at (onCount count)) phase (readDailyCount broker) := by
  simp only [readDailyCount, attempt_named named, Process.done_bind, Process.ask_bind]
  refine ⟨may, fun reply => ?_⟩
  dsimp only
  rw [reads]
  split
  next entries =>
    refine ⟨trivial, fun now => ?_⟩
    rw [counterRead, dates]
    refine .ofExcept (fun count counted => ?_) fun raised failed => ?_
    · rw [counted]
      rfl
    · rw [failed]
      trivial
  next value other =>
    rw [counterRead.eq_2 _ _ _ other]
    exact .done rfl
  next => exact .done rfl
  next => exact .done rfl
  next raised notOs notValue =>
    rw [counterRead.eq_5 _ _ _ notOs notValue]
    exact show Ended .failed from trivial

theorem loadMandate_counts (first : phase.stage = .before) :
    Counts key (fun loaded s => s.stage = .before ∧ s.confirms = phase.confirms ∧
      match loaded with | some mandate => s.mandate = some mandate | none => True)
      phase (loadMandate broker) := by
  simp only [loadMandate, attempt_named named, Process.done_bind, Process.ask_bind]
  refine ⟨⟨rfl, first⟩, fun reply => ?_⟩
  have ended : Ended phase.stage := first ▸ trivial
  dsimp only
  split
  next => exact .done ⟨first, rfl, trivial⟩
  next raw =>
    refine .ofExcept (fun loaded parsed => ⟨first, rfl, ?_⟩) fun _ _ => ended
    cases loaded with
    | none => trivial
    | some mandate => simp [countProtocol, mandateRead, parsed]
  next => exact .done ⟨first, rfl, trivial⟩
  next => exact .done ⟨first, rfl, trivial⟩
  next => exact ended

theorem preflight_counts (first : phase.stage = .before) :
    Counts key (fun ready s => s.stage = .before ∧ s.confirms = phase.confirms ∧
      match ready with | .ok mandate => s.mandate = some mandate | .error _ => True)
      phase (preflight broker) := by
  refine (loadMandate_counts named first).bind fun loaded s ⟨before, same, given⟩ => ?_
  cases loaded with
  | none => exact .done ⟨before, same, trivial⟩
  | some mandate =>
    have resting : Resting s.stage := before ▸ trivial
    dsimp only
    split
    · exact .done ⟨before, same, trivial⟩
    refine Counts.after resting (isExpired_elsewhere mandate) fun expired => ?_
    split
    · exact .done ⟨before, same, trivial⟩
    refine Counts.after resting haltFlagSet_elsewhere fun halted => ?_
    split
    · exact .done ⟨before, same, trivial⟩
    · exact .done ⟨before, same, given⟩

omit named in
theorem writeJson_counts {today : AsciiString} {count : Int}
    (recounted : phase.stage = .recounted today count) :
    Counts key (fun _ s => s.stage = .recorded) phase
      (writeJson (.tradeCounter key) (counterDocument today (count + 1))) := by
  simp only [writeJson, counterDocument_dumps, counterDocument_encode]
  cases prints : printable (count + 1) with
  | true =>
    refine ⟨⟨today, count, recounted, rfl, rfl⟩, fun reply => ?_⟩
    have wrote : (countProtocol key).next phase
        (.writeTmp (.tradeCounter key) (counterDocument today (count + 1))) reply =
        phase.at (match reply with | .ok _ => .written today count | .error _ => .failed) := by
      cases reply <;> simp [countProtocol, recounted]
    rw [wrote]
    cases reply with
    | error raised => exact show Ended .failed from trivial
    | ok done =>
      refine ⟨⟨today, count, rfl, rfl⟩, fun reply => ?_⟩
      cases reply with
      | error raised => exact show Ended .failed from trivial
      | ok done => exact .done rfl
  | false =>
    refine show Ended phase.stage from ?_
    rw [recounted]
    exact prints

theorem incrementDailyCount_counts (placed : phase.stage = .placed) :
    Counts key (fun _ s => s.stage = .recorded) phase (incrementDailyCount broker) := by
  simp only [incrementDailyCount, Process.ask_bind, attempt_named named, Process.done_bind]
  refine ⟨trivial, fun now => ?_⟩
  have dated : (countProtocol key).next phase .utcNow now = phase.at (.dated now.date) := by
    simp [countProtocol, placed]
  rw [dated]
  have counts := readDailyCount_counts (phase.at (.dated now.date)) named
    (.rereading now.date) (.recounted now.date) ⟨rfl, .inr ⟨_, rfl⟩⟩ (fun _ => rfl) fun _ _ => rfl
  refine counts.bind ?_
  rintro count _ rfl
  exact (writeJson_counts rfl).bind fun _ s recorded => .done recorded

end Counter

section Ceremony

variable {ceremony : Ceremony} (named : brokerDir ceremony.gate.broker = .ok key)

include named

def RuledAt (phase : CountPhase) : Ruling → Prop
  | .allow mandate _ _ _ => phase.mandate = some mandate ∧
    ∃ count, phase.stage = .counted count ∧ count + 1 ≤ mandate.hardCaps.maxTradesPerDay
  | _ => Resting phase.stage

theorem checkOrder_counts [Trading] {mandate : Mandate} (intent : OrderIntent)
    (positions balance : PyValue) (first : phase.stage = .before)
    (given : phase.mandate = some mandate) :
    Counts key (fun ruling s => s.confirms = phase.confirms ∧ RuledAt s ruling) phase
      (checkOrder ceremony.gate mandate intent positions balance) := by
  have counts := readDailyCount_counts phase named .reading .counted ⟨rfl, .inl first⟩ (fun _ => by simp [countProtocol, first])
    fun _ _ => rfl
  refine counts.bind ?_
  rintro count _ rfl
  refine ⟨trivial, fun now => ?_⟩
  change (countProtocol key).Obeys _ _ _ (attempt _ >>= _)
  refine Protocol.Obeys.bind
    (?_ : (countProtocol key).Obeys (fun event s => s = phase.at (.counted count) ∧
      (event = none → count + 1 ≤ mandate.hardCaps.maxTradesPerDay)) _ _ _) ?_
  · refine .ofExcept (fun event checked => ⟨rfl, ?_⟩) fun _ _ => trivial
    rintro rfl
    obtain ⟨notional, exposure, -, -, admits⟩ := checkMandate_allow.mp checked
    exact admits.countCap
  · rintro event _ ⟨rfl, allowed⟩
    cases event with
    | none => exact .done ⟨rfl, given, count, rfl, allowed rfl⟩
    | some event => exact .done ⟨rfl, trivial⟩

theorem rule_counts [Trading] (first : phase.stage = .before) :
    Counts key (fun ruling s => s.confirms = phase.confirms ∧ RuledAt s ruling) phase
      ceremony.rule := by
  refine (preflight_counts named first).bind fun ready s ⟨before, same, given⟩ => ?_
  have resting : Resting s.stage := before ▸ trivial
  cases ready with
  | error denial => exact .done ⟨same, resting⟩
  | ok mandate =>
    refine Counts.after resting ((ceremony.snapshotReads mandate).mono reads_elsewhere) ?_
    intro taken
    cases taken with
    | error denial => exact .done ⟨same, resting⟩
    | ok taken =>
      rw [← same]
      exact checkOrder_counts named _ _ _ before given

-- Whether a gate takes an answer for an order that the broker accepted.
def Ceremony.confirms (ceremony : Ceremony) (reply : Except Failure PyValue) : Bool :=
  match ceremony.judge reply with
  | .ok placement => placement.error.isNone
  | .error _ => false

def Ceremony.firstPhase (ceremony : Ceremony) : CountPhase where
  confirms := ceremony.confirms
  mandate := none
  stage := .before

theorem settle_counts (mandate : Mandate) (intent : OrderIntent) (advisory : Option PyDict)
    (placement : Placement)
    (placed : phase.stage = if placement.error.isNone then .placed else .refused) :
    Counts key (fun _ s => Ended s.stage) phase
      (ceremony.settle mandate intent advisory placement) := by
  have recorded : (do
      let record ← audit (ceremony.forwarded mandate intent advisory placement)
      ceremony.answer placement.result record).Uses Operation.audits :=
    .bind (audit_audits _) fun _ => (ceremony.answerQuiet _ _).mono fun _ impossible =>
      impossible.elim
  unfold Ceremony.settle
  split
  next taken =>
    rw [taken] at placed
    refine (incrementDailyCount_counts named placed).bind fun _ s counted => ?_
    exact Counts.audited (counted ▸ trivial) recorded
  next refused =>
    rw [Option.isNone_eq_false_iff.mpr (Option.isSome_iff_ne_none.mpr refused)] at placed
    exact Counts.audited (placed ▸ trivial) recorded

theorem execute_counts [Trading] :
    Counts key (fun _ s => Ended s.stage) ceremony.firstPhase ceremony.execute := by
  refine (rule_counts named rfl).bind fun ruling s ⟨same, ruled⟩ => ?_
  cases ruling with
  | deny denial => exact Counts.audited ruled (deny_audits _ _)
  | breach event mandate intent => exact Counts.audited ruled (denyBreach_audits _ _ _ _)
  | allow mandate intent positions balance =>
    obtain ⟨given, count, counted, within⟩ := ruled
    refine Counts.after (counted ▸ trivial)
      ((ceremony.reviewAdvises _ _).mono advises_elsewhere) fun advisory => ?_
    refine ⟨⟨mandate, count, given, counted, within⟩, fun reply => ?_⟩
    have judged : (countProtocol key).next s (.forward ceremony.arguments) reply =
        s.at (if ceremony.confirms reply then .placed else .refused) := by
      simp [countProtocol, counted, same, Ceremony.firstPhase]
    rw [judged]
    have settled : ∀ (placement : Placement) (s : CountPhase),
        (s.stage = if placement.error.isNone then .placed else .refused) →
        Counts key (fun _ s => Ended s.stage) s
          (ceremony.settle mandate intent advisory placement) :=
      fun placement s placed => settle_counts named mandate intent advisory placement placed
    refine Protocol.Obeys.bind (x := attempt (ceremony.judge reply))
      (.ofExcept (fun placement verdict => ?_) fun raised verdict => ?_) settled
    · have confirmed : ceremony.confirms reply = placement.error.isNone := by
        simp only [Ceremony.confirms, verdict]
      rw [confirmed]
      rfl
    · have unconfirmed : ceremony.confirms reply = false := by
        simp only [Ceremony.confirms, verdict]
      rw [unconfirmed]
      trivial

end Ceremony

end Protocol

section Counting

variable [PyText] {key : PyString} {mandate : Mandate} {world world' : World}
  {phase : CountPhase}

def persisted (key : PyString) (world : World) : Except PyError Int :=
  match world.files (.tradeCounter key) with
  | some (.dict entries) => countOf entries world.today
  | _ => .ok 0

def Settled (key : PyString) (mandate : Mandate) (world : World) : Prop :=
  persisted key world = .ok world.accepted ∧ world.accepted ≤ mandate.hardCaps.maxTradesPerDay

-- One order is accepted and not counted yet.
def Owed (key : PyString) (mandate : Mandate) (world : World) : Prop :=
  persisted key world = .ok (world.accepted - 1) ∧
    world.accepted ≤ mandate.hardCaps.maxTradesPerDay

-- The stages of an execution that is not between its first read of the counter and the end of its
-- use of it.
def Outside : CountStage → Prop
  | .before => True
  | .refused => True
  | .recorded => True
  | _ => False

-- What holds of the world while the only execution that uses the counter is at this stage.
def Sound (key : PyString) (mandate : Mandate) (world : World) : CountStage → Prop
  | .before => Settled key mandate world
  | .reading entries =>
    world.files (.tradeCounter key) = some (.dict entries) ∧ Settled key mandate world
  | .counted count => count = world.accepted ∧ Settled key mandate world
  | .refused => Settled key mandate world
  | .placed => Owed key mandate world
  | .dated today => today = world.today ∧ Owed key mandate world
  | .rereading today entries => today = world.today ∧
    world.files (.tradeCounter key) = some (.dict entries) ∧ Owed key mandate world
  | .recounted today count =>
    today = world.today ∧ count + 1 = world.accepted ∧ Owed key mandate world
  | .written today count => today = world.today ∧ count + 1 = world.accepted ∧
    world.tmp (.tradeCounter key) = some (counterDocument today (count + 1)) ∧
      Owed key mandate world
  | .recorded => Settled key mandate world
  | .failed => False

theorem Outside.sound {stage : CountStage} (outside : Outside stage) :
    Sound key mandate world stage ↔ Settled key mandate world := by
  cases stage <;> first | rfl | cases outside

-- A disk that does not fail, and a broker whose answer tells whether it took the order.
def Served (world world' : World) (confirms : Except Failure PyValue → Bool) :
    (op : Operation) → op.Reply → Prop
  | .readJson (.tradeCounter _), reply => ∃ found, reply = .ok found
  | .writeTmp _ _, reply => reply = .ok ()
  | .replaceTmp path, reply => (world.tmp path).isSome → reply = .ok ()
  | .forward _, reply =>
    world'.accepted = if confirms reply then world.accepted + 1 else world.accepted
  | _, _ => True

theorem persisted_dict {entries : PyDict}
    (file : world.files (.tradeCounter key) = some (.dict entries)) :
    persisted key world = countOf entries world.today := by
  rw [persisted, file]

variable (key world) in
theorem counterRead_file (onDocument : PyDict → CountStage) (onCount : Int → CountStage) :
    (∃ entries, world.files (.tradeCounter key) = some (.dict entries) ∧
      counterRead onDocument onCount (.ok (world.files (.tradeCounter key))) =
        onDocument entries) ∨
    persisted key world = .ok 0 ∧
      counterRead onDocument onCount (.ok (world.files (.tradeCounter key))) = onCount 0 := by
  unfold persisted counterRead
  cases world.files (.tradeCounter key) with
  | none => exact .inr ⟨rfl, rfl⟩
  | some document =>
    cases document with
    | dict entries => exact .inl ⟨entries, rfl, rfl⟩
    | _ => exact .inr ⟨rfl, rfl⟩

theorem countOf_counterDocument {today : PyString} {count : Int} :
    countOf [(.str "date", .str today), (.str "count", .int count)] today = .ok count := by
  have dated : PyDict.get [(.str "date", .str today), (.str "count", .int count)] "date" =
      .str today := rfl
  have counted : PyDict.lookup [(.str "date", .str today), (.str "count", .int count)] "count" =
      some (.int count) := rfl
  simp only [countOf, dated, counted, PyValue.isKey, Option.getD_some, PyValue.toInt]
  simp

theorem persisted_counterDocument {count : Int}
    (file : world.files (.tradeCounter key) = some (counterDocument world.today count)) :
    persisted key world = .ok count := by
  rw [persisted_dict file, countOf_counterDocument]

theorem sound_read {reply : Except PyError (Option PyValue)}
    (sound : Sound key mandate world phase.stage)
    (stage : phase.stage = .before ∨ ∃ today, phase.stage = .dated today)
    (answered : reply = .ok (world.files (.tradeCounter key))) :
    Sound key mandate world
      ((countProtocol key).next phase (.readJson (.tradeCounter key)) reply).stage := by
  subst answered
  obtain ⟨confirms, loaded, stage'⟩ := phase
  obtain rfl | ⟨today, rfl⟩ := stage
  · change Sound key mandate world (counterRead .reading .counted _)
    obtain ⟨entries, file, read⟩ | ⟨absent, read⟩ :=
      counterRead_file key world CountStage.reading CountStage.counted
    · rw [read]
      exact ⟨file, sound⟩
    · rw [read]
      exact ⟨Except.ok.inj (absent.symm.trans sound.1), sound⟩
  · obtain ⟨same, owed⟩ := sound
    change Sound key mandate world (counterRead (.rereading today) (.recounted today) _)
    obtain ⟨entries, file, read⟩ | ⟨absent, read⟩ :=
      counterRead_file key world (CountStage.rereading today) (CountStage.recounted today)
    · rw [read]
      exact ⟨same, file, owed⟩
    · rw [read]
      have counted := Except.ok.inj (absent.symm.trans owed.1)
      exact ⟨same, by omega, owed⟩

theorem sound_clock {now : Moment} (sound : Sound key mandate world phase.stage)
    (answered : now.date = world.today) :
    Sound key mandate world ((countProtocol key).next phase .utcNow now).stage := by
  obtain ⟨confirms, loaded, stage⟩ := phase
  cases stage with
  | reading entries =>
    obtain ⟨file, settled⟩ := sound
    change Sound key mandate world (counterDated .counted (countOf entries now.date))
    rw [answered, ← persisted_dict file, settled.1]
    exact ⟨rfl, settled⟩
  | placed => exact ⟨answered, sound⟩
  | rereading today entries =>
    obtain ⟨same, file, owed⟩ := sound
    change Sound key mandate world (counterDated (.recounted today) (countOf entries now.date))
    rw [answered, ← persisted_dict file, owed.1]
    exact ⟨same, by omega, owed⟩
  | _ => exact sound

theorem sound_forward {arguments : PyDict} {reply : Except Failure PyValue}
    (sound : Sound key mandate world phase.stage)
    (under : ∀ given, phase.mandate = some given → given = mandate)
    (allowed : (countProtocol key).allows phase (.forward arguments))
    (answered : world.answers (.forward arguments) reply world')
    (served : Served world world' phase.confirms (.forward arguments) reply) :
    Sound key mandate world'
      ((countProtocol key).next phase (.forward arguments) reply).stage := by
  obtain ⟨given, count, loaded, counted, within⟩ := allowed
  obtain rfl := under given loaded
  rw [counted] at sound
  obtain ⟨rfl, settled, -⟩ := sound
  have same : persisted key world' = persisted key world := by
    obtain rfl | rfl := answered <;> rfl
  have next : ((countProtocol key).next phase (.forward arguments) reply).stage =
      if phase.confirms reply then .placed else .refused := by
    simp [countProtocol, counted]
  rw [next]
  split
  next confirmed =>
    have taken : world'.accepted = world.accepted + 1 := served.trans (if_pos confirmed)
    refine ⟨?_, by omega⟩
    rw [same, settled, taken]
    simp
  next unconfirmed =>
    have refused : world'.accepted = world.accepted := served.trans (if_neg unconfirmed)
    exact ⟨by rw [same, settled, refused], by omega⟩

theorem sound_write {path : LivePath} {document : PyValue} {reply : Except PyError Unit}
    (sound : Sound key mandate world phase.stage)
    (allowed : (countProtocol key).allows phase (.writeTmp path document))
    (answered : world.answers (.writeTmp path document) reply world') (served : reply = .ok ()) :
    Sound key mandate world'
      ((countProtocol key).next phase (.writeTmp path document) reply).stage := by
  obtain ⟨today, count, recounted, rfl, rfl⟩ := allowed
  subst served
  obtain ⟨-, rfl⟩ | ⟨⟨raised, impossible⟩, -⟩ := answered
  · rw [recounted] at sound
    obtain ⟨same, counted, owed⟩ := sound
    have next : ((countProtocol key).next phase (.writeTmp (.tradeCounter key)
        (counterDocument today (count + 1))) (.ok ())).stage = .written today count := by
      simp [countProtocol, recounted]
    rw [next]
    exact ⟨same, counted, Function.update_self .., owed⟩
  · cases impossible

theorem sound_replace {path : LivePath} {reply : Except PyError Unit}
    (sound : Sound key mandate world phase.stage)
    (allowed : (countProtocol key).allows phase (.replaceTmp path))
    (answered : world.answers (.replaceTmp path) reply world')
    (served : (world.tmp path).isSome → reply = .ok ()) :
    Sound key mandate world'
      ((countProtocol key).next phase (.replaceTmp path) reply).stage := by
  obtain ⟨today, count, written, rfl⟩ := allowed
  rw [written] at sound
  obtain ⟨rfl, counted, file, -, within⟩ := sound
  obtain rfl := served (Option.isSome_of_eq_some file)
  obtain ⟨document, left, -, rfl⟩ | ⟨⟨raised, impossible⟩, -⟩ := answered
  · obtain rfl := Option.some.inj (left.symm.trans file)
    have next : ((countProtocol key).next phase (.replaceTmp (.tradeCounter key)) (.ok ())).stage =
        .recorded := by
      simp [countProtocol, written]
    rw [next]
    refine ⟨?_, within⟩
    rw [persisted_counterDocument (Function.update_self ..), counted]
    rfl
  · cases impossible

theorem sound_step (op : Operation) (reply : op.Reply)
    (sound : Sound key mandate world phase.stage)
    (under : ∀ given, phase.mandate = some given → given = mandate)
    (allowed : (countProtocol key).allows phase op) (answered : world.answers op reply world')
    (served : Served world world' phase.confirms op reply) :
    Sound key mandate world' ((countProtocol key).next phase op reply).stage := by
  cases op with
  | readJson path =>
    obtain ⟨rfl, read⟩ := answered
    cases path with
    | mandate broker => exact sound
    | tradeCounter broker =>
      obtain ⟨rfl, stage⟩ := allowed
      obtain ⟨found, given⟩ := served
      obtain read | ⟨raised, failed⟩ := read
      · exact sound_read sound stage read
      · rw [given] at failed
        cases failed
    | _ => exact allowed.elim
  | utcNow =>
    obtain ⟨rfl, dated⟩ := answered
    exact sound_clock sound dated
  | forward arguments => exact sound_forward sound under allowed answered served
  | writeTmp path document => exact sound_write sound allowed answered served
  | replaceTmp path => exact sound_replace sound allowed answered served
  | unlink path => exact allowed.elim
  | newId =>
    obtain rfl := answered
    obtain ⟨confirms, loaded, stage⟩ := phase
    cases stage with
    | counted count => exact sound.2
    | _ => exact sound
  | pathExists path =>
    obtain ⟨rfl, -⟩ := answered
    exact sound
  | _ =>
    obtain rfl := answered
    exact sound

theorem outside_step (op : Operation) (reply : op.Reply) (outside : Outside phase.stage)
    (elsewhere : ∀ broker, op ≠ .readJson (.tradeCounter broker))
    (allowed : (countProtocol key).allows phase op) (answered : world.answers op reply world') :
    world' = world ∧ ((countProtocol key).next phase op reply).stage = phase.stage := by
  obtain ⟨confirms, loaded, stage⟩ := phase
  cases op with
  | readJson path =>
    obtain ⟨rfl, -⟩ := answered
    cases path with
    | mandate broker => exact ⟨rfl, rfl⟩
    | tradeCounter broker => exact absurd rfl (elsewhere broker)
    | _ => exact allowed.elim
  | utcNow =>
    obtain ⟨rfl, -⟩ := answered
    cases stage <;> first | exact ⟨rfl, rfl⟩ | cases outside
  | newId =>
    obtain rfl := answered
    cases stage <;> first | exact ⟨rfl, rfl⟩ | cases outside
  | forward arguments =>
    obtain ⟨given, count, -, rfl, -⟩ := allowed
    cases outside
  | writeTmp path document =>
    obtain ⟨today, count, rfl, -⟩ := allowed
    cases outside
  | replaceTmp path =>
    obtain ⟨today, count, rfl, -⟩ := allowed
    cases outside
  | unlink path => exact allowed.elim
  | pathExists path => exact ⟨answered.1, rfl⟩
  | _ => exact ⟨answered, rfl⟩

theorem mandate_step {raw : PyValue} (op : Operation) (reply : op.Reply)
    (parsed : mandateOf raw = .ok (some mandate))
    (file : world.files (.mandate key) = some raw)
    (under : ∀ given, phase.mandate = some given → given = mandate)
    (allowed : (countProtocol key).allows phase op) (answered : world.answers op reply world') :
    world'.files (.mandate key) = some raw ∧
      ∀ given, ((countProtocol key).next phase op reply).mandate = some given →
        given = mandate := by
  cases op with
  | readJson path =>
    obtain ⟨rfl, read⟩ := answered
    refine ⟨file, ?_⟩
    cases path with
    | mandate broker =>
      obtain ⟨rfl, -⟩ := allowed
      intro given found
      replace found : mandateRead reply = some given := found
      obtain rfl | ⟨raised, rfl⟩ := read
      · simpa [mandateRead, file, parsed, eq_comm] using found
      · cases found
    | tradeCounter broker => exact under
    | _ => exact allowed.elim
  | forward arguments => obtain rfl | rfl := answered <;> exact ⟨file, under⟩
  | writeTmp path document =>
    obtain ⟨today, count, -, rfl, -⟩ := allowed
    obtain ⟨-, rfl⟩ | ⟨-, left, rfl⟩ := answered <;> exact ⟨file, under⟩
  | replaceTmp path =>
    obtain ⟨today, count, -, rfl⟩ := allowed
    obtain ⟨document, -, -, rfl⟩ | ⟨-, rfl⟩ := answered
    · exact ⟨by simpa [World.setFile, World.setTmp] using file, under⟩
    · exact ⟨file, under⟩
  | unlink path => exact allowed.elim
  | utcNow =>
    obtain ⟨rfl, -⟩ := answered
    exact ⟨file, under⟩
  | pathExists path =>
    obtain ⟨rfl, -⟩ := answered
    exact ⟨file, under⟩
  | _ =>
    obtain rfl := answered
    exact ⟨file, under⟩

theorem ended_settled {stage : CountStage} (ended : Ended stage)
    (prints : printable mandate.hardCaps.maxTradesPerDay = true)
    (sound : Sound key mandate world stage) : Settled key mandate world := by
  cases stage with
  | before => exact sound
  | counted count => exact sound.2
  | refused => exact sound
  | recorded => exact sound
  | recounted today count =>
    obtain ⟨-, counted, -, within⟩ := sound
    have shown := printable_of_le (by omega) within prints
    rw [← counted, show printable (count + 1) = false from ended] at shown
    cases shown
  | failed => exact sound.elim
  | _ => cases ended

theorem Sound.within {stage : CountStage} (sound : Sound key mandate world stage) :
    world.accepted ≤ mandate.hardCaps.maxTradesPerDay := by
  cases stage with
  | before => exact sound.2
  | reading entries => exact sound.2.2
  | counted count => exact sound.2.2
  | refused => exact sound.2
  | placed => exact sound.2
  | dated today => exact sound.2.2
  | rereading today entries => exact sound.2.2.2
  | recounted today count => exact sound.2.2.2
  | written today count => exact sound.2.2.2.2
  | recorded => exact sound.2
  | failed => exact sound.elim

-- The stages between the broker's acceptance of an order and its count.
def Owing : CountStage → Prop
  | .placed => True
  | .dated _ => True
  | .rereading _ _ => True
  | .recounted _ _ => True
  | .written _ _ => True
  | _ => False

theorem Sound.settled {stage : CountStage} (sound : Sound key mandate world stage)
    (counted : ¬ Owing stage) : Settled key mandate world := by
  cases stage with
  | before => exact sound
  | reading entries => exact sound.2
  | counted count => exact sound.2
  | refused => exact sound
  | recorded => exact sound
  | failed => exact sound.elim
  | _ => exact absurd trivial counted

theorem Sound.congr {stage : CountStage}
    (file : world'.files (.tradeCounter key) = world.files (.tradeCounter key))
    (tmp : world'.tmp = world.tmp) (accepted : world'.accepted = world.accepted)
    (today : world'.today = world.today) :
    Sound key mandate world' stage ↔ Sound key mandate world stage := by
  cases stage <;> simp only [Sound, Settled, Owed, persisted, file, tmp, accepted, today]

end Counting

section Runs

variable [PyText] {key : PyString} {raw : PyValue} {mandate : Mandate} {world world' : World}
  {phases : Nat → Option CountPhase} {phase : CountPhase} {id : Nat}

def stageAt (phases : Nat → Option CountPhase) (id : Nat) : CountStage :=
  match phases id with
  | some phase => phase.stage
  | none => .before

omit [PyText] in
theorem stageAt_some (present : phases id = some phase) : stageAt phases id = phase.stage := by
  rw [stageAt, present]

omit [PyText] in
theorem stageAt_other {other : Nat} (phase : Option CountPhase) (apart : other ≠ id) :
    stageAt (Function.update phases id phase) other = stageAt phases other := by
  rw [stageAt, Function.update_of_ne apart, stageAt]

-- At most one execution uses the counter, and its stage tells what the counter holds.
structure Consistent (key : PyString) (raw : PyValue) (mandate : Mandate) (world : World)
    (phases : Nat → Option CountPhase) : Prop where
  file : world.files (.mandate key) = some raw
  under : ∀ id phase, phases id = some phase → ∀ given, phase.mandate = some given →
    given = mandate
  held : ∃ holder, Sound key mandate world (stageAt phases holder) ∧
    ∀ other, other ≠ holder → Outside (stageAt phases other)

def Alone (phases : Nat → Option CountPhase) (id : Nat) : Prop :=
  ∀ other, other ≠ id → Outside (stageAt phases other)

theorem Consistent.sound (consistent : Consistent key raw mandate world phases)
    (alone : Alone phases id) : Sound key mandate world (stageAt phases id) := by
  obtain ⟨holder, sound, others⟩ := consistent.held
  by_cases same : id = holder
  · rw [same]
    exact sound
  · exact (others id same).sound.mpr ((alone holder (Ne.symm same)).sound.mp sound)

variable (id) in
theorem Consistent.under_update (consistent : Consistent key raw mandate world phases)
    {next : Option CountPhase}
    (kept : ∀ phase, next = some phase → ∀ given, phase.mandate = some given → given = mandate)
    (other : Nat) (phase : CountPhase) (present : Function.update phases id next other = some phase) :
    ∀ given, phase.mandate = some given → given = mandate := by
  by_cases same : other = id
  · rw [same, Function.update_self] at present
    exact kept phase present
  · exact consistent.under other phase ((Function.update_of_ne same ..).symm.trans present)

theorem Consistent.perform (consistent : Consistent key raw mandate world phases)
    (parsed : mandateOf raw = .ok (some mandate)) (op : Operation) (reply : op.Reply)
    (present : phases id = some phase) (allowed : (countProtocol key).allows phase op)
    (answered : world.answers op reply world')
    (served : Served world world' phase.confirms op reply)
    (alone : ∀ broker, op = .readJson (.tradeCounter broker) → Alone phases id)
    {next : CountPhase} (becomes : (countProtocol key).next phase op reply = next) :
    Consistent key raw mandate world' (Function.update phases id (some next)) := by
  have under := consistent.under id phase present
  obtain ⟨file, loaded⟩ := mandate_step op reply parsed consistent.file under allowed answered
  rw [becomes] at loaded
  refine ⟨file, consistent.under_update id (by rintro _ ⟨rfl⟩; exact loaded), ?_⟩
  by_cases mine : Alone phases id
  · have sound := consistent.sound mine
    rw [stageAt_some present] at sound
    refine ⟨id, ?_, fun other apart => ?_⟩
    · rw [stageAt_some (Function.update_self ..), ← becomes]
      exact sound_step op reply sound under allowed answered served
    · rw [stageAt_other _ apart]
      exact mine other apart
  · obtain ⟨holder, sound, others⟩ := consistent.held
    have apart : id ≠ holder := fun same => mine (same ▸ others)
    have outside := others id apart
    rw [stageAt_some present] at outside
    obtain ⟨rfl, same⟩ := outside_step op reply outside
      (fun broker reads => mine (alone broker reads)) allowed answered
    refine ⟨holder, ?_, fun other apart => ?_⟩
    · rw [stageAt_other _ (Ne.symm apart)]
      exact sound
    · by_cases this : other = id
      · rw [this, stageAt_some (Function.update_self ..), ← becomes, same]
        exact outside
      · rw [stageAt_other _ this]
        exact others other apart

theorem Consistent.finish
    (consistent : Consistent key raw mandate world (Function.update phases id (some phase)))
    (prints : printable mandate.hardCaps.maxTradesPerDay = true) (ended : Ended phase.stage) :
    Consistent key raw mandate world (Function.update phases id none) := by
  have present : Function.update phases id (some phase) id = some phase := Function.update_self ..
  have idle : stageAt (Function.update phases id none) id = .before := by
    rw [stageAt, Function.update_self]
  have under := consistent.under_update id
    (fun _ (impossible : none = some _) => by cases impossible)
  rw [Function.update_idem] at under
  refine ⟨consistent.file, under, ?_⟩
  obtain ⟨holder, sound, others⟩ := consistent.held
  refine ⟨holder, ?_, fun other apart => ?_⟩
  · by_cases same : holder = id
    · subst same
      rw [idle]
      rw [stageAt_some present] at sound
      exact ended_settled ended prints sound
    · rw [stageAt_other _ same] at sound ⊢
      exact sound
  · by_cases same : other = id
    · rw [same, idle]
      trivial
    · have outside := others other apart
      rw [stageAt_other _ same] at outside ⊢
      exact outside

theorem Consistent.begin (consistent : Consistent key raw mandate world phases)
    (fresh : phases id = none) (ceremony : Ceremony) :
    Consistent key raw mandate world (Function.update phases id (some ceremony.firstPhase)) := by
  have same : ∀ other, stageAt (Function.update phases id (some ceremony.firstPhase)) other =
      stageAt phases other := by
    intro other
    by_cases this : other = id
    · rw [this, stageAt_some (Function.update_self ..), stageAt, fresh]
      rfl
    · exact stageAt_other _ this
  have unloaded : ∀ phase, some ceremony.firstPhase = some phase →
      ∀ given, phase.mandate = some given → given = mandate := by
    rintro _ ⟨rfl⟩ given impossible
    cases impossible
  refine ⟨consistent.file, consistent.under_update _ unloaded, ?_⟩
  simpa only [same] using consistent.held

theorem Consistent.moved (consistent : Consistent key raw mandate world phases)
    (moved : world.moves world') : Consistent key raw mandate world' phases := by
  obtain ⟨path, document, halts, rfl⟩ := moved
  have untouched : path ≠ .mandate key ∧ path ≠ .tradeCounter key := by
    obtain rfl | ⟨broker, rfl⟩ := halts <;> simp
  obtain ⟨holder, sound, others⟩ := consistent.held
  refine ⟨?_, consistent.under, holder, ?_, others⟩
  · exact (Function.update_of_ne (Ne.symm untouched.1) ..).trans consistent.file
  · have unmoved : Sound key mandate (world.setFile path document) (stageAt phases holder) ↔
        Sound key mandate world (stageAt phases holder) :=
      Sound.congr (Function.update_of_ne (Ne.symm untouched.2) ..) rfl rfl rfl
    exact unmoved.mpr sound

variable [Trading]

abbrev BrokerCall (key : PyString) := { call : GateCall // brokerDir call.broker = .ok key }

def BrokerCall.program (call : BrokerCall key) : Program PyValue := call.val.program

def BrokerCall.firstPhase (call : BrokerCall key) : CountPhase := call.val.ceremony.firstPhase

abbrev CountConfig (key : PyString) := Config (BrokerCall key) World PyError Operation.Reply PyValue

abbrev CountTransition (key : PyString) :=
  Transition (BrokerCall key) World PyError Operation.Reply PyValue

abbrev CountRun (world : World) (past : List (CountTransition key)) (c : CountConfig key) : Prop :=
  Run liveSurroundings BrokerCall.program world past c

def countPhases (past : List (CountTransition key)) (c : CountConfig key) :
    Nat → Option CountPhase :=
  c.phases (countProtocol key) BrokerCall.firstPhase past

theorem program_counts (call : BrokerCall key) :
    Counts key (fun _ s => Ended s.stage) call.firstPhase call.program := by
  obtain ⟨call, named⟩ := call
  unfold BrokerCall.program
  rw [call.program_ceremony]
  exact execute_counts named

-- The counter is read by one execution at a time, which has it until it is refused or has counted
-- its order; the disk and the broker serve every operation.
def Orderly (past : List (CountTransition key)) (t : CountTransition key) : Prop :=
  match t.action with
  | .perform id op reply =>
    ((∃ broker, op = .readJson (.tradeCounter broker)) → Alone (countPhases past t.before) id) ∧
      ∀ call x, t.before.running id = some (call, x) →
        Served t.before.world t.after.world call.val.ceremony.confirms op reply
  | _ => True

omit [Trading] in
variable (key) in
theorem after_confirms (phase : CountPhase) (events : List (Sigma Operation.Reply)) :
    ((countProtocol key).after phase events).confirms = phase.confirms := by
  let same : CountPhase → List (Sigma Operation.Reply) → Prop :=
    fun s _ => s.confirms = phase.confirms
  suffices kept : same ((countProtocol key).after phase events) events from kept
  refine Protocol.after_induction rfl ?_ events
  intro reached events op reply same
  cases op with
  | readJson path => cases path <;> exact same
  | _ => exact same

theorem Consistent.run {past : List (CountTransition key)} {c : CountConfig key}
    (file : world.files (.mandate key) = some raw) (parsed : mandateOf raw = .ok (some mandate))
    (prints : printable mandate.hardCaps.maxTradesPerDay = true)
    (settled : Settled key mandate world) (run : CountRun world past c)
    (orderly : ∀ before t later, past = before ++ t :: later → Orderly before t) :
    Consistent key raw mandate c.world (countPhases past c) := by
  refine Run.invariant (P := countProtocol key) (fun call => program_counts call) ?_ ?_ ?_ ?_ run
    orderly
  · exact ⟨file, fun _ _ impossible => (by cases impossible), 0, settled, fun _ _ => trivial⟩
  · intro world phases id call consistent fresh
    exact consistent.begin fresh _
  · intro past t id op reply phase fair acted consistent present allowed answered
    unfold Orderly at fair
    rw [acted] at fair
    obtain ⟨call, op', next, running, rfl⟩ := Config.phases_some present
    have served := fair.2 call _ running
    have same := after_confirms key call.firstPhase (eventsOf id past)
    have performed := consistent.perform parsed op reply present allowed answered
      (by rw [same]; exact served) (fun broker reads => fair.1 ⟨broker, reads⟩) rfl
    refine ⟨performed, fun finished => ?_⟩
    have ended : Ended ((countProtocol key).next
        ((countProtocol key).after call.firstPhase (eventsOf id past)) op reply).stage := by
      obtain ⟨_, ended⟩ | ⟨_, ended⟩ := finished <;> exact ended
    exact performed.finish prints ended
  · intro world world' phases consistent moved
    exact consistent.moved moved

theorem capped_when_orderly {past : List (CountTransition key)} {c : CountConfig key}
    (file : world.files (.mandate key) = some raw) (parsed : mandateOf raw = .ok (some mandate))
    (prints : printable mandate.hardCaps.maxTradesPerDay = true)
    (settled : Settled key mandate world) (run : CountRun world past c)
    (orderly : ∀ before t later, past = before ++ t :: later → Orderly before t) :
    c.world.accepted ≤ mandate.hardCaps.maxTradesPerDay ∧
      ((∀ id phase, countPhases past c id = some phase → ¬ Owing phase.stage) →
        persisted key c.world = .ok c.world.accepted) := by
  have consistent := Consistent.run file parsed prints settled run orderly
  obtain ⟨holder, sound, -⟩ := consistent.held
  refine ⟨sound.within, fun counted => (sound.settled fun owing => ?_).1⟩
  unfold stageAt at owing
  split at owing
  next phase present => exact counted holder phase present owing
  next => exact owing

def CapKept (key : PyString) : Prop :=
  ∀ (raw : PyValue) (mandate : Mandate) (world : World) (past : List (CountTransition key))
    (c : CountConfig key), world.files (.mandate key) = some raw →
      mandateOf raw = .ok (some mandate) → Settled key mandate world → CountRun world past c →
        c.world.accepted ≤ mandate.hardCaps.maxTradesPerDay

end Runs

section Race

-- Nine orders of ten are accepted and counted.
def ninthWorld : World where
  files path :=
    if path = .mandate "robinhood" then some hkMandate
    else if path = .tradeCounter "robinhood" then some (counterDocument .empty 9)
    else none
  tmp _ := none
  accepted := 9
  today := noText

def hkBroker :
    let _ := asciiText
    let _ := extracting hkNotional
    BrokerCall "robinhood" := ⟨hkCall, by decide +kernel⟩

def afterReads (world : World) : World × Program PyValue :=
  let _ := asciiText
  let _ := extracting hkNotional
  Process.advance (World.pick hkAnswers) 10 world hkCall.program

def capOf : Except PyError (Option Mandate) → Option Int
  | .ok (some mandate) => some mandate.hardCaps.maxTradesPerDay
  | _ => none

theorem capOf_some {loaded : Except PyError (Option Mandate)} {cap : Int}
    (found : capOf loaded = some cap) :
    ∃ mandate, loaded = .ok (some mandate) ∧ mandate.hardCaps.maxTradesPerDay = cap := by
  unfold capOf at found
  split at found
  next mandate => exact ⟨mandate, rfl, Option.some.inj found⟩
  next => cases found

theorem hkMandate_parsed :
    let _ := asciiText
    ∃ mandate, mandateOf hkMandate = .ok (some mandate) ∧ mandate.hardCaps.maxTradesPerDay = 10 := by
  intro _
  exact capOf_some (by decide +kernel)

theorem ninthWorld_settled {mandate : Mandate} (cap : mandate.hardCaps.maxTradesPerDay = 10) :
    let _ := asciiText
    Settled "robinhood" mandate ninthWorld := by
  intro _
  have file : ninthWorld.files (.tradeCounter "robinhood") = some (counterDocument .empty 9) := rfl
  refine ⟨persisted_counterDocument file, ?_⟩
  rw [cap]
  decide

theorem hkCall_confirms :
    let _ := asciiText
    let _ := extracting hkNotional
    hkCall.ceremony.confirms (.ok dollar) = true := by
  decide +kernel

theorem hkCall_counts :
    let _ := asciiText
    let _ := extracting hkNotional
    (Process.advance (World.pick hkAnswers) 19 ninthWorld hkCall.program).1.accepted = 10 := by
  decide +kernel

theorem picked_served (world : World) (op : Operation) :
    let _ := asciiText
    let _ := extracting hkNotional
    Served world (world.pick hkAnswers op).2 hkCall.ceremony.confirms op
      (world.pick hkAnswers op).1 := by
  intro _ _
  cases op with
  | readJson path =>
    cases path with
    | tradeCounter broker => exact ⟨_, rfl⟩
    | _ => trivial
  | writeTmp path document => rfl
  | replaceTmp path =>
    intro left
    obtain ⟨document, written⟩ := Option.isSome_iff_exists.mp left
    simp only [World.pick, written]
  | forward arguments => exact (if_pos hkCall_confirms).symm
  | _ => trivial

theorem picked_orderly :
    let _ := asciiText
    let _ := extracting hkNotional
    ∀ {before : List (CountTransition "robinhood")} {c : CountConfig "robinhood"}
      {t : CountTransition "robinhood"}, (∀ other, other ≠ 0 → c.running other = none) →
      Picked (World.pick hkAnswers) 0 hkBroker c t → Orderly before t := by
  intro _ _ before c t idle ⟨op, x, acted, moved, running, waiting⟩
  unfold Orderly
  rw [acted, moved]
  refine ⟨fun _ other apart => ?_, fun call x' present => ?_⟩
  · have waits := (waiting other apart).trans (idle other apart)
    have unstarted : countPhases before t.before other = none := by
      unfold countPhases Config.phases
      rw [waits]
      rfl
    simp only [stageAt, unstarted]
    trivial
  · rw [running] at present
    obtain ⟨rfl, rfl⟩ := Prod.mk.inj (Option.some.inj present)
    exact picked_served t.before.world op

theorem hkCall_lone :
    let _ := asciiText
    let _ := extracting hkNotional
    ∃ (past : List (CountTransition "robinhood")) (c : CountConfig "robinhood"),
      CountRun ninthWorld past c ∧ c.world.accepted = 10 ∧
        ∀ before t later, past = before ++ t :: later → Orderly before t := by
  intro _ _
  have start : Step liveSurroundings BrokerCall.program
      (⟨ninthWorld, fun _ => none⟩ : CountConfig "robinhood") (.start 0 hkBroker) _ :=
    .start 0 hkBroker rfl
  obtain ⟨later, run, picked⟩ := Run.advance (World.pick_answers hkAnswers) 19
    (Run.nil.snoc (t := ⟨_, _, _⟩) start) (Function.update_self ..)
  refine ⟨_, _, run, hkCall_counts, fun before t after place => ?_⟩
  have member := place ▸ List.mem_append_right before (List.mem_cons_self (a := t) (l := after))
  obtain earlier | member := List.mem_append.mp member
  · obtain rfl := List.mem_singleton.mp earlier
    trivial
  · exact picked_orderly (fun other apart => Function.update_of_ne apart ..) (picked t member)

theorem capped_when_orderly_hkCall :
    let _ := asciiText
    let _ := extracting hkNotional
    ∃ (past : List (CountTransition "robinhood")) (c : CountConfig "robinhood"),
      c.world.accepted = 10 ∧ c.world.accepted ≤ (10 : Int) ∧
        ((∀ id phase, countPhases past c id = some phase → ¬ Owing phase.stage) →
          persisted "robinhood" c.world = .ok c.world.accepted) := by
  intro _ _
  obtain ⟨mandate, parsed, cap⟩ := hkMandate_parsed
  obtain ⟨past, c, run, accepted, orderly⟩ := hkCall_lone
  refine ⟨past, c, accepted, ?_⟩
  rw [← cap]
  exact capped_when_orderly rfl parsed (by rw [cap]; decide +kernel) (ninthWorld_settled cap) run
    orderly

theorem ninthWorld_forwards :
    forwardsNext (afterReads ninthWorld).2 = true ∧
      forwardsNext (afterReads (afterReads ninthWorld).1).2 = true ∧
      (afterReads (afterReads ninthWorld).1).1.accepted = 9 := by
  decide +kernel

theorem reads_run (id : Nat) {past : List (@CountTransition asciiText (extracting hkNotional) "robinhood")}
    {c : @CountConfig asciiText (extracting hkNotional) "robinhood"} :
    let _ := asciiText
    let _ := extracting hkNotional
    CountRun ninthWorld past c → c.running id = none →
      forwardsNext (afterReads c.world).2 = true →
      ∃ past' arguments rest, CountRun ninthWorld past' ⟨(afterReads c.world).1, Function.update
        c.running id (some (hkBroker, .perform (.forward arguments) rest))⟩ := by
  intro _ _ run fresh forwards
  obtain ⟨arguments, rest, next⟩ := forwardsNext_iff forwards
  have start : Step liveSurroundings BrokerCall.program c (.start id hkBroker) _ :=
    .start id hkBroker fresh
  obtain ⟨later, run, -⟩ := Run.advance (World.pick_answers hkAnswers) 10
    (run.snoc (t := ⟨_, _, _⟩) start) (Function.update_self ..)
  rw [Function.update_idem] at run
  have reached : (Process.advance (World.pick hkAnswers) 10 c.world hkBroker.program).2 =
      .perform (.forward arguments) rest := next
  exact ⟨_, arguments, rest, reached ▸ run⟩

theorem forward_run (id : Nat) {past : List (@CountTransition asciiText (extracting hkNotional) "robinhood")}
    {c : @CountConfig asciiText (extracting hkNotional) "robinhood"}
    {arguments : PyDict} {rest : Except Failure PyValue → Program PyValue} :
    let _ := asciiText
    let _ := extracting hkNotional
    CountRun ninthWorld past c →
      c.running id = some (hkBroker, .perform (.forward arguments) rest) →
      ∃ past', CountRun ninthWorld past' ⟨{ c.world with accepted := c.world.accepted + 1 },
        Function.update c.running id (some (hkBroker, rest (.ok dollar)))⟩ := by
  intro _ _ run reached
  have forward : Step liveSurroundings BrokerCall.program c
      (.perform id (.forward arguments) (.ok dollar)) _ :=
    .perform (.ok dollar) reached (World.accepts c.world arguments (.ok dollar))
  exact ⟨_, run.snoc (t := ⟨_, _, _⟩) forward⟩

-- Two orders are checked against one count, and the broker accepts both.
theorem capKept_fails : ¬ @CapKept asciiText (extracting hkNotional) "robinhood" := by
  intro kept
  let _ := asciiText
  let _ := extracting hkNotional
  obtain ⟨mandate, parsed, cap⟩ := hkMandate_parsed
  obtain ⟨first, second, counted⟩ := ninthWorld_forwards
  obtain ⟨past, arguments, rest, run⟩ := reads_run 0 Run.nil rfl first
  obtain ⟨past', arguments', rest', run'⟩ := reads_run 1 run rfl second
  obtain ⟨past, run⟩ := forward_run 0 run' rfl
  obtain ⟨past', run'⟩ := forward_run 1 run rfl
  have within := kept _ mandate ninthWorld _ _ rfl parsed (ninthWorld_settled cap) run'
  rw [cap] at within
  simp only [counted] at within
  omega

end Race

end SynapseYield.Live
