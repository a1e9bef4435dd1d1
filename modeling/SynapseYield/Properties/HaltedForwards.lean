import SynapseYield.Live.World
import SynapseYield.Properties.GateAgreement

set_option autoImplicit false

namespace SynapseYield.Live

open Shared

def unwatched : Operation → Prop
  | .pathExists _ => False
  | .forward _ => False
  | _ => True

theorem reads_unwatched (op : Operation) (reads : op.reads) : unwatched op := by
  cases op <;> trivial

theorem stores_unwatched (op : Operation) (stores : op.stores) : unwatched op := by
  cases op <;> trivial

theorem advises_unwatched (op : Operation) (advises : op.advises) : unwatched op := by
  cases op <;> trivial

theorem audits_unwatched (op : Operation) (audits : op.audits) : unwatched op := by
  cases op <;> trivial

variable [PyText]

inductive HaltPhase where
  | unchecked
  | globalClear
  | clear

-- An order is forwarded after both sentinels were looked for and not found.
def haltProtocol (broker : PyString) : Protocol Operation.Reply where
  Phase := HaltPhase
  allows phase op := match op with
    | .forward _ => phase = .clear
    | _ => True
  next phase op := match op with
    | .pathExists .haltFlag => fun found =>
      match phase with
      | .unchecked => if found then .unchecked else .globalClear
      | _ => phase
    | .pathExists (.brokerHaltFlag key) => fun found =>
      match phase with
      | .globalClear => if found = false ∧ brokerDir broker = .ok key then .clear else phase
      | _ => phase
    | _ => fun _ => phase

section Protocol

variable {broker : PyString}

abbrev Kept {α : Type} (broker : PyString) (post : α → HaltPhase → Prop) (phase : HaltPhase)
    (x : Program α) : Prop :=
  (haltProtocol broker).Obeys post (fun _ _ => True) phase x

theorem unwatched_unnoticed (phase : HaltPhase) (op : Operation) (quiet : unwatched op) :
    (haltProtocol broker).allows phase op ∧
      ∀ reply, (haltProtocol broker).next phase op reply = phase := by
  cases op with
  | pathExists path => cases quiet
  | forward arguments => cases quiet
  | _ => exact ⟨trivial, fun _ => rfl⟩

theorem Kept.after {α β : Type} {phase : HaltPhase} {x : Program α} {f : α → Program β}
    {post : β → HaltPhase → Prop} (quiet : x.Uses unwatched)
    (rest : ∀ a, Kept broker post phase (f a)) : Kept broker post phase (x >>= f) :=
  quiet.obeys_bind (unwatched_unnoticed phase) (fun _ => trivial) rest

theorem Kept.quiet {α : Type} {phase : HaltPhase} {x : Program α} {post : α → HaltPhase → Prop}
    (quiet : x.Uses unwatched) (holds : ∀ a, post a phase) : Kept broker post phase x := by
  refine (quiet.obeys (unwatched_unnoticed phase)).mono ?_ fun _ _ _ => trivial
  rintro a _ rfl
  exact holds a

theorem haltFlagSet_kept :
    Kept broker (fun halted s => halted = false → s = .clear) .unchecked (haltFlagSet broker) := by
  unfold haltFlagSet
  rw [Process.ask_bind]
  refine ⟨trivial, fun found => ?_⟩
  cases found with
  | true => exact nofun
  | false =>
    cases named : brokerDir broker with
    | error raised => exact nofun
    | ok key =>
      refine ⟨trivial, fun found => ?_⟩
      rintro rfl
      simp [haltProtocol, named]

theorem preflight_kept :
    Kept broker (fun ready s => match ready with | .ok _ => s = .clear | .error _ => True) .unchecked
      (preflight broker) := by
  refine Kept.after ((loadMandate_stores broker).mono stores_unwatched) fun mandate => ?_
  cases mandate with
  | none => exact .done trivial
  | some mandate =>
    dsimp only
    split
    · exact .done trivial
    refine Kept.after ((isExpired_stores mandate).mono stores_unwatched) fun expired => ?_
    split
    · exact .done trivial
    refine haltFlagSet_kept.bind fun halted s clear => ?_
    split
    · exact .done trivial
    next running => exact .done (clear (Bool.eq_false_iff.mpr running))

variable [Trading] {ceremony : Ceremony}

theorem rule_kept :
    Kept ceremony.gate.broker
      (fun ruling s => match ruling with | .allow _ _ _ _ => s = .clear | _ => True) .unchecked
      ceremony.rule := by
  refine preflight_kept.bind fun ready s clear => ?_
  cases ready with
  | error denial => exact .done trivial
  | ok mandate =>
    obtain rfl := clear
    refine Kept.after ((ceremony.snapshotReads mandate).mono reads_unwatched) fun taken => ?_
    cases taken with
    | error denial => exact .done trivial
    | ok taken =>
      refine Kept.quiet ((checkOrder_stores _ _ _ _ _).mono stores_unwatched) fun ruling => ?_
      cases ruling <;> trivial

omit [Trading] in
theorem settle_unwatched (mandate : Mandate) (intent : OrderIntent) (advisory : Option PyDict)
    (placement : Placement) :
    (ceremony.settle mandate intent advisory placement).Uses unwatched := by
  have recorded : (do
      let record ← audit (ceremony.forwarded mandate intent advisory placement)
      ceremony.answer placement.result record).Uses unwatched :=
    .bind ((audit_audits _).mono audits_unwatched) fun _ =>
      (ceremony.answerQuiet _ _).mono fun _ impossible => impossible.elim
  unfold Ceremony.settle
  split
  · exact .bind ((incrementDailyCount_stores _).mono stores_unwatched) fun _ => recorded
  · exact recorded

theorem execute_kept :
    Kept ceremony.gate.broker (fun _ _ => True) .unchecked ceremony.execute := by
  refine rule_kept.bind fun ruling s clear => ?_
  cases ruling with
  | deny denial => exact Kept.quiet ((deny_audits _ _).mono audits_unwatched) fun _ => trivial
  | breach event mandate intent =>
    exact Kept.quiet ((denyBreach_audits _ _ _ _).mono audits_unwatched) fun _ => trivial
  | allow mandate intent positions balance =>
    obtain rfl := clear
    refine Kept.after ((ceremony.reviewAdvises _ _).mono advises_unwatched) fun advisory => ?_
    refine ⟨rfl, fun reply => ?_⟩
    exact Kept.quiet (.bind trivial fun reply => .bind (.ofExcept _) fun placement =>
      settle_unwatched _ _ _ _) fun _ => trivial

theorem program_kept (call : GateCall) :
    Kept call.broker (fun _ _ => True) .unchecked call.program := by
  rw [call.program_ceremony]
  exact execute_kept

end Protocol

section Runs

-- The looks that a call has behind it in a phase.
def Looked (broker : PyString) (phase : HaltPhase) (events : List (Sigma Operation.Reply)) : Prop :=
  match phase with
  | .unchecked => True
  | .globalClear => ⟨.pathExists .haltFlag, false⟩ ∈ events
  | .clear => ⟨.pathExists .haltFlag, false⟩ ∈ events ∧
    ∃ key, brokerDir broker = .ok key ∧ ⟨.pathExists (.brokerHaltFlag key), false⟩ ∈ events

theorem Looked.mono {broker : PyString} {phase : HaltPhase}
    {events more : List (Sigma Operation.Reply)} (looked : Looked broker phase events)
    (kept : events ⊆ more) : Looked broker phase more := by
  cases phase with
  | unchecked => trivial
  | globalClear => exact kept looked
  | clear =>
    obtain ⟨globally, key, named, locally⟩ := looked
    exact ⟨kept globally, key, named, kept locally⟩

theorem Looked.next {broker : PyString} {phase : HaltPhase}
    {events : List (Sigma Operation.Reply)} (op : Operation) (reply : op.Reply)
    (looked : Looked broker phase events) :
    Looked broker ((haltProtocol broker).next phase op reply) (events ++ [⟨op, reply⟩]) := by
  have kept := looked.mono (List.subset_append_left events [⟨op, reply⟩])
  cases op with
  | pathExists path =>
    cases path with
    | haltFlag =>
      cases phase with
      | unchecked =>
        cases reply with
        | true => trivial
        | false => exact List.mem_append_right _ List.mem_cons_self
      | globalClear => exact kept
      | clear => exact kept
    | brokerHaltFlag key =>
      cases phase with
      | unchecked => trivial
      | globalClear =>
        dsimp only [haltProtocol]
        split
        next absent =>
          obtain ⟨rfl, named⟩ := absent
          exact ⟨kept, key, named, List.mem_append_right _ List.mem_cons_self⟩
        next => exact kept
      | clear => exact kept
    | _ => exact kept
  | _ => exact kept

variable [Trading]

abbrev GateConfig := Config GateCall World PyError Operation.Reply PyValue

abbrev GateTransition := Transition GateCall World PyError Operation.Reply PyValue

abbrev GateRun (world : World) (past : List GateTransition) (c : GateConfig) : Prop :=
  Run liveSurroundings GateCall.program world past c

def LookedFor (id : Nat) (path : LivePath) (before : List GateTransition) : Prop :=
  ∃ t ∈ before, t.action = .perform id (.pathExists path) false ∧ t.before.world.files path = none

theorem lookedFor {world : World} {before : List GateTransition} {c : GateConfig} {id : Nat}
    {path : LivePath} (run : GateRun world before c)
    (found : ⟨.pathExists path, false⟩ ∈ eventsOf id before) : LookedFor id path before := by
  obtain ⟨t, member, acted⟩ := mem_eventsOf found
  obtain ⟨earlier, later, place⟩ := List.append_of_mem member
  refine ⟨t, member, acted, ?_⟩
  obtain ⟨-, step⟩ := run.split place
  obtain ⟨origin, action, after⟩ := t
  dsimp only at acted step ⊢
  subst acted
  cases step with
  | perform reply reached answered =>
    exact Option.isNone_iff_eq_none.mp (Option.isSome_eq_false_iff.mp answered.2.symm)

theorem forward_looked {world : World} {past before later : List GateTransition} {c : GateConfig}
    {t : GateTransition} {id : Nat} {arguments : PyDict} {reply : Except Failure PyValue}
    {call : GateCall} {x : Program PyValue} (run : GateRun world past c)
    (place : past = before ++ t :: later)
    (forwarded : t.action = .perform id (.forward arguments) reply)
    (running : t.before.running id = some (call, x)) :
    LookedFor id .haltFlag before ∧
      ∃ key, brokerDir call.broker = .ok key ∧ LookedFor id (.brokerHaltFlag key) before := by
  obtain ⟨earlier, -⟩ := run.split place
  obtain ⟨call', x', running', allowed⟩ := run.allowed program_kept place forwarded
  rw [running, Option.some.injEq, Prod.mk.injEq] at running'
  obtain ⟨rfl, rfl⟩ := running'
  have looked : Looked call.broker .clear (eventsOf id before) := by
    rw [← show _ = HaltPhase.clear from allowed]
    exact Protocol.after_induction trivial (fun op reply => Looked.next op reply) _
  obtain ⟨globally, key, named, locally⟩ := looked
  exact ⟨lookedFor earlier globally, key, named, lookedFor earlier locally⟩

def SilentWhenHalted : Prop :=
  ∀ (world : World) (past before later : List GateTransition) (c : GateConfig)
    (t : GateTransition) (id : Nat) (arguments : PyDict) (reply : Except Failure PyValue),
    GateRun world past c → past = before ++ t :: later →
      t.action = .perform id (.forward arguments) reply → t.before.world.files .haltFlag = none

end Runs

section Tripped

omit [PyText]

def hkNotional : OrderIntent := { hkBuy with quantity := none, notionalUsd := some (.finite 100) }

def openWorld : World where
  files path := if path = .mandate "robinhood" then some hkMandate else none
  tmp _ := none
  accepted := 0
  today := noText

def hkCall : GateCall := .guard robinhoodTool []

def forwardsNext : Program PyValue → Bool
  | .perform (.forward _) _ => true
  | _ => false

theorem forwardsNext_iff {x : Program PyValue} (next : forwardsNext x = true) :
    ∃ arguments rest, x = .perform (.forward arguments) rest := by
  unfold forwardsNext at next
  split at next
  next arguments rest => exact ⟨arguments, rest, rfl⟩
  next => cases next

theorem hkCall_checked :
    let _ := asciiText
    let _ := extracting hkNotional
    forwardsNext (Process.advance (World.pick hkAnswers) 9 openWorld hkCall.program).2 = true := by
  decide +kernel

theorem hkCall_run :
    let _ := asciiText
    let _ := extracting hkNotional
    ∃ past c arguments rest, GateRun openWorld past c ∧
      c.running 0 = some (hkCall, .perform (.forward arguments) rest) := by
  intro _ _
  have start : Step liveSurroundings GateCall.program
      (⟨openWorld, fun _ => none⟩ : GateConfig) (.start 0 hkCall) _ := .start 0 hkCall rfl
  obtain ⟨later, run, -⟩ := Run.advance (World.pick_answers hkAnswers) 9
    (Run.nil.snoc (t := ⟨_, _, _⟩) start) (Function.update_self ..)
  obtain ⟨arguments, rest, checked⟩ := forwardsNext_iff hkCall_checked
  refine ⟨_, _, arguments, rest, run, ?_⟩
  dsimp only
  rw [Function.update_self]
  exact congrArg (fun x => some (hkCall, x)) checked

theorem forward_looked_hkCall :
    let _ := asciiText
    let _ := extracting hkNotional
    ∃ before : List GateTransition, LookedFor 0 .haltFlag before ∧
      ∃ key, brokerDir hkCall.broker = .ok key ∧ LookedFor 0 (.brokerHaltFlag key) before := by
  intro _ _
  obtain ⟨past, c, arguments, rest, run, checked⟩ := hkCall_run
  have forward : Step liveSurroundings GateCall.program c
      (.perform 0 (.forward arguments) (.ok dollar)) _ :=
    .perform (.ok dollar) checked (World.rejects _ arguments (.ok dollar))
  exact ⟨past, forward_looked (run.snoc (t := ⟨_, _, _⟩) forward) rfl rfl checked⟩

-- The switch is tripped between the check and the forward of an order.
theorem silentWhenHalted_fails : ¬ @SilentWhenHalted asciiText (extracting hkNotional) := by
  intro silent
  let _ := asciiText
  let _ := extracting hkNotional
  obtain ⟨past, c, arguments, rest, run, checked⟩ := hkCall_run
  let halted : GateConfig := { c with world := c.world.setFile .haltFlag (some (.dict [])) }
  have trip : Step liveSurroundings GateCall.program c .move halted :=
    .move ⟨.haltFlag, some (.dict []), .inl rfl, rfl⟩
  have reached : halted.running 0 = some (hkCall, .perform (.forward arguments) rest) := checked
  have forward : Step liveSurroundings GateCall.program halted
      (.perform 0 (.forward arguments) (.ok dollar)) _ :=
    .perform (.ok dollar) reached (World.rejects _ arguments (.ok dollar))
  have absent := silent _ _ _ _ _ _ _ _ _
    ((run.snoc (t := ⟨_, _, _⟩) trip).snoc (t := ⟨_, _, _⟩) forward) rfl rfl
  simp [World.setFile] at absent

end Tripped

end SynapseYield.Live
