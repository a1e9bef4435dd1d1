import Mathlib.Data.List.Basic
import Mathlib.Data.List.Induction
import Mathlib.Logic.Function.Basic
import SynapseYield.Shared.Process

set_option autoImplicit false

namespace Shared

variable {ε Op α Call World : Type} {Reply : Op → Type}

-- How a world answers an operation, and how it moves by itself.
structure Surroundings (Reply : Op → Type) (World : Type) where
  answers : World → (op : Op) → Reply op → World → Prop
  moves : World → World → Prop

-- Calls side by side, each with what is left of its program.
structure Config (Call World ε : Type) (Reply : Op → Type) (α : Type) where
  world : World
  running : Nat → Option (Call × Process ε Reply α)

inductive Action (Call : Type) (Reply : Op → Type) where
  | start (id : Nat) (call : Call)
  | perform (id : Nat) (op : Op) (reply : Reply op)
  | move

inductive Step (S : Surroundings Reply World) (program : Call → Process ε Reply α) :
    Config Call World ε Reply α → Action Call Reply → Config Call World ε Reply α → Prop where
  | start {c : Config Call World ε Reply α} (id : Nat) (call : Call) (fresh : c.running id = none) :
      Step S program c (.start id call)
        { c with running := Function.update c.running id (some (call, program call)) }
  | perform {c : Config Call World ε Reply α} {id : Nat} {call : Call} {op : Op}
      {next : Reply op → Process ε Reply α} (reply : Reply op) {world : World}
      (reached : c.running id = some (call, .perform op next))
      (answered : S.answers c.world op reply world) :
      Step S program c (.perform id op reply)
        ⟨world, Function.update c.running id (some (call, next reply))⟩
  | move {c : Config Call World ε Reply α} {world : World} (moved : S.moves c.world world) :
      Step S program c .move { c with world }

structure Transition (Call World ε : Type) (Reply : Op → Type) (α : Type) where
  before : Config Call World ε Reply α
  action : Action Call Reply
  after : Config Call World ε Reply α

-- The transitions of a run, in order, and the configuration that they lead to.
inductive Run (S : Surroundings Reply World) (program : Call → Process ε Reply α) (world : World) :
    List (Transition Call World ε Reply α) → Config Call World ε Reply α → Prop where
  | nil : Run S program world [] ⟨world, fun _ => none⟩
  | snoc {past : List (Transition Call World ε Reply α)} {t : Transition Call World ε Reply α}
      (run : Run S program world past t.before) (step : Step S program t.before t.action t.after) :
      Run S program world (past ++ [t]) t.after

def Transition.event (id : Nat) (t : Transition Call World ε Reply α) :
    Option (Sigma Reply) :=
  match t.action with
  | .perform i op reply => if i = id then some ⟨op, reply⟩ else none
  | _ => none

def eventsOf (id : Nat) (past : List (Transition Call World ε Reply α)) : List (Sigma Reply) :=
  past.filterMap (Transition.event id)

def Protocol.after (P : Protocol Reply) (phase : P.Phase) (events : List (Sigma Reply)) : P.Phase :=
  events.foldl (fun phase event => P.next phase event.1 event.2) phase

theorem Protocol.after_induction {P : Protocol Reply} {phase : P.Phase}
    {holds : P.Phase → List (Sigma Reply) → Prop} (first : holds phase [])
    (step : ∀ {reached events} (op : Op) (reply : Reply op), holds reached events →
      holds (P.next reached op reply) (events ++ [⟨op, reply⟩])) (events : List (Sigma Reply)) :
    holds (P.after phase events) events := by
  induction events using List.reverseRecOn with
  | nil => exact first
  | append_singleton events event ih =>
    rw [Protocol.after, List.foldl_concat]
    exact step event.1 event.2 ih

section Runs

variable {S : Surroundings Reply World} {program : Call → Process ε Reply α} {world : World}
  {past : List (Transition Call World ε Reply α)} {c : Config Call World ε Reply α}
  {t : Transition Call World ε Reply α}

theorem eventsOf_snoc (id : Nat) :
    eventsOf id (past ++ [t]) = eventsOf id past ++ (t.event id).toList := by
  cases event : t.event id <;> simp [eventsOf, event]

theorem mem_eventsOf {id : Nat} {op : Op} {reply : Reply op}
    (member : ⟨op, reply⟩ ∈ eventsOf id past) :
    ∃ t ∈ past, t.action = .perform id op reply := by
  obtain ⟨t, present, event⟩ := List.mem_filterMap.mp member
  refine ⟨t, present, ?_⟩
  unfold Transition.event at event
  split at event
  next i op' reply' acted =>
    split at event
    next same =>
      cases event
      rw [acted, same]
    next => cases event
  next => cases event

theorem Run.split {before later : List (Transition Call World ε Reply α)}
    (run : Run S program world past c) (place : past = before ++ t :: later) :
    Run S program world before t.before ∧ Step S program t.before t.action t.after := by
  induction run generalizing later with
  | nil => simp at place
  | @snoc past last run step ih =>
    rcases List.eq_nil_or_concat later with rfl | ⟨later, final, rfl⟩
    · obtain ⟨rfl, rfl⟩ := List.append_singleton_inj.mp place
      exact ⟨run, step⟩
    · rw [List.concat_eq_append, ← List.cons_append, ← List.append_assoc] at place
      exact ih (List.append_singleton_inj.mp place).1

theorem Run.untouched {id : Nat} (run : Run S program world past c) (fresh : c.running id = none) :
    eventsOf id past = [] := by
  induction run with
  | nil => rfl
  | @snoc past t run step ih =>
    obtain ⟨before, action, after⟩ := t
    dsimp only at run step ih fresh
    rw [eventsOf_snoc]
    cases step with
    | start other call new =>
      by_cases same : id = other
      · subst same
        simp at fresh
      · replace fresh := (Function.update_of_ne same _ _).symm.trans fresh
        simpa [Transition.event] using ih fresh
    | @perform other call op next reply after reached answered =>
      by_cases same : id = other
      · subst same
        simp at fresh
      · replace fresh := (Function.update_of_ne same _ _).symm.trans fresh
        simpa [Transition.event, Ne.symm same] using ih fresh
    | move moved => simpa [Transition.event] using ih fresh

variable {protocol : Call → Protocol Reply} {first : (call : Call) → (protocol call).Phase}
  {post : (call : Call) → α → (protocol call).Phase → Prop}
  {fail : (call : Call) → ε → (protocol call).Phase → Prop}

theorem Run.obeys (run : Run S program world past c)
    (obeys : ∀ call, (protocol call).Obeys (post call) (fail call) (first call) (program call))
    {id : Nat} {call : Call} {x : Process ε Reply α} (present : c.running id = some (call, x)) :
    (protocol call).Obeys (post call) (fail call)
      ((protocol call).after (first call) (eventsOf id past)) x := by
  induction run generalizing x with
  | nil => cases present
  | @snoc past t run step ih =>
    obtain ⟨before, action, after⟩ := t
    dsimp only at run step ih present
    rw [eventsOf_snoc]
    cases step with
    | start other started new =>
      by_cases same : id = other
      · subst same
        simp only [Function.update_self, Option.some.injEq, Prod.mk.injEq] at present
        obtain ⟨rfl, rfl⟩ := present
        rw [run.untouched new]
        exact obeys started
      · replace present := (Function.update_of_ne same _ _).symm.trans present
        simpa [Transition.event] using ih present
    | @perform other caller op next reply after reached answered =>
      by_cases same : id = other
      · subst same
        simp only [Function.update_self, Option.some.injEq, Prod.mk.injEq] at present
        obtain ⟨rfl, rfl⟩ := present
        simpa [Transition.event, Protocol.after] using (ih reached).2 reply
      · replace present := (Function.update_of_ne same _ _).symm.trans present
        simpa [Transition.event, Ne.symm same] using ih present
    | move moved => simpa [Transition.event] using ih present

theorem Run.allowed {before later : List (Transition Call World ε Reply α)} {id : Nat} {op : Op}
    {reply : Reply op} (run : Run S program world past c)
    (obeys : ∀ call, (protocol call).Obeys (post call) (fail call) (first call) (program call))
    (place : past = before ++ t :: later) (acted : t.action = .perform id op reply) :
    ∃ call x, t.before.running id = some (call, x) ∧
      (protocol call).allows ((protocol call).after (first call) (eventsOf id before)) op := by
  obtain ⟨earlier, step⟩ := run.split place
  obtain ⟨origin, action, after⟩ := t
  dsimp only at acted earlier step ⊢
  subst acted
  cases step with
  | perform reply reached answered => exact ⟨_, _, reached, (earlier.obeys obeys reached).1⟩

section Phases

variable {P : Protocol Reply} {first : Call → P.Phase} {post : α → P.Phase → Prop}
  {fail : ε → P.Phase → Prop}

def Config.phases (P : Protocol Reply) (first : Call → P.Phase)
    (past : List (Transition Call World ε Reply α)) (c : Config Call World ε Reply α) :
    Nat → Option P.Phase :=
  fun id => match c.running id with
    | some (call, .perform _ _) => some (P.after (first call) (eventsOf id past))
    | _ => none

-- The phase of a call that has operations left, and none of one that has come to its end.
def phaseOf (phase : P.Phase) : Process ε Reply α → Option P.Phase
  | .perform _ _ => some phase
  | _ => none

theorem Config.phases_running {id : Nat} {call : Call} {x : Process ε Reply α}
    (present : c.running id = some (call, x)) :
    c.phases P first past id = phaseOf (P.after (first call) (eventsOf id past)) x := by
  unfold Config.phases phaseOf
  rw [present]
  cases x <;> rfl

theorem Config.phases_some {id : Nat} {phase : P.Phase}
    (reached : c.phases P first past id = some phase) :
    ∃ call op next, c.running id = some (call, .perform op next) ∧
      phase = P.after (first call) (eventsOf id past) := by
  unfold Config.phases at reached
  split at reached
  next call op next running => exact ⟨call, op, next, running, (Option.some.inj reached).symm⟩
  next => cases reached

theorem Config.phases_other {c' : Config Call World ε Reply α} {id : Nat}
    (same : c'.running id = c.running id) (idle : t.event id = none) :
    c'.phases P first (past ++ [t]) id = c.phases P first past id := by
  unfold Config.phases
  rw [same, eventsOf_snoc, idle, Option.toList_none, List.append_nil]

theorem Config.phases_start {id : Nat} {call : Call} (run : Run S program world past c)
    (fresh : c.running id = none) (acted : t.action = .start id call)
    (started : t.after.running = Function.update c.running id (some (call, program call))) :
    t.after.phases P first (past ++ [t]) =
      Function.update (c.phases P first past) id (phaseOf (first call) (program call)) := by
  funext other
  by_cases same : other = id
  · subst same
    have silent : eventsOf other (past ++ [t]) = [] := by
      rw [eventsOf_snoc, run.untouched fresh, Transition.event, acted]
      rfl
    rw [Config.phases_running (congrFun started other |>.trans (Function.update_self ..)),
      Function.update_self, silent]
    rfl
  · rw [Config.phases_other (congrFun started other |>.trans (Function.update_of_ne same ..)),
      Function.update_of_ne same]
    rw [Transition.event, acted]

theorem Config.phases_perform {id : Nat} {call : Call} {op : Op} {reply : Reply op}
    {x : Process ε Reply α} (acted : t.action = .perform id op reply)
    (continued : t.after.running = Function.update c.running id (some (call, x))) :
    t.after.phases P first (past ++ [t]) =
      Function.update (c.phases P first past) id
        (phaseOf (P.next (P.after (first call) (eventsOf id past)) op reply) x) := by
  funext other
  by_cases same : other = id
  · subst same
    have event : t.event other = some ⟨op, reply⟩ := by
      rw [Transition.event, acted]
      exact if_pos rfl
    rw [Config.phases_running (congrFun continued other |>.trans (Function.update_self ..)),
      Function.update_self, eventsOf_snoc, event, Protocol.after, Option.toList_some,
      List.foldl_concat]
    rfl
  · have event : t.event other = none := by
      rw [Transition.event, acted]
      exact if_neg (Ne.symm same)
    rw [Config.phases_other (congrFun continued other |>.trans (Function.update_of_ne same ..)) event,
      Function.update_of_ne same]

theorem Run.invariant {Inv : World → (Nat → Option P.Phase) → Prop}
    {Fair : List (Transition Call World ε Reply α) → Transition Call World ε Reply α → Prop}
    (obeys : ∀ call, P.Obeys post fail (first call) (program call))
    (start : Inv world fun _ => none)
    (begun : ∀ {world phases id} call, Inv world phases → phases id = none →
      Inv world (Function.update phases id (some (first call))))
    (performed : ∀ {past t id op reply phase}, Fair past t → t.action = .perform id op reply →
      Inv t.before.world (t.before.phases P first past) →
      t.before.phases P first past id = some phase → P.allows phase op →
      S.answers t.before.world op reply t.after.world →
      Inv t.after.world (Function.update (t.before.phases P first past) id
          (some (P.next phase op reply))) ∧
        ((∃ a, post a (P.next phase op reply)) ∨ (∃ e, fail e (P.next phase op reply)) →
          Inv t.after.world (Function.update (t.before.phases P first past) id none)))
    (moved : ∀ {world world' phases}, Inv world phases → S.moves world world' → Inv world' phases)
    (run : Run S program world past c)
    (fair : ∀ before t later, past = before ++ t :: later → Fair before t) :
    Inv c.world (c.phases P first past) := by
  induction run with
  | nil => exact start
  | @snoc past t run step ih =>
    have before := ih fun earlier t' later place =>
      fair earlier t' (later ++ [t]) (by rw [place, List.append_assoc, List.cons_append])
    have fairly := fair past t [] rfl
    obtain ⟨origin, action, after⟩ := t
    dsimp only at run step before fairly ⊢
    cases step with
    | start id call fresh =>
      rw [Config.phases_start run fresh rfl rfl]
      have idle : origin.phases P first past id = none := by
        unfold Config.phases
        rw [fresh]
      cases program call with
      | perform op next => exact begun call before idle
      | done value => simpa [phaseOf, ← idle] using before
      | raise error => simpa [phaseOf, ← idle] using before
    | @perform id call op next reply world reached answered =>
      rw [Config.phases_perform rfl rfl]
      have kept := (run.obeys (fun call => obeys call) reached).2 reply
      obtain ⟨continues, ends⟩ := performed fairly rfl before (Config.phases_running reached)
        (run.obeys (fun call => obeys call) reached).1 answered
      cases left : next reply with
      | perform op next => exact continues
      | done value =>
        rw [left] at kept
        exact ends (.inl ⟨value, kept⟩)
      | raise error =>
        rw [left] at kept
        exact ends (.inr ⟨error, kept⟩)
    | @move world change =>
      have same : Config.phases P first (past ++ [⟨origin, .move, { origin with world }⟩])
          { origin with world } = origin.phases P first past :=
        funext fun id => Config.phases_other rfl rfl
      rw [same]
      exact moved before change

end Phases

theorem Run.started (run : Run S program world past c) (id : Nat) (fresh : c.running id = none)
    (call : Call) :
    ∃ t, Run S program world (past ++ [t])
      ⟨c.world, Function.update c.running id (some (call, program call))⟩ := by
  have start : Step S program c (.start id call) _ := .start id call fresh
  exact ⟨_, run.snoc (t := ⟨c, _, _⟩) start⟩

-- The run that lets one call do n operations, each with the answer that is picked for it.
def Process.advance (pick : World → (op : Op) → Reply op × World) :
    Nat → World → Process ε Reply α → World × Process ε Reply α
  | n + 1, world, .perform op next =>
    Process.advance pick n (pick world op).2 (next (pick world op).1)
  | _, world, x => (world, x)

-- A transition in which the call is given the answer that is picked, and the others wait.
def Picked (pick : World → (op : Op) → Reply op × World) (id : Nat) (call : Call)
    (c : Config Call World ε Reply α) (t : Transition Call World ε Reply α) : Prop :=
  ∃ op x, t.action = .perform id op (pick t.before.world op).1 ∧
    t.after.world = (pick t.before.world op).2 ∧ t.before.running id = some (call, x) ∧
    ∀ other, other ≠ id → t.before.running other = c.running other

theorem Run.advance {pick : World → (op : Op) → Reply op × World}
    (valid : ∀ world op, S.answers world op (pick world op).1 (pick world op).2) (n : Nat) {id : Nat}
    {call : Call} {x : Process ε Reply α} (run : Run S program world past c)
    (present : c.running id = some (call, x)) :
    ∃ later, Run S program world (past ++ later)
      ⟨(Process.advance pick n c.world x).1,
        Function.update c.running id (some (call, (Process.advance pick n c.world x).2))⟩ ∧
      ∀ t ∈ later, Picked pick id call c t := by
  have stay : Function.update c.running id (some (call, x)) = c.running := by
    rw [← present, Function.update_eq_self]
  induction n generalizing past c x with
  | zero => exact ⟨[], by simpa [Process.advance, stay] using run, nofun⟩
  | succ n ih =>
    cases x with
    | done value => exact ⟨[], by simpa [Process.advance, stay] using run, nofun⟩
    | raise error => exact ⟨[], by simpa [Process.advance, stay] using run, nofun⟩
    | perform op next =>
      have step : Step S program c (.perform id op (pick c.world op).1) _ :=
        .perform (pick c.world op).1 present (valid c.world op)
      obtain ⟨later, rest, picked⟩ := ih (run.snoc (t := ⟨c, _, _⟩) step)
        (Function.update_self ..) (Function.update_idem ..)
      rw [List.append_assoc] at rest
      simp only [Process.advance, Function.update_idem] at rest ⊢
      refine ⟨_, rest, fun t member => ?_⟩
      obtain rfl | member := List.mem_cons.mp member
      · exact ⟨op, _, rfl, rfl, present, fun _ _ => rfl⟩
      · obtain ⟨op, x, acted, moved, running, waiting⟩ := picked t member
        exact ⟨op, x, acted, moved, running, fun other apart =>
          (waiting other apart).trans (Function.update_of_ne apart ..)⟩

end Runs

-- How a call ends: its process may die before any operation.
inductive Ending (ε α : Type) where
  | returned (value : α)
  | raised (error : ε)
  | died

section Alone

variable {ε Op α β World : Type} {Reply : Op → Type}

-- A program that nothing runs beside, from one world to another
inductive Plays (S : Surroundings Reply World) :
    World → Process ε Reply α → World → Ending ε α → Prop where
  | done {world : World} (value : α) : Plays S world (.done value) world (.returned value)
  | raise {world : World} (error : ε) : Plays S world (.raise error) world (.raised error)
  | died {world : World} (x : Process ε Reply α) : Plays S world x world .died
  | perform {world next after : World} {op : Op} {rest : Reply op → Process ε Reply α}
      {ending : Ending ε α} (reply : Reply op) (answered : S.answers world op reply next)
      (plays : Plays S next (rest reply) after ending) :
      Plays S world (.perform op rest) after ending

-- The invariant holds wherever the program may die, and the others where it ends.
def Safe (S : Surroundings Reply World) (always : World → Prop) (post : α → World → Prop)
    (fail : ε → World → Prop) : World → Process ε Reply α → Prop
  | world, .done value => always world ∧ post value world
  | world, .raise error => always world ∧ fail error world
  | world, .perform op rest => always world ∧
      ∀ reply next, S.answers world op reply next → Safe S always post fail next (rest reply)

variable {S : Surroundings Reply World} {always : World → Prop} {post mid : α → World → Prop}
  {fail : ε → World → Prop} {world after : World} {x : Process ε Reply α}

theorem Safe.now (safe : Safe S always post fail world x) : always world := by
  cases x with
  | done value => exact safe.1
  | raise error => exact safe.1
  | perform op rest => exact safe.1

theorem Safe.plays {ending : Ending ε α} (safe : Safe S always post fail world x)
    (plays : Plays S world x after ending) :
    always after ∧ (∀ value, ending = .returned value → post value after) ∧
      ∀ error, ending = .raised error → fail error after := by
  induction plays with
  | done value =>
    refine ⟨safe.1, fun other same => ?_, nofun⟩
    cases same
    exact safe.2
  | raise error =>
    refine ⟨safe.1, nofun, fun other same => ?_⟩
    cases same
    exact safe.2
  | died x => exact ⟨safe.now, nofun, nofun⟩
  | perform reply answered plays ih => exact ih (safe.2 _ _ answered)

theorem Safe.bind {f : α → Process ε Reply β} {post : β → World → Prop}
    (first : Safe S always mid fail world x)
    (rest : ∀ value after, always after → mid value after → Safe S always post fail after (f value)) :
    Safe S always post fail world (x >>= f) := by
  induction x generalizing world with
  | done value => exact rest value world first.1 first.2
  | raise error => exact first
  | perform op next ih =>
    exact ⟨first.1, fun reply after answered => ih reply (first.2 reply after answered)⟩

theorem Safe.mono {always' : World → Prop} {post' : α → World → Prop} {fail' : ε → World → Prop}
    (safe : Safe S always post fail world x) (keeps : ∀ world, always world → always' world)
    (returns : ∀ value world, post value world → post' value world)
    (raises : ∀ error world, fail error world → fail' error world) :
    Safe S always' post' fail' world x := by
  induction x generalizing world with
  | done value => exact ⟨keeps _ safe.1, returns _ _ safe.2⟩
  | raise error => exact ⟨keeps _ safe.1, raises _ _ safe.2⟩
  | perform op next ih =>
    exact ⟨keeps _ safe.1, fun reply after answered => ih reply (safe.2 reply after answered)⟩

theorem Safe.ask {op : Op} {post : Reply op → World → Prop} (holds : always world)
    (answered : ∀ reply next, S.answers world op reply next → always next ∧ post reply next) :
    Safe S always post fail world (Process.ask op) := ⟨holds, answered⟩

theorem Safe.ofExcept {result : Except ε α} (holds : always world)
    (ok : ∀ value, result = .ok value → post value world)
    (error : ∀ raised, result = .error raised → fail raised world) :
    Safe S always post fail world (Process.ofExcept result) := by
  cases result with
  | ok value => exact ⟨holds, ok value rfl⟩
  | error raised => exact ⟨holds, error raised rfl⟩

end Alone

end Shared
