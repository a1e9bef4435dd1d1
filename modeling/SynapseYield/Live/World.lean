import SynapseYield.Live.Ceremony
import SynapseYield.Shared.Interleaving

set_option autoImplicit false

namespace SynapseYield.Live

open Shared

-- The files of the live channel, the orders that the broker has accepted, and the UTC date.
structure World where
  files : LivePath → Option PyValue
  tmp : LivePath → Option PyValue
  accepted : Nat
  today : AsciiString

def World.setFile (world : World) (path : LivePath) (document : Option PyValue) : World :=
  { world with files := Function.update world.files path document }

def World.setTmp (world : World) (path : LivePath) (document : Option PyValue) : World :=
  { world with tmp := Function.update world.tmp path document }

-- A write that fails may leave anything in the temporary file, and nothing else.
def World.answers (world : World) : (op : Operation) → op.Reply → World → Prop
  | .readJson path, reply, world' =>
    world' = world ∧ (reply = .ok (world.files path) ∨ ∃ raised, reply = .error raised)
  | .pathExists path, reply, world' => world' = world ∧ reply = (world.files path).isSome
  | .writeTmp path document, reply, world' =>
    reply = .ok () ∧ world' = world.setTmp path document ∨
      (∃ raised, reply = .error raised) ∧ ∃ left, world' = world.setTmp path left
  | .replaceTmp path, reply, world' =>
    (∃ document, world.tmp path = some document ∧ reply = .ok () ∧
      world' = (world.setFile path document).setTmp path none) ∨
      (∃ raised, reply = .error raised) ∧ world' = world
  | .unlink path, reply, world' =>
    (reply = .ok () ∧ world' = world.setFile path none) ∨
      (∃ raised, reply = .error raised) ∧ world' = world
  | .utcNow, reply, world' => world' = world ∧ reply.date = world.today
  | .forward _, _, world' => world' = world ∨ world' = { world with accepted := world.accepted + 1 }
  | _, _, world' => world' = world

-- trip_halt and clear_halt, globally or for a broker.
def World.moves (world world' : World) : Prop :=
  ∃ path document, (path = .haltFlag ∨ ∃ broker, path = .brokerHaltFlag broker) ∧
    world' = world.setFile path document

def liveSurroundings : Surroundings Operation.Reply World where
  answers := World.answers
  moves := World.moves

-- The answers of a world whose disk does not fail and whose broker accepts every order.
def World.pick (script : (op : Operation) → op.Reply) (world : World) :
    (op : Operation) → op.Reply × World
  | .readJson path => (.ok (world.files path), world)
  | .pathExists path => ((world.files path).isSome, world)
  | .writeTmp path document => (.ok (), world.setTmp path document)
  | .replaceTmp path =>
    match world.tmp path with
    | some document => (.ok (), (world.setFile path document).setTmp path none)
    | none => (.error .osError, world)
  | .unlink path => (.ok (), world.setFile path none)
  | .utcNow => ({ script .utcNow with date := world.today }, world)
  | .forward arguments => (script (.forward arguments), { world with accepted := world.accepted + 1 })
  | op => (script op, world)

theorem World.pick_answers (script : (op : Operation) → op.Reply) (world : World)
    (op : Operation) : world.answers op (world.pick script op).1 (world.pick script op).2 := by
  cases op with
  | readJson path => exact ⟨rfl, .inl rfl⟩
  | pathExists path => exact ⟨rfl, rfl⟩
  | writeTmp path document => exact .inl ⟨rfl, rfl⟩
  | replaceTmp path =>
    dsimp only [pick]
    cases written : world.tmp path with
    | some document => exact .inl ⟨document, written, rfl, rfl⟩
    | none => exact .inr ⟨⟨_, rfl⟩, rfl⟩
  | unlink path => exact .inl ⟨rfl, rfl⟩
  | utcNow => exact ⟨rfl, rfl⟩
  | forward arguments => exact .inr rfl
  | _ => rfl

theorem World.rejects (world : World) (arguments : PyDict) (reply : Except Failure PyValue) :
    world.answers (.forward arguments) reply world := .inl rfl

theorem World.accepts (world : World) (arguments : PyDict) (reply : Except Failure PyValue) :
    world.answers (.forward arguments) reply { world with accepted := world.accepted + 1 } :=
  .inr rfl

variable [PyText] [Trading]

-- An execution of one of the gates.
inductive GateCall where
  | guard (tool : LiveOrderGuardTool) (kwargs : PyDict)
  | sdk (order : SdkOrder)

def GateCall.program : GateCall → Program PyValue
  | .guard tool kwargs => tool.execute kwargs
  | .sdk order => order.execute

def GateCall.ceremony : GateCall → Ceremony
  | .guard tool kwargs => tool.ceremony kwargs
  | .sdk order => order.ceremony

theorem GateCall.program_ceremony (call : GateCall) : call.program = call.ceremony.execute := by
  cases call with
  | guard tool kwargs => exact tool.execute_ceremony kwargs
  | sdk order => exact order.execute_ceremony

def GateCall.broker (call : GateCall) : PyString := call.ceremony.gate.broker

end SynapseYield.Live
