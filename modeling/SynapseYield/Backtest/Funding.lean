import Mathlib.Algebra.Group.Defs
import SynapseYield.Shared.Python

set_option autoImplicit false

namespace SynapseYield.Backtest.Funding

open Shared

structure Position (Float : Type) where
  direction : Float
  entryPrice : Float
  size : Float

-- A pandas Timestamp, as nanoseconds of its wall clock
abbrev Timestamp := Int

def hourNanos : Int := 3600 * 1000000000

def dayNanos : Int := 24 * hourNanos

def dateOf (timestamp : Timestamp) : Int := timestamp / dayNanos

def hourOf (timestamp : Timestamp) : Nat := (timestamp % dayNanos / hourNanos).toNat

def fundingHours : List Nat := [0, 8, 16]

-- applied_set and daily_done_set
structure Dedup where
  applied : List (PyString × Int × Nat)
  dailyDone : List (PyString × Int)

def Dedup.empty : Dedup := ⟨[], []⟩

variable {Float : Type}

structure Call (Float : Type) where
  symbol : PyString
  -- bar["close"], where the bar has one
  close : Option Float
  timestamp : Timestamp
  positions : PyString → Option (Position Float)
  fundingRate : Float

variable [Zero Float] [Mul Float]

-- What the position is charged, without regard to what was charged before
def due (call : Call Float) : Float :=
  match call.positions call.symbol with
  | none => 0
  | some position =>
    let markPrice := call.close.getD position.entryPrice
    let notional := position.size * markPrice
    notional * call.fundingRate * position.direction

def calcCryptoFundingFee (sets : Dedup) (call : Call Float) : Float × Dedup :=
  let currentDate := dateOf call.timestamp
  let hour := hourOf call.timestamp
  if hour ∈ fundingHours then
    let key := (call.symbol, currentDate, hour)
    if key ∈ sets.applied then (0, sets)
    else (due call, { sets with applied := key :: sets.applied })
  else
    let dayKey := (call.symbol, currentDate)
    if dayKey ∈ sets.dailyDone then (0, sets)
    else (due call, { sets with dailyDone := dayKey :: sets.dailyDone })

-- What each call of a backtest returns, with the two sets shared by all
def fees (sets : Dedup) : List (Call Float) → List Float
  | [] => []
  | call :: rest =>
    let answer := calcCryptoFundingFee sets call
    answer.1 :: fees answer.2 rest

-- The calls of a backtest, bar after bar
structure Drive (Float : Type) where
  calls : List (Call Float)
  ascending : calls.Pairwise (·.timestamp ≤ ·.timestamp)

end SynapseYield.Backtest.Funding
