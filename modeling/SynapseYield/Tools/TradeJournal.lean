import SynapseYield.Shared.Format
import SynapseYield.Shared.Python

set_option autoImplicit false

namespace SynapseYield.Tools

open Shared

-- A row of the standardized journal, without the columns that the pairing leaves alone. Instants
-- are seconds, the amounts exact.
structure JournalRow where
  datetime : ℚ
  symbol : PyString
  side : PyString
  quantity : ℚ
  price : ℚ
  fee : ℚ
deriving DecidableEq

-- An open buy in the queue of its symbol
structure OpenLot where
  dt : ℚ
  qty : ℚ
  price : ℚ
  fee : ℚ
deriving DecidableEq

structure Roundtrip where
  symbol : PyString
  buyDt : ℚ
  sellDt : ℚ
  qty : ℚ
  buyPrice : ℚ
  sellPrice : ℚ
  holdDays : ℚ
  pnl : ℚ
  pnlPct : ℚ
deriving DecidableEq

-- 1e-9
def fifoDust : ℚ := 1 / 10 ^ 9

def JournalRow.isBuy (row : JournalRow) : Bool := row.side = "buy"

def JournalRow.lot (row : JournalRow) : OpenLot := ⟨row.datetime, row.quantity, row.price, row.fee⟩

def OpenLot.buyFee (lot : OpenLot) (take : ℚ) : ℚ :=
  if lot.qty ≠ 0 then lot.fee * (take / lot.qty) else 0

def JournalRow.sellFee (row : JournalRow) (take : ℚ) : ℚ :=
  if row.quantity ≠ 0 then row.fee * (take / row.quantity) else 0

def roundtrip (row : JournalRow) (lot : OpenLot) (take : ℚ) : Roundtrip :=
  let hold := (row.datetime - lot.dt) / 86400
  let gross := (row.price - lot.price) * take
  let pnl := gross - lot.buyFee take - row.sellFee take
  let cost := lot.price * take
  let pnlPct := if cost ≠ 0 then pnl / cost else 0
  { symbol := row.symbol
    buyDt := lot.dt
    sellDt := row.datetime
    qty := take
    buyPrice := lot.price
    sellPrice := row.price
    holdDays := roundTo 2 hold
    pnl := roundTo 2 pnl
    pnlPct := roundTo 4 pnlPct }

-- while remaining > 1e-9 and q. A turn ends the sell or takes a lot off the queue.
def matchSell (row : JournalRow) :
    Nat → ℚ → List OpenLot → List Roundtrip × List OpenLot
  | 0, _, q => ([], q)
  | _, _, [] => ([], [])
  | fuel + 1, remaining, lot :: rest =>
    if fifoDust < remaining then
      let take := min lot.qty remaining
      let qty := lot.qty - take
      let later := matchSell row fuel (remaining - take)
        (if qty ≤ fifoDust then rest else { lot with qty } :: rest)
      (roundtrip row lot take :: later.1, later.2)
    else ([], lot :: rest)

def pairFrom (queues : PyString → List OpenLot) : List JournalRow → List Roundtrip
  | [] => []
  | row :: rest =>
    let q := queues row.symbol
    if row.isBuy then pairFrom (Function.update queues row.symbol (q ++ [row.lot])) rest
    else
      let matched := matchSell row (q.length + 1) row.quantity q
      matched.1 ++ pairFrom (Function.update queues row.symbol matched.2) rest

def pairTradesFifo (df : List JournalRow) : List Roundtrip := pairFrom (fun _ => []) df

end SynapseYield.Tools
