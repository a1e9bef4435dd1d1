import SynapseYield.Live.Audit

set_option autoImplicit false

namespace SynapseYield.Runtime

open Shared Live

inductive DeltaKind where
  | matched
  | unknownFill
  | orphanOrder
  | midOrderAmbiguous
deriving DecidableEq, Repr

-- _HALTING_KINDS
def DeltaKind.halting : DeltaKind → Bool
  | .unknownFill => true
  | .midOrderAmbiguous => true
  | _ => false

inductive Subject where
  | order
  | position
deriving DecidableEq, Repr

structure ReconcileDelta where
  kind : DeltaKind
  subject : Subject
  identity : PyString
  clientOrderId : Option PyString
  detail : PyString
  recorded : Option PyDict
  broker : Option PyDict

structure ReconcileReport where
  broker : PyString
  ts : PyString
  deltas : List ReconcileDelta
  recordedClientOrderIds : List PyString
  statePersisted : Bool
  hadPriorState : Bool

def ReconcileReport.requiresHalt (report : ReconcileReport) : Bool :=
  report.deltas.any (·.kind.halting)

def ReconcileReport.isSafe (report : ReconcileReport) : Bool := ! report.requiresHalt

-- What the three read callables return: rows that come decoded from JSON.
structure BrokerTruth where
  orders : List PyDict
  positions : List PyDict
  balance : PyDict
  decoded : (∀ row ∈ orders, (PyValue.dict row).decoded = true) ∧
    (∀ row ∈ positions, (PyValue.dict row).decoded = true) ∧
      (PyValue.dict balance).decoded = true

def clientIdKeys : List PyString :=
  ["client_order_id", "client_oid", "clientOrderId", "clord_id"]

def brokerIdKeys : List PyString := ["order_id", "id", "broker_order_id"]

def symbolKeys : List PyString := ["symbol", "ticker"]

def quantityKeys : List PyString := ["qty", "quantity", "position"]

def unconfirmedStatuses : List PyString := ["", "pending", "submitted", "unconfirmed"]

-- The first value under these keys that is true.
def firstTruthy (row : PyDict) (keys : List PyString) : Option PyValue :=
  (keys.map row.get).find? PyValue.truthy

-- The last of the values under a key, as in a dict that is built from the pairs.
def lastUnder {α : Type} (pairs : List (PyString × α)) (key : PyString) : Option α :=
  (pairs.reverse.find? (·.1 = key)).map Prod.snd

-- The attribute error of a row that is no mapping.
def rowOf : PyValue → Except PyError PyDict
  | .dict entries => .ok entries
  | _ => .error .other

section Rows

variable [PyText]

def textOf : Option PyValue → Except PyError (Option PyString)
  | some value => some <$> value.toStr
  | none => .ok none

def clientOrderId (order : PyDict) : Except PyError (Option PyString) :=
  textOf (firstTruthy order clientIdKeys)

def orderIdentity (order : PyDict) : Except PyError (Option PyString) :=
  match firstTruthy order brokerIdKeys with
  | some value => some <$> value.toStr
  | none => clientOrderId order

def isConfirmed (order : PyDict) : Except PyError Bool := do
  let status ← ((order.lookup "status").getD (.str .empty)).toStr
  return (firstTruthy order brokerIdKeys).isSome && status.lower ∉ unconfirmedStatuses

def positionSymbol (position : PyDict) : Except PyError (Option PyString) :=
  textOf (firstTruthy position symbolKeys)

def positionQty (position : PyDict) : Except PyError Number :=
  match (quantityKeys.map position.get).find? (! ·.isNone) with
  | some value =>
    match value.toFloat with
    | .ok qty => .ok qty
    | .error .typeError => .ok 0
    | .error .valueError => .ok 0
    | .error raised => .error raised
  | none => .ok 0

-- A row with a symbol, as symbol and quantity.
def positionEntry (position : PyDict) : Except PyError (Option (PyString × Number)) := do
  match ← positionSymbol position with
  | none => return none
  | some symbol => return some (symbol, ← positionQty position)

-- identity or (coid or "<unknown>")
def orUnknown : List (Option PyString) → PyString
  | [] => "<unknown>"
  | some text :: rest => if text = .empty then orUnknown rest else text
  | none :: rest => orUnknown rest

def identified (order : PyDict) : Except PyError (Option (PyString × PyDict)) := do
  return (← orderIdentity order).map (·, order)

def classifyOrder (brokerById : PyString → Option PyDict) (recorded : PyDict) :
    Except PyError ReconcileDelta := do
  let identity ← orderIdentity recorded
  let coid ← clientOrderId recorded
  match identity.bind fun identity => (brokerById identity).map (identity, ·) with
  | some (identity, order) =>
    return {
      kind := .matched
      subject := .order
      identity
      clientOrderId := coid
      detail := "recorded order still open on broker"
      recorded := some recorded
      broker := some order }
  | none =>
    if ← isConfirmed recorded then
      return {
        kind := .orphanOrder
        subject := .order
        identity := orUnknown [identity, coid]
        clientOrderId := coid
        detail := "confirmed order absent from broker open-orders " ++
          ("(cancelled / rejected / filled-and-cleared); not resent" : PyString)
        recorded := some recorded
        broker := none }
    else
      return {
        kind := .midOrderAmbiguous
        subject := .order
        identity := orUnknown [identity, coid]
        clientOrderId := coid
        detail := "submitted-but-unconfirmed order: may have filled before " ++
          ("the audit write; no-retry rule forbids resend — surfaced for halt" : PyString)
        recorded := some recorded
        broker := none }

def diffOrders (recorded broker : List PyDict) : Except PyError (List ReconcileDelta) := do
  let brokerById := lastUnder (← broker.mapM identified).reduceOption
  recorded.mapM (classifyOrder brokerById)

def recordedView (symbol : PyString) (qty : Number) : PyDict :=
  fields [("symbol", .str symbol), ("qty", .float qty)]

def qtyText : Option Number → Except PyError PyString
  | some qty => (PyValue.float qty).toStr
  | none => .ok "None"

def classifyPosition (recordedBySymbol : PyString → Option Number) (position : PyDict) :
    Except PyError (Option ReconcileDelta) := do
  match ← positionEntry position with
  | none => return none
  | some (symbol, brokerQty) =>
    let recordedQty := recordedBySymbol symbol
    if recordedQty.any (Number.same · brokerQty) then
      return some {
        kind := .matched
        subject := .position
        identity := symbol
        clientOrderId := none
        detail := "recorded position matches broker truth"
        recorded := recordedQty.map (recordedView symbol)
        broker := some position }
    else
      return some {
        kind := .unknownFill
        subject := .position
        identity := symbol
        clientOrderId := none
        detail := "broker reports a position/quantity we have no record of (recorded=" ++
          (← qtyText recordedQty) ++ ", broker=" ++ (← qtyText (some brokerQty)) ++
          "); real money moved without a matching audit record"
        recorded := recordedQty.map (recordedView symbol)
        broker := some position }

def diffPositions (recorded broker : List PyDict) : Except PyError (List ReconcileDelta) := do
  let recordedBySymbol := lastUnder (← recorded.mapM positionEntry).reduceOption
  return (← broker.mapM (classifyPosition recordedBySymbol)).reduceOption

end Rows

def runtimeStateSchemaVersion : Int := 1

def stateDocument (broker : PyString) (truth : BrokerTruth) (ts : PyString) : PyValue :=
  .dict (fields [
    ("schema_version", .int runtimeStateSchemaVersion),
    ("broker", .str broker),
    ("reconciled_at", .str ts),
    ("open_orders", .list (truth.orders.map .dict)),
    ("positions", .list (truth.positions.map .dict)),
    ("balance", .dict truth.balance)])

variable [PyText]

-- The document that the state file has, as its text decodes; none where there is no file that
-- can be read. What is no object counts for a cold start.
def loadState (stored : Option PyValue) : Option PyDict :=
  (stored.map PyValue.reloaded).bind PyValue.entries?

-- list(prior.get(key, [])), as mappings
def recordedRows (prior : Option PyDict) (key : PyString) : Except PyError (List PyDict) := do
  match prior with
  | none => return []
  | some prior => (← ((prior.lookup key).getD (.list [])).iter).mapM rowOf

-- The document that _persist_state leaves, where the disk lets it.
def persistState (broker : PyString) (truth : BrokerTruth) (ts : PyString)
    (disk : Except PyError Unit) : Except PyError PyValue := do
  let document := stateDocument broker truth ts
  document.dumps
  document.encode
  disk
  return document

-- On a cold start the broker's truth is the baseline.
def diff (prior : Option PyDict) (recordedOrders recordedPositions : List PyDict)
    (truth : BrokerTruth) : Except PyError (List ReconcileDelta) :=
  match prior with
  | none => .ok []
  | some _ => do
    return (← diffOrders recordedOrders truth.orders) ++
      (← diffPositions recordedPositions truth.positions)

-- The report, and the document that replaces the state file.
def reconcile (broker : PyString) (stored : Option PyValue) (truth : BrokerTruth)
    (ts : AsciiString) (disk : Except PyError Unit) :
    Except PyError (ReconcileReport × Option PyValue) := do
  let prior := loadState stored
  let recordedOrders ← recordedRows prior "open_orders"
  let recordedPositions ← recordedRows prior "positions"
  let deltas ← diff prior recordedOrders recordedPositions truth
  let ids ← recordedOrders.mapM clientOrderId
  let report : ReconcileReport :=
    { broker, ts := ts.val, deltas
      recordedClientOrderIds := ids.reduceOption.filter (· ≠ .empty)
      statePersisted := false
      hadPriorState := prior.isSome }
  if report.isSafe then
    let document ← persistState broker truth ts disk
    return ({ report with statePersisted := true }, some document)
  else return (report, none)

end SynapseYield.Runtime
