import SynapseYield.Runtime.Reconcile
import SynapseYield.Shared.Outcome

set_option autoImplicit false

namespace SynapseYield.Runtime

open Shared Live Outcome

section Lookups

variable {α : Type} {pairs : List (PyString × α)} {key : PyString}

theorem mem_of_lastUnder {a : α} (found : lastUnder pairs key = some a) : (key, a) ∈ pairs := by
  obtain ⟨⟨key', a'⟩, search, rfl⟩ := Option.map_eq_some_iff.mp found
  have same := List.find?_some search
  obtain rfl : key' = key := by simpa using same
  exact List.mem_reverse.mp (List.mem_of_find?_eq_some search)

theorem lastUnder_of_mem {a : α} (member : (key, a) ∈ pairs) :
    ∃ last, lastUnder pairs key = some last := by
  cases found : lastUnder pairs key with
  | some last => exact ⟨last, rfl⟩
  | none =>
    have missed := List.find?_eq_none.mp (Option.map_eq_none_iff.mp found) (key, a)
      (List.mem_reverse.mpr member)
    simp at missed

end Lookups

abbrev Holdings := List (PyString × Number)

-- recorded_qty is not None and recorded_qty == broker_qty
def Matches (recorded : Option Number) (qty : Number) : Prop :=
  recorded.any (Number.same · qty) = true

theorem matches_iff {recorded : Option Number} {qty : Number} :
    Matches recorded qty ↔ recorded = some qty ∧ qty ≠ .nan := by
  cases recorded with
  | none => simp [Matches]
  | some known =>
    rw [Matches, Option.any_some, decide_eq_true_eq, Number.same, Option.some.injEq]
    exact and_congr_right fun same => by rw [same]

section Diffs

variable [PyText]

def holdings (rows : List PyDict) : Except PyError Holdings :=
  List.reduceOption <$> rows.mapM positionEntry

structure Explains (recordedBySymbol : PyString → Option Number) (entry : PyString × Number)
    (delta : ReconcileDelta) : Prop where
  subject : delta.subject = .position
  identity : delta.identity = entry.1
  matched : Matches (recordedBySymbol entry.1) entry.2 → delta.kind = .matched
  unknown : ¬ Matches (recordedBySymbol entry.1) entry.2 → delta.kind = .unknownFill

theorem classifyPosition_ok {known : PyString → Option Number} {row : PyDict}
    {result : Option ReconcileDelta} (classified : classifyPosition known row = .ok result) :
    ∃ entry, positionEntry row = .ok entry ∧ Option.Rel (Explains known) entry result := by
  obtain ⟨entry, read, rest⟩ := Outcome.bind_ok.mp classified
  refine ⟨entry, read, ?_⟩
  cases entry with
  | none =>
    obtain rfl := Outcome.pure_ok.mp rest
    exact .none
  | some entry =>
    obtain ⟨symbol, qty⟩ := entry
    dsimp only at rest
    split at rest
    next same =>
      obtain rfl := Outcome.pure_ok.mp rest
      exact .some ⟨rfl, rfl, fun _ => rfl, fun differs => absurd same differs⟩
    next differs =>
      simp only [Outcome.bind_ok, Outcome.pure_ok] at rest
      obtain ⟨text, -, text', -, rfl⟩ := rest
      exact .some ⟨rfl, rfl, fun same => absurd same differs, fun _ => rfl⟩

theorem classifyPositions_ok {known : PyString → Option Number} {rows : List PyDict}
    {results : List (Option ReconcileDelta)}
    (classified : rows.mapM (classifyPosition known) = .ok results) :
    ∃ entries, rows.mapM positionEntry = .ok entries ∧
      List.Forall₂ (Option.Rel (Explains known)) entries results := by
  simp only [mapM_ok] at classified ⊢
  induction classified with
  | nil => exact ⟨[], .nil, .nil⟩
  | cons head _ ih =>
    obtain ⟨entry, read, explains⟩ := classifyPosition_ok head
    obtain ⟨entries, reads, explained⟩ := ih
    exact ⟨entry :: entries, .cons read reads, .cons explains explained⟩

theorem diffPositions_ok {recorded broker : List PyDict} {deltas : List ReconcileDelta}
    (diffed : diffPositions recorded broker = .ok deltas) :
    ∃ known reported, holdings recorded = .ok known ∧ holdings broker = .ok reported ∧
      List.Forall₂ (Explains (lastUnder known)) reported deltas := by
  obtain ⟨entries, read, rest⟩ := Outcome.bind_ok.mp diffed
  obtain ⟨results, classified, rest⟩ := Outcome.bind_ok.mp rest
  obtain rfl := Outcome.pure_ok.mp rest
  obtain ⟨reported, read', explained⟩ := classifyPositions_ok classified
  refine ⟨_, _, map_ok.mpr ⟨entries, read, rfl⟩, map_ok.mpr ⟨reported, read', rfl⟩, ?_⟩
  exact forall₂_reduceOption explained

theorem classifyOrder_subject {byId : PyString → Option PyDict} {row : PyDict}
    {delta : ReconcileDelta} (classified : classifyOrder byId row = .ok delta) :
    delta.subject = .order := by
  simp only [classifyOrder, Outcome.bind_ok] at classified
  obtain ⟨identity, -, coid, -, rest⟩ := classified
  split at rest
  next =>
    obtain rfl := Outcome.pure_ok.mp rest
    rfl
  next =>
    obtain ⟨confirmed, -, rest⟩ := Outcome.bind_ok.mp rest
    split at rest
    · obtain rfl := Outcome.pure_ok.mp rest
      rfl
    · obtain rfl := Outcome.pure_ok.mp rest
      rfl

theorem diffOrders_subject {recorded broker : List PyDict} {deltas : List ReconcileDelta}
    (diffed : diffOrders recorded broker = .ok deltas) :
    ∀ delta ∈ deltas, delta.subject = .order := by
  obtain ⟨identified, -, classified⟩ := Outcome.bind_ok.mp diffed
  intro delta member
  obtain ⟨row, -, result⟩ := (mem_of_mapM_ok classified).mp member
  exact classifyOrder_subject result

theorem reconcile_ok {broker : PyString} {stored : Option PyValue} {truth : BrokerTruth}
    {ts : AsciiString} {disk : Except PyError Unit} {report : ReconcileReport}
    {state : Option PyValue}
    (returned : reconcile broker stored truth ts disk = .ok (report, state)) :
    ∃ orders positions, recordedRows (loadState stored) "open_orders" = .ok orders ∧
      recordedRows (loadState stored) "positions" = .ok positions ∧
      diff (loadState stored) orders positions truth = .ok report.deltas ∧
      (report.isSafe = true → state = some (stateDocument broker truth ts.val) ∧
        ∃ document, persistState broker truth ts.val disk = .ok document) ∧
      (report.isSafe = false → state = none) := by
  simp only [reconcile, Outcome.bind_ok] at returned
  obtain ⟨orders, openOrders, positions, held, deltas, diffed, ids, -, rest⟩ := returned
  refine ⟨orders, positions, openOrders, held, ?_⟩
  split at rest
  next safe =>
    obtain ⟨document, persisted, rest⟩ := Outcome.bind_ok.mp rest
    obtain ⟨rfl, rfl⟩ := Prod.mk.inj (Outcome.pure_ok.mp rest)
    refine ⟨diffed, fun _ => ⟨?_, document, persisted⟩, fun unsafely => ?_⟩
    · simp only [persistState, Outcome.bind_ok, Outcome.pure_ok] at persisted
      obtain ⟨_, -, _, -, _, -, rfl⟩ := persisted
      rfl
    exact Bool.noConfusion (safe.symm.trans unsafely)
  next unsafely =>
    obtain ⟨rfl, rfl⟩ := Prod.mk.inj (Outcome.pure_ok.mp rest)
    exact ⟨diffed, fun safe => absurd safe unsafely, fun _ => rfl⟩

end Diffs

-- A symbol on which the two sides have different non-zero quantities.
def Differs (recorded reported : Holdings) (symbol : PyString) : Prop :=
  ¬ ∀ qty : Number, qty ≠ 0 → ((symbol, qty) ∈ recorded ↔ (symbol, qty) ∈ reported)

-- A safe report has no differences, and every difference has a delta that halts.
structure Reconciled (report : ReconcileReport) (recorded reported : Holdings) : Prop where
  agree : report.isSafe = true → ∀ symbol, ¬ Differs recorded reported symbol
  flagged : ∀ symbol, Differs recorded reported symbol →
    ∃ delta ∈ report.deltas, delta.kind.halting = true ∧ delta.subject = .position ∧
      delta.identity = symbol

-- The broker still reports every symbol that is recorded with a non-zero quantity, and a quantity
-- that a later row of its symbol replaces is not the only difference.
def Accounted (recorded reported : Holdings) : Prop :=
  ∀ (symbol : PyString) (qty : Number), (symbol, qty) ∈ recorded → qty ≠ 0 →
    (∃ qty', (symbol, qty') ∈ reported) ∧
      (lastUnder recorded symbol = some qty ∨
        ∃ qty', (symbol, qty') ∈ reported ∧ ¬ Matches (lastUnder recorded symbol) qty')

-- A row of the broker that is not as the last one that was recorded of its symbol.
def Mismatched (recorded reported : Holdings) (symbol : PyString) : Prop :=
  ∃ qty, (symbol, qty) ∈ reported ∧ ¬ Matches (lastUnder recorded symbol) qty

theorem flagged_iff {recorded reported : Holdings} {deltas : List ReconcileDelta}
    (explained : List.Forall₂ (Explains (lastUnder recorded)) reported deltas)
    (symbol : PyString) :
    (∃ delta ∈ deltas, delta.kind.halting = true ∧ delta.subject = .position ∧
      delta.identity = symbol) ↔ Mismatched recorded reported symbol := by
  constructor
  · rintro ⟨delta, member, halts, -, rfl⟩
    obtain ⟨⟨symbol, qty⟩, present, explains⟩ := forall₂_left explained member
    rw [explains.identity]
    refine ⟨qty, present, fun same => ?_⟩
    rw [explains.matched same] at halts
    cases halts
  · rintro ⟨qty, present, differs⟩
    obtain ⟨delta, member, explains⟩ := forall₂_right explained present
    refine ⟨delta, member, ?_, explains.subject, explains.identity⟩
    rw [explains.unknown differs]
    rfl

theorem accounted_iff {recorded reported : Holdings} :
    (∀ symbol, Differs recorded reported symbol → Mismatched recorded reported symbol) ↔
      Accounted recorded reported := by
  constructor
  · intro noticed symbol qty kept nonzero
    by_cases present : (symbol, qty) ∈ reported
    · refine ⟨⟨qty, present⟩, ?_⟩
      by_cases last : lastUnder recorded symbol = some qty
      · exact .inl last
      · exact .inr ⟨qty, present, fun same => last (matches_iff.mp same).1⟩
    · obtain ⟨qty', reports, differs⟩ := noticed symbol fun same =>
        present ((same qty nonzero).mp kept)
      exact ⟨⟨qty', reports⟩, .inr ⟨qty', reports, differs⟩⟩
  · intro accounted symbol differs
    simp only [Differs, not_forall] at differs
    obtain ⟨qty, nonzero, differs⟩ := differs
    by_cases kept : (symbol, qty) ∈ recorded
    · have absent : (symbol, qty) ∉ reported := fun present =>
        differs ⟨fun _ => present, fun _ => kept⟩
      obtain ⟨⟨qty', reports⟩, last | mismatched⟩ := accounted symbol qty kept nonzero
      · refine ⟨qty', reports, fun same => absent ?_⟩
        rw [last, matches_iff, Option.some.injEq] at same
        rw [same.1]
        exact reports
      · exact mismatched
    · have present : (symbol, qty) ∈ reported := by
        by_contra absent
        exact differs ⟨fun h => absurd h kept, fun h => absurd h absent⟩
      refine ⟨qty, present, fun same => kept ?_⟩
      exact mem_of_lastUnder (matches_iff.mp same).1

section Reports

variable [PyText] {broker : PyString} {stored : Option PyValue} {prior : PyDict}
  {truth : BrokerTruth} {ts : AsciiString} {disk : Except PyError Unit}
  {report : ReconcileReport} {state : Option PyValue}

theorem reconciled_iff (loaded : loadState stored = some prior)
    (returned : reconcile broker stored truth ts disk = .ok (report, state)) :
    ∃ rows recorded reported, recordedRows (some prior) "positions" = .ok rows ∧
      holdings rows = .ok recorded ∧ holdings truth.positions = .ok reported ∧
      (Reconciled report recorded reported ↔ Accounted recorded reported) := by
  obtain ⟨orders, rows, -, held, diffed, -, -⟩ := reconcile_ok returned
  rw [loaded] at held diffed
  obtain ⟨orderDeltas, ordersDiffed, rest⟩ := Outcome.bind_ok.mp diffed
  obtain ⟨positionDeltas, positionsDiffed, deltas⟩ := Outcome.bind_ok.mp rest
  obtain ⟨recorded, reported, known, read, explained⟩ := diffPositions_ok positionsDiffed
  refine ⟨rows, recorded, reported, held, known, read, ?_⟩
  have flags : ∀ symbol, (∃ delta ∈ report.deltas, delta.kind.halting = true ∧
      delta.subject = .position ∧ delta.identity = symbol) ↔
        Mismatched recorded reported symbol := by
    intro symbol
    rw [← flagged_iff explained, ← Outcome.pure_ok.mp deltas]
    constructor
    · rintro ⟨delta, member, halts, position, named⟩
      obtain order | member := List.mem_append.mp member
      · rw [diffOrders_subject ordersDiffed delta order] at position
        cases position
      · exact ⟨delta, member, halts, position, named⟩
    · rintro ⟨delta, member, flagged⟩
      exact ⟨delta, List.mem_append_right _ member, flagged⟩
  rw [← accounted_iff]
  constructor
  · intro reconciled symbol differs
    exact (flags symbol).mp (reconciled.flagged symbol differs)
  · intro noticed
    refine ⟨fun safe symbol differs => ?_, fun symbol differs => (flags symbol).mpr
      (noticed symbol differs)⟩
    obtain ⟨delta, member, halts, -⟩ := (flags symbol).mpr (noticed symbol differs)
    rw [ReconcileReport.isSafe, ReconcileReport.requiresHalt, Bool.not_eq_true'] at safe
    exact List.any_eq_false.mp safe delta member halts

def PositionsReconciled : Prop :=
  ∀ (broker : PyString) (stored : Option PyValue) (prior : PyDict) (truth : BrokerTruth)
    (ts : AsciiString) (disk : Except PyError Unit) (report : ReconcileReport)
    (state : Option PyValue) (rows : List PyDict) (recorded reported : Holdings),
    loadState stored = some prior →
      reconcile broker stored truth ts disk = .ok (report, state) →
        recordedRows (some prior) "positions" = .ok rows → holdings rows = .ok recorded →
          holdings truth.positions = .ok reported → Reconciled report recorded reported

end Reports

section Vanished

def fiveShares : PyDict := fields [("symbol", .str "NVDA"), ("qty", .float (.finite 5))]

def fiveRecorded : PyDict :=
  fields [("open_orders", .list []), ("positions", .list [.dict fiveShares])]

def noTruth : BrokerTruth where
  orders := []
  positions := []
  balance := []
  decoded := ⟨nofun, nofun, rfl⟩

def noTime : AsciiString := noText

def returnsSafe : Except PyError (ReconcileReport × Option PyValue) → Bool
  | .ok (report, _) => report.isSafe
  | .error _ => false

theorem returnsSafe_iff {outcome : Except PyError (ReconcileReport × Option PyValue)} :
    returnsSafe outcome = true ↔
      ∃ report state, outcome = .ok (report, state) ∧ report.isSafe = true := by
  rcases outcome with raised | ⟨report, state⟩ <;> simp [returnsSafe]

theorem vanished_safe :
    let _ := asciiText
    returnsSafe (reconcile "robinhood" (some (.dict fiveRecorded)) noTruth noTime (.ok ())) =
      true := by
  decide +kernel

theorem reconciled_iff_vanished :
    let _ := asciiText
    ∃ report rows recorded reported, recordedRows (some fiveRecorded) "positions" = .ok rows ∧
      holdings rows = .ok recorded ∧ holdings noTruth.positions = .ok reported ∧
      (Reconciled report recorded reported ↔ Accounted recorded reported) := by
  intro _
  obtain ⟨report, state, returned, -⟩ := returnsSafe_iff.mp vanished_safe
  exact ⟨report, reconciled_iff rfl returned⟩

theorem positionsReconciled_fails : ¬ @PositionsReconciled asciiText := by
  intro reconciled
  let _ := asciiText
  obtain ⟨report, state, returned, safe⟩ := returnsSafe_iff.mp vanished_safe
  have agree := reconciled _ _ fiveRecorded noTruth _ _ report state [fiveShares]
    [("NVDA", .finite 5)] [] rfl returned rfl rfl rfl
  refine agree.agree safe "NVDA" fun same => ?_
  have reported := (same (.finite 5) (by decide)).mp List.mem_cons_self
  cases reported

end Vanished

section Documents

variable {broker : PyString} {truth : BrokerTruth} {ts : AsciiString}

def BrokerTruth.rows (truth : BrokerTruth) : List PyDict :=
  truth.orders ++ truth.positions ++ [truth.balance]

-- What json.dumps and UTF-8 take.
def Writable (truth : BrokerTruth) : Prop :=
  ∀ row ∈ truth.rows, (PyValue.dict row).dumps = .ok () ∧ (PyValue.dict row).encode = .ok ()

def documentHeader (broker ts : PyString) : List JsonNode :=
  [.key (.str "schema_version"), .leaf (.int runtimeStateSchemaVersion), .key (.str "broker"),
    .leaf (.str broker), .key (.str "reconciled_at"), .leaf (.str ts), .key (.str "open_orders"),
    .key (.str "positions"), .key (.str "balance")]

theorem mem_document {node : JsonNode} {ts : PyString} :
    node ∈ (stateDocument broker truth ts).nodes ↔
      node ∈ documentHeader broker ts ∨ ∃ row ∈ truth.rows, node ∈ (PyValue.dict row).nodes := by
  simp only [stateDocument, fields, List.map_cons, List.map_nil, PyValue.nodes, entryNodes,
    documentHeader, BrokerTruth.rows, List.mem_append, List.mem_cons, List.not_mem_nil, or_false,
    mem_itemNodes, List.mem_map, List.cons_append, List.nil_append, or_and_right, exists_or,
    exists_eq_left, exists_exists_and_eq_and]
  simp only [or_assoc, or_comm, or_left_comm]

theorem document_dumps {ts : PyString} : (stateDocument broker truth ts).dumps = .ok () ↔
    ∀ row ∈ truth.rows, (PyValue.dict row).dumps = .ok () := by
  simp only [PyValue.dumps_ok, mem_document]
  constructor
  · intro all row member node present
    exact all node (.inr ⟨row, member, present⟩)
  · rintro all node (header | ⟨row, member, present⟩)
    · simp only [documentHeader, List.mem_cons, List.not_mem_nil, or_false] at header
      rcases header with rfl | rfl | rfl | rfl | rfl | rfl | rfl | rfl | rfl
      · rfl
      · simp only [dumpsNode, runtimeStateSchemaVersion, printable_one, if_true]
      all_goals rfl
    · exact all row member node present

theorem document_encode : (stateDocument broker truth ts.val).encode = .ok () ↔
    broker.encodable = true ∧ ∀ row ∈ truth.rows, (PyValue.dict row).encode = .ok () := by
  simp only [PyValue.encode_ok, mem_document]
  constructor
  · intro all
    refine ⟨all (.leaf (.str broker)) (.inl (by simp [documentHeader])), ?_⟩
    intro row member node present
    exact all node (.inr ⟨row, member, present⟩)
  · rintro ⟨named, all⟩ node (header | ⟨row, member, present⟩)
    · simp only [documentHeader, List.mem_cons, List.not_mem_nil, or_false] at header
      rcases header with rfl | rfl | rfl | rfl | rfl | rfl | rfl | rfl | rfl
      · decide
      · rfl
      · decide
      · exact named
      · decide
      · exact PyString.encodable_of_isAscii ts.property
      all_goals decide
    · exact all row member node present
theorem decodedItems_rows {rows : List PyDict}
    (decoded : ∀ row ∈ rows, (PyValue.dict row).decoded = true) :
    decodedItems (rows.map .dict) = true := by
  induction rows with
  | nil => rfl
  | cons row rest ih =>
    obtain ⟨head, tail⟩ := List.forall_mem_cons.mp decoded
    simp [decodedItems, head, ih tail]

theorem document_decoded {ts : PyString} : (stateDocument broker truth ts).decoded = true := by
  obtain ⟨orders, positions, balance⟩ := truth.decoded
  have openOrders := decodedItems_rows orders
  have held := decodedItems_rows positions
  simp only [stateDocument, fields, List.map_cons, List.map_nil, PyValue.decoded, decodedEntries,
    openOrders, held, Bool.and_true, Bool.and_eq_true] at balance ⊢
  and_intros <;> first | rfl | exact balance

variable [PyText]

theorem loadState_document (broker : PyString) (truth : BrokerTruth) (ts : PyString) :
    ∃ prior, loadState (some (stateDocument broker truth ts)) = some prior ∧
      recordedRows (some prior) "open_orders" = .ok truth.orders ∧
        recordedRows (some prior) "positions" = .ok truth.positions := by
  have loaded : loadState (some (stateDocument broker truth ts)) =
      (stateDocument broker truth ts).entries? := by
    rw [loadState, Option.map_some, Option.bind_some, PyValue.reloaded_decoded _ document_decoded]
  have rows : ∀ rows : List PyDict, (rows.map PyValue.dict).mapM rowOf = .ok rows := by
    intro rows
    rw [mapM_ok]
    exact List.forall₂_map_left_iff.mpr (List.forall₂_same.mpr fun _ _ => rfl)
  exact ⟨_, loaded, rows truth.orders, rows truth.positions⟩

end Documents

section Repeats

variable [PyText]

theorem classifyOrder_matched {byId : PyString → Option PyDict} {order : PyDict} :
    (∃ delta, classifyOrder byId order = .ok delta ∧ delta.kind = .matched) ↔
      ∃ identity coid, orderIdentity order = .ok (some identity) ∧
        clientOrderId order = .ok coid ∧ (byId identity).isSome = true := by
  constructor
  · rintro ⟨delta, classified, matched⟩
    simp only [classifyOrder, Outcome.bind_ok] at classified
    obtain ⟨identity, named, coid, numbered, rest⟩ := classified
    split at rest
    next identity' order' found =>
      obtain ⟨identity, rfl, found⟩ := Option.bind_eq_some_iff.mp found
      obtain ⟨order'', present, -⟩ := Option.map_eq_some_iff.mp found
      exact ⟨identity, coid, named, numbered, Option.isSome_of_eq_some present⟩
    next =>
      obtain ⟨confirmed, -, rest⟩ := Outcome.bind_ok.mp rest
      split at rest
      · rw [← Outcome.pure_ok.mp rest] at matched
        cases matched
      · rw [← Outcome.pure_ok.mp rest] at matched
        cases matched
  · rintro ⟨identity, coid, named, numbered, present⟩
    obtain ⟨order', found⟩ := Option.isSome_iff_exists.mp present
    simp only [classifyOrder, named, numbered]
    simp [bind, Except.bind, found, pure, Except.pure]

theorem identified_found {orders : List PyDict} {entries : List (Option (PyString × PyDict))}
    (read : orders.mapM identified = .ok entries) {order : PyDict} (member : order ∈ orders)
    {identity : PyString} (named : orderIdentity order = .ok (some identity)) :
    (lastUnder entries.reduceOption identity).isSome = true := by
  have entry : some (identity, order) ∈ entries := by
    rw [mem_of_mapM_ok read]
    refine ⟨order, member, ?_⟩
    simp [identified, named, bind, Except.bind, pure, Except.pure]
  obtain ⟨last, found⟩ := lastUnder_of_mem (List.reduceOption_mem_iff.mpr entry)
  exact Option.isSome_of_eq_some found

theorem diffOrders_self {orders : List PyDict} :
    (∃ deltas, diffOrders orders orders = .ok deltas ∧ ∀ delta ∈ deltas, delta.kind = .matched) ↔
      ∀ order ∈ orders, (∃ identity, orderIdentity order = .ok (some identity)) ∧
        ∃ coid, clientOrderId order = .ok coid := by
  constructor
  · rintro ⟨deltas, diffed, matched⟩ order member
    obtain ⟨entries, -, classified⟩ := Outcome.bind_ok.mp diffed
    obtain ⟨delta, present, result⟩ := forall₂_right (mapM_ok.mp classified) member
    obtain ⟨identity, coid, named, numbered, -⟩ :=
      classifyOrder_matched.mp ⟨delta, result, matched delta present⟩
    exact ⟨⟨identity, named⟩, coid, numbered⟩
  · intro known
    obtain ⟨entries, read⟩ : ∃ entries, orders.mapM identified = .ok entries := by
      refine exists_mapM_ok.mpr fun order member => ?_
      obtain ⟨⟨identity, named⟩, -⟩ := known order member
      exact ⟨_, Outcome.bind_ok.mpr ⟨_, named, rfl⟩⟩
    have each : ∀ order ∈ orders, ∃ delta,
        classifyOrder (lastUnder entries.reduceOption) order = .ok delta ∧
          delta.kind = .matched := by
      intro order member
      obtain ⟨⟨identity, named⟩, coid, numbered⟩ := known order member
      exact classifyOrder_matched.mpr
        ⟨identity, coid, named, numbered, identified_found read member named⟩
    obtain ⟨deltas, classified⟩ := exists_mapM_ok.mpr fun order member =>
      (each order member).imp fun _ => And.left
    refine ⟨deltas, Outcome.bind_ok.mpr ⟨entries, read, classified⟩, fun delta present => ?_⟩
    obtain ⟨order, member, result⟩ := (mem_of_mapM_ok classified).mp present
    obtain ⟨delta', result', matched⟩ := each order member
    rwa [← Except.ok.inj (result.symm.trans result')] at matched

def OneQuantity (entries : Holdings) : Prop :=
  ∀ (symbol : PyString) (qty qty' : Number), (symbol, qty) ∈ entries → (symbol, qty') ∈ entries →
    Number.same qty qty'

omit [PyText] in
theorem oneQuantity_iff {entries : Holdings} :
    OneQuantity entries ↔
      ∀ entry ∈ entries, Matches (lastUnder entries entry.1) entry.2 := by
  constructor
  · rintro one ⟨symbol, qty⟩ member
    obtain ⟨last, found⟩ := lastUnder_of_mem member
    obtain ⟨same, real⟩ := one symbol last qty (mem_of_lastUnder found) member
    rw [matches_iff, found, same]
    exact ⟨rfl, same ▸ real⟩
  · intro matched symbol qty qty' member member'
    obtain ⟨last, real⟩ := matches_iff.mp (matched (symbol, qty) member)
    obtain ⟨last', -⟩ := matches_iff.mp (matched (symbol, qty') member')
    exact ⟨Option.some.inj (last.symm.trans last'), real⟩

theorem classifyPosition_returns {known : PyString → Option Number} {row : PyDict}
    {entry : Option (PyString × Number)} (read : positionEntry row = .ok entry)
    (matched : ∀ entry' ∈ entry, Matches (known entry'.1) entry'.2) :
    ∃ result, classifyPosition known row = .ok result := by
  simp only [classifyPosition, read, bind, Except.bind]
  cases entry with
  | none => exact ⟨none, rfl⟩
  | some entry =>
    have same : (known entry.1).any (Number.same · entry.2) = true := matched entry rfl
    dsimp only
    rw [if_pos same]
    exact ⟨_, rfl⟩

theorem diffPositions_self {rows : List PyDict} :
    (∃ deltas, diffPositions rows rows = .ok deltas ∧
      ∀ delta ∈ deltas, delta.kind = .matched) ↔
      ∃ entries, holdings rows = .ok entries ∧ OneQuantity entries := by
  constructor
  · rintro ⟨deltas, diffed, matched⟩
    obtain ⟨entries, reported, known, read, explained⟩ := diffPositions_ok diffed
    obtain rfl := Except.ok.inj (known.symm.trans read)
    refine ⟨entries, known, oneQuantity_iff.mpr fun entry member => ?_⟩
    by_contra differs
    obtain ⟨delta, present, explains⟩ := forall₂_right explained member
    have unknown := explains.unknown differs
    rw [matched delta present] at unknown
    cases unknown
  · rintro ⟨entries, known, one⟩
    obtain ⟨reads, read, rfl⟩ := map_ok.mp known
    have matched := oneQuantity_iff.mp one
    have returns : ∀ row ∈ rows,
        ∃ result, classifyPosition (lastUnder reads.reduceOption) row = .ok result := by
      intro row member
      obtain ⟨entry, present, given⟩ := forall₂_right (mapM_ok.mp read) member
      refine classifyPosition_returns given fun entry' some => matched entry' ?_
      exact List.reduceOption_mem_iff.mpr (some ▸ present)
    obtain ⟨results, classified⟩ := exists_mapM_ok.mpr returns
    have diffed : diffPositions rows rows = .ok results.reduceOption :=
      Outcome.bind_ok.mpr ⟨reads, read, Outcome.bind_ok.mpr ⟨results, classified, rfl⟩⟩
    refine ⟨_, diffed, fun delta member => ?_⟩
    obtain ⟨known', reported, same, same', explained⟩ := diffPositions_ok diffed
    obtain rfl := Except.ok.inj (known.symm.trans same)
    obtain rfl := Except.ok.inj (known.symm.trans same')
    obtain ⟨entry, present, explains⟩ := forall₂_left explained member
    exact explains.matched (matched entry present)

structure Quiet (truth : BrokerTruth) : Prop where
  orders : ∀ order ∈ truth.orders, (∃ identity, orderIdentity order = .ok (some identity)) ∧
    ∃ coid, clientOrderId order = .ok coid
  positions : ∃ entries, holdings truth.positions = .ok entries ∧ OneQuantity entries

-- A safe reconcile persists the truth that it has read, and the next one matches it; one that is
-- not safe leaves the file alone.
structure Settles (broker : PyString) (truth : BrokerTruth) (report : ReconcileReport)
    (state : Option PyValue) (ts : AsciiString) : Prop where
  persists : report.isSafe = true → state = some (stateDocument broker truth ts.val)
  preserves : report.isSafe = false → state = none
  repeats : report.isSafe = true → ∀ ts' : AsciiString, ∃ report' state',
    reconcile broker state truth ts' (.ok ()) = .ok (report', state') ∧ report'.isSafe = true ∧
      ∀ delta ∈ report'.deltas, delta.kind = .matched

omit [PyText] in
theorem matched_safe {report : ReconcileReport}
    (matched : ∀ delta ∈ report.deltas, delta.kind = .matched) : report.isSafe = true := by
  rw [ReconcileReport.isSafe, ReconcileReport.requiresHalt, Bool.not_eq_true', List.any_eq_false]
  intro delta member halts
  rw [matched delta member] at halts
  cases halts

omit [PyText] in
theorem persistState_ok {broker : PyString} {truth : BrokerTruth} {ts : AsciiString}
    {disk : Except PyError Unit} :
    (∃ document, persistState broker truth ts.val disk = .ok document) ↔
      Writable truth ∧ broker.encodable = true ∧ disk = .ok () := by
  simp only [persistState, Outcome.bind_ok, Outcome.pure_ok]
  constructor
  · rintro ⟨_, _, dumps, _, encodes, _, given, rfl⟩
    obtain ⟨named, encoded⟩ := document_encode.mp encodes
    exact ⟨fun row member => ⟨document_dumps.mp dumps row member, encoded row member⟩, named,
      given⟩
  · rintro ⟨writable, named, given⟩
    exact ⟨_, (), document_dumps.mpr fun row member => (writable row member).1, (),
      document_encode.mpr ⟨named, fun row member => (writable row member).2⟩, (), given, rfl⟩

theorem reconcile_safe {broker : PyString} {stored : Option PyValue} {truth : BrokerTruth}
    {ts : AsciiString} {disk : Except PyError Unit} {orders positions : List PyDict}
    {deltas : List ReconcileDelta} {ids : List (Option PyString)} {document : PyValue}
    (openOrders : recordedRows (loadState stored) "open_orders" = .ok orders)
    (held : recordedRows (loadState stored) "positions" = .ok positions)
    (diffed : diff (loadState stored) orders positions truth = .ok deltas)
    (numbered : orders.mapM clientOrderId = .ok ids)
    (matched : ∀ delta ∈ deltas, delta.kind = .matched)
    (persisted : persistState broker truth ts.val disk = .ok document) :
    ∃ report, reconcile broker stored truth ts disk = .ok (report, some document) ∧
      report.deltas = deltas ∧ report.isSafe = true := by
  simp only [reconcile, openOrders, held, diffed, numbered, persisted, bind, Except.bind]
  rw [if_pos (matched_safe matched)]
  exact ⟨_, rfl, rfl, matched_safe matched⟩

theorem repeats_of_quiet {broker : PyString} {truth : BrokerTruth} {ts ts' : AsciiString}
    (quiet : Quiet truth) (writable : Writable truth) (named : broker.encodable = true) :
    ∃ report' state', reconcile broker (some (stateDocument broker truth ts.val)) truth ts'
        (.ok ()) = .ok (report', state') ∧ report'.isSafe = true ∧
      ∀ delta ∈ report'.deltas, delta.kind = .matched := by
  obtain ⟨prior, loaded, orders, positions⟩ :=
    loadState_document broker truth ts.val
  obtain ⟨orderDeltas, ordersDiffed, ordersMatched⟩ := diffOrders_self.mpr quiet.orders
  obtain ⟨positionDeltas, positionsDiffed, positionsMatched⟩ :=
    diffPositions_self.mpr quiet.positions
  obtain ⟨ids, numbered⟩ := exists_mapM_ok.mpr fun order member => (quiet.orders order member).2
  obtain ⟨document, persisted⟩ := persistState_ok.mpr ⟨writable, named, rfl⟩
  have diffed : diff (some prior) truth.orders truth.positions truth =
      .ok (orderDeltas ++ positionDeltas) :=
    Outcome.bind_ok.mpr ⟨_, ordersDiffed, Outcome.bind_ok.mpr ⟨_, positionsDiffed, rfl⟩⟩
  rw [← loaded] at orders positions diffed
  have matched : ∀ delta ∈ orderDeltas ++ positionDeltas, delta.kind = .matched := by
    intro delta member
    obtain member | member := List.mem_append.mp member
    · exact ordersMatched delta member
    · exact positionsMatched delta member
  obtain ⟨report', returned, deltas, safe⟩ :=
    reconcile_safe orders positions diffed numbered matched persisted
  exact ⟨report', some document, returned, safe, deltas ▸ matched⟩

theorem quiet_of_repeats {broker : PyString} {truth : BrokerTruth} {ts ts' : AsciiString}
    {report : ReconcileReport} {state : Option PyValue} {disk : Except PyError Unit}
    (returned : reconcile broker (some (stateDocument broker truth ts.val)) truth ts' disk =
      .ok (report, state)) (matched : ∀ delta ∈ report.deltas, delta.kind = .matched) :
    Quiet truth := by
  obtain ⟨prior, loaded, orders, positions⟩ :=
    loadState_document broker truth ts.val
  obtain ⟨orders', positions', openOrders, held, diffed, -, -⟩ := reconcile_ok returned
  rw [loaded] at openOrders held diffed
  obtain rfl := Except.ok.inj (orders.symm.trans openOrders)
  obtain rfl := Except.ok.inj (positions.symm.trans held)
  obtain ⟨orderDeltas, ordersDiffed, rest⟩ := Outcome.bind_ok.mp diffed
  obtain ⟨positionDeltas, positionsDiffed, deltas⟩ := Outcome.bind_ok.mp rest
  rw [← Outcome.pure_ok.mp deltas] at matched
  exact
    { orders := diffOrders_self.mp ⟨orderDeltas, ordersDiffed,
        fun delta member => matched delta (List.mem_append_left _ member)⟩
      positions := diffPositions_self.mp ⟨positionDeltas, positionsDiffed,
        fun delta member => matched delta (List.mem_append_right _ member)⟩ }

def AlwaysSettles : Prop :=
  ∀ (broker : PyString) (stored : Option PyValue) (truth : BrokerTruth) (ts : AsciiString)
    (disk : Except PyError Unit) (report : ReconcileReport) (state : Option PyValue),
    reconcile broker stored truth ts disk = .ok (report, state) →
      Settles broker truth report state ts

theorem settles_iff (truth : BrokerTruth) :
    (∀ (broker : PyString) (stored : Option PyValue) (ts : AsciiString)
      (disk : Except PyError Unit) (report : ReconcileReport) (state : Option PyValue),
      reconcile broker stored truth ts disk = .ok (report, state) →
        Settles broker truth report state ts) ↔
      (Writable truth → Quiet truth) := by
  constructor
  · intro settles writable
    obtain ⟨document, persisted⟩ := persistState_ok.mpr
      (⟨writable, rfl, rfl⟩ : Writable truth ∧ PyString.empty.encodable = true ∧
        (.ok () : Except PyError Unit) = .ok ())
    change persistState .empty truth noTime.val (.ok ()) = .ok document at persisted
    have openOrders : recordedRows (loadState none) "open_orders" = .ok [] := rfl
    have held : recordedRows (loadState none) "positions" = .ok [] := rfl
    have diffed : diff (loadState none) [] [] truth = .ok [] := rfl
    obtain ⟨report, returned, -, safe⟩ := reconcile_safe openOrders held diffed rfl
      nofun persisted
    have settled := settles _ _ _ _ _ _ returned
    obtain ⟨report', state', returned', -, matched⟩ := settled.repeats safe noTime
    rw [settled.persists safe] at returned'
    exact quiet_of_repeats returned' matched
  · intro condition broker stored ts disk report state returned
    obtain ⟨-, -, -, -, -, persists, preserves⟩ := reconcile_ok returned
    refine ⟨fun safe => (persists safe).1, preserves, fun safe ts' => ?_⟩
    obtain ⟨rfl, persisted⟩ := persists safe
    obtain ⟨writable, named, -⟩ := persistState_ok.mp persisted
    exact repeats_of_quiet (condition writable) writable named

end Repeats

section Nameless

def namelessTruth : BrokerTruth where
  orders := [fields [("symbol", .str "NVDA")]]
  positions := []
  balance := []
  decoded := ⟨by decide, nofun, rfl⟩

theorem nameless_safe :
    let _ := asciiText
    returnsSafe (reconcile "robinhood" none namelessTruth noTime (.ok ())) = true := by
  decide +kernel

-- The order is the baseline of a cold start, and ambiguous from then on.
theorem alwaysSettles_fails : ¬ @AlwaysSettles asciiText := by
  intro settles
  let _ := asciiText
  obtain ⟨report, state, returned, safe⟩ := returnsSafe_iff.mp nameless_safe
  have settled := settles _ _ _ _ _ _ _ returned
  obtain ⟨report', state', returned', -, matched⟩ := settled.repeats safe noTime
  rw [settled.persists safe] at returned'
  obtain ⟨⟨identity, named⟩, -⟩ := (quiet_of_repeats returned' matched).orders _ List.mem_cons_self
  cases named

end Nameless

end SynapseYield.Runtime
