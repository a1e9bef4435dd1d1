import SynapseYield.Live.World

set_option autoImplicit false

namespace SynapseYield.Live

open Shared

section Scan

variable {α β ε : Type} {probe : α → Except ε (Option β)} {items : List α} {item : α} {found : β}

-- The first item in which the probe finds something, with what it finds.
def firstHit (probe : α → Except ε (Option β)) : List α → Except ε (Option (α × β))
  | [] => .ok none
  | item :: rest =>
    match probe item with
    | .error raised => .error raised
    | .ok (some found) => .ok (some (item, found))
    | .ok none => firstHit probe rest

-- An item stands in a list behind items that all pass.
def StandsBehind (passes : α → Prop) (items : List α) (item : α) : Prop :=
  ∃ before after, items = before ++ item :: after ∧ ∀ passed ∈ before, passes passed

theorem standsBehind_cons {passes : α → Prop} {head : α} {rest : List α} :
    StandsBehind passes (head :: rest) item ↔
      head = item ∨ passes head ∧ StandsBehind passes rest item := by
  constructor
  · rintro ⟨before, after, split, passed⟩
    cases before with
    | nil => exact .inl (List.cons.inj split).1
    | cons first before =>
      obtain ⟨rfl, rfl⟩ := List.cons.inj split
      exact .inr ⟨passed head List.mem_cons_self, before, after, rfl,
        fun item member => passed item (.tail _ member)⟩
  · rintro (rfl | ⟨passed, before, after, rfl, behind⟩)
    · exact ⟨[], rest, rfl, by simp⟩
    · exact ⟨head :: before, after, rfl, by simpa [passed] using behind⟩

theorem firstHit_some_iff : firstHit probe items = .ok (some (item, found)) ↔
    StandsBehind (probe · = .ok none) items item ∧ probe item = .ok (some found) := by
  induction items with
  | nil => simp [firstHit, StandsBehind]
  | cons head rest ih =>
    rw [standsBehind_cons]
    cases probed : probe head with
    | error raised =>
      suffices ¬ (head = item ∧ probe item = .ok (some found)) by simpa [firstHit, probed] using this
      rintro ⟨rfl, hit⟩
      rw [probed] at hit
      cases hit
    | ok outcome =>
      cases outcome with
      | none =>
        have other : ¬ (head = item ∧ probe item = .ok (some found)) := by
          rintro ⟨rfl, hit⟩
          rw [probed] at hit
          cases hit
        simp only [firstHit, probed, ih, true_and, or_and_right, other, false_or]
      | some value =>
        simp only [firstHit, probed, Except.ok.injEq, Option.some.injEq, Prod.mk.injEq,
          reduceCtorEq, false_and, or_false]
        constructor
        · rintro ⟨rfl, rfl⟩
          exact ⟨rfl, probed⟩
        · rintro ⟨rfl, hit⟩
          exact ⟨rfl, Option.some.inj (Except.ok.inj (probed.symm.trans hit))⟩

theorem firstHit_none_iff :
    firstHit probe items = .ok none ↔ ∀ item ∈ items, probe item = .ok none := by
  induction items with
  | nil => simp [firstHit]
  | cons head rest ih =>
    cases probed : probe head with
    | error raised => simp [firstHit, probed]
    | ok outcome => cases outcome <;> simp [firstHit, probed, ih]

theorem map_snd_some_iff {outcome : Except ε (Option (α × β))} :
    outcome.map (·.map Prod.snd) = .ok (some found) ↔ ∃ item, outcome = .ok (some (item, found)) := by
  rcases outcome with raised | _ | ⟨item, value⟩ <;> simp [Except.map]

theorem map_snd_none_iff {outcome : Except ε (Option (α × β))} :
    outcome.map (·.map Prod.snd) = .ok none ↔ outcome = .ok none := by
  rcases outcome with raised | _ | ⟨item, value⟩ <;> simp [Except.map]

end Scan

section Gates

variable [PyText]

abbrev pricedRecord (keys : List PyString) : List PyDict → Except PyError (Option (PyDict × Number)) :=
  firstHit (priceFromQuote · keys)

def statedPrice (quote : PyDict) (key : PyString) : Except PyError (Option Number) :=
  match quote.lookup key with
  | none => .ok none
  | some given =>
    match given.toFloat with
    | .ok value => .ok (if 0 < value then some value else none)
    | .error .typeError => .ok none
    | .error .valueError => .ok none
    | .error raised => .error raised

theorem priceFromQuote_stated (quote : PyDict) (keys : List PyString) :
    priceFromQuote quote keys = (firstHit (statedPrice quote) keys).map (·.map Prod.snd) := by
  induction keys with
  | nil => rfl
  | cons key rest ih =>
    unfold priceFromQuote
    cases found : quote.lookup key with
    | none => simpa only [firstHit, statedPrice, found] using ih
    | some given =>
      cases float : given.toFloat with
      | ok value =>
        by_cases positive : 0 < value
        · simp [firstHit, statedPrice, found, float, positive, Except.map]
        · simpa [firstHit, statedPrice, found, float, positive] using ih
      | error raised =>
        cases raised
        case typeError | valueError => simpa only [firstHit, statedPrice, found, float] using ih
        all_goals simp [firstHit, statedPrice, found, float, Except.map]

-- A quote states this price in the first of the fields that has a positive price.
def States (keys : List PyString) (quote : PyDict) (price : Number) : Prop :=
  ∃ key, StandsBehind (statedPrice quote · = .ok none) keys key ∧
    statedPrice quote key = .ok (some price)

def StatesNone (keys : List PyString) (quote : PyDict) : Prop :=
  ∀ key ∈ keys, statedPrice quote key = .ok none

theorem priceFromQuote_some_iff {quote : PyDict} {keys : List PyString} {price : Number} :
    priceFromQuote quote keys = .ok (some price) ↔ States keys quote price := by
  rw [priceFromQuote_stated, map_snd_some_iff]
  exact exists_congr fun key => firstHit_some_iff

theorem priceFromQuote_none_iff {quote : PyDict} {keys : List PyString} :
    priceFromQuote quote keys = .ok none ↔ StatesNone keys quote := by
  rw [priceFromQuote_stated, map_snd_none_iff]
  exact firstHit_none_iff

theorem States.positive {keys : List PyString} {quote : PyDict} {price : Number}
    (states : States keys quote price) : 0 < price := by
  obtain ⟨key, -, stated⟩ := states
  unfold statedPrice at stated
  split at stated
  next => cases stated
  next =>
    split at stated
    next value _ =>
      by_cases positive : 0 < value
      · rw [if_pos positive] at stated
        exact Option.some.inj (Except.ok.inj stated) ▸ positive
      · rw [if_neg positive] at stated
        cases stated
    all_goals cases stated

namespace LiveOrderGuardTool

def containerRow (payload : PyDict) (symbol key : PyString) : Option PyDict :=
  match payload.get key with
  | .list rows => matchQuoteRow rows symbol
  | _ => none

-- The records of a payload in the order in which a price is looked for.
def records (payload : PyDict) (symbol : PyString) : List PyDict :=
  payload :: (payload.get symbol).entries?.toList ++
    (["quotes", "data", "results"] : List PyString).filterMap (containerRow payload symbol)

theorem containerRow_some {payload row : PyDict} {symbol key : PyString}
    (found : containerRow payload symbol key = some row) :
    ∃ rows, payload.get key = .list rows ∧ matchQuoteRow rows symbol = some row := by
  unfold containerRow at found
  split at found
  next rows given => exact ⟨rows, given, found⟩
  next => cases found

theorem priceFromContainers_records (payload : PyDict) (symbol : PyString)
    (containers : List PyString) :
    priceFromContainers payload symbol containers =
      (pricedRecord quoteKeys (containers.filterMap (containerRow payload symbol))).map
        (·.map Prod.snd) := by
  induction containers with
  | nil => rfl
  | cons key rest ih =>
    unfold priceFromContainers
    cases found : containerRow payload symbol key with
    | none =>
      rw [List.filterMap_cons_none found, ← ih]
      unfold containerRow at found
      split <;> simp_all
    | some row =>
      obtain ⟨rows, given, matched⟩ := containerRow_some found
      rw [List.filterMap_cons_some found, given]
      dsimp only
      rw [matched, ih, pricedRecord, firstHit]
      dsimp only
      rcases priceFromQuote row quoteKeys with raised | _ | price <;> rfl

theorem parseQuotePrice_records (payload : PyDict) (symbol : PyString) :
    parseQuotePrice (.dict payload) symbol =
      (pricedRecord quoteKeys (records payload symbol)).map (·.map Prod.snd) := by
  unfold parseQuotePrice records
  dsimp only
  rw [priceFromContainers_records]
  rcases first : priceFromQuote payload quoteKeys with raised | _ | price
  · simp [pricedRecord, firstHit, first, Except.map, bind, Except.bind]
  · unfold priceUnderSymbol
    cases keyed : payload.get symbol with
    | dict quote =>
      rcases second : priceFromQuote quote quoteKeys with raised | _ | price <;>
        simp [pricedRecord, firstHit, first, second, PyValue.entries?, Except.map, bind, Except.bind,
          pure, Except.pure]
    | _ =>
      simp [pricedRecord, firstHit, first, PyValue.entries?, bind, Except.bind]
  · simp [pricedRecord, firstHit, first, Except.map, bind, Except.bind, pure, Except.pure]

-- The records of what the tool answers, where an error is no answer.
def answerRecords (symbol : PyString) : Except PyError PyValue → Except PyError (List PyDict)
  | .error raised => if raised.isException then .ok [] else .error raised
  | .ok result =>
    if isErrorResult result then .ok []
    else match result with
      | .dict payload => .ok (records payload symbol)
      | _ => .ok []

theorem brokerQuotePrice_under (remote symbol : PyString) (answers : (op : Operation) → op.Reply) :
    (brokerQuotePrice symbol [remote]).under answers =
      (answerRecords symbol (answers (.callTool remote [(.str "symbol", .str symbol)]))).bind
        fun records => (pricedRecord quoteKeys records).map (·.map Prod.snd) := by
  unfold brokerQuotePrice
  rw [Process.ask_bind, Process.under_perform]
  rcases answers (.callTool remote [(.str "symbol", .str symbol)]) with raised | result
  · dsimp only [answerRecords]
    split <;> rfl
  · dsimp only [answerRecords]
    split
    · rfl
    · cases result with
      | dict payload =>
        rw [parseQuotePrice_records]
        dsimp only [Except.bind]
        rcases pricedRecord quoteKeys (records payload symbol) with raised | _ | ⟨record, price⟩ <;> rfl
      | _ => rfl

variable [Trading]

def quoteTool (tool : LiveOrderGuardTool) : PyString :=
  (tool.readTools "quote" "get_quotes").headD .empty

omit [PyText] in
theorem readTools_quoteTool (tool : LiveOrderGuardTool) :
    tool.readTools "quote" "get_quotes" = [tool.quoteTool] := by
  unfold quoteTool readTools
  cases Trading.runnerToolName tool.broker "quote" <;> rfl

end LiveOrderGuardTool

abbrev Answers := (op : Operation) → op.Reply

variable [Trading]

namespace GateCall

def quotePrice (call : GateCall) (intent : OrderIntent) : Program (Option Number) :=
  match call with
  | .guard tool _ => tool.quotePrice intent
  | .sdk _ => SdkOrder.quotePrice intent

def quoteKeys : GateCall → List PyString
  | .guard _ _ => LiveOrderGuardTool.quoteKeys
  | .sdk _ => SdkOrder.quoteKeys

def assetClass (call : GateCall) (intent : OrderIntent) : Option AssetClass :=
  match call with
  | .guard _ _ => instrumentAssetClass intent.instrumentType
  | .sdk _ => intent.bucket

def sdkRecords : PyValue → Except PyError (List PyDict)
  | .dict payload => do
    if (← statusText payload) = "error" then return []
    return (PyDict.get payload "quote").entries?.toList
  | _ => .ok []

def records (call : GateCall) (symbol : PyString) (answers : Answers) : Except PyError (List PyDict) :=
  match call with
  | .guard tool _ =>
    LiveOrderGuardTool.answerRecords symbol
      (answers (.callTool tool.quoteTool [(.str "symbol", .str symbol)]))
  | .sdk _ =>
    match answers (.getQuote symbol) with
    | none => .ok []
    | some (.error raised) => if raised.isException then .ok [] else .error raised
    | some (.ok result) => sdkRecords result

end GateCall

-- The price in the first record that states one, else the last close of the loaders.
def priceAmong (keys : List PyString) (symbol : PyString) (assetClass : Option AssetClass)
    (answers : Answers) (records : List PyDict) : Except PyError (Option Number) := do
  match ← pricedRecord keys records with
  | some (_, price) => return some price
  | none => (loaderPrice symbol assetClass).under answers

omit [Trading] in
theorem priceAmong_bind {keys : List PyString} {symbol : PyString} {assetClass : Option AssetClass}
    {answers : Answers} {program : Program (Option Number)} {records : Except PyError (List PyDict)}
    (found : program.under answers =
      records.bind fun records => (pricedRecord keys records).map (·.map Prod.snd)) :
    Process.under answers (do
      match ← program with
      | some price => return some price
      | none => loaderPrice symbol assetClass) =
      records.bind (priceAmong keys symbol assetClass answers) := by
  rw [Process.under_bind, found]
  rcases records with raised | records
  · rfl
  · unfold priceAmong
    dsimp only [Except.bind]
    rcases pricedRecord keys records with raised | _ | ⟨record, price⟩ <;> rfl

omit [Trading] in
theorem SdkOrder.parseQuotePrice_records (result : PyValue) :
    parseQuotePrice result = (GateCall.sdkRecords result).bind
      fun records => (pricedRecord quoteKeys records).map (·.map Prod.snd) := by
  cases result with
  | dict payload =>
    unfold parseQuotePrice GateCall.sdkRecords
    dsimp only
    rcases statusText payload with raised | text
    · rfl
    · by_cases failed : text = "error"
      · simp [failed, bind, Except.bind, pure, Except.pure, firstHit, Except.map]
      · cases PyDict.get payload "quote" with
        | dict quote =>
          rcases priced : priceFromQuote quote quoteKeys with raised | _ | price <;>
            simp [failed, PyValue.entries?, firstHit, priced, bind, Except.bind, pure,
              Except.pure, Except.map]
        | _ =>
          simp [failed, PyValue.entries?, firstHit, bind, Except.bind, pure, Except.pure, Except.map]
  | _ => rfl

theorem GateCall.quotePrice_under (call : GateCall) (intent : OrderIntent) (answers : Answers) :
    (call.quotePrice intent).under answers =
      (call.records intent.symbol answers).bind
        (priceAmong call.quoteKeys intent.symbol (call.assetClass intent) answers) := by
  cases call with
  | guard tool kwargs =>
    dsimp only [quotePrice, records, LiveOrderGuardTool.quotePrice]
    rw [LiveOrderGuardTool.readTools_quoteTool]
    exact priceAmong_bind (LiveOrderGuardTool.brokerQuotePrice_under _ _ _)
  | sdk order =>
    refine priceAmong_bind ?_
    dsimp only [records, SdkOrder.connectorQuotePrice]
    rw [Process.ask_bind, Process.under_perform]
    rcases answers (.getQuote intent.symbol) with _ | raised | result
    · rfl
    · dsimp only
      split <;> rfl
    · dsimp only [quoteKeys]
      rw [← SdkOrder.parseQuotePrice_records]
      rcases SdkOrder.parseQuotePrice result with raised | price <;> rfl

section Records

variable {keys : List PyString} {records : List PyDict} {record : PyDict} {price : Number}
  {symbol : PyString} {assetClass : Option AssetClass} {answers : Answers}

omit [Trading] in
theorem pricedRecord_some_iff : pricedRecord keys records = .ok (some (record, price)) ↔
    StandsBehind (StatesNone keys) records record ∧ States keys record price := by
  rw [pricedRecord, firstHit_some_iff, priceFromQuote_some_iff]
  simp only [priceFromQuote_none_iff]

omit [Trading] in
theorem pricedRecord_none_iff :
    pricedRecord keys records = .ok none ↔ ∀ record ∈ records, StatesNone keys record := by
  rw [pricedRecord, firstHit_none_iff]
  simp only [priceFromQuote_none_iff]

omit [Trading] [PyText] in
theorem loaderPrice_some_iff : (loaderPrice symbol assetClass).under answers = .ok (some price) ↔
    ∃ bucket, assetClass = some bucket ∧ answers (.lastClose symbol bucket) = .ok (some price) ∧
      0 < price := by
  cases assetClass with
  | none => simp [loaderPrice]
  | some bucket =>
    simp only [Option.some.injEq, exists_eq_left']
    unfold loaderPrice
    dsimp only
    rw [Process.ask_bind, Process.under_perform]
    rcases answers (.lastClose symbol bucket) with raised | _ | close
    · dsimp only
      split
      · simp
      · constructor
        · intro returned
          cases returned
        · rintro ⟨same, -⟩
          cases same
    · simp
    · by_cases positive : 0 < close
      · simp only [Process.pure_eq, Process.under_done, Option.filter, positive, decide_true, if_true,
          Except.ok.injEq, Option.some.injEq]
        constructor
        · rintro rfl
          exact ⟨rfl, positive⟩
        · rintro ⟨same, -⟩
          exact same
      · simp only [Process.pure_eq, Process.under_done, Option.filter, positive]
        constructor
        · intro none
          cases none
        · rintro ⟨same, positive'⟩
          cases same
          exact absurd positive' positive

end Records

omit [PyText] [Trading] in
theorem isFinite_of_positive {price : Number} (positive : 0 < price) :
    price.isFinite ↔ price ≠ .posInf := by
  rw [Number.isFinite_iff]
  cases price with
  | finite x => simp
  | nan => exact absurd positive Number.not_lt_nan
  | negInf => exact absurd positive Number.not_lt_negInf
  | posInf => simp

def nameKeys : List PyString := ["symbol", "ticker", "instrument"]

def textOf (record : PyDict) (key : PyString) : Option PyString :=
  match record.get key with
  | .str name => some name
  | _ => none

def recordName (record : PyDict) : Option PyString := nameKeys.findSome? (textOf record)

def NamesAnother (symbol : PyString) (record : PyDict) : Prop :=
  ∃ name ∈ recordName record, name.strip.upper ≠ symbol

instance (symbol : PyString) (record : PyDict) : Decidable (NamesAnother symbol record) := by
  unfold NamesAnother
  infer_instance

section Names

variable {symbol key : PyString} {record : PyDict}

def Carries (symbol : PyString) (record : PyDict) (key : PyString) : Prop :=
  ∃ name, record.get key = .str name ∧ name.strip.upper = symbol

def Mute (record : PyDict) (key : PyString) : Prop := ∀ name, record.get key ≠ .str name

def LeadsWith (symbol : PyString) (record : PyDict) : Prop :=
  ∃ key, StandsBehind (Mute record) nameKeys key ∧ Carries symbol record key

omit [PyText] [Trading] in
theorem textOf_some_iff {name : PyString} :
    textOf record key = some name ↔ record.get key = .str name := by
  unfold textOf
  split <;> simp_all

omit [PyText] [Trading] in
theorem textOf_none_iff : textOf record key = none ↔ Mute record key := by
  rw [Option.eq_none_iff_forall_ne_some]
  exact forall_congr' fun name => not_congr textOf_some_iff

omit [PyText] [Trading] in
theorem recordName_iff {name : PyString} : recordName record = some name ↔
    ∃ key, StandsBehind (Mute record) nameKeys key ∧ record.get key = .str name := by
  rw [recordName, List.findSome?_eq_some_iff]
  simp only [textOf_some_iff, textOf_none_iff]
  constructor
  · rintro ⟨before, key, after, split, text, mute⟩
    exact ⟨key, ⟨before, after, split, mute⟩, text⟩
  · rintro ⟨key, ⟨before, after, split, mute⟩, text⟩
    exact ⟨before, key, after, split, text, mute⟩

omit [Trading] in
theorem not_namesAnother_iff : ¬ NamesAnother symbol record ↔
    (∀ key ∈ nameKeys, Mute record key) ∨ LeadsWith symbol record := by
  unfold NamesAnother
  cases found : recordName record with
  | none =>
    have mute : ∀ key ∈ nameKeys, Mute record key := fun key listed =>
      textOf_none_iff.mp (List.findSome?_eq_none_iff.mp found key listed)
    exact ⟨fun _ => .inl mute, fun _ => by simp⟩
  | some name =>
    obtain ⟨key, behind, text⟩ := recordName_iff.mp found
    have loud : ¬ ∀ key ∈ nameKeys, Mute record key := fun mute => by
      obtain ⟨before, after, split, -⟩ := behind
      exact mute key (split ▸ List.mem_append_right _ List.mem_cons_self) name text
    have leads : LeadsWith symbol record ↔ name.strip.upper = symbol := by
      constructor
      · rintro ⟨other, first, said, given, same⟩
        rw [Option.some.inj (found.symm.trans (recordName_iff.mpr ⟨other, first, given⟩))]
        exact same
      · exact fun same => ⟨key, behind, name, text, same⟩
    simp only [Option.mem_def, Option.some.injEq, exists_eq_left', not_not, loud, leads, false_or]

omit [Trading] in
theorem namesSymbol_iff : LiveOrderGuardTool.namesSymbol symbol record = true ↔
    ∃ key ∈ nameKeys, Carries symbol record key := by
  unfold LiveOrderGuardTool.namesSymbol
  rw [List.any_eq_true]
  refine exists_congr fun key => and_congr_right fun _ => ?_
  unfold Carries
  split
  next name given => simp [given]
  next other => exact ⟨nofun, fun ⟨name, given, _⟩ => absurd given (other name)⟩

omit [Trading] in
theorem containerRow_cases {payload : PyDict}
    (found : LiveOrderGuardTool.containerRow payload symbol key = some record) :
    (∃ rows, payload.get key = .list rows ∧ rows.filterMap PyValue.entries? = [record]) ∨
      ∃ key ∈ nameKeys, Carries symbol record key := by
  unfold LiveOrderGuardTool.containerRow at found
  split at found
  next rows given =>
    unfold LiveOrderGuardTool.matchQuoteRow at found
    dsimp only at found
    split at found
    next row matched =>
      cases found
      exact .inr (namesSymbol_iff.mp (List.find?_some matched))
    next =>
      split at found
      next row only =>
        cases found
        exact .inl ⟨rows, given, only⟩
      next => cases found
  next => cases found

end Names

namespace GateCall

-- The record that the price is taken from, none for a close of the loaders.
def source (call : GateCall) (symbol : PyString) (answers : Answers) : Option PyDict :=
  match (call.records symbol answers).bind (pricedRecord call.quoteKeys) with
  | .ok (some (record, _)) => some record
  | _ => none

def FairlyValued (call : GateCall) (intent : OrderIntent) (answers : Answers) : Prop :=
  ∀ price, (call.quotePrice intent).under answers = .ok (some price) →
    price.isFinite ∧ 0 < price ∧
      ∀ record ∈ call.source intent.symbol answers,
        States call.quoteKeys record price ∧ ¬ NamesAnother intent.symbol record

-- The places of an answer where no name is looked at: the payload itself, the dict under the
-- symbol, the only row of a list, and the quote of a connector.
def Unchecked (call : GateCall) (symbol : PyString) (answers : Answers) (record : PyDict) : Prop :=
  match call with
  | .guard tool _ =>
    ∃ payload : PyDict, answers (.callTool tool.quoteTool [(.str "symbol", .str symbol)]) =
        .ok (.dict payload) ∧
      (record = payload ∨ payload.get symbol = .dict record ∨
        ∃ key ∈ (["quotes", "data", "results"] : List PyString), ∃ rows,
          payload.get key = .list rows ∧ rows.filterMap PyValue.entries? = [record])
  | .sdk _ => True

structure Priced (call : GateCall) (symbol : PyString) (answers : Answers) (record : PyDict)
    (price : Number) : Prop where
  first : ∃ records, call.records symbol answers = .ok records ∧
    StandsBehind (StatesNone call.quoteKeys) records record
  states : States call.quoteKeys record price

structure Trusted (call : GateCall) (intent : OrderIntent) (answers : Answers) : Prop where
  finite : ∀ record, ¬ call.Priced intent.symbol answers record .posInf
  -- In such a place, a record without the symbol in a field has no name at all.
  alone : ∀ record price, call.Priced intent.symbol answers record price →
    call.Unchecked intent.symbol answers record →
    (∀ key ∈ nameKeys, ¬ Carries intent.symbol record key) → ∀ key ∈ nameKeys, Mute record key
  -- Where a field has the symbol, no other text stands before it.
  leading : ∀ record price, call.Priced intent.symbol answers record price →
    ∀ key ∈ nameKeys, Carries intent.symbol record key → LeadsWith intent.symbol record
  closing : ∀ records bucket, call.records intent.symbol answers = .ok records →
    (∀ record ∈ records, StatesNone call.quoteKeys record) →
    call.assetClass intent = some bucket →
    answers (.lastClose intent.symbol bucket) ≠ .ok (some .posInf)

variable {call : GateCall} {intent : OrderIntent} {answers : Answers}

theorem quotePrice_quoted {records : List PyDict} {record : PyDict} {price : Number}
    (offered : call.records intent.symbol answers = .ok records)
    (priced : pricedRecord call.quoteKeys records = .ok (some (record, price))) :
    (call.quotePrice intent).under answers = .ok (some price) ∧
      call.source intent.symbol answers = some record := by
  constructor
  · rw [quotePrice_under, offered]
    dsimp only [Except.bind, priceAmong]
    rw [priced]
    rfl
  · unfold source
    rw [offered]
    dsimp only [Except.bind]
    rw [priced]

theorem quotePrice_closing {records : List PyDict}
    (offered : call.records intent.symbol answers = .ok records)
    (unpriced : pricedRecord call.quoteKeys records = .ok none) :
    (call.quotePrice intent).under answers =
        (loaderPrice intent.symbol (call.assetClass intent)).under answers ∧
      call.source intent.symbol answers = none := by
  constructor
  · rw [quotePrice_under, offered]
    dsimp only [Except.bind, priceAmong]
    rw [unpriced]
    rfl
  · unfold source
    rw [offered]
    dsimp only [Except.bind]
    rw [unpriced]

theorem unchecked_or_named {symbol : PyString} {records : List PyDict} {record : PyDict}
    (offered : call.records symbol answers = .ok records) (listed : record ∈ records) :
    call.Unchecked symbol answers record ∨ ∃ key ∈ nameKeys, Carries symbol record key := by
  cases call with
  | sdk order => exact .inl trivial
  | guard tool kwargs =>
    dsimp only [GateCall.records] at offered
    unfold Unchecked
    dsimp only
    cases answered : answers (.callTool tool.quoteTool [(.str "symbol", .str symbol)]) with
    | error raised =>
      rw [answered] at offered
      dsimp only [LiveOrderGuardTool.answerRecords] at offered
      split at offered
      all_goals cases offered
      cases listed
    | ok result =>
      rw [answered] at offered
      dsimp only [LiveOrderGuardTool.answerRecords] at offered
      by_cases failed : LiveOrderGuardTool.isErrorResult result = true
      · rw [if_pos failed] at offered
        cases offered
        cases listed
      · rw [if_neg failed] at offered
        cases result with
        | dict payload =>
          cases offered
          simp only [Except.ok.injEq, PyValue.dict.injEq, exists_eq_left']
          obtain flat | rest := List.mem_cons.mp listed
          · exact .inl (.inl flat)
          · obtain keyed | row := List.mem_append.mp rest
            · refine .inl (.inr (.inl ?_))
              cases given : PyDict.get payload symbol with
              | dict entries =>
                rw [given] at keyed
                rw [List.mem_singleton.mp keyed]
              | _ =>
                rw [given] at keyed
                cases keyed
            · obtain ⟨key, among, found⟩ := List.mem_filterMap.mp row
              obtain ⟨rows, given, only⟩ | named := containerRow_cases found
              · exact .inl (.inr (.inr ⟨key, among, rows, given, only⟩))
              · exact .inr named
        | _ =>
          cases offered
          cases listed

theorem Trusted.own {record : PyDict} {price : Number} (trusted : call.Trusted intent answers)
    (priced : call.Priced intent.symbol answers record price) :
    ¬ NamesAnother intent.symbol record := by
  rw [not_namesAnother_iff]
  by_cases named : ∃ key ∈ nameKeys, Carries intent.symbol record key
  · obtain ⟨key, listed, carries⟩ := named
    exact .inr (trusted.leading record price priced key listed carries)
  · obtain ⟨records, offered, before, after, split, -⟩ := id priced.first
    have unchecked := (unchecked_or_named offered
      (split ▸ List.mem_append_right _ List.mem_cons_self)).resolve_right named
    exact .inl (trusted.alone record price priced unchecked fun key listed carries =>
      named ⟨key, listed, carries⟩)

theorem Priced.valued {record : PyDict} {price : Number}
    (priced : call.Priced intent.symbol answers record price) :
    (call.quotePrice intent).under answers = .ok (some price) ∧
      call.source intent.symbol answers = some record := by
  obtain ⟨records, offered, behind⟩ := priced.first
  exact quotePrice_quoted offered (pricedRecord_some_iff.mpr ⟨behind, priced.states⟩)

theorem FairlyValued.trusted (fair : call.FairlyValued intent answers) :
    call.Trusted intent answers where
  finite record priced := by
    obtain ⟨finite, positive, -⟩ := fair .posInf priced.valued.1
    exact (isFinite_of_positive positive).mp finite rfl
  alone record price priced unchecked uncarried := by
    obtain ⟨valued, taken⟩ := priced.valued
    obtain mute | ⟨key, ⟨before, after, split, -⟩, carries⟩ :=
      not_namesAnother_iff.mp ((fair price valued).2.2 record taken).2
    · exact mute
    · exact absurd carries (uncarried key (split ▸ List.mem_append_right _ List.mem_cons_self))
  leading record price priced key listed carries := by
    obtain ⟨valued, taken⟩ := priced.valued
    obtain mute | leads := not_namesAnother_iff.mp ((fair price valued).2.2 record taken).2
    · obtain ⟨name, given, -⟩ := carries
      exact absurd given (mute key listed name)
    · exact leads
  closing records bucket offered unpriced asset close := by
    obtain ⟨valued, -⟩ := quotePrice_closing offered (pricedRecord_none_iff.mpr unpriced)
    have infinite := loaderPrice_some_iff.mpr ⟨bucket, asset, close, Number.finite_lt_posInf⟩
    obtain ⟨finite, positive, -⟩ := fair .posInf (valued.trans infinite)
    exact (isFinite_of_positive positive).mp finite rfl

theorem fairlyValued_iff (call : GateCall) (intent : OrderIntent) (answers : Answers) :
    call.FairlyValued intent answers ↔ call.Trusted intent answers := by
  refine ⟨FairlyValued.trusted, fun trusted price valued => ?_⟩
  cases offered : call.records intent.symbol answers with
  | error raised =>
    rw [quotePrice_under, offered] at valued
    cases valued
  | ok records =>
    rcases priced : pricedRecord call.quoteKeys records with raised | _ | ⟨record, stated⟩
    · rw [quotePrice_under, offered] at valued
      dsimp only [Except.bind, priceAmong] at valued
      rw [priced] at valued
      cases valued
    · obtain ⟨same, taken⟩ := quotePrice_closing offered priced
      obtain ⟨bucket, asset, close, positive⟩ := loaderPrice_some_iff.mp (same.symm.trans valued)
      have finite : price ≠ .posInf := fun infinite =>
        trusted.closing records bucket offered (pricedRecord_none_iff.mp priced) asset
          (infinite ▸ close)
      exact ⟨(isFinite_of_positive positive).mpr finite, positive, by simp [taken]⟩
    · obtain ⟨same, taken⟩ := quotePrice_quoted offered priced
      obtain ⟨behind, states⟩ := pricedRecord_some_iff.mp priced
      obtain rfl : stated = price := Option.some.inj (Except.ok.inj (same.symm.trans valued))
      have source : call.Priced intent.symbol answers record stated :=
        ⟨⟨records, offered, behind⟩, states⟩
      refine ⟨(isFinite_of_positive states.positive).mpr fun infinite =>
        trusted.finite record (infinite ▸ source), states.positive, ?_⟩
      intro other given
      obtain rfl := Option.some.inj (taken.symm.trans given)
      exact ⟨states, trusted.own source⟩

end GateCall

end Gates

-- The quote of another, cheaper stock, in each of the places where no name is compared.
def pennyQuote : PyDict := [(.str "symbol", .str "PENNY"), (.str "last", .float (.finite (1 / 100)))]

def pennyAnswers (payload : PyDict) : Answers
  | .readJson _ => .ok none
  | .pathExists _ => false
  | .writeTmp _ _ => .ok ()
  | .replaceTmp _ => .ok ()
  | .unlink _ => .ok ()
  | .utcNow => ⟨0, noText, noText⟩
  | .newId => noText
  | .callTool _ _ => .ok (.dict payload)
  | .getQuote _ => some (.ok (.dict payload))
  | .connectorRead _ => none
  | .lastClose _ _ => .ok none
  | .getenvAdvisory => .empty
  | .advisoryProviders => []
  | .review _ _ => .error .other
  | .forward _ => .ok .none
  | .appendLedger _ => ()

def appleOrder : OrderIntent where
  symbol := "AAPL"
  side := "buy"
  notionalUsd := none
  quantity := some (.finite 100)
  instrumentType := .equity

@[reducible] def plainTrading : Trading where
  robinhoodExtract _ _ := some appleOrder
  runnerToolName _ _ := none
  loaders := ⟨fun _ _ => none, fun _ _ => none⟩

def appleTool : LiveOrderGuardTool where
  broker := "robinhood"
  sessionId := .empty
  remoteName := "place_order"
  allowedKeys := []
  allowAdditional := false

def appleCalls : List (GateCall × PyDict) :=
  [(.guard appleTool [], pennyQuote),
    (.guard appleTool [], [(.str "AAPL", .dict pennyQuote)]),
    (.guard appleTool [], [(.str "quotes", .list [.dict pennyQuote])]),
    (.sdk ⟨"alpaca", .empty, appleOrder, []⟩, [(.str "quote", .dict pennyQuote)])]

theorem penny_values_apple : ¬ ∃ called ∈ appleCalls,
    @GateCall.FairlyValued asciiText plainTrading called.1 appleOrder (pennyAnswers called.2) := by
  let := asciiText
  let := plainTrading
  have valued : ∀ called ∈ appleCalls,
      (called.1.quotePrice appleOrder).under (pennyAnswers called.2) =
          .ok (some (.finite (1 / 100))) ∧
        (called.1.source "AAPL" (pennyAnswers called.2)).any (NamesAnother "AAPL" ·) = true := by
    decide +kernel
  rintro ⟨called, member, fair⟩
  obtain ⟨priced, taken⟩ := valued called member
  obtain ⟨record, given, another⟩ := (Option.any_eq_true _ _).mp taken
  exact ((fair _ priced).2.2 record given).2 (of_decide_eq_true another)

end SynapseYield.Live
