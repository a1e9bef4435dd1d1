import SynapseYield.Runtime.JobStore
import SynapseYield.Shared.JsonMembers
import SynapseYield.Shared.JsonPrefix
import SynapseYield.Shared.Outcome
import SynapseYield.Shared.Utf8
import SynapseYield.Shared.Volume

set_option autoImplicit false

namespace SynapseYield.Runtime.JobStore

open Shared JsonText Utf8

-- payload.encode("utf-8")
def encodeText (text : Text) : Except PyError Bytes :=
  if PyString.encodable ⟨text⟩ then .ok (encode text) else .error .valueError

def storeBytes (jobs : List WatchJob) : Except PyError Bytes := do
  encodeText (write indented 0 (← envelope jobs))

-- What save does to the files, where os.write takes the first bytes only. The text is encoded
-- after the temporary file is opened, and the file is closed where that raises.
def saveOps (jobs : List WatchJob) (accepted : Nat) : List (FileOp Byte) :=
  match envelope jobs with
  | .error _ => []
  | .ok envelope =>
    match encodeText (write indented 0 envelope) with
    | .error _ => [.create, .close]
    | .ok bytes => Volume.replacing (bytes.take accepted)

-- load, of what the store file holds. Universal newlines change no parse: a carriage return is
-- a blank between two tokens, and an error inside a string, and so is a line feed.
def loadBytes (content : Option Bytes) : Except PyError (List WatchJob) :=
  let text := content.map fun bytes => (decode bytes).getD []
  (load {
    unstatable := false
    unreadable := (content.bind decode).isNone
    unrenamable := false
    unwritable := false
    unclosable := false } text).1

-- A save of the jobs has come to its end; no store stands for no jobs.
def Holds (content : Option Bytes) (jobs : List WatchJob) : Prop :=
  content = none ∧ jobs = [] ∨ ∃ bytes, storeBytes jobs = .ok bytes ∧ content = some bytes

-- The payloads are JSON values: no key twice, and numbers that are literals.
def Representable (jobs : List WatchJob) : Prop :=
  ∀ job ∈ jobs, ∀ payload, job.payload = some payload → wellFormed (.obj payload) = true

/-- A save of jobs over a store that holds others, with any crash inside it. -/
structure CrashSafe (volume : Volume Byte) (old jobs : List WatchJob) (accepted : Nat) : Prop where
  survivors : ∀ n content, (volume.run ((saveOps jobs accepted).take n)).Survives content →
    loadBytes content = .ok old ∨ loadBytes content = .ok jobs
  completed : ∀ bytes, storeBytes jobs = .ok bytes →
    loadBytes (volume.run (saveOps jobs accepted)).target = .ok jobs

section Numbers

variable {n : Int} {literal : Text}

theorem natural_decimal (n : Nat) : Ascii.natural (decimal n) = n := by
  have digits := (decimal_digits n).1
  have all : (decimal n).filter Ascii.isDigit = decimal n := List.filter_eq_self.mpr digits
  unfold Ascii.natural Ascii.digits
  rw [all]
  unfold decimal
  split
  next zero => exact zero.symm
  next positive =>
    have value : ((Nat.digits 10 n).reverse.map fun digit =>
        Fin.ofNat 0x110000 (0x30 + digit)).map (fun c => c.val - 48) =
          (Nat.digits 10 n).reverse := by
      rw [List.map_map]
      refine (List.map_congr_left fun digit member => ?_).trans (List.map_id _)
      have bound := Nat.digits_lt_base (by decide : 1 < 10) (List.mem_reverse.mp member)
      rw [Function.comp_apply, Fin.val_ofNat, Nat.mod_eq_of_lt (by omega)]
      exact Nat.add_sub_cancel_left 48 digit
    rw [value, List.foldl_reverse]
    refine Eq.trans ?_ (Nat.ofDigits_digits 10 n)
    rw [Nat.ofDigits_eq_foldr]
    refine congrArg (fun step => List.foldr step 0 (Nat.digits 10 n)) ?_
    funext digit value
    exact Nat.add_comm _ _

theorem signed_decimal (n : Nat) : Ascii.signed (decimal n) = (1, decimal n) := by
  obtain ⟨c, rest, shape, digit⟩ := (@unsigned_head (decimal n)) (by
    have number := decimal_digits n
    rw [List.takeWhile_eq_self_iff.mpr number.1]
    exact number.2)
  rw [shape]
  unfold Ascii.signed
  split
  next same =>
    cases same
    cases digit
  next same =>
    cases same
    cases digit
  next => rfl

theorem literalInt_intText (printed : intText n = .ok literal) : literalInt literal = some n := by
  unfold intText at printed
  split at printed
  next =>
    rw [Except.ok.injEq] at printed
    subst printed
    have digits := List.all_eq_true.mpr (decimal_digits n.natAbs).1
    by_cases negative : n < 0
    · have signed : Ascii.signed (0x2D :: decimal n.natAbs) = (-1, decimal n.natAbs) := rfl
      rw [if_pos negative, literalInt, signed]
      dsimp only
      rw [if_pos digits, natural_decimal, Option.some.injEq]
      omega
    · rw [if_neg negative, literalInt, signed_decimal]
      dsimp only
      rw [if_pos digits, natural_decimal, Option.some.injEq]
      omega
  next => cases printed

theorem intText_number (printed : intText n = .ok literal) : isNumber literal = true := by
  unfold intText at printed
  split at printed
  next =>
    rw [Except.ok.injEq] at printed
    subst printed
    by_cases negative : n < 0
    · rw [if_pos negative, isNumber]
      have digits := decimal_digits n.natAbs
      rw [List.takeWhile_eq_self_iff.mpr digits.1, List.dropWhile_eq_nil_iff.mpr digits.1, digits.2]
      rfl
    · rw [if_neg negative]
      exact decimal_number _
  next => cases printed

theorem asInt_intText (printed : intText n = .ok literal) : asInt (.number literal) = .ok n := by
  have read := literalInt_intText printed
  have fits : printable n = true := by
    unfold intText at printed
    split at printed
    next fits => exact fits
    next => cases printed
  simp only [asInt, read, fits, if_true]

end Numbers

section Documents

variable {job : WatchJob} {jobs : List WatchJob} {value document : Json}

theorem keys_distinct :
    (["id", "next_run_at", "schedule", "payload"] : List PyString).Nodup ∧
      (["schema_version", "jobs"] : List PyString).Nodup := by decide +kernel

theorem getItem_of_mem {members : Members} {key : PyString}
    (distinct : (members.map (·.1)).Nodup) (listed : (key, value) ∈ members) :
    getItem members key = .ok value := by
  unfold getItem
  rw [lookup_of_mem distinct listed]

theorem payload_formed (formed : ∀ payload, job.payload = some payload →
      wellFormed (.obj payload) = true) :
    wellFormed ((job.payload.map Json.obj).getD .null) = true := by
  cases given : job.payload with
  | none => rfl
  | some payload => exact formed payload given

theorem asPayload_payload (payload : Option Members) :
    asPayload (some ((payload.map Json.obj).getD .null)) = .ok payload := by
  cases payload <;> rfl

def jobMembers (job : WatchJob) (nextRunAt : Text) : Members := [
  ("id", .str job.id),
  ("next_run_at", .number nextRunAt),
  ("schedule", .str job.schedule),
  ("payload", (job.payload.map Json.obj).getD .null)]

theorem jobToDict_ok (written : jobToDict job = .ok value)
    (formed : ∀ payload, job.payload = some payload → wellFormed (.obj payload) = true) :
    wellFormed value = true ∧ ∃ members, value = .obj members ∧ jobFromDict members = .ok job := by
  obtain ⟨nextRunAt, printed, written⟩ := Outcome.bind_ok.mp written
  obtain rfl : Json.obj (jobMembers job nextRunAt) = value := Except.ok.inj written
  have distinct : ((jobMembers job nextRunAt).map (·.1)).Nodup := keys_distinct.1
  constructor
  · have payload := payload_formed formed
    rw [wellFormed, Bool.and_eq_true, decide_eq_true_eq]
    refine ⟨distinct, ?_⟩
    simp only [jobMembers, wellFormed, wellFormedMembers, intText_number printed, payload,
      Bool.true_or, Bool.and_self]
  · refine ⟨_, rfl, ?_⟩
    have id := getItem_of_mem distinct (.head _)
    have next := getItem_of_mem distinct (.tail _ (.head _))
    have schedule := getItem_of_mem distinct (.tail _ (.tail _ (.head _)))
    have payload := lookup_of_mem distinct (.tail _ (.tail _ (.tail _ (.head _))))
    unfold jobFromDict
    rw [id, next, schedule, payload]
    simp only [bind, Except.bind, asInt_intText printed, asPayload_payload]
    rfl

theorem envelope_ok (written : envelope jobs = .ok document) (formed : Representable jobs) :
    (∃ members, document = .obj members) ∧ wellFormed document = true ∧
      (do (← extractJobs document).mapM jobFromDict) = .ok jobs := by
  obtain ⟨documents, mapped, result⟩ := Outcome.bind_ok.mp written
  obtain rfl := Except.ok.inj result
  rw [Outcome.mapM_ok] at mapped
  clear written result
  have items : wellFormedItems documents = true ∧ ∃ items, documents.mapM asObject = .ok items ∧
      items.mapM jobFromDict = .ok jobs := by
    induction mapped with
    | nil => exact ⟨rfl, [], rfl, rfl⟩
    | @cons job value jobs documents head _ ih =>
      obtain ⟨first, later⟩ := List.forall_mem_cons.mp formed
      obtain ⟨formedValue, members, rfl, read⟩ := jobToDict_ok head first
      obtain ⟨formedItems, items, objects, stored⟩ := ih later
      refine ⟨by rw [wellFormedItems, formedValue, formedItems]; rfl, members :: items, ?_, ?_⟩
      · rw [List.mapM_cons, objects]
        rfl
      · rw [List.mapM_cons, read, stored]
        rfl
  obtain ⟨formedItems, items, objects, stored⟩ := items
  refine ⟨⟨_, rfl⟩, ?_, ?_⟩
  · rw [wellFormed, Bool.and_eq_true, decide_eq_true_eq]
    refine ⟨keys_distinct.2, ?_⟩
    simp only [wellFormedMembers, wellFormed, decimal_number, formedItems, Bool.true_or,
      Bool.and_self]
  · have found : ([("schema_version", .number (decimal schemaVersion)), ("jobs", .arr documents)] :
        Members).lookup ("jobs" : PyString) = some (.arr documents) :=
      lookup_of_mem keys_distinct.2 (.tail _ (.head _))
    have extracted : extractJobs (.obj [("schema_version", .number (decimal schemaVersion)),
        ("jobs", .arr documents)]) = .ok items := by
      rw [extractJobs, found]
      exact objects
    rw [extracted]
    exact stored

theorem parse_written (written : envelope jobs = .ok document) (formed : Representable jobs) :
    parse (write indented 0 document) = .ok jobs := by
  obtain ⟨-, formedDocument, stored⟩ := envelope_ok written formed
  rw [parse, loads_write indented formedDocument]
  exact stored

theorem parse_torn (written : envelope jobs = .ok document) (formed : Representable jobs)
    {text lost : Text} (whole : write indented 0 document = text ++ lost) (torn : lost ≠ []) :
    parse text = .error .valueError := by
  obtain ⟨⟨members, rfl⟩, formedDocument, -⟩ := envelope_ok written formed
  rw [parse, loads_beginning formedDocument whole torn]

end Documents

section Files

variable {old jobs : List WatchJob} {bytes : Bytes} {content : Option Bytes}

theorem storeBytes_ok : storeBytes jobs = .ok bytes ↔ ∃ document, envelope jobs = .ok document ∧
    PyString.encodable ⟨write indented 0 document⟩ = true ∧
      encode (write indented 0 document) = bytes := by
  unfold storeBytes encodeText
  rw [Outcome.bind_ok]
  refine exists_congr fun document => and_congr_right fun _ => ?_
  split
  next plain => simp [plain]
  next other => simp [other]

theorem encodable_plain {text : Text} (plain : PyString.encodable ⟨text⟩ = true) :
    ∀ c ∈ text, isSurrogate c = false := fun c member => by
  simpa using List.all_eq_true.mp plain c member

theorem loadBytes_text {text : Text} (read : decode bytes = some text) :
    loadBytes (some bytes) = match parse text with
      | .ok jobs => .ok jobs
      | .error _ => .error .other := by
  unfold loadBytes load
  simp only [Option.map_some, read, Option.getD_some, Option.bind_some, Option.isNone_some]
  cases parse text <;> rfl

theorem loadBytes_holds (formed : Representable jobs) (holds : Holds content jobs) :
    loadBytes content = .ok jobs := by
  obtain ⟨rfl, rfl⟩ | ⟨bytes, stored, rfl⟩ := holds
  · rfl
  · obtain ⟨document, written, plain, rfl⟩ := storeBytes_ok.mp stored
    rw [loadBytes_text (decode_encode (encodable_plain plain)), parse_written written formed]

theorem loadBytes_torn (formed : Representable jobs) {lost : Bytes}
    (stored : storeBytes jobs = .ok (bytes ++ lost)) (torn : lost ≠ []) :
    loadBytes (some bytes) = .error .other := by
  obtain ⟨document, written, plain, whole⟩ := storeBytes_ok.mp stored
  cases read : decode bytes with
  | none =>
    unfold loadBytes load
    simp only [Option.map_some, read, Option.bind_some, Option.isNone_none]
    rfl
  | some text =>
    obtain ⟨q, whole, rest⟩ := decode_torn (encodable_plain plain) whole torn read
    rw [loadBytes_text read, parse_torn written formed whole rest]

theorem saveOps_stored (stored : storeBytes jobs = .ok bytes) (accepted : Nat) :
    saveOps jobs accepted = Volume.replacing (bytes.take accepted) := by
  obtain ⟨document, written, plain, rfl⟩ := storeBytes_ok.mp stored
  have encoded : encodeText (write indented 0 document) =
      .ok (encode (write indented 0 document)) := if_pos plain
  unfold saveOps
  rw [written]
  dsimp only
  rw [encoded]

theorem saveOps_raises (raises : ∀ bytes, storeBytes jobs ≠ .ok bytes) (accepted : Nat) :
    ∀ op ∈ saveOps jobs accepted, op.temporary = true := by
  unfold saveOps
  cases written : envelope jobs with
  | error raised => exact List.forall_mem_nil _
  | ok document =>
    dsimp only
    cases encoded : encodeText (write indented 0 document) with
    | error raised => exact List.all_eq_true.mp rfl
    | ok bytes =>
      have stored : storeBytes jobs = .ok bytes := by
        unfold storeBytes
        rw [written]
        exact encoded
      exact absurd stored (raises bytes)

/-- A save whose bytes are all taken leaves at the target the text that save gives the file. -/
theorem saveOps_save {volume : Volume Byte} {file : Option Text} {access : Access} (accepted : Nat)
    (writable : access.unwritable = false) (held : volume.target = file.map encode)
    (whole : ∀ bytes, storeBytes jobs = .ok bytes → bytes.length ≤ accepted) :
    (volume.run (saveOps jobs accepted)).target = (save access file jobs).2.map encode := by
  by_cases stores : ∃ bytes, storeBytes jobs = .ok bytes
  · obtain ⟨bytes, stored⟩ := stores
    obtain ⟨document, written, plain, rfl⟩ := storeBytes_ok.mp stored
    rw [saveOps_stored stored, Volume.run_replacing, List.take_of_length_le (whole _ stored)]
    unfold save
    rw [written]
    simp [writable, plain]
  · have raises (bytes : Bytes) (stored : storeBytes jobs = .ok bytes) : False :=
      stores ⟨bytes, stored⟩
    have untouched := (Volume.run_temporary (saveOps_raises raises accepted) volume).1
    rw [untouched, held]
    unfold save
    cases written : envelope jobs with
    | error raised => rfl
    | ok document =>
      by_cases plain : PyString.encodable ⟨write indented 0 document⟩ = true
      · exact absurd (storeBytes_ok.mpr ⟨document, written, plain, rfl⟩) (raises _)
      · simp [writable, plain]

end Files

/-- A save keeps the old jobs or the new ones through every crash exactly where os.write takes
all of the text. -/
theorem save_crashSafe {volume : Volume Byte} {old jobs : List WatchJob} (accepted : Nat)
    (rest : volume.AtRest) (holds : Holds volume.target old) (formedOld : Representable old)
    (formed : Representable jobs) :
    CrashSafe volume old jobs accepted ↔
      ∀ bytes, storeBytes jobs = .ok bytes → bytes.length ≤ accepted := by
  have loadOld := loadBytes_holds formedOld holds
  constructor
  · intro safe bytes stored
    have loaded := safe.completed bytes stored
    rw [saveOps_stored stored, Volume.run_replacing] at loaded
    by_contra short
    have lost : bytes.drop accepted ≠ [] := by
      rw [Ne, List.drop_eq_nil_iff]
      exact short
    have torn := loadBytes_torn formed
      (stored.trans (congrArg _ (List.take_append_drop accepted bytes).symm)) lost
    rw [torn] at loaded
    cases loaded
  · intro whole
    refine ⟨fun n content survives => ?_, fun bytes stored => ?_⟩
    · by_cases stores : ∃ bytes, storeBytes jobs = .ok bytes
      · obtain ⟨bytes, stored⟩ := stores
        rw [saveOps_stored stored, List.take_of_length_le (whole bytes stored)] at survives
        obtain rfl | rfl := Volume.survives_replacing rest n survives
        · exact .inl loadOld
        · exact .inr (loadBytes_holds formed (.inr ⟨bytes, stored, rfl⟩))
      · have raises (bytes : Bytes) (stored : storeBytes jobs = .ok bytes) : False :=
          stores ⟨bytes, stored⟩
        have temporary := saveOps_raises raises accepted
        rw [Volume.survives_temporary rest (fun op member =>
          temporary op (List.mem_of_mem_take member)) survives]
        exact .inl loadOld
    · rw [saveOps_stored stored, Volume.run_replacing, List.take_of_length_le (whole bytes stored)]
      exact loadBytes_holds formed (.inr ⟨bytes, stored, rfl⟩)

def watchJob : WatchJob where
  id := "robinhood-interval-0"
  nextRunAt := 60000
  schedule := "interval:60000"
  payload := some [("broker", .str "robinhood")]

def unwritten : Volume Byte := ⟨none, true, none, true, none⟩

def isLoaded (loaded : Except PyError (List WatchJob)) : Bool := loaded.toOption.isSome

theorem watchJob_bytes :
    (storeBytes [watchJob]).toOption.map List.length = some 211 ∧
      wellFormed (.obj [("broker", .str "robinhood")]) = true ∧
        isLoaded (loadBytes (unwritten.run (saveOps [watchJob] 100)).target) = false := by
  decide +kernel

theorem watchJob_representable : Representable [watchJob] := by
  refine List.forall_mem_singleton.mpr fun payload given => ?_
  obtain rfl := Option.some.inj given
  exact watchJob_bytes.2.1

theorem watchJob_stored : ∃ bytes, storeBytes [watchJob] = .ok bytes ∧ bytes.length = 211 := by
  have length := watchJob_bytes.1
  cases stored : storeBytes [watchJob] with
  | error raised =>
    rw [stored] at length
    cases length
  | ok bytes =>
    rw [stored] at length
    exact ⟨bytes, rfl, Option.some.inj length⟩

def watched : Volume Byte where
  temp := none
  tempSynced := true
  target := (storeBytes [watchJob]).toOption
  targetSynced := true
  settled := (storeBytes [watchJob]).toOption

def marketJob : WatchJob where
  id := "robinhood-market-1"
  nextRunAt := 90000
  schedule := "interval:60000"
  payload := none

theorem marketJob_bytes :
    (storeBytes [watchJob, marketJob]).toOption.map List.length = some 344 := by decide +kernel

theorem save_crashSafe_whole : CrashSafe watched [watchJob] [watchJob, marketJob] 344 := by
  obtain ⟨old, storedOld, -⟩ := watchJob_stored
  have holds : Holds watched.target [watchJob] := by
    refine .inr ⟨old, storedOld, ?_⟩
    simp only [watched, storedOld, Except.toOption]
  have formed : Representable [watchJob, marketJob] :=
    List.forall_mem_cons.mpr ⟨watchJob_representable watchJob (by simp),
      List.forall_mem_singleton.mpr nofun⟩
  refine (save_crashSafe 344 ⟨rfl, rfl⟩ holds watchJob_representable formed).mpr
    fun bytes stored => ?_
  have length := marketJob_bytes
  rw [stored] at length
  exact (Option.some.inj length).le

-- A write that takes 100 of the 211 bytes is synced and renamed like a whole one.
theorem save_tears :
    ¬ ∀ volume old jobs accepted, Volume.AtRest volume → Holds volume.target old →
      Representable old → Representable jobs → 0 < accepted →
        CrashSafe volume old jobs accepted := by
  intro always
  have safe := always unwritten [] [watchJob] 100 ⟨rfl, rfl⟩ (.inl ⟨rfl, rfl⟩)
    (List.forall_mem_nil _) watchJob_representable (by decide)
  obtain ⟨bytes, stored, -⟩ := watchJob_stored
  have torn := watchJob_bytes.2.2
  rw [safe.completed bytes stored] at torn
  cases torn

end SynapseYield.Runtime.JobStore
