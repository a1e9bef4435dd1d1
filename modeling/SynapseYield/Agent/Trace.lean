import SynapseYield.Shared.Json
import SynapseYield.Shared.Lines

set_option autoImplicit false

namespace SynapseYield.Agent

open Shared JsonText

-- The literal of a number, as json.dumps writes an int or a float
structure Numeral where
  literal : Text
  number : isNumber literal = true

-- The limits from the environment, and the first 24 hexadecimal digits of SHA-256.
structure TraceSettings where
  toolResultThreshold : Nat
  textThreshold : Nat
  previewChars : Nat
  digest : PyString → PyString
  digest_hex : ∀ s, ∀ c ∈ (digest s).points, 0x30 ≤ c.val ∧ c.val < 0x7F

-- A text as UTF-8. A crash can cut it within a character.
structure Content where
  text : Text
  cut : Bool

structure TraceDir where
  -- trace.jsonl, when it is there
  trace : Option Content
  -- The sidecars, by their path from the directory
  blobs : PyString → Option Text
  cutBlobs : PyString → Bool

structure Offload where
  path : PyString
  -- What the name of the file is the hash of
  hashed : PyString
  value : PyString

def startsAt (s : PyString) (count : Nat) : PyString := ⟨s.points.take count⟩

-- _attach_text_field: the entry, and the sidecar to write first
def attachTextField (settings : TraceSettings) (entry : Members)
    (field value offloadKind : PyString) (threshold : Int) (dirName : PyString) :
    Members × Option Offload :=
  if (value.points.length : Int) ≤ threshold then (setMember entry field (.str value), none)
  else
    let hashed := offloadKind ++ (⟨[0]⟩ : PyString) ++ value
    let path := dirName ++ ("/" : PyString) ++ settings.digest hashed ++ (".txt" : PyString)
    let entry := setMember entry (field ++ ("_path" : PyString)) (.str path)
    let entry := setMember entry (field ++ ("_preview" : PyString))
      (.str (startsAt value settings.previewChars))
    (setMember entry (field ++ ("_size" : PyString)) (.number (decimal value.points.length)),
      some { path, hashed, value })

inductive TraceCall where
  | write (entry : Members) (formed : wellFormed (.obj entry) = true)
  | writeTextEntry (entry : Members) (formed : wellFormed (.obj entry) = true)
      (field value offloadKind : PyString) (threshold : Option Int)
  | writeToolResult (callId result toolName status : PyString) (elapsedMs iteration : Numeral)

def toolEntry (settings : TraceSettings) (callId result toolName status : PyString)
    (elapsedMs iteration : Numeral) : Members :=
  [("type", .str "tool_result"), ("iter", .number iteration.literal), ("tool", .str toolName),
    ("call_id", .str callId), ("status", .str status), ("elapsed_ms", .number elapsedMs.literal),
    ("preview", .str (startsAt result settings.previewChars))]

-- threshold or TRACE_TEXT_OFFLOAD_THRESHOLD
def textThreshold (settings : TraceSettings) : Option Int → Int
  | none => settings.textThreshold
  | some threshold => if threshold = 0 then settings.textThreshold else threshold

def TraceCall.prepared (settings : TraceSettings) : TraceCall → Members × Option Offload
  | .write entry _ => (entry, none)
  | .writeTextEntry entry _ field value offloadKind threshold =>
    attachTextField settings entry field value offloadKind (textThreshold settings threshold)
      "trace-blobs"
  | .writeToolResult callId result toolName status elapsedMs iteration =>
    attachTextField settings (toolEntry settings callId result toolName status elapsedMs iteration)
      "result" result (("tool-result-" : PyString) ++ toolName ++ ("-" : PyString) ++ callId)
      settings.toolResultThreshold "tool-results"

-- The line that is written at the time now, without its end
def stamped (entry : Members) (now : Numeral) : Members :=
  if entry.any (·.1 = ("ts" : PyString)) then entry
  else setMember entry "ts" (.number now.literal)

def TraceCall.line (settings : TraceSettings) (call : TraceCall) (now : Numeral) : PyString :=
  ⟨JsonText.write .spaced 0 (.obj (stamped (call.prepared settings).1 now))⟩

-- UTF-8 takes the texts of the call: nothing raises.
def TraceCall.encodable (settings : TraceSettings) (call : TraceCall) (now : Numeral) : Bool :=
  (call.line settings now).encodable &&
    (call.prepared settings).2.all fun offload => offload.hashed.encodable

def TraceDir.content (dir : TraceDir) : Content := dir.trace.getD ⟨[], false⟩

def TraceDir.append (dir : TraceDir) (text : Text) (cut : Bool) : TraceDir :=
  { dir with trace := some ⟨dir.content.text ++ text, dir.content.cut || cut⟩ }

def TraceDir.saveBlob (dir : TraceDir) (path : PyString) (text : Text) (cut : Bool) : TraceDir :=
  { dir with
    blobs := Function.update dir.blobs path (some text)
    cutBlobs := Function.update dir.cutBlobs path cut }

-- The sidecar of a call, before its line. The hash comes first and can raise.
def TraceDir.saveOffload (dir : TraceDir) : Option Offload → TraceDir
  | none => dir
  | some offload =>
    if offload.hashed.encodable then dir.saveBlob offload.path offload.value.points false else dir

inductive TraceStep where
  -- TraceWriter(dir_path)
  | opened
  | call (call : TraceCall) (now : Numeral)
  -- A crash while the line is written: so many of its characters, and perhaps a part of the next
  | tear (call : TraceCall) (now : Numeral) (kept : Nat) (cut : Bool)
  -- A crash while the sidecar is written
  | tearBlob (call : TraceCall) (now : Numeral) (kept : Nat) (cut : Bool)

def TraceDir.step (settings : TraceSettings) (dir : TraceDir) : TraceStep → TraceDir
  | .opened => dir.append [] false
  | .call call now =>
    let dir := dir.saveOffload (call.prepared settings).2
    if call.encodable settings now then
      dir.append ((call.line settings now).points ++ [Lines.newline]) false
    else dir
  | .tear call now kept cut =>
    let dir := dir.saveOffload (call.prepared settings).2
    if call.encodable settings now then
      dir.append ((call.line settings now).points.take kept) cut
    else dir
  | .tearBlob call _ kept cut =>
    match (call.prepared settings).2 with
    | some offload =>
      if offload.hashed.encodable then
        dir.saveBlob offload.path (offload.value.points.take kept) cut
      else dir
    | none => dir

def TraceDir.start : TraceDir := ⟨none, fun _ => none, fun _ => false⟩

def TraceDir.run (settings : TraceSettings) (steps : List TraceStep) : TraceDir :=
  steps.foldl (TraceDir.step settings) TraceDir.start

-- result_file.read_text of a path below the directory. What is no sidecar of the writer is up to
-- the file system: nothing to read, some other text, or an error that is not caught.
def TraceDir.sidecar (dir : TraceDir) (elsewhere : PyString → Except PyError (Option Text))
    (path : PyString) : Except PyError (Option Text) :=
  match dir.blobs path with
  | some text => .ok (if dir.cutBlobs path then none else some (Lines.universalNewlines text))
  | none => elsewhere path

-- key[:-5] of a key that ends with _path
def pathField (key : PyString) : Option PyString :=
  if ("_path" : PyString).points.isSuffixOf key.points then
    some ⟨key.points.take (key.points.length - 5)⟩
  else none

def resolveField (dir : TraceDir) (elsewhere : PyString → Except PyError (Option Text))
    (fields : Option (List PyString)) (entry : Members) : PyString × Json → Except PyError Members
  | (key, .str path) =>
    match pathField key with
    | none => .ok entry
    | some field =>
      if fields.any (! ·.contains field) then .ok entry
      else if entry.any (·.1 = field) then .ok entry
      else do
        match ← dir.sidecar elsewhere path with
        | none => .ok entry
        | some text => .ok (setMember entry field (.str ⟨text⟩))
  | _ => .ok entry

def resolveEntryOffloads (dir : TraceDir) (elsewhere : PyString → Except PyError (Option Text))
    (fields : Option (List PyString)) (entry : Members) : Except PyError Members :=
  entry.foldlM (resolveField dir elsewhere fields) entry

-- A line of the file, when it is not empty and holds a document
def readEntry (dir : TraceDir) (elsewhere : PyString → Except PyError (Option Text))
    (resolveOffloads : Bool) (fields : Option (List PyString)) (line : Text) :
    Except PyError (Option Json) :=
  if (Lines.strip line).isEmpty then .ok none
  else
    match loads ⟨Lines.strip line⟩ with
    | none => .ok none
    | some value =>
      if resolveOffloads then
        match value with
        | .obj entry => (some ∘ .obj) <$> resolveEntryOffloads dir elsewhere fields entry
        -- AttributeError: only a dict has items
        | _ => .error .other
      else .ok (some value)

def TraceDir.read (dir : TraceDir) (elsewhere : PyString → Except PyError (Option Text))
    (resolveOffloads : Bool) (fields : Option (List PyString)) : Except PyError (List Json) :=
  match dir.trace with
  | none => .ok []
  | some content =>
    if content.cut then .error .valueError
    else do
      let entries ← (Lines.splitlines (Lines.universalNewlines content.text)).mapM
        (readEntry dir elsewhere resolveOffloads fields)
      .ok entries.reduceOption

end SynapseYield.Agent
