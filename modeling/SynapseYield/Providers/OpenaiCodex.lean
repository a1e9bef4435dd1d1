import Mathlib.Logic.Function.Basic
import SynapseYield.Shared.JsonText

set_option autoImplicit false

namespace SynapseYield.Providers.OpenaiCodex

open Shared JsonText

-- The items of a content that is a list: texts, images with the url that they have, and what is
-- passed over.
inductive ContentPart where
  | text (text : PyString)
  | imageUrl (url : Option PyString)
  | other

inductive UserContent where
  | text (text : PyString)
  | parts (parts : List ContentPart)
  | other

structure ToolCall where
  id : Option PyString
  name : PyString
  arguments : PyString
deriving DecidableEq, Repr

inductive Message where
  | system (content : PyString)
  | user (content : UserContent)
  | assistant (content : Option PyString) (toolCalls : List ToolCall)
  | tool (toolCallId : Option PyString) (content : PyString)

inductive InputContent where
  | inputText (text : PyString)
  | inputImage (url : PyString)
deriving DecidableEq, Repr

inductive InputItem where
  | user (content : List InputContent)
  | message (id text : PyString)
  | functionCall (id callId name arguments : PyString)
  | functionCallOutput (callId output : PyString)
deriving DecidableEq, Repr

-- value or default, of a value that may be missing
def orElse (value : Option PyString) (default : PyString) : PyString :=
  match value with
  | some text => if text = "" then default else text
  | none => default

def convertPart : ContentPart → Option InputContent
  | .text text => some (.inputText text)
  | .imageUrl url => if orElse url "" = "" then none else some (.inputImage (orElse url ""))
  | .other => none

def convertUserMessage : UserContent → InputItem
  | .text text => .user [.inputText text]
  | .parts parts =>
    match parts.filterMap convertPart with
    | [] => .user [.inputText ""]
    | converted => .user converted
  | .other => .user [.inputText ""]

def splitToolCallId (toolCallId : Option PyString) : PyString × Option PyString :=
  match toolCallId with
  | none => ("call_0", none)
  | some id =>
    if id = "" then ("call_0", none)
    else
      match Ascii.cut 0x7C id.points with
      | (callId, some itemId) => (⟨callId⟩, if itemId = [] then none else some ⟨itemId⟩)
      | (_, none) => (id, none)

def numbered (before : PyString) (idx : Nat) : PyString := before ++ ⟨decimal idx⟩

def callItem (idx : Nat) (toolCall : ToolCall) : InputItem :=
  let (callId, itemId) := splitToolCallId toolCall.id
  .functionCall (itemId.getD (numbered "fc_" idx)) (orElse (some callId) (numbered "call_" idx))
    toolCall.name (orElse (some toolCall.arguments) "{}")

-- What a message adds to the input.
def messageItems (idx : Nat) : Message → List InputItem
  | .system _ => []
  | .user content => [convertUserMessage content]
  | .assistant content toolCalls =>
    let text := orElse content ""
    (if text = "" then [] else [.message (numbered "msg_" idx) text]) ++ toolCalls.map (callItem idx)
  | .tool toolCallId content => [.functionCallOutput (splitToolCallId toolCallId).1 content]

def convertStep (state : PyString × List InputItem) (entry : Message × Nat) :
    PyString × List InputItem :=
  match entry with
  | (.system content, _) => (content, state.2)
  | (msg, idx) => (state.1, state.2 ++ messageItems idx msg)

-- The instructions and the input
def convertMessages (messages : List Message) : PyString × List InputItem :=
  messages.zipIdx.foldl convertStep ("", [])

structure ToolCallRequest where
  id : PyString
  name : PyString
  arguments : Members

-- json.dumps without ensure_ascii
def formatToolCall (request : ToolCallRequest) : ToolCall :=
  ⟨some request.id, request.name, ⟨write Style.spaced 0 (.obj request.arguments)⟩⟩

def formatAssistantToolCalls (toolCalls : List ToolCallRequest) (content : Option PyString) :
    Message :=
  .assistant content (toolCalls.map formatToolCall)

-- An item of the output, with the fields that are there
structure OutputItem where
  isFunctionCall : Bool
  callId : Option PyString
  id : Option PyString
  name : Option PyString
  arguments : Option PyString

inductive Event where
  | outputItemAdded (item : OutputItem)
  | outputTextDelta (delta : PyString)
  | argumentsDelta (callId : Option PyString) (delta : PyString)
  | argumentsDone (callId : Option PyString) (arguments : PyString)
  | outputItemDone (item : OutputItem)
  | completed (status : Option PyString)
  | failed (detail : PyString)
  | other

structure ToolBuffer where
  id : PyString
  name : PyString
  arguments : PyString

abbrev ToolBuffers := PyString → Option ToolBuffer

inductive Chunk where
  | content (delta : PyString)
  | toolCall (toolCall : ToolCallRequest)
  | finished (reason : PyString)

def finishReasons : List (PyString × PyString) :=
  [("completed", "stop"), ("incomplete", "length"), ("failed", "error"), ("cancelled", "error"),
    ("content_filter", "content_filter")]

def mapFinishReason (status : Option PyString) : PyString :=
  (finishReasons.lookup (orElse status "completed")).getD "stop"

def rawKey : PyString := "raw"

def decodeToolArgs (raw : PyString) : Members :=
  if raw = "" then []
  else
    match loads raw with
    | some (.obj members) => members
    | _ => [(rawKey, .str raw)]

def bufferAdded (buffers : ToolBuffers) (item : OutputItem) : ToolBuffers :=
  let callId := orElse item.callId ""
  if item.isFunctionCall = true ∧ callId ≠ "" then
    Function.update buffers callId
      (some ⟨orElse item.id "fc_0", orElse item.name "", orElse item.arguments ""⟩)
  else buffers

def bufferArguments (buffers : ToolBuffers) (callId : Option PyString)
    (change : PyString → PyString) : ToolBuffers :=
  match callId with
  | none => buffers
  | some callId =>
    match buffers callId with
    | none => buffers
    | some buffer =>
      Function.update buffers callId (some { buffer with arguments := change buffer.arguments })

-- A call as the events have it
structure ProviderCall where
  callId : PyString
  itemId : PyString
  name : PyString
  arguments : PyString
deriving DecidableEq, Repr

-- The call of a finished item: its buffer is asked first.
def finishedCall (buffers : ToolBuffers) (item : OutputItem) : Option ProviderCall :=
  let callId := orElse item.callId ""
  if item.isFunctionCall = true ∧ callId ≠ "" then
    let buffer := buffers callId
    some
      { callId
        itemId := orElse (buffer.map ToolBuffer.id) (orElse item.id "fc_0")
        name := orElse (buffer.map ToolBuffer.name) (orElse item.name "")
        arguments := orElse (buffer.map ToolBuffer.arguments) (orElse item.arguments "{}") }
  else none

def toolCallOf (call : ProviderCall) : ToolCallRequest :=
  ⟨call.callId ++ "|" ++ call.itemId, call.name, decodeToolArgs call.arguments⟩

-- The chunks up to the end of the events, or up to the failure that is raised with its detail.
def messageChunksFromEvents : ToolBuffers → List Event → List Chunk × Option PyString
  | _, [] => ([], none)
  | buffers, .outputItemAdded item :: rest => messageChunksFromEvents (bufferAdded buffers item) rest
  | buffers, .outputTextDelta delta :: rest =>
    let (chunks, raised) := messageChunksFromEvents buffers rest
    (if delta = "" then chunks else .content delta :: chunks, raised)
  | buffers, .argumentsDelta callId delta :: rest =>
    messageChunksFromEvents (bufferArguments buffers callId (· ++ delta)) rest
  | buffers, .argumentsDone callId arguments :: rest =>
    messageChunksFromEvents (bufferArguments buffers callId fun _ => arguments) rest
  | buffers, .outputItemDone item :: rest =>
    let (chunks, raised) := messageChunksFromEvents buffers rest
    match finishedCall buffers item with
    | some call => (.toolCall (toolCallOf call) :: chunks, raised)
    | none => (chunks, raised)
  | buffers, .completed status :: rest =>
    let (chunks, raised) := messageChunksFromEvents buffers rest
    (.finished (mapFinishReason status) :: chunks, raised)
  | _, .failed detail :: _ => ([], some ⟨detail.points.take 500⟩)
  | buffers, .other :: rest => messageChunksFromEvents buffers rest

def toolCalls (chunks : List Chunk) : List ToolCallRequest :=
  chunks.filterMap fun chunk =>
    match chunk with
    | .toolCall toolCall => some toolCall
    | _ => none

end SynapseYield.Providers.OpenaiCodex
