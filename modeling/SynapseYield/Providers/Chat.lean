import SynapseYield.Agent.Loop
import SynapseYield.Shared.Lines

set_option autoImplicit false

namespace SynapseYield.Providers.Chat

open Shared JsonText Lines
open Agent.Loop (ToolCall)

-- What str.lower makes of a code point that is not ASCII, and between which texts a capital sigma
-- is a final one
class CaseTable where
  lower : CodePoint → List CodePoint
  isFinal : List CodePoint → List CodePoint → Bool

def capitalSigma : CodePoint := 0x3A3

def smallSigma : CodePoint := 0x3C3

def finalSigma : CodePoint := 0x3C2

section Prefixes

variable [CaseTable]

def lowerPoint (c : CodePoint) : Text :=
  if c.val < 128 then [if Ascii.isUpper c then c + 32 else c] else CaseTable.lower c

-- The rest of a text, and what is before it
def lowerFrom (before : Text) : Text → Text
  | [] => []
  | c :: rest =>
    (if c = capitalSigma then [if CaseTable.isFinal before rest then finalSigma else smallSigma]
      else lowerPoint c) ++ lowerFrom (before ++ [c]) rest

def dsmlPrefixes : List PyString :=
  ["<||dsml||tool_calls", "<\uff5c\uff5cdsml\uff5c\uff5ctool_calls"]

def dsmlWindow : Nat := 80

-- The first characters that are no white space, without the white space between them
def squeezed (content : Text) : Text :=
  ((content.dropWhile isWhitespace).take dsmlWindow).filter (! isWhitespace ·)

def isPossibleDsmlToolCallPrefix (content : Text) : Bool :=
  let compact := lowerFrom [] (squeezed content)
  compact.isEmpty || dsmlPrefixes.any fun front =>
    compact.isPrefixOf front.points || front.points.isPrefixOf compact

end Prefixes

structure Chunk where
  content : PyString
  reasoning : PyString := .empty

structure LLMResponse where
  content : PyString
  toolCalls : List ToolCall

-- The message that the chunks add up to has their texts, one behind the other.
def textOf (chunks : List Chunk) : PyString := ⟨chunks.flatMap (·.content.points)⟩

-- What the tool calls of a message are, and those that are written in its text
structure Reader where
  nativeToolCalls : List Chunk → List ToolCall
  parseDsmlToolCalls : PyString → List ToolCall

def Reader.dsmlToolCalls (reader : Reader) (chunks : List Chunk) : List ToolCall :=
  if reader.nativeToolCalls chunks = [] then reader.parseDsmlToolCalls (textOf chunks) else []

def parseResponse (reader : Reader) (chunks : List Chunk) : LLMResponse where
  content := if reader.dsmlToolCalls chunks = [] then textOf chunks else .empty
  toolCalls :=
    if reader.nativeToolCalls chunks = [] then reader.dsmlToolCalls chunks
    else reader.nativeToolCalls chunks

section Streams

-- Which callbacks are given
structure Listeners where
  onTextChunk : Bool
  onReasoningChunk : Bool

structure State where
  accumulated : List Chunk := []
  pendingText : PyString := .empty
  possibleDsmlText : Bool := true
  -- What the callbacks have been called with
  textChunks : List PyString := []
  reasoningChunks : List PyString := []

variable [CaseTable]

def forwardText (content : PyString) (s : State) : State :=
  if s.possibleDsmlText then
    let pendingText := s.pendingText ++ content
    if isPossibleDsmlToolCallPrefix pendingText.points then { s with pendingText }
    else
      { s with
        possibleDsmlText := false
        textChunks := s.textChunks ++ [pendingText]
        pendingText := .empty }
  else { s with textChunks := s.textChunks ++ [content] }

def hearText (listeners : Listeners) (chunk : Chunk) (s : State) : State :=
  if chunk.content ≠ .empty ∧ listeners.onTextChunk = true then forwardText chunk.content s else s

def hearReasoning (listeners : Listeners) (chunk : Chunk) (s : State) : State :=
  if chunk.reasoning ≠ .empty ∧ chunk.content = .empty ∧ listeners.onReasoningChunk = true then
    { s with reasoningChunks := s.reasoningChunks ++ [chunk.reasoning] }
  else s

def receive (listeners : Listeners) (chunk : Chunk) (s : State) : State :=
  let heard := hearReasoning listeners chunk (hearText listeners chunk s)
  { heard with accumulated := heard.accumulated ++ [chunk] }

-- The chunks of a stream from one of a number on, and whether it is cancelled
def loop (listeners : Listeners) (shouldCancel : Nat → Bool) :
    Nat → List Chunk → State → State × Bool
  | _, [], s => (s, false)
  | index, chunk :: rest, s =>
    if shouldCancel index then (s, true)
    else loop listeners shouldCancel (index + 1) rest (receive listeners chunk s)

-- What is held back at the end is forwarded unless it was a call.
def finish (reader : Reader) (s : State) : State × LLMResponse :=
  if s.accumulated = [] then (s, ⟨.empty, []⟩)
  else
    let response := parseResponse reader s.accumulated
    if s.pendingText ≠ .empty ∧ ¬ (response.toolCalls ≠ [] ∧ response.content = .empty) then
      ({ s with textChunks := s.textChunks ++ [s.pendingText] }, response)
    else (s, response)

-- A stream gives its chunks, and then ends or fails.
def streamChat (reader : Reader) (listeners : Listeners) (shouldCancel : Nat → Bool)
    (chunks : List Chunk) (failure : Option PyError) : State × Except PyError LLMResponse :=
  let looped := loop listeners shouldCancel 0 chunks {}
  match if looped.2 then none else failure with
  | some raised => (looped.1, .error raised)
  | none => ((finish reader looped.1).1, .ok (finish reader looped.1).2)

end Streams

end SynapseYield.Providers.Chat
