import SynapseYield.Providers.Chat
import SynapseYield.Shared.Withholding

set_option autoImplicit false

namespace SynapseYield.Providers.Chat

open Shared JsonText Lines Withholding
open Agent.Loop (ToolCall)

section Prefixes

variable [CaseTable]

variable {before front rest : Text}

theorem lowerFrom_append (plain : capitalSigma ∉ front) :
    lowerFrom before (front ++ rest) =
      front.flatMap lowerPoint ++ lowerFrom (before ++ front) rest := by
  induction front generalizing before with
  | nil =>
    rw [List.append_nil]
    rfl
  | cons c front ih =>
    rw [List.mem_cons, not_or] at plain
    rw [List.cons_append, lowerFrom]
    rw [if_neg (Ne.symm plain.1), ih plain.2, List.flatMap_cons, List.append_assoc,
      List.append_assoc, List.singleton_append]

theorem lowerFrom_plain (plain : capitalSigma ∉ front) :
    lowerFrom before front = front.flatMap lowerPoint := by
  have whole := @lowerFrom_append _ before front [] plain
  rwa [List.append_nil, lowerFrom, List.append_nil] at whole

omit [CaseTable] in
theorem sigma_absent : ∀ front ∈ dsmlPrefixes,
    smallSigma ∉ front.points ∧ finalSigma ∉ front.points := by
  decide +kernel

theorem lowerFrom_compatible {tag : PyString} (known : tag ∈ dsmlPrefixes)
    (compatible : Compatible (lowerFrom [] (front ++ rest)) tag.points) :
    Compatible (lowerFrom [] front) tag.points := by
  by_cases sigma : capitalSigma ∈ front
  · obtain ⟨a, b, rfl, plain⟩ := List.eq_append_cons_of_mem sigma
    have last (more : Text) : ∃ low, (low = finalSigma ∨ low = smallSigma) ∧ ∃ others,
        lowerFrom [] (a ++ capitalSigma :: more) = a.flatMap lowerPoint ++ low :: others := by
      rw [lowerFrom_append plain, lowerFrom]
      rw [if_pos rfl]
      refine ⟨_, ?_, _, rfl⟩
      split
      next => exact .inl rfl
      next => exact .inr rfl
    obtain ⟨low, sigma, others, whole⟩ := last (b ++ rest)
    obtain ⟨_, -, _, front⟩ := last b
    rw [List.append_assoc, List.cons_append, whole] at compatible
    obtain ⟨small, final⟩ := sigma_absent tag known
    have absent : low ∉ tag.points := by
      obtain rfl | rfl := sigma
      · exact final
      · exact small
    exact .inr (front ▸ (compatible.cut absent).trans (List.prefix_append _ _))
  · rw [lowerFrom_append sigma] at compatible
    rw [lowerFrom_plain sigma]
    exact compatible.front (List.prefix_append _ _)

omit [CaseTable] in
theorem squeezed_front (front rest : Text) :
    squeezed front = [] ∨ ∃ more, squeezed (front ++ rest) = squeezed front ++ more := by
  by_cases blank : front.dropWhile isWhitespace = []
  · rw [squeezed, blank]
    exact .inl rfl
  · have whole : (front ++ rest).dropWhile isWhitespace =
        front.dropWhile isWhitespace ++ rest := by
      rw [List.dropWhile_append, if_neg (by simpa using blank)]
    rw [squeezed, squeezed, whole]
    have window := ((List.prefix_append (front.dropWhile isWhitespace) rest).take dsmlWindow).filter
      (! isWhitespace ·)
    obtain ⟨more, same⟩ := window
    exact .inr ⟨more, same.symm⟩

theorem isPossible_iff {content : Text} : isPossibleDsmlToolCallPrefix content = true ↔
    ∃ tag ∈ dsmlPrefixes, Compatible (lowerFrom [] (squeezed content)) tag.points := by
  simp only [isPossibleDsmlToolCallPrefix, Bool.or_eq_true, List.isEmpty_iff, List.any_eq_true,
    List.isPrefixOf_iff_prefix]
  constructor
  · rintro (blank | compatible)
    · rw [blank]
      exact ⟨_, List.mem_cons_self, .inl List.nil_prefix⟩
    · exact compatible
  · exact .inr

theorem isPossible_front (front rest : Text)
    (possible : isPossibleDsmlToolCallPrefix (front ++ rest) = true) :
    isPossibleDsmlToolCallPrefix front = true := by
  rw [isPossible_iff] at possible ⊢
  obtain ⟨tag, known, compatible⟩ := possible
  obtain blank | ⟨more, whole⟩ := squeezed_front front rest
  · rw [blank]
    exact ⟨tag, known, .inl List.nil_prefix⟩
  · rw [whole] at compatible
    exact ⟨tag, known, lowerFrom_compatible known compatible⟩

end Prefixes

section Streams

variable {reader : Reader} {listeners : Listeners} {shouldCancel : Nat → Bool}
  {chunks : List Chunk} {failure : Option PyError} {s : State} [CaseTable]

-- What the text callback has been called with, one behind the other
def State.shown (s : State) : Text := (s.textChunks.map (·.points)).flatten

-- The text of the chunks so far is withheld as long as it may become a call.
def Forwards (s : State) : Prop :=
  Withheld isPossibleDsmlToolCallPrefix (textOf s.accumulated).points s.pendingText.points
    s.possibleDsmlText (s.textChunks.map (·.points))

omit [CaseTable] in
theorem textOf_snoc (chunk : Chunk) :
    (textOf (chunks ++ [chunk])).points = (textOf chunks).points ++ chunk.content.points := by
  simp [textOf]

theorem forwards_start : Forwards {} := .nil rfl

theorem Forwards.text (forwards : Forwards s) (content : PyString) :
    Withheld isPossibleDsmlToolCallPrefix ((textOf s.accumulated).points ++ content.points)
      (forwardText content s).pendingText.points (forwardText content s).possibleDsmlText
      ((forwardText content s).textChunks.map (·.points)) := by
  rw [Forwards] at forwards
  unfold forwardText
  split
  next holding =>
    rw [holding] at forwards
    dsimp only
    split
    next still =>
      exact holding ▸ forwards.hold still
    next freed =>
      rw [List.map_append]
      exact forwards.release (Bool.eq_false_iff.mpr freed)
  next free =>
    rw [Bool.not_eq_true] at free
    rw [free] at forwards
    rw [List.map_append]
    exact free ▸ forwards.pass isPossible_front

theorem forwardText_accumulated (content : PyString) :
    (forwardText content s).accumulated = s.accumulated := by
  unfold forwardText
  split
  next =>
    dsimp only
    split <;> rfl
  next => rfl

theorem hearText_accumulated (chunk : Chunk) :
    (hearText listeners chunk s).accumulated = s.accumulated := by
  unfold hearText
  split
  next => exact forwardText_accumulated _
  next => rfl

theorem Forwards.hearText (heard : listeners.onTextChunk = true) (forwards : Forwards s)
    (chunk : Chunk) :
    Withheld isPossibleDsmlToolCallPrefix ((textOf s.accumulated).points ++ chunk.content.points)
      (hearText listeners chunk s).pendingText.points (hearText listeners chunk s).possibleDsmlText
      ((hearText listeners chunk s).textChunks.map (·.points)) := by
  unfold Chat.hearText
  by_cases blank : chunk.content = .empty
  · rw [if_neg fun said => said.1 blank, blank]
    exact (List.append_nil (textOf s.accumulated).points).symm ▸ forwards
  · rw [if_pos ⟨blank, heard⟩]
    exact forwards.text chunk.content

theorem Forwards.receive (heard : listeners.onTextChunk = true) (forwards : Forwards s)
    (chunk : Chunk) : Forwards (receive listeners chunk s) ∧
      (receive listeners chunk s).accumulated = s.accumulated ++ [chunk] := by
  have text := forwards.hearText heard chunk
  have same : (Chat.hearText listeners chunk s).accumulated = s.accumulated :=
    hearText_accumulated chunk
  rw [← same, ← textOf_snoc] at text
  unfold Chat.receive hearReasoning
  dsimp only
  split
  next => exact ⟨text, congrArg (· ++ [chunk]) same⟩
  next => exact ⟨text, congrArg (· ++ [chunk]) same⟩

theorem loop_forwards (heard : listeners.onTextChunk = true) (index : Nat) (forwards : Forwards s) :
    ∃ taken, taken <+: chunks ∧ Forwards (loop listeners shouldCancel index chunks s).1 ∧
      (loop listeners shouldCancel index chunks s).1.accumulated = s.accumulated ++ taken ∧
      ((loop listeners shouldCancel index chunks s).2 = false → taken = chunks) := by
  induction chunks generalizing index s with
  | nil => exact ⟨[], List.prefix_rfl, forwards, (List.append_nil _).symm, fun _ => rfl⟩
  | cons chunk rest ih =>
    unfold loop
    split
    next =>
      refine ⟨[], List.nil_prefix, forwards, (List.append_nil _).symm, ?_⟩
      rintro ⟨⟩
    next =>
      obtain ⟨forwards, grown⟩ := forwards.receive heard chunk
      obtain ⟨taken, front, forwards, accumulated, all⟩ := ih (index + 1) forwards
      refine ⟨chunk :: taken, List.cons_prefix_cons.mpr ⟨rfl, front⟩, forwards, ?_, fun ended => ?_⟩
      · rw [accumulated, grown, List.append_assoc, List.singleton_append]
      · rw [all ended]

theorem Forwards.shown (forwards : Forwards s) :
    s.shown = if isPossibleDsmlToolCallPrefix (textOf s.accumulated).points then []
      else (textOf s.accumulated).points := by
  rw [State.shown, Withheld.sent forwards, Withheld.holds forwards]

theorem Forwards.pending (forwards : Forwards s) :
    s.pendingText.points = if isPossibleDsmlToolCallPrefix (textOf s.accumulated).points then
      (textOf s.accumulated).points else [] := by
  rw [Withheld.pending forwards, Withheld.holds forwards]

omit [CaseTable] in
theorem points_empty {text : PyString} : text = .empty ↔ text.points = [] := by
  constructor
  · rintro rfl
    rfl
  · intro none
    cases text
    exact congrArg PyString.mk none

omit [CaseTable] in
theorem calls_told (taken : List Chunk) (some_ : textOf taken ≠ .empty) :
    ((parseResponse reader taken).toolCalls ≠ [] ∧ (parseResponse reader taken).content = .empty) ↔
      reader.dsmlToolCalls taken ≠ [] := by
  unfold parseResponse
  dsimp only
  constructor
  · rintro ⟨-, empty⟩ none
    rw [if_pos none] at empty
    exact some_ empty
  · intro calls
    rw [if_neg calls]
    refine ⟨?_, rfl⟩
    split
    next => exact calls
    next native => exact native

theorem finish_shown (forwards : Forwards s) :
    (finish reader s).2 =
        (if s.accumulated = [] then ⟨.empty, []⟩ else parseResponse reader s.accumulated) ∧
      (finish reader s).1.shown =
        if s.accumulated ≠ [] ∧ reader.dsmlToolCalls s.accumulated ≠ [] ∧
          isPossibleDsmlToolCallPrefix (textOf s.accumulated).points = true then []
        else (textOf s.accumulated).points := by
  have shown := forwards.shown
  have pending := forwards.pending
  unfold finish
  split
  next none =>
    refine ⟨rfl, ?_⟩
    rw [if_neg fun some_ => some_.1 none, shown, none]
    split <;> rfl
  next some_ =>
    dsimp only
    by_cases possible : isPossibleDsmlToolCallPrefix (textOf s.accumulated).points = true
    · rw [if_pos possible] at shown pending
      by_cases blank : textOf s.accumulated = .empty
      · have nothing : s.pendingText = .empty :=
          points_empty.mpr (pending.trans (points_empty.mp blank))
        rw [if_neg fun held => held.1 nothing]
        refine ⟨rfl, shown.trans ?_⟩
        rw [points_empty.mp blank, ite_self]
      · have held : s.pendingText ≠ .empty := fun none =>
          blank (points_empty.mpr (pending.symm.trans (points_empty.mp none)))
        have told := @calls_told reader s.accumulated blank
        split
        next texts =>
          refine ⟨rfl, ?_⟩
          rw [if_neg fun calls => texts.2 (told.mpr calls.2.1), State.shown, List.map_append,
            List.flatten_append]
          rw [State.shown] at shown
          rw [shown, pending.symm]
          exact List.append_nil _
        next calls =>
          rw [not_and, not_not, told] at calls
          exact ⟨rfl, shown.trans (if_pos ⟨some_, calls held, possible⟩).symm⟩
    · rw [if_neg possible] at shown pending
      have nothing : s.pendingText = .empty := points_empty.mpr pending
      rw [if_neg fun held => held.1 nothing, if_neg fun calls => possible calls.2.2]
      exact ⟨rfl, shown⟩

theorem finish_content (forwards : Forwards s) :
    (finish reader s).1.shown = (finish reader s).2.content.points ↔
      (s.accumulated ≠ [] ∧ reader.dsmlToolCalls s.accumulated ≠ [] →
        isPossibleDsmlToolCallPrefix (textOf s.accumulated).points = true) := by
  obtain ⟨response, shown⟩ := @finish_shown reader _ _ forwards
  rw [response, shown]
  by_cases none : s.accumulated = []
  · rw [if_pos none, none, if_neg fun calls => calls.1 rfl]
    exact iff_of_true rfl fun calls => absurd rfl calls.1
  · rw [if_neg none, parseResponse]
    by_cases text : reader.dsmlToolCalls s.accumulated = []
    · rw [if_neg fun calls => calls.2.1 text]
      rw [if_pos text]
      exact iff_of_true rfl fun calls => absurd text calls.2
    · rw [if_neg text]
      constructor
      · intro same calls
        by_contra impossible
        rw [if_neg fun held => impossible held.2.2] at same
        rw [same] at impossible
        exact impossible rfl
      · intro possible
        rw [if_pos ⟨none, text, possible ⟨none, text⟩⟩]
        rfl

theorem stream_forwards (heard : listeners.onTextChunk = true) : ∃ taken, taken <+: chunks ∧
    (∀ raised, (streamChat reader listeners shouldCancel chunks failure).2 = .error raised →
      taken = chunks ∧ failure = some raised ∧
      (streamChat reader listeners shouldCancel chunks failure).1.shown =
        if isPossibleDsmlToolCallPrefix (textOf taken).points then [] else (textOf taken).points) ∧
    ∀ response, (streamChat reader listeners shouldCancel chunks failure).2 = .ok response →
      response = (if taken = [] then ⟨.empty, []⟩ else parseResponse reader taken) ∧
      (streamChat reader listeners shouldCancel chunks failure).1.shown =
        (if taken ≠ [] ∧ reader.dsmlToolCalls taken ≠ [] ∧
          isPossibleDsmlToolCallPrefix (textOf taken).points = true then []
        else (textOf taken).points) ∧
      ((streamChat reader listeners shouldCancel chunks failure).1.shown =
          response.content.points ↔
        (taken ≠ [] ∧ reader.dsmlToolCalls taken ≠ [] →
          isPossibleDsmlToolCallPrefix (textOf taken).points = true)) := by
  obtain ⟨taken, front, forwards, accumulated, all⟩ := @loop_forwards listeners shouldCancel
    chunks {} _ heard 0 forwards_start
  rw [List.nil_append] at accumulated
  subst accumulated
  refine ⟨_, front, ?_, ?_⟩
  · intro raised
    unfold streamChat
    dsimp only
    split
    next error failed =>
      rintro ⟨⟩
      split at failed
      next => cases failed
      next going => exact ⟨all (Bool.eq_false_iff.mpr going), failed, forwards.shown⟩
    next => rintro ⟨⟩
  · intro response
    unfold streamChat
    dsimp only
    split
    next => rintro ⟨⟩
    next =>
      rintro ⟨⟩
      obtain ⟨response, shown⟩ := @finish_shown reader _ _ forwards
      exact ⟨response, shown, finish_content forwards⟩

@[reducible] def asciiCase : CaseTable where
  lower c := [c]
  isFinal _ _ := false

def greeting : List Chunk := [⟨"<|", .empty⟩, ⟨"| Hello.", .empty⟩]

def plainReader : Reader where
  nativeToolCalls _ := []
  parseDsmlToolCalls _ := []

omit [CaseTable] in
theorem stream_forwards_greeting : let _ := asciiCase
    ∃ taken, taken <+: greeting ∧ ∀ response,
      (streamChat plainReader ⟨true, true⟩ (fun _ => false) greeting none).2 = .ok response →
      (streamChat plainReader ⟨true, true⟩ (fun _ => false) greeting none).1.shown =
        response.content.points := by
  intro _
  obtain ⟨taken, front, -, ended⟩ := @stream_forwards plainReader ⟨true, true⟩ (fun _ => false)
    greeting none _ rfl
  refine ⟨taken, front, fun response answered => (ended response answered).2.2.mpr ?_⟩
  rintro ⟨-, calls⟩
  exact absurd rfl calls

end Streams

end SynapseYield.Providers.Chat
