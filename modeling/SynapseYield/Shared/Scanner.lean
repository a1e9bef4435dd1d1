import Mathlib.Data.List.Basic
import Mathlib.Data.List.Infix

set_option autoImplicit false

-- Searching a text for matches from left to right, and putting a blank for each.
namespace Shared

variable {χ : Type}

-- What is matched at a place, and what comes after it, from the character before and the text from
-- there on.
structure Matcher (χ : Type) where
  matchAt : Option χ → List χ → Option (List χ × List χ)
  proper : ∀ before text hit rest, matchAt before text = some (hit, rest) →
    hit ≠ [] ∧ hit ++ rest = text

inductive Piece (χ : Type) where
  | matched (text : List χ)
  | plain (c : χ)

def Piece.text : Piece χ → List χ
  | .matched text => text
  | .plain c => [c]

def Piece.hit? : Piece χ → Option (List χ)
  | .matched text => some text
  | .plain _ => none

def Piece.blanked (blank : χ) : Piece χ → χ
  | .matched _ => blank
  | .plain c => c

namespace Matcher

variable (m : Matcher χ)

def scan : Nat → Option χ → List χ → List (Piece χ)
  | 0, _, _ => []
  | _ + 1, _, [] => []
  | fuel + 1, before, c :: rest =>
    match m.matchAt before (c :: rest) with
    | some (hit, rest') => .matched hit :: scan fuel hit.getLast? rest'
    | none => .plain c :: scan fuel (some c) rest

def pieces (before : Option χ) (text : List χ) : List (Piece χ) := m.scan text.length before text

-- findall
def hits (text : List χ) : List (List χ) := (m.pieces none text).filterMap Piece.hit?

-- sub with a blank
def sub (blank : χ) (text : List χ) : List χ := (m.pieces none text).map (Piece.blanked blank)

variable {m} {before : Option χ} {text front hit rest word : List χ} {c g blank : χ}

theorem shorter (found : m.matchAt before (c :: rest) = some (hit, front)) :
    front.length ≤ rest.length := by
  obtain ⟨filled, whole⟩ := m.proper _ _ _ _ found
  have count := congrArg List.length whole
  rw [List.length_append, List.length_cons] at count
  have pos := List.length_pos_iff.mpr filled
  omega

theorem scan_enough {fuel fuel' : Nat} (enough : text.length ≤ fuel)
    (enough' : text.length ≤ fuel') : m.scan fuel before text = m.scan fuel' before text := by
  induction fuel generalizing fuel' before text with
  | zero =>
    rw [List.eq_nil_of_length_eq_zero (Nat.le_zero.mp enough)]
    cases fuel' <;> rfl
  | succ fuel ih =>
    cases text with
    | nil => cases fuel' <;> rfl
    | cons c rest =>
      cases fuel' with
      | zero => cases enough'
      | succ fuel' =>
        rw [List.length_cons] at enough enough'
        rw [scan, scan]
        split
        next hit front found =>
          have less := shorter found
          rw [ih (less.trans (Nat.le_of_succ_le_succ enough))
            (less.trans (Nat.le_of_succ_le_succ enough'))]
        next =>
          rw [ih (Nat.le_of_succ_le_succ enough) (Nat.le_of_succ_le_succ enough')]

theorem pieces_hit (found : m.matchAt before text = some (hit, rest)) :
    m.pieces before text = .matched hit :: m.pieces hit.getLast? rest := by
  cases text with
  | nil =>
    obtain ⟨filled, whole⟩ := m.proper _ _ _ _ found
    exact absurd (List.append_eq_nil_iff.mp whole).1 filled
  | cons c text =>
    rw [pieces, List.length_cons, scan, found]
    exact congrArg (_ :: ·) (scan_enough (shorter found) le_rfl)

theorem pieces_miss (missed : m.matchAt before (c :: rest) = none) :
    m.pieces before (c :: rest) = .plain c :: m.pieces (some c) rest := by
  rw [pieces, List.length_cons, scan, missed]
  rfl

theorem pieces_text : (m.pieces before text).flatMap Piece.text = text := by
  induction length : text.length using Nat.strong_induction_on generalizing before text with
  | _ n ih =>
    cases text with
    | nil => rfl
    | cons c rest =>
      cases found : m.matchAt before (c :: rest) with
      | none =>
        rw [pieces_miss found, List.flatMap_cons, ih rest.length (by simp [← length]) rfl]
        rfl
      | some result =>
        obtain ⟨hit, rest'⟩ := result
        have less : rest'.length < n := by
          rw [← length, List.length_cons]
          exact Nat.lt_succ_of_le (shorter found)
        rw [pieces_hit found, List.flatMap_cons, ih rest'.length less rfl]
        exact (m.proper _ _ _ _ found).2

-- No match has the character.
def Guard (m : Matcher χ) (g : χ) : Prop :=
  ∀ before text hit rest, m.matchAt before text = some (hit, rest) → g ∉ hit

def Stops (m : Matcher χ) (rest : List χ) : Prop := ∀ g ∈ rest.head?, m.Guard g

def Silent (m : Matcher χ) (word : List χ) : Prop :=
  ∀ before text hit rest, m.matchAt before text = some (hit, rest) → ¬ hit <:+: word

theorem guard_missed (guard : m.Guard g) : m.matchAt before (g :: rest) = none := by
  cases found : m.matchAt before (g :: rest) with
  | none => rfl
  | some result =>
    obtain ⟨filled, whole⟩ := m.proper _ _ _ _ found
    obtain ⟨c, hit, same⟩ := List.exists_cons_of_ne_nil filled
    rw [same, List.cons_append] at whole
    obtain ⟨rfl, -⟩ := List.cons.inj whole
    exact absurd (same ▸ List.mem_cons_self) (guard _ _ _ _ found)

theorem hit_prefix (stops : m.Stops rest)
    (found : m.matchAt before (front ++ rest) = some (hit, text)) :
    ∃ more, front = hit ++ more ∧ text = more ++ rest := by
  obtain ⟨-, whole⟩ := m.proper _ _ _ _ found
  rcases List.append_eq_append_iff.mp whole with ⟨more, same, same'⟩ | ⟨extra, same, same'⟩
  · exact ⟨more, same, same'⟩
  · cases extra with
    | nil =>
      rw [List.append_nil] at same
      exact ⟨[], by rw [List.append_nil, same], by rw [same']; rfl⟩
    | cons g extra =>
      refine absurd ?_ (stops g (by rw [same']; rfl) _ _ _ _ found)
      rw [same]
      exact List.mem_append_right _ List.mem_cons_self

theorem pieces_guard (guard : m.Guard g) :
    ∃ first, m.pieces before (front ++ g :: rest) =
      first ++ .plain g :: m.pieces (some g) rest := by
  induction length : front.length using Nat.strong_induction_on generalizing before front with
  | _ n ih =>
    cases front with
    | nil => exact ⟨[], pieces_miss (guard_missed guard)⟩
    | cons c front =>
      cases found : m.matchAt before (c :: front ++ g :: rest) with
      | none =>
        obtain ⟨first, same⟩ := @ih front.length (by simp [← length]) (some c) front rfl
        refine ⟨.plain c :: first, ?_⟩
        rw [List.cons_append] at found ⊢
        rw [pieces_miss found, same]
        rfl
      | some result =>
        obtain ⟨hit, text⟩ := result
        have stops : m.Stops (g :: rest) := by
          rintro _ ⟨⟩
          exact guard
        obtain ⟨more, split, rfl⟩ := hit_prefix stops found
        have filled := List.length_pos_iff.mpr (m.proper _ _ _ _ found).1
        have less : more.length < n := by
          rw [← length, split, List.length_append]
          omega
        obtain ⟨first, same⟩ := @ih more.length less hit.getLast? more rfl
        exact ⟨.matched hit :: first, by rw [pieces_hit found, same]; rfl⟩

theorem pieces_silent (silent : m.Silent word) (stops : m.Stops rest) :
    m.pieces before (word ++ rest) =
      word.map .plain ++ m.pieces (word.getLast?.or before) rest := by
  induction word generalizing before with
  | nil => rfl
  | cons c word ih =>
    have quiet : m.Silent word := by
      intro before text hit rest found within
      exact silent _ _ _ _ found (within.trans (List.infix_cons (List.infix_refl _)))
    have missed : m.matchAt before (c :: word ++ rest) = none := by
      cases found : m.matchAt before (c :: word ++ rest) with
      | none => rfl
      | some result =>
        obtain ⟨more, split, -⟩ := hit_prefix stops found
        exact absurd ⟨[], more, by rw [List.nil_append, split]⟩ (silent _ _ _ _ found)
    rw [List.cons_append] at missed ⊢
    rw [pieces_miss missed, ih quiet, List.map_cons, List.cons_append]
    cases last : word.getLast? <;> simp [List.getLast?_cons, last]

theorem rest_head (stops : m.Stops rest) :
    ((m.pieces before rest).map (Piece.blanked blank)).head? = rest.head? := by
  cases rest with
  | nil => rfl
  | cons g rest =>
    rw [pieces_miss (guard_missed (stops g rfl))]
    rfl

theorem pieces_at (opens : ∀ g ∈ front.getLast?, m.Guard g) :
    ∃ first, m.pieces none (front ++ rest) = first ++ m.pieces front.getLast? rest ∧
      (first.map (Piece.blanked blank)).getLast? = front.getLast? := by
  rcases List.eq_nil_or_concat' front with rfl | ⟨front, g, rfl⟩
  · exact ⟨[], rfl, rfl⟩
  · rw [List.getLast?_concat] at opens ⊢
    obtain ⟨first, same⟩ := @pieces_guard _ m none front rest g (opens g rfl)
    refine ⟨first ++ [.plain g], ?_, ?_⟩
    · rw [List.append_assoc, List.append_assoc]
      exact same
    · rw [List.map_append]
      exact List.getLast?_concat

theorem sub_word (opens : ∀ g ∈ front.getLast?, m.Guard g) (silent : m.Silent word)
    (stops : m.Stops rest) :
    ∃ front' rest', m.sub blank (front ++ word ++ rest) = front' ++ word ++ rest' ∧
      front'.getLast? = front.getLast? ∧ rest'.head? = rest.head? := by
  obtain ⟨first, split, last⟩ := @pieces_at _ m front (word ++ rest) blank opens
  refine ⟨_, _, ?_, last, @rest_head _ m (word.getLast?.or front.getLast?) _ blank stops⟩
  rw [sub, List.append_assoc, split, pieces_silent silent stops, List.map_append, List.map_append,
    List.map_map, List.append_assoc]
  exact congrArg (fun words => _ ++ (words ++ _)) (List.map_id word)

theorem pieces_found {first last : List (Piece χ)}
    (split : m.pieces before text = first ++ .matched hit :: last) :
    m.matchAt ((first.flatMap Piece.text).getLast?.or before) (hit ++ last.flatMap Piece.text) =
      some (hit, last.flatMap Piece.text) := by
  induction first generalizing before text with
  | nil =>
    cases text with
    | nil => cases split
    | cons c text =>
      cases found : m.matchAt before (c :: text) with
      | none =>
        rw [pieces_miss found] at split
        cases split
      | some result =>
        obtain ⟨word, rest⟩ := result
        rw [pieces_hit found] at split
        obtain ⟨⟨⟩, rfl⟩ := List.cons.inj split
        rw [pieces_text, (m.proper _ _ _ _ found).2]
        exact found
  | cons piece first ih =>
    cases text with
    | nil => cases split
    | cons c text =>
      cases found : m.matchAt before (c :: text) with
      | none =>
        rw [pieces_miss found] at split
        obtain ⟨rfl, later⟩ := List.cons.inj split
        have matched := ih later
        rw [List.flatMap_cons, Piece.text, List.singleton_append, List.getLast?_cons]
        cases final : (first.flatMap Piece.text).getLast? with
        | none =>
          rw [final] at matched
          exact matched
        | some last =>
          rw [final] at matched
          exact matched
      | some result =>
        obtain ⟨word, rest⟩ := result
        rw [pieces_hit found] at split
        obtain ⟨rfl, later⟩ := List.cons.inj split
        have matched := ih later
        obtain ⟨filled, -⟩ := m.proper _ _ _ _ found
        rw [List.flatMap_cons, Piece.text, List.getLast?_append]
        rw [List.getLast?_eq_some_getLast filled] at matched ⊢
        rw [Option.or_assoc]
        exact matched

theorem hits_at (member : word ∈ m.hits text) :
    ∃ front rest, text = front ++ word ++ rest ∧
      m.matchAt front.getLast? (word ++ rest) = some (word, rest) := by
  obtain ⟨piece, listed, isHit⟩ := List.mem_filterMap.mp member
  cases piece with
  | plain => cases isHit
  | matched hit =>
    obtain rfl : hit = word := Option.some.inj isHit
    obtain ⟨first, last, split⟩ := List.append_of_mem listed
    have found := pieces_found split
    rw [Option.or_none] at found
    refine ⟨_, _, ?_, found⟩
    conv => lhs; rw [← @pieces_text _ m none text, split]
    rw [List.flatMap_append, List.flatMap_cons, List.append_assoc]
    rfl

theorem plain_text (solid : blank ∉ word) {pieces : List (Piece χ)}
    (same : pieces.map (Piece.blanked blank) = word) : pieces.flatMap Piece.text = word := by
  induction pieces generalizing word with
  | nil => exact same
  | cons piece pieces ih =>
    subst same
    obtain ⟨other, later⟩ := not_or.mp (mt List.mem_cons.mpr solid)
    cases piece with
    | matched => exact absurd rfl other
    | plain c => exact congrArg (c :: ·) (ih later rfl)

theorem of_sub_word (filled : word ≠ []) (solid : blank ∉ word)
    (clear : ∀ before text hit rest, m.matchAt before text = some (hit, rest) →
      before ≠ word.getLast? ∧ rest.head? ≠ word.head?)
    (same : m.sub blank text = front ++ word ++ rest) :
    ∃ front' rest', text = front' ++ word ++ rest' ∧ front'.getLast? = front.getLast? ∧
      rest'.head? = rest.head? := by
  obtain ⟨pieces, last, split, within, rfl⟩ := List.map_eq_append_iff.mp same
  obtain ⟨first, middle, rfl, rfl, inside⟩ := List.map_eq_append_iff.mp within
  have wordText := plain_text solid inside
  refine ⟨first.flatMap Piece.text, last.flatMap Piece.text, ?_, ?_, ?_⟩
  · rw [← @pieces_text _ m none text, split, List.flatMap_append, List.flatMap_append, wordText]
  · rcases List.eq_nil_or_concat' first with rfl | ⟨first, piece, rfl⟩
    · rfl
    · cases piece with
      | matched hit =>
        rw [List.append_assoc, List.append_assoc, List.singleton_append] at split
        have found := pieces_found split
        refine absurd ?_ (clear _ _ _ _ found).2
        rw [List.flatMap_append, wordText, List.head?_append_of_ne_nil _ filled]
      | plain c =>
        rw [List.flatMap_append, List.map_append]
        exact List.getLast?_concat.trans List.getLast?_concat.symm
  · cases last with
    | nil => rfl
    | cons piece last =>
      cases piece with
      | matched hit =>
        have found := pieces_found split
        refine absurd ?_ (clear _ _ _ _ found).1
        rw [Option.or_none, List.flatMap_append, wordText, List.getLast?_append_of_ne_nil _ filled]
      | plain c => rfl

theorem mem_hits (opens : ∀ g ∈ front.getLast?, m.Guard g)
    (found : m.matchAt front.getLast? (word ++ rest) = some (word, rest)) :
    word ∈ m.hits (front ++ word ++ rest) := by
  have blank := word.head (m.proper _ _ _ _ found).1
  obtain ⟨first, split, -⟩ := @pieces_at _ m front (word ++ rest) blank opens
  rw [hits, List.append_assoc, split, pieces_hit found, List.filterMap_append]
  exact List.mem_append_right _ List.mem_cons_self

end Matcher

-- A text with a blank in place of each of some parts, which are given in order
inductive Blanked (blank : χ) : List χ → List χ → List (List χ) → Prop where
  | nil : Blanked blank [] [] []
  | keep (c : χ) {text rest : List χ} {hits : List (List χ)}
      (blanked : Blanked blank text rest hits) :
      Blanked blank (c :: text) (c :: rest) hits
  | hit (word : List χ) {text rest : List χ} {hits : List (List χ)}
      (blanked : Blanked blank text rest hits) :
      Blanked blank (word ++ text) (blank :: rest) (word :: hits)

namespace Blanked

variable {blank : χ} {text rest rest' word : List χ} {hits hits' : List (List χ)}

theorem of_pieces (pieces : List (Piece χ)) :
    Blanked blank (pieces.flatMap Piece.text) (pieces.map (Piece.blanked blank))
      (pieces.filterMap Piece.hit?) := by
  induction pieces with
  | nil => exact .nil
  | cons piece pieces ih =>
    cases piece with
    | matched word => exact .hit word ih
    | plain c => exact .keep c ih

theorem of_sub (m : Matcher χ) (text : List χ) :
    Blanked blank text (m.sub blank text) (m.hits text) := by
  have whole := @of_pieces _ blank (m.pieces none text)
  rw [Matcher.pieces_text] at whole
  exact whole

theorem refl (text : List χ) : Blanked blank text text [] := by
  induction text with
  | nil => exact .nil
  | cons c text ih => exact .keep c ih

theorem split (solid : blank ∉ word) (blanked : Blanked blank text (word ++ rest) hits) :
    ∃ text', text = word ++ text' ∧ Blanked blank text' rest hits := by
  induction word generalizing text with
  | nil => exact ⟨text, rfl, blanked⟩
  | cons c word ih =>
    obtain ⟨other, solid⟩ := not_or.mp (mt List.mem_cons.mpr solid)
    cases blanked with
    | keep _ blanked =>
      obtain ⟨text', rfl, kept⟩ := ih solid blanked
      exact ⟨text', rfl, kept⟩
    | hit => exact absurd rfl other

theorem trans (solid : ∀ word ∈ hits', blank ∉ word) (first : Blanked blank text rest hits)
    (second : Blanked blank rest rest' hits') :
    ∃ all, all.Perm (hits ++ hits') ∧ Blanked blank text rest' all := by
  induction second generalizing text hits with
  | nil =>
    cases first
    exact ⟨[], .nil, .nil⟩
  | keep c second ih =>
    cases first with
    | keep _ first =>
      obtain ⟨all, perm, blanked⟩ := ih solid first
      exact ⟨all, perm, .keep c blanked⟩
    | hit word first =>
      obtain ⟨all, perm, blanked⟩ := ih solid first
      exact ⟨word :: all, perm.cons word, .hit word blanked⟩
  | hit word second ih =>
    obtain ⟨text', rfl, kept⟩ := first.split (solid word List.mem_cons_self)
    obtain ⟨all, perm, blanked⟩ :=
      ih (fun word member => solid word (List.mem_cons_of_mem _ member)) kept
    exact ⟨word :: all, (perm.cons word).trans List.perm_middle.symm, .hit word blanked⟩

end Blanked

end Shared
