import Mathlib.Algebra.BigOperators.Group.List.Basic
import Mathlib.Algebra.BigOperators.Ring.List
import Mathlib.Algebra.Order.BigOperators.Group.List
import Mathlib.Algebra.Order.Field.Rat
import Mathlib.Data.List.Nodup
import Mathlib.Data.List.Sublists
import Mathlib.Tactic.Linarith
import Mathlib.Tactic.Ring

set_option autoImplicit false

namespace Shared.Fifo

-- A buy with what no sell has taken from it yet
structure Lot (ι : Type) where
  buy : ι
  left : ℚ

-- A sell that still asks for something, before the oldest of the lots
structure Turn (ι : Type) where
  sell : ι
  asked : ℚ
  lot : Lot ι

def Turn.take {ι : Type} (turn : Turn ι) : ℚ := min turn.lot.left turn.asked

structure Book (ι κ : Type) where
  buys : ι → Bool
  key : ι → κ
  quantity : ι → ℚ
  -- What is no more than that counts as nothing.
  dust : ℚ
  dust_nonneg : 0 ≤ dust

variable {ι κ : Type} (book : Book ι κ)

-- One sell before the lots of its key: the turns, what it asks for in the end, and the lots left
def Book.sell (sell : ι) : Nat → ℚ → List (Lot ι) → List (Turn ι) × ℚ × List (Lot ι)
  | 0, asked, lots => ([], asked, lots)
  | _, asked, [] => ([], asked, [])
  | fuel + 1, asked, lot :: rest =>
    if book.dust < asked then
      let turn : Turn ι := ⟨sell, asked, lot⟩
      let left := lot.left - turn.take
      let later := Book.sell sell fuel (asked - turn.take)
        (if left ≤ book.dust then rest else ⟨lot.buy, left⟩ :: rest)
      (turn :: later.1, later.2)
    else ([], asked, lot :: rest)

section Run

variable [DecidableEq κ]

def Book.turnsFrom (queues : κ → List (Lot ι)) : List ι → List (Turn ι)
  | [] => []
  | order :: rest =>
    let lots := queues (book.key order)
    if book.buys order then
      Book.turnsFrom
        (Function.update queues (book.key order) (lots ++ [⟨order, book.quantity order⟩])) rest
    else
      let sold := book.sell order (lots.length + 1) (book.quantity order) lots
      sold.1 ++ Book.turnsFrom (Function.update queues (book.key order) sold.2.2) rest

def Book.turns (orders : List ι) : List (Turn ι) := book.turnsFrom (fun _ => []) orders

end Run

section Amounts

variable [DecidableEq ι]

def bought (turns : List (Turn ι)) (buy : ι) : ℚ :=
  ((turns.filter (·.lot.buy = buy)).map Turn.take).sum

def sold (turns : List (Turn ι)) (sell : ι) : ℚ :=
  ((turns.filter (·.sell = sell)).map Turn.take).sum

theorem bought_append (turns later : List (Turn ι)) (buy : ι) :
    bought (turns ++ later) buy = bought turns buy + bought later buy := by
  simp [bought, List.filter_append]

theorem sold_append (turns later : List (Turn ι)) (sell : ι) :
    sold (turns ++ later) sell = sold turns sell + sold later sell := by
  simp [sold, List.filter_append]

theorem bought_singleton (turn : Turn ι) (buy : ι) :
    bought [turn] buy = if turn.lot.buy = buy then turn.take else 0 := by
  unfold bought
  split <;> simp_all

theorem sold_singleton (turn : Turn ι) (sell : ι) :
    sold [turn] sell = if turn.sell = sell then turn.take else 0 := by
  unfold sold
  split <;> simp_all

theorem sold_eq_zero {turns : List (Turn ι)} {sell : ι} (none : ∀ turn ∈ turns, turn.sell ≠ sell) :
    sold turns sell = 0 := by
  rw [sold, List.filter_eq_nil_iff.mpr (by simpa using none)]
  rfl

def Book.Closed (turns : List (Turn ι)) (buy : ι) : Prop :=
  book.quantity buy - bought turns buy ≤ book.dust

structure Book.Sound (orders : List ι) (before : List (Turn ι)) (turn : Turn ι) : Prop where
  buys : book.buys turn.lot.buy = true
  sells : book.buys turn.sell = false
  key : book.key turn.lot.buy = book.key turn.sell
  earlier : [turn.lot.buy, turn.sell].Sublist orders
  left : turn.lot.left = book.quantity turn.lot.buy - bought before turn.lot.buy
  asked : turn.asked = book.quantity turn.sell - sold before turn.sell
  leftPos : 0 < turn.lot.left
  askedPos : book.dust < turn.asked
  oldest : ∀ buy, book.buys buy = true → book.key buy = book.key turn.sell →
    [buy, turn.lot.buy].Sublist orders → book.Closed before buy

inductive Book.InTurn (orders : List ι) : List (Turn ι) → Prop
  | nil : Book.InTurn orders []
  | snoc {turns : List (Turn ι)} {turn : Turn ι} (before : Book.InTurn orders turns)
      (sound : book.Sound orders turns turn) : Book.InTurn orders (turns ++ [turn])

structure Book.Served (orders : List ι) (turns : List (Turn ι)) (sell : ι) : Prop where
  atMost : sold turns sell ≤ book.quantity sell
  unlessNone : book.quantity sell - sold turns sell ≤ book.dust ∨
    ∀ buy, book.buys buy = true → book.key buy = book.key sell → [buy, sell].Sublist orders →
      book.Closed turns buy

variable {book} {orders : List ι} {before turns : List (Turn ι)} {turn : Turn ι}

theorem Book.Sound.take_pos (sound : book.Sound orders before turn) : 0 < turn.take :=
  lt_min sound.leftPos (book.dust_nonneg.trans_lt sound.askedPos)

theorem Book.InTurn.split (inTurn : book.InTurn orders turns) {later : List (Turn ι)}
    (split : turns = before ++ turn :: later) :
    book.InTurn orders before ∧ book.Sound orders before turn := by
  induction inTurn generalizing later with
  | nil => simp at split
  | @snoc turns last inTurn sound ih =>
    rcases List.eq_nil_or_concat later with rfl | ⟨later, last', rfl⟩
    · obtain ⟨rfl, same⟩ := List.append_inj' split rfl
      cases same
      exact ⟨inTurn, sound⟩
    · rw [List.concat_eq_append, ← List.cons_append, ← List.append_assoc] at split
      exact ih (List.append_inj' split rfl).1

theorem Book.InTurn.exists_sound (inTurn : book.InTurn orders turns) (mem : turn ∈ turns) :
    ∃ before, book.InTurn orders before ∧ book.Sound orders before turn := by
  obtain ⟨before, later, split⟩ := List.append_of_mem mem
  exact ⟨before, inTurn.split split⟩

theorem Book.InTurn.take_pos (inTurn : book.InTurn orders turns) (mem : turn ∈ turns) :
    0 < turn.take := by
  obtain ⟨before, -, sound⟩ := inTurn.exists_sound mem
  exact sound.take_pos

theorem Book.InTurn.bought_nonneg (inTurn : book.InTurn orders turns) (buy : ι) :
    0 ≤ bought turns buy := by
  refine List.sum_nonneg fun amount mem => ?_
  obtain ⟨turn, among, rfl⟩ := List.mem_map.mp mem
  exact (inTurn.take_pos (List.mem_of_mem_filter among)).le

theorem Book.InTurn.left_le (inTurn : book.InTurn orders turns) (mem : turn ∈ turns) :
    0 < turn.lot.left ∧ turn.lot.left ≤ book.quantity turn.lot.buy := by
  obtain ⟨before, inTurn, sound⟩ := inTurn.exists_sound mem
  have := inTurn.bought_nonneg turn.lot.buy
  exact ⟨sound.leftPos, by linarith [sound.left]⟩

end Amounts

section Order

variable {orders past rest : List ι} {first second : ι}

theorem before_asymm (distinct : orders.Nodup) (forth : [first, second].Sublist orders)
    (back : [second, first].Sublist orders) : False := by
  induction orders with
  | nil => simp at forth
  | cons order orders ih =>
    obtain ⟨fresh, distinct⟩ := List.nodup_cons.mp distinct
    rcases List.sublist_cons_iff.mp forth with inner | ⟨_, same, inner⟩
    · rcases List.sublist_cons_iff.mp back with inner' | ⟨_, same, -⟩
      · exact ih distinct inner inner'
      · obtain ⟨rfl, -⟩ := List.cons.inj same
        exact fresh (inner.subset (show second ∈ [first, second] by simp))
    · obtain ⟨rfl, rfl⟩ := List.cons.inj same
      rcases List.sublist_cons_iff.mp back with inner' | ⟨_, same, -⟩
      · exact fresh (inner'.subset (show first ∈ [second, first] by simp))
      · obtain ⟨rfl, -⟩ := List.cons.inj same
        exact fresh (inner.subset (by simp))

theorem mem_of_before (distinct : (past ++ rest).Nodup)
    (before : [first, second].Sublist (past ++ rest)) (mem : second ∈ past) : first ∈ past := by
  obtain ⟨left, right, split, inPast, inRest⟩ := List.sublist_append_iff.mp before
  rcases List.cons_eq_append_iff.mp split with ⟨rfl, rfl⟩ | ⟨left, rfl, -⟩
  · have late : second ∈ rest := inRest.subset (show second ∈ [first, second] by simp)
    exact absurd late (List.disjoint_of_nodup_append distinct mem)
  · exact inPast.subset (show first ∈ first :: left by simp)

theorem before_append (mem : first ∈ past) : [first, second].Sublist (past ++ second :: rest) :=
  (List.singleton_sublist.mpr mem).append (List.singleton_sublist.mpr (by simp))

end Order

section Run

variable [DecidableEq ι] [DecidableEq κ] {book} {orders past : List ι}
  {queues : κ → List (Lot ι)} {turns : List (Turn ι)}

def Book.buysOf (book : Book ι κ) (past : List ι) (key : κ) : List ι :=
  past.filter fun order => book.buys order && book.key order = key

-- What is true of the queues and of the turns when the orders so far have been taken.
structure Book.Kept (book : Book ι κ) (orders past : List ι) (queues : κ → List (Lot ι))
    (turns : List (Turn ι)) : Prop where
  inTurn : book.InTurn orders turns
  placed : ∀ key, ((queues key).map Lot.buy).Sublist (book.buysOf past key)
  left : ∀ key, ∀ lot ∈ queues key,
    0 < lot.left ∧ lot.left = book.quantity lot.buy - bought turns lot.buy
  closed : ∀ buy ∈ past, book.buys buy = true → buy ∉ (queues (book.key buy)).map Lot.buy →
    bought turns buy ≤ book.quantity buy ∧ book.Closed turns buy
  known : ∀ turn ∈ turns, turn.lot.buy ∈ past ∧ turn.sell ∈ past

theorem Book.Kept.start : book.Kept orders [] (fun _ => []) [] where
  inTurn := .nil
  placed _ := List.nil_sublist _
  left _ _ mem := absurd mem List.not_mem_nil
  closed _ mem := absurd mem List.not_mem_nil
  known _ mem := absurd mem List.not_mem_nil

theorem bought_eq_zero {buy : ι} (none : ∀ turn ∈ turns, turn.lot.buy ≠ buy) :
    bought turns buy = 0 := by
  rw [bought, List.filter_eq_nil_iff.mpr (by simpa using none)]
  rfl

theorem Book.Kept.buy {order : ι} (kept : book.Kept orders past queues turns)
    (fresh : order ∉ past) (buys : book.buys order = true) (positive : 0 < book.quantity order) :
    book.Kept orders (past ++ [order])
      (Function.update queues (book.key order)
        (queues (book.key order) ++ [⟨order, book.quantity order⟩])) turns := by
  have untouched : bought turns order = 0 :=
    bought_eq_zero fun turn mem same => fresh (same ▸ (kept.known turn mem).1)
  refine ⟨kept.inTurn, fun key => ?_, fun key lot mem => ?_, fun buy mem isBuy absent => ?_,
    fun turn mem => ?_⟩
  · have placed := kept.placed key
    rw [Book.buysOf] at placed ⊢
    rw [List.filter_append]
    by_cases same : book.key order = key
    · subst same
      simpa [buys] using placed
    · simpa [buys, same, Function.update_of_ne (Ne.symm same)] using placed
  · by_cases same : book.key order = key
    · subst same
      rw [Function.update_self, List.mem_append, List.mem_singleton] at mem
      rcases mem with mem | rfl
      · exact kept.left _ lot mem
      · exact ⟨positive, by simp [untouched]⟩
    · rw [Function.update_of_ne (Ne.symm same)] at mem
      exact kept.left _ lot mem
  · rw [List.mem_append, List.mem_singleton] at mem
    rcases mem with mem | rfl
    · refine kept.closed buy mem isBuy fun inQueue => absent ?_
      by_cases same : book.key order = book.key buy
      · rw [← same] at inQueue ⊢
        simp [inQueue]
      · rwa [Function.update_of_ne (Ne.symm same)]
    · simp at absent
  · have := kept.known turn mem
    exact ⟨List.mem_append_left _ this.1, List.mem_append_left _ this.2⟩

theorem Book.Kept.next {order : ι} (kept : book.Kept orders past queues turns)
    (sells : book.buys order = false) : book.Kept orders (past ++ [order]) queues turns where
  inTurn := kept.inTurn
  placed key := by
    simpa [Book.buysOf, List.filter_append, sells] using kept.placed key
  left := kept.left
  closed buy mem isBuy absent := by
    refine kept.closed buy ?_ isBuy absent
    rcases List.mem_append.mp mem with mem | same
    · exact mem
    · rw [List.mem_singleton.mp same, sells] at isBuy
      cases isBuy
  known turn mem :=
    ⟨List.mem_append_left _ (kept.known turn mem).1, List.mem_append_left _ (kept.known turn mem).2⟩

theorem Book.Kept.lot_mem (kept : book.Kept orders past queues turns) {key : κ} {lot : Lot ι}
    (mem : lot ∈ queues key) :
    lot.buy ∈ past ∧ book.buys lot.buy = true ∧ book.key lot.buy = key := by
  have := (kept.placed key).subset (List.mem_map_of_mem mem)
  simpa [Book.buysOf] using this

variable {sell : ι} {lot : Lot ι} {rest : List (Lot ι)} {asked : ℚ}

theorem Book.Kept.sound (kept : book.Kept orders (past ++ [sell]) queues turns)
    (distinct : orders.Nodup) (begins : past ++ [sell] <+: orders)
    (sells : book.buys sell = false) (head : queues (book.key sell) = lot :: rest)
    (asks : asked = book.quantity sell - sold turns sell) (more : book.dust < asked) :
    book.Sound orders turns ⟨sell, asked, lot⟩ := by
  have front : lot ∈ queues (book.key sell) := by simp [head]
  obtain ⟨mem, isBuy, sameKey⟩ := kept.lot_mem front
  obtain ⟨later, rfl⟩ := begins
  have inPast : lot.buy ∈ past := by
    rcases List.mem_append.mp mem with mem | same
    · exact mem
    · rw [List.mem_singleton.mp same, sells] at isBuy
      cases isBuy
  refine ⟨isBuy, sells, sameKey, ?_, (kept.left _ lot front).2, asks, (kept.left _ lot front).1,
    more, fun buy buys same older => ?_⟩
  · rw [List.append_assoc]
    exact before_append inPast
  -- An older buy is in no queue: there it would come after the head.
  have old : buy ∈ past ++ [sell] := mem_of_before distinct older mem
  refine (kept.closed buy old buys fun queued => ?_).2
  rw [same, head, List.map_cons, List.mem_cons] at queued
  rcases queued with rfl | queued
  · exact before_asymm distinct older older
  · refine before_asymm distinct older ?_
    have placed := kept.placed (book.key sell)
    rw [head, List.map_cons] at placed
    exact (((List.singleton_sublist.mpr queued).cons_cons _).trans placed).trans
      (List.filter_sublist.trans (List.sublist_append_left _ _))

theorem Book.Kept.take (kept : book.Kept orders (past ++ [sell]) queues turns)
    (distinct : orders.Nodup) (begins : past ++ [sell] <+: orders)
    (sells : book.buys sell = false) (head : queues (book.key sell) = lot :: rest)
    (asks : asked = book.quantity sell - sold turns sell) (more : book.dust < asked) :
    let turn : Turn ι := ⟨sell, asked, lot⟩
    book.Kept orders (past ++ [sell])
      (Function.update queues (book.key sell)
        (if lot.left - turn.take ≤ book.dust then rest
          else ⟨lot.buy, lot.left - turn.take⟩ :: rest)) (turns ++ [turn]) := by
  intro turn
  have sound := kept.sound distinct begins sells head asks more
  have front : lot ∈ queues (book.key sell) := by simp [head]
  obtain ⟨mem, isBuy, sameKey⟩ := kept.lot_mem front
  have placed := kept.placed (book.key sell)
  rw [head, List.map_cons] at placed
  have once : (lot.buy :: rest.map Lot.buy).Nodup := by
    refine placed.nodup (List.Nodup.filter _ ?_)
    exact begins.sublist.nodup distinct
  have others : ∀ buy, buy ≠ lot.buy → bought (turns ++ [turn]) buy = bought turns buy := by
    intro buy other
    rw [bought_append, bought_singleton, if_neg (Ne.symm other), add_zero]
  have own : bought (turns ++ [turn]) lot.buy = bought turns lot.buy + turn.take := by
    rw [bought_append, bought_singleton, if_pos rfl]
  refine ⟨.snoc kept.inTurn sound, fun key => ?_, fun key lot' mem' => ?_,
    fun buy mem' buys absent => ?_, fun turn' mem' => ?_⟩
  · by_cases same : key = book.key sell
    · subst same
      rw [Function.update_self]
      split
      next => exact (List.sublist_cons_self _ _).trans placed
      next => exact placed
    · rw [Function.update_of_ne same]
      exact kept.placed key
  · by_cases same : key = book.key sell
    · subst same
      rw [Function.update_self] at mem'
      have later : ∀ lot' ∈ rest, 0 < lot'.left ∧
          lot'.left = book.quantity lot'.buy - bought (turns ++ [turn]) lot'.buy := by
        intro lot' inRest
        rw [others _ fun same =>
          (List.nodup_cons.mp once).1 (same ▸ List.mem_map_of_mem inRest)]
        exact kept.left (book.key sell) lot' (by simp [head, inRest])
      split at mem'
      next => exact later lot' mem'
      next open' =>
        rcases List.mem_cons.mp mem' with rfl | mem'
        · rw [own]
          have := (kept.left _ lot front).2
          have := book.dust_nonneg
          exact ⟨by linarith, by linarith⟩
        · exact later lot' mem'
    · rw [Function.update_of_ne same] at mem'
      rw [others _ fun equal => same ?_]
      · exact kept.left key lot' mem'
      · rw [← (kept.lot_mem mem').2.2, equal, sameKey]
  · by_cases same : buy = lot.buy
    · subst same
      have := (kept.left _ lot front).2
      rw [sameKey, Function.update_self] at absent
      split at absent
      next gone =>
        rw [Book.Closed, own]
        have := min_le_left lot.left asked
        constructor
        · simp only [turn, Turn.take] at *
          linarith
        · linarith
      next => simp at absent
    · rw [Book.Closed, others buy same]
      refine kept.closed buy mem' buys fun queued => absent ?_
      by_cases key : book.key buy = book.key sell
      · rw [key, head, List.map_cons, List.mem_cons, or_iff_right same] at queued
        rw [key, Function.update_self]
        split
        next => exact queued
        next => exact List.mem_cons_of_mem _ queued
      · rwa [Function.update_of_ne key]
  · rcases List.mem_append.mp mem' with mem' | same
    · exact kept.known turn' mem'
    · rw [List.mem_singleton.mp same]
      exact ⟨mem, by simp [turn]⟩

theorem Book.Kept.sellAll (distinct : orders.Nodup) (begins : past ++ [sell] <+: orders)
    (sells : book.buys sell = false) {fuel : Nat} {lots : List (Lot ι)}
    (enough : asked ≤ book.dust ∨ lots.length < fuel)
    (kept : book.Kept orders (past ++ [sell])
      (Function.update queues (book.key sell) lots) turns)
    (asks : asked = book.quantity sell - sold turns sell) (positive : 0 ≤ asked) :
    let done := book.sell sell fuel asked lots
    book.Kept orders (past ++ [sell]) (Function.update queues (book.key sell) done.2.2)
        (turns ++ done.1) ∧
      done.2.1 = book.quantity sell - sold (turns ++ done.1) sell ∧ 0 ≤ done.2.1 ∧
      (done.2.1 ≤ book.dust ∨ done.2.2 = []) := by
  induction fuel generalizing lots turns asked with
  | zero =>
    have small : asked ≤ book.dust := enough.resolve_right (Nat.not_lt_zero _)
    simpa [Book.sell] using ⟨kept, asks, positive, Or.inl small⟩
  | succ fuel ih =>
    cases lots with
    | nil => simpa [Book.sell] using ⟨kept, asks, positive⟩
    | cons lot rest =>
      rw [Book.sell]
      split
      next more =>
        let turn : Turn ι := ⟨sell, asked, lot⟩
        have taken := kept.take distinct begins sells (Function.update_self ..) asks more
        simp only [Function.update_idem] at taken
        have step := (@ih (turns ++ [turn]) (asked - turn.take) _) ?_ taken ?_ ?_
        · simpa [turn] using step
        · split
          next =>
            right
            have := enough.resolve_left (not_le.mpr more)
            exact Nat.lt_of_succ_lt_succ this
          next open' =>
            left
            have : turn.take = asked := by
              rcases min_choice lot.left asked with same | same
              · simp only [Turn.take, same, sub_self] at open'
                exact absurd book.dust_nonneg open'
              · exact same
            rw [this, sub_self]
            exact book.dust_nonneg
        · rw [sold_append, sold_singleton, if_pos rfl, asks]
          ring
        · exact sub_nonneg.mpr (min_le_right _ _)
      next small => simpa using ⟨kept, asks, positive, not_lt.mp small⟩

omit [DecidableEq ι] [DecidableEq κ] in
theorem sells_of_mem {fuel : Nat} {lots : List (Lot ι)} {turn : Turn ι}
    (mem : turn ∈ (book.sell sell fuel asked lots).1) : turn.sell = sell := by
  induction fuel generalizing lots asked with
  | zero => simp [Book.sell] at mem
  | succ fuel ih =>
    cases lots with
    | nil => simp [Book.sell] at mem
    | cons lot rest =>
      rw [Book.sell] at mem
      split at mem
      next =>
        rcases List.mem_cons.mp mem with rfl | mem
        · rfl
        · exact ih mem
      next => cases mem

variable {later : List (Turn ι)}

omit [DecidableEq κ] in
theorem Book.InTurn.bought_le (inTurn : book.InTurn orders (turns ++ later)) (buy : ι) :
    bought turns buy ≤ bought (turns ++ later) buy := by
  rw [bought_append, le_add_iff_nonneg_right]
  refine List.sum_nonneg fun amount mem => ?_
  obtain ⟨turn, among, rfl⟩ := List.mem_map.mp mem
  exact (inTurn.take_pos (List.mem_append_right _ (List.mem_of_mem_filter among))).le

omit [DecidableEq κ] in
theorem Book.Served.append (served : book.Served orders turns sell)
    (inTurn : book.InTurn orders (turns ++ later)) (others : ∀ turn ∈ later, turn.sell ≠ sell) :
    book.Served orders (turns ++ later) sell := by
  have same : sold (turns ++ later) sell = sold turns sell := by
    rw [sold_append, sold_eq_zero others, add_zero]
  refine ⟨same ▸ served.atMost, ?_⟩
  rw [same]
  exact served.unlessNone.imp_right fun closed buy buys key older =>
    (sub_le_sub_left (inTurn.bought_le buy) _).trans (closed buy buys key older)

theorem Book.Kept.run (distinct : orders.Nodup) (positive : ∀ order ∈ orders, 0 < book.quantity order)
    {rest : List ι} (split : past ++ rest = orders) (kept : book.Kept orders past queues turns)
    (served : ∀ sell ∈ past, book.buys sell = false → book.Served orders turns sell) :
    let all := turns ++ book.turnsFrom queues rest
    (∃ queues, book.Kept orders orders queues all) ∧
      ∀ sell ∈ orders, book.buys sell = false → book.Served orders all sell := by
  induction rest generalizing past queues turns with
  | nil =>
    rw [List.append_nil] at split
    subst split
    simpa [Book.turnsFrom] using ⟨⟨queues, kept⟩, served⟩
  | cons order rest ih =>
    have begins : past ++ [order] <+: orders := ⟨rest, by simp [split]⟩
    have fresh : order ∉ past := by
      intro mem
      exact (List.nodup_append.mp (begins.sublist.nodup distinct)).2.2 order mem order (by simp) rfl
    have size := positive order (by simp [← split])
    have split' : (past ++ [order]) ++ rest = orders := by simp [split]
    rw [Book.turnsFrom]
    cases isBuy : book.buys order with
    | true =>
      refine ih split' (kept.buy fresh isBuy size) fun sell mem sells => ?_
      rcases List.mem_append.mp mem with mem | same
      · exact served sell mem sells
      · rw [List.mem_singleton.mp same, isBuy] at sells
        cases sells
    | false =>
      have untouched : sold turns order = 0 :=
        sold_eq_zero fun turn mem same => fresh (same ▸ (kept.known turn mem).2)
      obtain ⟨kept', asks', nonneg, ended⟩ := (@Book.Kept.sellAll _ _ _ _ _ _ _ queues _ _ _
        distinct begins isBuy _ (queues (book.key order))) (.inr (Nat.lt_succ_self _))
        (by rw [Function.update_eq_self]; exact kept.next isBuy) (by rw [untouched, sub_zero]) size.le
      have after := ih split' kept' fun sell mem sells => ?_
      · simpa using after
      rcases List.mem_append.mp mem with mem | same
      · exact (served sell mem sells).append kept'.inTurn fun turn turned same =>
          fresh (sells_of_mem turned ▸ same ▸ mem)
      rw [List.mem_singleton.mp same]
      refine ⟨by linarith, ended.imp (fun small => asks' ▸ small) fun empty buy buys key older => ?_⟩
      have old : buy ∈ past ++ [order] := (@mem_of_before _ _ rest) (split' ▸ distinct)
        (split' ▸ older) (by simp)
      refine (kept'.closed buy old buys ?_).2
      rw [key, Function.update_self, empty]
      exact List.not_mem_nil

theorem Book.turns_inTurn (distinct : orders.Nodup)
    (positive : ∀ order ∈ orders, 0 < book.quantity order) :
    book.InTurn orders (book.turns orders) :=
  have ⟨_, kept⟩ := (Book.Kept.start.run distinct positive (List.nil_append _) (by simp)).1
  kept.inTurn

theorem Book.turns_bought (distinct : orders.Nodup)
    (positive : ∀ order ∈ orders, 0 < book.quantity order) {buy : ι} (mem : buy ∈ orders)
    (buys : book.buys buy = true) : bought (book.turns orders) buy ≤ book.quantity buy := by
  obtain ⟨queues, kept⟩ :=
    (Book.Kept.start.run distinct positive (List.nil_append _) (by simp)).1
  by_cases queued : buy ∈ (queues (book.key buy)).map Lot.buy
  · obtain ⟨lot, inQueue, rfl⟩ := List.mem_map.mp queued
    have ⟨pos, left⟩ := kept.left _ lot inQueue
    exact sub_nonneg.mp (left ▸ pos.le)
  · exact (kept.closed buy mem buys queued).1

theorem Book.turns_served (distinct : orders.Nodup)
    (positive : ∀ order ∈ orders, 0 < book.quantity order) {sell : ι} (mem : sell ∈ orders)
    (sells : book.buys sell = false) : book.Served orders (book.turns orders) sell :=
  (Book.Kept.start.run distinct positive (List.nil_append _) (by simp)).2 sell mem sells

end Run

section Shares

variable {α : Type} {terms : List α} {large small : α → ℚ}

theorem sum_eq_sum_iff (least : ∀ x ∈ terms, small x ≤ large x) :
    (terms.map large).sum = (terms.map small).sum ↔ ∀ x ∈ terms, large x = small x := by
  induction terms with
  | nil => simp
  | cons x rest ih =>
    have head := least x (by simp)
    have tail := List.sum_le_sum fun y mem => least y (List.mem_cons_of_mem x mem)
    rw [List.forall_mem_cons, ← ih fun y mem => least y (List.mem_cons_of_mem x mem),
      List.map_cons, List.map_cons, List.sum_cons, List.sum_cons]
    constructor
    · intro equal
      constructor <;> linarith
    · rintro ⟨equal, equal'⟩
      rw [equal, equal']

variable [DecidableEq ι] {book} {orders : List ι} {turns : List (Turn ι)}

theorem bought_div (turns : List (Turn ι)) (buy : ι) (size : ℚ) :
    bought turns buy / size =
      ((turns.filter (·.lot.buy = buy)).map fun turn => turn.take / size).sum := by
  simp only [bought, div_eq_mul_inv]
  exact (List.sum_map_mul_right _ Turn.take size⁻¹).symm

theorem sold_div (turns : List (Turn ι)) (sell : ι) (size : ℚ) :
    sold turns sell / size = ((turns.filter (·.sell = sell)).map fun turn => turn.take / size).sum := by
  simp only [sold, div_eq_mul_inv]
  exact (List.sum_map_mul_right _ Turn.take size⁻¹).symm

theorem Book.InTurn.shares_iff (inTurn : book.InTurn orders turns) (buy : ι) :
    ((turns.filter (·.lot.buy = buy)).map fun turn => turn.take / turn.lot.left).sum =
        bought turns buy / book.quantity buy ↔
      ∀ turn ∈ turns, turn.lot.buy = buy → turn.lot.left = book.quantity buy := by
  rw [bought_div, sum_eq_sum_iff]
  · refine ⟨fun equal turn mem same => ?_, fun whole turn mem => ?_⟩
    · have shares := equal turn (by simp [mem, same])
      have pos := inTurn.take_pos mem
      have ⟨left, least⟩ := inTurn.left_le mem
      subst same
      rw [div_eq_div_iff left.ne' (left.trans_le least).ne'] at shares
      exact (mul_left_cancel₀ pos.ne' shares).symm
    · rw [List.mem_filter, decide_eq_true_iff] at mem
      rw [whole turn mem.1 mem.2]
  · intro turn mem
    rw [List.mem_filter, decide_eq_true_iff] at mem
    obtain ⟨mem, rfl⟩ := mem
    have ⟨pos, least⟩ := inTurn.left_le mem
    exact div_le_div_of_nonneg_left (inTurn.take_pos mem).le pos least

end Shares

end Shared.Fifo
