set_option autoImplicit false

namespace Shared

variable {ε σ α β : Type}

def leaves : EStateM.Result ε σ α → σ
  | .ok _ s => s
  | .error _ s => s

@[simp] theorem leaves_ok (a : α) (s : σ) : leaves (.ok a s : EStateM.Result ε σ α) = s := rfl

@[simp] theorem leaves_error (e : ε) (s : σ) :
    leaves (.error e s : EStateM.Result ε σ α) = s := rfl

def returned : EStateM.Result ε σ α → Bool
  | .ok _ _ => true
  | .error _ _ => false

theorem ok_of_returned {result : EStateM.Result ε σ α} (ok : returned result) :
    ∃ a, result = .ok a (leaves result) := by
  cases result with
  | ok a s => exact ⟨a, rfl⟩
  | error e s => cases ok

def answer : EStateM.Result ε σ α → Option α
  | .ok a _ => some a
  | .error _ _ => none

theorem ok_of_answer {result : EStateM.Result ε σ α} {a : α} (given : answer result = some a) :
    result = .ok a (leaves result) := by
  cases result with
  | ok a' s => rw [Option.some.inj given]; rfl
  | error e s => cases given

theorem get_run (s : σ) : (get : EStateM ε σ σ) s = .ok s s := rfl

theorem set_run (s s' : σ) : (set s' : EStateM ε σ PUnit) s = .ok ⟨⟩ s' := rfl

theorem modify_run (f : σ → σ) (s : σ) : (modify f : EStateM ε σ PUnit) s = .ok ⟨⟩ (f s) := rfl

theorem throw_run (e : ε) (s : σ) : (throw e : EStateM ε σ α) s = .error e s := rfl

theorem bind_run (x : EStateM ε σ α) (f : α → EStateM ε σ β) (s : σ) :
    (x >>= f) s = match x s with
      | .ok a s' => f a s'
      | .error e s' => .error e s' := by
  simp only [bind, EStateM.bind]
  cases x s <;> rfl

theorem bind_ok {x : EStateM ε σ α} {f : α → EStateM ε σ β} {s s'' : σ} {b : β} :
    (x >>= f) s = .ok b s'' ↔ ∃ a s', x s = .ok a s' ∧ f a s' = .ok b s'' := by
  rw [bind_run]
  cases run : x s with
  | ok a s' =>
    constructor
    · intro next
      exact ⟨a, s', rfl, next⟩
    · rintro ⟨_, _, same, next⟩
      cases same
      exact next
  | error e s' => simp

theorem bind_error {x : EStateM ε σ α} {f : α → EStateM ε σ β} {s s'' : σ} {e : ε} :
    (x >>= f) s = .error e s'' ↔
      x s = .error e s'' ∨ ∃ a s', x s = .ok a s' ∧ f a s' = .error e s'' := by
  rw [bind_run]
  cases run : x s with
  | ok a s' =>
    constructor
    · intro next
      exact .inr ⟨a, s', rfl, next⟩
    · rintro (failed | ⟨_, _, same, next⟩)
      · cases failed
      · cases same
        exact next
  | error e' s' => simp

theorem bind_of_ok {x : EStateM ε σ α} {f : α → EStateM ε σ β} {s s' : σ} {a : α}
    (run : x s = .ok a s') : (x >>= f) s = f a s' := by
  rw [bind_run, run]

theorem bind_of_error {x : EStateM ε σ α} {f : α → EStateM ε σ β} {s s' : σ} {e : ε}
    (run : x s = .error e s') : (x >>= f) s = .error e s' := by
  rw [bind_run, run]

theorem returns_bind {x : EStateM ε σ α} {f : α → EStateM ε σ β} {s s' : σ} {a : α}
    (first : x s = .ok a s') (rest : ∃ b s'', f a s' = .ok b s'') :
    ∃ b s'', (x >>= f) s = .ok b s'' := by
  rwa [bind_of_ok first]

theorem returns_then {x : EStateM ε σ Unit} {f : Unit → EStateM ε σ β} {s s' : σ}
    (first : x s = .ok () s') (rest : ∃ b s'', f () s' = .ok b s'') :
    ∃ b s'', (x >>= f) s = .ok b s'' := returns_bind first rest

theorem returns_total {x : EStateM ε σ α} {f : α → EStateM ε σ β} {s : σ}
    (first : ∃ a s', x s = .ok a s') (rest : ∀ a s', ∃ b s'', f a s' = .ok b s'') :
    ∃ b s'', (x >>= f) s = .ok b s'' := by
  obtain ⟨a, s', run⟩ := first
  exact returns_bind run (rest a s')

theorem tryCatch_run (x : EStateM ε σ α) (handle : ε → EStateM ε σ α) (s : σ) :
    tryCatch x handle s = match x s with
      | .ok a s' => .ok a s'
      | .error e s' => handle e s' := by
  change EStateM.tryCatch x handle s = _
  delta EStateM.tryCatch
  dsimp only
  cases x s <;> rfl

theorem pure_ok {s s' : σ} {a b : α} :
    (pure a : EStateM ε σ α) s = .ok b s' ↔ a = b ∧ s = s' := by
  simp [pure, EStateM.pure]

theorem get_ok {s s' a : σ} : (get : EStateM ε σ σ) s = .ok a s' ↔ s = a ∧ s = s' := by
  rw [get_run, EStateM.Result.ok.injEq]

theorem modify_ok {f : σ → σ} {s s' : σ} {u : PUnit} :
    (modify f : EStateM ε σ PUnit) s = .ok u s' ↔ f s = s' := by
  rw [modify_run, EStateM.Result.ok.injEq]
  exact and_iff_right rfl

theorem throw_ok {e : ε} {s s' : σ} {a : α} :
    ¬ (throw e : EStateM ε σ α) s = .ok a s' := by
  rw [throw_run]
  exact nofun

-- A loop in which every turn returns: the invariant speaks of the turns taken so far.
theorem mapM_run {f : α → EStateM ε σ β} {g : α → β} {I : List α → σ → Prop} {xs : List α}
    (step : ∀ before x after s, xs = before ++ x :: after → I before s →
      ∃ s', f x s = .ok (g x) s' ∧ I (before ++ [x]) s') {s : σ} (holds : I [] s) :
    ∃ s', xs.mapM f s = .ok (xs.map g) s' ∧ I xs s' := by
  suffices loop : ∀ after before s, xs = before ++ after → I before s →
      ∃ s', after.mapM f s = .ok (after.map g) s' ∧ I xs s' from loop xs [] s rfl holds
  intro after
  induction after with
  | nil =>
    intro before s split holds
    rw [List.append_nil] at split
    exact ⟨s, rfl, split ▸ holds⟩
  | cons x after ih =>
    intro before s split holds
    obtain ⟨s', turn, holds⟩ := step before x after s split holds
    obtain ⟨s'', rest, ended⟩ := ih (before ++ [x]) s' (by simp [split]) holds
    refine ⟨s'', ?_, ended⟩
    rw [List.mapM_cons, bind_of_ok turn, bind_of_ok rest]
    rfl

theorem forM_run {f : α → EStateM ε σ Unit} {I : List α → σ → Prop} {xs : List α}
    (step : ∀ before x after s, xs = before ++ x :: after → I before s →
      ∃ s', f x s = .ok () s' ∧ I (before ++ [x]) s') {s : σ} (holds : I [] s) :
    ∃ s', xs.forM f s = .ok () s' ∧ I xs s' := by
  suffices loop : ∀ after before s, xs = before ++ after → I before s →
      ∃ s', after.forM f s = .ok () s' ∧ I xs s' from loop xs [] s rfl holds
  intro after
  induction after with
  | nil =>
    intro before s split holds
    rw [List.append_nil] at split
    exact ⟨s, rfl, split ▸ holds⟩
  | cons x after ih =>
    intro before s split holds
    obtain ⟨s', turn, holds⟩ := step before x after s split holds
    obtain ⟨s'', rest, ended⟩ := ih (before ++ [x]) s' (by simp [split]) holds
    exact ⟨s'', (bind_of_ok turn).trans rest, ended⟩

def discarded (x : EStateM ε σ α) : EStateM ε σ Unit := x >>= fun _ => pure ()

theorem discarded_of_ok {x : EStateM ε σ α} {s s' : σ} {a : α} (run : x s = .ok a s') :
    discarded x s = .ok () s' := bind_of_ok run

theorem discarded_of_error {x : EStateM ε σ α} {s s' : σ} {e : ε} (run : x s = .error e s') :
    discarded x s = .error e s' := bind_of_error run

theorem discarded_ok {x : EStateM ε σ α} {s s' : σ} {u : Unit} :
    discarded x s = .ok u s' ↔ ∃ a, x s = .ok a s' := by
  simp only [discarded, bind_ok, pure_ok]
  constructor
  · rintro ⟨a, _, run, -, rfl⟩
    exact ⟨a, run⟩
  · rintro ⟨a, run⟩
    exact ⟨a, s', run, trivial, rfl⟩

theorem discarded_error {x : EStateM ε σ α} {s s' : σ} {e : ε} :
    discarded x s = .error e s' ↔ x s = .error e s' := by
  unfold discarded
  rw [bind_error]
  constructor
  · rintro (failed | ⟨_, _, -, impossible⟩)
    · exact failed
    · cases impossible
  · exact .inl

-- What a program does without its state.
def outcome : EStateM.Result ε σ α → Except ε α
  | .ok a _ => .ok a
  | .error e _ => .error e

-- The program does the same without its state, in whatever state it starts.
def Erases (x : EStateM ε σ α) (y : Except ε α) : Prop := ∀ s, outcome (x s) = y

namespace Erases

theorem pure (a : α) : Erases (Pure.pure a : EStateM ε σ α) (.ok a) := fun _ => rfl

theorem throw (e : ε) : Erases (MonadExcept.throw e : EStateM ε σ α) (.error e) := fun _ => rfl

theorem liftExcept (y : Except ε α) : Erases (liftExcept y : EStateM ε σ α) y := by
  cases y with
  | ok a => exact fun _ => rfl
  | error e => exact fun _ => rfl

theorem bind {x : EStateM ε σ α} {y : Except ε α} {f : α → EStateM ε σ β} {g : α → Except ε β}
    (first : Erases x y) (rest : ∀ a, Erases (f a) (g a)) : Erases (x >>= f) (y >>= g) := by
  intro s
  have begun := first s
  rw [bind_run]
  cases run : x s with
  | ok a s' =>
    rw [run] at begun
    subst begun
    exact rest a s'
  | error e s' =>
    rw [run] at begun
    subst begun
    rfl

theorem foldlM {xs : List α} {f : β → α → EStateM ε σ β} {g : β → α → Except ε β}
    (each : ∀ b x, Erases (f b x) (g b x)) (b : β) : Erases (xs.foldlM f b) (xs.foldlM g b) := by
  induction xs generalizing b with
  | nil => exact .pure b
  | cons x xs ih =>
    rw [List.foldlM_cons, List.foldlM_cons]
    exact (each b x).bind ih

end Erases

-- The invariant survives the program on every path, raising paths included.
def Keeps (inv : σ → Prop) (x : EStateM ε σ α) : Prop :=
  ∀ s, inv s → inv (leaves (x s))

namespace Keeps

variable {inv : σ → Prop}

theorem pure (a : α) : Keeps inv (Pure.pure a : EStateM ε σ α) := fun _ holds => holds

theorem throw (e : ε) : Keeps inv (MonadExcept.throw e : EStateM ε σ α) := fun _ holds => holds

theorem get : Keeps inv (MonadState.get : EStateM ε σ σ) := fun _ holds => holds

theorem modified {f : σ → σ} (keeps : ∀ s, inv s → inv (f s)) :
    Keeps inv (modify f : EStateM ε σ PUnit) := fun s holds => keeps s holds

theorem bind {x : EStateM ε σ α} {f : α → EStateM ε σ β} (first : Keeps inv x)
    (rest : ∀ a, Keeps inv (f a)) : Keeps inv (x >>= f) := by
  intro s holds
  have after := first s holds
  rw [bind_run]
  cases run : x s with
  | ok a s' =>
    rw [run] at after
    exact rest a s' after
  | error e s' =>
    rw [run] at after
    exact after

theorem discarded {x : EStateM ε σ α} (first : Keeps inv x) : Keeps inv (discarded x) :=
  first.bind fun _ => .pure ()

theorem bind_get {f : σ → EStateM ε σ α} (rest : ∀ s, inv s → inv (leaves (f s s))) :
    Keeps inv (MonadState.get >>= f) := fun s holds => rest s holds

theorem forM {xs : List α} {f : α → EStateM ε σ Unit} (each : ∀ x, Keeps inv (f x)) :
    Keeps inv (xs.forM f) := by
  induction xs with
  | nil => exact .pure ()
  | cons x xs ih => exact (each x).bind fun _ => ih

theorem mapM {xs : List α} {f : α → EStateM ε σ β} (each : ∀ x, Keeps inv (f x)) :
    Keeps inv (xs.mapM f) := by
  induction xs with
  | nil => exact .pure []
  | cons x xs ih =>
    rw [List.mapM_cons]
    exact (each x).bind fun b => ih.bind fun bs => .pure (b :: bs)

theorem foldlM {xs : List α} {f : β → α → EStateM ε σ β} (each : ∀ b, ∀ x ∈ xs, Keeps inv (f b x))
    (b : β) : Keeps inv (xs.foldlM f b) := by
  induction xs generalizing b with
  | nil => exact .pure b
  | cons x xs ih =>
    rw [List.foldlM_cons]
    exact (each b x List.mem_cons_self).bind fun b' =>
      ih (fun b x member => each b x (List.mem_cons_of_mem _ member)) b'

theorem tryCatch {x : EStateM ε σ α} {handle : ε → EStateM ε σ α} (first : Keeps inv x)
    (handled : ∀ e, Keeps inv (handle e)) : Keeps inv (tryCatch x handle) := by
  intro s holds
  have after := first s holds
  rw [tryCatch_run]
  cases run : x s with
  | ok a s' =>
    rw [run] at after
    exact after
  | error e s' =>
    rw [run] at after
    exact handled e s' after

theorem liftExcept (y : Except ε α) : Keeps inv (liftExcept y : EStateM ε σ α) := by
  cases y with
  | ok a => exact .pure a
  | error e => exact .throw e

theorem ite {condition : Prop} [Decidable condition] {x y : EStateM ε σ α}
    (first : Keeps inv x) (second : Keeps inv y) :
    Keeps inv (if condition then x else y) := by
  split
  next => exact first
  next => exact second

end Keeps

-- The invariant survives the program where it returns; what a raise leaves is rolled back.
def Preserves (inv : σ → Prop) (x : EStateM ε σ α) : Prop :=
  ∀ s a s', x s = .ok a s' → inv s → inv s'

namespace Preserves

variable {inv : σ → Prop}

theorem of_keeps {x : EStateM ε σ α} (keeps : Keeps inv x) : Preserves inv x := by
  intro s a s' run holds
  have after := keeps s holds
  rwa [run] at after

theorem pure (a : α) : Preserves inv (Pure.pure a : EStateM ε σ α) := .of_keeps (.pure a)

theorem throw (e : ε) : Preserves inv (MonadExcept.throw e : EStateM ε σ α) := .of_keeps (.throw e)

theorem get : Preserves inv (MonadState.get : EStateM ε σ σ) := .of_keeps .get

theorem modified {f : σ → σ} (keeps : ∀ s, inv s → inv (f s)) :
    Preserves inv (modify f : EStateM ε σ PUnit) := .of_keeps (.modified keeps)

theorem bind {x : EStateM ε σ α} {f : α → EStateM ε σ β} (first : Preserves inv x)
    (rest : ∀ a, Preserves inv (f a)) : Preserves inv (x >>= f) := by
  intro s b s'' run holds
  obtain ⟨a, s', begun, ended⟩ := bind_ok.mp run
  exact rest a s' b s'' ended (first s a s' begun holds)

theorem discarded {x : EStateM ε σ α} (first : Preserves inv x) :
    Preserves inv (discarded x) := first.bind fun _ => .pure ()

theorem ite {condition : Prop} [Decidable condition] {x y : EStateM ε σ α}
    (first : Preserves inv x) (second : Preserves inv y) :
    Preserves inv (if condition then x else y) := by
  split
  next => exact first
  next => exact second

end Preserves

-- The program does not raise this exception, in whatever state it starts.
def NeverRaises (raised : ε) (x : EStateM ε σ α) : Prop :=
  ∀ s s', x s ≠ .error raised s'

namespace NeverRaises

variable {raised : ε}

theorem pure (a : α) : NeverRaises raised (Pure.pure a : EStateM ε σ α) := by
  intro s s' failed
  cases failed

theorem throw {other : ε} (different : other ≠ raised) :
    NeverRaises raised (MonadExcept.throw other : EStateM ε σ α) := by
  intro s s' failed
  cases failed
  exact different rfl

theorem get : NeverRaises raised (MonadState.get : EStateM ε σ σ) := by
  intro s s' failed
  cases failed

theorem modified (f : σ → σ) : NeverRaises raised (modify f : EStateM ε σ PUnit) := by
  intro s s' failed
  cases failed

theorem bind_at {x : EStateM ε σ α} {f : α → EStateM ε σ β} {s : σ}
    (first : ∀ s', x s ≠ .error raised s') (rest : ∀ a s' s'', x s = .ok a s' → f a s' ≠ .error raised s'') (s'' : σ) :
    (x >>= f) s ≠ .error raised s'' := by
  rw [bind_run]
  cases run : x s with
  | ok a s' => exact rest a s' s'' run
  | error other s' =>
    intro failed
    cases failed
    exact first _ run

theorem bind {x : EStateM ε σ α} {f : α → EStateM ε σ β} (first : NeverRaises raised x)
    (rest : ∀ a, NeverRaises raised (f a)) : NeverRaises raised (x >>= f) :=
  fun s => bind_at (first s) fun a s' s'' _ => rest a s' s''

end NeverRaises

-- What holds after the program where it returns, and what where it raises.
def Ends (x : EStateM ε σ α) (s : σ) (ok : α → σ → Prop) (raised : σ → Prop) : Prop :=
  (∀ a s', x s = .ok a s' → ok a s') ∧ ∀ e s', x s = .error e s' → raised s'

namespace Ends

variable {x : EStateM ε σ α} {s : σ} {ok : α → σ → Prop} {raised : σ → Prop}

theorem of_ok {a : α} {s' : σ} (run : x s = .ok a s') (holds : ok a s') : Ends x s ok raised := by
  constructor
  · intro b s'' other
    cases run.symm.trans other
    exact holds
  · intro e s'' other
    cases run.symm.trans other

theorem of_error {e : ε} {s' : σ} (run : x s = .error e s') (holds : raised s') :
    Ends x s ok raised := by
  constructor
  · intro b s'' other
    cases run.symm.trans other
  · intro e s'' other
    cases run.symm.trans other
    exact holds

theorem mono {ok' : α → σ → Prop} {raised' : σ → Prop} (ends : Ends x s ok raised)
    (returns : ∀ a s', ok a s' → ok' a s') (raises : ∀ s', raised s' → raised' s') :
    Ends x s ok' raised' :=
  ⟨fun a s' run => returns a s' (ends.1 a s' run), fun e s' run => raises s' (ends.2 e s' run)⟩

theorem pure {a : α} (holds : ok a s) : Ends (Pure.pure a : EStateM ε σ α) s ok raised :=
  of_ok rfl holds

theorem throw {e : ε} (holds : raised s) :
    Ends (MonadExcept.throw e : EStateM ε σ α) s ok raised := of_error rfl holds

theorem get {ok : σ → σ → Prop} (holds : ok s s) :
    Ends (MonadState.get : EStateM ε σ σ) s ok raised := of_ok rfl holds

theorem modify {f : σ → σ} {ok : PUnit → σ → Prop} (holds : ok ⟨⟩ (f s)) :
    Ends (modify f : EStateM ε σ PUnit) s ok raised := of_ok rfl holds

theorem bind {f : α → EStateM ε σ β} {ok : β → σ → Prop} (mid : α → σ → Prop)
    (first : Ends x s mid raised) (rest : ∀ a s', mid a s' → Ends (f a) s' ok raised) :
    Ends (x >>= f) s ok raised := by
  cases run : x s with
  | ok a s' =>
    have after := rest a s' (first.1 a s' run)
    exact ⟨fun b s'' ran => after.1 b s'' ((bind_of_ok run).symm.trans ran),
      fun e s'' ran => after.2 e s'' ((bind_of_ok run).symm.trans ran)⟩
  | error e s' => exact of_error (bind_of_error run) (first.2 e s' run)

theorem bind_get {f : σ → EStateM ε σ α} (rest : Ends (f s) s ok raised) :
    Ends (MonadState.get >>= f) s ok raised :=
  bind (fun a s' => a = s ∧ s' = s) (get ⟨rfl, rfl⟩) fun _ _ same => same.1 ▸ same.2 ▸ rest

theorem tryCatch {handle : ε → EStateM ε σ α} (caught : σ → Prop) (first : Ends x s ok caught)
    (handled : ∀ e s', caught s' → Ends (handle e) s' ok raised) :
    Ends (tryCatch x handle) s ok raised := by
  cases run : x s with
  | ok a s' => exact of_ok (by rw [tryCatch_run, run]) (first.1 a s' run)
  | error e s' =>
    have after := handled e s' (first.2 e s' run)
    have same : MonadExcept.tryCatch x handle s = handle e s' := by rw [tryCatch_run, run]
    exact ⟨fun b s'' ran => after.1 b s'' (same.symm.trans ran),
      fun e s'' ran => after.2 e s'' (same.symm.trans ran)⟩

theorem mapM {f : α → EStateM ε σ β} {I : List α → List β → σ → Prop} {xs : List α}
    (step : ∀ before x after made s, xs = before ++ x :: after → I before made s →
      Ends (f x) s (fun b s' => I (before ++ [x]) (made ++ [b]) s') raised) (holds : I [] [] s) :
    Ends (xs.mapM f) s (fun made s' => I xs made s') raised := by
  suffices loop : ∀ after before made s, xs = before ++ after → I before made s →
      Ends (after.mapM f) s (fun more s' => I xs (made ++ more) s') raised from
    loop xs [] [] s rfl holds
  intro after
  induction after with
  | nil =>
    intro before made s split holds
    rw [List.append_nil] at split
    rw [List.mapM_nil]
    refine pure ?_
    rw [List.append_nil]
    exact split ▸ holds
  | cons x after ih =>
    intro before made s split holds
    rw [List.mapM_cons]
    refine .bind _ (step before x after made s split holds) fun b s' holds => ?_
    refine .bind _ (ih (before ++ [x]) (made ++ [b]) s' (by simp [split]) holds) fun more s'' ended => ?_
    refine pure ?_
    rwa [List.append_assoc] at ended

theorem forM {f : α → EStateM ε σ Unit} {I : List α → σ → Prop} {xs : List α}
    (step : ∀ before x after s, xs = before ++ x :: after → I before s →
      Ends (f x) s (fun _ s' => I (before ++ [x]) s') raised) (holds : I [] s) :
    Ends (xs.forM f) s (fun _ s' => I xs s') raised := by
  suffices loop : ∀ after before s, xs = before ++ after → I before s →
      Ends (after.forM f) s (fun _ s' => I xs s') raised from loop xs [] s rfl holds
  intro after
  induction after with
  | nil =>
    intro before s split holds
    rw [List.append_nil] at split
    exact pure (split ▸ holds)
  | cons x after ih =>
    intro before s split holds
    exact .bind _ (step before x after s split holds) fun _ s' holds =>
      ih (before ++ [x]) s' (by simp [split]) holds

end Ends

end Shared
