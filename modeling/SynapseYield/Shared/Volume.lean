import Mathlib.Data.List.TakeDrop

set_option autoImplicit false

namespace Shared

-- A file that is replaced by renaming, and the temporary one in the same directory. settled is
-- the target that the directory on the disk names: a rename needs a sync of the directory.
structure Volume (β : Type) where
  temp : Option (List β)
  tempSynced : Bool
  target : Option (List β)
  targetSynced : Bool
  settled : Option (List β)

inductive FileOp (β : Type) where
  | create
  | write (bytes : List β)
  | sync
  | close
  | replace
  | syncDirectory

def FileOp.temporary {β : Type} : FileOp β → Bool
  | .replace => false
  | .syncDirectory => false
  | _ => true

namespace Volume

variable {β : Type}

def apply (volume : Volume β) : FileOp β → Volume β
  | .create => { volume with temp := some [], tempSynced := false }
  | .write bytes => { volume with temp := volume.temp.map (· ++ bytes), tempSynced := false }
  | .sync => { volume with tempSynced := true }
  | .close => volume
  | .replace =>
    { volume with temp := none, target := volume.temp, targetSynced := volume.tempSynced }
  | .syncDirectory => { volume with settled := volume.target }

def run (volume : Volume β) (ops : List (FileOp β)) : Volume β := ops.foldl apply volume

/-- What a crash can leave at the target: the rename may be lost, and of bytes that were never
synced any beginning may be there. -/
def Survives (volume : Volume β) (content : Option (List β)) : Prop :=
  content = volume.settled ∨ content = volume.target ∧ volume.targetSynced = true ∨
    volume.targetSynced = false ∧
      ∃ bytes whole, volume.target = some whole ∧ bytes <+: whole ∧ content = some bytes

structure AtRest (volume : Volume β) : Prop where
  synced : volume.targetSynced = true
  settled : volume.settled = volume.target

def replacing (bytes : List β) : List (FileOp β) :=
  [.create, .write bytes, .sync, .close, .replace, .syncDirectory]

variable {volume : Volume β} {bytes : List β} {content : Option (List β)}

theorem run_replacing (volume : Volume β) (bytes : List β) :
    (volume.run (replacing bytes)).target = some bytes := rfl

theorem survives_synced (synced : volume.targetSynced = true) :
    volume.Survives content ↔ content = volume.settled ∨ content = volume.target := by
  unfold Survives
  simp [synced]

theorem run_temporary {ops : List (FileOp β)} (temporary : ∀ op ∈ ops, op.temporary = true)
    (volume : Volume β) :
    (volume.run ops).target = volume.target ∧
      (volume.run ops).targetSynced = volume.targetSynced ∧
        (volume.run ops).settled = volume.settled := by
  induction ops generalizing volume with
  | nil => exact ⟨rfl, rfl, rfl⟩
  | cons op ops ih =>
    obtain ⟨first, later⟩ := List.forall_mem_cons.mp temporary
    obtain ⟨target, synced, settled⟩ := ih later (volume.apply op)
    cases op with
    | replace => cases first
    | syncDirectory => cases first
    | _ => exact ⟨target, synced, settled⟩

theorem survives_temporary (rest : volume.AtRest) {ops : List (FileOp β)}
    (temporary : ∀ op ∈ ops, op.temporary = true) (survives : (volume.run ops).Survives content) :
    content = volume.target := by
  obtain ⟨target, synced, settled⟩ := run_temporary temporary volume
  rw [survives_synced (synced.trans rest.synced), target, settled, rest.settled] at survives
  exact survives.elim id id

/-- Whatever the operation that a crash comes before, the target is the old one or the new one. -/
theorem survives_replacing (rest : volume.AtRest) (n : Nat)
    (survives : (volume.run ((replacing bytes).take n)).Survives content) :
    content = volume.target ∨ content = some bytes := by
  by_cases early : n < 5
  · have four : ((replacing bytes).take 4).all FileOp.temporary = true := rfl
    have temporary : ∀ op ∈ (replacing bytes).take n, op.temporary = true := fun op member =>
      List.all_eq_true.mp four op
        (List.take_subset_take_left (replacing bytes) (Nat.le_of_lt_succ early) member)
    exact .inl (survives_temporary rest temporary survives)
  · by_cases last : n = 5
    · subst last
      rw [survives_synced rfl] at survives
      exact survives.imp_left (·.trans rest.settled)
    · rw [List.take_of_length_le (by change 6 ≤ n; omega), survives_synced rfl] at survives
      exact .inr (survives.elim id id)

end Volume

end Shared
