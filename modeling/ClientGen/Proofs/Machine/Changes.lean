import ClientGen.Proofs.Machine.Files

/-!
# What changes on a disk

Where work with files may leave a disk other than it was: the files at some places have new bytes, and
directories have come. What else stands on the disk is found by the paths by which it was found before.
-/

namespace ClientGen

open Path

/-! ### Directories that stay -/

namespace Disk

variable {d d' : Disk} {p q : Place} {ss : List String}

/-- Where there is a directory on the one disk, there is one on the other. -/
def KeepsDirectories (d d' : Disk) : Prop :=
  ∀ q, d.at? q = some .directory → d'.at? q = some .directory

/-- A walk that ends goes on to the same place where the directories are kept. -/
lemma KeepsDirectories.walk_ok (h : d.KeepsDirectories d') (walked : d.walk p ss = .ok q) :
    d'.walk p ss = .ok q := by
  induction ss generalizing p with
  | nil => exact walked
  | cons s ss ih =>
    rw [walk] at walked ⊢
    split at walked
    · next at_ =>
      rw [h p at_]
      dsimp only
      split at walked
      · cases walked
      · next short =>
        rw [if_neg short]
        exact ih walked
    · cases walked
    · cases walked

/-- A walk comes upon a name that is too long where it did so before. -/
lemma KeepsDirectories.walk_tooLong (h : d.KeepsDirectories d')
    (walked : d.walk p ss = .error .nameTooLong) : d'.walk p ss = .error .nameTooLong := by
  induction ss generalizing p with
  | nil => cases walked
  | cons s ss ih =>
    rw [walk] at walked ⊢
    split at walked
    · next at_ =>
      rw [h p at_]
      dsimp only
      split at walked
      · next long => rw [if_pos long]
      · next short =>
        rw [if_neg short]
        exact ih walked
    · cases walked
    · cases walked

end Disk

namespace MachineState

variable {s s' s'' : MachineState} {path : String} {places places' : Place → Prop} {q : Place}
  {e : Entry} {bytes : ByteArray}

/-! ### Changes -/

/-- A machine on which files at some places have come or have new bytes, and directories have come. -/
structure Changes (s : MachineState) (places : Place → Prop) (s' : MachineState) : Prop where
  here : s'.here = s.here
  entries : ∀ q, s'.disk.at? q = s.disk.at? q ∨
    s.disk.at? q = none ∧ s'.disk.at? q = some .directory ∨
    places q ∧ s.disk.at? q ≠ some .directory ∧
      ∃ bytes modified, s'.disk.at? q = some (.file bytes modified)

lemma Changes.refl (s : MachineState) : s.Changes places s :=
  ⟨rfl, fun _ => .inl rfl⟩

lemma Changes.mono (h : s.Changes places s') (more : ∀ q, places q → places' q) :
    s.Changes places' s' :=
  ⟨h.here, fun q => (h.entries q).imp_right (Or.imp_right (And.imp_left (more q)))⟩

lemma Changes.trans (h : s.Changes places s') (h' : s'.Changes places s'') :
    s.Changes places s'' := by
  refine ⟨h'.here.trans h.here, fun q => ?_⟩
  rcases h'.entries q with same | ⟨none, new⟩ | ⟨at_, other, file⟩
  · rw [same]
    exact h.entries q
  · rcases h.entries q with same | ⟨-, there⟩ | ⟨-, -, bytes, modified, there⟩
    · exact .inr (.inl ⟨same ▸ none, new⟩)
    · rw [none] at there
      cases there
    · rw [none] at there
      cases there
  · rcases h.entries q with same | ⟨-, there⟩ | ⟨-, before, -⟩
    · exact .inr (.inr ⟨at_, same ▸ other, file⟩)
    · exact absurd there other
    · exact .inr (.inr ⟨at_, before, file⟩)

lemma Grows.changes (h : s.Grows s') : s.Changes places s' :=
  ⟨h.here, fun q => (h.isWithin q).imp_right .inl⟩

lemma Puts.changes (h : s.Puts q bytes s') : s.Changes (· = q) s' := by
  refine ⟨h.here, fun r => ?_⟩
  have root : q ≠ [] := fun root => h.new (root ▸ Disk.at?_root s.disk)
  rw [h.after, Disk.at?_put root]
  split
  · next same => exact .inr (.inr ⟨same, same ▸ h.new, _, _, rfl⟩)
  · exact .inl rfl

section Changes

variable (h : s.Changes places s')

include h

lemma Changes.keepsDirectories : s.disk.KeepsDirectories s'.disk := by
  intro q directory
  rcases h.entries q with same | ⟨none, -⟩ | ⟨-, other, -⟩
  · exact same.trans directory
  · rw [directory] at none
    cases none
  · exact absurd directory other

/-- What stands anywhere else stays. -/
lemma Changes.at?_eq (at_ : s.disk.at? q = some e) (other : ¬places q) :
    s'.disk.at? q = some e := by
  rcases h.entries q with same | ⟨none, -⟩ | ⟨at', -⟩
  · exact same.trans at_
  · rw [at_] at none
    cases none
  · exact absurd at' other

lemma Changes.bytesAt?_eq (other : ¬places q) : s'.disk.bytesAt? q = s.disk.bytesAt? q := by
  unfold Disk.bytesAt?
  rcases h.entries q with same | ⟨none, new⟩ | ⟨at_, -⟩
  · rw [same]
  · rw [none, new]
  · exact absurd at_ other

/-- What is found anywhere else is found as before. -/
lemma Changes.entryOf_ok (found : s.entryOf path = .ok e) (other : ¬places (goal s.here path)) :
    s'.entryOf path = .ok e := by
  obtain ⟨place, led, at_⟩ := entryOf_eq_ok.1 found
  obtain ⟨fits, walked⟩ := placeOf_eq_ok.1 led
  obtain rfl := eq_goal_of_placeOf led
  refine entryOf_eq_ok.2 ⟨_, placeOf_eq_ok.2 ⟨fits, ?_⟩, h.at?_eq at_ other⟩
  rw [h.here]
  exact h.keepsDirectories.walk_ok walked

/-- A path that is too long stays too long. -/
lemma Changes.placeOf_tooLong (long : s.placeOf path = .error .nameTooLong) :
    s'.placeOf path = .error .nameTooLong := by
  unfold MachineState.placeOf at long ⊢
  rw [h.here]
  cases fits : FileFault.ofPath? path with
  | some fault =>
    rw [fits] at long
    exact long
  | none =>
    rw [fits] at long
    exact h.keepsDirectories.walk_tooLong long

end Changes

/-- What stands at another place than the one where something was put is what stood there. -/
lemma Puts.at?_of_ne (h : s.Puts q bytes s') {r : Place} (other : r ≠ q) :
    s'.disk.at? r = s.disk.at? r := by
  have root : q ≠ [] := fun root => h.new (root ▸ Disk.at?_root s.disk)
  rw [h.after, Disk.at?_put root, if_neg other]

/-- What was put where a path leads is found by the path. -/
lemma Puts.entryOf (h : s.Puts q bytes s') (led : s.placeOf path = .ok q) :
    s'.entryOf path = .ok (.file bytes s.clock) := by
  obtain ⟨fits, walked⟩ := placeOf_eq_ok.1 led
  have root : q ≠ [] := fun root => h.new (root ▸ Disk.at?_root s.disk)
  refine entryOf_eq_ok.2 ⟨q, placeOf_eq_ok.2 ⟨fits, ?_⟩, ?_⟩
  · rw [h.here]
    exact h.changes.keepsDirectories.walk_ok walked
  · rw [h.after, Disk.at?_put root, if_pos rfl]

/-- The text of what was put where a path leads, if its bytes are those of one. -/
lemma Puts.textAt (h : s.Puts q bytes s') (led : s.placeOf path = .ok q) {text : String}
    (form : Text.decode bytes = .ok text) :
    s'.textAt path = .ok (String.ofList (Text.universalNewlines text.toList)) := by
  obtain ⟨place, led', at_⟩ := entryOf_eq_ok.1 (h.entryOf led)
  exact textAt_eq_ok.2 ⟨bytes, text, readBytes_eq_ok.2 ⟨place, _, led', at_⟩, form, rfl⟩

/-- Nothing that is found is found by a path with a name that is too long. -/
lemma placeOf_of_entryOf_tooLong {f : FileError} (failed : s.entryOf path = .error f)
    (long : f.fault = .nameTooLong) :
    s.placeOf path = .error .nameTooLong ∧ f = ⟨.nameTooLong, path⟩ := by
  unfold entryOf at failed
  split at failed
  · next fault led =>
    obtain rfl := Except.error.inj failed
    exact ⟨led.trans (congrArg _ long), by rw [← long]⟩
  · split at failed
    · cases failed
    · obtain rfl := Except.error.inj failed
      cases long

lemma entryOf_of_tooLong (long : s.placeOf path = .error .nameTooLong) :
    s.entryOf path = .error ⟨.nameTooLong, path⟩ := by
  unfold entryOf
  rw [long]

/-- The text of a path is that of what is found there. -/
lemma textAt_congr (same : s'.entryOf path = s.entryOf path) : s'.textAt path = s.textAt path := by
  unfold textAt readBytes
  rw [same]

/-- A text that is found anywhere else is found as before. -/
lemma Changes.textAt (h : s.Changes places s') {text : String} (found : s.textAt path = .ok text)
    (other : ¬places (goal s.here path)) : s'.textAt path = .ok text := by
  obtain ⟨bytes, t, read, -⟩ := textAt_eq_ok.1 found
  obtain ⟨place, modified, led, at_⟩ := readBytes_eq_ok.1 read
  have entry := entryOf_eq_ok.2 ⟨place, led, at_⟩
  rw [textAt_congr ((h.entryOf_ok entry other).trans entry.symm), found]

end MachineState

end ClientGen
