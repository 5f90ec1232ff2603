import ClientGen.Proofs.Machine.Changes

/-!
# Making directories

Directories that are made are there, and nothing is made where one is there. How that ends depends on
nothing but the disk and the current directory.
-/

namespace ClientGen

open Path

namespace MachineState

variable {s s' : MachineState} {path : String}

/-- A directory that is made is there. -/
lemma entryOf_makeDirectory (made : (s.makeDirectory path).1 = .ok ()) :
    (s.makeDirectory path).2.entryOf path = .ok .directory := by
  unfold makeDirectory at made ⊢
  split at made
  · cases made
  · next place led =>
    split at made
    · cases made
    · next free =>
      have root : place ≠ [] := fun root => by simp [root, Disk.at?] at free
      obtain ⟨fits, walked⟩ := placeOf_eq_ok.1 led
      have keeps : s.disk.KeepsDirectories (s.disk.put place .directory) := by
        intro q directory
        rw [Disk.at?_put root]
        split
        · rfl
        · exact directory
      refine entryOf_eq_ok.2 ⟨place, placeOf_eq_ok.2 ⟨fits, keeps.walk_ok walked⟩, ?_⟩
      rw [Disk.at?_put root, if_pos rfl]

/-- No directory is made where there is one. -/
lemma makeDirectory_of_directory (there : s.entryOf path = .ok .directory) :
    s.makeDirectory path = (.error ⟨.exists, path⟩, s) := by
  obtain ⟨place, led, at_⟩ := entryOf_eq_ok.1 there
  unfold makeDirectory
  rw [led]
  dsimp only
  rw [at_]

/-! ### The same disk -/

/-- Machines with the same disk and the same current directory. -/
structure SameDisk (s s' : MachineState) : Prop where
  disk : s'.disk = s.disk
  here : s'.here = s.here

lemma SameDisk.placeOf (h : s.SameDisk s') (path : String) : s'.placeOf path = s.placeOf path := by
  rw [MachineState.placeOf, MachineState.placeOf, h.disk, h.here]

lemma SameDisk.entryOf (h : s.SameDisk s') (path : String) : s'.entryOf path = s.entryOf path := by
  rw [MachineState.entryOf, MachineState.entryOf, h.placeOf, h.disk]

lemma SameDisk.makeDirectory (h : s.SameDisk s') (path : String) :
    (s'.makeDirectory path).1 = (s.makeDirectory path).1 ∧
      (s.makeDirectory path).2.SameDisk (s'.makeDirectory path).2 := by
  unfold MachineState.makeDirectory
  rw [h.placeOf, h.disk]
  split
  · exact ⟨rfl, h⟩
  · split
    · exact ⟨rfl, h⟩
    · exact ⟨rfl, rfl, h.here⟩

end MachineState

namespace Machine

open MachineState

variable {ε α β : Type} {s : MachineState} {path : String}

/-- Work to which nothing matters but the disk and the current directory: neither the rest of the machine
nor what was reported before. -/
def IsOfDisk (x : Work (StateM MachineState) ε α) : Prop :=
  ∀ log log' s s', s.SameDisk s' →
    (ran x log' s').1.1 = (ran x log s).1.1 ∧ (ran x log s).2.SameDisk (ran x log' s').2

lemma isOfDisk_pure (a : α) : IsOfDisk (pure a : Work (StateM MachineState) ε α) :=
  fun _ _ _ _ same => ⟨rfl, same⟩

lemma isOfDisk_throw (e : ε) : IsOfDisk (throw e : Work (StateM MachineState) ε α) :=
  fun _ _ _ _ same => ⟨rfl, same⟩

lemma IsOfDisk.bind {x : Work (StateM MachineState) ε α} {f : α → Work (StateM MachineState) ε β}
    (hx : IsOfDisk x) (hf : ∀ a, IsOfDisk (f a)) : IsOfDisk (x >>= f) := by
  intro log log' s s' same
  have step := hx log log' s s' same
  rw [ran_bind, ran_bind]
  revert step
  rcases ran x log s with ⟨⟨_ | a, _⟩, t⟩ <;> rcases ran x log' s' with ⟨⟨_ | a', _⟩, t'⟩
  · rintro ⟨⟨⟩, same⟩
    exact ⟨rfl, same⟩
  · exact fun h => nomatch h.1
  · exact fun h => nomatch h.1
  · rintro ⟨⟨⟩, same⟩
    exact hf a _ _ _ _ same

lemma isOfDisk_makeDirectory (path : String) :
    IsOfDisk (asked (makeDirectory path) : Work (StateM MachineState) ε _) := by
  intro log log' s s' same
  obtain ⟨result, after⟩ := same.makeDirectory path
  exact ⟨congrArg Except.ok result, after⟩

lemma isOfDisk_isDirectory (path : String) :
    IsOfDisk (isDirectory path : Work (StateM MachineState) ε _) := by
  have status : IsOfDisk (asked (status path) : Work (StateM MachineState) ε _) := by
    intro log log' s s' same
    have known : s'.status path = s.status path := by
      rw [MachineState.status, MachineState.status, same.entryOf]
    exact ⟨congrArg Except.ok known, same⟩
  refine .bind (.bind status fun r => ?_) fun _ => isOfDisk_pure _
  cases r <;> exact isOfDisk_pure _

lemma isOfDisk_makeDirectoriesUpTo (height : Nat) (path : String) :
    IsOfDisk (makeDirectoriesUpTo height path) := by
  induction height generalizing path with
  | zero => exact isOfDisk_pure _
  | succ height ih =>
    have there (e : FileError) : IsOfDisk
        (do if !(← isDirectory path) then throw e : Work (StateM MachineState) FileError Unit) := by
      refine .bind (isOfDisk_isDirectory path) fun b => ?_
      cases b
      · exact isOfDisk_throw e
      · exact isOfDisk_pure _
    rw [makeDirectoriesUpTo]
    refine .bind (isOfDisk_makeDirectory path) fun r => ?_
    cases r with
    | ok _ => exact isOfDisk_pure _
    | error e =>
      dsimp only
      split
      · split
        on_goal 1 => refine .bind (isOfDisk_throw e) fun _ => ?_
        all_goals
          refine .bind (ih _) fun _ => .bind (isOfDisk_makeDirectory path) fun r => ?_
          cases r with
          | ok _ => exact isOfDisk_pure _
          | error e =>
            dsimp only
            split
            · exact .bind (isOfDisk_throw e) fun _ => there e
            · exact there e
      · exact there e

lemma isOfDisk_makeDirectories (path : String) : IsOfDisk (makeDirectories path) :=
  isOfDisk_makeDirectoriesUpTo _ path

/-- On a machine with the same disk, the work ends alike. -/
lemma IsOfDisk.onMachine {x : Work (StateM MachineState) ε α} (hx : IsOfDisk x) {s' t : MachineState}
    {r : Except ε α} (run : ClientGen.onMachine x s = (r, t)) (same : s.SameDisk s') :
    ∃ t', ClientGen.onMachine x s' = (r, t') ∧ t.SameDisk t' := by
  obtain ⟨result, after⟩ := hx [] [] s s' same
  rw [ClientGen.onMachine] at run ⊢
  obtain ⟨rfl, rfl⟩ := Prod.mk.inj run
  exact ⟨_, by rw [result], after⟩

/-- Work that does nothing but add directories comes to one machine whatever was reported before. -/
lemma IsOfDisk.ends {x : Work (StateM MachineState) ε α} (hx : IsOfDisk x) {a : α} {t : MachineState}
    (grows : Ends x s (fun _ s' => s.Grows s') fun _ s' => s.Grows s')
    (run : ClientGen.onMachine x s = (.ok a, t)) :
    Ends x s (fun b s' => b = a ∧ s' = t) fun _ _ => False := by
  obtain ⟨d, rfl, -⟩ : s.Grows t := grows.of_ok run
  refine ⟨fun log => ?_⟩
  have grown := grows.behind log
  obtain ⟨result, after⟩ := hx [] log s s ⟨rfl, rfl⟩
  rw [ClientGen.onMachine] at run
  rw [(Prod.mk.inj run).1] at result
  rw [(Prod.mk.inj run).2] at after
  revert grown result after
  rcases ran x log s with ⟨⟨_ | _, _⟩, u⟩
  · exact fun _ failed => nomatch failed
  · rintro ⟨d', rfl, -⟩ same ⟨disk, -⟩
    have disk : d' = d := disk
    exact ⟨Except.ok.inj same, by rw [disk]⟩

/-! ### Directories that are there -/

/-- Directories that are made are there. -/
lemma ends_makeDirectories_there (tree : s.disk.IsTree) (path : String) :
    Ends (makeDirectories path) s (fun _ s' => s.Grows s' ∧ s'.entryOf path = .ok .directory)
      fun _ s' => s.Grows s' := by
  have there (t : MachineState) (grown : s.Grows t) (e : FileError) :
      Ends (do if !(← isDirectory path) then throw e) t
        (fun _ s' => s.Grows s' ∧ s'.entryOf path = .ok .directory)
        fun (_ : FileError) s' => s.Grows s' := by
    refine .bind (ends_isDirectory fun b there _ => ?_)
    cases b
    · exact ends_throw.2 grown
    · exact ends_pure.2 ⟨grown, there rfl⟩
  have made (t : MachineState) (grown : s.Grows t) : s.Grows (t.makeDirectory path).2 ∧
      ((t.makeDirectory path).1 = .ok () → (t.makeDirectory path).2.entryOf path = .ok .directory) :=
    ⟨grown.trans (grows_makeDirectory grown.tree path), entryOf_makeDirectory⟩
  have first := made s (.refl tree)
  rw [makeDirectories, makeDirectoriesUpTo]
  refine .bind (ends_asked.2 ?_)
  rw [run_makeDirectory]
  split
  · next ok => exact ends_pure.2 ⟨first.1, first.2 ok⟩
  · next e _ =>
    split
    · split
      · exact .bind (ends_throw.2 first.1)
      · refine .bind ((ends_makeDirectoriesUpTo _ first.1.tree _).imp (fun _ t grown => ?_)
          fun _ _ => first.1.trans)
        have second := made t (first.1.trans grown)
        refine .bind (ends_asked.2 ?_)
        rw [run_makeDirectory]
        split
        · next ok => exact ends_pure.2 ⟨second.1, second.2 ok⟩
        · next e _ =>
          split
          · exact .bind (ends_throw.2 second.1)
          · exact there _ second.1 e
    · exact there _ first.1 e

/-- Nothing is made where the directory is there. -/
lemma onMachine_makeDirectories (there : s.entryOf path = .ok .directory) :
    onMachine (makeDirectories path) s = (.ok (), s) := by
  refine Ends.onMachine_eq ?_
  rw [makeDirectories, makeDirectoriesUpTo]
  refine .bind (ends_asked.2 ?_)
  rw [run_makeDirectory, makeDirectory_of_directory there]
  refine .bind (ends_isDirectory fun b _ found => ?_)
  rw [found there]
  exact ends_pure.2 ⟨rfl, rfl⟩

end Machine

end ClientGen
