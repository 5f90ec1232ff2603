import ClientGen.Proofs.Machine.Disk
import ClientGen.Proofs.Machine.Outcome
import ClientGen.Proofs.Path.Numbers
import ClientGen.Proofs.Text.Kept

/-!
# What work with files does

What it comes to on a machine as a value to look at files, to read and write them, and to make
directories, as long as the disk is a tree.
-/

namespace ClientGen

open Path

namespace MachineState

variable {s : MachineState} {path : String} {place : Place}

/-- The text of a file. -/
def textAt (s : MachineState) (path : String) : Except TextError String :=
  match s.readBytes path with
  | .error e => .error (.file e)
  | .ok bytes =>
    match Text.decode bytes with
    | .ok text => .ok (String.ofList (Text.universalNewlines text.toList))
    | .error e => .error (.encoding e)

lemma placeOf_eq_ok : s.placeOf path = .ok place ↔
    FileFault.ofPath? path = none ∧ s.disk.walk [] (way s.here path) = .ok place := by
  unfold placeOf
  split
  · next fault =>
    simp [fault]
  · next none =>
    simp only [none, true_and]
    rfl

/-- A path leads where its text does. -/
lemma eq_goal_of_placeOf (h : s.placeOf path = .ok place) : place = goal s.here path := by
  unfold goal
  exact Disk.walk_eq_lead (placeOf_eq_ok.1 h).2

lemma entryOf_eq_ok {e : Entry} : s.entryOf path = .ok e ↔
    ∃ place, s.placeOf path = .ok place ∧ s.disk.at? place = some e := by
  unfold entryOf
  split
  · next fault => simp [fault]
  · next place found =>
    simp only [found, Except.ok.injEq]
    split
    · next at_ => simp [at_]
    · next at_ => simp [at_]

/-- What is read is the file where the path leads to. -/
lemma readBytes_eq_ok {bytes : ByteArray} : s.readBytes path = .ok bytes ↔
    ∃ place modified, s.placeOf path = .ok place ∧
      s.disk.at? place = some (.file bytes modified) := by
  unfold readBytes
  split
  · next e failed =>
    constructor
    · nofun
    · rintro ⟨place, modified, found, at_⟩
      rw [entryOf_eq_ok.2 ⟨place, found, at_⟩] at failed
      cases failed
  · next directory =>
    constructor
    · nofun
    · rintro ⟨place, modified, found, at_⟩
      rw [entryOf_eq_ok.2 ⟨place, found, at_⟩] at directory
      cases directory
  · next bytes' modified file =>
    obtain ⟨place, found, at_⟩ := entryOf_eq_ok.1 file
    constructor
    · rintro same
      cases same
      exact ⟨place, modified, found, at_⟩
    · rintro ⟨place', modified', found', at_'⟩
      obtain rfl := Except.ok.inj (found.symm.trans found')
      rw [at_] at at_'
      cases at_'
      rfl

lemma textAt_eq_ok {text : String} : s.textAt path = .ok text ↔
    ∃ bytes t, s.readBytes path = .ok bytes ∧ Text.decode bytes = .ok t ∧
      String.ofList (Text.universalNewlines t.toList) = text := by
  unfold textAt
  split
  · next failed => simp [failed]
  · next bytes read =>
    simp only [read, Except.ok.injEq]
    split
    · next t decoded => simp [decoded]
    · next failed => simp [failed]

/-- A machine whose disk grew by nothing but directories. -/
def Grows (s s' : MachineState) : Prop :=
  ∃ d, s' = { s with disk := d } ∧ s.disk.IsWithin d ∧ d.IsTree

lemma Grows.refl (tree : s.disk.IsTree) : s.Grows s :=
  ⟨s.disk, rfl, .refl _, tree⟩

lemma Grows.here {s' : MachineState} (h : s.Grows s') : s'.here = s.here := by
  obtain ⟨d, rfl, -, -⟩ := h
  rfl

lemma Grows.isWithin {s' : MachineState} (h : s.Grows s') : s.disk.IsWithin s'.disk := by
  obtain ⟨d, rfl, within, -⟩ := h
  exact within

lemma Grows.tree {s' : MachineState} (h : s.Grows s') : s'.disk.IsTree := by
  obtain ⟨d, rfl, -, tree⟩ := h
  exact tree

lemma Grows.trans {s' s'' : MachineState} (h : s.Grows s') (h' : s'.Grows s'') : s.Grows s'' := by
  obtain ⟨d, rfl, within, -⟩ := h
  obtain ⟨d', rfl, within', tree⟩ := h'
  exact ⟨d', rfl, within.trans within', tree⟩

/-- Making a directory adds one or nothing. -/
lemma grows_makeDirectory (tree : s.disk.IsTree) (path : String) :
    s.Grows (s.makeDirectory path).2 := by
  unfold makeDirectory
  split
  · exact .refl tree
  · next place found =>
    split
    · exact .refl tree
    · next free =>
      refine ⟨_, rfl, Disk.isWithin_put_directory free, tree.put ?_ (by simp [free])⟩
      exact tree.above_of_walk (placeOf_eq_ok.1 found).2

/-- A machine on which the file at a place got new bytes. -/
structure Puts (s : MachineState) (place : Place) (bytes : ByteArray) (s' : MachineState) :
    Prop where
  above : ∀ r n, place = r ++ [n] → s.disk.at? r = some .directory
  new : s.disk.at? place ≠ some .directory
  after : s' = { s with disk := s.disk.put place (.file bytes s.clock), clock := s.clock + 1 }

section Puts

variable {s' : MachineState} {bytes : ByteArray} (h : s.Puts place bytes s')

include h

lemma Puts.here : s'.here = s.here := by
  rw [h.after]

lemma Puts.tree (tree : s.disk.IsTree) : s'.disk.IsTree := by
  rw [h.after]
  exact tree.put h.above h.new

lemma Puts.bytesAt? (q : Place) :
    s'.disk.bytesAt? q = if q = place then some bytes else s.disk.bytesAt? q := by
  rw [h.after]
  exact Disk.bytesAt?_put_file fun root => h.new (root ▸ Disk.at?_root s.disk)

end Puts

/-- How writing a file ends: nothing changes, or the file where the path leads to has its bytes. -/
lemma writeBytes_cases (tree : s.disk.IsTree) (path : String) (bytes : ByteArray) :
    (∃ e, s.writeBytes path bytes = (.error e, s)) ∨
      ∃ place s', s.placeOf path = .ok place ∧ s.Puts place bytes s' ∧
        s.writeBytes path bytes = (.ok (), s') := by
  unfold writeBytes
  split
  · exact .inl ⟨_, rfl⟩
  · next place found =>
    split
    · exact .inl ⟨_, rfl⟩
    · next other =>
      exact .inr ⟨place, _, found,
        ⟨tree.above_of_walk (placeOf_eq_ok.1 found).2, fun same => other same, rfl⟩, rfl⟩

end MachineState

namespace Machine

open MachineState

variable {α ε : Type} {s : MachineState} {path : String} {E : FileError → MachineState → Prop}
  {F : TextError → MachineState → Prop} {E' : ε → MachineState → Prop}

lemma run_here (s : MachineState) : (here : StateM MachineState _).run s = (s.here, s) := rfl

lemma run_status (path : String) (s : MachineState) :
    (status path : StateM MachineState _).run s = (s.status path, s) := rfl

lemma run_readBytes (path : String) (s : MachineState) :
    (readBytes path : StateM MachineState _).run s = (s.readBytes path, s) := rfl

lemma run_writeBytes (path : String) (bytes : ByteArray) (s : MachineState) :
    (writeBytes path bytes : StateM MachineState _).run s = s.writeBytes path bytes := rfl

lemma run_makeDirectory (path : String) (s : MachineState) :
    (makeDirectory path : StateM MachineState _).run s = s.makeDirectory path := rfl

lemma run_execute (command : List String) (directory : String) (s : MachineState) :
    (execute command directory : StateM MachineState _).run s = s.execute command directory := rfl

/-- Asking a server leaves the machine as it is. -/
lemma snd_run_fetch (address : String) (s : MachineState) :
    ((fetch address : StateM MachineState _).run s).2 = s := by
  unfold fetch instMachineStateMMachineState
  dsimp only
  rw [StateT.run_bind, StateT.run_get, pure_bind]
  cases s.responses.lookup address <;> rfl

lemma ends_tried {y : StateM MachineState (Except FileError α)} {Q : α → MachineState → Prop}
    (h : match (y.run s).1 with
      | .ok a => Q a (y.run s).2
      | .error e => E e (y.run s).2) : Ends (tried y) s Q E := by
  refine .bind (ends_asked.2 ?_)
  revert h
  rcases (y.run s).1 with e | a
  · exact ends_throw.2
  · exact ends_pure.2

lemma ends_status? {Q : Option Status → MachineState → Prop}
    (h : Q (s.status path).toOption s) : Ends (status? path) s Q E' := by
  refine .bind (ends_asked.2 ?_)
  rw [run_status]
  revert h
  rcases s.status path with e | a
  · exact ends_pure.2
  · exact ends_pure.2

lemma ends_isDirectory {Q : Bool → MachineState → Prop}
    (h : ∀ b, (b = true → s.entryOf path = .ok .directory) →
      (s.entryOf path = .ok .directory → b = true) → Q b s) : Ends (isDirectory path) s Q E' := by
  refine .bind (ends_status? (ends_pure.2 (h _ ?_ ?_)))
  · intro same
    unfold MachineState.status at same
    split at same
    · cases same
    · next directory => exact directory
    · cases same
  · intro directory
    rw [MachineState.status, directory]
    rfl

lemma ends_isThere {Q : Bool → MachineState → Prop} (h : match s.entryOf path with
      | .ok _ => Q true s
      | .error e => if e.fault = .nameTooLong then E e s else Q false s) :
    Ends (isThere path) s Q E := by
  refine .bind (ends_asked.2 ?_)
  rw [run_status]
  unfold MachineState.status
  revert h
  rcases s.entryOf path with e | _ | _
  · dsimp only
    by_cases long : e.fault = .nameTooLong
    · rw [if_pos long, if_pos (by simp [long])]
      exact ends_throw.2
    · rw [if_neg long, if_neg (by simpa using long)]
      exact ends_pure.2
  · exact ends_pure.2
  · exact ends_pure.2

lemma ends_readText {Q : String → MachineState → Prop} (h : match s.textAt path with
      | .ok text => Q text s
      | .error e => F e s) : Ends (readText path) s Q F := by
  refine .bind (.adapt (ends_tried ?_))
  rw [run_readBytes]
  unfold textAt at h
  revert h
  rcases s.readBytes path with e | bytes
  · exact id
  · dsimp only
    rcases Text.decode bytes with e | text
    · exact ends_throw.2
    · exact ends_pure.2

lemma ends_resolved {Q : String → MachineState → Prop} (h : match FileFault.ofWay? path with
      | some fault => E ⟨fault, path⟩ s
      | none => Q (Path.resolve s.here path) s) : Ends (resolved path) s Q E := by
  unfold resolved
  revert h
  rcases FileFault.ofWay? path with _ | fault
  · exact fun h => .bind (ends_asked.2 (ends_pure.2 h))
  · exact fun h => .bind (ends_throw.2 h)

lemma ends_writeText {text : String} {bytes : ByteArray} (form : Text.encode text = .ok bytes)
    {Q : Unit → MachineState → Prop} (h : match s.writeBytes path bytes with
      | (.ok (), s') => Q () s'
      | (.error e, s') => F (.file e) s') : Ends (writeText path text) s Q F := by
  unfold writeText
  rw [form]
  refine .adapt (ends_tried ?_)
  rw [run_writeBytes]
  revert h
  rcases s.writeBytes path bytes with ⟨_ | _, _⟩ <;> exact id

/-- Making directories adds directories and nothing else, however it ends. -/
lemma ends_makeDirectoriesUpTo (height : Nat) (tree : s.disk.IsTree) (path : String) :
    Ends (makeDirectoriesUpTo height path) s (fun _ s' => s.Grows s') fun _ s' => s.Grows s' := by
  induction height generalizing s path with
  | zero => exact ends_pure.2 (.refl tree)
  | succ height ih =>
    have there (t : MachineState) (grown : s.Grows t) (e : FileError) :
        Ends (do if !(← isDirectory path) then throw e) t (fun _ s' => s.Grows s')
          fun (_ : FileError) s' => s.Grows s' := by
      refine .bind (ends_isDirectory fun b _ _ => ?_)
      cases b
      · exact ends_throw.2 grown
      · exact ends_pure.2 grown
    have made := grows_makeDirectory tree path
    rw [makeDirectoriesUpTo]
    refine .bind (ends_asked.2 ?_)
    rw [run_makeDirectory]
    split
    · exact ends_pure.2 made
    · next e _ =>
      split
      · split
        · exact .bind (ends_throw.2 made)
        · refine .bind ((ih made.tree _).imp (fun _ t grown => ?_) fun _ _ => made.trans)
          have grown := made.trans grown
          have made := grown.trans (grows_makeDirectory grown.tree path)
          refine .bind (ends_asked.2 ?_)
          rw [run_makeDirectory]
          split
          · exact ends_pure.2 made
          · next e _ =>
            split
            · exact .bind (ends_throw.2 made)
            · exact there _ made e
      · exact there _ made e

lemma ends_makeDirectories (tree : s.disk.IsTree) (path : String) :
    Ends (makeDirectories path) s (fun _ s' => s.Grows s') fun _ s' => s.Grows s' :=
  ends_makeDirectoriesUpTo _ tree path

/-- Where a file goes under a name: to a path, or below it. -/
def IsCopyOf (here source target : String) (place : Place) : Prop :=
  place = goal here target ∨ place = goal here (Path.below target (Path.lastName source))

/-- Copying a file gives the bytes of the one to the other, or changes nothing. -/
lemma ends_copyFile (tree : s.disk.IsTree) {source target : String} :
    Ends (copyFile source target) s
      (fun _ s' => ∃ place bytes, IsCopyOf s.here source target place ∧
        s.readBytes source = .ok bytes ∧ s.Puts place bytes s')
      fun _ s' => s' = s := by
  have copied (goal : String) (at_ : goal = target ∨ goal = Path.below target (lastName source)) :
      Ends (do tried (writeBytes goal (← tried (readBytes source)))) s
        (fun _ s' => ∃ place bytes, IsCopyOf s.here source target place ∧
          s.readBytes source = .ok bytes ∧ s.Puts place bytes s')
        fun (_ : FileError) s' => s' = s := by
    refine .bind (ends_tried ?_)
    rw [run_readBytes]
    split
    · next bytes read =>
      refine ends_tried ?_
      rw [run_writeBytes]
      obtain ⟨e, failed⟩ | ⟨place, s', found, puts, written⟩ := writeBytes_cases tree goal bytes
      · rw [failed]
      · rw [written]
        refine ⟨place, bytes, ?_, read, puts⟩
        obtain rfl := eq_goal_of_placeOf found
        exact at_.imp (congrArg _) (congrArg _)
    · rfl
  unfold copyFile copyTarget
  refine .bind (.bind (ends_isDirectory fun b _ _ => ?_))
  cases b
  · exact ends_pure.2 (copied _ (.inl rfl))
  · exact ends_pure.2 (copied _ (.inr rfl))

end Machine

end ClientGen
