import ClientGen.Output.Writer
import ClientGen.Proofs.Machine.Files
import ClientGen.Proofs.Output.Manifest

/-!
# What a writer does

How writing a file, loading the manifest and saving it end on a machine as a value, and what each of
them leaves of the disk.
-/

namespace ClientGen.Output

open Machine MachineState Path

namespace Writer

variable {w : Writer} {s s' : MachineState} {path content target key : String}

/-- Where the file of a path stands, for a writer in the directory `here`. -/
def placeOf (w : Writer) (here path : String) : Place :=
  goal here (Path.below w.root path)

/-- Where the copy of a file goes. -/
def copyPath (target : String) : String :=
  Path.withName target (Path.lastName target ++ backupEnding)

/-- A machine on which the copy of a file was made, or none was. -/
def Copies (w : Writer) (target : String) (s s' : MachineState) : Prop :=
  s' = s ∨ w.options.backup = true ∧ ∃ place bytes,
    IsCopyOf s.here target (copyPath target) place ∧ s.readBytes target = .ok bytes ∧
      s.Puts place bytes s'

lemma Copies.tree (h : w.Copies target s s') (tree : s.disk.IsTree) : s'.disk.IsTree := by
  obtain rfl | ⟨-, place, bytes, -, -, puts⟩ := h
  · exact tree
  · exact puts.tree tree

/-- A machine on which a file was replaced: its copy made, its directory made, and its bytes written. -/
def Replaces (w : Writer) (target : String) (bytes : ByteArray) (s s' : MachineState) : Prop :=
  ∃ s₁ s₂ place, w.Copies target s s₁ ∧ s₁.Grows s₂ ∧ s₂.placeOf target = .ok place ∧
    s₂.Puts place bytes s'

/-- A machine on which replacing a file failed before anything was written. -/
def BreaksOff (w : Writer) (target : String) (s s' : MachineState) : Prop :=
  ∃ s₁, w.Copies target s s₁ ∧ s₁.Grows s'

section Replacing

variable {bytes : ByteArray} {s₁ : MachineState}

/-- How putting the text into the file ends, once a copy has been made of what was there. -/
lemma ends_replace_copied (tree : s.disk.IsTree) (form : Text.encode content = .ok bytes)
    (copied : w.Copies target s s₁) :
    Ends (do
      (makeDirectories (Path.parent target)).adapt TextError.file
      writeText target content
      report .debug ("Wrote " ++ key)
      return w.remember key content) s₁
      (fun w' s' => w' = w.remember key content ∧ w.Replaces target bytes s s')
      fun e s' => (∃ f, e = .file f) ∧ w.BreaksOff target s s' := by
  have tree := copied.tree tree
  refine .bind (.adapt ((ends_makeDirectories tree _).imp (fun _ s₂ grown => ?_)
    fun f s₂ grown => ⟨⟨f, rfl⟩, s₁, copied, grown⟩))
  refine .bind (ends_writeText form ?_)
  obtain ⟨e, failed⟩ | ⟨place, s₃, found, puts, written⟩ :=
    writeBytes_cases grown.tree target bytes
  · rw [failed]
    exact ⟨⟨e, rfl⟩, s₁, copied, grown⟩
  · rw [written]
    exact .bind (ends_report.2 (ends_pure.2 ⟨rfl, s₁, s₂, place, copied, grown, found, puts⟩))

/-- How replacing a file ends, once it is known whether there is one. -/
lemma ends_replace_seen (tree : s.disk.IsTree) (form : Text.encode content = .ok bytes)
    (there : Bool) :
    Ends (do
      if w.options.backup && there then
        (copyFile target (copyPath target)).adapt TextError.file
      (makeDirectories (Path.parent target)).adapt TextError.file
      writeText target content
      report .debug ("Wrote " ++ key)
      return w.remember key content) s
      (fun w' s' => w' = w.remember key content ∧ w.Replaces target bytes s s')
      fun e s' => (∃ f, e = .file f) ∧ w.BreaksOff target s s' := by
  split
  · next asked =>
    have backup : w.options.backup = true := (Bool.and_eq_true_iff.1 asked).1
    refine .bind (.adapt ((ends_copyFile tree).imp (fun _ s₁ copied => ?_) ?_))
    · exact ends_replace_copied tree form (.inr ⟨backup, copied⟩)
    · rintro e s₁ rfl
      exact ⟨⟨e, rfl⟩, s₁, .inl rfl, .refl tree⟩
  · exact ends_replace_copied tree form (.inl rfl)

/-- How replacing a file ends. It fails only where the machine does. -/
lemma ends_replace (tree : s.disk.IsTree) (form : Text.encode content = .ok bytes) :
    Ends (w.replace target key content) s
      (fun w' s' => w' = w.remember key content ∧ w.Replaces target bytes s s')
      fun e s' => (∃ f, e = .file f) ∧ w.BreaksOff target s s' := by
  refine .bind (.adapt (ends_isThere ?_))
  split
  · exact ends_replace_seen tree form true
  · next e _ =>
    split
    · exact ⟨⟨e, rfl⟩, s, .inl rfl, .refl tree⟩
    · exact ends_replace_seen tree form false

end Replacing

/-- The file of a path is missing, or it holds another text that was not edited. -/
def MayReplace (w : Writer) (s : MachineState) (target key content : String) : Prop :=
  (∃ e, s.entryOf target = .error e ∧ e.fault ≠ .nameTooLong) ∨
    ∃ existing, s.textAt target = .ok existing ∧ existing ≠ content ∧
      (w.isEdited key existing = false ∨ w.options.force = true)

/-- The key of the file of a path. -/
def keyAt (w : Writer) (here path : String) : String :=
  keyOf here w.root (Path.resolve here (Path.below w.root path))

/-- What comes of writing a file. -/
inductive Written (w : Writer) (s : MachineState) (path content : String) :
    WriteStatus × Writer → MachineState → Prop
  | unchanged : s.textAt (Path.below w.root path) = .ok content →
      Written w s path content (.unchanged, w.adopt (w.keyAt s.here path) content) s
  | conflict {existing : String} : s.textAt (Path.below w.root path) = .ok existing →
      existing ≠ content → w.isEdited (w.keyAt s.here path) existing = true →
      w.options.force = false → Written w s path content (.conflict, w) s
  | announced : w.options.dryRun = true →
      w.MayReplace s (Path.below w.root path) (w.keyAt s.here path) content →
      Written w s path content (.written, w) s
  | replaced {bytes : ByteArray} {s' : MachineState} : w.options.dryRun = false →
      w.MayReplace s (Path.below w.root path) (w.keyAt s.here path) content →
      Text.encode content = .ok bytes → w.Replaces (Path.below w.root path) bytes s s' →
      Written w s path content (.written, w.remember (w.keyAt s.here path) content) s'

/-- How writing a file fails. -/
inductive Fails (w : Writer) (s : MachineState) (path content : String) :
    TextError → MachineState → Prop
  | way {fault : FileFault} : FileFault.ofWay? (Path.below w.root path) = some fault →
      Fails w s path content (.file ⟨fault, Path.below w.root path⟩) s
  | half {h : Text.LoneHalf} : Text.encode content = .error h → Fails w s path content (.half h) s
  | unseen {e : FileError} : s.entryOf (Path.below w.root path) = .error e →
      Fails w s path content (.file e) s
  | unread {e : TextError} : s.textAt (Path.below w.root path) = .error e →
      Fails w s path content e s
  | broken {e : TextError} {s' : MachineState} : w.options.dryRun = false →
      w.MayReplace s (Path.below w.root path) (w.keyAt s.here path) content →
      w.BreaksOff (Path.below w.root path) s s' → Fails w s path content e s'

/-- How writing a file ends that may be replaced. -/
lemma ends_write_free (tree : s.disk.IsTree) {bytes : ByteArray}
    (form : Text.encode content = .ok bytes)
    (free : w.MayReplace s (Path.below w.root path) (w.keyAt s.here path) content) :
    Ends (do
      if w.options.dryRun then
        report .info ("Would write " ++ w.keyAt s.here path)
        return (.written, w)
      return (.written, ← w.replace (Path.below w.root path) (w.keyAt s.here path) content)) s
      (fun r s' => w.Written s path content r s' ∧ ∃ bytes, Text.encode content = .ok bytes)
      (w.Fails s path content) := by
  split
  · next dry =>
    exact .bind (ends_report.2 (ends_pure.2 ⟨.announced dry free, bytes, form⟩))
  · next wet =>
    have wet : w.options.dryRun = false := by simpa using wet
    refine .bind ((ends_replace tree form).imp ?_ fun _ _ h => .broken wet free h.2)
    rintro w' s' ⟨rfl, replaced⟩
    exact ends_pure.2 ⟨.replaced wet free form replaced, bytes, form⟩

/-- How writing a file ends. -/
lemma ends_write (tree : s.disk.IsTree) : Ends (w.write path content) s
    (fun r s' => w.Written s path content r s' ∧ ∃ bytes, Text.encode content = .ok bytes)
    (w.Fails s path content) := by
  unfold write
  refine .bind (.adapt (ends_resolved ?_))
  split
  · next fault found => exact .way found
  refine .bind (ends_asked.2 ?_)
  rw [run_here]
  rcases form : Text.encode content with h | bytes
  · exact .bind (ends_throw.2 (.half form))
  have rest (free : w.MayReplace s (Path.below w.root path) (w.keyAt s.here path) content) :=
    ends_write_free tree form free
  rw [form] at rest
  refine .bind (.adapt (ends_isThere ?_))
  split
  · refine .bind (ends_readText ?_)
    split
    · next existing read =>
      by_cases same : existing = content
      · rw [if_pos (by simpa using same)]
        exact ends_pure.2 ⟨.unchanged (same ▸ read), bytes, rfl⟩
      · rw [if_neg (by simpa using same)]
        split
        · next edited =>
          obtain ⟨edited, gentle⟩ := Bool.and_eq_true_iff.1 edited
          exact .bind (ends_report.2 (ends_pure.2
            ⟨.conflict read same edited (by simpa using gentle), bytes, rfl⟩))
        · next free =>
          rw [Bool.and_eq_true_iff, not_and_or] at free
          exact rest (.inr ⟨existing, read, same, by simpa [keyAt] using free⟩)
    · next e failed => exact .unread failed
  · next e failed =>
    split
    · exact .unseen failed
    · next short => exact rest (.inl ⟨e, failed, short⟩)

/-! ### What stays -/

lemma Copies.here (h : w.Copies target s s') : s'.here = s.here := by
  obtain rfl | ⟨-, place, bytes, -, -, puts⟩ := h
  · rfl
  · exact puts.here

/-- A place that may hold the copy of a file. -/
def HoldsCopy (w : Writer) (target : String) (s : MachineState) (place : Place) : Prop :=
  w.options.backup = true ∧ IsCopyOf s.here target (copyPath target) place ∧
    ∃ bytes, s.readBytes target = .ok bytes

lemma Copies.bytesAt? (h : w.Copies target s s') (q : Place) :
    s'.disk.bytesAt? q = s.disk.bytesAt? q ∨ w.HoldsCopy target s q := by
  obtain rfl | ⟨backup, place, bytes, copy, read, puts⟩ := h
  · exact .inl rfl
  · rw [puts.bytesAt?]
    split
    · next same => exact .inr ⟨backup, same ▸ copy, bytes, read⟩
    · exact .inl rfl

lemma BreaksOff.tree (h : w.BreaksOff target s s') : s'.disk.IsTree := by
  obtain ⟨s₁, -, grown⟩ := h
  exact grown.tree

lemma BreaksOff.bytesAt? (h : w.BreaksOff target s s') (q : Place) :
    s'.disk.bytesAt? q = s.disk.bytesAt? q ∨ w.HoldsCopy target s q := by
  obtain ⟨s₁, copied, grown⟩ := h
  rw [grown.isWithin.bytesAt?]
  exact copied.bytesAt? q

lemma Replaces.tree {bytes : ByteArray} (h : w.Replaces target bytes s s') : s'.disk.IsTree := by
  obtain ⟨s₁, s₂, place, -, grown, -, puts⟩ := h
  exact puts.tree grown.tree

lemma Replaces.bytesAt? {bytes : ByteArray} (h : w.Replaces target bytes s s') (q : Place) :
    s'.disk.bytesAt? q = s.disk.bytesAt? q ∨ q = goal s.here target ∨ w.HoldsCopy target s q := by
  obtain ⟨s₁, s₂, place, copied, grown, found, puts⟩ := h
  rw [puts.bytesAt?]
  split
  · next same =>
    rw [eq_goal_of_placeOf found, grown.here, copied.here] at same
    exact .inr (.inl same)
  · rw [grown.isWithin.bytesAt?]
    exact (copied.bytesAt? q).imp_right .inr

/-- The file that is replaced has its bytes, whatever was copied before. -/
lemma Replaces.bytesAt?_goal {bytes : ByteArray} (h : w.Replaces target bytes s s') :
    s'.disk.bytesAt? (goal s.here target) = some bytes := by
  obtain ⟨s₁, s₂, place, copied, grown, found, puts⟩ := h
  rw [puts.bytesAt?, if_pos]
  rw [eq_goal_of_placeOf found, grown.here, copied.here]

lemma Replaces.here {bytes : ByteArray} (h : w.Replaces target bytes s s') : s'.here = s.here := by
  obtain ⟨s₁, s₂, place, copied, grown, -, puts⟩ := h
  rw [puts.here, grown.here, copied.here]

lemma Replaces.ofPath? {bytes : ByteArray} (h : w.Replaces target bytes s s') :
    FileFault.ofPath? target = none := by
  obtain ⟨s₁, s₂, place, -, -, found, -⟩ := h
  exact (placeOf_eq_ok.1 found).1

/-- Nothing stands where a path without two dots leads to, if nothing is found there. -/
lemma at?_goal_of_missing (tree : s.disk.IsTree) (fits : FileFault.ofPath? target = none)
    (dots : ".." ∉ way s.here target) {e : FileError} (missing : s.entryOf target = .error e)
    (short : e.fault ≠ .nameTooLong) : s.disk.at? (goal s.here target) = none := by
  by_contra some
  have place : goal s.here target = [] ++ way s.here target := by
    unfold goal
    exact lead_of_notMem dots
  obtain walked | long := tree.walk_of_at? dots (place ▸ some)
  · obtain ⟨entry, at_⟩ := Option.ne_none_iff_exists'.1 some
    rw [entryOf_eq_ok.2 ⟨_, placeOf_eq_ok.2 ⟨fits, walked⟩, place ▸ at_⟩] at missing
    cases missing
  · have fault : s.placeOf target = .error .nameTooLong := by
      unfold MachineState.placeOf
      rw [fits]
      exact long
    unfold entryOf at missing
    rw [fault] at missing
    cases missing
    exact short rfl

/-! ### The manifest -/

/-- The manifest that is kept for a directory: the one in its file, if that can be read. -/
def storedAt (d : Disk) (base : Place) : Manifest :=
  match d.bytesAt? (base ++ [Manifest.fileName]) with
  | none => []
  | some bytes =>
    match Text.decode bytes with
    | .error _ => []
    | .ok text =>
      match Manifest.read (String.ofList (Text.universalNewlines text.toList)) with
      | .ok manifest => manifest
      | .error _ => []

lemma isSegment_fileName : IsSegment Manifest.fileName :=
  ⟨by decide, by decide, by decide⟩

lemma goal_manifestPath (here root : String) :
    goal here (manifestPath root) = goal here root ++ [Manifest.fileName] :=
  goal_below here isSegment_fileName (by decide)

lemma storedAt_congr {d d' : Disk} {base : Place}
    (h : d'.bytesAt? (base ++ [Manifest.fileName]) = d.bytesAt? (base ++ [Manifest.fileName])) :
    storedAt d' base = storedAt d base := by
  unfold storedAt
  rw [h]

/-- Nothing is stored on a disk without a file of that name. -/
lemma storedAt_of_names {d : Disk} {base : Place}
    (h : ∀ e ∈ d.entries, e.1.getLast? ≠ some Manifest.fileName) : storedAt d base = [] := by
  have none : d.at? (base ++ [Manifest.fileName]) = none := by
    rw [Disk.at?, if_neg (by simp), List.lookup_eq_none_iff]
    intro e he
    rw [bne_iff_ne]
    intro same
    exact h e he (by rw [← same, List.getLast?_concat])
  rw [storedAt, Disk.bytesAt?, none]

/-- The name of a copy is a name. -/
lemma isSegment_copyName (target : String) : IsSegment (Path.lastName target ++ backupEnding) := by
  have size : 4 ≤ (Path.lastName target ++ backupEnding).toList.length := by
    simp [backupEnding]
  refine ⟨fun h => ?_, fun h => ?_, ?_⟩
  · simp [h] at size
  · simp [h] at size
  · rw [String.toList_append, List.mem_append, not_or]
    refine ⟨?_, by decide⟩
    unfold Path.lastName
    rcases last : (segments target).getLast? with _ | name
    · simp
    · exact (isSegment_of_mem (List.mem_of_getLast? last)).noSlash

lemma copyName_ne {name : String} (h : name.toList.getLast? ≠ some 'k') :
    Path.lastName target ++ backupEnding ≠ name := by
  rintro rfl
  exact h (by simp [backupEnding])

/-- A copy is not where a manifest is kept, unless the file itself is. -/
lemma HoldsCopy.ne_manifest {q base : Place} (h : w.HoldsCopy target s q) (tree : s.disk.IsTree)
    (own : ∀ base, goal s.here target ≠ base ++ [Manifest.fileName]) :
    q ≠ base ++ [Manifest.fileName] := by
  obtain ⟨-, copy, bytes, read⟩ := h
  have first : goal s.here (copyPath target) =
      goal s.here (Path.parent target) ++ [Path.lastName target ++ backupEnding] := by
    rw [copyPath, Path.withName]
    exact goal_below s.here (isSegment_copyName target) (copyName_ne (by decide))
  have differs : goal s.here (copyPath target) ≠ base ++ [Manifest.fileName] := by
    rw [first]
    intro same
    have names := (List.append_inj' same rfl).2
    exact copyName_ne (by decide) (List.singleton_inj.1 names)
  rcases copy with copy | copy <;> rw [copy]
  · exact differs
  · by_cases none : segments target = []
    · have name : Path.lastName target = "" := by simp [Path.lastName, none]
      have same : way s.here (Path.below (copyPath target) "") = way s.here (copyPath target) := by
        rw [way_below_of_relative s.here (by decide), segments_empty, List.append_nil]
      unfold goal at differs ⊢
      rwa [name, same]
    · have parts : segments target = (segments target).dropLast ++ [Path.lastName target] := by
        rw [Path.lastName, List.getLast?_eq_some_getLast none, Option.getD_some,
          List.dropLast_append_getLast]
      have isName : IsSegment (Path.lastName target) := isSegment_of_mem (p := target) (by
        rw [parts]
        simp)
      have other : Path.lastName target ≠ ".." := by
        intro dots
        obtain ⟨place, modified, found, at_⟩ := readBytes_eq_ok.1 read
        obtain ⟨front, form⟩ := exists_way s.here target
        have walked := (placeOf_eq_ok.1 found).2
        rw [form, parts, dots, ← List.append_assoc] at walked
        rw [tree.directory_of_walk_dots walked] at at_
        cases at_
      rw [goal_below s.here isName other]
      intro same
      obtain ⟨before, form⟩ := exists_goal s.here none other
      rw [List.singleton_inj.1 (List.append_inj' same rfl).2] at form
      exact own before form

/-- The bytes of a manifest are those of a text that is read back. -/
lemma storedAt_of_text {d : Disk} {base : Place} {m : Manifest} (whole : m.IsWhole)
    (h : d.bytesAt? (base ++ [Manifest.fileName]) = some m.text.toUTF8) :
    storedAt d base = m.sorted := by
  unfold storedAt
  simp only [h, Manifest.decode_text whole, Manifest.universalNewlines_text whole,
    Manifest.read_text whole]

/-- What is found where a manifest is kept lies in its own place. -/
lemma place_of_entryOf_manifest {root : String} {entry : Entry}
    (found : s.entryOf (manifestPath root) = .ok entry) :
    s.placeOf (manifestPath root) = .ok (goal s.here root ++ [Manifest.fileName]) ∧
      s.disk.at? (goal s.here root ++ [Manifest.fileName]) = some entry := by
  obtain ⟨place, found, at_⟩ := entryOf_eq_ok.1 found
  obtain rfl : place = goal s.here root ++ [Manifest.fileName] :=
    (eq_goal_of_placeOf found).trans (goal_manifestPath s.here root)
  exact ⟨found, at_⟩

/-- A text that is read where the manifest is kept is the one that the manifest is read from. -/
lemma storedAt_of_textAt {root text : String} {entry : Entry}
    (found : s.entryOf (manifestPath root) = .ok entry)
    (read : s.textAt (manifestPath root) = .ok text) :
    storedAt s.disk (goal s.here root) =
      match Manifest.read text with
      | .ok manifest => manifest
      | .error _ => [] := by
  obtain ⟨placed, -⟩ := place_of_entryOf_manifest found
  obtain ⟨bytes, t, taken, decoded, rfl⟩ := textAt_eq_ok.1 read
  obtain ⟨place, modified, found', at_⟩ := readBytes_eq_ok.1 taken
  obtain rfl := Except.ok.inj (placed.symm.trans found')
  have stored : s.disk.bytesAt? (goal s.here root ++ [Manifest.fileName]) = some bytes := by
    rw [Disk.bytesAt?, at_]
  simp only [storedAt, stored, decoded]

/-- What is there and not read as a file is a directory, which holds no manifest. -/
lemma storedAt_of_unreadable {root : String} {entry : Entry} {e : FileError}
    (found : s.entryOf (manifestPath root) = .ok entry)
    (failed : s.textAt (manifestPath root) = .error (.file e)) :
    storedAt s.disk (goal s.here root) = [] := by
  obtain ⟨placed, at_⟩ := place_of_entryOf_manifest found
  have none : s.disk.bytesAt? (goal s.here root ++ [Manifest.fileName]) = none := by
    rcases entry with _ | ⟨bytes, modified⟩
    · rw [Disk.bytesAt?, at_]
    · unfold textAt at failed
      rw [readBytes_eq_ok.2 ⟨_, modified, placed, at_⟩] at failed
      dsimp only at failed
      split at failed <;> cases failed
  rw [storedAt, none]

/-- The manifest that is loaded is the one that is kept, or nothing is found at its path. -/
lemma ends_loadManifest (root : String) : Ends (loadManifest root) s
    (fun m s' => s' = s ∧ (m = storedAt s.disk (goal s.here root) ∨
      m = [] ∧ ∃ e, s.entryOf (manifestPath root) = .error e ∧ e.fault ≠ .nameTooLong))
    fun _ s' => s' = s := by
  refine .bind (.adapt (ends_isThere ?_))
  split
  · next entry found =>
    refine .bind (.attempt (ends_readText ?_))
    split
    · next text read =>
      have value := storedAt_of_textAt found read
      dsimp only
      split
      · next manifest form =>
        rw [form] at value
        exact ends_pure.2 ⟨rfl, .inl value.symm⟩
      · exact ends_throw.2 rfl
      · next form =>
        rw [form] at value
        exact .bind (ends_report.2 (ends_pure.2 ⟨rfl, .inl value.symm⟩))
    · next e failed =>
      rcases e with e | _ | _ | _
      · have value := storedAt_of_unreadable found failed
        exact .bind (ends_report.2 (ends_pure.2 ⟨rfl, .inl value.symm⟩))
      all_goals exact ends_throw.2 rfl
  · next e missing =>
    split
    · rfl
    · next short => exact ends_pure.2 ⟨rfl, .inr ⟨rfl, e, missing, short⟩⟩

lemma ends_open (root : String) (options : WriteOptions) : Ends (open_ root options) s
    (fun w' s' => s' = s ∧ ∃ m, w' = { root, options, manifest := m } ∧
      (m = storedAt s.disk (goal s.here root) ∨
        m = [] ∧ ∃ e, s.entryOf (manifestPath root) = .error e ∧ e.fault ≠ .nameTooLong))
    fun _ s' => s' = s :=
  .bind ((ends_loadManifest root).imp
    (fun m _ h => ends_pure.2 ⟨h.1, m, rfl, h.2⟩) fun _ _ => id)

/-- How saving the manifest ends: it was not to be written, or its file has its text. -/
lemma ends_saveManifest (tree : s.disk.IsTree) (whole : w.manifest.IsWhole) :
    Ends w.saveManifest s
      (fun w' s' => (w' = w ∧ s' = s ∧ (w.options.dryRun = true ∨ w.dirty = false)) ∨
        w' = { w with dirty := false } ∧ ∃ s₁, s.Grows s₁ ∧
          s₁.placeOf (manifestPath w.root) = .ok (goal s.here w.root ++ [Manifest.fileName]) ∧
          s₁.Puts (goal s.here w.root ++ [Manifest.fileName]) w.manifest.text.toUTF8 s')
      fun _ s' => s.Grows s' := by
  have form := Manifest.encode_text whole
  generalize w.manifest.text.toUTF8 = bytes at form ⊢
  have file := goal_manifestPath s.here w.root
  unfold saveManifest
  generalize manifestPath w.root = path at file ⊢
  split
  · next idle =>
    rw [Bool.or_eq_true, Bool.not_eq_true'] at idle
    exact ends_pure.2 (.inl ⟨rfl, rfl, idle⟩)
  · refine .bind (.adapt ((ends_makeDirectories tree _).imp (fun _ s₁ grown => ?_)
      fun _ _ => id))
    refine .bind (ends_writeText form ?_)
    obtain ⟨e, failed⟩ | ⟨place, s₂, found, puts, written⟩ :=
      writeBytes_cases grown.tree path bytes
    · rw [failed]
      exact grown
    · rw [written]
      have at_ := eq_goal_of_placeOf found
      rw [grown.here, file] at at_
      exact ends_pure.2 (.inr ⟨rfl, s₁, grown, at_ ▸ found, at_ ▸ puts⟩)

end Writer

end ClientGen.Output
