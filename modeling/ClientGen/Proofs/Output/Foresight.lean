import ClientGen.Plan
import ClientGen.Proofs.Machine.Changes
import ClientGen.Proofs.Output.Remembering

/-!
# What a writer foresees

What becomes of a file is settled before anything is written. It depends on what is found at the path
of the file and on what the manifest has for its key, so it stays as it is while other files are
written.
-/

namespace ClientGen.Output

namespace Writer

/-! ### Sessions -/

section Sessions

variable {m : Type → Type} [Monad m] [Machine m] {ε : Type}

/-- The writer to go on with when a file was written or was not. -/
def after (w : Writer) : Except TextError (WriteStatus × Writer) → Writer
  | .ok (_, w') => w'
  | .error _ => w

/-- Write some files one after another, with what became of each of them. One that fails does not keep
the next ones from being written. -/
def writeEach : Writer → List GeneratedFile →
    Work m ε (List (Except TextError WriteStatus) × Writer)
  | w, [] => return ([], w)
  | w, file :: rest => do
    let result ← attempt (w.write file.path file.content)
    let (results, w) ← writeEach (w.after result) rest
    return (result.map Prod.fst :: results, w)

/-- A session of writing: load the manifest of a directory, write some files, and keep the manifest. -/
def session (root : String) (options : WriteOptions) (files : List GeneratedFile) :
    Work m TextError (List (Except TextError WriteStatus)) := do
  let w ← open_ root options
  let (results, w) ← writeEach w files
  let _ ← w.saveManifest
  return results

end Sessions

open Machine MachineState Path

variable {w w' : Writer} {s s' : MachineState} {path content target key : String}
  {file : GeneratedFile} {files : List GeneratedFile}

/-! ### The manifest -/

/-- The manifest that is loaded for a directory, or why none is. -/
@[irreducible] def loaded (s : MachineState) (root : String) : Except TextError Manifest :=
  match s.entryOf (manifestPath root) with
  | .error e => if e.fault = .nameTooLong then .error (.file e) else .ok []
  | .ok _ =>
    match s.textAt (manifestPath root) with
    | .error (.file _) => .ok []
    | .error e => .error e
    | .ok text =>
      match Manifest.read text with
      | .ok manifest => .ok manifest
      | .error (.digits f) => .error (.digits f)
      | .error (.malformed _) => .ok []

/-- A manifest that is loaded can be kept. -/
lemma isWhole_of_loaded {root : String} {m : Manifest} (h : loaded s root = .ok m) : m.IsWhole := by
  have nil : Manifest.IsWhole [] := Manifest.isSound_nil.isWhole
  unfold loaded at h
  split at h
  · split at h
    · cases h
    · obtain rfl := Except.ok.inj h
      exact nil
  split at h
  · obtain rfl := Except.ok.inj h
    exact nil
  · cases h
  next text read =>
  obtain ⟨bytes, t, -, form, rfl⟩ := textAt_eq_ok.1 read
  split at h
  · next manifest value =>
    obtain rfl := Except.ok.inj h
    refine Manifest.isWhole_of_read value ?_
    rw [String.toList_ofList]
    exact Text.hasNoHalf_universalNewlines (Text.hasNoHalf_of_decode form)
  · cases h
  · obtain rfl := Except.ok.inj h
    exact nil

/-- A manifest is loaded from its text. -/
lemma loaded_of_text {root : String} {m : Manifest} {e : Entry} (whole : m.IsWhole)
    (found : s.entryOf (manifestPath root) = .ok e)
    (read : s.textAt (manifestPath root) = .ok m.text) : loaded s root = .ok m.sorted := by
  unfold loaded
  simp only [found, read, Manifest.read_text whole]

/-- A writer is opened with the manifest that is loaded. -/
lemma ends_open_loaded {root : String} {options : WriteOptions} {Q : Writer → MachineState → Prop}
    {E : TextError → MachineState → Prop} (h : match loaded s root with
      | .ok manifest => Q { root, options, manifest } s
      | .error e => E e s) : Ends (open_ root options) s Q E := by
  unfold loaded at h
  refine .bind (.bind (.adapt (ends_isThere ?_)))
  revert h
  cases s.entryOf (manifestPath root) with
  | error e =>
    dsimp only
    by_cases long : e.fault = .nameTooLong
    · rw [if_pos long, if_pos long]
      exact id
    · rw [if_neg long, if_neg long]
      exact fun h => ends_pure.2 (ends_pure.2 h)
  | ok entry =>
  intro h
  refine .bind (.attempt (ends_readText ?_))
  revert h
  cases s.textAt (manifestPath root) with
  | error e =>
    cases e with
    | file e => exact fun h => .bind (ends_report.2 (ends_pure.2 (ends_pure.2 h)))
    | encoding e => exact ends_throw.2
    | half h => exact ends_throw.2
    | digits f => exact ends_throw.2
  | ok text =>
    dsimp only
    cases Manifest.read text with
    | ok manifest => exact fun h => ends_pure.2 (ends_pure.2 h)
    | error e =>
      cases e with
      | digits f => exact ends_throw.2
      | malformed message => exact fun h => .bind (ends_report.2 (ends_pure.2 (ends_pure.2 h)))

/-- A manifest that is not to be kept, or is kept already, is left alone. -/
lemma ends_saveManifest_idle {Q : Writer → MachineState → Prop} {E : TextError → MachineState → Prop}
    (idle : w.options.dryRun = true ∨ w.dirty = false) (h : Q w s) : Ends w.saveManifest s Q E := by
  unfold saveManifest
  rw [if_pos (by simpa using idle)]
  exact ends_pure.2 h

/-! ### One file -/

/-- What becomes of a file, as far as it is seen before anything is written. -/
@[irreducible] def foresee (w : Writer) (s : MachineState) (path content : String) :
    Except TextError WriteStatus :=
  match FileFault.ofWay? (Path.below w.root path) with
  | some fault => .error (.file ⟨fault, Path.below w.root path⟩)
  | none =>
    match Text.encode content with
    | .error h => .error (.half h)
    | .ok _ =>
      match s.entryOf (Path.below w.root path) with
      | .error e => if e.fault = .nameTooLong then .error (.file e) else .ok .written
      | .ok _ =>
        match s.textAt (Path.below w.root path) with
        | .error e => .error e
        | .ok existing =>
          if existing = content then .ok .unchanged
          else if w.isEdited (w.keyAt s.here path) existing ∧ w.options.force = false then
            .ok .conflict
          else .ok .written

/-- What is asked of the end of writing a file is met if it ends as it is foreseen. -/
@[irreducible] def Meets (w : Writer) (s : MachineState) (path content : String)
    (Q : WriteStatus × Writer → MachineState → Prop) (E : TextError → MachineState → Prop) :
    Except TextError WriteStatus → Prop
  | .error e => E e s
  | .ok .unchanged => Q (.unchanged, w.adopt (w.keyAt s.here path) content) s
  | .ok .conflict => Q (.conflict, w) s
  | .ok .written => if w.options.dryRun then Q (.written, w) s else
      Ends (w.replace (Path.below w.root path) (w.keyAt s.here path) content) s
        (fun w' => Q (.written, w')) E

section Meets

variable {Q : WriteStatus × Writer → MachineState → Prop} {E : TextError → MachineState → Prop}

lemma meets_error {e : TextError} : w.Meets s path content Q E (.error e) ↔ E e s := by
  rw [Meets]

lemma meets_unchanged : w.Meets s path content Q E (.ok .unchanged) ↔
    Q (.unchanged, w.adopt (w.keyAt s.here path) content) s := by
  rw [Meets]

lemma meets_conflict :
    w.Meets s path content Q E (.ok .conflict) ↔ Q (.conflict, w) s := by
  rw [Meets]

lemma meets_written : w.Meets s path content Q E (.ok .written) ↔
    if w.options.dryRun then Q (.written, w) s else
      Ends (w.replace (Path.below w.root path) (w.keyAt s.here path) content) s
        (fun w' => Q (.written, w')) E := by
  rw [Meets]

end Meets

/-- What is left once nothing speaks against writing a file. -/
lemma ends_write_rest {Q : WriteStatus × Writer → MachineState → Prop}
    {E : TextError → MachineState → Prop} (h : w.Meets s path content Q E (.ok .written)) :
    Ends (do
      if w.options.dryRun then
        report .info ("Would write " ++ w.keyAt s.here path)
        return (.written, w)
      return (.written, ← w.replace (Path.below w.root path) (w.keyAt s.here path) content))
      s Q E := by
  rw [meets_written] at h
  split
  · next dry =>
    rw [if_pos dry] at h
    exact .bind (ends_report.2 (ends_pure.2 h))
  · next wet =>
    rw [if_neg wet] at h
    exact .bind (h.imp (fun _ _ => ends_pure.2) fun _ _ => id)

/-- Writing a file ends as it is foreseen, unless putting its text there fails. -/
lemma ends_write_foreseen {Q : WriteStatus × Writer → MachineState → Prop}
    {E : TextError → MachineState → Prop}
    (h : w.Meets s path content Q E (w.foresee s path content)) :
    Ends (w.write path content) s Q E := by
  unfold foresee at h
  unfold write
  refine .bind (.adapt (ends_resolved ?_))
  revert h
  cases FileFault.ofWay? (Path.below w.root path) with
  | some fault => exact meets_error.1
  | none =>
  intro h
  refine .bind (ends_asked.2 ?_)
  rw [run_here]
  revert h
  cases Text.encode content with
  | error half => exact fun h => .bind (ends_throw.2 (meets_error.1 h))
  | ok bytes =>
  intro h
  refine .bind (.adapt (ends_isThere ?_))
  revert h
  cases s.entryOf (Path.below w.root path) with
  | error e =>
    dsimp only
    by_cases long : e.fault = .nameTooLong
    · rw [if_pos long, if_pos long]
      exact meets_error.1
    · rw [if_neg long, if_neg long]
      exact ends_write_rest
  | ok entry =>
  intro h
  refine .bind (ends_readText ?_)
  revert h
  cases s.textAt (Path.below w.root path) with
  | error e => exact meets_error.1
  | ok existing =>
  dsimp only
  by_cases same : existing = content
  · have same' : (existing == content) = true := by simpa using same
    rw [if_pos same, if_pos same']
    exact fun h => ends_pure.2 (meets_unchanged.1 h)
  have differs : ¬(existing == content) = true := by simpa using same
  rw [if_neg same, if_neg differs]
  have key : keyOf s.here w.root (Path.resolve s.here (Path.below w.root path)) =
      w.keyAt s.here path := rfl
  have edited : (w.isEdited (w.keyAt s.here path) existing && !w.options.force) = true ↔
      w.isEdited (w.keyAt s.here path) existing ∧ w.options.force = false := by simp
  simp only [key, edited]
  split
  · exact fun h => .bind (ends_report.2 (ends_pure.2 (meets_conflict.1 h)))
  · exact ends_write_rest

@[simp] lemma adopt_root (w : Writer) (key content : String) :
    (w.adopt key content).root = w.root := by
  obtain same | same := adopt_cases w key content <;> exact (congrArg Writer.root same).trans rfl

@[simp] lemma adopt_options (w : Writer) (key content : String) :
    (w.adopt key content).options = w.options := by
  obtain same | same := adopt_cases w key content <;> exact (congrArg Writer.options same).trans rfl

/-- What is foreseen is an error of the machine, or that the text has no form in UTF-8, or else
something is found at the path, or the file is to be written. -/
lemma foresee_cases (w : Writer) (s : MachineState) (path content : String) :
    (∃ e, w.foresee s path content = .error (.file e)) ∨
      (∃ h, w.foresee s path content = .error (.half h) ∧ Text.encode content = .error h) ∨
      FileFault.ofWay? (Path.below w.root path) = none ∧
        (∃ bytes, Text.encode content = .ok bytes) ∧
        (w.foresee s path content = .ok .written ∨
          ∃ e, s.entryOf (Path.below w.root path) = .ok e) := by
  unfold foresee
  split
  · exact .inl ⟨_, rfl⟩
  next way =>
  split
  · next h form => exact .inr (.inl ⟨h, rfl, form⟩)
  next bytes form =>
  split
  · split
    · exact .inl ⟨_, rfl⟩
    · exact .inr (.inr ⟨way, ⟨bytes, form⟩, .inl rfl⟩)
  · next e found => exact .inr (.inr ⟨way, ⟨bytes, form⟩, .inr ⟨e, found⟩⟩)

/-- A text that is not refused has a form in UTF-8. -/
lemma exists_encode_of_foresee {r : WriteStatus} (seen : w.foresee s path content = .ok r) :
    ∃ bytes, Text.encode content = .ok bytes := by
  obtain ⟨e, failed⟩ | ⟨h, failed, -⟩ | ⟨-, form, -⟩ := w.foresee_cases s path content
  · rw [seen] at failed
    cases failed
  · rw [seen] at failed
    cases failed
  · exact form

/-- A file that has its text already is left alone. -/
lemma foresee_of_textAt {bytes : ByteArray} {e : Entry}
    (way : FileFault.ofWay? (Path.below w.root path) = none) (form : Text.encode content = .ok bytes)
    (found : s.entryOf (Path.below w.root path) = .ok e)
    (read : s.textAt (Path.below w.root path) = .ok content) :
    w.foresee s path content = .ok .unchanged := by
  unfold foresee
  simp only [way, form, found, read, if_true]

/-- A file that is left alone is found, and has its text. -/
lemma unchanged_of_foresee (seen : w.foresee s path content = .ok .unchanged) :
    FileFault.ofWay? (Path.below w.root path) = none ∧
      (∃ e, s.entryOf (Path.below w.root path) = .ok e) ∧
      s.textAt (Path.below w.root path) = .ok content := by
  unfold foresee at seen
  split at seen
  · cases seen
  next way =>
  split at seen
  · cases seen
  split at seen
  · split at seen <;> cases seen
  next e found =>
  split at seen
  · cases seen
  next existing read =>
  split at seen
  · next same => exact ⟨way, ⟨e, found⟩, same ▸ read⟩
  · split at seen <;> cases seen

/-- The same is foreseen where the same is found at the path, or nothing is, and the manifest has the
same for the key. -/
lemma foresee_congr (root : w'.root = w.root) (force : w'.options.force = w.options.force)
    (here : s'.here = s.here)
    (lookup : w'.manifest.lookup (w.keyAt s.here path) = w.manifest.lookup (w.keyAt s.here path))
    (same : s'.entryOf (Path.below w.root path) = s.entryOf (Path.below w.root path) ∨
      ∃ e e', s.entryOf (Path.below w.root path) = .error e ∧ e.fault ≠ .nameTooLong ∧
        s'.entryOf (Path.below w.root path) = .error e' ∧ e'.fault ≠ .nameTooLong) :
    w'.foresee s' path content = w.foresee s path content := by
  have key : w'.keyAt s'.here path = w.keyAt s.here path := by
    unfold Writer.keyAt
    rw [root, here]
  have edited (existing : String) : w'.isEdited (w'.keyAt s'.here path) existing =
      w.isEdited (w.keyAt s.here path) existing := by
    rw [key, Writer.isEdited, Writer.isEdited, lookup]
  unfold Writer.foresee
  obtain same | ⟨e, e', missing, short, missing', short'⟩ := same
  · simp only [root, force, edited, same, textAt_congr same]
  · simp only [root, missing, missing', if_neg short, if_neg short']

/-- Writing some files ends with a result for each, whatever becomes of them. -/
lemma ends_writeEach {ε : Type} {E : ε → MachineState → Prop} :
    ∀ (files : List GeneratedFile) (w : Writer) (s : MachineState),
      Ends (writeEach w files) s (fun r _ => r.1.length = files.length) E
  | [], _, _ => ends_pure.2 rfl
  | file :: rest, w, s => by
    rw [writeEach]
    refine .bind (.attempt (.imp .trivial (fun _ _ _ => ?_) fun _ _ _ => ?_))
    all_goals
      refine .bind ((ends_writeEach rest _ _).imp (fun r s' same => ends_pure.2 ?_) fun _ _ => id)
      exact congrArg (· + 1) same

/-! ### What changes -/

lemma Copies.changes (h : w.Copies target s s') : s.Changes (w.HoldsCopy target s) s' := by
  obtain rfl | ⟨backup, place, bytes, copy, read, puts⟩ := h
  · exact .refl _
  · exact puts.changes.mono fun q same => ⟨backup, same ▸ copy, bytes, read⟩

/-- Replacing a file changes nothing but the file and its copy. -/
lemma Replaces.changes {bytes : ByteArray} (h : w.Replaces target bytes s s') :
    s.Changes (fun q => q = goal s.here target ∨ w.HoldsCopy target s q) s' := by
  obtain ⟨s₁, s₂, place, copied, grown, found, puts⟩ := h
  have there : place = goal s.here target := by
    rw [eq_goal_of_placeOf found, grown.here, copied.here]
  refine (copied.changes.mono fun _ => .inr).trans (grown.changes.trans (puts.changes.mono ?_))
  exact fun q same => .inl (same.trans there)

end Writer

end ClientGen.Output
