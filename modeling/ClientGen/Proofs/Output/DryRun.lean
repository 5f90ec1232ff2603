import ClientGen.Proofs.Output.Foresight

/-!
# Dry runs

A session that is not to write anything says of each file what a session that writes would say, and
leaves the machine as it is. What the session that writes does in between makes no difference to the
files that are still to come: it has changed other files and entries of the manifest, and made
directories. Only a path that leads back by two dots from such a directory is found in the one session
and not in the other.
-/

namespace ClientGen

open Path

namespace MachineState

variable {s s' : MachineState} {path : String} {places : Place → Prop}

/-- A path that leads back by two dots leads to what stands where its text leads, if anything does. -/
def LeadsBack (s : MachineState) (path : String) : Prop :=
  ".." ∈ way s.here path → s.disk.at? (goal s.here path) ≠ none → ∃ e, s.entryOf path = .ok e

/-- What stands where a path leads is found by the path, unless a name on the way is too long. -/
lemma entryOf_of_at? (tree : s.disk.IsTree) (leads : s.LeadsBack path)
    (fits : FileFault.ofPath? path = none) {e : Entry}
    (at_ : s.disk.at? (goal s.here path) = some e) :
    s.entryOf path = .ok e ∨ s.placeOf path = .error .nameTooLong := by
  have some : s.disk.at? (goal s.here path) ≠ none := by simp [at_]
  by_cases dots : ".." ∈ way s.here path
  · obtain ⟨e', found⟩ := leads dots some
    obtain ⟨place, led, at'⟩ := entryOf_eq_ok.1 found
    rw [eq_goal_of_placeOf led, at_] at at'
    exact .inl (Option.some.inj at' ▸ found)
  · have place : goal s.here path = [] ++ way s.here path := by
      unfold goal
      exact lead_of_notMem dots
    refine (tree.walk_of_at? dots (place ▸ some)).imp (fun walked => ?_) fun long => ?_
    · exact entryOf_eq_ok.2 ⟨_, placeOf_eq_ok.2 ⟨fits, walked⟩, place ▸ at_⟩
    · unfold placeOf
      rw [fits]
      exact long

/-- Where no file changed, the same is found by a path after the changes as before, unless there is
now a directory or a name that is too long. -/
lemma Changes.entryOf_cases (h : s.Changes places s') (tree : s.disk.IsTree)
    (leads : s.LeadsBack path) (other : ¬places (goal s.here path)) :
    s'.entryOf path = .ok .directory ∨ (∃ e, s'.entryOf path = .error e ∧ e.fault = .nameTooLong) ∨
      s'.entryOf path = s.entryOf path ∨ ∃ e e', s.entryOf path = .error e ∧
        e.fault ≠ .nameTooLong ∧ s'.entryOf path = .error e' ∧ e'.fault ≠ .nameTooLong := by
  cases after : s'.entryOf path with
  | ok entry =>
    obtain ⟨place, led, at_⟩ := entryOf_eq_ok.1 after
    obtain rfl := eq_goal_of_placeOf led
    rw [h.here] at at_
    rcases h.entries (goal s.here path) with same | ⟨-, new⟩ | ⟨changed, -⟩
    · rcases entryOf_of_at? tree leads (placeOf_eq_ok.1 led).1 (same ▸ at_) with found | long
      · exact .inr (.inr (.inl found.symm))
      · rw [h.placeOf_tooLong long] at led
        cases led
    · rw [new] at at_
      exact .inl (congrArg _ (Option.some.inj at_).symm)
    · exact absurd changed other
  | error e' =>
    by_cases long' : e'.fault = .nameTooLong
    · exact .inr (.inl ⟨e', rfl, long'⟩)
    cases before : s.entryOf path with
    | ok entry =>
      rw [h.entryOf_ok before other] at after
      cases after
    | error e =>
      refine .inr (.inr (.inr ⟨e, e', rfl, fun long => long' ?_, rfl, long'⟩))
      rw [entryOf_of_tooLong (h.placeOf_tooLong (placeOf_of_entryOf_tooLong before long).1)] at after
      exact congrArg FileError.fault (Except.error.inj after).symm

end MachineState

namespace Output

open Machine MachineState

namespace Writer

variable {ε : Type} {w w' v v' : Writer} {s s₀ s₁ : MachineState} {path content : String}
  {done : Place → Prop}

/-- How far a session from the machine `s₀` that writes has come with the files at some places. -/
structure Advances (s₀ : MachineState) (done : Place → Prop) (w : Writer) (s : MachineState) :
    Prop where
  wet : w.options.dryRun = false
  noBackup : w.options.backup = false
  tree : s.disk.IsTree
  changes : s₀.Changes done s

/-- A dry session in the directory `here` that has come as far with the files at some places: its
manifest has the same for all other files. -/
structure Shadows (here : String) (done : Place → Prop) (w w' : Writer) : Prop where
  root : w'.root = w.root
  force : w'.options.force = w.options.force
  dry : w'.options.dryRun = true
  lookup : ∀ q, (∀ x ∈ q, IsSegment x) → ¬done q →
    w'.manifest.lookup (placeKey (goal here w.root) q) =
      w.manifest.lookup (placeKey (goal here w.root) q)

lemma Shadows.keyAt (h : Shadows s₀.here done w w') (here : String) (path : String) :
    w'.keyAt here path = w.keyAt here path := by
  unfold Writer.keyAt
  rw [h.root]

/-- The dry session goes on with other entries of the manifest for one more file. -/
lemma Shadows.next (h : Shadows s₀.here done w w') (root : v.root = w.root)
    (options : v.options = w.options) (root' : v'.root = w'.root) (options' : v'.options = w'.options)
    (lookup : ∀ k, k ≠ w.keyAt s₀.here path → v.manifest.lookup k = w.manifest.lookup k)
    (lookup' : ∀ k, k ≠ w.keyAt s₀.here path → v'.manifest.lookup k = w'.manifest.lookup k) :
    Shadows s₀.here (fun q => done q ∨ q = w.placeOf s₀.here path) v v' where
  root := by rw [root', root, h.root]
  force := by rw [options', options, h.force]
  dry := options' ▸ h.dry
  lookup q parts other := by
    rw [not_or] at other
    have key : placeKey (goal s₀.here w.root) q ≠ w.keyAt s₀.here path := by
      rw [keyAt_eq]
      exact placeKey_ne (fun _ => isSegment_of_mem_goal) (fun _ => isSegment_of_mem_goal) parts other.2
    rw [root, lookup _ key, lookup' _ key]
    exact h.lookup q parts other.1

section Advances

variable (h : Advances s₀ done w s)

include h

/-- A dry session foresees what the other one does, unless the machine fails the other one. -/
lemma Advances.foresee (tree : s₀.disk.IsTree) (leads : s₀.LeadsBack (Path.below w.root path))
    (new : ¬done (w.placeOf s₀.here path)) (content : String) :
    (∃ e, w.foresee s path content = .error (.file e)) ∨
      ∀ w', Shadows s₀.here done w w' → w'.foresee s₀ path content = w.foresee s path content := by
  have stops (e : FileError) (failed : ∀ bytes, Text.encode content = .ok bytes →
      FileFault.ofWay? (Path.below w.root path) = none →
      w.foresee s path content = .error (.file e)) : (∃ e, w.foresee s path content = .error (.file e)) ∨
        ∀ w', Shadows s₀.here done w w' → w'.foresee s₀ path content = w.foresee s path content := by
    cases way : FileFault.ofWay? (Path.below w.root path) with
    | some fault =>
      refine .inl ⟨⟨fault, Path.below w.root path⟩, ?_⟩
      unfold Writer.foresee
      simp only [way]
    | none =>
      cases form : Text.encode content with
      | error half =>
        refine .inr fun w' shadows => ?_
        unfold Writer.foresee
        simp only [shadows.root, way, form]
      | ok bytes => exact .inl ⟨e, failed bytes form way⟩
  rcases h.changes.entryOf_cases tree leads new with directory | ⟨e, failed, long⟩ | same
  · refine stops ⟨.isDirectory, Path.below w.root path⟩ fun bytes form way => ?_
    have read : s.textAt (Path.below w.root path) =
        .error (.file ⟨.isDirectory, Path.below w.root path⟩) := by
      unfold textAt MachineState.readBytes
      rw [directory]
    unfold Writer.foresee
    simp only [way, form, directory, read]
  · refine stops e fun bytes form way => ?_
    unfold Writer.foresee
    simp only [way, form, failed, if_pos long]
  · refine .inr fun w' shadows => ?_
    have entry := shadows.lookup (w.placeOf s₀.here path) (fun _ => isSegment_of_mem_goal) new
    rw [← keyAt_eq, ← h.changes.here] at entry
    refine foresee_congr shadows.root shadows.force h.changes.here.symm entry ?_
    refine same.imp Eq.symm ?_
    rintro ⟨e, e', before, short, now, short'⟩
    exact ⟨e', e, now, short', before, short⟩

lemma Advances.more (places : Place → Prop) : Advances s₀ (fun q => done q ∨ places q) w s :=
  { h with changes := h.changes.mono fun _ => .inl }

/-- The session that writes replaces a file. -/
lemma Advances.replace {bytes : ByteArray} {key : String}
    (replaced : w.Replaces (Path.below w.root path) bytes s s₁) (content : String) :
    Advances s₀ (fun q => done q ∨ q = w.placeOf s₀.here path) (w.remember key content) s₁ where
  wet := h.wet
  noBackup := h.noBackup
  tree := replaced.tree
  changes := by
    refine (h.more _).changes.trans (replaced.changes.mono fun q there => .inr ?_)
    rcases there with same | ⟨backup, -⟩
    · rw [same, h.changes.here]
      rfl
    · rw [h.noBackup] at backup
      cases backup

/-- One file is written as a dry session says, unless the machine fails. -/
lemma Advances.ends_write (tree : s₀.disk.IsTree) (leads : s₀.LeadsBack (Path.below w.root path))
    (new : ¬done (w.placeOf s₀.here path)) (content : String) :
    Ends (attempt (w.write path content) : Work _ ε _) s (fun r s₁ => (∃ e, r = .error (.file e)) ∨
      (w.after r).root = w.root ∧
      Advances s₀ (fun q => done q ∨ q = w.placeOf s₀.here path) (w.after r) s₁ ∧
      ∀ w', Shadows s₀.here done w w' →
        Ends (attempt (w'.write path content) : Work _ ε _) s₀ (fun r' s' =>
          s' = s₀ ∧ r'.map Prod.fst = r.map Prod.fst ∧
            Shadows s₀.here (fun q => done q ∨ q = w.placeOf s₀.here path) (w.after r) (w'.after r'))
          fun _ _ => False) fun _ _ => False := by
  refine .attempt (ends_write_foreseen ?_)
  obtain ⟨e, failed⟩ | same := h.foresee tree leads new content
  · rw [failed, meets_error]
    exact .inl ⟨e, rfl⟩
  revert same
  cases seen : w.foresee s path content with
  | error e =>
    intro same
    rw [meets_error]
    refine .inr ⟨rfl, h.more _, fun w' shadows => .attempt (ends_write_foreseen ?_)⟩
    rw [same w' shadows, meets_error]
    exact ⟨rfl, rfl, shadows.next rfl rfl rfl rfl (fun _ _ => rfl) fun _ _ => rfl⟩
  | ok status =>
    intro same
    cases status with
    | unchanged =>
      rw [meets_unchanged]
      refine .inr ⟨adopt_root .., ?_, fun w' shadows => .attempt (ends_write_foreseen ?_)⟩
      · exact { h.more _ with
          wet := adopt_options w _ _ ▸ h.wet
          noBackup := adopt_options w _ _ ▸ h.noBackup }
      · rw [same w' shadows, meets_unchanged, shadows.keyAt]
        refine ⟨rfl, by simp only [Except.map], shadows.next (adopt_root ..) (adopt_options ..)
          (adopt_root ..) (adopt_options ..) (fun k other => ?_) fun k other => (lookup_adopt ..).trans (if_neg other)⟩
        rw [h.changes.here]
        exact (lookup_adopt ..).trans (if_neg other)
    | conflict =>
      rw [meets_conflict]
      refine .inr ⟨rfl, h.more _, fun w' shadows => .attempt (ends_write_foreseen ?_)⟩
      rw [same w' shadows, meets_conflict]
      exact ⟨rfl, rfl, shadows.next rfl rfl rfl rfl (fun _ _ => rfl) fun _ _ => rfl⟩
    | written =>
      obtain ⟨bytes, form⟩ := exists_encode_of_foresee seen
      rw [meets_written, if_neg (by simp [h.wet])]
      refine (ends_replace h.tree form).imp ?_ fun e s₁ failed => ?_
      · rintro _ s₁ ⟨rfl, replaced⟩
        refine .inr ⟨rfl, h.replace replaced content, fun w' shadows =>
          .attempt (ends_write_foreseen ?_)⟩
        rw [same w' shadows, meets_written, if_pos shadows.dry]
        refine ⟨rfl, rfl, shadows.next rfl rfl rfl rfl (fun k other => ?_) fun _ _ => rfl⟩
        rw [h.changes.here]
        exact (lookup_remember ..).trans (if_neg other)
      · obtain ⟨⟨f, rfl⟩, -⟩ := failed
        exact .inl ⟨f, rfl⟩

end Advances

/-- All files are written as a dry session says, unless the machine fails. -/
lemma Advances.ends_writeEach (tree : s₀.disk.IsTree) : ∀ {files : List GeneratedFile}
    {done : Place → Prop} {w : Writer} {s : MachineState}, Advances s₀ done w s →
    (∀ f ∈ files, s₀.LeadsBack (Path.below w.root f.path) ∧ ¬done (w.placeOf s₀.here f.path)) →
    files.Pairwise (fun f g => w.placeOf s₀.here f.path ≠ w.placeOf s₀.here g.path) →
    Ends (writeEach w files : Work _ ε _) s (fun r _ => (∀ e, .error (.file e) ∉ r.1) →
      ∀ w', Shadows s₀.here done w w' → Ends (writeEach w' files : Work _ ε _) s₀
        (fun r' s' => s' = s₀ ∧ r'.1 = r.1 ∧ r'.2.options.dryRun = true) fun _ _ => False)
      fun _ _ => False
  | [], _, _, _, _, _, _ => ends_pure.2 fun _ _ shadows => ends_pure.2 ⟨rfl, rfl, shadows.dry⟩
  | f :: rest, done, w, s, h, ready, apart => by
    obtain ⟨⟨leads, new⟩, ready⟩ := List.forall_mem_cons.1 ready
    obtain ⟨first, apart⟩ := List.pairwise_cons.1 apart
    refine .bind ((h.ends_write tree leads new f.content).imp (fun r s₁ step => ?_) fun _ _ => id)
    obtain ⟨e, rfl⟩ | ⟨root, step, shadows⟩ := step
    · refine .bind ((Writer.ends_writeEach rest _ _).imp (fun r s' _ => ends_pure.2 ?_) fun _ _ => id)
      exact fun none => absurd List.mem_cons_self (none e)
    have placeOf (path : String) : (w.after r).placeOf s₀.here path = w.placeOf s₀.here path := by
      unfold Writer.placeOf
      rw [root]
    refine .bind ((step.ends_writeEach tree (fun g hg => ?_) ?_).imp (fun rs s₂ follow =>
      ends_pure.2 fun none w' before => ?_) fun _ _ => id)
    · rw [root, placeOf, not_or]
      exact ⟨(ready g hg).1, (ready g hg).2, fun same => first g hg same.symm⟩
    · simpa only [placeOf] using apart
    · have follow := follow fun e he => none e (List.mem_cons_of_mem _ he)
      refine .bind ((shadows w' before).imp ?_ fun _ _ => id)
      rintro r' s' ⟨rfl, same, now⟩
      refine .bind ((follow _ now).imp ?_ fun _ _ => id)
      rintro rs' s' ⟨rfl, same', dry⟩
      exact ends_pure.2 ⟨rfl, by rw [same, same'], dry⟩

/-- A dry session leaves the machine as it is. -/
lemma ends_writeEach_dry : ∀ {files : List GeneratedFile} {w : Writer} (s : MachineState),
    w.options.dryRun = true → Ends (writeEach w files : Work _ ε _) s
      (fun r s' => s' = s ∧ r.2.options.dryRun = true) fun _ _ => False
  | [], _, _, dry => ends_pure.2 ⟨rfl, dry⟩
  | f :: rest, w, s, dry => by
    have one : Ends (attempt (w.write f.path f.content) : Work _ ε _) s
        (fun r s' => s' = s ∧ (w.after r).options.dryRun = true) fun _ _ => False := by
      refine .attempt (ends_write_foreseen ?_)
      cases w.foresee s f.path f.content with
      | error e =>
        rw [meets_error]
        exact ⟨rfl, dry⟩
      | ok status =>
        cases status with
        | unchanged =>
          rw [meets_unchanged]
          exact ⟨rfl, (congrArg _ (adopt_options ..)).trans dry⟩
        | conflict =>
          rw [meets_conflict]
          exact ⟨rfl, dry⟩
        | written =>
          rw [meets_written, if_pos dry]
          exact ⟨rfl, dry⟩
    refine .bind (one.imp ?_ fun _ _ => id)
    rintro r _ ⟨rfl, dry⟩
    exact .bind ((ends_writeEach_dry _ dry).imp (fun _ _ h => ends_pure.2 h) fun _ _ => id)

lemma ends_session_dry {root : String} {options : WriteOptions} (dry : options.dryRun = true)
    (files : List GeneratedFile) :
    Ends (session root options files) s (fun _ s' => s' = s) fun _ s' => s' = s := by
  refine .bind (ends_open_loaded ?_)
  cases loaded s root with
  | error e => rfl
  | ok manifest =>
    refine .bind ((ends_writeEach_dry s dry).imp ?_ fun _ _ => False.elim)
    rintro r _ ⟨rfl, dry⟩
    exact .bind (ends_saveManifest_idle (.inl dry) (ends_pure.2 rfl))

/-- A session that ends without an error of the machine is foretold by a dry one. -/
lemma ends_session_foretold {root : String} (options dry : WriteOptions) {files : List GeneratedFile}
    (tree : s.disk.IsTree) (wet : options.dryRun = false) (noBackup : options.backup = false)
    (isDry : dry.dryRun = true) (force : dry.force = options.force)
    (leads : ∀ f ∈ files, s.LeadsBack (Path.below root f.path))
    (apart : files.Pairwise fun f g =>
      goal s.here (Path.below root f.path) ≠ goal s.here (Path.below root g.path)) :
    Ends (session root options files) s (fun results _ => (∀ e, .error (.file e) ∉ results) →
      Ends (session root dry files) s (fun results' s' => results' = results ∧ s' = s)
        fun _ _ => False) fun _ _ => True := by
  refine .bind (ends_open_loaded ?_)
  cases load : loaded s root with
  | error e => exact True.intro
  | ok manifest =>
    have start : Advances s (fun _ => False) { root, options, manifest } s :=
      ⟨wet, noBackup, tree, .refl s⟩
    refine .bind ((start.ends_writeEach tree (fun f hf => ⟨leads f hf, id⟩) apart).imp
      (fun r s₁ follow => ?_) fun _ _ => False.elim)
    refine .bind (Ends.trivial.imp (fun _ _ _ => ends_pure.2 fun none => ?_) fun _ _ => id)
    refine .bind (ends_open_loaded ?_)
    rw [load]
    have shadows : Shadows s.here (fun _ => False) { root, options, manifest }
        { root, options := dry, manifest } := ⟨rfl, force, isDry, fun _ _ _ => rfl⟩
    refine .bind ((follow none _ shadows).imp ?_ fun _ _ => id)
    rintro r' _ ⟨rfl, same, stillDry⟩
    exact .bind (ends_saveManifest_idle (.inl stillDry) (ends_pure.2 ⟨same, rfl⟩))

variable {root : String} {files : List GeneratedFile}

/-- A dry session leaves the machine as it is. What it says of each file is what a session that writes
says, if that one keeps no copies and no error of the machine comes in its way, for files in different
places. A path that leads back by two dots has to lead to what stands where its text leads. -/
theorem dryRun_foretells (options : WriteOptions) (tree : s.disk.IsTree)
    (noBackup : options.backup = false)
    (apart : files.Pairwise fun f g =>
      goal s.here (Path.below root f.path) ≠ goal s.here (Path.below root g.path))
    (leads : ∀ f ∈ files, s.LeadsBack (Path.below root f.path)) :
    (onMachine (session root { options with dryRun := true } files) s).2 = s ∧
    ∀ results s₁, onMachine (session root { options with dryRun := false } files) s =
        (.ok results, s₁) → (∀ e, .error (.file e) ∉ results) →
      onMachine (session root { options with dryRun := true } files) s = (.ok results, s) := by
  constructor
  · have dry : ({ options with dryRun := true } : WriteOptions).dryRun = true := rfl
    exact (ends_session_dry dry files).snd_onMachine
  · intro results s₁ run noError
    have foretold := ends_session_foretold { options with dryRun := false }
      { options with dryRun := true } tree rfl noBackup rfl rfl leads apart
    exact (foretold.of_ok run noError).onMachine_eq

/-! ### A session and its dry run -/

/-- A disk with a file that somebody wrote. -/
def mineDisk : Disk :=
  ((({} : Disk).put ["out"] .directory).put ["out", "mine.ts"] (.file "mine".toUTF8 0))

/-- A machine with a file that a session wrote before, and with another one that it did not write. -/
def mixedMachine : MachineState :=
  let files : Manifest := [("kept.ts", "7692c3ad3540bb80")]
  { disk := ((mineDisk.put ["out", "inner"] .directory).put ["out", "kept.ts"]
      (.file "one".toUTF8 0)).put ["out", Manifest.fileName] (.file files.text.toUTF8 0) }

/-- New texts for both files, the one of which is found through another directory. -/
def mixedFiles : List GeneratedFile :=
  [⟨"kept.ts", "two"⟩, ⟨"inner/../mine.ts", "two"⟩]

lemma isTree_mixedMachine : mixedMachine.disk.IsTree := by
  have entries : mixedMachine.disk.entries = [(["out"], .directory),
      (["out", "mine.ts"], .file "mine".toUTF8 0), (["out", "inner"], .directory),
      (["out", "kept.ts"], .file "one".toUTF8 0), (["out", Manifest.fileName],
        .file (Manifest.text [("kept.ts", "7692c3ad3540bb80")]).toUTF8 0)] := rfl
  refine Disk.isTree_of_entries ?_
  rw [entries]
  simp only [List.forall_mem_cons]
  exact ⟨rfl, rfl, rfl, rfl, rfl, nofun⟩

/-- Both sessions write the one file and leave the other one alone, the dry one only in words. -/
theorem dryRun_foretells_mixed :
    (mixedMachine.disk.IsTree ∧ ({} : WriteOptions).backup = false ∧
      (mixedFiles.Pairwise fun f g => goal mixedMachine.here (Path.below "out" f.path) ≠
        goal mixedMachine.here (Path.below "out" g.path)) ∧
      ∀ f ∈ mixedFiles, mixedMachine.LeadsBack (Path.below "out" f.path)) ∧
    (onMachine (session "out" {} mixedFiles) mixedMachine).1 = .ok [.ok .written, .ok .conflict] ∧
    onMachine (session "out" { dryRun := true } mixedFiles) mixedMachine =
      (.ok [.ok .written, .ok .conflict], mixedMachine) := by
  have apart : mixedFiles.Pairwise fun f g => goal mixedMachine.here (Path.below "out" f.path) ≠
      goal mixedMachine.here (Path.below "out" g.path) := by decide +kernel
  have leads : ∀ f ∈ mixedFiles, mixedMachine.LeadsBack (Path.below "out" f.path) := by
    have found : ∀ f ∈ mixedFiles,
        (mixedMachine.entryOf (Path.below "out" f.path)).toOption.isSome = true := by decide +kernel
    intro f hf _ _
    have found := found f hf
    cases entry : mixedMachine.entryOf (Path.below "out" f.path) with
    | ok e => exact ⟨e, rfl⟩
    | error e =>
      rw [entry] at found
      cases found
  have run : (onMachine (session "out" {} mixedFiles) mixedMachine).1 =
      .ok [.ok .written, .ok .conflict] := by decide +kernel
  refine ⟨⟨isTree_mixedMachine, rfl, apart, leads⟩, run, ?_⟩
  have noError : ∀ e, (.error (.file e) : Except TextError WriteStatus) ∉
      [.ok .written, .ok .conflict] := by simp
  exact (dryRun_foretells {} isTree_mixedMachine rfl apart leads).2 _ _ (onMachine_eq_of_fst run)
    noError

/-- Behind a directory that the session makes, a file is found that the dry one does not find. -/
example : (onMachine (session "out" {} [⟨"inner/a.ts", "two"⟩, ⟨"inner/../mine.ts", "two"⟩])
    { disk := mineDisk }).1 = .ok [.ok .written, .ok .conflict] ∧
    (onMachine (session "out" { dryRun := true }
      [⟨"inner/a.ts", "two"⟩, ⟨"inner/../mine.ts", "two"⟩]) { disk := mineDisk }).1 =
        .ok [.ok .written, .ok .written] := by decide +kernel

end Writer

end Output

end ClientGen
