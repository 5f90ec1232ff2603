import ClientGen.Proofs.Output.Foresight

/-!
# Writing the same files again

A session that writes the same files as the one before it finds nothing to do. What was written or was
there already is as it should be and stands in the manifest with its digest, and what was left alone
as edited is left alone again, so that neither a file nor the manifest changes.
-/

namespace ClientGen.Output

open Machine MachineState Path

/-- What is said of a file when it is to be written once more. -/
def WriteStatus.again : WriteStatus → WriteStatus
  | .written => .unchanged
  | .unchanged => .unchanged
  | .conflict => .conflict

namespace Writer

variable {v w w' : Writer} {s s' s₀ : MachineState} {f : GeneratedFile}
  {r : Except TextError WriteStatus} {done : List (GeneratedFile × Except TextError WriteStatus)}
  {places : Place → Prop}

/-- What became of a file that has the text it should have. -/
def IsKept (r : Except TextError WriteStatus) : Prop :=
  r = .ok .written ∨ r = .ok .unchanged

/-- A file with a path and a content that are texts. The content has a form in UTF-8 and no carriage
return. -/
structure IsWritable (f : GeneratedFile) : Prop where
  path : Text.Kept f.path.toList
  content : Text.Kept f.content.toList
  form : ∃ bytes, Text.encode f.content = .ok bytes
  noReturn : '\r' ∉ f.content.toList

/-- None of some files stands where the copy of another one goes that was overwritten. -/
def KeepsClear (v : Writer) (s : MachineState)
    (done : List (GeneratedFile × Except TextError WriteStatus)) : Prop :=
  ∀ x ∈ done, x.2 = .ok .written → v.options.backup = true →
    s.disk.bytesAt? (v.placeOf s.here x.1.path) ≠ none →
    ∀ y ∈ done, v.placeOf s.here y.1.path ≠ v.placeOf s.here x.1.path →
      ¬IsCopyOf s.here (Path.below v.root x.1.path) (copyPath (Path.below v.root x.1.path))
        (v.placeOf s.here y.1.path)

lemma KeepsClear.subset {more : List (GeneratedFile × Except TextError WriteStatus)}
    (h : v.KeepsClear s more) (part : done ⊆ more) : v.KeepsClear s done :=
  fun x hx written backup there y hy => h x (part hx) written backup there y (part hy)

lemma keyAt_ne {here p q : String} (h : w.placeOf here p ≠ w.placeOf here q) :
    w.keyAt here p ≠ w.keyAt here q :=
  fun same => h (by rw [← keyPlace_keyAt, same, keyPlace_keyAt])

/-! ### Files that are settled -/

/-- A file of which a session says `r` and has nothing to do for it. -/
structure Settled (w : Writer) (s : MachineState) (f : GeneratedFile)
    (r : Except TextError WriteStatus) : Prop where
  found : ∃ e, s.entryOf (Path.below w.root f.path) = .ok e
  foreseen : w.foresee s f.path f.content = r
  idle : r ≠ .ok .written
  remembered : r = .ok .unchanged →
    w.manifest.lookup (w.keyAt s.here f.path) = some (Digest.ofText f.content)

/-- A file stays settled while other files change and other entries of the manifest. -/
lemma Settled.stays (h : w.Settled s f r) (changes : s.Changes places s')
    (other : ¬places (w.placeOf s.here f.path)) (root : w'.root = w.root)
    (force : w'.options.force = w.options.force)
    (lookup : w'.manifest.lookup (w.keyAt s.here f.path) =
      w.manifest.lookup (w.keyAt s.here f.path)) : w'.Settled s' f r := by
  obtain ⟨e, found⟩ := h.found
  have found' := changes.entryOf_ok found other
  refine ⟨⟨e, by rwa [root]⟩, ?_, h.idle, fun unchanged => ?_⟩
  · rw [foresee_congr root force changes.here lookup (.inl (found'.trans found.symm)), h.foreseen]
  · have key : w'.keyAt s'.here f.path = w.keyAt s.here f.path := by
      unfold Writer.keyAt
      rw [root, changes.here]
    rw [key, lookup, h.remembered unchanged]

/-- A file that is not written is settled, unless the machine fails. -/
lemma settled_of_foresee (form : ∃ bytes, Text.encode f.content = .ok bytes)
    (idle : w.foresee s f.path f.content ≠ .ok .written)
    (noError : ∀ e, w.foresee s f.path f.content ≠ .error (.file e))
    (remembered : w.foresee s f.path f.content = .ok .unchanged →
      w.manifest.lookup (w.keyAt s.here f.path) = some (Digest.ofText f.content)) :
    w.Settled s f (w.foresee s f.path f.content) := by
  refine ⟨?_, rfl, idle, remembered⟩
  obtain ⟨e, failed⟩ | ⟨h, -, failed⟩ | ⟨-, -, written | found⟩ :=
    w.foresee_cases s f.path f.content
  · exact absurd failed (noError e)
  · obtain ⟨bytes, form⟩ := form
    rw [form] at failed
    cases failed
  · exact absurd written idle
  · exact found

/-- A file that was written is settled. -/
lemma Replaces.settled {bytes : ByteArray} (h : w.Replaces (Path.below w.root f.path) bytes s s')
    (writable : IsWritable f) (form : Text.encode f.content = .ok bytes)
    (way : FileFault.ofWay? (Path.below w.root f.path) = none) :
    (w.remember (w.keyAt s.here f.path) f.content).Settled s' f (.ok .unchanged) := by
  have here := h.here
  obtain ⟨s₁, s₂, place, -, -, led, puts⟩ := h
  have read := puts.textAt led (Text.decode_of_encode writable.content form)
  rw [Text.universalNewlines_of_notMem writable.noReturn, String.ofList_toList] at read
  refine ⟨⟨_, puts.entryOf led⟩, ?_, by simp, fun _ => ?_⟩
  · exact foresee_of_textAt way form (puts.entryOf led) read
  · rw [here]
    exact (lookup_remember ..).trans (if_pos rfl)

/-- A session leaves a settled file and its manifest as they are. -/
lemma Settled.ends_write {ε : Type} {E : ε → MachineState → Prop} (h : w.Settled s f r) :
    Ends (attempt (w.write f.path f.content)) s
      (fun r' s' => r'.map Prod.fst = r ∧ w.after r' = w ∧ s' = s) E := by
  refine .attempt (ends_write_foreseen ?_)
  rw [h.foreseen]
  cases r with
  | error e =>
    rw [meets_error]
    exact ⟨rfl, rfl, rfl⟩
  | ok status =>
    cases status with
    | written => exact absurd rfl h.idle
    | conflict =>
      rw [meets_conflict]
      exact ⟨rfl, rfl, rfl⟩
    | unchanged =>
      have known : w.adopt (w.keyAt s.here f.path) f.content = w := by
        unfold Writer.adopt
        rw [h.remembered rfl, if_pos (by simp)]
      rw [meets_unchanged, known]
      exact ⟨rfl, rfl, rfl⟩

lemma ends_writeEach_settled {ε : Type} {E : ε → MachineState → Prop} :
    ∀ {files : List GeneratedFile} {results : List (Except TextError WriteStatus)},
      results.length = files.length → (∀ x ∈ files.zip results, w.Settled s x.1 x.2) →
      Ends (writeEach w files) s (fun p s' => p = (results, w) ∧ s' = s) E
  | [], [], _, _ => ends_pure.2 ⟨rfl, rfl⟩
  | f :: files, r :: results, same, settled => by
    obtain ⟨first, settled⟩ := List.forall_mem_cons.1 settled
    rw [writeEach]
    refine .bind (first.ends_write.imp ?_ fun _ _ => id)
    rintro r' s' ⟨result, after, stays⟩
    rw [after, stays]
    refine .bind ((ends_writeEach_settled (Nat.succ.inj same) settled).imp ?_ fun _ _ => id)
    rintro _ _ ⟨rfl, rfl⟩
    exact ends_pure.2 ⟨by rw [result], rfl⟩

/-- A session whose files are all settled changes nothing. -/
lemma ends_session_settled {root : String} {options : WriteOptions} {kept : Manifest}
    {files : List GeneratedFile} {results : List (Except TextError WriteStatus)}
    (load : loaded s root = .ok kept) (same : results.length = files.length)
    (settled : ∀ x ∈ files.zip results,
      Settled { root, options, manifest := kept } s x.1 x.2) :
    Ends (session root options files) s (fun results' s' => results' = results ∧ s' = s)
      fun _ _ => False := by
  refine .bind (ends_open_loaded ?_)
  rw [load]
  refine .bind ((ends_writeEach_settled same settled).imp ?_ fun _ _ => id)
  rintro _ _ ⟨rfl, rfl⟩
  exact .bind (ends_saveManifest_idle (.inr rfl) (ends_pure.2 ⟨rfl, rfl⟩))

/-! ### The first session -/

/-- The place of a file that was written, or one where a copy of it may be. -/
def Touched (v : Writer) (s : MachineState)
    (done : List (GeneratedFile × Except TextError WriteStatus)) (q : Place) : Prop :=
  ∃ x ∈ done, x.2 = .ok .written ∧ (q = v.placeOf s.here x.1.path ∨
    v.options.backup = true ∧ s.disk.bytesAt? (v.placeOf s.here x.1.path) ≠ none ∧
      IsCopyOf s.here (Path.below v.root x.1.path) (copyPath (Path.below v.root x.1.path)) q)

/-- How far a session has come that started with the writer `v` on the machine `s₀`, when it is done
with some files. -/
structure Reaches (v : Writer) (s₀ : MachineState)
    (done : List (GeneratedFile × Except TextError WriteStatus)) (w : Writer) (s : MachineState) :
    Prop where
  root : w.root = v.root
  options : w.options = v.options
  tree : s.disk.IsTree
  changes : s₀.Changes (v.Touched s₀ done) s
  settled : ∀ x ∈ done, w.Settled s x.1 (x.2.map WriteStatus.again)
  others : ∀ k, (∀ x ∈ done, IsKept x.2 → k ≠ v.keyAt s₀.here x.1.path) →
    w.manifest.lookup k = v.manifest.lookup k
  whole : w.manifest.IsWhole
  clean : w.dirty = false → w = v ∧ s = s₀

lemma Touched.more {more : List (GeneratedFile × Except TextError WriteStatus)} {q : Place}
    (h : v.Touched s done q) (part : done ⊆ more) : v.Touched s more q := by
  obtain ⟨x, hx, rest⟩ := h
  exact ⟨x, part hx, rest⟩

/-- No file that is clear of the copies is touched by the others. -/
lemma KeepsClear.not_touched (clear : v.KeepsClear s (done ++ [(f, r)]))
    (apart : ∀ x ∈ done, v.placeOf s.here x.1.path ≠ v.placeOf s.here f.path) :
    ¬v.Touched s done (v.placeOf s.here f.path) := by
  rintro ⟨x, hx, written, same | ⟨backup, there, copy⟩⟩
  · exact apart x hx same.symm
  · exact clear x (List.mem_append_left _ hx) written backup there (f, r) (by simp)
      (Ne.symm (apart x hx)) copy

section Reaches

variable (h : Reaches v s₀ done w s)

include h

lemma Reaches.placeOf (path : String) : w.placeOf s.here path = v.placeOf s₀.here path := by
  unfold Writer.placeOf
  rw [h.root, h.changes.here]

lemma Reaches.keyAt (path : String) : w.keyAt s.here path = v.keyAt s₀.here path := by
  unfold Writer.keyAt
  rw [h.root, h.changes.here]

/-- A file for which nothing was done makes no difference. -/
lemma Reaches.idle (settled : w.Settled s f (r.map WriteStatus.again)) :
    Reaches v s₀ (done ++ [(f, r)]) w s where
  root := h.root
  options := h.options
  tree := h.tree
  changes := h.changes.mono fun _ touched => touched.more (List.subset_append_left ..)
  settled := List.forall_mem_append.2 ⟨h.settled, List.forall_mem_singleton.2 settled⟩
  others k other := h.others k fun x hx => other x (List.mem_append_left _ hx)
  whole := h.whole
  clean := h.clean

/-- The session goes on with a file that has its text now, and with another digest for its key. -/
lemma Reaches.next (kept : IsKept r)
    (apart : ∀ x ∈ done, v.placeOf s₀.here x.1.path ≠ v.placeOf s₀.here f.path)
    (root : w'.root = w.root) (options : w'.options = w.options) (tree : s'.disk.IsTree)
    (changes : s.Changes places s')
    (touched : ∀ q, places q → v.Touched s₀ (done ++ [(f, r)]) q)
    (clear : ∀ x ∈ done, ¬places (v.placeOf s₀.here x.1.path))
    (lookup : ∀ k, k ≠ w.keyAt s.here f.path → w'.manifest.lookup k = w.manifest.lookup k)
    (settled : w'.Settled s' f (r.map WriteStatus.again)) (whole : w'.manifest.IsWhole)
    (clean : w'.dirty = false → w' = w ∧ s' = s) : Reaches v s₀ (done ++ [(f, r)]) w' s' where
  root := root.trans h.root
  options := options.trans h.options
  tree := tree
  changes := (h.changes.mono fun _ touched => touched.more (List.subset_append_left ..)).trans
    (changes.mono touched)
  settled := by
    refine List.forall_mem_append.2 ⟨fun x hx => ?_, List.forall_mem_singleton.2 settled⟩
    have other : ¬places (w.placeOf s.here x.1.path) := by
      rw [h.placeOf]
      exact clear x hx
    have key : w.keyAt s.here x.1.path ≠ w.keyAt s.here f.path := by
      rw [h.keyAt, h.keyAt]
      exact keyAt_ne (apart x hx)
    have force : w'.options.force = w.options.force := by rw [options]
    exact (h.settled x hx).stays changes other root force (lookup _ key)
  others k other := by
    obtain ⟨before, last⟩ := List.forall_mem_append.1 other
    have new : k ≠ w.keyAt s.here f.path := by
      rw [h.keyAt]
      exact List.forall_mem_singleton.1 last kept
    rw [lookup k new, h.others k before]
  whole := whole
  clean same := by
    obtain ⟨rfl, rfl⟩ := clean same
    exact h.clean same

/-- The key of a file can be kept, if the machine takes its path. -/
lemma Reaches.isWhole_remember (home : IsHome s₀.here) (root : Text.Kept v.root.toList)
    (path : Text.Kept f.path.toList) (fits : FileFault.ofPath? (Path.below w.root f.path) = none) :
    (w.remember (w.keyAt s.here f.path) f.content).manifest.IsWhole := by
  have key : Json.IsReadable (w.keyAt s.here f.path) := by
    refine isReadable_keyAt ?_ (h.root ▸ root) path fits
    rw [h.changes.here]
    exact home
  exact h.whole.setEntry (Json.isWhole_of_readable key)

/-- A file that had its text already is remembered. -/
lemma Reaches.adopt (home : IsHome s₀.here) (root : Text.Kept v.root.toList)
    (writable : IsWritable f)
    (apart : ∀ x ∈ done, v.placeOf s₀.here x.1.path ≠ v.placeOf s₀.here f.path)
    (seen : w.foresee s f.path f.content = .ok .unchanged) :
    Reaches v s₀ (done ++ [(f, .ok .unchanged)]) (w.adopt (w.keyAt s.here f.path) f.content) s := by
  obtain ⟨way, ⟨e, found⟩, read⟩ := unchanged_of_foresee seen
  obtain ⟨bytes, form⟩ := writable.form
  have settled : (w.adopt (w.keyAt s.here f.path) f.content).Settled s f (.ok .unchanged) := by
    rw [← adopt_root w (w.keyAt s.here f.path) f.content] at way found read
    refine ⟨⟨e, found⟩, foresee_of_textAt way form found read, by simp, fun _ => ?_⟩
    · unfold Writer.keyAt
      rw [adopt_root]
      exact (lookup_adopt ..).trans (if_pos rfl)
  obtain ⟨place, led, -⟩ := entryOf_eq_ok.1 found
  have nothing : s.Changes (fun _ => False) s := .refl s
  have fits := (placeOf_eq_ok.1 led).1
  have remembered := h.isWhole_remember home root writable.path fits
  refine h.next (.inr rfl) apart (adopt_root ..) (adopt_options ..) h.tree
    nothing (fun _ => False.elim) (fun _ _ => id)
    (fun k other => (lookup_adopt ..).trans (if_neg other)) settled ?_ fun clean => ⟨?_, rfl⟩
  · obtain same | same := adopt_cases w (w.keyAt s.here f.path) f.content <;> rw [same]
    · exact h.whole
    · exact remembered
  · obtain same | same := adopt_cases w (w.keyAt s.here f.path) f.content
    · exact same
    · rw [same] at clean
      cases clean

/-- A file that was written is remembered. -/
lemma Reaches.replace {bytes : ByteArray} (home : IsHome s₀.here) (root : Text.Kept v.root.toList)
    (writable : IsWritable f)
    (apart : ∀ x ∈ done, v.placeOf s₀.here x.1.path ≠ v.placeOf s₀.here f.path)
    (clear : v.KeepsClear s₀ (done ++ [(f, .ok .written)]))
    (way : FileFault.ofWay? (Path.below w.root f.path) = none)
    (form : Text.encode f.content = .ok bytes)
    (replaced : w.Replaces (Path.below w.root f.path) bytes s s') :
    Reaches v s₀ (done ++ [(f, .ok .written)])
      (w.remember (w.keyAt s.here f.path) f.content) s' := by
  have remembered := h.isWhole_remember home root writable.path replaced.ofPath?
  -- A copy is made only of what stood there before the session.
  have copies {q : Place} (copy : w.HoldsCopy (Path.below w.root f.path) s q) :
      v.options.backup = true ∧ s₀.disk.bytesAt? (v.placeOf s₀.here f.path) ≠ none ∧
        IsCopyOf s₀.here (Path.below v.root f.path) (copyPath (Path.below v.root f.path)) q := by
    obtain ⟨backup, copy, bytes, read⟩ := copy
    rw [h.options] at backup
    rw [h.root, h.changes.here] at copy
    refine ⟨backup, ?_, copy⟩
    obtain ⟨place, modified, led, at_⟩ := readBytes_eq_ok.1 read
    obtain rfl : place = v.placeOf s₀.here f.path := (eq_goal_of_placeOf led).trans (h.placeOf _)
    rw [← h.changes.bytesAt?_eq (clear.not_touched apart), Disk.bytesAt?, at_]
    exact Option.some_ne_none bytes
  have touched (q : Place) (at_ : q = goal s.here (Path.below w.root f.path) ∨
      w.HoldsCopy (Path.below w.root f.path) s q) :
      v.Touched s₀ (done ++ [(f, .ok .written)]) q :=
    ⟨(f, .ok .written), by simp, rfl, at_.imp (·.trans (h.placeOf f.path)) copies⟩
  refine h.next (.inl rfl) apart rfl rfl replaced.tree replaced.changes touched ?_
    (fun k other => (lookup_remember ..).trans (if_neg other)) (replaced.settled writable form way)
    remembered ?_
  · rintro x hx (same | copy)
    · exact apart x hx (same.trans (h.placeOf f.path))
    · obtain ⟨backup, there, copy⟩ := copies copy
      exact clear (f, .ok .written) (by simp) rfl backup there x (List.mem_append_left _ hx)
        (apart x hx) copy
  · rintro ⟨⟩

end Reaches

section Run

variable (home : IsHome s₀.here) (rooted : Text.Kept v.root.toList) (wet : v.options.dryRun = false)

include home rooted wet

/-- One file is written on the way, unless the machine fails. -/
lemma Reaches.ends_write {ε : Type} {E : ε → MachineState → Prop} (h : Reaches v s₀ done w s)
    (writable : IsWritable f)
    (apart : ∀ x ∈ done, v.placeOf s₀.here x.1.path ≠ v.placeOf s₀.here f.path) :
    Ends (attempt (w.write f.path f.content)) s (fun r s' =>
      (∀ e, r.map Prod.fst ≠ .error (.file e)) →
      v.KeepsClear s₀ (done ++ [(f, r.map Prod.fst)]) →
      Reaches v s₀ (done ++ [(f, r.map Prod.fst)]) (w.after r) s') E := by
  have idle {r : Except TextError WriteStatus} (seen : w.foresee s f.path f.content = r)
      (same : r.map WriteStatus.again = r) (busy : r ≠ .ok .written ∧ r ≠ .ok .unchanged)
      (noError : ∀ e, r ≠ .error (.file e)) : Reaches v s₀ (done ++ [(f, r)]) w s := by
    subst seen
    refine h.idle (same.symm ▸ settled_of_foresee writable.form busy.1 noError fun unchanged => ?_)
    exact absurd unchanged busy.2
  refine .attempt (ends_write_foreseen ?_)
  cases seen : w.foresee s f.path f.content with
  | error e =>
    rw [meets_error]
    exact fun noError _ => idle seen rfl ⟨nofun, nofun⟩ noError
  | ok status =>
    cases status with
    | conflict =>
      rw [meets_conflict]
      exact fun noError _ => idle seen rfl ⟨nofun, nofun⟩ noError
    | unchanged =>
      rw [meets_unchanged]
      exact fun _ _ => h.adopt home rooted writable apart seen
    | written =>
      obtain ⟨e, failed⟩ | ⟨e, failed, -⟩ | ⟨way, ⟨bytes, form⟩, -⟩ :=
        w.foresee_cases s f.path f.content
      · rw [seen] at failed
        cases failed
      · rw [seen] at failed
        cases failed
      rw [meets_written, h.options, if_neg (by simp [wet])]
      refine (ends_replace h.tree form).imp ?_ ?_
      · rintro _ s' ⟨rfl, replaced⟩ _ clear
        exact h.replace home rooted writable apart clear way form replaced
      · rintro _ s' ⟨⟨e, rfl⟩, -⟩ noError
        exact absurd rfl (noError e)

/-- All files are written on the way, unless the machine fails. -/
lemma Reaches.ends_writeEach {ε : Type} {E : ε → MachineState → Prop} :
    ∀ {files : List GeneratedFile} {done : List (GeneratedFile × Except TextError WriteStatus)}
      {w : Writer} {s : MachineState}, Reaches v s₀ done w s → (∀ g ∈ files, IsWritable g) →
    (∀ g ∈ files, ∀ x ∈ done, v.placeOf s₀.here x.1.path ≠ v.placeOf s₀.here g.path) →
    files.Pairwise (fun f g => v.placeOf s₀.here f.path ≠ v.placeOf s₀.here g.path) →
    Ends (writeEach w files) s (fun p s' => p.1.length = files.length ∧
      ((∀ e, .error (.file e) ∉ p.1) → v.KeepsClear s₀ (done ++ files.zip p.1) →
        Reaches v s₀ (done ++ files.zip p.1) p.2 s')) E
  | [], done, w, s, h, _, _, _ => by
    refine ends_pure.2 ⟨rfl, fun _ _ => ?_⟩
    rw [List.zip_nil_left, List.append_nil]
    exact h
  | f :: files, done, w, s, h, writable, fresh, apart => by
    obtain ⟨first, writable⟩ := List.forall_mem_cons.1 writable
    obtain ⟨new, fresh⟩ := List.forall_mem_cons.1 fresh
    obtain ⟨others, apart⟩ := List.pairwise_cons.1 apart
    rw [writeEach]
    refine .bind ((h.ends_write home rooted wet first new).imp (fun r s₁ step => ?_) fun _ _ => id)
    have part (rs : List (Except TextError WriteStatus)) :
        done ++ (f :: files).zip (r.map Prod.fst :: rs) =
          done ++ [(f, r.map Prod.fst)] ++ files.zip rs := by
      rw [List.zip_cons_cons, List.append_assoc, List.singleton_append]
    by_cases goes : (∀ e, r.map Prod.fst ≠ .error (.file e)) ∧
        v.KeepsClear s₀ (done ++ [(f, r.map Prod.fst)])
    · have fresh : ∀ g ∈ files, ∀ x ∈ done ++ [(f, r.map Prod.fst)],
          v.placeOf s₀.here x.1.path ≠ v.placeOf s₀.here g.path := fun g hg =>
        List.forall_mem_append.2 ⟨fresh g hg, List.forall_mem_singleton.2 (others g hg)⟩
      refine .bind (((step goes.1 goes.2).ends_writeEach writable fresh apart).imp
        (fun p s₂ follow => ends_pure.2 ⟨congrArg (· + 1) follow.1, fun noError clear => ?_⟩)
        fun _ _ => id)
      rw [part] at clear ⊢
      exact follow.2 (fun e he => noError e (List.mem_cons_of_mem _ he)) clear
    · -- A file that failed, or one where a copy went, is the end of what is promised.
      refine .bind ((Writer.ends_writeEach files _ _).imp (fun p s₂ same => ends_pure.2
        ⟨congrArg (· + 1) same, fun noError clear => absurd ⟨?_, ?_⟩ goes⟩) fun _ _ => id)
      · exact fun e failed => noError e (failed ▸ List.mem_cons_self)
      · rw [part] at clear
        exact clear.subset (List.subset_append_left ..)

end Run

/-! ### The second session -/

/-- The manifest is kept as it is, and all files stay settled. -/
lemma Reaches.ends_saveManifest (h : Reaches v s₀ done w s) (wet : v.options.dryRun = false)
    (load : loaded s₀ v.root = .ok v.manifest) (clean : v.dirty = false)
    (own : ∀ x ∈ done, v.placeOf s₀.here x.1.path ≠ goal s₀.here v.root ++ [Manifest.fileName]) :
    Ends w.saveManifest s (fun _ s₁ => ∃ kept, loaded s₁ v.root = .ok kept ∧ s₁.here = s₀.here ∧
      (∀ k, kept.lookup k = w.manifest.lookup k) ∧
      ∀ x ∈ done, Settled { v with manifest := kept } s₁ x.1 (x.2.map WriteStatus.again))
      fun _ _ => True := by
  refine (Writer.ends_saveManifest h.tree h.whole).imp ?_ fun _ _ _ => True.intro
  rintro _ s₁ (⟨rfl, rfl, idle⟩ | ⟨rfl, s₂, grown, led, puts⟩)
  · obtain ⟨rfl, rfl⟩ := h.clean (idle.resolve_left (by simp [h.options, wet]))
    exact ⟨_, load, rfl, fun _ => rfl, h.settled⟩
  · rw [h.root, h.changes.here] at puts led
    have changes := grown.changes.trans puts.changes
    have read := puts.textAt led (Manifest.decode_text h.whole)
    rw [Manifest.universalNewlines_text h.whole] at read
    refine ⟨w.manifest.sorted, loaded_of_text h.whole (puts.entryOf led) read,
      changes.here.trans h.changes.here, lookup_sorted h.whole, fun x hx => ?_⟩
    refine (h.settled x hx).stays changes ?_ h.root.symm ?_ (lookup_sorted h.whole _)
    · rw [h.placeOf]
      exact own x hx
    · rw [h.options]

/-- What a session leaves behind, and that the same session finds nothing to do there. -/
lemma ends_session_again {root : String} {options : WriteOptions} {files : List GeneratedFile}
    (tree : s.disk.IsTree) (home : IsHome s.here) (rooted : Text.Kept root.toList)
    (wet : options.dryRun = false) (writable : ∀ f ∈ files, IsWritable f)
    (apart : files.Pairwise fun f g =>
      goal s.here (Path.below root f.path) ≠ goal s.here (Path.below root g.path))
    (own : ∀ f ∈ files, goal s.here (Path.below root f.path) ≠
      goal s.here root ++ [Manifest.fileName]) :
    Ends (session root options files) s (fun results s₁ =>
      (∀ e, .error (.file e) ∉ results) → KeepsClear { root, options } s (files.zip results) →
      ∃ m kept, loaded s root = .ok m ∧ loaded s₁ root = .ok kept ∧
        (∀ x ∈ files.zip results, IsKept x.2 →
          s₁.textAt (Path.below root x.1.path) = .ok x.1.content ∧
          kept.lookup (keyAt { root } s.here x.1.path) = some (Digest.ofText x.1.content)) ∧
        (∀ k, (∀ x ∈ files.zip results, IsKept x.2 → k ≠ keyAt { root } s.here x.1.path) →
          kept.lookup k = m.lookup k) ∧
        onMachine (session root options files) s₁ =
          (.ok (results.map (Except.map WriteStatus.again)), s₁)) fun _ _ => True := by
  refine .bind (ends_open_loaded ?_)
  cases load : loaded s root with
  | error e => exact True.intro
  | ok m =>
    have start : Reaches { root, options, manifest := m } s [] { root, options, manifest := m } s :=
      { root := rfl
        options := rfl
        tree := tree
        changes := .refl s
        settled := by simp
        others := fun _ _ => rfl
        whole := isWhole_of_loaded load
        clean := fun _ => ⟨rfl, rfl⟩ }
    refine .bind ((start.ends_writeEach home rooted wet writable (by simp) apart).imp ?_
      fun _ _ => id)
    rintro ⟨results, w⟩ s' ⟨length, follow⟩
    by_cases goes : (∀ e, .error (.file e) ∉ results) ∧
        KeepsClear { root, options } s (files.zip results)
    swap
    · exact .bind (Ends.trivial.imp (fun _ _ _ => ends_pure.2 fun noError clear =>
        absurd ⟨noError, clear⟩ goes) fun _ _ => id)
    have reaches := follow goes.1 goes.2
    have own : ∀ x ∈ files.zip results, goal s.here (Path.below root x.1.path) ≠
        goal s.here root ++ [Manifest.fileName] := fun x hx => own x.1 (List.of_mem_zip hx).1
    refine .bind ((reaches.ends_saveManifest wet load rfl own).imp ?_ fun _ _ => id)
    rintro _ s₁ ⟨kept, load', here, lookup, settled⟩
    refine ends_pure.2 fun _ _ => ⟨m, kept, rfl, load', fun x hx isKept => ?_, fun k other => ?_, ?_⟩
    · have again : x.2.map WriteStatus.again = .ok .unchanged := by
        obtain same | same := isKept <;> rw [same] <;> rfl
      have done := settled x hx
      rw [again] at done
      have entry := done.remembered rfl
      rw [here] at entry
      exact ⟨(unchanged_of_foresee done.foreseen).2.2, entry⟩
    · exact (lookup k).trans (reaches.others k other)
    · refine (ends_session_settled load' ((List.length_map _).trans length) ?_).onMachine_eq
      rw [List.zip_map_right, List.forall_mem_map]
      exact settled

/-- A session leaves a state in which the same session finds nothing to do. Every file that was written
or had its text already has it then and stands in the manifest with its digest, and all other keys
have the digests that were loaded. The same session once more changes neither a file nor the manifest:
it finds those files unchanged and leaves those alone again that were edited. The files are in
different places, none of them in that of the manifest or of the copy of another one that is
overwritten, and no error of the machine comes in the way. -/
theorem regeneration_is_fixed {s s₁ : MachineState} {root : String} {options : WriteOptions}
    {files : List GeneratedFile} {results : List (Except TextError WriteStatus)}
    (tree : s.disk.IsTree) (home : IsHome s.here) (rooted : Text.Kept root.toList)
    (wet : options.dryRun = false) (writable : ∀ f ∈ files, IsWritable f)
    (apart : files.Pairwise fun f g =>
      goal s.here (Path.below root f.path) ≠ goal s.here (Path.below root g.path))
    (own : ∀ f ∈ files, goal s.here (Path.below root f.path) ≠
      goal s.here root ++ [Manifest.fileName])
    (run : onMachine (session root options files) s = (.ok results, s₁))
    (noError : ∀ e, .error (.file e) ∉ results)
    (clear : KeepsClear { root, options } s (files.zip results)) :
    ∃ m kept, loaded s root = .ok m ∧ loaded s₁ root = .ok kept ∧
      (∀ x ∈ files.zip results, IsKept x.2 →
        s₁.textAt (Path.below root x.1.path) = .ok x.1.content ∧
        kept.lookup (keyAt { root } s.here x.1.path) = some (Digest.ofText x.1.content)) ∧
      (∀ k, (∀ x ∈ files.zip results, IsKept x.2 → k ≠ keyAt { root } s.here x.1.path) →
        kept.lookup k = m.lookup k) ∧
      onMachine (session root options files) s₁ =
        (.ok (results.map (Except.map WriteStatus.again)), s₁) :=
  (ends_session_again tree home rooted wet writable apart own).of_ok run noError clear

/-! ### A session that is repeated -/

/-- A machine with a file that a session wrote before, and with one that somebody else wrote. -/
def editedMachine : MachineState :=
  let files : Manifest := [("a.ts", "7692c3ad3540bb80")]
  { disk := (((({} : Disk).put ["out"] .directory).put ["out", "a.ts"]
      (.file "one".toUTF8 0)).put ["out", "b.ts"] (.file "mine".toUTF8 0)).put
        ["out", Manifest.fileName] (.file files.text.toUTF8 0) }

/-- New texts for both files. -/
def editedFiles : List GeneratedFile :=
  [⟨"a.ts", "two"⟩, ⟨"b.ts", "two"⟩]

lemma isTree_editedMachine : editedMachine.disk.IsTree := by
  have entries : editedMachine.disk.entries = [(["out"], .directory),
      (["out", "a.ts"], .file "one".toUTF8 0), (["out", "b.ts"], .file "mine".toUTF8 0),
      (["out", Manifest.fileName],
        .file (Manifest.text [("a.ts", "7692c3ad3540bb80")]).toUTF8 0)] := rfl
  refine Disk.isTree_of_entries ?_
  rw [entries]
  simp only [List.forall_mem_cons]
  exact ⟨rfl, rfl, rfl, rfl, nofun⟩

/-- The file of the session is overwritten, with a copy, and then unchanged; the other one is left
alone both times. -/
theorem regeneration_is_fixed_edited :
    (onMachine (session "out" { backup := true } editedFiles) editedMachine).1 =
        .ok [.ok .written, .ok .conflict] ∧
    (∃ kept, loaded (onMachine (session "out" { backup := true } editedFiles) editedMachine).2 "out" =
        .ok kept ∧ kept.lookup "a.ts" = some (Digest.ofText "two")) ∧
    onMachine (session "out" { backup := true } editedFiles)
        (onMachine (session "out" { backup := true } editedFiles) editedMachine).2 =
      (.ok [.ok .unchanged, .ok .conflict],
        (onMachine (session "out" { backup := true } editedFiles) editedMachine).2) := by
  have run : (onMachine (session "out" { backup := true } editedFiles) editedMachine).1 =
      .ok [.ok .written, .ok .conflict] := by decide +kernel
  have home : IsHome editedMachine.here := ⟨by decide, Json.isReadable_of_plain
    (Text.isPlain_of_all (by decide))⟩
  have writable : ∀ f ∈ editedFiles, IsWritable f := by
    have plain {f : GeneratedFile} (path : (f.path.toList.all fun c => decide (Text.IsPlain c)) = true)
        (content : (f.content.toList.all fun c => decide (Text.IsPlain c)) = true) : IsWritable f :=
      have plain := Text.isPlain_of_all content
      { path := Text.kept_of_plain (Text.isPlain_of_all path)
        content := Text.kept_of_plain plain
        form := ⟨_, Text.encode_of_notMem fun mark => (plain _ mark).ne_halfMark rfl⟩
        noReturn := fun mark => (plain _ mark).ne_return rfl }
    simp only [editedFiles, List.forall_mem_cons]
    exact ⟨plain (by decide) (by decide), plain (by decide) (by decide), nofun⟩
  have clear : KeepsClear { root := "out", options := { backup := true } } editedMachine
      (editedFiles.zip [.ok .written, .ok .conflict]) := by
    have none : ∀ x ∈ editedFiles, ∀ y ∈ editedFiles, ¬IsCopyOf "/" (Path.below "out" x.path)
        (copyPath (Path.below "out" x.path)) (goal "/" (Path.below "out" y.path)) := by
      unfold IsCopyOf
      decide +kernel
    exact fun x hx _ _ _ y hy _ => none x.1 (List.of_mem_zip hx).1 y.1 (List.of_mem_zip hy).1
  have key : keyAt { root := "out" } editedMachine.here "a.ts" = "a.ts" := by decide +kernel
  obtain ⟨m, kept, -, load, entries, -, again⟩ := regeneration_is_fixed isTree_editedMachine home
    (Text.kept_of_plain (Text.isPlain_of_all (by decide))) rfl writable (by decide +kernel)
    (by decide +kernel) (onMachine_eq_of_fst run) (by simp) clear
  have entry := (entries (⟨"a.ts", "two"⟩, .ok .written) List.mem_cons_self (.inl rfl)).2
  rw [key] at entry
  exact ⟨run, ⟨kept, load, entry⟩, again⟩

end Writer

end ClientGen.Output
