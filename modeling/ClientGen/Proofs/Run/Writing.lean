import ClientGen.Proofs.Output.Remembering
import ClientGen.Proofs.Plan.Slots
import ClientGen.Proofs.Specification.Fetching

/-!
# What the manifest remembers of a run

A run that ends leaves the files that it wrote, or found as it would have written them, in its
manifest, and gives notice of a conflict for a file that was remembered before only where a carriage
return is in the way. A copy of what is overwritten may always come to stand on another file.
-/

namespace ClientGen

open Machine MachineState Output Path Specification Text
open Writer (storedAt)

/-! ### Places of a run -/

/-- A place that the copy of a written file may go to. -/
def SpecResult.MayCopyTo (r : SpecResult) (w : Writer) (here : String) (q : Place) : Prop :=
  w.options.dryRun = false ∧ w.options.backup = true ∧ ∃ path ∈ r.written,
    IsCopyOf here (Path.below w.root path) (Writer.copyPath (Path.below w.root path)) q

/-- The place of a file that was written, or found as it would have been written. -/
def SpecResult.Leaves (r : SpecResult) (w : Writer) (here : String) (q : Place) : Prop :=
  w.options.dryRun = false ∧ ∃ path, (path ∈ r.written ∨ path ∈ r.unchanged) ∧
    q = w.placeOf here path

/-- The bytes that one of some files has if it is written to the place. -/
def IsContent (files : List GeneratedFile) (w : Writer) (here : String) (q : Place)
    (bytes : ByteArray) : Prop :=
  ∃ f ∈ files, q = w.placeOf here f.path ∧ Text.encode f.content = .ok bytes

section Note

variable {r : SpecResult} {w : Writer} {here path p : String} {q : Place} {status : WriteStatus}

lemma SpecResult.mem_written_note :
    p ∈ (r.note path status).written ↔ p ∈ r.written ∨ status = .written ∧ p = path := by
  cases status <;> simp [note]

lemma SpecResult.mem_unchanged_note :
    p ∈ (r.note path status).unchanged ↔ p ∈ r.unchanged ∨ status = .unchanged ∧ p = path := by
  cases status <;> simp [note]

lemma SpecResult.mem_conflicts_note :
    p ∈ (r.note path status).conflicts ↔ p ∈ r.conflicts ∨ status = .conflict ∧ p = path := by
  cases status <;> simp [note]

lemma SpecResult.MayCopyTo.note (h : r.MayCopyTo w here q) :
    (r.note path status).MayCopyTo w here q := by
  obtain ⟨wet, backup, p, hp, copy⟩ := h
  exact ⟨wet, backup, p, mem_written_note.2 (.inl hp), copy⟩

/-- What is left after one more file was left before, or it is that file. -/
lemma SpecResult.Leaves.of_note (h : (r.note path status).Leaves w here q) :
    r.Leaves w here q ∨
      w.options.dryRun = false ∧ status ≠ .conflict ∧ q = w.placeOf here path := by
  obtain ⟨wet, p, hp, rfl⟩ := h
  rw [mem_written_note, mem_unchanged_note] at hp
  rcases hp with (hp | ⟨rfl, rfl⟩) | hp | ⟨rfl, rfl⟩
  · exact .inl ⟨wet, p, .inl hp, rfl⟩
  · exact .inr ⟨wet, nofun, rfl⟩
  · exact .inl ⟨wet, p, .inr hp, rfl⟩
  · exact .inr ⟨wet, nofun, rfl⟩

end Note

/-! ### Paths of generated files -/

section Paths

variable {w : Writer} {here root path : String} {q : Place}

lemma goal_join_below (here root path : String) :
    goal here (Path.below root path) = goal (join here root) path := by
  unfold Path.below
  rw [goal_tidy]
  unfold goal way
  rw [segments_join, segments_join, isAbsolute_join, segments_join, segments_join]
  cases isAbsolute path <;> cases isAbsolute root <;> simp

/-- A place of generated code: that of a name with the ending of a source file. -/
structure IsSourcePlace (q : Place) : Prop where
  named : ∃ front name, q = front ++ [name ++ ".ts"]
  parts : ∀ s ∈ q, IsSegment s

lemma IsSource.place (h : IsSource path) (here root : String) :
    IsSourcePlace (goal here (Path.below root path)) where
  named := goal_join_below here root path ▸ h.named _
  parts _ := isSegment_of_mem_goal

/-- Of two endings of one name, the shorter one ends the longer one. -/
lemma isSuffix_of_endings {front front' : Place} {a a' e e' : String}
    (h : front ++ [a ++ e] = front' ++ [a' ++ e']) (short : e.toList.length ≤ e'.toList.length) :
    e.toList <:+ e'.toList := by
  have same : (a ++ e).toList = (a' ++ e').toList :=
    congrArg String.toList (List.singleton_inj.1 (List.append_inj' h rfl).2)
  rw [String.toList_append, String.toList_append] at same
  exact List.suffix_of_suffix_length_le ⟨_, rfl⟩ ⟨_, same.symm⟩ short

lemma IsSourcePlace.ne_manifest (h : IsSourcePlace q) (base : Place) :
    q ≠ base ++ [Manifest.fileName] := by
  obtain ⟨front, name, rfl⟩ := h.named
  intro same
  have same : front ++ [name ++ ".ts"] = base ++ ["" ++ Manifest.fileName] := same
  exact absurd (isSuffix_of_endings same (by decide)) (by decide)

lemma IsSourcePlace.not_isFetched (h : IsSourcePlace q) : ¬IsFetched q := by
  obtain ⟨front, name, rfl⟩ := h.named
  rintro ⟨front', address, same | same⟩
  · exact absurd (isSuffix_of_endings same (by decide)) (by decide)
  · exact absurd (isSuffix_of_endings same (by decide)) (by decide)

/-- No fetched text stands where a manifest does. -/
lemma not_isFetched_manifest (base : Place) : ¬IsFetched (base ++ [Manifest.fileName]) := by
  have other (e : String) (short : e.toList.length ≤ Manifest.fileName.toList.length)
      (h : ¬e.toList <:+ Manifest.fileName.toList) {front : Place} {a : String} :
      base ++ ["" ++ Manifest.fileName] ≠ front ++ [a ++ e] :=
    fun same => h (isSuffix_of_endings same.symm short)
  rintro ⟨front, address, same | same⟩
  · exact other ".spec" (by decide) (by decide) same
  · exact other ".meta.json" (by decide) (by decide) same

lemma IsSource.isOwn (h : IsSource path) : Session.IsOwn ⟨here, w⟩ path where
  kept := h.kept
  noManifest := (h.place here w.root).ne_manifest

end Paths

/-! ### Writing the files of a plan -/

/-- How far writing some files has come: `w`, `r` and `s` are the writer, the result and the machine by
now, and `w₀` and `s₀` those at first. What is `trusted` was remembered at first. -/
structure Proceeds (trusted : Place → Prop) (files : List GeneratedFile) (w₀ : Writer)
    (s₀ : MachineState) (w : Writer) (r : SpecResult) (s : MachineState) : Prop where
  root : w.root = w₀.root
  options : w.options = w₀.options
  sound : w.manifest.IsSound
  clean : w.dirty = false → w.manifest = w₀.manifest
  here : s.here = s₀.here
  tree : s.disk.IsTree
  dry : w₀.options.dryRun = true → s = s₀
  stored : ∀ base, storedAt s.disk base = storedAt s₀.disk base
  /-- Whatever bytes a file has, it had them at first, or they are those of a planned file, or it may be
  a copy. -/
  bytes : ∀ q bytes, s.disk.bytesAt? q = some bytes → s₀.disk.bytesAt? q = some bytes ∨
    IsContent files w₀ s₀.here q bytes ∨ r.MayCopyTo w₀ s₀.here q
  left : ∀ q, r.Leaves w₀ s₀.here q → IsSourcePlace q
  remembered : ∀ q, trusted q ∨ r.Leaves w₀ s₀.here q →
    Remembers w.manifest (goal s₀.here w₀.root) s.disk q ∨ r.MayCopyTo w₀ s₀.here q
  conflicts : ∀ path ∈ r.conflicts, trusted (w₀.placeOf s₀.here path) →
    (∃ bytes, HoldsReturn bytes ∧ (s₀.disk.bytesAt? (w₀.placeOf s₀.here path) = some bytes ∨
      IsContent files w₀ s₀.here (w₀.placeOf s₀.here path) bytes)) ∨
    r.MayCopyTo w₀ s₀.here (w₀.placeOf s₀.here path)

section Proceeds

variable {trusted : Place → Prop} {files : List GeneratedFile} {w₀ w : Writer}
  {s₀ s s' : MachineState} {r : SpecResult} {f : GeneratedFile} {path content : String}

lemma Proceeds.placeOf (h : Proceeds trusted files w₀ s₀ w r s) (path : String) :
    w.placeOf s.here path = w₀.placeOf s₀.here path := by
  rw [Writer.placeOf, h.root, h.here]
  rfl

lemma Proceeds.keyAt (h : Proceeds trusted files w₀ s₀ w r s) (path : String) :
    w.keyAt s.here path = placeKey (goal s₀.here w₀.root) (w₀.placeOf s₀.here path) := by
  rw [keyAt_eq, h.placeOf, h.root, h.here]

lemma Proceeds.conflicts_note (h : Proceeds trusted files w₀ s₀ w r s) (path : String)
    (status : WriteStatus) (fresh : status = .conflict → trusted (w₀.placeOf s₀.here path) →
      (∃ bytes, HoldsReturn bytes ∧ s.disk.bytesAt? (w₀.placeOf s₀.here path) = some bytes) ∨
        r.MayCopyTo w₀ s₀.here (w₀.placeOf s₀.here path)) :
    ∀ p ∈ (r.note path status).conflicts, trusted (w₀.placeOf s₀.here p) →
      (∃ bytes, HoldsReturn bytes ∧ (s₀.disk.bytesAt? (w₀.placeOf s₀.here p) = some bytes ∨
        IsContent files w₀ s₀.here (w₀.placeOf s₀.here p) bytes)) ∨
      (r.note path status).MayCopyTo w₀ s₀.here (w₀.placeOf s₀.here p) := by
  intro p hp trust
  rcases SpecResult.mem_conflicts_note.1 hp with hp | ⟨conflict, rfl⟩
  · exact (h.conflicts p hp trust).imp_right .note
  · rcases fresh conflict trust with ⟨bytes, returns, found⟩ | copy
    · rcases h.bytes _ bytes found with before | content | copy
      · exact .inl ⟨bytes, returns, .inl before⟩
      · exact .inl ⟨bytes, returns, .inr content⟩
      · exact .inr copy.note
    · exact .inr copy.note

/-- When a file is remembered anew, what was remembered before still is, except for the copies. -/
lemma Proceeds.remembered_note (h : Proceeds trusted files w₀ s₀ w r s) (status : WriteStatus)
    (places : ∀ q, trusted q → IsSourcePlace q) {m : Manifest}
    (lookup : ∀ k, m.lookup k = if k = w.keyAt s.here path then some (Digest.ofText content)
      else w.manifest.lookup k)
    (own : Remembers m (goal s₀.here w₀.root) s'.disk (w₀.placeOf s₀.here path))
    (others : ∀ q, q ≠ w₀.placeOf s₀.here path → s'.disk.bytesAt? q = s.disk.bytesAt? q ∨
      (r.note path status).MayCopyTo w₀ s₀.here q) :
    ∀ q, trusted q ∨ (r.note path status).Leaves w₀ s₀.here q →
      Remembers m (goal s₀.here w₀.root) s'.disk q ∨
        (r.note path status).MayCopyTo w₀ s₀.here q := by
  intro q hq
  by_cases same : q = w₀.placeOf s₀.here path
  · exact .inl (same ▸ own)
  have before : trusted q ∨ r.Leaves w₀ s₀.here q :=
    hq.imp_right fun leaves => leaves.of_note.resolve_right fun ⟨_, _, at_⟩ => same at_
  have parts : ∀ x ∈ q, IsSegment x :=
    (before.elim (places q) (h.left q)).parts
  rcases h.remembered q before with known | copy
  · rcases others q same with kept | copy
    · refine .inl ((known.of_lookup ?_).congr kept)
      rw [lookup, if_neg]
      rw [h.keyAt]
      exact placeKey_ne (fun _ => isSegment_of_mem_goal) (fun _ => isSegment_of_mem_goal) parts same
    · exact .inr copy
  · exact .inr copy.note

lemma Proceeds.bytes_note (h : Proceeds trusted files w₀ s₀ w r s) (path : String)
    (status : WriteStatus) (q : Place) (bytes : ByteArray)
    (found : s.disk.bytesAt? q = some bytes) :
    s₀.disk.bytesAt? q = some bytes ∨ IsContent files w₀ s₀.here q bytes ∨
      (r.note path status).MayCopyTo w₀ s₀.here q :=
  (h.bytes q bytes found).imp_right (.imp_right .note)

lemma Proceeds.left_note (h : Proceeds trusted files w₀ s₀ w r s) (source : IsSource path)
    (status : WriteStatus) (q : Place) (leaves : (r.note path status).Leaves w₀ s₀.here q) :
    IsSourcePlace q := by
  obtain before | ⟨-, -, rfl⟩ := leaves.of_note
  · exact h.left q before
  · exact source.place s₀.here w₀.root

/-- When nothing is written, what was remembered before still is. -/
lemma Proceeds.remembered_idle (h : Proceeds trusted files w₀ s₀ w r s) (status : WriteStatus)
    (idle : w₀.options.dryRun = true ∨ status = .conflict) (q : Place)
    (hq : trusted q ∨ (r.note path status).Leaves w₀ s₀.here q) :
    Remembers w.manifest (goal s₀.here w₀.root) s.disk q ∨
      (r.note path status).MayCopyTo w₀ s₀.here q := by
  have before : trusted q ∨ r.Leaves w₀ s₀.here q := by
    refine hq.imp_right fun leaves => leaves.of_note.resolve_right ?_
    rintro ⟨wet, other, -⟩
    rcases idle with dry | conflict
    · rw [dry] at wet
      cases wet
    · exact other conflict
  exact (h.remembered q before).imp_right .note

/-- Writing proceeds with a file that is as it would be written. -/
lemma Proceeds.unchanged (h : Proceeds trusted files w₀ s₀ w r s)
    (places : ∀ q, trusted q → IsSourcePlace q) (home : IsHome s₀.here)
    (root : Kept w₀.root.toList) (source : IsSource path)
    (read : s.textAt (Path.below w.root path) = .ok content) :
    Proceeds trusted files w₀ s₀ (w.adopt (w.keyAt s.here path) content)
      (r.note path .unchanged) s := by
  obtain ⟨bytes, -, taken, -⟩ := textAt_eq_ok.1 read
  obtain ⟨place, -, found, -⟩ := readBytes_eq_ok.1 taken
  have readable : Json.IsReadable (w.keyAt s.here path) :=
    isReadable_keyAt (h.here ▸ home) (h.root ▸ root) source.kept (placeOf_eq_ok.1 found).1
  have entry := lookup_adopt w (w.keyAt s.here path) content
  have own : Remembers (w.adopt (w.keyAt s.here path) content).manifest
      (goal s₀.here w₀.root) s.disk (w₀.placeOf s₀.here path) := by
    rw [← h.placeOf, ← h.root, ← h.here]
    exact remembers_of_read read (by rw [entry, if_pos rfl])
  have remembered := h.remembered_note .unchanged places entry own fun _ _ => .inl rfl
  have conflicts := h.conflicts_note path .unchanged nofun
  obtain kept | new := adopt_cases w (w.keyAt s.here path) content
  · rw [kept] at remembered ⊢
    exact { h with
      bytes := h.bytes_note path _, left := h.left_note source _, remembered, conflicts }
  · rw [new] at remembered ⊢
    exact { h with
      sound := h.sound.setEntry readable, clean := nofun
      bytes := h.bytes_note path _, left := h.left_note source _, remembered, conflicts }

/-- Writing proceeds with a file that was edited, or holds a carriage return. -/
lemma Proceeds.conflict (h : Proceeds trusted files w₀ s₀ w r s) (source : IsSource path)
    {existing : String} (read : s.textAt (Path.below w.root path) = .ok existing)
    (edited : w.isEdited (w.keyAt s.here path) existing = true) :
    Proceeds trusted files w₀ s₀ w (r.note path .conflict) s := by
  refine { h with
    bytes := h.bytes_note path _, left := h.left_note source _
    remembered := h.remembered_idle _ (.inr rfl)
    conflicts := h.conflicts_note _ _ fun _ trust => ?_ }
  refine (h.remembered _ (.inl trust)).imp_left fun known => ?_
  rw [← h.placeOf, ← h.root, ← h.here] at known
  obtain ⟨bytes, found, returns⟩ := known.holdsReturn read edited
  rw [h.placeOf] at found
  exact ⟨bytes, returns, found⟩

/-- Writing proceeds with a file that is written. -/
lemma Proceeds.replaced (h : Proceeds trusted files w₀ s₀ w r s)
    (places : ∀ q, trusted q → IsSourcePlace q) (home : IsHome s₀.here)
    (root : Kept w₀.root.toList) (hf : f ∈ files) (source : IsSource f.path)
    (wet : w₀.options.dryRun = false) {bytes : ByteArray}
    (form : Text.encode f.content = .ok bytes)
    (replaced : w.Replaces (Path.below w.root f.path) bytes s s') (tree : s'.disk.IsTree)
    (stored : ∀ base, storedAt s'.disk base = storedAt s₀.disk base) :
    Proceeds trusted files w₀ s₀ (w.remember (w.keyAt s.here f.path) f.content)
      (r.note f.path .written) s' := by
  have target : goal s.here (Path.below w.root f.path) = w₀.placeOf s₀.here f.path := h.placeOf f.path
  have copies (q : Place) (copy : w.HoldsCopy (Path.below w.root f.path) s q) :
      (r.note f.path .written).MayCopyTo w₀ s₀.here q := by
    obtain ⟨backup, copy, -⟩ := copy
    rw [h.options] at backup
    rw [h.root, h.here] at copy
    exact ⟨wet, backup, f.path, SpecResult.mem_written_note.2 (.inr ⟨rfl, rfl⟩), copy⟩
  have entry := lookup_remember w (w.keyAt s.here f.path) f.content
  have new := replaced.bytesAt?_goal
  rw [target] at new
  have remembered := h.remembered_note .written places entry
    (remembers_of_encode form new (by rw [entry, if_pos (h.keyAt f.path).symm]))
    fun q other => by
      obtain kept | at_ | copy := replaced.bytesAt? q
      · exact .inl kept
      · exact absurd (at_.trans target) other
      · exact .inr (copies q copy)
  exact {
    root := h.root
    options := h.options
    sound := h.sound.setEntry
      (isReadable_keyAt (h.here ▸ home) (h.root ▸ root) source.kept replaced.ofPath?)
    clean := nofun
    here := replaced.here.trans h.here
    tree
    dry := fun dry => by
      rw [dry] at wet
      cases wet
    stored
    bytes := fun q bytes found => by
      obtain kept | at_ | copy := replaced.bytesAt? q
      · exact h.bytes_note f.path _ q bytes (kept ▸ found)
      · rw [target] at at_
        rw [at_, new] at found
        exact .inr (.inl ⟨f, hf, at_, Option.some.inj found ▸ form⟩)
      · exact .inr (.inr (copies q copy))
    left := h.left_note source _
    remembered
    conflicts := h.conflicts_note _ _ nofun }

/-- Writing one more file proceeds. -/
lemma Proceeds.written (h : Proceeds trusted files w₀ s₀ w r s)
    (places : ∀ q, trusted q → IsSourcePlace q) (home : IsHome s₀.here)
    (root : Kept w₀.root.toList) (hf : f ∈ files) (source : IsSource f.path)
    {x : WriteStatus × Writer} (wrote : w.Written s f.path f.content x s') :
    Proceeds trusted files w₀ s₀ x.2 (r.note f.path x.1) s' := by
  have own : Session.IsOwn ⟨s.here, w⟩ f.path := source.isOwn
  obtain ⟨tree, stored⟩ :=
    keeps_of_written (w := ⟨s, [], []⟩) (s := ⟨s.here, w⟩) h.tree own wrote
  cases wrote with
  | unchanged read => exact h.unchanged places home root source read
  | conflict read _ edited _ => exact h.conflict source read edited
  | announced dry _ =>
    rw [h.options] at dry
    exact { h with
      bytes := h.bytes_note f.path _, left := h.left_note source _
      remembered := h.remembered_idle _ (.inl dry)
      conflicts := h.conflicts_note _ _ nofun }
  | replaced wet _ form replaced =>
    rw [h.options] at wet
    exact h.replaced places home root hf source wet form replaced tree
      fun base => (stored base).trans (h.stored base)

/-- Writing starts with nothing written. -/
lemma proceeds_start (sound : w₀.manifest.IsSound) (tree : s₀.disk.IsTree)
    (known : ∀ q, trusted q → Remembers w₀.manifest (goal s₀.here w₀.root) s₀.disk q)
    (written : r.written = []) (unchanged : r.unchanged = []) (conflicts : r.conflicts = []) :
    Proceeds trusted files w₀ s₀ w₀ r s₀ where
  root := rfl
  options := rfl
  sound := sound
  clean _ := rfl
  here := rfl
  tree := tree
  dry _ := rfl
  stored _ := rfl
  bytes _ _ := .inl
  left q leaves := by
    obtain ⟨-, p, hp, -⟩ := leaves
    simp [written, unchanged] at hp
  remembered q hq := by
    rcases hq with trust | ⟨-, p, hp, -⟩
    · exact .inl (known q trust)
    · simp [written, unchanged] at hp
  conflicts := by simp [conflicts]

end Proceeds

/-- What writing one file keeps, writing all of them does. -/
lemma ends_writeFiles {J : Writer → SpecResult → MachineState → Prop}
    {E : TextError → MachineState → Prop} : ∀ {files : List GeneratedFile},
    (∀ f ∈ files, ∀ w r s, J w r s → Ends (w.write f.path f.content) s
      (fun x s' => J x.2 (r.note f.path x.1) s') E) →
    ∀ {w : Writer} {r : SpecResult} {s : MachineState}, J w r s →
      Ends (writeFiles w r files) s (fun x s' => J x.1 x.2 s') E
  | [], _, _, _, _, h => ends_pure.2 h
  | f :: rest, step, w, r, s, h => by
    obtain ⟨first, step⟩ := List.forall_mem_cons.1 step
    rw [writeFiles]
    exact .bind ((first w r s h).imp (fun x s' h => ends_writeFiles step h) fun _ _ => id)

/-- A machine on which work broke off: the manifests are those of before. -/
structure Breaks (s s' : MachineState) : Prop where
  tree : s'.disk.IsTree
  stored : ∀ base, storedAt s'.disk base = storedAt s.disk base

section Saving

variable {trusted : Place → Prop} {files : List GeneratedFile} {w₀ w : Writer}
  {s₀ s s' : MachineState} {r : SpecResult}

lemma Proceeds.ends (h : Proceeds trusted files w₀ s₀ w r s)
    (places : ∀ q, trusted q → IsSourcePlace q) (home : IsHome s₀.here)
    (root : Kept w₀.root.toList) (sources : ∀ f ∈ files, IsSource f.path) :
    Ends (writeFiles w r files) s (fun x s' => Proceeds trusted files w₀ s₀ x.1 x.2 s')
      fun _ s' => Breaks s₀ s' := by
  refine ends_writeFiles (J := Proceeds trusted files w₀ s₀) (fun f hf w r s h => ?_) h
  refine (Writer.ends_write h.tree).imp (fun x s' wrote => ?_) fun e s' fails => ?_
  · exact h.written places home root hf (sources f hf) wrote.1
  · have own : Session.IsOwn ⟨s.here, w⟩ f.path := (sources f hf).isOwn
    obtain ⟨tree, stored⟩ := keeps_of_fails (w := ⟨s, [], []⟩) (s := ⟨s.here, w⟩) h.tree own fails
    exact ⟨tree, fun base => (stored base).trans (h.stored base)⟩

/-- What a run that ends leaves: the manifest that is kept remembers the files that it wrote, or found
as it would have written them, and those that it remembered before. -/
structure Concludes (trusted : Place → Prop) (files : List GeneratedFile) (w₀ : Writer)
    (s₀ : MachineState) (r : SpecResult) (s' : MachineState) : Prop where
  tree : s'.disk.IsTree
  sound : (storedAt s'.disk (goal s₀.here w₀.root)).IsSound
  left : ∀ q, r.Leaves w₀ s₀.here q → IsSourcePlace q
  remembered : ∀ q, trusted q ∨ r.Leaves w₀ s₀.here q →
    Remembers (storedAt s'.disk (goal s₀.here w₀.root)) (goal s₀.here w₀.root) s'.disk q ∨
      r.MayCopyTo w₀ s₀.here q
  conflicts : ∀ path ∈ r.conflicts, trusted (w₀.placeOf s₀.here path) →
    (∃ bytes, HoldsReturn bytes ∧ (s₀.disk.bytesAt? (w₀.placeOf s₀.here path) = some bytes ∨
      IsContent files w₀ s₀.here (w₀.placeOf s₀.here path) bytes)) ∨
    r.MayCopyTo w₀ s₀.here (w₀.placeOf s₀.here path)

/-- Saving the manifest concludes a run. -/
lemma Proceeds.ends_saveManifest (h : Proceeds trusted files w₀ s₀ w r s)
    (places : ∀ q, trusted q → IsSourcePlace q)
    (opened : w₀.manifest = storedAt s₀.disk (goal s₀.here w₀.root))
    (sound : w₀.manifest.IsSound)
    (known : ∀ q, trusted q → Remembers w₀.manifest (goal s₀.here w₀.root) s₀.disk q) :
    Ends w.saveManifest s (fun _ s' => Concludes trusted files w₀ s₀ r s')
      fun _ s' => Breaks s₀ s' := by
  have base : goal s.here w.root = goal s₀.here w₀.root := by rw [h.here, h.root]
  refine (Writer.ends_saveManifest h.tree h.sound.isWhole).imp ?_ fun _ s' grown => ?_
  · rintro _ s' (⟨-, rfl, idle⟩ | ⟨-, s₁, grown, -, puts⟩)
    · -- The manifest that is kept is that of before.
      have stored : storedAt s'.disk (goal s₀.here w₀.root) = w₀.manifest :=
        (h.stored _).trans opened.symm
      refine ⟨h.tree, stored ▸ sound, h.left, fun q hq => ?_, h.conflicts⟩
      rw [stored]
      rcases idle with dry | clean
      · rw [h.options] at dry
        rcases hq with trust | ⟨wet, -⟩
        · rw [h.dry dry]
          exact .inl (known q trust)
        · rw [dry] at wet
          cases wet
      · rw [← h.clean clean]
        exact h.remembered q hq
    · rw [base] at puts
      have stored := storedAt_of_saved (w := ⟨s, [], []⟩) (s := ⟨s.here, w⟩) h.sound grown puts
        (goal s₀.here w₀.root)
      rw [if_pos rfl] at stored
      refine ⟨puts.tree grown.tree, stored ▸ Manifest.isSound_sorted h.sound, h.left,
        fun q hq => ?_, h.conflicts⟩
      have source : IsSourcePlace q := hq.elim (places q) (h.left q)
      have kept : s'.disk.bytesAt? q = s.disk.bytesAt? q := by
        rw [puts.bytesAt?, if_neg (source.ne_manifest _), grown.isWithin.bytesAt?]
      rw [stored]
      exact (h.remembered q hq).imp_left fun known =>
        (known.of_lookup (lookup_sorted h.sound.isWhole _)).congr kept
  · exact ⟨grown.tree, fun base =>
      (Writer.storedAt_congr (grown.isWithin.bytesAt? _)).trans (h.stored base)⟩

end Saving

end ClientGen
