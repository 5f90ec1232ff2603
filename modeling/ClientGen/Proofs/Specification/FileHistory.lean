import ClientGen.Proofs.Specification.Documents

/-!
# Histories of a cache of files

A cache of files over a history in which it is asked for documents and told to forget them, while the
files change. As long as the size and the time of a file tell its versions apart, asking the cache
is reading the file, and the cache holds no more documents than it has room for.
-/

namespace ClientGen.Specification

open Document Machine MachineState Path

variable {s : MachineState} {c c' : FileCache} {path full : String} {disks : List Disk}

/-! ### Reading without a cache -/

/-- The document of a file, read whatever a cache holds. -/
def readFile {m : Type → Type} [Monad m] [Machine m] (path : String) : Work m Failure Value := do
  let path := tidy path
  FileCache.readDocument path (← (resolved path).adapt Failure.file)

/-- What a file is read as. -/
def FileCache.uncached (s : MachineState) (path : String) : Except Failure Value :=
  match FileFault.ofWay? path with
  | some fault => .error (.file ⟨fault, path⟩)
  | none => fresh s path (resolve s.here path)

lemma ends_readFile (path : String) : Ends (readFile path) s
    (fun v s' => s' = s ∧ FileCache.uncached s (tidy path) = .ok v)
    fun e s' => s' = s ∧ FileCache.uncached s (tidy path) = .error e := by
  unfold readFile FileCache.uncached
  generalize tidy path = path
  refine .bind (.adapt ?_)
  refine ends_resolved ?_
  cases FileFault.ofWay? path with
  | some fault => exact ⟨rfl, rfl⟩
  | none => exact FileCache.ends_readDocument _ _

lemma onMachine_readFile (path : String) :
    onMachine (readFile path) s = (FileCache.uncached s (tidy path), s) := by
  obtain ⟨log, ran⟩ := (ends_readFile path).exists_ran []
  rw [onMachine, ran]

/-! ### Versions of files -/

/-- A file at a place had these bytes since this time, on one of the disks. -/
def IsVersion (disks : List Disk) (place : Place) (bytes : ByteArray) (modified : Int) : Prop :=
  ∃ d ∈ disks, d.at? place = some (.file bytes modified)

/-- No two versions of a file have the same size and the same time. -/
def VersionsDiffer (disks : List Disk) : Prop :=
  ∀ place bytes bytes' modified, IsVersion disks place bytes modified →
    IsVersion disks place bytes' modified → bytes.size = bytes'.size → bytes = bytes'

/-! ### What a cache remembers -/

/-- A cached document is the one of some version of its file. -/
def CachedDocument.IsOfVersion (d : CachedDocument) (disks : List Disk) (here full : String) : Prop :=
  ∃ bytes modified, IsVersion disks (goal here full) bytes modified ∧
    d.stamp.status = .file bytes.size modified ∧ IsDocument full bytes d.document

/-- A cache with some room that holds documents of versions of their files, and no more than it has room
for, beside a machine with one of the disks. -/
structure Remembers (disks : List Disk) (c : FileCache) (s : MachineState) : Prop where
  disk : s.disk ∈ disks
  room : c.capacity ≠ 0
  bounded : c.size ≤ c.capacity
  entry : ∀ e ∈ c.entries, e.2.IsOfVersion disks s.here e.1

namespace FileCache

/-- A document that is read is the one of a version of its file. -/
lemma isOfVersion_of_fresh (h : s.disk ∈ disks) {status : Status} {v : Value}
    (known : s.status full = .ok status) (read : fresh s path full = .ok v) :
    CachedDocument.IsOfVersion ⟨v, ⟨full, status⟩⟩ disks s.here full := by
  obtain ⟨bytes, read, document⟩ := fresh_eq_ok.1 read
  obtain ⟨modified, same, at_⟩ := status_of_readBytes read
  obtain rfl := Except.ok.inj (known.symm.trans same)
  exact ⟨bytes, modified, ⟨_, h, at_⟩, rfl, document⟩

/-- A document that is found for the version of a file is the one of its bytes. -/
lemma fresh_of_found (path : String) (h : Remembers disks c s) (differ : VersionsDiffer disks)
    {status : Status} {v : Value} (known : s.status full = .ok status)
    (found : c.lookup? ⟨full, status⟩ = some v) : fresh s path full = .ok v := by
  unfold lookup? at found
  split at found
  case h_2 => cases found
  case h_1 d entry =>
    split at found
    case isFalse => cases found
    case isTrue same =>
      obtain rfl := Option.some.inj found
      obtain ⟨bytes, modified, version, stamp, document⟩ := h.entry _ (mem_of_lookup entry)
      rw [eq_of_beq same] at stamp
      dsimp only at stamp
      subst stamp
      obtain ⟨bytes', read, size, at_⟩ := readBytes_of_status known
      obtain rfl := differ _ _ _ _ version ⟨_, h.disk, at_⟩ size
      exact fresh_eq_ok.2 ⟨bytes, read, document⟩

/-- A file that is not known cannot be read. -/
lemma fresh_of_unknown {e : FileError} (h : s.status full = .error e) :
    fresh s path full = .error (.schema (.load (.unreadable e) path)) := by
  unfold MachineState.status at h
  split at h
  · next failed =>
    cases h
    rw [fresh, MachineState.readBytes, failed]
  · cases h
  · cases h

/-- A cache that remembers versions answers what the file is read as. -/
lemma answer_of_remembers (h : Remembers disks c s) (differ : VersionsDiffer disks) (path : String) :
    (∃ v c', uncached s path = .ok v ∧ c.answer s path = .ok (v, c') ∧ Remembers disks c' s ∧
      c'.capacity = c.capacity) ∨
    ∃ e, uncached s path = .error e ∧ c.answer s path = .error e := by
  unfold answer uncached
  cases FileFault.ofWay? path with
  | some fault => exact .inr ⟨_, rfl, rfl⟩
  | none =>
    dsimp only
    generalize resolve s.here path = full
    cases known : s.status full with
    | error e => exact .inr ⟨_, fresh_of_unknown known, rfl⟩
    | ok status =>
      dsimp only
      cases found : c.lookup? ⟨full, status⟩ with
      | some v => exact .inl ⟨v, c, fresh_of_found path h differ known found, rfl, h, rfl⟩
      | none =>
        cases read : fresh s path full with
        | error e => exact .inr ⟨e, rfl, rfl⟩
        | ok v =>
          obtain ⟨c', kept, same, bounded, held⟩ := exists_keep h.room ⟨v, ⟨full, status⟩⟩
          have entry : ∀ e ∈ c'.entries, e.2.IsOfVersion disks s.here e.1 := fun e he => by
            obtain rfl | old := held e he
            · exact isOfVersion_of_fresh h.disk known read
            · exact h.entry e old
          refine .inl ⟨v, c', rfl, ?_, ⟨h.disk, same ▸ h.room, same ▸ bounded h.bounded, entry⟩, same⟩
          dsimp only [bind, Except.bind]
          rw [kept]
          rfl

end FileCache

/-! ### What happens to a cache -/

/-- What can happen to a cache of files. -/
inductive FileEvent
  /-- The document of a file is asked for. -/
  | get (path : String)
  /-- The document of a path should be forgotten, or all where none is given. -/
  | forget (path : Option String)
  /-- The files are others: some were made, rewritten or deleted. -/
  | change (disk : Disk)

/-- The disk that an event brings. -/
def FileEvent.disk? : FileEvent → Option Disk
  | .change disk => some disk
  | _ => none

/-- The cache and the machine after an event. -/
def FileEvent.happen (p : FileCache × MachineState) : FileEvent → FileCache × MachineState
  | .get path => (onBoth (getFile path) p.1 p.2).2
  | .forget path => (onBoth (forgetFile path) p.1 p.2).2
  | .change disk => (p.1, { p.2 with disk })

/-- The cache and the machine after some events. -/
def happened (p : FileCache × MachineState) (events : List FileEvent) : FileCache × MachineState :=
  events.foldl FileEvent.happen p

/-- All disks of a history. -/
def disksOf (s : MachineState) (events : List FileEvent) : List Disk :=
  s.disk :: events.filterMap FileEvent.disk?

lemma onBoth_eq_comes {σ ε α : Type} (x : Work (StateT σ (StateM MachineState)) ε α) (c : σ)
    (s : MachineState) : onBoth x c s = ((comes x [] (c, s)).1.1, (comes x [] (c, s)).2) := rfl

/-- Getting a document through the cache comes to what the cache answers. An error leaves the cache as it
was. -/
lemma onBoth_getFile (path : String) (c : FileCache) (s : MachineState) :
    onBoth (getFile path) c s = match c.answer s (tidy path) with
      | .ok (v, c') => (.ok v, c', s)
      | .error e => (.error e, c, s) := by
  have lifts (c : FileCache) :
      (c.get path : Work (StateT FileCache (StateM MachineState)) _ _) = lifted (c.get path) :=
    (mirrors_get c path).eq_lifted
  obtain ⟨log, ran⟩ := (FileCache.ends_get_answer c s path).exists_ran []
  rw [onBoth_eq_comes]
  simp only [getFile, lifts]
  rw [comes_threaded fun c => c.get path, ran]
  cases c.answer s (tidy path) <;> rfl

lemma ends_invalidate (c : FileCache) (path : Option String) : Ends (c.invalidate path) s
    (fun c' s' => s' = s ∧ ∃ kept, c' = { c with entries := c.entries.filter kept })
    fun _ s' => s' = s := by
  unfold FileCache.invalidate
  cases path with
  | none => exact ends_pure.2 ⟨rfl, fun _ => false, by simp [FileCache.clear]⟩
  | some path =>
    dsimp only
    generalize tidy path = path
    refine .bind (.adapt ?_)
    refine ends_resolved ?_
    cases FileFault.ofWay? path with
    | some fault => rfl
    | none => exact ends_pure.2 ⟨rfl, _, rfl⟩

/-- Forgetting takes entries away, or fails and leaves all as it was. -/
lemma onBoth_forgetFile (path : Option String) (c : FileCache) (s : MachineState) :
    ∃ kept, (onBoth (forgetFile path) c s).2 = ({ c with entries := c.entries.filter kept }, s) := by
  have lifts (c : FileCache) : (c.invalidate path : Work (StateT FileCache (StateM MachineState)) _ _) =
      lifted (c.invalidate path) :=
    (mirrors_invalidate c path).eq_lifted
  have held : comes (asked get : Work (StateT FileCache (StateM MachineState)) Failure FileCache) []
      (c, s) = ((.ok c, []), c, s) := rfl
  have ends := ends_invalidate (s := s) c path
  rw [onBoth_eq_comes]
  simp only [forgetFile, lifts]
  rw [comes_bind, held]
  dsimp only
  rw [comes_bind, comes_lifted]
  generalize (c.invalidate path : Work (StateM MachineState) Failure FileCache) = x at ends ⊢
  have ends := ends.behind []
  revert ends
  rcases ran x [] s with ⟨⟨_ | _, _⟩, _⟩
  · rintro rfl
    exact ⟨fun _ => true, by simp⟩
  · rintro ⟨rfl, kept, rfl⟩
    exact ⟨kept, rfl⟩

/-! ### What a history keeps -/

lemma Remembers.happen (h : Remembers disks c s) (differ : VersionsDiffer disks) (event : FileEvent)
    (disk : ∀ d, event.disk? = some d → d ∈ disks) :
    Remembers disks (event.happen (c, s)).1 (event.happen (c, s)).2 ∧
      (event.happen (c, s)).1.capacity = c.capacity := by
  cases event with
  | get path =>
    rw [FileEvent.happen, onBoth_getFile]
    obtain ⟨v, c', -, answered, remembers, same⟩ | ⟨e, -, answered⟩ :=
      FileCache.answer_of_remembers h differ (tidy path)
    · rw [answered]
      exact ⟨remembers, same⟩
    · rw [answered]
      exact ⟨h, rfl⟩
  | forget path =>
    obtain ⟨kept, after⟩ := onBoth_forgetFile path c s
    rw [FileEvent.happen, after]
    exact ⟨⟨h.disk, h.room, (List.length_filter_le _ _).trans h.bounded,
      fun e he => h.entry e (List.mem_of_mem_filter he)⟩, rfl⟩
  | change d => exact ⟨⟨disk d rfl, h.room, h.bounded, h.entry⟩, rfl⟩

lemma Remembers.happened (differ : VersionsDiffer disks) : ∀ (events : List FileEvent)
    (p : FileCache × MachineState), Remembers disks p.1 p.2 →
      (∀ d ∈ events.filterMap FileEvent.disk?, d ∈ disks) →
      Remembers disks (happened p events).1 (happened p events).2 ∧
        (happened p events).1.capacity = p.1.capacity
  | [], p, h, _ => ⟨h, rfl⟩
  | event :: rest, p, h, all => by
    obtain ⟨next, same⟩ := h.happen differ event fun d brought =>
      all d (List.mem_filterMap.2 ⟨event, by simp, brought⟩)
    obtain ⟨last, same'⟩ := Remembers.happened differ rest (event.happen p) next fun d hd => by
      obtain ⟨e, he, brought⟩ := List.mem_filterMap.1 hd
      exact all d (List.mem_filterMap.2 ⟨e, List.mem_cons_of_mem _ he, brought⟩)
    exact ⟨last, same'.trans same⟩

/-- Asking a cache for the document of a file is reading the file, whatever documents it was asked for
and was told to forget before, and however the files changed, if their sizes and times tell their
versions apart. It never holds more documents than it has room for, and an error leaves it as it was. -/
theorem getFile_eq_readFile {capacity : Nat} (room : 1 ≤ capacity) (s : MachineState)
    (events : List FileEvent) (differ : VersionsDiffer (disksOf s events)) :
    let (c, t) := happened ({ capacity }, s) events
    c.size ≤ capacity ∧ ∀ path,
      (∃ v c', onMachine (readFile path) t = (.ok v, t) ∧
        onBoth (getFile path) c t = (.ok v, c', t) ∧ c'.size ≤ capacity) ∨
      ∃ e, onMachine (readFile path) t = (.error e, t) ∧
        onBoth (getFile path) c t = (.error e, c, t) := by
  have start : Remembers (disksOf s events) { capacity } s :=
    ⟨List.mem_cons_self, by dsimp only; omega, Nat.zero_le _, nofun⟩
  obtain ⟨after, same⟩ := Remembers.happened differ events ({ capacity }, s) start fun d hd =>
    List.mem_cons_of_mem _ hd
  revert after same
  rcases happened ({ capacity }, s) events with ⟨c, t⟩
  intro after same
  have same : c.capacity = capacity := same
  refine ⟨same ▸ after.bounded, fun path => ?_⟩
  obtain ⟨v, c', read, answered, remembers, same'⟩ | ⟨e, failed, answered⟩ :=
    FileCache.answer_of_remembers after differ (tidy path)
  · refine .inl ⟨v, c', ?_, ?_, same ▸ same' ▸ remembers.bounded⟩
    · rw [onMachine_readFile, read]
    · rw [onBoth_getFile, answered]
  · refine .inr ⟨e, ?_, ?_⟩
    · rw [onMachine_readFile, failed]
    · rw [onBoth_getFile, answered]

/-- With room for one document: two files are read in turn, one is rewritten to a text of the same size
and read again, and in the end it is forgotten and all files are deleted. -/
theorem getFile_eq_readFile_rewritten :
    let disk (text : String) (modified : Int) : Disk :=
      ⟨[(["a.yaml"], .file (Text.bytesOf text) modified), (["b.yaml"], .file (Text.bytesOf "b: 1") 1)]⟩
    let s : MachineState := { disk := disk "a: 1" 1 }
    let events : List FileEvent := [.get "a.yaml", .get "b.yaml", .change (disk "a: 2" 2),
      .get "a.yaml", .forget (some "a.yaml"), .change ⟨[]⟩]
    let (c, t) := happened ({ capacity := 1 }, s) events
    VersionsDiffer (disksOf s events) ∧ c.size ≤ 1 ∧ ∀ path,
      (∃ v c', onMachine (readFile path) t = (.ok v, t) ∧
        onBoth (getFile path) c t = (.ok v, c', t) ∧ c'.size ≤ 1) ∨
      ∃ e, onMachine (readFile path) t = (.error e, t) ∧
        onBoth (getFile path) c t = (.error e, c, t) := by
  intro disk s events
  have version {place : Place} {bytes : ByteArray} {modified : Int}
      (h : IsVersion (disksOf s events) place bytes modified) :
      place = ["b.yaml"] ∧ bytes = Text.bytesOf "b: 1" ∨ place = ["a.yaml"] ∧
        (modified = 1 ∧ bytes = Text.bytesOf "a: 1" ∨
          modified = 2 ∧ bytes = Text.bytesOf "a: 2") := by
    obtain ⟨d, hd, at_⟩ := h
    have entry : (place, Entry.file bytes modified) ∈ d.entries := by
      unfold Disk.at? at at_
      split at at_
      · cases at_
      · exact mem_of_lookup at_
    have hd : d = disk "a: 1" 1 ∨ d = disk "a: 2" 2 ∨ d = ⟨[]⟩ := by
      simpa [disksOf, events, s, FileEvent.disk?, eq_comm] using hd
    obtain rfl | rfl | rfl := hd
    · obtain h | h : _ ∨ _ := by simpa [disk] using entry
      · exact .inr ⟨h.1, .inl ⟨h.2.2, h.2.1⟩⟩
      · exact .inl ⟨h.1, h.2.1⟩
    · obtain h | h : _ ∨ _ := by simpa [disk] using entry
      · exact .inr ⟨h.1, .inr ⟨h.2.2, h.2.1⟩⟩
      · exact .inl ⟨h.1, h.2.1⟩
    · cases entry
  have differ : VersionsDiffer (disksOf s events) := by
    rintro place bytes bytes' modified first second -
    obtain ⟨rfl, rfl⟩ | ⟨rfl, ⟨rfl, rfl⟩ | ⟨rfl, rfl⟩⟩ := version first <;>
      obtain ⟨other, rfl⟩ | ⟨other, ⟨time, rfl⟩ | ⟨time, rfl⟩⟩ := version second <;> simp_all
  exact ⟨differ, getFile_eq_readFile le_rfl s events differ⟩

end ClientGen.Specification
