import ClientGen.Proofs.Machine.Beside
import ClientGen.Proofs.Specification.Fetching

/-!
# What a cache of files tells

A cache of files tells what files hold: a document that it finds for a version of a file is the one that
the file holds. It stays so whatever is written, as every change of a file has a time of its own. So
it makes no difference whether a document is found in a cache or read from its file.
-/

namespace ClientGen

open Document Machine MachineState Path Specification

variable {s s' : MachineState} {c c' : FileCache} {path full : String}

/-! ### Documents -/

namespace Specification

/-- A text is the same document wherever it was found. -/
lemma ofText_source {text source : String} {yaml : Bool} {v : Value}
    (h : ofText text source yaml = .ok v) (source' : String) : ofText text source' yaml = .ok v := by
  have read {fault : LoadFault} {v : Value} (h : ofYaml text source fault = .ok v) :
      ofYaml text source' fault = .ok v := by
    unfold ofYaml at h ⊢
    split at h <;> simp_all
  have same {v : Value} (h : valueOf text source yaml = .ok v) :
      valueOf text source' yaml = .ok v := by
    unfold valueOf at h ⊢
    cases yaml
    · revert h
      rcases Json.read text with (_ | _) | _
      · exact read
      · exact id
      · exact id
    · exact read h
  obtain ⟨v', value, map⟩ := bind_eq_ok h
  split at map
  · next isMap =>
    rw [ofText, same value]
    exact (if_pos isMap).trans map
  · cases map

/-- The bytes of a file are the text of a document. -/
def IsDocument (full : String) (bytes : ByteArray) (v : Value) : Prop :=
  ∃ text, Text.decode bytes = .ok text ∧ ∀ source, ofText text source (isYamlFile full) = .ok v

/-- A cached document is the one of its file, as long as that is in the version of the stamp. -/
structure CachedDocument.Tells (d : CachedDocument) (full : String) (s : MachineState) : Prop where
  /-- The version was there before now. -/
  version : ∃ size modified, d.stamp.status = .file size modified ∧ modified < s.clock
  document : ∀ bytes modified, s.disk.at? (goal s.here full) = some (.file bytes modified) →
    d.stamp.status = .file bytes.size modified → IsDocument full bytes d.document

/-- A cache tells what files hold. One without room tells nothing. -/
structure FileCache.Tells (c : FileCache) (s : MachineState) : Prop where
  entry : ∀ e ∈ c.entries, e.2.Tells e.1 s
  room : c.capacity = 0 → c.entries = []

lemma FileCache.tells_empty (capacity : Nat) (s : MachineState) :
    FileCache.Tells { capacity } s :=
  ⟨nofun, fun _ => rfl⟩

/-- Changes which make no file with an old time leave what a cache tells. -/
lemma FileCache.Tells.of_changes (h : c.Tells s) (here : s'.here = s.here)
    (clock : s.clock ≤ s'.clock) (files : ∀ q bytes modified,
      s'.disk.at? q = some (.file bytes modified) →
        s.disk.at? q = some (.file bytes modified) ∨ modified = s.clock) : c.Tells s' := by
  refine ⟨fun e he => ?_, h.room⟩
  obtain ⟨⟨size, time, stamp, before⟩, document⟩ := h.entry e he
  refine ⟨⟨size, time, stamp, by omega⟩, fun bytes modified found same => ?_⟩
  rw [here] at found
  rcases files _ _ _ found with old | rfl
  · exact document bytes modified old same
  · -- A file that has changed since is in no version of a stamp.
    rw [stamp] at same
    cases same
    omega

end Specification

/-! ### Sound caches -/

/-- No file was changed later than now. -/
def MachineState.IsDated (s : MachineState) : Prop :=
  ∀ q bytes modified, s.disk.at? q = some (.file bytes modified) → modified < s.clock

lemma isDated_of_entries (h : ∀ e ∈ s.disk.entries, ∀ bytes modified,
    e.2 = .file bytes modified → modified < s.clock) : s.IsDated := by
  intro q bytes modified found
  unfold Disk.at? at found
  split at found
  · cases found
  · exact h _ (mem_of_lookup found) bytes modified rfl

/-- A cache that tells what files hold, beside a machine whose disk is a tree with files of the past. -/
structure IsTold (c : FileCache) (s : MachineState) : Prop where
  tree : s.disk.IsTree
  dated : s.IsDated
  tells : c.Tells s

lemma IsTold.of_changes (h : IsTold c s) (tree : s'.disk.IsTree) (here : s'.here = s.here)
    (clock : s.clock ≤ s'.clock) (files : ∀ q bytes modified,
      s'.disk.at? q = some (.file bytes modified) →
        s.disk.at? q = some (.file bytes modified) ∨ modified = s.clock ∧ s.clock < s'.clock) :
    IsTold c s' := by
  refine ⟨tree, fun q bytes modified found => ?_, h.tells.of_changes here clock
    fun q bytes modified found => (files q bytes modified found).imp_right And.left⟩
  rcases files q bytes modified found with old | ⟨rfl, later⟩
  · have := h.dated q bytes modified old
    omega
  · omega

lemma IsTold.grows (h : IsTold c s) (grows : s.Grows s') : IsTold c s' := by
  obtain ⟨d, rfl, within, tree⟩ := grows
  refine h.of_changes tree rfl le_rfl fun q bytes modified found => .inl ?_
  rcases within q with same | ⟨-, new⟩
  · rw [← same]
    exact found
  · rw [new] at found
    cases found

lemma IsTold.puts {place : Place} {bytes : ByteArray} (h : IsTold c s)
    (puts : s.Puts place bytes s') : IsTold c s' := by
  have root : place ≠ [] := fun root => puts.new (root ▸ Disk.at?_root s.disk)
  obtain rfl := puts.after
  refine h.of_changes (puts.tree h.tree) rfl (Nat.le_succ _) fun q bytes' modified found => ?_
  rw [Disk.at?_put root] at found
  split at found
  · cases found
    exact .inr ⟨rfl, Nat.lt_succ_self _⟩
  · exact .inl found

/-- A service leaves what a cache tells. -/
lemma IsTold.served {α : Type} {z : StateM MachineState α} (h : IsTold c s) (asks : IsService true z) :
    IsTold c (z.run s).2 := by
  cases asks with
  | here | status _ | readBytes _ | names _ | time => exact h
  | writeBytes path bytes =>
    rw [run_writeBytes]
    obtain ⟨e, failed⟩ | ⟨place, s', -, puts, written⟩ := writeBytes_cases h.tree path bytes
    · rw [failed]
      exact h
    · rw [written]
      exact h.puts puts
  | makeDirectory path => exact h.grows (grows_makeDirectory h.tree path)
  | fetch address =>
    rw [snd_run_fetch]
    exact h
  | execute command directory =>
    have same : (s.execute command directory).2 =
        { s with executed := s.executed ++ [(command, directory)] } := by
      unfold MachineState.execute
      dsimp only
      split <;> rfl
    rw [run_execute, same]
    exact h.of_changes h.tree rfl le_rfl fun _ _ _ => .inl

/-! ### Getting documents -/

namespace Specification.FileCache

/-- The document of the file at the path `full`, called `path` in messages. -/
def fresh (s : MachineState) (path full : String) : Except Failure Value :=
  match s.readBytes full with
  | .error e => .error (.schema (.load (.unreadable e) path))
  | .ok bytes =>
    match Text.decode bytes with
    | .error e => .error (.encoding e)
    | .ok text => ofText text path (isYamlFile full)

/-- The document of a file as it is got without a look into the cache, if there is room to keep it. -/
def got (capacity : Nat) (s : MachineState) (path : String) : Except Failure Value :=
  match FileFault.ofWay? path with
  | some fault => .error (.file ⟨fault, path⟩)
  | none =>
    match s.status (resolve s.here path) with
    | .error e => .error (.schema (.load (.unreadable e) path))
    | .ok _ => do
      let v ← fresh s path (resolve s.here path)
      if capacity = 0 then .error .noRoom else .ok v

lemma fresh_eq_ok {v : Value} : fresh s path full = .ok v ↔
    ∃ bytes, s.readBytes full = .ok bytes ∧ IsDocument full bytes v := by
  unfold fresh IsDocument
  rcases s.readBytes full with e | bytes
  · exact ⟨nofun, fun ⟨_, read, _⟩ => nomatch read⟩
  · simp only [Except.ok.injEq, exists_eq_left']
    rcases Text.decode bytes with e | text
    · exact ⟨nofun, fun ⟨_, decoded, _⟩ => nomatch decoded⟩
    · simp only [Except.ok.injEq, exists_eq_left']
      exact ⟨ofText_source, fun told => told path⟩

/-- A file is read as its document. -/
lemma ends_readDocument (path full : String) : Ends (readDocument path full) s
    (fun v s' => s' = s ∧ fresh s path full = .ok v)
    fun e s' => s' = s ∧ fresh s path full = .error e := by
  unfold fresh
  refine .bind (.adapt (ends_tried ?_))
  rw [run_readBytes]
  rcases s.readBytes full with e | bytes
  · exact ⟨rfl, rfl⟩
  · refine .bind ?_
    dsimp only
    rcases Text.decode bytes with e | text
    · exact ends_throw.2 ⟨rfl, rfl⟩
    · refine ends_pure.2 ?_
      dsimp only
      rcases ofText text path (isYamlFile full) with e | v
      · exact ends_throw.2 ⟨rfl, rfl⟩
      · exact ends_pure.2 ⟨rfl, rfl⟩

/-- A cache with some room keeps a document, beside others that it held, and holds no more than it has
room for. -/
lemma exists_keep (room : c.capacity ≠ 0) (d : CachedDocument) : ∃ c', c.keep full d = .ok c' ∧
    c'.capacity = c.capacity ∧ (c.size ≤ c.capacity → c'.size ≤ c.capacity) ∧
    ∀ e ∈ c'.entries, e = (full, d) ∨ e ∈ c.entries := by
  have length (es : List (String × CachedDocument)) :
      (setEntry full d es).length ≤ es.length + 1 := by
    have keys : ((setEntry full d es).map Prod.fst).length = _ := congrArg _ map_fst_setEntry
    rw [List.length_map] at keys
    rw [keys, addNew]
    split <;> simp
  unfold keep size
  split
  · next free => exact ⟨_, rfl, rfl, fun _ => (length _).trans free, fun e he => mem_setEntry he⟩
  · next full_ =>
    cases entries : c.entries with
    | nil => simp [entries] at full_; omega
    | cons oldest rest =>
      refine ⟨_, rfl, rfl, fun bounded => (length _).trans bounded, fun e he => ?_⟩
      exact (mem_setEntry he).imp_right fun old => List.mem_cons_of_mem _ old

/-- A document that is kept is told, and a cache without room keeps none. -/
lemma keep_cases (h : c.Tells s) {d : CachedDocument} (told : d.Tells full s) :
    c.capacity = 0 ∧ c.keep full d = .error .noRoom ∨
      c.capacity ≠ 0 ∧ ∃ c', c.keep full d = .ok c' ∧ c'.Tells s ∧ c'.capacity = c.capacity := by
  by_cases none : c.capacity = 0
  · refine .inl ⟨none, ?_⟩
    have entries := h.room none
    unfold keep
    rw [if_neg (by omega), entries]
  · obtain ⟨c', kept, same, -, held⟩ := exists_keep none d
    refine .inr ⟨none, c', kept, ⟨fun e he => ?_, fun none' => absurd (same ▸ none') none⟩, same⟩
    obtain rfl | old := held e he
    · exact told
    · exact h.entry e old

/-- A file that can be read is known. -/
lemma status_of_readBytes {bytes : ByteArray} (h : s.readBytes full = .ok bytes) :
    ∃ modified, s.status full = .ok (.file bytes.size modified) ∧
      s.disk.at? (goal s.here full) = some (.file bytes modified) := by
  obtain ⟨place, modified, found, at_⟩ := readBytes_eq_ok.1 h
  have entry := entryOf_eq_ok.2 ⟨place, found, at_⟩
  refine ⟨modified, ?_, eq_goal_of_placeOf found ▸ at_⟩
  rw [MachineState.status, entry]

/-- A file that is known can be read. -/
lemma readBytes_of_status {size : Nat} {modified : Int}
    (h : s.status full = .ok (.file size modified)) :
    ∃ bytes, s.readBytes full = .ok bytes ∧ size = bytes.size ∧
      s.disk.at? (goal s.here full) = some (.file bytes modified) := by
  unfold MachineState.status at h
  split at h
  · cases h
  · cases h
  · next bytes time entry =>
    cases h
    obtain ⟨place, found, at_⟩ := entryOf_eq_ok.1 entry
    exact ⟨bytes, readBytes_eq_ok.2 ⟨place, _, found, at_⟩, rfl, eq_goal_of_placeOf found ▸ at_⟩

/-- A document that a cache finds is the one of its file, and there is room for it. -/
lemma fresh_of_lookup? (path : String) (h : c.Tells s) {status : Status} {v : Value}
    (known : s.status full = .ok status) (found : c.lookup? ⟨full, status⟩ = some v) :
    fresh s path full = .ok v ∧ c.capacity ≠ 0 := by
  unfold lookup? at found
  split at found
  case h_2 => cases found
  case h_1 d entry =>
    split at found
    case isFalse => cases found
    case isTrue same =>
      obtain rfl := Option.some.inj found
      have entry := mem_of_lookup entry
      obtain ⟨⟨size, modified, version, -⟩, document⟩ := h.entry _ entry
      have stamp : d.stamp.status = status := by rw [eq_of_beq same]
      dsimp only at version document
      rw [stamp] at version document
      subst version
      obtain ⟨bytes, read, rfl, at_⟩ := readBytes_of_status known
      refine ⟨fresh_eq_ok.2 ⟨bytes, read, document bytes modified at_ rfl⟩, fun none => ?_⟩
      rw [h.room none] at entry
      cases entry

/-- A document that was read is told by the version of its file. -/
lemma tells_of_fresh (dated : s.IsDated) {status : Status} {v : Value}
    (known : s.status full = .ok status) (read : fresh s path full = .ok v) :
    CachedDocument.Tells ⟨v, ⟨full, status⟩⟩ full s := by
  obtain ⟨bytes, read, document⟩ := fresh_eq_ok.1 read
  obtain ⟨modified, same, at_⟩ := status_of_readBytes read
  obtain rfl := Except.ok.inj (known.symm.trans same)
  refine ⟨⟨_, modified, rfl, dated _ _ _ at_⟩, fun bytes' modified' at' _ => ?_⟩
  rw [at_] at at'
  cases at'
  exact document

/-- What a cache answers, and what it is then: it finds the document for the version of the file, or reads
and keeps it. -/
def answer (c : FileCache) (s : MachineState) (path : String) : Except Failure (Value × FileCache) :=
  match FileFault.ofWay? path with
  | some fault => .error (.file ⟨fault, path⟩)
  | none =>
    match s.status (resolve s.here path) with
    | .error e => .error (.schema (.load (.unreadable e) path))
    | .ok version =>
      match c.lookup? ⟨resolve s.here path, version⟩ with
      | some v => .ok (v, c)
      | none => do
        let v ← fresh s path (resolve s.here path)
        let c ← c.keep (resolve s.here path) ⟨v, ⟨resolve s.here path, version⟩⟩
        return (v, c)

/-- A document is got as the cache answers. -/
lemma ends_get_answer (c : FileCache) (s : MachineState) (path : String) : Ends (c.get path) s
    (fun x s' => s' = s ∧ c.answer s (tidy path) = .ok x)
    fun e s' => s' = s ∧ c.answer s (tidy path) = .error e := by
  unfold get answer
  generalize tidy path = path
  refine .bind (.adapt (ends_resolved ?_))
  cases FileFault.ofWay? path with
  | some fault => exact ⟨rfl, rfl⟩
  | none =>
    refine .bind (.adapt (ends_tried ?_))
    rw [run_status]
    dsimp only
    cases s.status (resolve s.here path) with
    | error e => exact ⟨rfl, rfl⟩
    | ok status =>
      dsimp only
      cases c.lookup? ⟨resolve s.here path, status⟩ with
      | some v => exact ends_pure.2 ⟨rfl, rfl⟩
      | none =>
        refine .bind ((ends_readDocument path _).imp ?_ ?_)
        · rintro v s ⟨rfl, read⟩
          refine .bind ?_
          rw [read]
          dsimp only [bind, Except.bind]
          cases c.keep (resolve s.here path) ⟨v, ⟨resolve s.here path, status⟩⟩ with
          | error e => exact ends_throw.2 ⟨rfl, rfl⟩
          | ok c' => exact ends_pure.2 (ends_pure.2 ⟨rfl, rfl⟩)
        · rintro e s ⟨rfl, failed⟩
          rw [failed]
          exact ⟨rfl, rfl⟩

/-- With a cache that tells what files hold, a document is got as without it. -/
lemma ends_get (h : IsTold c s) (path : String) : Ends (c.get path) s
    (fun x s' => s' = s ∧ got c.capacity s (tidy path) = .ok x.1 ∧ IsTold x.2 s ∧
      x.2.capacity = c.capacity)
    fun e s' => s' = s ∧ got c.capacity s (tidy path) = .error e := by
  suffices same : match c.answer s (tidy path) with
      | .ok x => got c.capacity s (tidy path) = .ok x.1 ∧ IsTold x.2 s ∧ x.2.capacity = c.capacity
      | .error e => got c.capacity s (tidy path) = .error e by
    refine (ends_get_answer c s path).imp ?_ ?_
    · rintro x _ ⟨rfl, answered⟩
      rw [answered] at same
      exact ⟨rfl, same⟩
    · rintro e _ ⟨rfl, answered⟩
      rw [answered] at same
      exact ⟨rfl, same⟩
  unfold answer got
  generalize tidy path = path
  cases FileFault.ofWay? path with
  | some fault => rfl
  | none =>
    dsimp only
    cases known : s.status (resolve s.here path) with
    | error e => rfl
    | ok status =>
      dsimp only
      cases found : c.lookup? ⟨resolve s.here path, status⟩ with
      | some v =>
        obtain ⟨read, room⟩ := fresh_of_lookup? path h.tells known found
        rw [read]
        exact ⟨if_neg room, h, rfl⟩
      | none =>
        cases read : fresh s path (resolve s.here path) with
        | error e => rfl
        | ok v =>
          dsimp only [bind, Except.bind]
          rcases keep_cases h.tells (tells_of_fresh h.dated known read) with
            ⟨room, kept⟩ | ⟨room, c', kept, tells, same⟩
          · rw [kept]
            exact if_pos room
          · rw [kept]
            exact ⟨if_neg room, ⟨h.tree, h.dated, tells⟩, same⟩

end Specification.FileCache

/-! ### Caches that are alike -/

/-- Two caches with some room that tell what the files of one machine hold. -/
structure AreAlike (room : Nat) (p p' : FileCache × MachineState) : Prop where
  machine : p'.2 = p.2
  left : IsTold p.1 p.2
  right : IsTold p'.1 p.2
  leftRoom : p.1.capacity = room
  rightRoom : p'.1.capacity = room

lemma IsTold.alike (h : IsTold c s) : AreAlike c.capacity (c, s) (c, s) :=
  ⟨rfl, h, h, rfl, rfl⟩

section Alike

variable {room : Nat}

lemma areBlind_alike : AreBlind (AreAlike room) := by
  rintro ε α z asks log log' ⟨c, _⟩ ⟨c', s⟩ ⟨rfl, left, right, room, room'⟩
  have first : IsTold c (z.run s).2 := left.served asks
  have second : IsTold c' (z.run s).2 := right.served asks
  exact ⟨rfl, rfl, first, second, room, room'⟩

/-- What work comes to that takes the cache that goes along, and leaves another one if it ends well. -/
lemma comes_threaded {α ε : Type} (x : FileCache → Work (StateM MachineState) ε (α × FileCache))
    (log : Log) (c : FileCache) (s : MachineState) : comes (do
      let (a, c) ← lifted (x (← asked get))
      asked (set c)
      return a : Work (StateT FileCache (StateM MachineState)) ε α) log (c, s) =
        match ran (x c) log s with
        | ((.ok y, log'), s') => ((.ok y.1, log'), y.2, s')
        | ((.error e, log'), s') => ((.error e, log'), c, s') := by
  have held : comes (asked get : Work (StateT FileCache (StateM MachineState)) ε FileCache) log
      (c, s) = ((.ok c, log), c, s) := rfl
  rw [comes_bind, held]
  dsimp only
  rw [comes_bind, comes_lifted]
  rcases ran (x c) log s with ⟨⟨_ | _, _⟩, _⟩ <;> rfl

/-- Work with the cache that goes along does not see the difference between caches that are alike, if all
that it gets from a cache besides another one is the same for each of them. -/
lemma isBlind_threaded {α ε : Type} (x : FileCache → Work (StateM MachineState) ε (α × FileCache))
    (got : Nat → MachineState → Except ε α) (ends : ∀ c s, IsTold c s → Ends (x c) s
      (fun y s' => s' = s ∧ got c.capacity s = .ok y.1 ∧ IsTold y.2 s ∧ y.2.capacity = c.capacity)
      fun e s' => s' = s ∧ got c.capacity s = .error e) :
    IsBlind (AreAlike room) (do
      let (a, c) ← lifted (x (← asked get))
      asked (set c)
      return a : Work (StateT FileCache (StateM MachineState)) ε α) := by
  rintro log log' ⟨c, _⟩ ⟨c', s⟩ ⟨rfl, left, right, rfl, capacity⟩
  have ends₁ := (ends c s left).behind log
  have ends₂ := (ends c' s right).behind log'
  rw [comes_threaded, comes_threaded]
  rw [capacity] at ends₂
  revert ends₁ ends₂
  rcases ran (x c) log s with ⟨⟨_ | _, _⟩, _⟩ <;> rcases ran (x c') log' s with ⟨⟨_ | _, _⟩, _⟩
  · rintro ⟨rfl, first⟩ ⟨rfl, second⟩
    obtain rfl := Except.error.inj (first.symm.trans second)
    exact ⟨rfl, rfl, left, right, rfl, capacity⟩
  · exact fun ⟨_, first⟩ ⟨_, second, _⟩ => nomatch first.symm.trans second
  · exact fun ⟨_, first, _⟩ ⟨_, second⟩ => nomatch first.symm.trans second
  · rintro ⟨rfl, first, told, same⟩ ⟨rfl, second, told', same'⟩
    exact ⟨congrArg Except.ok (Except.ok.inj (first.symm.trans second)), rfl, told, told', same, same'⟩

/-- A document is the same whatever the caches hold that tell. -/
lemma isBlind_loadFile (path : String) : IsBlind (AreAlike room) (loadFile path) := by
  have lifts (c : FileCache) :
      (c.get path : Work (StateT FileCache (StateM MachineState)) _ _) = lifted (c.get path) :=
    (mirrors_get c path).eq_lifted
  refine (((mirrors_isThere path).isBlind areBlind_alike).adapt _).bind fun there => ?_
  simp only [getFile, lifts]
  cases there
  · exact isBlind_throw _
  · exact isBlind_threaded (fun c => c.get path) (fun room s => FileCache.got room s (tidy path))
      fun c s told => FileCache.ends_get told path

end Alike

end ClientGen
