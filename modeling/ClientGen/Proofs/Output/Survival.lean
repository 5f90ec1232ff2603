import ClientGen.Proofs.Output.Sessions

/-!
# Edits survive

Over a history of sessions, a text that somebody else put into a file is never replaced: a session
that comes upon it gives notice of a conflict. There are two ways around this. One is a path that
leads through a directory that is missing and back by two dots, where nothing is found before the
directory is made. The other is a path to the file of a manifest.
-/

namespace ClientGen.Output

open Machine MachineState Path Text
open Writer (storedAt)

section Survival

variable {start w : World} {s : Session} {path content existing : String}

/-- Two texts of a file are told apart by their digests: the one that it holds, and one that is known
of it. -/
def Session.IsApart (s : Session) (w : World) (path : String) : Prop :=
  ∀ existing text, (w.seenFrom s.here).textAt (Path.below s.writer.root path) = .ok existing →
    (s.placeOf path, text) ∈ w.known → Digest.ofText existing = Digest.ofText text →
    existing = text

/-- A text that is not edited, for a session that is not told to overwrite what is, is known. -/
lemma mem_known_of_mayReplace (sound : s.IsSound w.known) (apart : s.IsApart w path)
    (read : (w.seenFrom s.here).textAt (Path.below s.writer.root path) = .ok existing)
    (free : s.writer.MayReplace (w.seenFrom s.here) (Path.below s.writer.root path)
      (s.writer.keyAt s.here path) content) : (s.placeOf path, existing) ∈ w.known := by
  obtain ⟨e, missing, -⟩ | ⟨text, read', -, known | force⟩ := free
  · obtain ⟨bytes, -, taken, -⟩ := textAt_eq_ok.1 read
    obtain ⟨place, modified, found, at_⟩ := readBytes_eq_ok.1 taken
    rw [entryOf_eq_ok.2 ⟨place, found, at_⟩] at missing
    cases missing
  · obtain rfl := Except.ok.inj (read.symm.trans read')
    have entry : s.writer.manifest.lookup (s.writer.keyAt s.here path) =
        some (Digest.ofText existing) := bne_eq_false_iff_eq.1 known
    have key : keyPlace (goal s.here s.writer.root) (s.writer.keyAt s.here path) =
        s.placeOf path := keyPlace_keyAt
    obtain ⟨text, found, digest⟩ := sound.backed _ (mem_of_lookup entry)
    dsimp only at found digest
    rw [key] at found
    rwa [apart existing text read found digest]
  · rw [sound.gentle] at force
    cases force

/-- What a session may replace by writing a file is known, or the file that it makes is new. -/
lemma mem_known_of_replaces {bytes old : ByteArray} {machine : MachineState}
    (tree : w.machine.disk.IsTree) (sound : s.IsSound w.known) (apart : s.IsApart w path)
    (leads : ".." ∈ way s.here (Path.below s.writer.root path) →
      ∃ e, (w.seenFrom s.here).entryOf (Path.below s.writer.root path) = .ok e)
    (free : s.writer.MayReplace (w.seenFrom s.here) (Path.below s.writer.root path)
      (s.writer.keyAt s.here path) content)
    (replaced : s.writer.Replaces (Path.below s.writer.root path) bytes (w.seenFrom s.here) machine)
    (before : w.machine.disk.bytesAt? (s.placeOf path) = some old) :
    ∃ existing, (w.seenFrom s.here).textAt (Path.below s.writer.root path) = .ok existing ∧
      (s.placeOf path, existing) ∈ w.known := by
  rcases id free with ⟨e, missing, short⟩ | ⟨existing, read, -, -⟩
  · have dots : ".." ∉ way s.here (Path.below s.writer.root path) := by
      intro dots
      obtain ⟨entry, found⟩ := leads dots
      rw [found] at missing
      cases missing
    have none : w.machine.disk.at? (s.placeOf path) = none :=
      Writer.at?_goal_of_missing (s := w.seenFrom s.here) tree replaced.ofPath? dots missing short
    rw [Disk.bytesAt?, none] at before
    cases before
  · exact ⟨existing, read, mem_known_of_mayReplace sound apart read free⟩

/-- A session that writes a file replaces nothing but what is known of the file, and an older copy. -/
lemma replaces_known (world : w.IsSound) (live : s ∈ w.sessions) (apart : s.IsApart w path)
    (leads : ".." ∈ way s.here (Path.below s.writer.root path) →
      ∃ e, (w.seenFrom s.here).entryOf (Path.below s.writer.root path) = .ok e) (content : String)
    {q : Place} {old : ByteArray} (before : w.machine.disk.bytesAt? q = some old) :
    (onMachine (s.writer.write path content) (w.seenFrom s.here)).2.disk.bytesAt? q = some old ∨
      (q = s.placeOf path ∧ ∃ existing,
        (w.seenFrom s.here).textAt (Path.below s.writer.root path) = .ok existing ∧
        (s.placeOf path, existing) ∈ w.known) ∨
      s.writer.HoldsCopy (Path.below s.writer.root path) (w.seenFrom s.here) q := by
  have sound := world.sessions s live
  rcases run : onMachine (s.writer.write path content) (w.seenFrom s.here) with ⟨e | r, machine⟩
  · have fails := (Writer.ends_write (s := w.seenFrom s.here) world.tree).of_error run
    rcases fails with _ | _ | _ | _ | ⟨-, -, broken⟩
    case broken =>
      obtain same | copy := broken.bytesAt? q
      · exact .inl (same.trans before)
      · exact .inr (.inr copy)
    all_goals exact .inl before
  · have written := ((Writer.ends_write (s := w.seenFrom s.here) world.tree).of_ok run).1
    rcases written with _ | _ | _ | ⟨-, free, -, replaced⟩
    case replaced =>
      obtain same | at_ | copy := replaced.bytesAt? q
      · exact .inl (same.trans before)
      · have at_ : q = s.placeOf path := at_
        rw [at_] at before
        exact .inr (.inl ⟨at_,
          mem_known_of_replaces world.tree sound apart leads free replaced before⟩)
      · exact .inr (.inr copy)
    all_goals exact .inl before

/-- A session that writes a file over a text that is not known of it gives notice of a conflict. -/
lemma conflict_of_unknown (world : w.IsSound) (live : s ∈ w.sessions) (own : s.IsOwn path)
    (apart : s.IsApart w path)
    (read : (w.seenFrom s.here).textAt (Path.below s.writer.root path) = .ok existing)
    (differs : existing ≠ content) (unknown : (s.placeOf path, existing) ∉ w.known) :
    onMachine (s.writer.write path content) (w.seenFrom s.here) =
      (match Text.encode content with
        | .ok _ => .ok (.conflict, s.writer)
        | .error h => .error (.half h), w.seenFrom s.here) := by
  have sound := world.sessions s live
  obtain ⟨bytes, -, taken, -⟩ := textAt_eq_ok.1 read
  obtain ⟨place, modified, found, at_⟩ := readBytes_eq_ok.1 taken
  rcases run : onMachine (s.writer.write path content) (w.seenFrom s.here) with ⟨e | r, machine⟩
  · have fails := (Writer.ends_write (s := w.seenFrom s.here) world.tree).of_error run
    rcases fails with way | form | unseen | unread | ⟨-, free, -⟩
    · have fits := fits_of_ofPath? (placeOf_eq_ok.1 found).1
      rw [ofWay?_of_fits ⟨kept_below sound.root own.kept, fits⟩] at way
      cases way
    · rw [form]
    · rw [entryOf_eq_ok.2 ⟨place, found, at_⟩] at unseen
      cases unseen
    · rw [read] at unread
      cases unread
    · exact absurd (mem_known_of_mayReplace sound apart read free) unknown
  · obtain ⟨written, bytes, form⟩ := (Writer.ends_write (s := w.seenFrom s.here) world.tree).of_ok run
    rw [form]
    rcases written with same | _ | ⟨-, free⟩ | ⟨-, free, -, -⟩
    · rw [read] at same
      exact absurd (Except.ok.inj same) differs
    · rfl
    · exact absurd (mem_known_of_mayReplace sound apart read free) unknown
    · exact absurd (mem_known_of_mayReplace sound apart read free) unknown

/-- What was edited survives. Whatever happened before, a session that writes a file changes no file
but that one, and the copy of it that it may have been told to keep; and it replaces only a text that
was written to the file or found there before. Over any other text it gives notice of a conflict, and
nothing changes. A path that leads back by two dots has to lead to something. -/
theorem edits_survive (fresh : start.IsFresh)
    (history : Relation.ReflTransGen World.Step start w) (live : s ∈ w.sessions)
    (own : s.IsOwn path) (apart : s.IsApart w path)
    (leads : ".." ∈ way s.here (Path.below s.writer.root path) →
      ∃ e, (w.seenFrom s.here).entryOf (Path.below s.writer.root path) = .ok e) (content : String) :
    (∀ q old, w.machine.disk.bytesAt? q = some old →
      (onMachine (s.writer.write path content) (w.seenFrom s.here)).2.disk.bytesAt? q = some old ∨
      (q = s.placeOf path ∧ ∃ existing,
        (w.seenFrom s.here).textAt (Path.below s.writer.root path) = .ok existing ∧
        (s.placeOf path, existing) ∈ w.known) ∨
      s.writer.HoldsCopy (Path.below s.writer.root path) (w.seenFrom s.here) q) ∧
    ∀ existing, (w.seenFrom s.here).textAt (Path.below s.writer.root path) = .ok existing →
      existing ≠ content → (s.placeOf path, existing) ∉ w.known →
      onMachine (s.writer.write path content) (w.seenFrom s.here) =
        (match Text.encode content with
          | .ok _ => .ok (.conflict, s.writer)
          | .error h => .error (.half h), w.seenFrom s.here) :=
  have world := fresh.isSound.of_history history
  ⟨fun _ _ before => replaces_known world live apart leads content before,
    fun _ read differs unknown => conflict_of_unknown world live own apart read differs unknown⟩

end Survival

/-! ### A file that is edited -/

/-- A session at the root that writes files below `out`. -/
def sessionOut : Session := ⟨"/", { root := "out" }⟩

/-- The session when it wrote a file. -/
def sessionOne : Session :=
  ⟨"/", { root := "out", manifest := [("a.ts", Digest.ofText "one")], dirty := true }⟩

/-- A disk with a text in that file. -/
def diskOf (text : String) : Disk :=
  (({} : Disk).put ["out"] .directory).put ["out", "a.ts"] (.file text.toUTF8 0)

/-- The world when the session wrote the file, and somebody else then edited it. -/
def editedWorld : World :=
  ⟨{ disk := diskOf "mine" }, [sessionOne], [(sessionOne.placeOf "a.ts", "one")]⟩

lemma isTree_diskOf (text : String) : (diskOf text).IsTree := by
  have entries : (diskOf text).entries =
      [(["out"], .directory), (["out", "a.ts"], .file text.toUTF8 0)] := rfl
  refine Disk.isTree_of_entries ?_
  rw [entries]
  simp only [List.forall_mem_cons]
  exact ⟨rfl, rfl, nofun⟩

lemma isOwn_of_placeOf {s : Session} (h : s.placeOf "a.ts" = ["out", "a.ts"]) :
    s.IsOwn "a.ts" := by
  refine ⟨kept_of_plain (isPlain_of_all (by decide)), fun base form => ?_⟩
  have last := congrArg List.getLast? (h.symm.trans form)
  rw [List.getLast?_concat] at last
  exact absurd last (by decide +kernel)

lemma placeOf_sessionOne : sessionOne.placeOf "a.ts" = ["out", "a.ts"] := by
  decide +kernel

lemma textAt_editedWorld :
    (editedWorld.seenFrom sessionOne.here).textAt (Path.below "out" "a.ts") = .ok "mine" := by
  decide +kernel

lemma history_editedWorld : Relation.ReflTransGen World.Step { machine := {} } editedWorld := by
  have home : IsHome "/" := ⟨by decide, Json.isReadable_of_plain (isPlain_of_all (by decide))⟩
  have starts : onMachine (Writer.open_ "out" {}) (World.seenFrom { machine := {} } "/") =
      (.ok sessionOut.writer, {}) := by rfl
  have first : World.Step { machine := {} } ⟨{}, [sessionOut], []⟩ :=
    .starts home (kept_of_plain (isPlain_of_all (by decide))) (by rfl) starts
  have writes : (onMachine (sessionOut.writer.write "a.ts" "one")
      (World.seenFrom ⟨{}, [sessionOut], []⟩ sessionOut.here)).1 =
      .ok (.written, sessionOne.writer) := by decide +kernel
  have second := @World.Step.writes ⟨{}, [sessionOut], []⟩ [] [] sessionOut _ _ _ _ _ rfl
    (isOwn_of_placeOf (by decide +kernel)) (onMachine_eq_of_fst writes)
  refine ((Relation.ReflTransGen.single first).tail second).tail ?_
  exact .changes (isTree_diskOf "mine") fun base =>
    .inr (Writer.storedAt_of_names (by decide +kernel))

/-- A text that somebody else wrote over a file of a session is not replaced. -/
theorem edits_survive_mine :
    onMachine (sessionOne.writer.write "a.ts" "two") (editedWorld.seenFrom sessionOne.here) =
      (.ok (.conflict, sessionOne.writer), editedWorld.seenFrom sessionOne.here) := by
  have fresh : World.IsFresh { machine := {} } :=
    ⟨Disk.isTree_empty, fun base => Writer.storedAt_of_names (by simp), rfl, rfl⟩
  have digests : Digest.ofText "mine" ≠ Digest.ofText "one" := by decide +kernel
  have apart : sessionOne.IsApart editedWorld "a.ts" := by
    intro existing text read known same
    obtain rfl : "mine" = existing := Except.ok.inj (textAt_editedWorld.symm.trans read)
    obtain rfl : text = "one" := (Prod.mk.inj (List.mem_singleton.1 known)).2
    exact absurd same digests
  have unknown : (sessionOne.placeOf "a.ts", "mine") ∉ editedWorld.known := by
    intro known
    exact absurd (Prod.mk.inj (List.mem_singleton.1 known)).2 (by decide)
  have form : Text.encode "two" = .ok "two".toUTF8 := encode_of_notMem (by decide)
  have survives := (edits_survive fresh history_editedWorld (List.mem_singleton.2 rfl)
    (isOwn_of_placeOf placeOf_sessionOne) apart (by decide +kernel) "two").2 "mine"
    textAt_editedWorld (by decide) unknown
  rwa [form] at survives

/-- Through a directory that is missing, the same text is replaced. -/
example : (onMachine (sessionOne.writer.write "gone/../a.ts" "two")
    (editedWorld.seenFrom sessionOne.here)).2.disk.bytesAt? ["out", "a.ts"] =
      some "two".toUTF8 := by decide +kernel

end ClientGen.Output
