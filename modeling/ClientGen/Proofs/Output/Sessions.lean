import ClientGen.Proofs.Output.Writer
import Mathlib.Logic.Relation

/-!
# Sessions of writing

What becomes of the files below a directory over a history of sessions, each with a writer of its own,
and of changes that somebody else makes in between. Whatever is in a manifest was written by a session
to the file that its key means, or was found there as the session would have written it. So a file
with any other text is left alone.
-/

namespace ClientGen.Output

open Machine MachineState Path Text
open Writer (storedAt)

/-! ### Keys -/

/-- The place that a key means in the manifest of a directory. -/
def keyPlace (base : Place) (key : String) : Place :=
  if isAbsolute key then segments key else base ++ segments key

/-- A directory that a session runs in: a readable path from the root. -/
structure IsHome (here : String) : Prop where
  root : isAbsolute here = true
  readable : Json.IsReadable here

section Keys

variable {here root path full content : String} {w : Writer} {s : MachineState}

/-- The segments behind those of a directory. -/
lemma within?_eq_some {directory inner : String} (h : within? directory path = some inner) :
    ∃ rest, segments path = segments directory ++ rest ∧
      inner = if rest.isEmpty then "." else "/".intercalate rest := by
  unfold within? at h
  dsimp only at h
  split at h
  · next front =>
    obtain ⟨rest, form⟩ := List.isPrefixOf_iff_prefix.1 front
    refine ⟨rest, form.symm, ?_⟩
    rw [← form, List.drop_left] at h
    exact (Option.some.inj h).symm
  · cases h

/-- The key of a place in the manifest of a directory: the way from the directory to it, or else from
the root. -/
def placeKey (base q : Place) : String :=
  (within? ("/" ++ "/".intercalate base) ("/" ++ "/".intercalate q)).getD ("/" ++ "/".intercalate q)

lemma keyAt_eq : w.keyAt here path = placeKey (goal here w.root) (w.placeOf here path) := by
  unfold Writer.keyAt Writer.keyOf
  rw [resolve_eq, resolve_eq]
  rfl

/-- A key means the place that it is the key of. -/
lemma keyPlace_placeKey {base q : Place} (hb : ∀ s ∈ base, IsSegment s) (hq : ∀ s ∈ q, IsSegment s) :
    keyPlace base (placeKey base q) = q := by
  have rooted {p : Place} (hp : ∀ s ∈ p, IsSegment s) : segments ("/" ++ "/".intercalate p) = p := by
    rw [segments_slash, segments_intercalate hp]
  unfold placeKey
  rcases inside : within? ("/" ++ "/".intercalate base) ("/" ++ "/".intercalate q) with _ | inner
  · rw [Option.getD_none, keyPlace, if_pos (by rw [isAbsolute, String.toList_append]; rfl), rooted hq]
  · obtain ⟨rest, form, rfl⟩ := within?_eq_some inside
    rw [rooted hq, rooted hb] at form
    have parts : ∀ s ∈ rest, IsSegment s := fun s hs => hq s (form ▸ List.mem_append_right _ hs)
    rw [Option.getD_some, form, keyPlace]
    cases rest with
    | nil => rfl
    | cons a rest =>
      change (if isAbsolute ("/".intercalate (a :: rest)) then _ else _) = _
      rw [isAbsolute_intercalate parts, if_neg (by simp)]
      exact congrArg _ (segments_intercalate parts)

/-- A key means the file that it is the key of. -/
lemma keyPlace_keyAt :
    keyPlace (goal here w.root) (w.keyAt here path) = w.placeOf here path := by
  rw [keyAt_eq]
  exact keyPlace_placeKey (fun _ => isSegment_of_mem_goal) fun _ => isSegment_of_mem_goal

/-- The key of a file is readable if the machine takes its path. -/
lemma isReadable_keyAt (home : IsHome here) (root : Kept w.root.toList) (kept : Kept path.toList)
    (fits : FileFault.ofPath? (Path.below w.root path) = none) :
    Json.IsReadable (w.keyAt here path) := by
  have slash : Json.isFirstHalf '/'.toNat = false := by decide
  have dot : Json.isFirstHalf '.'.toNat = false := by decide
  have target : Json.IsReadable (Path.below w.root path) := by
    refine ⟨kept_below root kept, fun n hn => ?_⟩
    obtain ⟨-, whole | byte⟩ := fits_of_ofPath? fits n hn
    · simp only [isHalf, Json.isFirstHalf, Bool.and_eq_false_iff, decide_eq_false_iff_not] at *
      omega
    · simp only [isByteHalf, Json.isFirstHalf, Bool.and_eq_true, decide_eq_true_eq,
        Bool.and_eq_false_iff, decide_eq_false_iff_not] at *
      omega
  have full := isMadeOf_resolve slash home.readable target
  unfold Writer.keyAt Writer.keyOf
  rcases inside : within? (Path.resolve here w.root) (Path.resolve here (Path.below w.root path))
    with _ | inner
  · rw [Option.getD_none]
    exact full
  · obtain ⟨rest, form, name⟩ := within?_eq_some inside
    rw [Option.getD_some, name]
    split
    · exact (isMadeOf_cons (by decide)).2 ⟨dot, isMadeOf_nil⟩
    · refine isMadeOf_intercalate slash fun s hs => isMadeOf_of_mem_segments full ?_
      rw [form]
      exact List.mem_append_right _ hs

end Keys

/-! ### Histories -/

/-- A session: the directory that it runs in, and its writer. -/
structure Session where
  here : String
  writer : Writer

/-- Where the file of a path stands for a session. -/
def Session.placeOf (s : Session) (path : String) : Place :=
  s.writer.placeOf s.here path

/-- A machine, the sessions on it, and the texts that a session wrote to a place or found there as it
would have written them. -/
structure World where
  machine : MachineState
  sessions : List Session := []
  known : List (Place × String) := []

/-- The machine as a session in the directory `here` finds it. -/
def World.seenFrom (w : World) (here : String) : MachineState :=
  { w.machine with here }

/-- What is known of a file after writing it. -/
def Session.learnt (s : Session) (path content : String) : WriteStatus → List (Place × String)
  | .unchanged => [(s.placeOf path, content)]
  | .written => if s.writer.options.dryRun then [] else [(s.placeOf path, content)]
  | .conflict => []

/-- Whether a session writes a path as a file of its own: the path is a text, and does not lead to a
file that a manifest is kept in. -/
structure Session.IsOwn (s : Session) (path : String) : Prop where
  kept : Kept path.toList
  noManifest : ∀ base, s.placeOf path ≠ base ++ [Manifest.fileName]

/-- One step of a history. -/
inductive World.Step : World → World → Prop
  /-- A session starts. It is not told to overwrite what was edited. -/
  | starts {w : World} {here root : String} {options : WriteOptions} {writer : Writer}
      {machine : MachineState} : IsHome here → Kept root.toList → options.force = false →
      onMachine (Writer.open_ root options) (w.seenFrom here) = (.ok writer, machine) →
      Step w { w with machine, sessions := ⟨here, writer⟩ :: w.sessions }
  | writes {w : World} {before after : List Session} {s : Session} {path content : String}
      {status : WriteStatus} {writer : Writer} {machine : MachineState} :
      w.sessions = before ++ s :: after → s.IsOwn path →
      onMachine (s.writer.write path content) (w.seenFrom s.here) = (.ok (status, writer), machine) →
      Step w ⟨machine, before ++ ⟨s.here, writer⟩ :: after,
        s.learnt path content status ++ w.known⟩
  | failsToWrite {w : World} {s : Session} {path content : String} {e : TextError}
      {machine : MachineState} : s ∈ w.sessions → s.IsOwn path →
      onMachine (s.writer.write path content) (w.seenFrom s.here) = (.error e, machine) →
      Step w { w with machine }
  | saves {w : World} {before after : List Session} {s : Session} {writer : Writer}
      {machine : MachineState} : w.sessions = before ++ s :: after →
      onMachine s.writer.saveManifest (w.seenFrom s.here) = (.ok writer, machine) →
      Step w { w with machine, sessions := before ++ ⟨s.here, writer⟩ :: after }
  | failsToSave {w : World} {s : Session} {e : TextError} {machine : MachineState} :
      s ∈ w.sessions →
      onMachine s.writer.saveManifest (w.seenFrom s.here) = (.error e, machine) →
      Step w { w with machine }
  /-- A session ends, whether its manifest is saved or not. -/
  | stops {w : World} {before after : List Session} {s : Session} :
      w.sessions = before ++ s :: after → Step w { w with sessions := before ++ after }
  /-- Somebody else changes the disk, but no manifest, except that one may be lost. -/
  | changes {w : World} {machine : MachineState} : machine.disk.IsTree →
      (∀ base, storedAt machine.disk base = storedAt w.machine.disk base ∨
        storedAt machine.disk base = []) →
      Step w { w with machine }

/-- A world before any session: nothing is in any manifest, and nothing is known. -/
structure World.IsFresh (w : World) : Prop where
  tree : w.machine.disk.IsTree
  stored : ∀ base, storedAt w.machine.disk base = []
  sessions : w.sessions = []
  known : w.known = []

/-! ### What is in the manifests -/

/-- Each entry of a manifest is the digest of a text that is known of the file of its key. -/
def Backed (known : List (Place × String)) (base : Place) (m : Manifest) : Prop :=
  ∀ e ∈ m, ∃ text, (keyPlace base e.1, text) ∈ known ∧ e.2 = Digest.ofText text

/-- A session whose manifest is backed. -/
structure Session.IsSound (known : List (Place × String)) (s : Session) : Prop where
  home : IsHome s.here
  root : Kept s.writer.root.toList
  gentle : s.writer.options.force = false
  manifest : s.writer.manifest.IsSound
  backed : Backed known (goal s.here s.writer.root) s.writer.manifest

/-- A world in which all manifests are backed. -/
structure World.IsSound (w : World) : Prop where
  tree : w.machine.disk.IsTree
  manifest : ∀ base, (storedAt w.machine.disk base).IsSound
  backed : ∀ base, Backed w.known base (storedAt w.machine.disk base)
  sessions : ∀ s ∈ w.sessions, s.IsSound w.known

section Sound

variable {known known' : List (Place × String)} {base : Place} {m : Manifest} {s : Session}
  {w w' : World} {path content : String}

lemma Backed.mono (h : Backed known base m) (more : ∀ k ∈ known, k ∈ known') :
    Backed known' base m := by
  intro e he
  obtain ⟨text, found, digest⟩ := h e he
  exact ⟨text, more _ found, digest⟩

lemma backed_nil : Backed known base [] := by
  simp [Backed]

lemma Backed.setEntry {key : String} (h : Backed known base m)
    (found : (keyPlace base key, content) ∈ known) :
    Backed known base (setEntry key (Digest.ofText content) m) := by
  intro e he
  obtain rfl | he := mem_setEntry he
  · exact ⟨content, found, rfl⟩
  · exact h e he

lemma Session.IsSound.mono (h : s.IsSound known) (more : ∀ k ∈ known, k ∈ known') :
    s.IsSound known' :=
  { h with backed := h.backed.mono more }

lemma World.IsFresh.isSound (h : w.IsFresh) : w.IsSound where
  tree := h.tree
  manifest base := h.stored base ▸ Manifest.isSound_nil
  backed base := h.stored base ▸ backed_nil
  sessions := by simp [h.sessions]

/-- A session that remembers what it wrote is sound, if it is known. -/
lemma Session.IsSound.remember (h : s.IsSound known)
    (kept : Kept path.toList) (fits : FileFault.ofPath? (Path.below s.writer.root path) = none)
    (found : (s.placeOf path, content) ∈ known) :
    Session.IsSound known ⟨s.here, s.writer.remember (s.writer.keyAt s.here path) content⟩ where
  home := h.home
  root := h.root
  gentle := h.gentle
  manifest := h.manifest.setEntry (isReadable_keyAt h.home h.root kept fits)
  backed := h.backed.setEntry (by rwa [keyPlace_keyAt])

end Sound

/-! ### What steps keep -/

section Steps

variable {w w' : World} {s : Session} {path content : String} {machine : MachineState}

/-- Writing a file leaves the disk a tree, and the manifests on it as they were. -/
lemma keeps_of_written {r : WriteStatus × Writer} (tree : w.machine.disk.IsTree)
    (own : s.IsOwn path) (h : s.writer.Written (w.seenFrom s.here) path content r machine) :
    machine.disk.IsTree ∧
      ∀ base, storedAt machine.disk base = storedAt w.machine.disk base := by
  rcases h with _ | _ | _ | ⟨-, -, -, replaced⟩
  case replaced =>
    refine ⟨replaced.tree, fun base => Writer.storedAt_congr ?_⟩
    obtain same | at_ | copy := replaced.bytesAt? (base ++ [Manifest.fileName])
    · exact same
    · exact absurd at_.symm (own.noManifest base)
    · exact absurd rfl (copy.ne_manifest tree own.noManifest)
  all_goals exact ⟨tree, fun _ => rfl⟩

lemma keeps_of_fails {e : TextError} (tree : w.machine.disk.IsTree)
    (own : s.IsOwn path) (h : s.writer.Fails (w.seenFrom s.here) path content e machine) :
    machine.disk.IsTree ∧
      ∀ base, storedAt machine.disk base = storedAt w.machine.disk base := by
  rcases h with _ | _ | _ | _ | ⟨-, -, broken⟩
  case broken =>
    refine ⟨broken.tree, fun base => Writer.storedAt_congr ?_⟩
    obtain same | copy := broken.bytesAt? (base ++ [Manifest.fileName])
    · exact same
    · exact absurd rfl (copy.ne_manifest tree own.noManifest)
  all_goals exact ⟨tree, fun _ => rfl⟩

/-- After writing a file, the session is as sound as before, with what was learnt. -/
lemma isSound_of_written {known : List (Place × String)} {status : WriteStatus} {writer : Writer}
    (sound : s.IsSound known) (own : s.IsOwn path)
    (h : s.writer.Written (w.seenFrom s.here) path content (status, writer) machine) :
    Session.IsSound (s.learnt path content status ++ known) ⟨s.here, writer⟩ := by
  have more := sound.mono fun k hk => List.mem_append_right (s.learnt path content status) hk
  rcases h with read | _ | _ | ⟨wet, -, -, replaced⟩
  · have learnt : (s.placeOf path, content) ∈ s.learnt path content .unchanged ++ known :=
      List.mem_cons_self
    unfold Writer.adopt
    split
    · exact more
    · obtain ⟨bytes, -, taken, -⟩ := textAt_eq_ok.1 read
      obtain ⟨place, -, found, -⟩ := readBytes_eq_ok.1 taken
      exact more.remember own.kept (placeOf_eq_ok.1 found).1 learnt
  · exact more
  · exact more
  · have learnt : (s.placeOf path, content) ∈ s.learnt path content .written ++ known := by
      simp [Session.learnt, wet]
    exact more.remember own.kept replaced.ofPath? learnt

/-- A new manifest on the disk is that of its session, and the others stay. -/
lemma storedAt_of_saved {t : MachineState} {m : Manifest} {home : Place}
    (sound : m.IsSound) (grown : (w.seenFrom s.here).Grows t)
    (puts : t.Puts (home ++ [Manifest.fileName]) m.text.toUTF8 machine) (base : Place) :
    storedAt machine.disk base = if base = home then m.sorted else storedAt w.machine.disk base := by
  have bytes := puts.bytesAt? (base ++ [Manifest.fileName])
  split
  · next same =>
    rw [if_pos (by rw [same])] at bytes
    exact Writer.storedAt_of_text sound.isWhole bytes
  · next other =>
    rw [if_neg (fun same => other (List.append_inj_left' same rfl)),
      grown.isWithin.bytesAt?] at bytes
    exact Writer.storedAt_congr bytes

/-- With the manifests on the disk as they were, sound sessions are all there is to a sound world. -/
lemma World.IsSound.of_stored (h : w.IsSound) {sessions : List Session}
    {known : List (Place × String)} (tree : machine.disk.IsTree)
    (stored : ∀ base, storedAt machine.disk base = storedAt w.machine.disk base)
    (more : ∀ k ∈ w.known, k ∈ known) (sound : ∀ t ∈ sessions, t.IsSound known) :
    World.IsSound ⟨machine, sessions, known⟩ where
  tree := tree
  manifest base := by
    rw [stored]
    exact h.manifest base
  backed base := by
    rw [stored]
    exact (h.backed base).mono more
  sessions := sound

/-- A new manifest that remembers what its session does keeps the world sound. -/
lemma World.IsSound.saved (h : w.IsSound) {t : MachineState} {sessions : List Session}
    (sound : s.IsSound w.known) (grown : (w.seenFrom s.here).Grows t)
    (puts : t.Puts (goal s.here s.writer.root ++ [Manifest.fileName])
      s.writer.manifest.text.toUTF8 machine)
    (all : ∀ u ∈ sessions, u.IsSound w.known) :
    World.IsSound ⟨machine, sessions, w.known⟩ := by
  have stored := storedAt_of_saved sound.manifest grown puts
  refine ⟨puts.tree grown.tree, fun base => ?_, fun base => ?_, all⟩
  · rw [stored]
    split
    · exact Manifest.isSound_sorted sound.manifest
    · exact h.manifest base
  · rw [stored]
    split
    · next same =>
      rw [same]
      exact fun e he => sound.backed e (Manifest.mem_sorted.1 he)
    · exact h.backed base

/-- A step keeps the world sound. -/
lemma World.IsSound.step (h : w.IsSound) (step : World.Step w w') : w'.IsSound := by
  rcases step with ⟨home, root, gentle, run⟩ | ⟨sessions, own, run⟩ | ⟨live, own, run⟩ |
    ⟨sessions, run⟩ | ⟨live, run⟩ | sessions | ⟨tree, kept⟩
  case starts here root' options writer machine =>
    obtain ⟨rfl, m, rfl, stored⟩ := (Writer.ends_open root' options).of_ok run
    refine ⟨h.tree, h.manifest, h.backed, List.forall_mem_cons.2 ⟨?_, h.sessions⟩⟩
    refine ⟨home, root, gentle, ?_, ?_⟩
    · obtain rfl | ⟨rfl, -⟩ := stored
      · exact h.manifest _
      · exact Manifest.isSound_nil
    · obtain rfl | ⟨rfl, -⟩ := stored
      · exact h.backed _
      · exact backed_nil
  case writes before after s path content status writer machine =>
    have written := ((Writer.ends_write (s := w.seenFrom s.here) h.tree).of_ok run).1
    obtain ⟨tree, stored⟩ := keeps_of_written h.tree own written
    have others : ∀ t ∈ w.sessions, t.IsSound (s.learnt path content status ++ w.known) :=
      fun t ht => (h.sessions t ht).mono fun k hk => List.mem_append_right _ hk
    rw [sessions, List.forall_mem_append, List.forall_mem_cons] at others
    have sound := isSound_of_written (h.sessions s (by simp [sessions])) own written
    exact h.of_stored tree stored (fun k hk => List.mem_append_right _ hk)
      (List.forall_mem_append.2 ⟨others.1, List.forall_mem_cons.2 ⟨sound, others.2.2⟩⟩)
  case failsToWrite s path content e machine =>
    obtain ⟨tree, stored⟩ :=
      keeps_of_fails h.tree own ((Writer.ends_write (s := w.seenFrom s.here) h.tree).of_error run)
    exact h.of_stored tree stored (fun _ => id) h.sessions
  case saves before after s writer machine =>
    have sound := h.sessions s (by simp [sessions])
    have others := h.sessions
    rw [sessions, List.forall_mem_append, List.forall_mem_cons] at others
    obtain ⟨rfl, rfl, -⟩ | ⟨rfl, t, grown, -, puts⟩ :=
      (Writer.ends_saveManifest (s := w.seenFrom s.here) h.tree sound.manifest.isWhole).of_ok run
    · exact h.of_stored h.tree (fun _ => rfl) (fun _ => id)
        (List.forall_mem_append.2 ⟨others.1, List.forall_mem_cons.2 ⟨sound, others.2.2⟩⟩)
    · exact h.saved sound grown puts (List.forall_mem_append.2
        ⟨others.1, List.forall_mem_cons.2 ⟨{ sound with }, others.2.2⟩⟩)
  case failsToSave s e machine =>
    have grown := (Writer.ends_saveManifest (s := w.seenFrom s.here) h.tree
      (h.sessions s live).manifest.isWhole).of_error run
    exact h.of_stored grown.tree (fun _ => Writer.storedAt_congr (grown.isWithin.bytesAt? _))
      (fun _ => id) h.sessions
  case stops before after s =>
    have others := h.sessions
    rw [sessions, List.forall_mem_append, List.forall_mem_cons] at others
    exact ⟨h.tree, h.manifest, h.backed, List.forall_mem_append.2 ⟨others.1, others.2.2⟩⟩
  case changes machine =>
    refine ⟨tree, fun base => ?_, fun base => ?_, h.sessions⟩
    · obtain same | none := kept base
      · rw [same]
        exact h.manifest base
      · rw [none]
        exact Manifest.isSound_nil
    · obtain same | none := kept base
      · rw [same]
        exact h.backed base
      · rw [none]
        exact backed_nil

/-- All manifests are backed, whatever happened. -/
lemma World.IsSound.of_history {start : World} (h : start.IsSound)
    (history : Relation.ReflTransGen World.Step start w) : w.IsSound := by
  induction history with
  | refl => exact h
  | tail _ step ih => exact ih.step step

end Steps

end ClientGen.Output
