import ClientGen.Proofs.Output.Sessions

/-!
# What a manifest remembers

A manifest remembers a file as long as it has the digest of its bytes. A file that it remembers is not
taken for one that was edited, unless it is read with other line ends than it has.
-/

namespace ClientGen

open Machine MachineState Path

/-! ### Bytes and texts -/

namespace Text

/-- Bytes that hold a carriage return, so that they are read with other line ends than they have. -/
def HoldsReturn (bytes : ByteArray) : Prop :=
  ∃ t, decode bytes = .ok t ∧ '\r' ∈ t.toList

/-- Characters that are kept are released as they came. -/
lemma released_kept (s : String) : released (kept s) = .ok s := by
  by_cases mark : halfMark ∈ s.toList
  · have form : (kept s).toList = ofNumbers (s.toList.map Char.toNat) := by
      rw [kept, String.toList_ofList, keep_eq]
    have again : halfMark ∈ (kept s).toList := by
      rw [form]
      exact List.mem_flatMap.2 ⟨halfMark.toNat, List.mem_map_of_mem mark, by decide⟩
    have whole : loneHalf? (fun _ => false) (numbers (kept s).toList) = none :=
      loneHalf?_eq_none.2 fun n hn => .inl (isHalf_of_mem_numbers_kept n hn)
    have back : (s.toList.map Char.toNat).map Char.ofNat = s.toList := by
      simp [Function.comp_def, Char.ofNat_toNat]
    rw [released, if_pos (by simpa using again)]
    rw [numbers_kept] at whole
    simp only [whole, numbers_kept, back, String.ofList_toList]
  · have same : kept s = s := by
      rw [kept, keep, if_neg (by simpa using mark), String.ofList_toList]
    rw [same, released, if_neg (by simpa using mark)]

/-- The bytes of a text that is read are those that it is read from. -/
lemma bytesOf_decode {bytes : ByteArray} {t : String} (h : decode bytes = .ok t) :
    bytesOf t = bytes := by
  unfold decode at h
  split at h
  · next valid =>
    obtain rfl := Except.ok.inj h
    rw [bytesOf, encode, released_kept]
    rfl
  · split at h <;> cases h

end Text

namespace Output

open Text
open Writer (storedAt)

variable {w : Writer} {s : MachineState} {m : Manifest} {d d' : Disk} {base q : Place}
  {path content existing : String}

/-! ### Roots -/

/-- A directory that generated files go to: a path from the root on that a machine takes, without two
dots. -/
structure IsRoot (root : String) : Prop where
  absolute : isAbsolute root = true
  down : ".." ∉ segments root
  fits : IsMadeOf Fits root.toList

lemma IsRoot.way {root : String} (h : IsRoot root) (here : String) :
    Path.way here root = segments root := by
  rw [Path.way, segments_join, if_pos h.absolute]

lemma IsRoot.goal {root : String} (h : IsRoot root) (here : String) :
    Path.goal here root = segments root := by
  unfold Path.goal
  rw [h.way, lead_of_notMem h.down, List.nil_append]

/-- Where nothing is found at the path of a manifest, none is kept. -/
lemma IsRoot.storedAt_of_missing {root : String} (h : IsRoot root) (tree : s.disk.IsTree)
    {e : FileError} (missing : s.entryOf (Writer.manifestPath root) = .error e)
    (short : e.fault ≠ .nameTooLong) : storedAt s.disk (segments root) = [] := by
  have name := Writer.isSegment_fileName
  have relative : isAbsolute Manifest.fileName = false := by decide
  have dots : ".." ∉ Path.way s.here (Writer.manifestPath root) := by
    rw [Writer.manifestPath, way_below_of_relative s.here relative, name.segments, h.way,
      List.mem_append, not_or]
    exact ⟨h.down, by decide⟩
  have made : IsMadeOf Fits (Writer.manifestPath root).toList :=
    isMadeOf_below ⟨by decide, .inl (by decide)⟩ ⟨by decide, .inl (by decide)⟩ h.fits
      ⟨kept_of_notMem (by decide), by unfold Fits; decide⟩
  have taken : FileFault.ofPath? (Writer.manifestPath root) = none := by
    refine (ofPath?_of_fits made.numbers).resolve_right fun long => short ?_
    unfold entryOf MachineState.placeOf at missing
    rw [long] at missing
    cases missing
    rfl
  have none := Writer.at?_goal_of_missing tree taken dots missing short
  rw [Writer.goal_manifestPath, h.goal] at none
  rw [storedAt, Disk.bytesAt?, none]

/-- A writer is opened with the manifest that is kept. -/
lemma ends_open_root {root : String} (h : IsRoot root) (tree : s.disk.IsTree)
    (options : WriteOptions) : Ends (Writer.open_ root options) s
      (fun w s' => s' = s ∧
        w = { root, options, manifest := storedAt s.disk (segments root) })
      fun _ s' => s' = s := by
  refine (Writer.ends_open root options).imp ?_ fun _ _ => id
  rintro _ _ ⟨rfl, m, rfl, rfl | ⟨rfl, e, missing, short⟩⟩
  · exact ⟨rfl, by rw [h.goal]⟩
  · exact ⟨rfl, by rw [h.storedAt_of_missing tree missing short]⟩

/-! ### What is remembered -/

/-- A manifest has the digest of the file at a place, unless the file holds a carriage return. -/
def Remembers (m : Manifest) (base : Place) (d : Disk) (q : Place) : Prop :=
  ∃ bytes, d.bytesAt? q = some bytes ∧
    (HoldsReturn bytes ∨ m.lookup (placeKey base q) = some (Digest.ofBytes bytes))

lemma Remembers.congr (h : Remembers m base d q) (same : d'.bytesAt? q = d.bytesAt? q) :
    Remembers m base d' q := by
  obtain ⟨bytes, found, known⟩ := h
  exact ⟨bytes, same.trans found, known⟩

lemma Remembers.of_lookup {m' : Manifest} (h : Remembers m base d q)
    (same : m'.lookup (placeKey base q) = m.lookup (placeKey base q)) : Remembers m' base d q := by
  obtain ⟨bytes, found, known⟩ := h
  exact ⟨bytes, found, known.imp_right same.trans⟩

/-- The order of a manifest makes no difference to what it remembers. -/
lemma lookup_sorted (whole : m.IsWhole) (key : String) : m.sorted.lookup key = m.lookup key := by
  cases found : m.lookup key with
  | some digest =>
    have entry : (key, digest) ∈ m.sorted := Manifest.mem_sorted.2 (mem_of_lookup found)
    exact lookup_eq_of_mem (Manifest.isWhole_sorted whole).nodup entry
  | none =>
    rw [List.lookup_eq_none_iff] at found ⊢
    exact fun e he => found e (Manifest.mem_sorted.1 he)

lemma lookup_remember (w : Writer) (key content k : String) :
    (w.remember key content).manifest.lookup k =
      if k = key then some (Digest.ofText content) else w.manifest.lookup k := by
  rw [Writer.remember, lookup_setEntry]
  simp only [beq_iff_eq]

lemma adopt_cases (w : Writer) (key content : String) :
    w.adopt key content = w ∨ w.adopt key content = w.remember key content := by
  unfold Writer.adopt
  split
  · exact .inl rfl
  · exact .inr rfl

/-- What is adopted is remembered, whether the manifest said the same before or not. -/
lemma lookup_adopt (w : Writer) (key content k : String) :
    (w.adopt key content).manifest.lookup k =
      if k = key then some (Digest.ofText content) else w.manifest.lookup k := by
  unfold Writer.adopt
  split
  · next known =>
    split
    · next same => rw [same, beq_iff_eq.1 known]
    · rfl
  · exact lookup_remember w key content k

/-- A file that is read as a text is remembered by the digest of the text. -/
lemma remembers_of_read (read : s.textAt (Path.below w.root path) = .ok content)
    (entry : m.lookup (w.keyAt s.here path) = some (Digest.ofText content)) :
    Remembers m (goal s.here w.root) s.disk (w.placeOf s.here path) := by
  obtain ⟨bytes, t, taken, decoded, text⟩ := textAt_eq_ok.1 read
  obtain ⟨place, modified, found, at_⟩ := readBytes_eq_ok.1 taken
  obtain rfl : place = w.placeOf s.here path := eq_goal_of_placeOf found
  refine ⟨bytes, by rw [Disk.bytesAt?, at_], ?_⟩
  by_cases returns : '\r' ∈ t.toList
  · exact .inl ⟨t, decoded, returns⟩
  · rw [universalNewlines_of_notMem returns, String.ofList_toList] at text
    rw [← keyAt_eq, entry, ← text, Digest.ofText, bytesOf_decode decoded]
    exact .inr rfl

/-- A file whose bytes are those of a text is remembered by the digest of the text. -/
lemma remembers_of_encode {bytes : ByteArray} (form : Text.encode content = .ok bytes)
    (found : d.bytesAt? q = some bytes)
    (entry : m.lookup (placeKey base q) = some (Digest.ofText content)) : Remembers m base d q := by
  refine ⟨bytes, found, .inr ?_⟩
  rw [entry, Digest.ofText, bytesOf, form]

/-- Files in different places have different keys. -/
lemma placeKey_ne {p : Place} (hb : ∀ s ∈ base, IsSegment s) (hp : ∀ s ∈ p, IsSegment s)
    (hq : ∀ s ∈ q, IsSegment s) (h : q ≠ p) : placeKey base q ≠ placeKey base p := by
  intro same
  have places := congrArg (keyPlace base) same
  rw [keyPlace_placeKey hb hq, keyPlace_placeKey hb hp] at places
  exact h places

/-- A file that is remembered gives notice of a conflict only if it holds a carriage return. -/
lemma Remembers.holdsReturn
    (h : Remembers w.manifest (goal s.here w.root) s.disk (w.placeOf s.here path))
    (read : s.textAt (Path.below w.root path) = .ok existing)
    (edited : w.isEdited (w.keyAt s.here path) existing = true) :
    ∃ bytes, s.disk.bytesAt? (w.placeOf s.here path) = some bytes ∧ HoldsReturn bytes := by
  obtain ⟨bytes, found, returns | entry⟩ := h
  · exact ⟨bytes, found, returns⟩
  refine ⟨bytes, found, ?_⟩
  obtain ⟨bytes', t, taken, decoded, text⟩ := textAt_eq_ok.1 read
  obtain ⟨place, modified, led, at_⟩ := readBytes_eq_ok.1 taken
  obtain rfl : place = w.placeOf s.here path := eq_goal_of_placeOf led
  rw [Disk.bytesAt?, at_] at found
  obtain rfl : bytes' = bytes := Option.some.inj found
  by_cases returns : '\r' ∈ t.toList
  · exact ⟨t, decoded, returns⟩
  · rw [universalNewlines_of_notMem returns, String.ofList_toList] at text
    rw [← keyAt_eq] at entry
    have other := bne_iff_ne.1 edited
    rw [entry, ← text, Digest.ofText, bytesOf_decode decoded] at other
    exact absurd rfl other

end Output

end ClientGen
