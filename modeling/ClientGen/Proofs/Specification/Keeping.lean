import ClientGen.Proofs.Machine.Directories
import ClientGen.Proofs.Output.Manifest
import ClientGen.Specification.AddressCache

/-!
# Texts that are kept for addresses

What becomes of texts that are put one after another, each for an address. A text is stored together
with what is known about it, and the files of other addresses stay as they are. The last text for an
address is given back as it is read from its file, with other line ends, as long as that has the digest
of the text. So a text with a carriage return is not given back.
-/

namespace ClientGen

/-! ### Sizes of paths -/

/-- A plain text takes a byte for each character. -/
lemma pathSize_of_plain {p : String} (h : ∀ c ∈ p.toList, Text.IsPlain c) :
    pathSize p = p.toList.length := by
  have size : ∀ (s : List Char) (k : Nat), (∀ c ∈ s, Text.IsPlain c) →
      (s.map Char.toNat).foldl (fun size n => size + pathWidth n) k = k + s.length := by
    intro s
    induction s with
    | nil => simp
    | cons c s ih =>
      intro k h
      obtain ⟨hc, hs⟩ := List.forall_mem_cons.1 h
      have width : pathWidth c.toNat = 1 := by
        have := hc.lt
        rw [pathWidth, if_pos (by simp; omega)]
      rw [List.map_cons, List.foldl_cons, ih _ hs, width, List.length_cons]
      omega
  rw [pathSize, Text.numbers_of_plain h, size _ _ h, Nat.zero_add]

/-- A plain path that is not too long is taken. -/
lemma FileFault.ofPath?_of_plain {p : String} (h : ∀ c ∈ p.toList, Text.IsPlain c)
    (short : p.toList.length ≤ greatestPathSize) : FileFault.ofPath? p = none := by
  have fits : ∀ n ∈ Text.numbers p.toList, Path.Fits n := by
    rw [Text.numbers_of_plain h]
    intro n hn
    obtain ⟨c, hc, rfl⟩ := List.mem_map.1 hn
    refine ⟨fun zero => ?_, .inl (Text.isHalf_toNat c)⟩
    obtain rfl | ⟨low, -⟩ := h c hc
    · exact absurd zero (by decide)
    · have : (0x20 : Nat) ≤ c.toNat := low
      omega
  rw [Path.ofPath?_eq_of_fits fits, pathSize_of_plain h, if_neg (Nat.not_lt.2 short)]

/-- A walk along some segments goes on along others. -/
lemma Disk.walk_append {d : Disk} {p q : Place} {ss : List String} (h : d.walk p ss = .ok q)
    (ts : List String) : d.walk p (ss ++ ts) = d.walk q ts := by
  induction ss generalizing p with
  | nil =>
    obtain rfl := Except.ok.inj h
    rfl
  | cons s ss ih =>
    rw [walk] at h
    rw [List.cons_append, walk]
    split at h
    · split at h
      · cases h
      · next short =>
        rw [if_neg short]
        exact ih h
    · cases h
    · cases h

namespace Specification.AddressCache

open Document Json Machine MachineState Output Path Text

variable {c : AddressCache} {s s' t : MachineState} {address other text path : String} {time : Nat}

/-! ### The files of a cache -/

/-- A path at which a cache keeps something for an address. -/
def IsFile (c : AddressCache) (path : String) : Prop :=
  ∃ address, path = c.textPath address ∨ path = c.metadataPath address

lemma isFile_textPath (c : AddressCache) (address : String) : c.IsFile (c.textPath address) :=
  ⟨address, .inl rfl⟩

lemma isFile_metadataPath (c : AddressCache) (address : String) :
    c.IsFile (c.metadataPath address) :=
  ⟨address, .inr rfl⟩

/-- The files of a cache have short plain names in its directory. -/
lemma IsFile.exists_name (h : c.IsFile path) : ∃ name, path = below c.directory name ∧
    IsName name ∧ (∀ c ∈ name.toList, IsPlain c) ∧ name.toList.length ≤ 32 := by
  have digest (address : String) : (Digest.ofText address).toList.length ≤ 16 := by
    rw [Digest.ofText, Digest.ofBytes, String.toList_ofList]
    exact List.length_take_le _ _
  have named (address ending : String) (slash : '/' ∉ ending.toList)
      (long : 2 < ending.toList.length) (short : ending.toList.length ≤ 16)
      (plain : ∀ c ∈ ending.toList, IsPlain c) :
      IsName (Digest.ofText address ++ ending) ∧
        (∀ c ∈ (Digest.ofText address ++ ending).toList, IsPlain c) ∧
          (Digest.ofText address ++ ending).toList.length ≤ 32 := by
    refine ⟨isName_append (notMem_slash_digest address) slash long, ?_, ?_⟩
    · rw [String.toList_append]
      exact List.forall_mem_append.2 ⟨isPlain_digest address, plain⟩
    · rw [String.toList_append, List.length_append]
      have := digest address
      omega
  obtain ⟨address, form | form⟩ := h
  · exact ⟨Digest.ofText address ++ ".spec", form, named address ".spec" (by decide) (by decide)
      (by decide) (isPlain_of_all (by decide))⟩
  · exact ⟨Digest.ofText address ++ ".meta.json", form, named address ".meta.json" (by decide)
      (by decide) (by decide) (isPlain_of_all (by decide))⟩

lemma IsFile.goal (h : c.IsFile path) (here : String) :
    ∃ name, Path.goal here path = Path.goal here c.directory ++ [name] := by
  obtain ⟨name, form, isName, -⟩ := h.exists_name
  exact ⟨name, form ▸ goal_below here isName.toIsSegment isName.down⟩

lemma goal_textPath (c : AddressCache) (here address : String) : Path.goal here (c.textPath address) =
    Path.goal here c.directory ++ [Digest.ofText address ++ ".spec"] := by
  have name : IsName (Digest.ofText address ++ ".spec") :=
    isName_append (notMem_slash_digest address) (by decide) (by decide)
  exact goal_below here name.toIsSegment name.down

lemma goal_metadataPath (c : AddressCache) (here address : String) :
    Path.goal here (c.metadataPath address) =
      Path.goal here c.directory ++ [Digest.ofText address ++ ".meta.json"] := by
  have name : IsName (Digest.ofText address ++ ".meta.json") :=
    isName_append (notMem_slash_digest address) (by decide) (by decide)
  exact goal_below here name.toIsSegment name.down

/-- The file of a text is none of those of what is known about texts. -/
lemma goal_textPath_ne (c : AddressCache) (here address other : String) :
    Path.goal here (c.textPath address) ≠ Path.goal here (c.metadataPath other) := by
  rw [goal_textPath, goal_metadataPath]
  intro same
  have same := congrArg String.toList (List.singleton_inj.1 (List.append_cancel_left same))
  rw [String.toList_append, String.toList_append] at same
  have last := congrArg List.getLast? same
  rw [List.getLast?_append_of_ne_nil _ (by decide), List.getLast?_append_of_ne_nil _ (by decide)] at last
  exact absurd last (by decide)

lemma goal_textPath_inj {here : String}
    (same : Path.goal here (c.textPath address) = Path.goal here (c.textPath other)) :
    Digest.ofText address = Digest.ofText other := by
  rw [goal_textPath, goal_textPath] at same
  exact String.append_left_inj _ |>.1 (List.singleton_inj.1 (List.append_cancel_left same))

lemma goal_metadataPath_inj {here : String}
    (same : Path.goal here (c.metadataPath address) = Path.goal here (c.metadataPath other)) :
    Digest.ofText address = Digest.ofText other := by
  rw [goal_metadataPath, goal_metadataPath] at same
  exact String.append_left_inj _ |>.1 (List.singleton_inj.1 (List.append_cancel_left same))

/-- What a cache keeps for addresses with different digests is in different files. -/
lemma goal_ne (here : String) (apart : Digest.ofText other ≠ Digest.ofText address) {p q : String}
    (hp : p = c.textPath other ∨ p = c.metadataPath other)
    (hq : q = c.textPath address ∨ q = c.metadataPath address) :
    Path.goal here p ≠ Path.goal here q := by
  rcases hp with hp | hp <;> rcases hq with hq | hq <;> rw [hp, hq]
  · exact fun same => apart (goal_textPath_inj same)
  · exact goal_textPath_ne c here other address
  · exact (goal_textPath_ne c here address other).symm
  · exact fun same => apart (goal_metadataPath_inj same)

/-! ### Caches that can keep texts -/

/-- The directory of a cache is there, its files have paths that are not too long, and no directory is in
the place of one. -/
structure IsReady (c : AddressCache) (s : MachineState) : Prop where
  tree : s.disk.IsTree
  directory : s.entryOf (tidy c.directory) = .ok .directory
  path : ∀ path, c.IsFile path → FileFault.ofPath? path = none
  file : ∀ path, c.IsFile path → s.disk.at? (Path.goal s.here path) ≠ some .directory

/-- The directory of a cache can be made, and it is ready on the machine that this leads to. -/
structure IsUsable (c : AddressCache) (s t : MachineState) : Prop where
  tree : s.disk.IsTree
  made : onMachine (makeDirectories (tidy c.directory)) s = (.ok (), t)
  path : ∀ path, c.IsFile path → FileFault.ofPath? path = none
  file : ∀ path, c.IsFile path → t.disk.at? (Path.goal s.here path) ≠ some .directory

lemma IsUsable.grows (h : c.IsUsable s t) : s.Grows t :=
  ((ends_makeDirectories_there h.tree _).of_ok h.made).1

lemma IsUsable.time_eq (h : c.IsUsable s t) : t.time = s.time := by
  obtain ⟨d, rfl, -⟩ := h.grows
  rfl

lemma IsUsable.isReady (h : c.IsUsable s t) : c.IsReady t := by
  obtain ⟨grows, there⟩ := (ends_makeDirectories_there h.tree _).of_ok h.made
  exact ⟨grows.tree, there, h.path, fun path file => grows.here ▸ h.file path file⟩

lemma IsReady.isUsable (h : c.IsReady s) : c.IsUsable s s :=
  ⟨h.tree, onMachine_makeDirectories h.directory, h.path, h.file⟩

/-- A file of a cache that is ready is found at its place. -/
lemma IsReady.placeOf (h : c.IsReady s) (file : c.IsFile path) :
    s.placeOf path = .ok (Path.goal s.here path) := by
  obtain ⟨name, form, isName, plain, length⟩ := file.exists_name
  have short : pathSize name ≤ greatestNameSize := by
    rw [pathSize_of_plain plain]
    exact length.trans (by decide)
  obtain ⟨place, led, at_⟩ := entryOf_eq_ok.1 h.directory
  have walked := (placeOf_eq_ok.1 led).2
  have steps : way s.here path = way s.here (tidy c.directory) ++ [name] := by
    rw [form, way_below_of_relative s.here isName.isAbsolute, isName.toIsSegment.segments]
    unfold way
    rw [segments_join, segments_join, isAbsolute_tidy, segments_tidy]
  have found : s.placeOf path = .ok (place ++ [name]) := by
    refine placeOf_eq_ok.2 ⟨h.path path file, ?_⟩
    rw [steps, Disk.walk_append walked, Disk.walk, at_]
    dsimp only
    rw [if_neg (Nat.not_lt.2 short), if_neg (by simpa using isName.down), Disk.walk]
  rw [found, eq_goal_of_placeOf found]

lemma IsReady.puts (h : c.IsReady s) (file : c.IsFile path) {bytes : ByteArray}
    (puts : s.Puts (Path.goal s.here path) bytes s') : c.IsReady s' where
  tree := puts.tree h.tree
  directory := by
    refine puts.changes.entryOf_ok h.directory fun same => ?_
    obtain ⟨name, below⟩ := file.goal s.here
    rw [below, goal_tidy] at same
    simpa using congrArg List.length same
  path := h.path
  file p hp := by
    have root : Path.goal s.here path ≠ [] := fun root =>
      puts.new (root ▸ Disk.at?_root s.disk)
    rw [puts.after, Disk.at?_put root]
    split
    · exact nofun
    · exact h.file p hp

/-- A text is written to a file of a cache that is ready. -/
lemma IsReady.ends_writeText (h : c.IsReady s) (file : c.IsFile path) {bytes : ByteArray}
    (form : encode text = .ok bytes) : Ends (writeText path text) s
      (fun _ s' => s.Puts (Path.goal s.here path) bytes s' ∧ c.IsReady s') fun _ _ => False := by
  refine Machine.ends_writeText form ?_
  obtain ⟨e, failed⟩ | ⟨place, s', led, puts, written⟩ := writeBytes_cases h.tree path bytes
  · exfalso
    unfold MachineState.writeBytes at failed
    rw [h.placeOf file] at failed
    dsimp only at failed
    split at failed
    · next directory => exact h.file path file directory
    · cases failed
  · obtain rfl := Except.ok.inj (led.symm.trans (h.placeOf file))
    rw [written]
    exact ⟨puts, h.puts file puts⟩

/-! ### Other times -/

lemma IsReady.sameDisk (h : c.IsReady s) (same : s.SameDisk s') : c.IsReady s' where
  tree := same.disk ▸ h.tree
  directory := (same.entryOf _).trans h.directory
  path := h.path
  file := by
    rw [same.disk, same.here]
    exact h.file

/-- How a directory is made depends on nothing but the disk. -/
lemma IsUsable.sameDisk (h : c.IsUsable s t) (same : s.SameDisk s') :
    ∃ t', t.SameDisk t' ∧ c.IsUsable s' t' := by
  obtain ⟨t', made, after⟩ := (isOfDisk_makeDirectories _).onMachine h.made same
  refine ⟨t', after, same.disk ▸ h.tree, made, h.path, ?_⟩
  rw [after.disk, same.here]
  exact h.file

/-- The directory is made whatever was reported before. -/
lemma IsUsable.ends_makeDirectories (h : c.IsUsable s t) :
    Ends (makeDirectories (tidy c.directory)) s (fun _ s' => s' = t) fun _ _ => False :=
  ((isOfDisk_makeDirectories _).ends (Machine.ends_makeDirectories h.tree _) h.made).imp
    (fun _ _ => And.right) fun _ _ => id

/-! ### What is known about a text -/

/-- The text in which it is kept what is known about a text. -/
def metadataText (address text : String) (time : Nat) : String :=
  Json.write Style.block (metadata address text time)

section Metadata

variable (whole : Json.IsWhole address) (short : Number.isLong time = false) (text : String)

include whole short

lemma readsAs_metadata : ∀ e ∈ [("url", Value.str address), ("timestamp", .int time),
    ("content_hash", .str (Digest.ofText text))],
      Json.IsWhole e.1 ∧ ReadsAs (writeAt Style.block 1 e.2).toList e.2 := by
  have key {k : String} (plain : ∀ c ∈ k.toList, IsPlain c) : Json.IsWhole k :=
    isWhole_of_readable (isReadable_of_plain plain)
  have literal {t : String} (h : Json.IsWhole t) :
      ReadsAs (writeAt Style.block 1 (.str t)).toList (.str t) := by
    rw [writeAt]
    exact readsAs_text h
  have number : ReadsAs (writeAt Style.block 1 (.int time)).toList (.int time) := by
    have digits : (toString (time : Int)).toList = Nat.toDigits 10 time := by
      change (Nat.repr time).toList = _
      exact String.toList_ofList
    rw [writeAt, digits]
    exact readsAs_nat short
  exact List.forall_mem_cons.2 ⟨⟨key (isPlain_of_all (by dsimp only; decide)), literal whole⟩,
    List.forall_mem_cons.2 ⟨⟨key (isPlain_of_all (by dsimp only; decide)), number⟩,
      List.forall_mem_cons.2 ⟨⟨key (isPlain_of_all (by dsimp only; decide)),
        literal (isWhole_of_readable (isReadable_digest text))⟩, List.forall_mem_nil _⟩⟩⟩

/-- What is known about a text is read back. -/
lemma read_metadataText :
    Json.read (metadataText address text time) = .ok (metadata address text time) :=
  read_record (by simp) (readsAs_metadata whole short text)

lemma isPlain_metadataText : ∀ c ∈ (metadataText address text time).toList, IsPlain c :=
  (readsAs_record (by simp) (readsAs_metadata whole short text)).plain

end Metadata

lemma names_metadata (address text : String) (time : Nat) :
    names (metadata address text time) address = true := by
  simp [names, metadata, Value.getText?, Value.record, Value.get?, Value.opened, Value.lookup?,
    Value.sameKey, Value.text?]

lemma fits_metadata (address text : String) (time : Nat) (back : String) :
    fits (metadata address text time) back = (Digest.ofText text == Digest.ofText back) := by
  simp [fits, metadata, Value.getText?, Value.record, Value.get?, Value.opened, Value.lookup?,
    Value.sameKey, Value.text?]

/-- A text as it is read back from its file. -/
def reread (text : String) : String :=
  String.ofList (universalNewlines text.toList)

lemma reread_of_notMem (h : '\r' ∉ text.toList) : reread text = text := by
  rw [reread, universalNewlines_of_notMem h, String.ofList_toList]

/-! ### Putting a text -/

/-- A text is stored for an address: its file is there, and so is what is known about it. -/
structure Stores (c : AddressCache) (address text : String) (time : Nat) (s : MachineState) : Prop where
  ready : c.IsReady s
  back : s.textAt (c.textPath address) = .ok (reread text)
  known : s.textAt (c.metadataPath address) = .ok (metadataText address text time)

/-- The places of what is kept for an address. -/
def IsPlaceOf (c : AddressCache) (here address : String) (q : Place) : Prop :=
  q = Path.goal here (c.textPath address) ∨ q = Path.goal here (c.metadataPath address)

/-- How putting a text leaves the machine `t` on which the directory is ready: it is stored, and nothing
is other than before at any other place. -/
structure Puts (c : AddressCache) (address text : String) (t s : MachineState) : Prop where
  stores : c.Stores address text t.time s
  changes : t.Changes (c.IsPlaceOf t.here address) s
  same : ∀ q, ¬c.IsPlaceOf t.here address q → s.disk.at? q = t.disk.at? q

lemma ends_checked {bytes : ByteArray} (form : encode address = .ok bytes) :
    Ends (checked address) s (fun _ s' => s' = s) fun _ _ => False := by
  unfold checked
  rw [form]
  exact ends_pure.2 rfl

/-- An address without a form is refused, and nothing changes. -/
lemma ends_checked_error {h : LoneHalf} (form : encode address = .error h) :
    Ends (checked address) s (fun _ _ => False) fun e s' => e = .half h ∧ s' = s := by
  unfold checked
  rw [form]
  exact ends_throw.2 ⟨rfl, rfl⟩

lemma isWhole_of_hasNoHalf (h : HasNoHalf address.toList) : Json.IsWhole address :=
  isWhole_of_readable ⟨h.kept, fun n hn => isFirstHalf_of_whole (h.numbers n hn)⟩

/-- Where the directory is ready, a text and what is known about it are written to their files. -/
lemma IsReady.ends_store (h : c.IsReady s) (whole : Json.IsWhole address)
    (short : Number.isLong s.time = false) (form : HasNoHalf text.toList) :
    Ends (do
      writeText (c.textPath address) text
      let known := metadata address text (← asked Machine.time)
      writeText (c.metadataPath address) (Json.write Json.Style.block known)) s
      (fun _ s' => c.Puts address text s s') fun _ _ => False := by
  obtain ⟨bytes, form'⟩ := (exists_encode_iff form.kept).2 form
  have plain := isPlain_metadataText whole short text
  have mark : halfMark ∉ (metadataText address text s.time).toList :=
    fun mark => (plain _ mark).ne_halfMark rfl
  have textFile := isFile_textPath c address
  have metadataFile := isFile_metadataPath c address
  have apart := goal_textPath_ne c s.here address address
  refine .bind ((h.ends_writeText textFile form').imp ?_ fun _ _ => id)
  rintro _ u ⟨first, ready⟩
  have time : u.time = s.time := by rw [first.after]
  refine .bind (ends_asked.2 ?_)
  change Ends (writeText _ (metadataText address text u.time)) u _ _
  rw [time]
  refine (ready.ends_writeText metadataFile (encode_of_notMem mark)).imp ?_ fun _ _ => id
  rintro _ v ⟨second, ready'⟩
  have back := first.textAt (h.placeOf textFile) (decode_of_encode form.kept form')
  have known := second.textAt (ready.placeOf metadataFile) (decode_toUTF8_of_notMem mark)
  rw [universalNewlines_of_notMem fun mark => (plain _ mark).ne_return rfl,
    String.ofList_toList] at known
  rw [first.here] at second
  refine ⟨⟨ready', second.changes.textAt back (first.here ▸ apart), known⟩,
    (first.changes.mono fun _ => .inl).trans (second.changes.mono fun _ => .inr), fun q other => ?_⟩
  rw [second.at?_of_ne fun same => other (.inr same), first.at?_of_ne fun same => other (.inl same)]

/-- A text with a form is put. -/
lemma IsUsable.ends_put (h : c.IsUsable s t) (whole : HasNoHalf address.toList)
    (short : Number.isLong s.time = false) (form : HasNoHalf text.toList) :
    Ends (c.put address text) s (fun _ s' => c.Puts address text t s') fun _ _ => False := by
  obtain ⟨_, checks⟩ := (exists_encode_iff whole.kept).2 whole
  refine .bind ((ends_checked checks).imp ?_ fun _ _ => id)
  rintro _ _ rfl
  refine .bind (.adapt (h.ends_makeDirectories.imp ?_ fun _ _ => id))
  rintro _ _ rfl
  exact h.isReady.ends_store (isWhole_of_hasNoHalf whole) (h.time_eq ▸ short) form

/-! ### Getting a text -/

/-- A text as it is given back: as it is read from its file, if that has the digest of the text. -/
def readBack (text : String) : Option String :=
  if Digest.ofText text = Digest.ofText (reread text) then some (reread text) else none

/-- A text is given back as it is if and only if it has no carriage return. -/
lemma readBack_eq_some_iff : readBack text = some text ↔ '\r' ∉ text.toList := by
  constructor
  · intro same
    rw [readBack] at same
    split at same
    · have back := congrArg String.toList (Option.some.inj same)
      rw [reread, String.toList_ofList] at back
      exact back ▸ notMem_universalNewlines text.toList
    · cases same
  · intro none
    rw [readBack, reread_of_notMem none, if_pos rfl]

/-- A text that is put for an address at a time. -/
structure Put where
  address : String
  text : String
  time : Nat

/-- What a cache holds for an address: the text that was put last, or nothing. -/
def Holds (c : AddressCache) (address : String) (s : MachineState) : Option Put → Prop
  | some p => c.Stores address p.text p.time s
  | none => ∃ t, c.IsUsable s t ∧ t.disk.at? (Path.goal s.here (c.textPath address)) = none

lemma Holds.isUsable {last : Option Put} (h : c.Holds address s last) : ∃ t, c.IsUsable s t := by
  cases last with
  | some p => exact ⟨s, h.ready.isUsable⟩
  | none =>
    obtain ⟨t, usable, -⟩ := h
    exact ⟨t, usable⟩

/-- What is not there once the directory is made is not there before. -/
lemma IsUsable.ends_areThere (h : c.IsUsable s t)
    (none : t.disk.at? (Path.goal s.here (c.textPath address)) = none) :
    Ends (areThere (c.textPath address) (c.metadataPath address)) s
      (fun there s' => there = false ∧ s' = s) fun _ _ => False := by
  have grows := h.grows
  have led : t.placeOf (c.textPath address) = .ok (Path.goal s.here (c.textPath address)) :=
    grows.here ▸ h.isReady.placeOf (isFile_textPath c address)
  refine .bind (ends_isThere ?_)
  cases found : s.entryOf (c.textPath address) with
  | ok e =>
    obtain ⟨place, led', at_⟩ := entryOf_eq_ok.1 found
    obtain rfl := eq_goal_of_placeOf led'
    rcases grows.isWithin (Path.goal s.here (c.textPath address)) with same | ⟨free, -⟩
    · rw [none, at_] at same
      cases same
    · rw [at_] at free
      cases free
  | error e =>
    dsimp only
    rw [if_neg]
    · exact ends_pure.2 ⟨rfl, rfl⟩
    · intro long
      have changes : s.Changes (fun _ => False) t := grows.changes
      have long := changes.placeOf_tooLong (placeOf_of_entryOf_tooLong found long).1
      rw [led] at long
      cases long

/-- What is stored is there. -/
lemma Stores.ends_areThere (h : c.Stores address text time s) :
    Ends (areThere (c.textPath address) (c.metadataPath address)) s
      (fun there s' => there = true ∧ s' = s) fun _ _ => False := by
  have there {path text : String} (found : s.textAt path = .ok text) :
      ∃ e, s.entryOf path = .ok e := by
    obtain ⟨bytes, -, read, -⟩ := textAt_eq_ok.1 found
    obtain ⟨place, modified, led, at_⟩ := readBytes_eq_ok.1 read
    exact ⟨_, entryOf_eq_ok.2 ⟨place, led, at_⟩⟩
  obtain ⟨e, text⟩ := there h.back
  obtain ⟨e', metadata⟩ := there h.known
  refine .bind (ends_isThere ?_)
  rw [text]
  refine ends_isThere ?_
  rw [metadata]
  exact ⟨rfl, rfl⟩

/-- What is known about a text that is stored is read. -/
lemma Stores.ends_known? (h : c.Stores address text time s) (whole : Json.IsWhole address)
    (short : Number.isLong time = false) : Ends (c.known? address) s
      (fun known s' => known = some (metadata address text time) ∧ s' = s) fun _ _ => False := by
  refine .bind (.attempt (ends_readText ?_))
  rw [h.known]
  dsimp only
  rw [read_metadataText whole short text]
  exact ends_pure.2 ⟨rfl, rfl⟩

/-- A text that was put last is given back, and nothing is where none was put. -/
lemma Holds.ends_get? {last : Option Put} (h : c.Holds address s last)
    (whole : HasNoHalf address.toList) (short : ∀ p ∈ last, Number.isLong p.time = false) :
    Ends (c.get? address) s (fun r s' => r = last.bind (fun p => readBack p.text) ∧ s' = s)
      fun _ _ => False := by
  obtain ⟨_, checks⟩ := (exists_encode_iff whole.kept).2 whole
  refine .bind (.adapt ((ends_checked checks).imp ?_ fun _ _ => id))
  rintro _ _ rfl
  cases last with
  | none =>
    obtain ⟨t, usable, none⟩ := h
    refine .bind (.adapt ((usable.ends_areThere none).imp ?_ fun _ _ => id))
    rintro _ _ ⟨rfl, rfl⟩
    rw [if_pos (by rfl)]
    exact ends_pure.2 ⟨rfl, rfl⟩
  | some p =>
    have stores : c.Stores address p.text p.time _ := h
    refine .bind (.adapt (stores.ends_areThere.imp ?_ fun _ _ => id))
    rintro _ _ ⟨rfl, rfl⟩
    rw [if_neg (by simp)]
    refine .bind ((stores.ends_known? (isWhole_of_hasNoHalf whole) (short p rfl)).imp ?_
      fun _ _ => id)
    rintro _ _ ⟨rfl, rfl⟩
    dsimp only
    rw [names_metadata]
    refine .bind (.adapt (ends_readText ?_))
    rw [stores.back]
    dsimp only
    rw [fits_metadata]
    rw [Option.bind_some]
    by_cases same : Digest.ofText p.text = Digest.ofText (reread p.text)
    · rw [readBack, if_pos same, if_pos (beq_iff_eq.2 same)]
      exact ends_pure.2 ⟨rfl, rfl⟩
    · rw [readBack, if_neg same, if_neg fun eq => same (beq_iff_eq.1 eq)]
      exact .bind (ends_report.2 (ends_pure.2 ⟨rfl, rfl⟩))

/-! ### Putting texts one after another -/

/-! ### Texts for other addresses -/

lemma Stores.sameDisk (h : c.Stores address text time s) (same : s.SameDisk s') :
    c.Stores address text time s' := by
  have found (path : String) : s'.textAt path = s.textAt path := textAt_congr (same.entryOf path)
  exact ⟨h.ready.sameDisk same, (found _).trans h.back, (found _).trans h.known⟩

lemma Holds.sameDisk {last : Option Put} (h : c.Holds address s last) (same : s.SameDisk s') :
    c.Holds address s' last := by
  cases last with
  | some p => exact Stores.sameDisk h same
  | none =>
    obtain ⟨t, usable, none⟩ := h
    obtain ⟨t', after, usable'⟩ := usable.sameDisk same
    refine ⟨t', usable', ?_⟩
    rw [after.disk, same.here]
    exact none

/-- A text for one address leaves what is held for another one. -/
lemma Holds.puts_other {last : Option Put} (h : c.Holds address s last) (whole : HasNoHalf other.toList)
    (short : Number.isLong s.time = false) (form : HasNoHalf text.toList)
    (apart : Digest.ofText other ≠ Digest.ofText address) :
    Ends (c.put other text) s (fun _ s' => c.Holds address s' last) fun _ _ => False := by
  have text_ (here : String) : ¬c.IsPlaceOf here other (Path.goal here (c.textPath address)) := by
    rintro (same | same)
    · exact goal_ne here apart (.inl rfl) (.inl rfl) same.symm
    · exact goal_ne here apart (.inr rfl) (.inl rfl) same.symm
  have metadata_ (here : String) :
      ¬c.IsPlaceOf here other (Path.goal here (c.metadataPath address)) := by
    rintro (same | same)
    · exact goal_ne here apart (.inl rfl) (.inr rfl) same.symm
    · exact goal_ne here apart (.inr rfl) (.inr rfl) same.symm
  cases last with
  | some p =>
    have stores : c.Stores address p.text p.time s := h
    refine (stores.ready.isUsable.ends_put whole short form).imp (fun _ s' puts => ?_) fun _ _ => id
    exact ⟨puts.stores.ready, puts.changes.textAt stores.back (text_ _),
      puts.changes.textAt stores.known (metadata_ _)⟩
  | none =>
    obtain ⟨t, usable, none⟩ := h
    refine (usable.ends_put whole short form).imp (fun _ s' puts => ?_) fun _ _ => id
    refine ⟨s', puts.stores.ready.isUsable, ?_⟩
    rw [puts.changes.here, puts.same _ (text_ _), usable.grows.here, none]

/-! ### Putting texts one after another -/

/-- What can be put for any address, with a form or without one: a text that has a form, at a time that
does not have too many digits. -/
structure Put.IsRegular (p : Put) : Prop where
  address : Kept p.address.toList
  text : HasNoHalf p.text.toList
  time : Number.isLong p.time = false

/-- How an attempt to put a text ends: an address without a form is refused. -/
def Put.answer (p : Put) : Except TextError Unit :=
  match encode p.address with
  | .ok _ => .ok ()
  | .error h => .error (.half h)

/-- How the attempt to put a text at its time ends, and the machine behind it. -/
def Put.tried (c : AddressCache) (p : Put) (s : MachineState) : Except TextError Unit × MachineState :=
  onMachine (c.put p.address p.text) { s with time := p.time }

/-- How the attempts to put some texts end, one after another, and the machine behind them. -/
def putAll (c : AddressCache) : List Put → MachineState → List (Except TextError Unit) × MachineState
  | [], s => ([], s)
  | p :: puts, s =>
    let (answer, t) := p.tried c s
    let (answers, u) := putAll c puts t
    (answer :: answers, u)

/-- The last text that was put for an address. -/
def lastPut (address : String) (puts : List Put) : Option Put :=
  (puts.filter fun p => p.address == address).getLast?

/-- How an attempt to get the text of an address ends when some texts were put: an address without a form
is refused. -/
def got (address : String) (puts : List Put) : Except Failure (Option String) :=
  match encode address with
  | .ok _ => .ok ((lastPut address puts).bind fun p => readBack p.text)
  | .error h => .error (.half h)

variable {p : Put} {puts : List Put} {last : Option Put}

lemma Put.sameDisk (p : Put) (s : MachineState) : s.SameDisk { s with time := p.time } := ⟨rfl, rfl⟩

/-- Whatever was put before, a text is put, unless its address has no form. The cache can still be used. -/
lemma IsUsable.tried (h : c.IsUsable s t) (regular : p.IsRegular) :
    (p.tried c s).1 = p.answer ∧ ∃ t', c.IsUsable (p.tried c s).2 t' := by
  obtain ⟨_, -, usable⟩ := h.sameDisk (p.sameDisk s)
  unfold Put.answer
  refine Ends.fst_and_snd (P := fun s => ∃ t', c.IsUsable s t') ?_
  cases form : encode p.address with
  | error half =>
    refine .bind ((ends_checked_error form).imp (fun _ _ => False.elim) ?_)
    rintro _ _ ⟨rfl, rfl⟩
    exact ⟨rfl, _, usable⟩
  | ok bytes =>
    have whole := (exists_encode_iff regular.address).1 ⟨bytes, form⟩
    refine (usable.ends_put whole regular.time regular.text).imp (fun _ s' puts => ?_)
      fun _ _ => False.elim
    exact ⟨rfl, s', puts.stores.ready.isUsable⟩

/-- A text that is put for an address is held for it from then on. One for another address with another
digest changes nothing. -/
lemma Holds.tried (h : c.Holds address s last) (whole : HasNoHalf address.toList)
    (regular : p.IsRegular)
    (apart : Digest.ofText p.address = Digest.ofText address → p.address = address) :
    c.Holds address (p.tried c s).2 (if p.address = address then some p else last) := by
  have h := h.sameDisk (p.sameDisk s)
  suffices Ends (c.put p.address p.text) { s with time := p.time }
      (fun _ s' => c.Holds address s' (if p.address = address then some p else last))
      fun _ s' => c.Holds address s' (if p.address = address then some p else last) by
    unfold Put.tried
    have := this.onMachine
    revert this
    rcases onMachine _ _ with ⟨_ | _, _⟩ <;> exact id
  by_cases same : p.address = address
  · rw [if_pos same]
    obtain ⟨t, usable⟩ := h.isUsable
    have time : t.time = p.time := usable.time_eq
    refine (usable.ends_put (same ▸ whole) regular.time regular.text).imp (fun _ s' puts => ?_)
      fun _ _ => False.elim
    have stores := puts.stores
    rw [time, same] at stores
    exact stores
  · rw [if_neg same]
    cases form : encode p.address with
    | error half =>
      refine .bind ((ends_checked_error form).imp (fun _ _ => False.elim) ?_)
      rintro _ _ ⟨rfl, rfl⟩
      exact h
    | ok bytes =>
      have whole' := (exists_encode_iff regular.address).1 ⟨bytes, form⟩
      exact (h.puts_other whole' regular.time regular.text fun eq => same (apart eq)).imp
        (fun _ _ => id) fun _ _ => False.elim

/-- Every text is put, unless its address has no form. -/
lemma IsUsable.putAll (h : c.IsUsable s t) (regular : ∀ p ∈ puts, p.IsRegular) :
    (putAll c puts s).1 = puts.map Put.answer := by
  induction puts generalizing s t with
  | nil => rfl
  | cons p puts ih =>
    obtain ⟨first, rest⟩ := List.forall_mem_cons.1 regular
    obtain ⟨answer, t', usable⟩ := h.tried first
    rw [AddressCache.putAll, List.map_cons, ← answer, ← ih usable rest]

lemma lastPut_cons (address : String) (p : Put) (puts : List Put) :
    lastPut address (p :: puts) =
      (lastPut address puts).or (if p.address = address then some p else none) := by
  unfold lastPut
  rw [List.filter_cons]
  by_cases same : p.address = address
  · rw [if_pos (beq_iff_eq.2 same), if_pos same, List.getLast?_cons]
    cases (List.filter _ puts).getLast? <;> rfl
  · rw [if_neg fun eq => same (beq_iff_eq.1 eq), if_neg same, Option.or_none]

/-- What is held for an address at last is the last text that was put for it, or what was held before. -/
lemma Holds.putAll (h : c.Holds address s last) (whole : HasNoHalf address.toList)
    (regular : ∀ p ∈ puts, p.IsRegular)
    (apart : ∀ p ∈ puts, Digest.ofText p.address = Digest.ofText address → p.address = address) :
    c.Holds address (putAll c puts s).2 ((lastPut address puts).or last) := by
  induction puts generalizing s last with
  | nil => exact h
  | cons p puts ih =>
    obtain ⟨first, rest⟩ := List.forall_mem_cons.1 regular
    obtain ⟨apart, aparts⟩ := List.forall_mem_cons.1 apart
    have after := ih (h.tried whole first apart) rest aparts
    rw [AddressCache.putAll, lastPut_cons, Option.or_assoc]
    split at after
    · next same => rwa [if_pos same]
    · next same => rwa [if_neg same]

/-- The directory of a cache can be made, and then there is nothing where the cache keeps its files. -/
structure IsFresh (c : AddressCache) (s : MachineState) : Prop where
  tree : s.disk.IsTree
  path : ∀ path, c.IsFile path → FileFault.ofPath? path = none
  made : ∃ t, onMachine (makeDirectories (tidy c.directory)) s = (.ok (), t) ∧
    ∀ path, c.IsFile path → t.disk.at? (Path.goal s.here path) = none

lemma IsFresh.exists_isUsable (h : c.IsFresh s) : ∃ t, c.IsUsable s t ∧
    ∀ path, c.IsFile path → t.disk.at? (Path.goal s.here path) = none := by
  obtain ⟨t, made, free⟩ := h.made
  exact ⟨t, ⟨h.tree, made, h.path, fun path file => by simp [free path file]⟩, free⟩

/-- A text of an address is got as it was put last. -/
lemma IsFresh.fst_get? (h : c.IsFresh s) (regular : ∀ p ∈ puts, p.IsRegular)
    (kept : Kept address.toList)
    (apart : ∀ p ∈ puts, Digest.ofText p.address = Digest.ofText address → p.address = address) :
    onMachine (c.get? address) (putAll c puts s).2 = (got address puts, (putAll c puts s).2) := by
  obtain ⟨t, usable, free⟩ := h.exists_isUsable
  unfold got
  refine Prod.ext_iff.2 (Ends.fst_and_snd (P := (· = (c.putAll puts s).2)) ?_)
  cases form : encode address with
  | error half =>
    refine .bind (.adapt ((ends_checked_error form).imp (fun _ _ => False.elim) ?_))
    rintro _ _ ⟨rfl, rfl⟩
    exact ⟨rfl, rfl⟩
  | ok bytes =>
    have whole := (exists_encode_iff kept).1 ⟨bytes, form⟩
    have start : c.Holds address s none := ⟨t, usable, free _ (isFile_textPath c address)⟩
    have holds := start.putAll whole regular apart
    rw [Option.or_none] at holds
    have short : ∀ p ∈ lastPut address puts, Number.isLong p.time = false := fun p hp =>
      (regular p (List.mem_of_mem_filter (List.mem_of_getLast? hp))).time
    refine (holds.ends_get? whole short).imp ?_ fun _ _ => False.elim
    rintro _ _ ⟨rfl, rfl⟩
    exact ⟨rfl, rfl⟩

/-- When texts are put one after another, each is put unless its address has no form. Afterwards the text
of an address is got as it is read from the file of the last text that was put for the address, if that
has the digest of the text, and none is got if none was put. It is the text itself if and only if that
has no carriage return. All of this is for addresses whose digests tell them apart. -/
theorem get?_putAll (fresh : c.IsFresh s) (regular : ∀ p ∈ puts, p.IsRegular) :
    (putAll c puts s).1 = puts.map Put.answer ∧
    ∀ address, Kept address.toList →
      (∀ p ∈ puts, Digest.ofText p.address = Digest.ofText address → p.address = address) →
      onMachine (c.get? address) (putAll c puts s).2 = (got address puts, (putAll c puts s).2) ∧
      ∀ p ∈ lastPut address puts, HasNoHalf address.toList →
        (got address puts = .ok (some p.text) ↔ '\r' ∉ p.text.toList) := by
  obtain ⟨t, usable, -⟩ := fresh.exists_isUsable
  refine ⟨usable.putAll regular, fun address kept apart =>
    ⟨fresh.fst_get? regular kept apart, fun p last whole => ?_⟩⟩
  obtain ⟨_, form⟩ := (exists_encode_iff kept).2 whole
  rw [← readBack_eq_some_iff, got, form]
  dsimp only
  rw [Option.mem_def.1 last, Option.bind_some, Except.ok.injEq]

/-- On a machine without files a cache in the default directory is fresh. -/
lemma isFresh_default : IsFresh {} {} := by
  have directory : IsName ".tsgen-cache" :=
    isName_append (a := ".") (b := "tsgen-cache") (by decide) (by decide) (by decide)
  have made : (onMachine (makeDirectories (tidy ".tsgen-cache")) {}).1 = .ok () := by decide +kernel
  have entries : (onMachine (makeDirectories (tidy ".tsgen-cache")) {}).2.disk.entries.map Prod.fst =
      [[".tsgen-cache"]] := by decide +kernel
  refine ⟨Disk.isTree_empty, fun path file => ?_, _, Prod.ext_iff.2 ⟨made, rfl⟩, fun path file => ?_⟩
  · obtain ⟨name, form, isName, plain, short⟩ := file.exists_name
    rw [form, below_of_name directory isName]
    refine FileFault.ofPath?_of_plain ?_ ?_
    · simp only [String.toList_append]
      exact List.forall_mem_append.2 ⟨isPlain_of_all (by decide), plain⟩
    · simp only [String.toList_append, List.length_append]
      have : ".tsgen-cache".toList.length + "/".toList.length = 13 := by decide
      unfold greatestPathSize
      omega
  · obtain ⟨name, goal⟩ := file.goal "/"
    have above : Path.goal "/" ".tsgen-cache" = [".tsgen-cache"] := by decide +kernel
    have goal : Path.goal "/" path = [".tsgen-cache", name] := by rw [goal, above]; rfl
    rw [goal, Disk.at?, if_neg (by simp), List.lookup_eq_none_iff]
    intro e he
    have key := List.mem_map_of_mem (f := Prod.fst) he
    change e.1 ∈ (onMachine (makeDirectories (tidy ".tsgen-cache")) {}).2.disk.entries.map Prod.fst at key
    rw [entries, List.mem_singleton] at key
    simp [key]

/-- Two texts are put for one address, the second one with a carriage return. -/
theorem get?_putAll_return :
    let c : AddressCache := {}
    let address := "http://x/a"
    let puts : List Put := [⟨address, "one", 1⟩, ⟨address, "a\r\nb", 2⟩]
    c.IsFresh {} ∧ (∀ p ∈ puts, p.IsRegular) ∧
      (putAll c puts {}).1 = puts.map Put.answer ∧
      onMachine (c.get? address) (putAll c puts {}).2 = (got address puts, (putAll c puts {}).2) ∧
      got address puts ≠ .ok (some "a\r\nb") := by
  intro c address puts
  have regular : ∀ p ∈ puts, p.IsRegular := by
    have kept {t : String} (h : Text.halfMark ∉ t.toList) : HasNoHalf t.toList := hasNoHalf_of_notMem h
    refine List.forall_mem_cons.2 ⟨⟨(kept (by decide)).kept, kept (by decide), by decide +kernel⟩,
      List.forall_mem_cons.2 ⟨⟨(kept (by decide)).kept, kept (by decide), by decide +kernel⟩, nofun⟩⟩
  obtain ⟨answers, gets⟩ := get?_putAll isFresh_default regular
  have whole : HasNoHalf address.toList := hasNoHalf_of_notMem (by decide)
  obtain ⟨same, back⟩ := gets address whole.kept (by simp [puts])
  refine ⟨isFresh_default, regular, answers, same, fun all => ?_⟩
  have last : lastPut address puts = some ⟨address, "a\r\nb", 2⟩ := by
    simp [lastPut, puts]
  exact absurd ((back _ last whole).1 all) (by decide)

end Specification.AddressCache

end ClientGen
