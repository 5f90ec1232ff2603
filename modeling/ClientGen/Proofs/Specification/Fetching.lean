import ClientGen.Proofs.Machine.Beside
import ClientGen.Proofs.Machine.Files
import ClientGen.Proofs.Output.Manifest

/-!
# What planning leaves on the disk

Loading a specification and planning its files change nothing but the cache of fetched texts: two
files for an address, in directories that are made for them.
-/

namespace ClientGen

open Machine MachineState Output Path Specification

variable {ε ε' α β : Type} {s s' s'' : MachineState}

/-! ### Looking -/

/-- Work that leaves the machine as it is. -/
def Looks (x : Work (StateM MachineState) ε α) : Prop :=
  ∀ s, Ends x s (fun _ s' => s' = s) fun _ s' => s' = s

section Looks

variable {x : Work (StateM MachineState) ε α} {f : α → Work (StateM MachineState) ε β}

lemma Looks.bind (hx : Looks x) (hf : ∀ a, Looks (f a)) : Looks (x >>= f) := by
  refine fun s => .bind ((hx s).imp ?_ fun _ _ => id)
  rintro a _ rfl
  exact hf a _

lemma Looks.ends_bind {s : MachineState} {R : β → MachineState → Prop} {E : ε → MachineState → Prop}
    (hx : Looks x) (hf : ∀ a, Ends (f a) s R E) (hE : ∀ e, E e s) : Ends (x >>= f) s R E := by
  refine .bind ((hx s).imp ?_ ?_)
  · rintro a _ rfl
    exact hf a
  · rintro e _ rfl
    exact hE e

lemma Looks.adapt (h : Looks x) (g : ε → ε') : Looks (x.adapt g) :=
  fun s => .adapt (h s)

lemma Looks.attempt (h : Looks x) : Looks (attempt x : Work _ ε' _) :=
  fun s => .attempt (h s)

lemma IsService.snd_run {z : StateM MachineState α} (h : IsService false z) (s : MachineState) :
    (z.run s).2 = s := by
  cases h with
  | fetch address => exact snd_run_fetch address s
  | _ => rfl

/-- Work that asks only for services which change nothing leaves the machine as it is. -/
lemma Mirrors.looks {x : Work (StateT FileCache (StateM MachineState)) ε α}
    {y : Work (StateM MachineState) ε α} (h : Mirrors false x y) : Looks y := by
  induction h with
  | pure => exact fun _ => ends_pure.2 rfl
  | throw => exact fun _ => ends_throw.2 rfl
  | report => exact fun _ => ends_report.2 rfl
  | service asks => exact fun s => ends_asked.2 (asks.snd_run s)
  | bind _ _ ihx ihf => exact ihx.bind ihf
  | adapt g _ ih => exact ih.adapt g
  | attempt _ ih => exact ih.attempt

end Looks

/-! ### The cache of fetched texts -/

/-- A place where the cache of fetched texts keeps one, or what is known about it. -/
def IsFetched (q : Place) : Prop :=
  ∃ front address, q = front ++ [Digest.ofText address ++ ".spec"] ∨
    q = front ++ [Digest.ofText address ++ ".meta.json"]

/-- A machine on which nothing but fetched texts came to the disk, and directories for them. -/
structure Fetches (s s' : MachineState) : Prop where
  here : s'.here = s.here
  tree : s'.disk.IsTree
  bytesAt? : ∀ q, s'.disk.bytesAt? q = s.disk.bytesAt? q ∨ IsFetched q

lemma Fetches.refl (tree : s.disk.IsTree) : Fetches s s :=
  ⟨rfl, tree, fun _ => .inl rfl⟩

lemma Fetches.trans (h : Fetches s s') (h' : Fetches s' s'') : Fetches s s'' where
  here := h'.here.trans h.here
  tree := h'.tree
  bytesAt? q := by
    rcases h'.bytesAt? q with same | fetched
    · rw [same]
      exact h.bytesAt? q
    · exact .inr fetched

lemma MachineState.Grows.fetches (h : s.Grows s') : Fetches s s' :=
  ⟨h.here, h.tree, fun q => .inl (h.isWithin.bytesAt? q)⟩

lemma MachineState.Puts.fetches {place : Place} {bytes : ByteArray} (tree : s.disk.IsTree)
    (h : s.Puts place bytes s') (fetched : IsFetched place) : Fetches s s' where
  here := h.here
  tree := h.tree tree
  bytesAt? q := by
    rw [h.bytesAt?]
    split
    · next same => exact .inr (same ▸ fetched)
    · exact .inl rfl

/-- Work that changes nothing on the machine but the cache of fetched texts. -/
def MayFetch (x : Work (StateM MachineState) ε α) : Prop :=
  ∀ s : MachineState, s.disk.IsTree → Ends x s (fun _ s' => Fetches s s') fun _ s' => Fetches s s'

section MayFetch

variable {x : Work (StateM MachineState) ε α} {f : α → Work (StateM MachineState) ε β}

lemma Looks.mayFetch (h : Looks x) : MayFetch x :=
  fun s tree => (h s).imp (by rintro _ _ rfl; exact .refl tree) (by rintro _ _ rfl; exact .refl tree)

lemma MayFetch.bind (hx : MayFetch x) (hf : ∀ a, MayFetch (f a)) : MayFetch (x >>= f) := by
  refine fun s tree => .bind ((hx s tree).imp (fun a s' fetched => ?_) fun _ _ => id)
  exact (hf a s' fetched.tree).imp (fun _ _ => fetched.trans) fun _ _ => fetched.trans

end MayFetch

namespace Specification.AddressCache

variable {c : AddressCache} {address text : String}

lemma isFetched_textPath (here : String) : IsFetched (goal here (c.textPath address)) := by
  have name : IsName (Digest.ofText address ++ ".spec") :=
    isName_append (notMem_slash_digest address) (by decide) (by decide)
  exact ⟨_, address, .inl (goal_below here name.toIsSegment name.down)⟩

lemma isFetched_metadataPath (here : String) : IsFetched (goal here (c.metadataPath address)) := by
  have name : IsName (Digest.ofText address ++ ".meta.json") :=
    isName_append (notMem_slash_digest address) (by decide) (by decide)
  exact ⟨_, address, .inr (goal_below here name.toIsSegment name.down)⟩

/-- Writing a fetched text changes no other file, however it ends. -/
lemma ends_writeText_fetched (tree : s.disk.IsTree) {path : String}
    (fetched : IsFetched (goal s.here path)) (text : String) :
    Ends (writeText path text) s (fun _ s' => Fetches s s') fun _ s' => Fetches s s' := by
  have written (bytes : ByteArray) : Ends (tried (writeBytes path bytes)) s
      (fun _ s' => Fetches s s') fun _ s' => Fetches s s' := by
    refine ends_tried ?_
    rw [run_writeBytes]
    obtain ⟨e, failed⟩ | ⟨place, s', found, puts, written⟩ := writeBytes_cases tree path bytes
    · rw [failed]
      exact .refl tree
    · rw [written]
      exact puts.fetches tree (eq_goal_of_placeOf found ▸ fetched)
  unfold writeText
  split
  · exact .adapt (written _)
  · exact .bind ((Ends.adapt (written _)).imp (fun _ _ h => ends_throw.2 h) fun _ _ => id)

/-- Keeping a text changes nothing but the files that it is kept in. -/
lemma mayFetch_put (c : AddressCache) (address text : String) : MayFetch (c.put address text) := by
  refine (mirrors_checked address).looks.mayFetch.bind fun _ => ?_
  refine MayFetch.bind (fun s tree => .adapt ((ends_makeDirectories tree _).imp
    (fun _ _ h => h.fetches) fun _ _ h => h.fetches)) fun _ => ?_
  refine MayFetch.bind (fun s tree => ends_writeText_fetched tree (isFetched_textPath _) text)
    fun _ => ?_
  refine (Mirrors.service .time).looks.mayFetch.bind fun time => ?_
  exact fun s tree => ends_writeText_fetched tree (isFetched_metadataPath _) _

end Specification.AddressCache

/-! ### Loading -/

namespace Specification

/-- How loading a document leaves the machine: as it was, or with its text kept if there is a cache. -/
def Loads (cached : Prop) (s s' : MachineState) : Prop :=
  s' = s ∨ cached ∧ Fetches s s'

/-- How the failure to load a document leaves the machine: as it was, if it is one of a specification. -/
def LoadFails (s : MachineState) (e : Failure) (s' : MachineState) : Prop :=
  Fetches s s' ∧ (e.isOfOneSpec = true → s' = s)

lemma Loads.fetches {cached : Prop} (h : Loads cached s s') (tree : s.disk.IsTree) : Fetches s s' := by
  rcases h with rfl | ⟨-, fetches⟩
  · exact .refl tree
  · exact fetches

lemma LoadFails.of_eq (tree : s.disk.IsTree) (e : Failure) : LoadFails s e s :=
  ⟨.refl tree, fun _ => rfl⟩

lemma ends_loadAddress (tree : s.disk.IsTree) (cache : Option AddressCache) (address : String) :
    Ends (loadAddress cache address) s (fun _ s' => Loads (cache.isSome = true) s s')
      (LoadFails s) := by
  have unchanged := LoadFails.of_eq tree
  have known (text : String) : Ends (do
      report .debug ("Using cached spec for " ++ address)
      liftM (ofText text address false)) s (fun _ s' => Loads (cache.isSome = true) s s')
        (LoadFails s) :=
    (Mirrors.report _ _).looks.ends_bind (fun _ => ((mirrors_liftM _).looks s).imp (fun _ _ => .inl)
      (by rintro e _ rfl; exact unchanged e)) unchanged
  have fetched {rest : String → Document.Value → Work (StateM MachineState) Failure Document.Value}
      (h : ∀ text document, Ends (rest text document) s
        (fun _ s' => Loads (cache.isSome = true) s s') (LoadFails s)) : Ends (do
        report .info ("Fetching spec from " ++ address)
        let text ← (fetchText address).adapt Failure.schema
        let document ← liftM (ofText text address false)
        rest text document) s (fun _ s' => Loads (cache.isSome = true) s s') (LoadFails s) :=
    (Mirrors.report _ _).looks.ends_bind (fun _ => ((mirrors_fetchText _).looks.adapt _).ends_bind (fun text =>
      (mirrors_liftM _).looks.ends_bind (h text) unchanged) unchanged) unchanged
  unfold loadAddress
  cases cache with
  | none =>
    refine (Mirrors.pure none).looks.ends_bind (fun kept => ?_) unchanged
    cases kept with
    | some text => exact known text
    | none => exact fetched fun text document => ends_pure.2 (.inl rfl)
  | some c =>
    refine (AddressCache.mirrors_get? c address).looks.ends_bind (fun kept => ?_) unchanged
    cases kept with
    | some text => exact known text
    | none =>
      refine fetched fun text document => .bind (.adapt ((AddressCache.mayFetch_put c address text s
        tree).imp (fun _ _ fetches => ends_pure.2 (.inr ⟨rfl, fetches⟩)) fun e _ fetches => ?_))
      refine ⟨fetches, fun ofOneSpec => ?_⟩
      cases e <;> cases ofOneSpec

/-- Loading a file changes nothing on the machine. -/
lemma endsBeside_loadFile (path : String) :
    EndsBeside (loadFile path) s (fun _ s' => s' = s) fun _ s' => s' = s := by
  unfold loadFile
  rw [(mirrors_isThere path).eq_lifted]
  refine .bind (.adapt (((mirrors_isThere path).looks s).beside.imp ?_ fun _ _ => id))
  rintro there _ rfl
  cases there
  · exact endsBeside_throw rfl
  refine .bind (endsBeside_asked fun cache => ?_)
  rw [(mirrors_get _ path).eq_lifted]
  refine .bind (((mirrors_get cache path).looks _).beside.imp ?_ fun _ _ => id)
  rintro ⟨document, cache⟩ _ rfl
  exact .bind (endsBeside_asked fun _ => endsBeside_pure rfl)

/-- Loading a specification changes nothing but the cache of fetched texts, if that is used for its
address, and nothing at all if it fails with an error of one specification. -/
lemma ends_load {source : String} {cache : Option AddressCache} {base : Option String}
    (tree : s.disk.IsTree) : EndsBeside (load source cache base) s
      (fun _ s' => Loads (isAddress source = true ∧ cache.isSome = true) s s') (LoadFails s) := by
  have file (path : String) : EndsBeside (loadFile path) s
      (fun _ s' => Loads (isAddress source = true ∧ cache.isSome = true) s s') (LoadFails s) :=
    (endsBeside_loadFile path).imp (fun _ _ => .inl)
      (by rintro _ _ rfl; exact .of_eq tree _)
  unfold load
  split
  · next address =>
    rw [(mirrors_loadAddress cache source).eq_lifted]
    exact (ends_loadAddress tree cache source).beside.imp
      (fun _ _ => .imp_right fun ⟨cached, fetches⟩ => ⟨⟨address, cached⟩, fetches⟩) fun _ _ => id
  · split
    · exact file _
    · exact file _

end Specification

end ClientGen
