import ClientGen.Graph.Cycles
import ClientGen.Proofs.Graph.Overlap
import Mathlib.Data.List.Cycle

/-!
# The cycles that are found

A walk over the direct references closes a cycle wherever a reference leads back to the path it is
on. What it closes is a cycle of known schemas, turned so that the smallest name comes first, and as
long as nothing has been closed no schema that has been left again can be on a cycle. So all that is
found are cycles, none of them twice, and something is found if there is any.
-/

namespace ClientGen.Graph

open Api Relation

variable {d : Description} {names names' path : List String} {name target s t : String}

/-! ### Cycles of references -/

/-- References lead from the schema back to itself. -/
def OnCycle (d : Description) (s : String) : Prop := TransGen (References d) s s

lemma onCycle_iff : OnCycle d s ↔ TransGen (Leads d) s s := by
  rw [OnCycle, leads_eq]

/-- The names are those of distinct known schemas, of which each references the next one and the
last one references the first, and no name is smaller than the first. -/
structure IsCycle (d : Description) (names : List String) : Prop where
  nodup : names.Nodup
  known : ∀ s ∈ names, s ∈ d.schemaNames
  closed : Cycle.Chain (References d) names
  least : ∃ first, names.head? = some first ∧ ∀ s ∈ names, first ≤ s

/-- A chain of references to a known schema is one between known schemas. -/
lemma within_of_chain (chain : TransGen (References d) s t) (known : t ∈ d.schemaNames) :
    TransGen (ReferencesWithin d d.schemaNames) s t := by
  induction chain using TransGen.head_induction_on with
  | single leads => exact .single ⟨leads, mem_schemaNames_of_leads (leads_iff.2 leads), known⟩
  | head leads chain ih =>
    obtain ⟨_, next, -⟩ := TransGen.head'_iff.1 ih
    exact .head ⟨leads, mem_schemaNames_of_leads (leads_iff.2 leads), next.2.1⟩ ih

/-- All schemas of a cycle are on it. -/
lemma IsCycle.onCycle (h : IsCycle d names) (hs : s ∈ names) : OnCycle d s :=
  Cycle.chain_iff_pairwise.1 (h.closed.imp fun _ _ => TransGen.single) s hs s hs

/-- A turn of distinct items that starts at the same item leaves them as they are. -/
lemma eq_of_isRotated (nodup : names.Nodup) (turned : names.IsRotated names')
    (same : names.head? = names'.head?) : names = names' := by
  obtain ⟨n, rfl⟩ := turned
  rcases List.eq_nil_or_concat names with rfl | ⟨_, _, he⟩
  · simp
  · have short : n % names.length < names.length := Nat.mod_lt n (by simp [he])
    rw [← List.rotate_mod, List.head?_rotate short, List.head?_eq_getElem?] at same
    have start := (List.getElem?_inj (Nat.zero_lt_of_lt short) nodup).1 same
    rw [← List.rotate_mod, ← start, List.rotate_zero]

/-- Two cycles that are turns of each other are the same, as both start at their smallest name. -/
lemma IsCycle.eq_of_isRotated (h : IsCycle d names) (h' : IsCycle d names')
    (turned : names.IsRotated names') : names = names' := by
  obtain ⟨first, here, least⟩ := h.least
  obtain ⟨first', here', least'⟩ := h'.least
  have same : first = first' := String.le_antisymm
    (least first' (turned.mem_iff.2 (List.mem_of_mem_head? here')))
    (least' first (turned.mem_iff.1 (List.mem_of_mem_head? here)))
  exact Graph.eq_of_isRotated h.nodup turned (by rw [here, here', same])

/-! ### Turning a cycle -/

lemma exists_dropWhile_ne (member : s ∈ names) : ∃ rest, names.dropWhile (· != s) = s :: rest := by
  induction names with
  | nil => simp at member
  | cons n rest ih =>
    by_cases here : n = s
    · exact ⟨rest, by simp [here]⟩
    · obtain ⟨after, h⟩ := ih ((List.mem_cons.1 member).resolve_left (Ne.symm here))
      exact ⟨after, by rw [List.dropWhile_cons_of_pos (by simpa using here), h]⟩

/-- A list that is turned is a turn of the list, and it starts at the smallest name. -/
lemma fromLeast_isRotated (member : s ∈ names) : (fromLeast names).IsRotated names ∧
    ∃ first, (fromLeast names).head? = some first ∧ ∀ s ∈ names, first ≤ s := by
  obtain ⟨least, rest, sorted⟩ := List.exists_cons_of_ne_nil
    (List.ne_nil_of_mem (mem_sortTexts.2 member))
  have turned : fromLeast names =
      names.dropWhile (· != least) ++ names.takeWhile (· != least) := by
    simp [fromLeast, sorted]
  constructor
  · conv_rhs => rw [← List.takeWhile_append_dropWhile (p := (· != least)) (l := names)]
    rw [turned]
    exact List.isRotated_append
  · obtain ⟨after, start⟩ := exists_dropWhile_ne (mem_sortTexts.1 (sorted ▸ List.mem_cons_self))
    refine ⟨least, by rw [turned, start]; rfl, fun s hs => ?_⟩
    have order := sorted_sortTexts names
    rw [sorted, List.pairwise_cons] at order
    rcases List.mem_cons.1 (sorted ▸ mem_sortTexts.2 hs) with rfl | hs
    · exact String.le_refl _
    · exact order.1 s hs

/-! ### The path of a walk -/

/-- What a chain of references to a known schema starts at is known. -/
lemma mem_schemaNames_of_chain (chain : ReflTransGen (Leads d) s t) (known : t ∈ d.schemaNames) :
    s ∈ d.schemaNames := by
  rcases chain.cases_head with rfl | ⟨u, leads, -⟩
  · exact known
  · exact mem_schemaNames_of_leads leads

/-- The names are those of distinct known schemas, of which each references the next one. -/
structure IsPath (d : Description) (path : List String) : Prop where
  nodup : path.Nodup
  known : path ⊆ d.schemaNames
  chain : path.IsChain (Leads d)

lemma IsPath.left (h : IsPath d (path ++ names)) : IsPath d path :=
  ⟨h.nodup.of_append_left, (List.append_subset.1 h.known).1, h.chain.left_of_append⟩

lemma IsPath.snoc (h : IsPath d path) (new : name ∉ path) (known : name ∈ d.schemaNames)
    (leads : ∀ last ∈ path.getLast?, Leads d last name) : IsPath d (path ++ [name]) where
  nodup := h.nodup.append (List.nodup_singleton name) (by simpa using new)
  known := List.append_subset.2 ⟨h.known, by simpa using known⟩
  chain := h.chain.append (.singleton name) (by simpa using leads)

/-- A reference from the end of a path back to it closes a cycle. -/
lemma IsPath.isCycle (h : IsPath d (path ++ [name])) (leads : Leads d name target)
    (back : target ∈ path ++ [name]) :
    IsCycle d (fromLeast ((path ++ [name]).dropWhile (· != target))) := by
  obtain ⟨rest, loop⟩ := exists_dropWhile_ne back
  have suffix := List.dropWhile_suffix (· != target) (l := path ++ [name])
  rw [loop] at suffix ⊢
  obtain ⟨turned, least⟩ := fromLeast_isRotated (List.mem_cons_self : target ∈ target :: rest)
  refine ⟨turned.nodup_iff.2 (h.nodup.sublist suffix.sublist), ?_, ?_, ?_⟩
  · exact fun s hs => h.known (suffix.subset (turned.mem_iff.1 hs))
  · -- The path leads from the target to its end, and the reference leads from there to the target.
    rw [← leads_eq, Cycle.coe_eq_coe.2 turned, Cycle.chain_coe_cons, ← List.cons_append]
    refine (h.chain.suffix suffix).append (.singleton target) ?_
    intro last hl t ht
    obtain rfl : target = t := by simpa using ht
    obtain ⟨before, split⟩ := suffix
    have ends := congrArg List.getLast? split
    rw [List.getLast?_append_cons, List.getLast?_concat, Option.mem_def.1 hl] at ends
    exact Option.some.inj ends ▸ leads
  · obtain ⟨first, here, smallest⟩ := least
    exact ⟨first, here, fun s hs => smallest s (turned.mem_iff.1 hs)⟩

/-! ### What a walk keeps -/

/-- A later walk has entered the schemas and closed the cycles of an earlier one. -/
structure CycleSearch.Grows (q q' : CycleSearch) : Prop where
  entered : q.entered ⊆ q'.entered
  cycles : q.cycles ⊆ q'.cycles

/-- The schema is on no cycle, and the known schemas that it references have been entered and left
again. -/
def CycleSearch.Settled (d : Description) (path : List String) (q : CycleSearch) (s : String) :
    Prop :=
  ¬ TransGen (Leads d) s s ∧ ∀ t ∈ d.targets s, t ∈ d.schemaNames → t ∈ q.entered ∧ t ∉ path

/-- What holds of a walk that is never out of budget while it is on a path: what it has closed are
cycles, and unless it has closed one, all that it has left again is settled. -/
structure CycleSearch.Sound (d : Description) (path : List String) (budget : Nat)
    (q : CycleSearch) : Prop where
  isCycle : ∀ names ∈ q.cycles, IsCycle d names
  nodup : q.cycles.Nodup
  isPath : IsPath d path
  opened : path ⊆ q.entered
  settled : q.cycles = [] → ∀ s ∈ q.entered, s ∉ path → q.Settled d path s
  room : Room d.schemaNames q.entered budget

namespace CycleSearch

variable {q q' q'' : CycleSearch} {budget : Nat}

lemma Grows.refl (q : CycleSearch) : q.Grows q :=
  ⟨fun _ h => h, fun _ h => h⟩

lemma Grows.trans (h : q.Grows q') (h' : q'.Grows q'') : q.Grows q'' :=
  ⟨List.Subset.trans h.entered h'.entered, List.Subset.trans h.cycles h'.cycles⟩

lemma Grows.eq_nil (h : q.Grows q') (none : q'.cycles = []) : q.cycles = [] :=
  List.subset_nil.1 (none ▸ h.cycles)

/-- A schema that has just been entered is the end of the path. -/
lemma Sound.enter (h : q.Sound d path (budget + 1)) (way : IsPath d (path ++ [name]))
    (new : name ∉ q.entered) :
    Sound d (path ++ [name]) budget { q with entered := q.entered ++ [name] } where
  isCycle := h.isCycle
  nodup := h.nodup
  isPath := way
  opened := List.append_subset.2
    ⟨List.Subset.trans h.opened (List.subset_append_left _ _), List.subset_append_right _ _⟩
  settled none s hs outside := by
    rw [List.mem_append, not_or] at outside
    obtain ⟨acyclic, left⟩ :=
      h.settled none s ((List.mem_append.1 hs).resolve_right outside.2) outside.1
    refine ⟨acyclic, fun t ht known => ?_⟩
    obtain ⟨entered, other⟩ := left t ht known
    have apart : t ≠ name := fun he => new (he ▸ entered)
    exact ⟨List.mem_append_left _ entered, by simp [other, apart]⟩
  room := h.room.enter (way.known (by simp)) new

/-- A reference back to the path closes a cycle. -/
lemma Sound.close (h : q.Sound d path budget) (isCycle : IsCycle d names) :
    Sound d path budget { q with cycles := addNew q.cycles names } where
  isCycle c hc := (mem_addNew.1 hc).elim (h.isCycle c) fun he => he ▸ isCycle
  nodup := nodup_addNew names h.nodup
  isPath := h.isPath
  opened := h.opened
  settled none := absurd none addNew_ne_nil
  room := h.room

/-- While nothing has been closed, references lead from what has been left to nothing else. -/
lemma Sound.left_of_chain (h : q.Sound d path budget) (none : q.cycles = [])
    (chain : ReflTransGen (Leads d) s t) (hs : s ∈ q.entered ∧ s ∉ path)
    (known : t ∈ d.schemaNames) : t ∈ q.entered ∧ t ∉ path := by
  induction chain with
  | refl => exact hs
  | tail _ leads ih =>
    obtain ⟨entered, outside⟩ := ih (mem_schemaNames_of_leads leads)
    exact (h.settled none _ entered outside).2 _ leads known

/-- The schema at the end of the path is left when all its references have been followed. If nothing
has been closed it is on no cycle, as a cycle would lead from what has been left back to it. -/
lemma Sound.leave (h : q.Sound d (path ++ [name]) budget)
    (followed : ∀ t ∈ d.targets name, t ∈ d.schemaNames →
      t ∈ q.entered ∧ (q.cycles = [] → t ∉ path ++ [name])) :
    q.Sound d path (budget + 1) where
  isCycle := h.isCycle
  nodup := h.nodup
  isPath := h.isPath.left
  opened := (List.append_subset.1 h.opened).1
  settled none s hs outside := by
    have shorter {t : String} (ht : t ∉ path ++ [name]) : t ∉ path :=
      fun here => ht (List.mem_append_left _ here)
    by_cases last : s = name
    · subst last
      refine ⟨fun cycle => ?_, fun t ht known => ?_⟩
      · obtain ⟨t, leads, back⟩ := TransGen.head'_iff.1 cycle
        have known : s ∈ d.schemaNames := mem_schemaNames_of_leads leads
        obtain ⟨entered, outside⟩ := followed t leads (mem_schemaNames_of_chain back known)
        exact (h.left_of_chain none back ⟨entered, outside none⟩ known).2 (by simp)
      · exact ⟨(followed t ht known).1, shorter ((followed t ht known).2 none)⟩
    · obtain ⟨acyclic, left⟩ := h.settled none s hs (by simp [outside, last])
      exact ⟨acyclic, fun t ht known => (left t ht known).imp_right shorter⟩
  room := Nat.lt_succ_of_lt h.room

/-- The walk after one reference from the end of the path has been followed. -/
def follow (d : Description) (budget : Nat) (path : List String) (q : CycleSearch)
    (target : String) : CycleSearch :=
  if path.contains target then
    { q with cycles := addNew q.cycles (fromLeast (path.dropWhile (· != target))) }
  else if q.entered.contains target then q
  else q.enter d budget path target

lemma enter_succ : q.enter d (budget + 1) path name =
    ((d.targets name).filter fun t => (d.schema? t).isSome).foldl (follow d budget (path ++ [name]))
      { q with entered := q.entered ++ [name] } := by
  rw [CycleSearch.enter]
  rfl

mutual

/-- A walk enters a schema from a path that leads to it: it closes cycles only, and all that it
enters it leaves again. -/
lemma enter_sound : ∀ (budget : Nat) (path : List String) (name : String) (q : CycleSearch),
    q.Sound d path budget → IsPath d (path ++ [name]) → name ∉ q.entered →
    (q.enter d budget path name).Sound d path budget ∧ q.Grows (q.enter d budget path name) ∧
      name ∈ (q.enter d budget path name).entered
  | 0, _, _, _, hq, _, _ => absurd hq.room (Nat.not_lt_zero _)
  | budget + 1, path, name, q, hq, way, new => by
    rw [enter_succ]
    obtain ⟨below, grown, followed⟩ := foldl_keeps Grows
      (fun t q => t ∈ q.entered ∧ (q.cycles = [] → t ∉ path ++ [name])) Grows.refl
      (fun h h' => h.trans h')
      (fun grown h => ⟨grown.entered h.1, fun none => h.2 (grown.eq_nil none)⟩)
      ((d.targets name).filter fun t => (d.schema? t).isSome) _ (hq.enter way new)
      fun target ht q hq =>
        have ⟨leads, inside⟩ := List.mem_filter.1 ht
        follow_sound budget path name target q hq leads (mem_schemaNames_iff.2 inside)
    refine ⟨below.leave fun t ht inside => ?_, ?_, grown.entered (by simp)⟩
    · exact followed t (List.mem_filter.2 ⟨ht, mem_schemaNames_iff.1 inside⟩)
    · exact ⟨fun _ h => grown.entered (List.mem_append_left _ h), grown.cycles⟩
termination_by budget => (budget, 0)

/-- A reference to a known schema leads back to the path and closes a cycle, or to a schema that is
entered, now or before. -/
lemma follow_sound : ∀ (budget : Nat) (path : List String) (name target : String) (q : CycleSearch),
    q.Sound d (path ++ [name]) budget → Leads d name target → target ∈ d.schemaNames →
    (q.follow d budget (path ++ [name]) target).Sound d (path ++ [name]) budget ∧
      q.Grows (q.follow d budget (path ++ [name]) target) ∧
      target ∈ (q.follow d budget (path ++ [name]) target).entered ∧
      ((q.follow d budget (path ++ [name]) target).cycles = [] → target ∉ path ++ [name])
  | budget, path, name, target, q, hq, leads, known => by
    unfold follow
    split
    · next back =>
      replace back : target ∈ path ++ [name] := by simpa using back
      exact ⟨hq.close (hq.isPath.isCycle leads back),
        ⟨fun _ h => h, fun _ h => mem_addNew.2 (.inl h)⟩, hq.opened back,
        fun none => absurd none addNew_ne_nil⟩
    · next forward =>
      replace forward : target ∉ path ++ [name] := by simpa using forward
      split
      · next old => exact ⟨hq, .refl q, by simpa using old, fun _ => forward⟩
      · next new =>
        have way : IsPath d ((path ++ [name]) ++ [target]) :=
          hq.isPath.snoc forward known (by simpa using leads)
        obtain ⟨sound, grown, entered⟩ := enter_sound budget (path ++ [name]) target q hq way
          (by simpa using new)
        exact ⟨sound, grown, entered, fun _ => forward⟩
termination_by budget => (budget, 1)

end

end CycleSearch

/-! ### The cycles that are found -/

/-- A finished walk is on no path, and it has entered all known schemas. -/
lemma exists_cycleSearch (d : Description) : ∃ budget, ∃ q : CycleSearch, q.cycles = cycles d ∧
    q.Sound d [] budget ∧ ∀ s ∈ d.schemaNames, s ∈ q.entered := by
  have start : CycleSearch.Sound d [] (d.schemas.length + 1) {} :=
    ⟨by simp, List.nodup_nil, ⟨List.nodup_nil, by simp, .nil⟩, by simp, by simp,
      by simpa [Description.schemaNames] using Room.start d.schemaNames []⟩
  refine ⟨_, _, rfl, And.imp_right And.right (foldl_keeps CycleSearch.Grows
    (fun s q => s ∈ q.entered) CycleSearch.Grows.refl (fun h h' => h.trans h')
    (fun grown h => grown.entered h) d.schemaNames _ start ?_)⟩
  intro name known q hq
  split
  · next old => exact ⟨hq, .refl q, by simpa using old⟩
  · next new =>
    have way : IsPath d ([] ++ [name]) := hq.isPath.snoc (by simp) known (by simp)
    exact CycleSearch.enter_sound _ [] name q hq way (by simpa using new)

lemma isCycle_of_mem_cycles (h : names ∈ cycles d) : IsCycle d names := by
  obtain ⟨_, q, found, sound, -⟩ := exists_cycleSearch d
  exact sound.isCycle names (found ▸ h)

/-- What a walk over a description finds are cycles, each starting at its smallest name, and no two
of them are the same or turns of each other. Nothing is found exactly if no chain of references
between known schemas leads back to where it starts. -/
theorem cycles_exact (g : Dependencies) :
    (∀ names ∈ g.cycles.1, IsCycle g.description names) ∧
    (g.cycles.1.Pairwise fun names names' => ¬ names.IsRotated names') ∧
    (g.cycles.1 = [] ↔
      ∀ s, ¬ TransGen (ReferencesWithin g.description g.description.schemaNames) s s) := by
  obtain ⟨budget, q, found, sound, entered⟩ := exists_cycleSearch g.description
  have same : g.cycles.1 = q.cycles := found.symm
  rw [same]
  refine ⟨sound.isCycle, ?_, fun none s cycle => ?_, fun acyclic => ?_⟩
  · exact sound.nodup.imp_of_mem fun h h' other turned =>
      other ((sound.isCycle _ h).eq_of_isRotated (sound.isCycle _ h') turned)
  · have chain : TransGen (Leads g.description) s s :=
      TransGen.mono (fun _ _ h => leads_iff.2 h.1) _ _ cycle
    obtain ⟨t, leads, -⟩ := TransGen.head'_iff.1 chain
    exact (sound.settled none s (entered s (mem_schemaNames_of_leads leads)) (by simp)).1 chain
  · refine List.eq_nil_iff_forall_not_mem.2 fun names h => ?_
    have real := sound.isCycle names h
    obtain ⟨first, here, -⟩ := real.least
    have member := List.mem_of_mem_head? here
    exact acyclic first (within_of_chain (real.onCycle member) (real.known first member))

end ClientGen.Graph
