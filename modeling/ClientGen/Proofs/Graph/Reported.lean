import ClientGen.Proofs.Graph.Cycles
import ClientGen.Proofs.Graph.Discovery
import Mathlib.Data.Finset.Max

/-!
# The circular schemas that are reported

A search for cycles enters each schema once, on one path, and closes a cycle only where a reference
leads back to the path that it is on. A schema is below another one in the search if references lead
to it through schemas that the search has not met before that one. So a schema is reported exactly if
a reference leads from below it to it or to a schema that it is below of: every cycle has a schema
that is reported, but not all of its schemas need be.
-/

namespace ClientGen.Graph

open Api Relation

/-- What a recursive walk finds from the names, when it has found those of `seen` before and the names
of `path` lead to where it is: each schema behind the path on which it is entered. -/
inductive Ways (d : Description) :
    List String → List String → List String → List (List String × String) → Prop
  | nil {seen path} : Ways d seen path [] []
  | skip {seen path name rest ways} : (name ∈ d.schemaNames → name ∈ seen) →
      Ways d seen path rest ways → Ways d seen path (name :: rest) ways
  | visit {seen path name rest below after} : name ∈ d.schemaNames → name ∉ seen →
      Ways d (seen ++ [name]) (path ++ [name]) (d.targets name) below →
      Ways d (seen ++ name :: below.map Prod.snd) path rest after →
      Ways d seen path (name :: rest) ((path, name) :: (below ++ after))

variable {d : Description} {seen path names rest found : List String}
  {ways ways' : List (List String × String)} {name s t x : String}

namespace Ways

lemma depthFirst (h : Ways d seen path names ways) :
    DepthFirst d seen names (ways.map Prod.snd) := by
  induction h with
  | nil => exact .nil
  | skip old _ ih => exact .skip old ih
  | visit known new _ _ ihBelow ihAfter =>
    rw [List.map_cons, List.map_append]
    exact .visit known new ihBelow ihAfter

lemma append (h : Ways d seen path names ways)
    (h' : Ways d (seen ++ ways.map Prod.snd) path rest ways') :
    Ways d seen path (names ++ rest) (ways ++ ways') := by
  induction h with
  | nil => simpa using h'
  | skip old _ ih => exact .skip old (ih h')
  | visit known new below _ _ ihAfter =>
    rw [List.cons_append, List.cons_append, List.append_assoc]
    exact .visit known new below (ihAfter (by simpa using h'))

/-- Unknown names may be left out. -/
lemma of_filter {p : String → Bool} (unknown : ∀ s, p s = false → s ∉ d.schemaNames) :
    ∀ {names seen : List String} {ways : List (List String × String)},
      Ways d seen path (names.filter p) ways → Ways d seen path names ways
  | [], _, _, h => h
  | name :: names, seen, ways, h => by
    by_cases kept : p name = true
    · rw [List.filter_cons_of_pos kept] at h
      cases h with
      | skip old h => exact .skip old (of_filter unknown h)
      | visit known new below h => exact .visit known new below (of_filter unknown h)
    · rw [List.filter_cons_of_neg kept] at h
      exact .skip (fun known => absurd known (unknown name (by simpa using kept)))
        (of_filter unknown h)

lemma path_subset (h : Ways d seen path names ways) : ∀ e ∈ ways, path ⊆ e.1 := by
  induction h with
  | nil => simp
  | skip _ _ ih => exact ih
  | visit _ _ _ _ ihBelow ihAfter =>
    refine List.forall_mem_cons.2 ⟨List.Subset.refl _, fun e he => ?_⟩
    rcases List.mem_append.1 he with he | he
    · exact List.Subset.trans (List.subset_append_left _ _) (ihBelow e he)
    · exact ihAfter e he

/-- The path on which a schema is entered is one of references, and its schemas have been found in
their order. -/
lemma isPath (h : Ways d seen path names ways) (way : IsPath d path) (begun : path.Sublist seen)
    (leads : ∀ last ∈ path.getLast?, ∀ t ∈ names, Leads d last t) : ∀ e ∈ ways,
    IsPath d (e.1 ++ [e.2]) ∧ (e.1 ++ [e.2]).Sublist (seen ++ ways.map Prod.snd) := by
  induction h with
  | nil => simp
  | skip _ _ ih => exact ih way begun fun last hl t ht => leads last hl t (List.mem_cons_of_mem _ ht)
  | @visit seen path name rest below after known new _ _ ihBelow ihAfter =>
    have longer : IsPath d (path ++ [name]) := way.snoc (fun here => new (begun.subset here)) known
      fun last hl => leads last hl name List.mem_cons_self
    have all : seen ++ ((path, name) :: (below ++ after)).map Prod.snd =
        (seen ++ [name] ++ below.map Prod.snd) ++ after.map Prod.snd := by
      simp
    rw [all]
    have grown := begun.append (List.Sublist.refl [name])
    refine List.forall_mem_cons.2 ⟨⟨longer, ?_⟩, fun e he => ?_⟩
    · exact (grown.trans (List.sublist_append_left _ _)).trans (List.sublist_append_left _ _)
    · rcases List.mem_append.1 he with he | he
      · obtain ⟨isPath, placed⟩ := ihBelow longer grown
          (fun last hl t ht => by
            obtain rfl : name = last := by simpa using hl
            exact ht) e he
        exact ⟨isPath, placed.trans (List.sublist_append_left _ _)⟩
      · have apart : seen ++ name :: below.map Prod.snd = seen ++ [name] ++ below.map Prod.snd := by
          simp
        rw [apart] at ihAfter
        exact ihAfter way (begun.trans ((List.sublist_append_left _ _).trans
          (List.sublist_append_left _ _)))
          (fun last hl t ht => leads last hl t (List.mem_cons_of_mem _ ht)) e he

end Ways

/-! ### What is below a schema -/

namespace DepthFirst

/-- All that is to be met, and all that what is found references, has been found then or before. -/
lemma closed (h : DepthFirst d seen names found) :
    (∀ t ∈ names, t ∈ d.schemaNames → t ∈ seen ++ found) ∧
      ∀ s ∈ found, ∀ t, Leads d s t → t ∈ d.schemaNames → t ∈ seen ++ found := by
  induction h with
  | nil => simp
  | skip old _ ih =>
    exact ⟨List.forall_mem_cons.2 ⟨fun known => List.mem_append_left _ (old known), ih.1⟩, ih.2⟩
  | @visit seen name rest below after known new _ _ ihBelow ihAfter =>
    have all : seen ++ name :: (below ++ after) = (seen ++ name :: below) ++ after := by simp
    have early : seen ++ [name] ++ below = seen ++ name :: below := by simp
    rw [all]
    rw [early] at ihBelow
    have lower {t : String} (ht : t ∈ seen ++ name :: below) : t ∈ (seen ++ name :: below) ++ after :=
      List.mem_append_left _ ht
    refine ⟨List.forall_mem_cons.2 ⟨fun _ => lower (by simp), ihAfter.1⟩, ?_⟩
    refine List.forall_mem_cons.2 ⟨fun t leads inside => lower (ihBelow.1 t leads inside), ?_⟩
    intro s hs t leads inside
    rcases List.mem_append.1 hs with hs | hs
    · exact lower (ihBelow.2 s hs t leads inside)
    · exact ihAfter.2 s hs t leads inside

/-- A chain of references from a schema that is found, through schemas that had not been found before
it, stays among what is found. -/
lemma stays {r : String → String → String → Prop} (h : DepthFirst d seen names found)
    (step : ∀ x a b, r x a b → Leads d a b ∧ b ∈ d.schemaNames)
    (late : ∀ before x after, found = before ++ x :: after → ∀ a b, r x a b → b ∉ seen ++ before)
    (hx : x ∈ found) (chain : ReflTransGen (r x) x t) : t ∈ found := by
  obtain ⟨before, after, split⟩ := List.append_of_mem hx
  induction chain with
  | refl => exact hx
  | tail _ next ih =>
    obtain ⟨leads, known⟩ := step x _ _ next
    refine (List.mem_append.1 (h.closed.2 _ ih _ leads known)).resolve_left fun old => ?_
    exact late before x after split _ _ next (List.mem_append_left _ old)

end DepthFirst

/-- If a chain of references leads from a schema that is found to the end of a way, through schemas
that have not been found before the first one, the way goes through that. -/
lemma Ways.mem_way {r : String → String → String → Prop} (h : Ways d seen path names ways)
    (step : ∀ x a b, r x a b → Leads d a b ∧ b ∈ d.schemaNames)
    (late : ∀ before x after, ways.map Prod.snd = before ++ x :: after →
      ∀ a b, r x a b → b ∉ seen ++ before) :
    ∀ e ∈ ways, ∀ x ∈ ways.map Prod.snd, ReflTransGen (r x) x e.2 → x ∈ e.1 ++ [e.2] := by
  induction h with
  | nil => simp
  | skip _ _ ih => exact ih late
  | @visit seen path name rest below after inside new hBelow hAfter ihBelow ihAfter =>
    rw [List.map_cons, List.map_append] at late ⊢
    have lateDown (before : List String) (x : String) (behind : List String)
        (split : name :: below.map Prod.snd = before ++ x :: behind) :
        ∀ a b, r x a b → b ∉ seen ++ before :=
      late before x (behind ++ after.map Prod.snd) (by
        rw [← List.cons_append, split, List.append_assoc, List.cons_append])
    have lateBelow (before : List String) (x : String) (behind : List String)
        (split : below.map Prod.snd = before ++ x :: behind) :
        ∀ a b, r x a b → b ∉ seen ++ [name] ++ before := by
      simpa using lateDown (name :: before) x behind (by simp [split])
    have lateAfter (before : List String) (x : String) (behind : List String)
        (split : after.map Prod.snd = before ++ x :: behind) :
        ∀ a b, r x a b → b ∉ seen ++ name :: below.map Prod.snd ++ before := by
      simpa using late (name :: (below.map Prod.snd ++ before)) x behind (by simp [split])
    obtain ⟨apart, nodup⟩ :=
      List.nodup_cons.1 (Ways.visit inside new hBelow hAfter).depthFirst.nodup.1
    rw [List.map_append] at apart nodup
    have disjoint := List.disjoint_of_nodup_append nodup
    intro e he x hx chain
    have place : e = (path, name) ∨ e ∈ below ∨ e ∈ after := by simpa using he
    -- A chain from the schema itself goes below; one from below, or from behind, stays there.
    rcases List.mem_cons.1 hx with rfl | hx
    · have down : DepthFirst d seen [x] (x :: below.map Prod.snd) := by
        simpa using DepthFirst.visit inside new hBelow.depthFirst (.nil (d := d))
      have ends := down.stays step lateDown List.mem_cons_self chain
      rcases place with rfl | he | he
      · simp
      · exact List.mem_append_left _ (hBelow.path_subset e he (by simp))
      · have behind : e.2 ∈ after.map Prod.snd := List.mem_map_of_mem he
        rcases List.mem_cons.1 ends with same | ends
        · exact absurd (List.mem_append_right _ (same ▸ behind)) apart
        · exact absurd behind (disjoint ends)
    · rcases List.mem_append.1 hx with hx | hx
      · have ends := hBelow.depthFirst.stays step lateBelow hx chain
        rcases place with rfl | he | he
        · exact absurd (List.mem_append_left _ ends) apart
        · exact ihBelow lateBelow e he x hx chain
        · exact absurd (List.mem_map_of_mem he) (disjoint ends)
      · have ends := hAfter.depthFirst.stays step lateAfter hx chain
        rcases place with rfl | he | he
        · exact absurd (List.mem_append_right _ ends) apart
        · exact absurd ends (disjoint (List.mem_map_of_mem he))
        · exact ihAfter lateAfter e he x hx chain

/-! ### What a search for cycles finds -/

/-- A reference from the end of a way to the names of it closes the cycle. -/
def Closes (d : Description) (way : List String × String) (names : List String) : Prop :=
  ∃ t ∈ d.targets way.2, t ∈ d.schemaNames ∧ t ∈ way.1 ++ [way.2] ∧
    names = fromLeast ((way.1 ++ [way.2]).dropWhile (· != t))

namespace CycleSearch

variable {q q' q'' : CycleSearch} {budget : Nat}

/-- Between two states of a search on a path the later one has entered in addition what a recursive
walk finds from the names, and it has closed the cycles of the names that are on the path and those
of the ways on which schemas have been entered. -/
def Discovers (d : Description) (path names : List String) (q q' : CycleSearch) : Prop :=
  ∃ ways, Ways d q.entered path names ways ∧ q'.entered = q.entered ++ ways.map Prod.snd ∧
    ∀ c, c ∈ q'.cycles ↔ c ∈ q.cycles ∨
      (∃ t ∈ names, t ∈ path ∧ c = fromLeast (path.dropWhile (· != t))) ∨
      ∃ way ∈ ways, Closes d way c

/-- A search on a path that is never out of budget. -/
structure Ready (d : Description) (path : List String) (budget : Nat) (q : CycleSearch) : Prop where
  opened : path ⊆ q.entered
  room : Room d.schemaNames q.entered budget

lemma Discovers.refl (path : List String) (q : CycleSearch) : q.Discovers d path [] q :=
  ⟨[], .nil, by simp, by simp⟩

lemma Discovers.append (h : q.Discovers d path names q') (h' : q'.Discovers d path rest q'') :
    q.Discovers d path (names ++ rest) q'' := by
  obtain ⟨ways, found, grown, closed⟩ := h
  obtain ⟨ways', found', grown', closed'⟩ := h'
  rw [grown] at found' grown'
  refine ⟨ways ++ ways', found.append found', by rw [grown', List.map_append, List.append_assoc],
    fun c => ?_⟩
  rw [closed', closed]
  simp only [List.mem_append, or_and_right, exists_or, or_assoc, or_left_comm]

lemma Ready.of_discovers (h : q.Ready d path budget) (found : q.Discovers d path names q') :
    q'.Ready d path budget := by
  obtain ⟨ways, -, grown, -⟩ := found
  have more : q.entered ⊆ q'.entered := grown ▸ List.subset_append_left _ _
  exact ⟨List.Subset.trans h.opened more, h.room.of_subset more⟩

/-- What each step of a loop discovers from its name, the whole loop discovers from all names. -/
lemma discovers_foldl (step : CycleSearch → String → CycleSearch) :
    ∀ (names : List String) (q : CycleSearch), q.Ready d path budget →
      (∀ t ∈ names, ∀ q : CycleSearch, q.Ready d path budget → q.Discovers d path [t] (step q t)) →
      q.Discovers d path names (names.foldl step q)
  | [], q, _, _ => .refl path q
  | t :: rest, q, ready, each => by
    have first := each t List.mem_cons_self q ready
    exact first.append (discovers_foldl step rest (step q t) (ready.of_discovers first)
      fun t' ht' => each t' (List.mem_cons_of_mem t ht'))

/-- A name is followed back to the path, to what has been entered before, or into a new schema. -/
lemma follow_discovers (ready : q.Ready d path budget)
    (enters : t ∉ q.entered → q.Discovers d path [t] (q.enter d budget path t)) :
    q.Discovers d path [t] (q.follow d budget path t) := by
  unfold follow
  split
  · next back =>
    replace back : t ∈ path := by simpa using back
    refine ⟨[], .skip (fun _ => ready.opened back) .nil, by simp, fun c => ?_⟩
    simp [mem_addNew, back]
  · next forward =>
    replace forward : t ∉ path := by simpa using forward
    split
    · next old =>
      replace old : t ∈ q.entered := by simpa using old
      exact ⟨[], .skip (fun _ => old) .nil, by simp, by simp [forward]⟩
    · next new => exact enters (by simpa using new)

/-- The induction is on the budget: what is entered below has less of it. -/
lemma enter_discovers : ∀ (budget : Nat) {path : List String} {name : String} {q : CycleSearch},
    q.Ready d path budget → name ∈ d.schemaNames → name ∉ q.entered →
      q.Discovers d path [name] (q.enter d budget path name)
  | 0, _, _, _, ready, _, _ => absurd ready.room (Nat.not_lt_zero _)
  | budget + 1, path, name, q, ready, known, new => by
    rw [enter_succ]
    have start : Ready d (path ++ [name]) budget { q with entered := q.entered ++ [name] } :=
      ⟨List.append_subset.2 ⟨List.Subset.trans ready.opened (List.subset_append_left _ _), by simp⟩,
        ready.room.enter known new⟩
    obtain ⟨below, found, grown, closed⟩ := discovers_foldl _
      ((d.targets name).filter fun t => (d.schema? t).isSome) _ start fun t ht q ready =>
        follow_discovers ready (enter_discovers budget ready
          (mem_schemaNames_iff.2 (List.mem_filter.1 ht).2))
    refine ⟨(path, name) :: (below ++ []), .visit known new (found.of_filter ?_) .nil, ?_, fun c => ?_⟩
    · exact fun s unknown inside => by simp [mem_schemaNames_iff.1 inside] at unknown
    · simp [grown]
    · have off : name ∉ path := fun here => new (ready.opened here)
      have here : Closes d (path, name) c ↔ ∃ t ∈ (d.targets name).filter fun t => (d.schema? t).isSome,
          t ∈ path ++ [name] ∧ c = fromLeast ((path ++ [name]).dropWhile (· != t)) := by
        simp only [Closes, List.mem_filter, mem_schemaNames_iff, and_assoc]
      rw [closed, ← here]
      simp [off]

end CycleSearch

/-- The search over a description enters every schema on a way, in the order of discovery, and reports
the cycles that these ways close. -/
lemma exists_ways (d : Description) : ∃ ways, Ways d [] [] d.schemaNames ways ∧
    ways.map Prod.snd = closure d d.schemaNames ∧
      ∀ c, c ∈ cycles d ↔ ∃ way ∈ ways, Closes d way c := by
  have start : CycleSearch.Ready d [] (d.schemas.length + 1) {} :=
    ⟨by simp, by simpa [Description.schemaNames] using Room.start d.schemaNames []⟩
  obtain ⟨ways, found, -, closed⟩ := CycleSearch.discovers_foldl (fun q name =>
      if q.entered.contains name then q else q.enter d (d.schemas.length + 1) [] name)
    d.schemaNames _ start fun name known q ready => by
      split
      · next old =>
        replace old : name ∈ q.entered := by simpa using old
        exact ⟨[], .skip (fun _ => old) .nil, by simp, by simp⟩
      · next new => exact CycleSearch.enter_discovers _ ready known (by simpa using new)
  exact ⟨ways, found, found.depthFirst.unique (depthFirst_visited d [] d.schemaNames),
    fun c => (closed c).trans (by simp)⟩

/-! ### The schemas that are reported -/

/-- Where a schema stands in the order in which a walk over the description discovers the schemas. -/
def place (d : Description) (s : String) : Nat :=
  (closure d d.schemaNames).idxOf s

/-- The schema `a` references the known schema `b`, which is not discovered before `s`. -/
def ReferencesFrom (d : Description) (s a b : String) : Prop :=
  References d a b ∧ b ∈ d.schemaNames ∧ place d s ≤ place d b

/-- References lead from the schema `s` to `t` through schemas that are not discovered before `s`. -/
def Below (d : Description) (s t : String) : Prop :=
  ReflTransGen (ReferencesFrom d s) s t

lemma place_le_of_below (h : Below d s t) : place d s ≤ place d t := by
  rcases h.cases_tail with rfl | ⟨_, -, -, -, later⟩
  · exact Nat.le_refl _
  · exact later

lemma Below.trans (h : Below d s t) (h' : Below d t x) : Below d s x :=
  ReflTransGen.trans h (ReflTransGen.mono (fun _ _ next =>
    ⟨next.1, next.2.1, Nat.le_trans (place_le_of_below h) next.2.2⟩) _ _ h')

/-- The schemas are discovered in their order. -/
lemma pairwise_place (d : Description) :
    (closure d d.schemaNames).Pairwise fun s t => place d s < place d t := by
  have nodup : (closure d d.schemaNames).Nodup := (depthFirst_visited d [] d.schemaNames).nodup.1
  rw [List.pairwise_iff_getElem]
  intro i j hi hj less
  unfold place
  rwa [nodup.idxOf_getElem, nodup.idxOf_getElem]

lemma below_of_isChain : ∀ {rest : List String} {t : String}, (t :: rest).IsChain (Leads d) →
    (∀ x ∈ rest, x ∈ d.schemaNames ∧ place d s ≤ place d x) →
      ∀ x ∈ t :: rest, ReflTransGen (ReferencesFrom d s) t x
  | [], t, _, _, x, hx => List.mem_singleton.1 hx ▸ .refl
  | u :: rest, t, chain, later, x, hx => by
    obtain ⟨leads, chain⟩ := List.isChain_cons_cons.1 chain
    obtain ⟨first, others⟩ := List.forall_mem_cons.1 later
    rcases List.mem_cons.1 hx with rfl | hx
    · exact .refl
    · exact .head ⟨leads_iff.1 leads, first⟩ (below_of_isChain chain others x hx)

/-- What follows a schema on a path in the order of discovery is below it. -/
lemma IsPath.below (h : IsPath d path) (order : path.Pairwise fun s t => place d s < place d t)
    (suffix : (s :: rest).IsSuffix path) : ∀ t ∈ s :: rest, Below d s t := by
  have later := (List.pairwise_cons.1 (order.sublist suffix.sublist)).1
  exact below_of_isChain (h.chain.suffix suffix) fun x hx =>
    ⟨h.known (suffix.subset (List.mem_cons_of_mem s hx)), Nat.le_of_lt (later x hx)⟩

/-- A way of a search is a path of references in the order of discovery. -/
lemma Ways.isPath_of_visited (found : Ways d [] [] d.schemaNames ways)
    (discovered : ways.map Prod.snd = closure d d.schemaNames) : ∀ e ∈ ways,
      IsPath d (e.1 ++ [e.2]) ∧ (e.1 ++ [e.2]).Pairwise fun s t => place d s < place d t := by
  intro e he
  obtain ⟨isPath, placed⟩ := found.isPath ⟨List.nodup_nil, by simp, .nil⟩ (List.Sublist.refl [])
    (by simp) e he
  rw [List.nil_append, discovered] at placed
  exact ⟨isPath, (pairwise_place d).sublist placed⟩

/-- The way to a schema passes through the schemas that it is below of. -/
lemma Ways.mem_of_below (found : Ways d [] [] d.schemaNames ways)
    (discovered : ways.map Prod.snd = closure d d.schemaNames) {e : List String × String}
    (he : e ∈ ways) (known : x ∈ d.schemaNames) (below : Below d x e.2) : x ∈ e.1 ++ [e.2] := by
  have visited : x ∈ ways.map Prod.snd := by
    rw [discovered]
    exact mem_closure_iff.2 ⟨known, x, known, .refl⟩
  refine found.mem_way (r := ReferencesFrom d) (fun x a b next => ⟨leads_iff.2 next.1, next.2.1⟩)
    (fun before x after split a b next here => ?_) e he x visited below
  have ordered := pairwise_place d
  rw [← discovered, split, List.pairwise_append] at ordered
  exact absurd (ordered.2.2 b here x List.mem_cons_self) (Nat.not_lt.2 next.2.2)

/-- The schemas of a reported cycle are below the first of them that is discovered, and the last one
is below each of them. -/
lemma below_of_mem_cycles (reported : names ∈ cycles d) (hs : s ∈ names) :
    ∃ first last, Below d first s ∧ Below d s last ∧ References d last first := by
  obtain ⟨ways, found, discovered, closed⟩ := exists_ways d
  obtain ⟨e, he, first, leads, -, here, rfl⟩ := (closed names).1 reported
  obtain ⟨isPath, order⟩ := found.isPath_of_visited discovered e he
  obtain ⟨rest, loop⟩ := exists_dropWhile_ne here
  have suffix := List.dropWhile_suffix (· != first) (l := e.1 ++ [e.2])
  rw [loop] at suffix hs
  have hs : s ∈ first :: rest := (fromLeast_isRotated List.mem_cons_self).1.mem_iff.1 hs
  refine ⟨first, e.2, isPath.below order suffix s hs, ?_, leads_iff.1 leads⟩
  -- The end of the way is the end of what follows the schema on it.
  obtain ⟨before, behind, split⟩ := List.append_of_mem hs
  rw [split] at suffix
  obtain ⟨start, whole⟩ := (List.suffix_append before (s :: behind)).trans suffix
  have ends := congrArg List.getLast? whole
  rw [List.getLast?_append_cons, List.getLast?_concat] at ends
  exact isPath.below order ⟨start, whole⟩ e.2 (List.mem_of_getLast? ends)

/-- A reference from below a schema to one that this is below of closes a cycle through the schema. -/
lemma exists_mem_cycles (above : Below d t s) (below : Below d s x) (references : References d x t) :
    ∃ names ∈ cycles d, s ∈ names := by
  obtain ⟨ways, found, discovered, closed⟩ := exists_ways d
  have leads : Leads d x t := leads_iff.2 references
  have known {y : String} (hy : Below d y x) : y ∈ d.schemaNames := by
    rcases hy.cases_head with rfl | ⟨z, next, -⟩
    · exact mem_schemaNames_of_leads leads
    · exact mem_schemaNames_of_leads (leads_iff.2 next.1)
  obtain ⟨e, he, rfl⟩ : ∃ e ∈ ways, e.2 = x := by
    rw [← List.mem_map, discovered]
    exact mem_closure_iff.2 ⟨known .refl, x, known .refl, .refl⟩
  obtain ⟨isPath, order⟩ := found.isPath_of_visited discovered e he
  have here := found.mem_of_below discovered he (known (above.trans below)) (above.trans below)
  refine ⟨_, (closed _).2 ⟨e, he, t, leads, isPath.known here, here, rfl⟩, ?_⟩
  obtain ⟨rest, loop⟩ := exists_dropWhile_ne here
  rw [loop]
  refine (fromLeast_isRotated List.mem_cons_self).1.mem_iff.2 ?_
  -- The schema is not discovered before the first one, and so it is not before that on the way.
  have whole := List.takeWhile_append_dropWhile (p := (· != t)) (l := e.1 ++ [e.2])
  rw [loop] at whole
  rw [← whole, List.pairwise_append] at order
  have passed := found.mem_of_below discovered he (known below) below
  rw [← whole] at passed
  refine (List.mem_append.1 passed).resolve_left fun early => ?_
  exact absurd (order.2.2 s early t List.mem_cons_self) (Nat.not_lt.2 (place_le_of_below above))

/-- A schema is on a reported cycle exactly if a reference leads from below it to a schema that it is
below of, or to itself. -/
lemma mem_cycles_iff : (∃ names ∈ cycles d, s ∈ names) ↔
    ∃ first last, Below d first s ∧ Below d s last ∧ References d last first := by
  constructor
  · rintro ⟨names, reported, hs⟩
    exact below_of_mem_cycles reported hs
  · rintro ⟨first, last, above, below, references⟩
    exact exists_mem_cycles above below references

/-- All schemas of a cycle are known. -/
lemma mem_schemaNames_of_chain_cycle (cycle : Cycle.Chain (References d) names) (hs : s ∈ names) :
    s ∈ d.schemaNames := by
  have chain : TransGen (References d) s s :=
    Cycle.chain_iff_pairwise.1 (cycle.imp fun _ _ => TransGen.single) s hs s hs
  obtain ⟨t, references, -⟩ := TransGen.head'_iff.1 chain
  exact mem_schemaNames_of_leads (leads_iff.2 references)

/-- The schema of a cycle that is discovered first is reported. -/
lemma exists_reported_of_cycle (any : names ≠ []) (cycle : Cycle.Chain (References d) names) :
    ∃ s ∈ names, ∃ c ∈ cycles d, s ∈ c := by
  obtain ⟨first, hf, least⟩ := names.toFinset.exists_min_image (place d)
    (List.toFinset_nonempty_iff names |>.2 any)
  simp only [List.mem_toFinset] at hf least
  refine ⟨first, hf, mem_cycles_iff.2 ?_⟩
  -- The cycle is turned so that it starts at the schema that is discovered first.
  obtain ⟨before, behind, split⟩ := List.append_of_mem hf
  have turned : names.IsRotated (first :: (behind ++ before)) := by
    rw [split]
    exact List.isRotated_append
  have later (x : String) (hx : x ∈ behind ++ before) :
      x ∈ d.schemaNames ∧ place d first ≤ place d x := by
    have member : x ∈ names := turned.mem_iff.2 (List.mem_cons_of_mem first hx)
    exact ⟨mem_schemaNames_of_chain_cycle cycle member, least x member⟩
  rw [Cycle.coe_eq_coe.2 turned, Cycle.chain_coe_cons, ← List.cons_append, ← leads_eq,
    List.isChain_append] at cycle
  obtain ⟨chain, -, back⟩ := cycle
  obtain ⟨last, hl⟩ : ∃ last, (first :: (behind ++ before)).getLast? = some last :=
    ⟨_, List.getLast?_eq_some_getLast (List.cons_ne_nil _ _)⟩
  exact ⟨first, last, .refl, below_of_isChain chain later last (List.mem_of_getLast? hl),
    leads_iff.1 (back last hl first rfl)⟩

/-- The schemas that are circular after a search for cycles in a fresh graph are those of the cycles
that it reports, and all of them are on a cycle of references. They are the ones from below which a
reference leads to a schema that they are below of, or to themselves; so some schema of each cycle of
references is among them, but not one from which references lead back only through schemas that are
discovered before it. -/
theorem circular_reported (d : Description) :
    let g := ({ description := d } : Dependencies).cycles
    (∀ s, s ∈ g.2.circular ↔ ∃ names ∈ g.1, s ∈ names) ∧
    (∀ s ∈ g.2.circular, OnCycle d s) ∧
    (∀ s, s ∈ g.2.circular ↔
      ∃ first last, Below d first s ∧ Below d s last ∧ References d last first) ∧
    ∀ names : List String, names ≠ [] → Cycle.Chain (References d) names →
      ∃ s ∈ names, s ∈ g.2.circular := by
  intro g
  have circular (s : String) : s ∈ g.2.circular ↔ ∃ names ∈ cycles d, s ∈ names := by
    simp [g, Dependencies.cycles, mem_foldl_addNew, List.mem_flatten]
  refine ⟨circular, fun s hs => ?_, fun s => (circular s).trans mem_cycles_iff, ?_⟩
  · obtain ⟨names, reported, hs⟩ := (circular s).1 hs
    exact (isCycle_of_mem_cycles reported).onCycle hs
  · intro names any cycle
    obtain ⟨s, hs, reported⟩ := exists_reported_of_cycle any cycle
    exact ⟨s, hs, (circular s).2 reported⟩

/-- A description of schemas that reference others by the names. -/
def referring (schemas : List (String × List String)) : Description where
  schemas := schemas.map fun (name, targets) =>
    (name, .anyOf (targets.map fun t => .reference ("#/components/schemas/" ++ t) {}) {})

/-- The schema `C` is on the cycle through `A` and `B`, but the reference from it leads to `B` when
that has been left. -/
example : cycles (referring [("A", ["B", "C"]), ("B", ["A"]), ("C", ["B"])]) = [["A", "B"]] := by
  cbv

end ClientGen.Graph
