import ClientGen.Graph.Order
import ClientGen.Proofs.Graph.Closure
import Mathlib.Data.List.Dedup

/-!
# What a dependency order holds

Names in dependency order are the same names: a walk puts in order every member that it enters once
it has left it again. What a name references comes before it, except where references lead back.
-/

namespace ClientGen.Graph

open Api Relation

variable {d : Description} {members open_ : List String}

/-- What holds of a walk while the names of `open_` have been entered and not been left. -/
structure OrderWalk.Sound (members open_ : List String) (s : OrderWalk) : Prop where
  left : ∀ name ∈ s.entered, name ∈ s.ordered ∨ name ∈ open_
  members : s.ordered ⊆ members

/-- A name that has been entered and not been left is open. -/
lemma OrderWalk.Sound.enter {s : OrderWalk} {name : String} (hs : s.Sound members open_) :
    OrderWalk.Sound members (name :: open_) { s with entered := s.entered ++ [name] } := by
  refine ⟨fun n hn => ?_, hs.members⟩
  rcases List.mem_append.1 hn with hn | hn
  · exact (hs.left n hn).imp_right (List.mem_cons_of_mem name)
  · exact .inr (by simp [List.mem_singleton.1 hn])

/-- A name is entered, unless the budget is used up, and everything that is entered with it is left
again. -/
lemma OrderWalk.enter_sound : ∀ (budget : Nat) (open_ : List String) (name : String)
    (s : OrderWalk), name ∈ members → s.Sound members open_ →
    (s.enter d members budget name).Sound members open_ ∧
      s.entered ⊆ (s.enter d members budget name).entered ∧
      (0 < budget → name ∈ (s.enter d members budget name).entered)
  | 0, _, _, _, _, hs => ⟨hs, fun _ h => h, fun h => absurd h (Nat.lt_irrefl 0)⟩
  | budget + 1, open_, name, s, hm, hs => by
    rw [OrderWalk.enter]
    split
    · next h => exact ⟨hs, fun _ h => h, fun _ => by simpa using h⟩
    · have opened : OrderWalk.Sound members (name :: open_)
          { s with entered := s.entered ++ [name] } := hs.enter
      obtain ⟨below, grown, -⟩ := foldl_keeps (fun s t : OrderWalk => s.entered ⊆ t.entered)
        (fun _ _ => True) (fun _ _ h => h) List.Subset.trans (fun _ h => h)
        ((d.targets name).filter members.contains) _ opened fun t ht s hs => by
          have := enter_sound budget (name :: open_) t s
            (by simpa using (List.mem_filter.1 ht).2) hs
          exact ⟨this.1, this.2.1, trivial⟩
      refine ⟨⟨fun n hn => ?_, ?_⟩, fun n hn => grown (by simp [hn]), fun _ => grown (by simp)⟩
      · rcases below.left n hn with h | h
        · exact .inl (List.mem_append_left _ h)
        · rcases List.mem_cons.1 h with rfl | h
          · exact .inl (by simp)
          · exact .inr h
      · exact List.append_subset.2 ⟨below.members, by simpa using hm⟩

/-- A finished walk has entered all names, and has left all of them again. -/
lemma orderWalk_sound (d : Description) (names : List String) :
    (orderWalk d names).Sound (distinct names) [] ∧
      ∀ name ∈ names, name ∈ (orderWalk d names).entered := by
  have start : OrderWalk.Sound (distinct names) [] {} := ⟨by simp, by simp⟩
  obtain ⟨sound, -, entered⟩ := foldl_keeps (fun s t : OrderWalk => s.entered ⊆ t.entered)
    (fun n s => n ∈ s.entered) (fun _ _ h => h) List.Subset.trans
    (fun hg h => hg h) (distinct names) _ start fun n hn s hs => by
      have := OrderWalk.enter_sound (d := d) ((distinct names).length + 1) [] n s hn hs
      exact ⟨this.1, this.2.1, this.2.2 (Nat.succ_pos _)⟩
  exact ⟨sound, fun name hn => entered name (mem_distinct.2 hn)⟩

/-- A dependency order holds the names that it is made of. -/
theorem mem_dependencyOrder {names : List String} {name : String} :
    name ∈ dependencyOrder d names ↔ name ∈ names := by
  obtain ⟨sound, entered⟩ := orderWalk_sound d names
  exact ⟨fun h => mem_distinct.1 (sound.members h), fun h =>
    (sound.left name (entered name h)).resolve_right (by simp)⟩

/-- A walk enters no other names. -/
lemma mem_of_entered {names : List String} {name : String}
    (h : name ∈ (orderWalk d names).entered) : name ∈ names :=
  mem_dependencyOrder.1 (((orderWalk_sound d names).1.left name h).resolve_right (by simp))

/-! ### The order -/

/-- Every member that a name in order references comes before it, or members lead back from it. -/
def OrderWalk.Arranged (d : Description) (members : List String) (s : OrderWalk) : Prop :=
  ∀ before name after, s.ordered = before ++ name :: after → ∀ target ∈ d.targets name,
    target ∈ members → target ∈ before ∨ ReflTransGen (ReferencesWithin d members) target name

/-- Fewer members than the budget are left to be entered. -/
def OrderWalk.Room (members : List String) (budget : Nat) (s : OrderWalk) : Prop :=
  (members.filter fun n => !s.entered.contains n).length < budget

namespace OrderWalk

variable {s t : OrderWalk} {name : String} {budget : Nat}

lemma Room.of_subset (h : Room members budget s) (grown : s.entered ⊆ t.entered) :
    Room members budget t :=
  Graph.Room.of_subset h grown

lemma Room.enter (h : Room members (budget + 1) s) (member : name ∈ members)
    (new : name ∉ s.entered) : Room members budget { s with entered := s.entered ++ [name] } :=
  Graph.Room.enter h member new

/-- A name is put last in order. -/
lemma Arranged.leave (h : s.Arranged d members)
    (back : ∀ target ∈ d.targets name, target ∈ members →
      target ∈ s.ordered ∨ ReflTransGen (ReferencesWithin d members) target name) :
    Arranged d members { s with ordered := s.ordered ++ [name] } := by
  intro before n after order target ht member
  rcases List.eq_nil_or_concat after with rfl | ⟨rest, last, rfl⟩
  · obtain ⟨rfl, same⟩ := List.append_inj' order rfl
    obtain rfl := List.singleton_inj.1 same
    exact back target ht member
  · rw [List.concat_eq_append, ← List.cons_append, ← List.append_assoc] at order
    exact h before n rest (List.append_inj' order rfl).1 target ht member

/-- What holds of a walk that is never out of budget while the names of `open_` are open. -/
structure Steady (d : Description) (members open_ : List String) (budget : Nat) (s : OrderWalk) :
    Prop where
  sound : s.Sound members open_
  arranged : s.Arranged d members
  room : s.Room members budget

/-- A walk that enters a name from names that lead to it keeps the order: what is entered and not in
order yet is on the way to the name. -/
lemma enter_arranged : ∀ (budget : Nat) (open_ : List String) (name : String) (s : OrderWalk),
    name ∈ members → s.Steady d members open_ budget →
    (∀ o ∈ open_, ReflTransGen (ReferencesWithin d members) o name) →
    (s.enter d members budget name).Arranged d members ∧
      name ∈ (s.enter d members budget name).entered
  | 0, _, _, _, _, hs, _ => absurd hs.room (Nat.not_lt_zero _)
  | budget + 1, open_, name, s, member, hs, way => by
    rw [OrderWalk.enter]
    split
    · next old => exact ⟨hs.arranged, by simpa using old⟩
    · next new =>
      replace new : name ∉ s.entered := by simpa using new
      have opened : Steady d members (name :: open_) budget
          { s with entered := s.entered ++ [name] } :=
        ⟨hs.sound.enter, hs.arranged, hs.room.enter member new⟩
      obtain ⟨below, grown, entered⟩ := foldl_keeps
        (fun s t : OrderWalk => s.entered ⊆ t.entered) (fun target s => target ∈ s.entered)
        (fun _ _ h => h) List.Subset.trans (fun hg h => hg h)
        ((d.targets name).filter members.contains) _ opened fun target ht s hs => by
          obtain ⟨leads, known⟩ := List.mem_filter.1 ht
          have inside : target ∈ members := by simpa using known
          have within : ReferencesWithin d members name target :=
            ⟨leads_iff.1 leads, member, inside⟩
          have walked := enter_sound (d := d) budget (name :: open_) target s inside hs.sound
          have met := enter_arranged budget (name :: open_) target s inside hs fun o ho => ?_
          · exact ⟨⟨walked.1, met.1, hs.room.of_subset walked.2.1⟩, walked.2.1, met.2⟩
          · rcases List.mem_cons.1 ho with rfl | ho
            · exact .single within
            · exact (way o ho).tail within
      refine ⟨below.arranged.leave fun target ht inside => ?_, grown (by simp)⟩
      rcases below.sound.left target
        (entered target (List.mem_filter.2 ⟨ht, by simpa using inside⟩)) with left | here
      · exact .inl left
      · rcases List.mem_cons.1 here with rfl | here
        · exact .inr .refl
        · exact .inr (way target here)

end OrderWalk

/-- What a name references comes before it in dependency order, or the names lead back from it. -/
lemma mem_before_or_back {names before after : List String} {name target : String}
    (order : dependencyOrder d names = before ++ name :: after) (leads : Leads d name target)
    (member : target ∈ names) :
    target ∈ before ∨ ReflTransGen (ReferencesWithin d names) target name := by
  have start : OrderWalk.Steady d (distinct names) [] ((distinct names).length + 1) {} :=
    ⟨⟨by simp, by simp⟩, by simp [OrderWalk.Arranged], Room.start _ _⟩
  obtain ⟨steady, -⟩ := foldl_keeps (fun _ _ : OrderWalk => True) (fun _ _ => True)
    (fun _ => trivial) (fun _ _ => trivial) (fun _ _ => trivial) (distinct names) _ start
    fun n hn s hs => by
      have walked := OrderWalk.enter_sound (d := d) ((distinct names).length + 1) [] n s hn hs.sound
      have met := OrderWalk.enter_arranged _ [] n s hn hs (by simp)
      exact ⟨⟨walked.1, met.1, hs.room.of_subset walked.2.1⟩, trivial, trivial⟩
  refine (steady.arranged before name after order target leads (mem_distinct.2 member)).imp_right ?_
  exact ReflTransGen.mono (fun _ _ h => ⟨h.1, mem_distinct.1 h.2.1, mem_distinct.1 h.2.2⟩) _ _

/-- What a name references comes before it in dependency order, or it leads back to the name. -/
theorem mem_before_of_leads {names before after : List String} {name target : String}
    (order : dependencyOrder d names = before ++ name :: after) (leads : Leads d name target)
    (member : target ∈ names) : target ∈ before ∨ ReflTransGen (Leads d) target name :=
  (mem_before_or_back order leads member).imp_right
    (ReflTransGen.mono (fun _ _ h => leads_iff.2 h.1) _ _)

/-! ### Every name once -/

/-- Every name in order has been entered, once, and no open name is in order. -/
structure OrderWalk.Distinct (open_ : List String) (s : OrderWalk) : Prop where
  nodup : s.ordered.Nodup
  entered : s.ordered ⊆ s.entered
  apart : ∀ n ∈ open_, n ∈ s.entered ∧ n ∉ s.ordered

/-- A name that is entered for the first time is not in order before it is left. -/
lemma OrderWalk.Distinct.enter {s : OrderWalk} {name : String} (h : s.Distinct open_)
    (new : name ∉ s.entered) :
    OrderWalk.Distinct (name :: open_) { s with entered := s.entered ++ [name] } where
  nodup := h.nodup
  entered := List.Subset.trans h.entered (List.subset_append_left _ _)
  apart n hn := by
    rcases List.mem_cons.1 hn with rfl | hn
    · exact ⟨by simp, fun ordered => new (h.entered ordered)⟩
    · exact (h.apart n hn).imp_left (List.mem_append_left _)

/-- A name that is left is put in order for the first time. -/
lemma OrderWalk.Distinct.leave {s : OrderWalk} {name : String} (h : s.Distinct (name :: open_))
    (closed : name ∉ open_) :
    OrderWalk.Distinct open_ { s with ordered := s.ordered ++ [name] } where
  nodup := h.nodup.append (List.nodup_singleton name) (by simpa using (h.apart name (by simp)).2)
  entered := List.append_subset.2 ⟨h.entered, by simpa using (h.apart name (by simp)).1⟩
  apart n hn := by
    have other : n ≠ name := fun he => closed (he ▸ hn)
    have open_ := h.apart n (List.mem_cons_of_mem name hn)
    exact ⟨open_.1, by simp [open_.2, other]⟩

lemma OrderWalk.enter_distinct : ∀ (budget : Nat) (open_ : List String) (name : String)
    (s : OrderWalk), s.Distinct open_ → (s.enter d members budget name).Distinct open_
  | 0, _, _, _, hs => hs
  | budget + 1, open_, name, s, hs => by
    rw [OrderWalk.enter]
    split
    · exact hs
    · next new =>
      replace new : name ∉ s.entered := by simpa using new
      have below := List.foldlRecOn ((d.targets name).filter members.contains)
        (fun s target => s.enter d members budget target) (hs.enter new) fun s hs target _ =>
          enter_distinct budget (name :: open_) target s hs
      exact below.leave fun here => new (hs.apart name here).1

/-- A dependency order holds no name twice. -/
lemma nodup_dependencyOrder (d : Description) (names : List String) :
    (dependencyOrder d names).Nodup := by
  have start : OrderWalk.Distinct [] {} := ⟨List.nodup_nil, by simp, by simp⟩
  have finished := List.foldlRecOn (distinct names)
    (fun s name => s.enter d (distinct names) ((distinct names).length + 1) name) start
    fun s hs name _ => OrderWalk.enter_distinct _ [] name s hs
  exact finished.nodup

/-- A dependency order holds each of its names once, and a name comes before one that it references
only if references that stay among the names lead from this one back to it. -/
theorem dependencyOrder_exact (d : Description) (names : List String) :
    (dependencyOrder d names).Perm names.dedup ∧
      ∀ a b, References d a b → [a, b].Sublist (dependencyOrder d names) →
        TransGen (ReferencesWithin d names) b a := by
  have nodup := nodup_dependencyOrder d names
  constructor
  · rw [List.perm_ext_iff_of_nodup nodup names.nodup_dedup]
    exact fun s => mem_dependencyOrder.trans List.mem_dedup.symm
  · intro a b leads earlier
    obtain ⟨front, rest, order, here, later⟩ := List.cons_sublist_iff.1 earlier
    obtain ⟨before, between, rfl⟩ := List.append_of_mem here
    have behind : b ∈ rest := List.singleton_sublist.1 later
    rw [order] at nodup
    have apart := List.disjoint_of_nodup_append nodup
    have member : b ∈ names := by
      rw [← mem_dependencyOrder (d := d), order]
      exact List.mem_append_right _ behind
    rw [List.append_assoc, List.cons_append] at order
    rcases mem_before_or_back order (leads_iff.2 leads) member with first | back
    · exact absurd behind (apart (List.mem_append_left _ first))
    · have other : a ≠ b := fun he => apart here (he ▸ behind)
      exact (reflTransGen_iff_eq_or_transGen.1 back).resolve_left other

end ClientGen.Graph
