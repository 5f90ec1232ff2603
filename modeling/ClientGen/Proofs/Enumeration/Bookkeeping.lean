import ClientGen.Proofs.Enumeration.Stability

/-!
# The tables of the registry

Besides questions the registry takes registrations, which bind a key to any identifier, whether
somebody owns it or not. Whatever calls have been made, what is bound and what is owned stays so,
the search for an identifier ends, and a name that is made belongs to the values of the question.
All that a registration can spoil is that the identifiers of the keys have owners.
-/

namespace ClientGen.Enumeration

variable {r : Registry} {identifier key x : String} {q : Question}

/-! ### The search for an identifier -/

namespace Registry

/-- The search among the candidates from the one with this number on. It stops at one that these
values may have, and goes on with the next otherwise. -/
inductive Search (r : Registry) (identifier key : String) : Nat → String → Prop
  | stop {n : Nat} (free : r.IsFreeFor key (candidate identifier n)) :
      Search r identifier key n (candidate identifier n)
  | next {n : Nat} {x : String} (taken : ¬ r.IsFreeFor key (candidate identifier n))
      (rest : Search r identifier key (n + 1) x) : Search r identifier key n x

/-- A search passes the candidates that are taken. -/
lemma Search.of_taken {m n : Nat} (search : Search r identifier key n x) (le : m ≤ n)
    (taken : ∀ k < n, ¬ r.IsFreeFor key (candidate identifier k)) :
    Search r identifier key m x := by
  induction le using Nat.decreasingInduction with
  | self => exact search
  | of_succ k hk ih => exact .next (taken k hk) ih

/-- The search for an identifier ends with the one that is made. -/
lemma search_assign (r : Registry) (identifier key : String) :
    Search r identifier key 0 (r.assign identifier key).1 := by
  obtain ⟨n, made, free, taken⟩ := exists_first_candidate r identifier key
  rw [made]
  exact (Search.stop free).of_taken (Nat.zero_le n) taken

end Registry

/-! ### Names that are made -/

namespace Question

/-- The identifier of the enumeration, before collisions are looked at. -/
def base : Question → String
  | schema _ s => schemaIdentifier s
  | inline values context => inlineIdentifier values context

/-- The keys that are bound to a name that is made: that of the schema, or that of the values and
that of the place if there is one. -/
def ownKeys : Question → List String
  | schema _ s => [Registry.schemaKey s]
  | inline values context =>
    Enumeration.valueKey values :: (Registry.contextKey? values context).toList

/-- A name that is made is the one that the search for the values ends with. -/
lemma ask_eq_assign (new : q.known? r = none) :
    (q.ask r).1 = (r.assign q.base q.valueKey).1 := by
  cases q with
  | schema values s =>
    change r.lookup? (Registry.schemaKey s) = none at new
    simp only [ask, Registry.nameOfSchema, new]
    rfl
  | inline values context =>
    change r.known? values context = none at new
    simp only [ask, Registry.nameOf, new]
    rfl

/-- A name that is made belongs to the values. -/
lemma owner?_of_new (new : q.known? r = none) :
    (q.ask r).2.owner? (q.ask r).1 = some q.valueKey := by
  obtain ⟨-, same⟩ | ⟨own, -, -⟩ := Registry.ask_cases q r
  · -- Behind its question the enumeration is known, and so something has changed.
    have known := known?_ask (q := q) (r := r)
    rw [same, new] at known
    cases known
  · exact own

/-- The keys of the question are bound to a name that is made. -/
lemma lookup?_of_new (new : q.known? r = none) (own : key ∈ q.ownKeys) :
    (q.ask r).2.lookup? key = some (q.ask r).1 := by
  cases q with
  | schema values s =>
    obtain rfl : key = Registry.schemaKey s := by simpa [ownKeys] using own
    exact Registry.lookup?_nameOfSchema
  | inline values context =>
    simp only [ownKeys, List.mem_cons, Option.mem_toList] at own
    obtain rfl | place := own
    · exact Registry.lookup?_valueKey_of_new new
    · have bound := Registry.lookup?_nameOf_of_new new
      rw [Registry.ownKey, place] at bound
      exact bound

end Question

/-! ### Calls -/

/-- A call on a registry: a question for a name, or the registration of a key. -/
inductive Call
  | name (question : Question)
  | register (key identifier : String)
  deriving DecidableEq, Repr

namespace Call

/-- What the call answers, and the registry behind it. -/
def run (call : Call) (r : Registry) : String × Registry :=
  match call with
  | name q => q.ask r
  | register key identifier => r.register key identifier

/-- Whether the call asks for a name. -/
def IsName (call : Call) : Prop :=
  ∃ q, call = name q

end Call

namespace Registry

variable {call : Call} {calls : List Call}

/-- The registry behind some calls. -/
def through (r : Registry) (calls : List Call) : Registry :=
  calls.foldl (fun r call => (call.run r).2) r

/-- One call leaves what is bound and what is owned. -/
lemma le_run (r : Registry) (call : Call) :
    r ≤ (call.run r).2 ∧ KeepsOwners r (call.run r).2 := by
  cases call with
  | name q => exact ⟨le_ask, keepsOwners_ask⟩
  | register key identifier => exact ⟨le_register, keepsOwners_register⟩

/-- Calls leave what is bound and what is owned. -/
lemma le_through (r : Registry) (calls : List Call) :
    r ≤ r.through calls ∧ KeepsOwners r (r.through calls) := by
  induction calls generalizing r with
  | nil => exact ⟨le_refl r, .refl r⟩
  | cons call rest ih =>
    obtain ⟨bound, owned⟩ := le_run r call
    obtain ⟨bound', owned'⟩ := ih (call.run r).2
    exact ⟨bound.trans bound', owned.trans owned'⟩

/-- Whatever is bound has an owner. -/
def BindsOwned (r : Registry) : Prop :=
  ∀ key x, r.lookup? key = some x → ∃ owner, r.owner? x = some owner

/-- An identifier with an owner is one that has been made. -/
lemma mem_identifiers (h : r.owner? x = some key) : x ∈ r.identifiers :=
  List.mem_map_of_mem (mem_of_lookup h)

lemma bindsOwned_fresh : BindsOwned {} := by
  intro key x h
  simp [lookup?] at h

/-- A question binds nothing but a name that has an owner. -/
lemma BindsOwned.ask (h : r.BindsOwned) : (q.ask r).2.BindsOwned := by
  intro key x bound
  obtain ⟨-, same⟩ | ⟨own, kept, binds⟩ := ask_cases q r
  · rw [same] at bound ⊢
    exact h key x bound
  · obtain old | ⟨-, rfl⟩ := binds key x bound
    · obtain ⟨owner, owned⟩ := h key x old
      exact ⟨owner, kept x owner owned⟩
    · exact ⟨_, own⟩

lemma BindsOwned.through (h : r.BindsOwned) (names : ∀ call ∈ calls, call.IsName) :
    (r.through calls).BindsOwned := by
  induction calls generalizing r with
  | nil => exact h
  | cons call rest ih =>
    obtain ⟨⟨q, rfl⟩, rest⟩ := List.forall_mem_cons.1 names
    exact ih (r := (q.ask r).2) h.ask rest

/-- What holds behind any calls on a fresh registry. Later calls leave what is bound and what is
owned. The search for an identifier ends, and its end is the first candidate that is free or belongs
to the values. A question whose name is known changes nothing. Another one makes the name that its
search ends with, which belongs to its values and which its keys are bound to. If only names have
been asked for, every identifier that is bound has been made. -/
theorem bookkeeping (earlier later : List Call) :
    let r := ({} : Registry).through earlier
    (∀ key x, r.lookup? key = some x → (r.through later).lookup? key = some x) ∧
    (∀ x key, r.owner? x = some key → (r.through later).owner? x = some key) ∧
    (∀ identifier key, Search r identifier key 0 (r.assign identifier key).1 ∧
      ∃ n, (r.assign identifier key).1 = candidate identifier n ∧
        r.IsFreeFor key (candidate identifier n) ∧
        ∀ m < n, ¬ r.IsFreeFor key (candidate identifier m)) ∧
    (∀ (q : Question) (x : String), q.known? r = some x → q.ask r = (x, r)) ∧
    (∀ q : Question, q.known? r = none →
      (q.ask r).1 = (r.assign q.base q.valueKey).1 ∧
      (q.ask r).2.owner? (q.ask r).1 = some q.valueKey ∧
      ∀ key ∈ q.ownKeys, (q.ask r).2.lookup? key = some (q.ask r).1) ∧
    ((∀ call ∈ earlier, call.IsName) → ∀ key x, r.lookup? key = some x → x ∈ r.identifiers) := by
  intro r
  obtain ⟨bound, owned⟩ := le_through r later
  refine ⟨bound, owned, fun identifier key => ?_, fun q x => Question.ask_of_known?, ?_, ?_⟩
  · exact ⟨search_assign r identifier key, exists_first_candidate r identifier key⟩
  · intro q new
    exact ⟨Question.ask_eq_assign new, Question.owner?_of_new new,
      fun key => Question.lookup?_of_new new⟩
  · intro names key x binds
    obtain ⟨owner, own⟩ := bindsOwned_fresh.through names key x binds
    exact mem_identifiers own

/-- A registration binds the key of a place to an identifier that nobody owns, and its question then
finds that. -/
example :
    let r := through {} [.register "a:Order" "Taken", .name (.inline ["a"] none)]
    ((Question.inline ["a"] (some ⟨"status", "Order"⟩)).ask r).1 = "Taken" ∧
      r.identifiers = ["AEnum"] := by
  decide +kernel

end Registry

end ClientGen.Enumeration
