import ClientGen.Machine.Disk
import ClientGen.Proofs.Collections
import ClientGen.Proofs.Path.Segments

/-!
# Disks that are trees

On a real disk all that stands anywhere stands in a directory. On such a disk the walk along a path
ends where the text of the path leads to, and what stands at a place is found by the way there.
-/

namespace ClientGen.Disk

open Path

variable {d d' d'' : Disk} {p q : Place} {e : Entry} {s : String} {ss : List String}

/-- Whatever stands below the root stands in a directory. -/
def IsTree (d : Disk) : Prop :=
  ∀ p s, d.at? (p ++ [s]) ≠ none → d.at? p = some .directory

/-- The bytes of the file at a place, if a file stands there. -/
def bytesAt? (d : Disk) (p : Place) : Option ByteArray :=
  match d.at? p with
  | some (.file bytes _) => some bytes
  | _ => none

lemma at?_root (d : Disk) : d.at? [] = some .directory := rfl

lemma at?_put (hp : p ≠ []) : (d.put p e).at? q = if q = p then some e else d.at? q := by
  cases q with
  | nil => rw [if_neg (Ne.symm hp)]; rfl
  | cons s q =>
    have lookup (d : Disk) : d.at? (s :: q) = d.entries.lookup (s :: q) := rfl
    rw [lookup, lookup, put, lookup_setEntry]
    simp only [beq_iff_eq]

lemma bytesAt?_put_file {bytes : ByteArray} {modified : Int} (hp : p ≠ []) :
    (d.put p (.file bytes modified)).bytesAt? q = if q = p then some bytes else d.bytesAt? q := by
  unfold bytesAt?
  rw [at?_put hp]
  by_cases same : q = p
  · rw [if_pos same, if_pos same]
  · rw [if_neg same, if_neg same]

/-! ### Trees -/

lemma isTree_empty : IsTree {} := by
  intro p s found
  simp [at?] at found

/-- A disk is a tree if everything in its table is in a directory. -/
lemma isTree_of_entries (h : ∀ e ∈ d.entries, d.at? e.1.dropLast = some .directory) : d.IsTree := by
  intro p s found
  obtain ⟨e, at_⟩ := Option.ne_none_iff_exists'.1 found
  rw [at?, if_neg (by simp)] at at_
  have parent := h _ (mem_of_lookup at_)
  rwa [List.dropLast_concat] at parent

/-- What stands further down stands below a directory. -/
lemma IsTree.directory (tree : d.IsTree) {t : Place} (some : t ≠ [])
    (found : d.at? (p ++ t) ≠ none) : d.at? p = .some .directory := by
  induction t using List.reverseRecOn with
  | nil => exact absurd rfl some
  | append_singleton t s ih =>
    rw [← List.append_assoc] at found
    have above := tree _ _ found
    cases t with
    | nil => simpa using above
    | cons a t => exact ih (by simp) (by simp [above])

/-- A new entry in a directory, which takes the place of no directory, leaves a tree. -/
lemma IsTree.put (tree : d.IsTree) (above : ∀ r s, p = r ++ [s] → d.at? r = some .directory)
    (new : d.at? p ≠ some .directory) : (d.put p e).IsTree := by
  have hp : p ≠ [] := fun h => new (h ▸ at?_root d)
  intro q s found
  rw [at?_put hp] at found ⊢
  have before : d.at? q = some .directory := by
    split at found
    · next same => exact above q s same.symm
    · exact tree q s found
  rw [if_neg, before]
  rintro rfl
  exact new before

/-- Nothing but directories came to the disk, and nothing left it. -/
def IsWithin (d d' : Disk) : Prop :=
  ∀ q, d'.at? q = d.at? q ∨ d.at? q = none ∧ d'.at? q = some .directory

lemma IsWithin.refl (d : Disk) : d.IsWithin d :=
  fun _ => .inl rfl

lemma IsWithin.trans (h : d.IsWithin d') (h' : d'.IsWithin d'') : d.IsWithin d'' := by
  intro q
  obtain same' | ⟨none', new'⟩ := h' q
  · rw [same']
    exact h q
  · obtain same | ⟨-, new⟩ := h q
    · exact .inr ⟨same ▸ none', new'⟩
    · rw [none'] at new
      cases new

lemma IsWithin.bytesAt? (h : d.IsWithin d') (q : Place) : d'.bytesAt? q = d.bytesAt? q := by
  unfold Disk.bytesAt?
  obtain same | ⟨none, new⟩ := h q
  · rw [same]
  · rw [none, new]

lemma isWithin_put_directory (new : d.at? p = none) : d.IsWithin (d.put p .directory) := by
  have hp : p ≠ [] := by
    rintro rfl
    cases new
  intro q
  rw [at?_put hp]
  split
  · next same => exact .inr ⟨same ▸ new, rfl⟩
  · exact .inl rfl

/-! ### Walks -/

/-- A walk along segments that ends, ends where they lead to. -/
lemma walk_eq_lead (h : d.walk p ss = .ok q) : q = lead p ss := by
  induction ss generalizing p with
  | nil => exact (Except.ok.inj h).symm
  | cons s ss ih =>
    rw [walk] at h
    split at h
    · split at h
      · cases h
      · exact ih h
    · cases h
    · cases h

/-- The last step of a walk is from a directory. -/
lemma exists_of_walk_concat (h : d.walk p (ss ++ [s]) = .ok q) :
    ∃ r, d.walk p ss = .ok r ∧ d.at? r = some .directory ∧
      q = if s == ".." then r.dropLast else r ++ [s] := by
  induction ss generalizing p with
  | nil =>
    rw [List.nil_append, walk] at h
    split at h
    · next at_ =>
      split at h
      · cases h
      · exact ⟨p, rfl, at_, (Except.ok.inj h).symm⟩
    · cases h
    · cases h
  | cons t ss ih =>
    rw [List.cons_append, walk] at h
    split at h
    · next at_ =>
      split at h
      · cases h
      · next short =>
        obtain ⟨r, walked, rest⟩ := ih h
        refine ⟨r, ?_, rest⟩
        rw [walk, at_]
        simpa only [if_neg short] using walked
    · cases h
    · cases h

/-- On a tree, one gets only to places in directories. -/
lemma IsTree.above_of_walk (tree : d.IsTree) (h : d.walk [] ss = .ok q) :
    ∀ r s, q = r ++ [s] → d.at? r = some .directory := by
  induction ss using List.reverseRecOn generalizing q with
  | nil =>
    rintro r s rfl
    simp [walk] at h
  | append_singleton ss t _ =>
    obtain ⟨r, -, at_, rfl⟩ := exists_of_walk_concat h
    intro r' s form
    split at form
    · cases r using List.reverseRecOn with
      | nil => simp at form
      | append_singleton r a =>
        rw [List.dropLast_concat] at form
        subst form
        have last := tree (r' ++ [s]) a (by rw [at_]; exact nofun)
        exact tree r' s (by rw [last]; exact nofun)
    · obtain ⟨rfl, -⟩ := List.append_inj' form rfl
      exact at_

/-- On a tree, a walk that ends with two dots ends at a directory. -/
lemma IsTree.directory_of_walk_dots (tree : d.IsTree) (h : d.walk [] (ss ++ [".."]) = .ok q) :
    d.at? q = some .directory := by
  obtain ⟨r, -, at_, rfl⟩ := exists_of_walk_concat h
  rw [if_pos (by rfl)]
  cases r using List.reverseRecOn with
  | nil => rfl
  | append_singleton r a =>
    rw [List.dropLast_concat]
    exact tree r a (by simp [at_])

/-- On a tree, what stands at a place is found by the names on the way to it, if none is too long. -/
lemma IsTree.walk_of_at? (tree : d.IsTree) (dots : ".." ∉ ss) (found : d.at? (p ++ ss) ≠ none) :
    d.walk p ss = .ok (p ++ ss) ∨ d.walk p ss = .error .nameTooLong := by
  induction ss generalizing p with
  | nil => exact .inl (by simp [walk])
  | cons s ss ih =>
    rw [List.mem_cons, not_or] at dots
    rw [walk, tree.directory (List.cons_ne_nil s ss) found]
    dsimp only
    split
    · exact .inr rfl
    · have rest := ih (p := p ++ [s]) dots.2 (by simpa using found)
      rw [if_neg (by simpa using Ne.symm dots.1)]
      simpa using rest

end ClientGen.Disk
