import ClientGen.Proofs.Collections
import Mathlib.Data.List.Count
import Mathlib.Logic.Function.Basic

/-!
# Numbered names

A base name that is asked for again gets the number of its occurrence behind it. The numbers tell the
occurrences of one base name apart, but a base name may be another one with a number behind it. Which
base names are in each other's way is found by cutting a number in two.
-/

namespace ClientGen.Naming

/-! ### Cutting a number in two -/

/-- The digits in front of the last ones are a smaller number. -/
lemma exists_of_toDigits_eq_append : ∀ {n : Nat} {front back : List Char},
    Nat.toDigits 10 n = front ++ back → front ≠ [] → back ≠ [] →
      ∃ m, 0 < m ∧ m < n ∧ front = Nat.toDigits 10 m := by
  intro n
  induction n using Nat.strongRecOn with
  | ind n ih =>
    intro front back h hf hb
    by_cases small : n < 10
    · -- A single digit is not cut.
      rw [Nat.toDigits_of_lt_base small] at h
      have length := congrArg List.length h
      have := List.length_pos_iff.2 hf
      have := List.length_pos_iff.2 hb
      simp only [List.length_singleton, List.length_append] at length
      omega
    · rw [Nat.toDigits_of_base_le (by decide) (by omega),
        ← List.dropLast_append_getLast hb, ← List.append_assoc] at h
      have rest : Nat.toDigits 10 (n / 10) = front ++ back.dropLast :=
        (List.append_inj' h rfl).1
      by_cases last : back.dropLast = []
      · rw [last, List.append_nil] at rest
        exact ⟨n / 10, by omega, by omega, rest.symm⟩
      · obtain ⟨m, pos, lt, hm⟩ := ih (n / 10) (by omega) rest hf last
        exact ⟨m, pos, by omega, hm⟩

lemma toString_injective : Function.Injective (toString : Nat → String) := by
  intro m n h
  have digits := congrArg (fun s : String => Nat.ofDigitChars 10 s.toList 0) h
  simpa [Nat.toString_eq_ofList_toDigits] using digits

lemma toString_ne_empty (n : Nat) : toString n ≠ "" :=
  Nat.repr_ne_empty

/-- Two texts with numbers behind them are equal only if one of them goes on with the first digits of
the other's number. -/
lemma exists_of_append_toString_eq {b b' : String} {k k' : Nat}
    (h : b ++ toString k = b' ++ toString k') :
    (b = b' ∧ k = k') ∨ (∃ m, 0 < m ∧ m < k ∧ b' = b ++ toString m ∧
      toString k = toString m ++ toString k') ∨
      ∃ m, 0 < m ∧ m < k' ∧ b = b' ++ toString m ∧ toString k' = toString m ++ toString k := by
  -- The one behind which less is put goes on into the number behind the other.
  have cut {b b' : String} {k k' : Nat} {d : List Char} (hb : b'.toList = b.toList ++ d)
      (hk : (toString k).toList = d ++ (toString k').toList) :
      (b = b' ∧ k = k') ∨ ∃ m, 0 < m ∧ m < k ∧ b' = b ++ toString m ∧
        toString k = toString m ++ toString k' := by
    by_cases hd : d = []
    · subst hd
      rw [List.append_nil] at hb
      exact .inl ⟨(String.toList_inj.1 hb).symm, toString_injective (String.toList_inj.1 hk)⟩
    · have digits := hk
      rw [Nat.toString_eq_ofList_toDigits, String.toList_ofList] at digits
      obtain ⟨m, pos, lt, hm⟩ := exists_of_toDigits_eq_append digits hd
        (mt String.toList_eq_nil_iff.1 (toString_ne_empty k'))
      have hm' : d = (toString m).toList := by
        rw [hm, Nat.toString_eq_ofList_toDigits, String.toList_ofList]
      refine .inr ⟨m, pos, lt, ?_, ?_⟩
      · rw [← String.toList_inj, hb, String.toList_append, hm']
      · rw [← String.toList_inj, hk, String.toList_append, hm']
  have lists := congrArg String.toList h
  rw [String.toList_append, String.toList_append, List.append_eq_append_iff] at lists
  rcases lists with ⟨d, hb, hk⟩ | ⟨d, hb, hk⟩
  · exact (cut hb hk).imp_right .inl
  · rcases cut hb hk with ⟨hb, hk⟩ | hm
    · exact .inl ⟨hb.symm, hk.symm⟩
    · exact .inr (.inr hm)

/-! ### Occurrences -/

/-- The name of an occurrence of a base name: the first bears no number. -/
def numbered (o : String × Nat) : String :=
  if o.2 = 1 then o.1 else o.1 ++ toString o.2

lemma numbered_one (b : String) : numbered (b, 1) = b :=
  if_pos rfl

lemma numbered_of_two_le {b : String} {k : Nat} (h : 2 ≤ k) : numbered (b, k) = b ++ toString k :=
  if_neg (show k ≠ 1 by omega)

/-- The items of a list with the number of each occurrence, when `before` of each have been before. -/
def occurrences (before : String → Nat) : List String → List (String × Nat)
  | [] => []
  | b :: rest =>
    (b, before b + 1) :: occurrences (Function.update before b (before b + 1)) rest

variable {before : String → Nat} {bases : List String} {b : String} {k : Nat}

lemma mem_occurrences : ∀ {bases : List String} {before : String → Nat},
    (b, k) ∈ occurrences before bases ↔ before b < k ∧ k ≤ before b + bases.count b := by
  intro bases
  induction bases with
  | nil =>
    intro before
    simp only [occurrences, List.not_mem_nil, List.count_nil, false_iff]
    omega
  | cons a rest ih =>
    intro before
    rw [occurrences, List.mem_cons, ih]
    by_cases h : b = a
    · subst h
      rw [Function.update_self, List.count_cons_self, Prod.mk.injEq, eq_self, true_and]
      omega
    · rw [Function.update_of_ne h, List.count_cons_of_ne (Ne.symm h), Prod.mk.injEq]
      simp [h]

/-- The occurrences are those of the base names one by one. -/
lemma map_fst_occurrences : ∀ {bases : List String} {before : String → Nat},
    (occurrences before bases).map Prod.fst = bases
  | [], _ => rfl
  | b :: _, _ => congrArg (b :: ·) map_fst_occurrences

lemma nodup_occurrences : ∀ {bases : List String} {before : String → Nat},
    (occurrences before bases).Nodup := by
  intro bases
  induction bases with
  | nil => exact fun {_} => List.nodup_nil
  | cons a rest ih =>
    intro before
    refine List.nodup_cons.2 ⟨fun h => ?_, ih⟩
    rw [mem_occurrences, Function.update_self] at h
    omega

/-- The occurrences of a list, none of which has been before. -/
lemma mem_occurrences_zero :
    (b, k) ∈ occurrences (fun _ => 0) bases ↔ 1 ≤ k ∧ k ≤ bases.count b := by
  rw [mem_occurrences]
  omega

/-- Other names for the items leave their numbers, if they tell the items apart. -/
lemma occurrences_map {f : String → String} : ∀ {bases : List String} {before before' : String → Nat},
    (∀ a ∈ bases, ∀ b ∈ bases, f a = f b → a = b) → (∀ a ∈ bases, before' (f a) = before a) →
      occurrences before' (bases.map f) =
        (occurrences before bases).map fun o => (f o.1, o.2) := by
  intro bases
  induction bases with
  | nil => exact fun _ _ => rfl
  | cons a rest ih =>
    intro before before' inj same
    rw [List.map_cons, occurrences, occurrences, List.map_cons, same a (by simp)]
    congr 1
    refine ih (fun x hx y hy => inj x (by simp [hx]) y (by simp [hy])) fun x hx => ?_
    by_cases h : x = a
    · subst h
      rw [Function.update_self, Function.update_self]
    · rw [Function.update_of_ne h, Function.update_of_ne, same x (by simp [hx])]
      exact fun hf => h (inj x (by simp [hx]) a (by simp) hf)

/-! ### Base names that are in each other's way -/

/-- No two occurrences get one name. A base name must not be another one with a number behind it that
an occurrence of the latter bears. And when a base name is another one with a 1 behind it, which no
occurrence bears, the number of an occurrence of the latter must not be a 1 before the number of an
occurrence of the former. -/
structure Apart (bases : List String) : Prop where
  free : ∀ b k, 2 ≤ k → k ≤ bases.count b → b ++ toString k ∉ bases
  one : ∀ b n k, n ≤ bases.count b → 2 ≤ k → k ≤ bases.count (b ++ "1") →
    toString n ≠ "1" ++ toString k

/-- A number that goes on behind its first digit has two of them. -/
lemma two_le_of_toString_eq_append {n k : Nat} (h : toString n = "1" ++ toString k) : 2 ≤ n := by
  by_contra small
  have short : n = 0 ∨ n = 1 := by omega
  have length := congrArg String.length h
  have pos := Nat.pos_of_ne_zero (mt String.length_eq_zero_iff.1 (toString_ne_empty k))
  rw [String.length_append] at length
  rcases short with rfl | rfl
  all_goals
    change 1 = 1 + _ at length
    omega

/-- Base names whose occurrences get names of their own are apart. -/
lemma apart_of_injOn
    (inj : ∀ o ∈ occurrences (fun _ => 0) bases, ∀ o' ∈ occurrences (fun _ => 0) bases,
      numbered o = numbered o' → o = o') : Apart bases where
  free b k two le mem := by
    have first : (b ++ toString k, 1) ∈ occurrences (fun _ => 0) bases :=
      mem_occurrences_zero.2 ⟨Nat.le_refl 1, List.one_le_count_iff.2 mem⟩
    have same := inj _ (mem_occurrences_zero.2 ⟨by omega, le⟩) _ first
      (by rw [numbered_of_two_le two, numbered_one])
    have : k = 1 := congrArg Prod.snd same
    omega
  one b n k hn two hk h := by
    have ten := two_le_of_toString_eq_append h
    have same := inj _ (mem_occurrences_zero.2 ⟨by omega, hn⟩) _
      (mem_occurrences_zero.2 ⟨by omega, hk⟩)
      (by rw [numbered_of_two_le ten, numbered_of_two_le two, h, ← String.append_assoc])
    have longer : b = b ++ "1" := congrArg Prod.fst same
    simpa using congrArg String.length longer

/-- Of base names that are apart, none is a shorter one with the first digits of a number behind it
whose other digits are the number of the longer one. -/
lemma Apart.not_cut (apart : Apart bases) {b : String} {k k' m : Nat} (hk : k ≤ bases.count b)
    (two : 2 ≤ k') (hk' : k' ≤ bases.count (b ++ toString m)) (pos : 0 < m) (lt : m < k) :
    toString k ≠ toString m ++ toString k' := by
  intro cut
  by_cases one : m = 1
  · subst one
    exact apart.one b k k' hk two hk' cut
  · exact apart.free b m (by omega) (by omega) (List.one_le_count_iff.1 (by omega))

/-- Occurrences of base names that are apart get names of their own. -/
lemma Apart.injOn (apart : Apart bases) :
    ∀ o ∈ occurrences (fun _ => 0) bases, ∀ o' ∈ occurrences (fun _ => 0) bases,
      numbered o = numbered o' → o = o' := by
  rintro ⟨b, k⟩ h ⟨b', k'⟩ h' same
  rw [mem_occurrences_zero] at h h'
  by_cases one : k = 1
  · subst one
    by_cases one' : k' = 1
    · subst one'
      rw [numbered_one, numbered_one] at same
      rw [same]
    · rw [numbered_one, numbered_of_two_le (by omega)] at same
      exact absurd (List.one_le_count_iff.1 h.2) (same ▸ apart.free b' k' (by omega) h'.2)
  · by_cases one' : k' = 1
    · subst one'
      rw [numbered_one, numbered_of_two_le (by omega)] at same
      exact absurd (List.one_le_count_iff.1 h'.2) (same ▸ apart.free b k (by omega) h.2)
    · rw [numbered_of_two_le (by omega), numbered_of_two_le (by omega)] at same
      rcases exists_of_append_toString_eq same with ⟨rfl, rfl⟩ | ⟨m, pos, lt, rfl, cut⟩ |
        ⟨m, pos, lt, rfl, cut⟩
      · rfl
      · exact absurd cut (apart.not_cut h.2 (by omega) h'.2 pos lt)
      · exact absurd cut (apart.not_cut h'.2 (by omega) h.2 pos lt)

/-- The numbered names of a list are distinct exactly if its base names are apart. -/
lemma nodup_numbered :
    ((occurrences (fun _ => 0) bases).map numbered).Nodup ↔ Apart bases := by
  rw [List.nodup_map_iff_inj_on nodup_occurrences]
  exact ⟨apart_of_injOn, Apart.injOn⟩

end ClientGen.Naming
