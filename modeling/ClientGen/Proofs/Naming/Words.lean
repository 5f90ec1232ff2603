import ClientGen.Naming
import ClientGen.Proofs.Naming.Numbered

/-!
# The words of a name

Which characters the words of a name have, and what becomes of a number behind it: it belongs to the
last word, so that the names of types that are made of numbered names are numbered names of types.
-/

namespace ClientGen.Naming

open ClientGen.Text

variable {p : Char → Bool} {c : Char} {s ds : List Char}

/-! ### Letters -/

lemma isAlpha_iff : c.isAlpha = true ↔
    65 ≤ c.toNat ∧ c.toNat ≤ 90 ∨ 97 ≤ c.toNat ∧ c.toNat ≤ 122 := by
  change (decide ('A'.val ≤ c.val ∧ c.val ≤ 'Z'.val) ||
    decide ('a'.val ≤ c.val) && decide (c.val ≤ 'z'.val)) = true ↔ _
  simp only [UInt32.le_iff_toNat_le, Bool.or_eq_true, Bool.and_eq_true, decide_eq_true_eq,
    Char.reduceVal, UInt32.reduceToNat, Char.toNat_val]

lemma isAlphanum_iff : c.isAlphanum = true ↔ 65 ≤ c.toNat ∧ c.toNat ≤ 90 ∨
    97 ≤ c.toNat ∧ c.toNat ≤ 122 ∨ 48 ≤ c.toNat ∧ c.toNat ≤ 57 := by
  change (c.isAlpha || c.isDigit) = true ↔ _
  rw [Bool.or_eq_true, isAlpha_iff, Char.isDigit_iff_toNat, or_assoc]
  rfl

/-- A capital goes to the small letter 32 places behind it. -/
lemma toNat_toLower (c : Char) : c.toLower.toNat = c.toNat ∨
    65 ≤ c.toNat ∧ c.toNat ≤ 90 ∧ c.toLower.toNat = c.toNat + 32 := by
  unfold Char.toLower
  split
  · next capital =>
    simp only [ge_iff_le, UInt32.le_iff_toNat_le, Char.reduceVal, UInt32.reduceToNat,
      Char.toNat_val] at capital
    have sum : (c.val + ('a'.val - 'A'.val)).toNat = (c.val.toNat + 32) % 2 ^ 32 :=
      UInt32.toNat_add _ _
    refine .inr ⟨capital.1, capital.2, ?_⟩
    change (c.val + ('a'.val - 'A'.val)).toNat = c.val.toNat + 32
    rw [sum, Char.toNat_val]
    omega
  · exact .inl rfl

/-- A small letter goes to the capital 32 places before it. -/
lemma toNat_toUpper (c : Char) : c.toUpper.toNat = c.toNat ∨
    97 ≤ c.toNat ∧ c.toNat ≤ 122 ∧ c.toUpper.toNat + 32 = c.toNat := by
  unfold Char.toUpper
  split
  · next small =>
    simp only [UInt32.le_iff_toNat_le, Char.reduceVal, UInt32.reduceToNat,
      Char.toNat_val] at small
    have sum : (c.val + ('A'.val - 'a'.val)).toNat = (c.val.toNat + (2 ^ 32 - 32)) % 2 ^ 32 :=
      UInt32.toNat_add _ _
    refine .inr ⟨small.1, small.2, ?_⟩
    change (c.val + ('A'.val - 'a'.val)).toNat + 32 = c.val.toNat
    rw [sum, Char.toNat_val]
    omega
  · exact .inl rfl

lemma isAlphanum_toLower (h : c.isAlphanum = true) : c.toLower.isAlphanum = true := by
  rw [isAlphanum_iff] at h ⊢
  have := toNat_toLower c
  omega

lemma isAlphanum_toUpper (h : c.isAlphanum = true) : c.toUpper.isAlphanum = true := by
  rw [isAlphanum_iff] at h ⊢
  have := toNat_toUpper c
  omega

lemma toUpper_of_isDigit (h : c.isDigit = true) : c.toUpper = c := by
  have digit : c.toNat ≤ 57 := by
    simpa [UInt32.le_iff_toNat_le] using (Bool.and_eq_true_iff.1 h).2
  have := toNat_toUpper c
  exact Char.toNat_inj.1 (by omega)

/-! ### Runs -/

lemma runs_cons_of_not (h : p c = false) : runs p (c :: s) = runs p s := by
  cases s with
  | nil => simp [runs, h]
  | cons d s => simp [runs, h]

lemma runs_cons_of_alone (h : p c = true) (alone : ∀ d ∈ s.head?, p d = false) :
    runs p (c :: s) = [c] :: runs p s := by
  cases s with
  | nil => simp [runs, h]
  | cons d s => simp [runs, h, alone d rfl]

lemma runs_cons_cons (hc : p c = true) {d : Char} (hd : p d = true) {w : List Char}
    {ws : List (List Char)} (h : runs p (d :: s) = w :: ws) :
    runs p (c :: d :: s) = (c :: w) :: ws := by
  rw [runs.eq_def]
  simp only [hc, hd, if_true, h]

/-- A character of the class begins a run. -/
lemma exists_runs_cons : ∀ {s : List Char} {c : Char}, p c = true →
    ∃ w ws, runs p (c :: s) = (c :: w) :: ws
  | [], c, h => ⟨[], [], runs_cons_of_alone h (by simp)⟩
  | d :: s, c, h => by
    by_cases hd : p d = true
    · obtain ⟨w, ws, hw⟩ := exists_runs_cons (s := s) hd
      exact ⟨d :: w, ws, runs_cons_cons h hd hw⟩
    · exact ⟨[], _, runs_cons_of_alone h (by simpa using hd)⟩

lemma runs_of_all : ∀ {ds : List Char}, ds ≠ [] → (∀ c ∈ ds, p c = true) → runs p ds = [ds]
  | [c], _, h => runs_cons_of_alone (h c (by simp)) (by simp)
  | c :: d :: ds, _, h =>
    runs_cons_cons (h c (by simp)) (h d (by simp))
      (runs_of_all (List.cons_ne_nil d ds) fun e he => h e (by simp [he]))

/-- Characters of the class at the end go on with the last run, or they are a run of their own. -/
lemma exists_runs_append (hds : ds ≠ []) (all : ∀ c ∈ ds, p c = true) : ∀ s : List Char,
    ∃ before last, runs p (s ++ ds) = before ++ [last ++ ds] ∧
      (runs p s = before ++ [last] ∨ last = [] ∧ runs p s = before)
  | [] => ⟨[], [], runs_of_all hds all, .inr ⟨rfl, rfl⟩⟩
  | c :: s => by
    obtain ⟨before, last, h, hs⟩ := exists_runs_append hds all s
    by_cases hc : p c = true
    · cases s with
      | nil =>
        obtain ⟨d, ds, rfl⟩ := List.exists_cons_of_ne_nil hds
        exact ⟨[], [c], runs_cons_cons hc (all d (by simp)) (runs_of_all hds all),
          .inl (runs_cons_of_alone hc (by simp))⟩
      | cons d s =>
        by_cases hd : p d = true
        · obtain ⟨w, ws, hw⟩ := exists_runs_cons (s := s) hd
          rw [hw] at hs
          -- The run that `d` begins is the last one, or it is one of those before.
          cases before with
          | nil =>
            rcases hs with hs | hs
            · obtain ⟨rfl, rfl⟩ := List.cons.inj hs
              exact ⟨[], c :: d :: w, runs_cons_cons hc hd h, .inl (runs_cons_cons hc hd hw)⟩
            · simp at hs
          | cons first before =>
            refine ⟨(c :: first) :: before, last, runs_cons_cons hc hd h, ?_⟩
            rw [runs_cons_cons hc hd hw]
            simpa using hs
        · have alone : ∀ e ∈ (d :: s).head?, p e = false := by simpa using hd
          refine ⟨[c] :: before, last, ?_, ?_⟩
          · rw [List.cons_append, runs_cons_of_alone hc (by simpa using hd), h, List.cons_append]
          · rw [runs_cons_of_alone hc alone]
            simpa using hs
    · rw [Bool.not_eq_true] at hc
      refine ⟨before, last, ?_, ?_⟩
      · rw [List.cons_append, runs_cons_of_not hc, h]
      · rw [runs_cons_of_not hc]
        exact hs

/-- A run has a character, and all of its characters are of the class. -/
lemma of_mem_runs : ∀ {s w : List Char}, w ∈ runs p s → w ≠ [] ∧ ∀ c ∈ w, p c = true
  | [], w, hw => by simp [runs] at hw
  | c :: s, w, hw => by
    by_cases hc : p c = true
    · cases s with
      | nil =>
        rw [runs_cons_of_alone hc (by simp)] at hw
        simp only [runs, List.mem_singleton] at hw
        simp [hw, hc]
      | cons d s =>
        by_cases hd : p d = true
        · obtain ⟨v, vs, hv⟩ := exists_runs_cons (s := s) hd
          rw [runs_cons_cons hc hd hv] at hw
          rcases List.mem_cons.1 hw with rfl | hw
          · exact ⟨List.cons_ne_nil _ _,
              List.forall_mem_cons.2 ⟨hc, (of_mem_runs (hv ▸ List.mem_cons_self)).2⟩⟩
          · exact of_mem_runs (hv ▸ List.mem_cons_of_mem _ hw)
        · rw [runs_cons_of_alone hc (by simpa using hd)] at hw
          rcases List.mem_cons.1 hw with rfl | hw
          · simpa using hc
          · exact of_mem_runs hw
    · rw [runs_cons_of_not (by simpa using hc)] at hw
      exact of_mem_runs hw

/-! ### Numbers behind names -/

lemma capitalised_append (hds : ∀ c ∈ ds, c.isDigit = true) :
    capitalised (s ++ ds) = capitalised s ++ ds := by
  cases s with
  | nil =>
    cases ds with
    | nil => rfl
    | cons d ds => 
      change d.toUpper :: ds = d :: ds
      rw [toUpper_of_isDigit (hds d (by simp))]
  | cons c s => rfl

lemma pascalChars_append (hds : ∀ c ∈ ds, c.isDigit = true) :
    pascalChars (s ++ ds) = pascalChars s ++ ds := by
  by_cases empty : ds = []
  · rw [empty, List.append_nil, List.append_nil]
  have alphanumeric : ∀ c ∈ ds, c.isAlphanum = true := fun c hc => by
    simp [Char.isAlphanum, hds c hc]
  obtain ⟨before, last, h, hs⟩ := exists_runs_append empty alphanumeric s
  unfold pascalChars
  rw [h, List.map_append, List.flatten_append, List.map_singleton, List.flatten_singleton,
    capitalised_append hds]
  rcases hs with hs | ⟨rfl, hs⟩
  · rw [hs, List.map_append, List.flatten_append, List.map_singleton, List.flatten_singleton,
      List.append_assoc]
  · rw [hs]
    rfl

lemma pascalCase_append_toString (b : String) (k : Nat) :
    pascalCase (b ++ toString k) = pascalCase b ++ toString k := by
  have digits : ∀ c ∈ (toString k).toList, c.isDigit = true := by
    rw [Nat.toString_eq_ofList_toDigits, String.toList_ofList]
    exact fun c hc => Nat.isDigit_of_mem_toDigits (by decide) (by decide) hc
  rw [pascalCase, String.toList_append, pascalChars_append digits, String.ofList_append,
    String.ofList_toList, pascalCase]

/-- The name of a type that is made of a numbered name bears the number itself. -/
lemma pascalCase_numbered (o : String × Nat) :
    pascalCase (numbered o) = numbered (pascalCase o.1, o.2) := by
  unfold numbered
  by_cases one : o.2 = 1
  · rw [if_pos one, if_pos one]
  · rw [if_neg one, if_neg one, pascalCase_append_toString]

/-! ### Characters of names -/

lemma isAlphanum_of_mem_pascalCase {name : String} (h : c ∈ (pascalCase name).toList) :
    c.isAlphanum = true := by
  rw [pascalCase, String.toList_ofList, pascalChars, List.mem_flatten] at h
  obtain ⟨_, hw, hc⟩ := h
  obtain ⟨w, hr, rfl⟩ := List.mem_map.1 hw
  have word := (of_mem_runs hr).2
  cases w with
  | nil => simp [capitalised] at hc
  | cons d w =>
    rcases List.mem_cons.1 hc with rfl | hc
    · exact isAlphanum_toUpper (word d (by simp))
    · exact word c (by simp [hc])

lemma mem_intersperse {α : Type} {a b : α} : ∀ {l : List α}, b ∈ l.intersperse a → b = a ∨ b ∈ l
  | [], h => by simp at h
  | [x], h => .inr h
  | x :: y :: l, h => by
    rw [List.intersperse_cons_cons] at h
    rcases List.mem_cons.1 h with rfl | h
    · simp
    · rcases List.mem_cons.1 h with rfl | h
      · simp
      · exact (mem_intersperse h).imp_right (List.mem_cons_of_mem x)

/-- The name of a directory has small letters, digits and hyphens only. -/
lemma of_mem_directoryName {name : String} (h : c ∈ (directoryName name).toList) :
    c = '-' ∨ c.isAlphanum = true := by
  unfold directoryName at h
  split at h
  · exact .inr (List.all_eq_true.1 (by decide : "default".toList.all Char.isAlphanum = true) c h)
  · next ws hws =>
    rw [String.toList_ofList, List.mem_map] at h
    obtain ⟨d, hd, rfl⟩ := h
    obtain ⟨w, hw, hd⟩ := List.mem_flatten.1 hd
    rcases mem_intersperse hw with rfl | hw
    · rw [List.mem_singleton.1 hd]
      exact .inl rfl
    · exact .inr (isAlphanum_toLower ((of_mem_runs hw).2 d hd))

lemma directoryName_ne_empty (name : String) : directoryName name ≠ "" := by
  unfold directoryName
  split
  · decide
  · next some =>
    obtain ⟨w, ws, form⟩ := List.exists_cons_of_ne_nil some
    have first : w ≠ [] := (of_mem_runs (form ▸ List.mem_cons_self)).1
    have intersperse : ∃ more, (w :: ws).intersperse ['-'] = w :: more := by
      cases ws with
      | nil => exact ⟨[], rfl⟩
      | cons v ws => exact ⟨_, List.intersperse_cons_cons⟩
    obtain ⟨more, hm⟩ := intersperse
    intro empty
    rw [form, hm, ← String.toList_inj, String.toList_ofList] at empty
    simp [first] at empty

end ClientGen.Naming
