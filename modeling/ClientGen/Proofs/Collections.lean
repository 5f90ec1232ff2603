import ClientGen.Collections.Distinct
import Mathlib.Data.List.Forall2
import Mathlib.Data.List.Nodup
import Mathlib.Tactic.Common

/-!
# Distinct items and tables

What lists of distinct items and tables hold, by their members and their keys, and what comes of doing
something with one item after another.
-/

namespace ClientGen

variable {α β : Type}

/-- What each step of a fold keeps and reaches, the whole fold keeps and reaches. -/
lemma foldl_keeps {σ : Type} {f : σ → α → σ} {holds : σ → Prop} (grows : σ → σ → Prop)
    (reached : α → σ → Prop) (refl : ∀ s, grows s s)
    (trans : ∀ {s t u}, grows s t → grows t u → grows s u)
    (stable : ∀ {a s t}, grows s t → reached a s → reached a t) :
    ∀ (items : List α) (s : σ), holds s →
      (∀ a ∈ items, ∀ s, holds s → holds (f s a) ∧ grows s (f s a) ∧ reached a (f s a)) →
      holds (items.foldl f s) ∧ grows s (items.foldl f s) ∧
        ∀ a ∈ items, reached a (items.foldl f s)
  | [], s, hs, _ => ⟨hs, refl s, by simp⟩
  | a :: rest, s, hs, step => by
    obtain ⟨hs', hg, ha⟩ := step a (by simp) s hs
    obtain ⟨hs'', hg', hr⟩ := foldl_keeps (f := f) grows reached refl @trans @stable rest (f s a) hs'
      fun b hb => step b (by simp [hb])
    exact ⟨hs'', trans hg hg', List.forall_mem_cons.2 ⟨stable hg' ha, hr⟩⟩

variable [BEq α] [LawfulBEq α]

/-- The more items are taken out, the fewer are left. -/
lemma length_filter_left_le {items old new : List α} (h : old ⊆ new) :
    (items.filter fun n => !new.contains n).length ≤
      (items.filter fun n => !old.contains n).length := by
  rw [← List.countP_eq_length_filter, ← List.countP_eq_length_filter]
  apply List.countP_mono_left
  intro n _ hn
  simp only [List.contains_eq_mem, Bool.not_eq_true', decide_eq_false_iff_not] at hn ⊢
  exact fun here => hn (h here)

lemma addNew_ne_nil {items : List α} {a : α} : addNew items a ≠ [] :=
  List.ne_nil_of_mem (mem_addNew.2 (.inr rfl))

/-- An item that a filter takes out leaves no trace when it is added. -/
lemma filter_addNew {items : List α} {a : α} {p : α → Bool} (needless : a ∈ items ∨ p a = false) :
    (addNew items a).filter p = items.filter p := by
  unfold addNew
  split
  · rfl
  · next new =>
    have left : p a = false := needless.resolve_left (by simpa using new)
    simp [left]

lemma mem_foldl_addNew {items : List α} {a : α} : ∀ {acc : List α},
    a ∈ items.foldl addNew acc ↔ a ∈ acc ∨ a ∈ items := by
  induction items with
  | nil => simp
  | cons b items ih =>
    intro acc
    rw [List.foldl_cons, ih, mem_addNew, List.mem_cons, or_assoc]

lemma mem_distinct {items : List α} {a : α} : a ∈ distinct items ↔ a ∈ items := by
  simp [distinct, mem_foldl_addNew]

lemma nodup_foldl_addNew {items : List α} : ∀ {acc : List α}, acc.Nodup →
    (items.foldl addNew acc).Nodup := by
  induction items with
  | nil => exact id
  | cons b items ih => exact fun h => ih (nodup_addNew b h)

lemma nodup_distinct {items : List α} : (distinct items).Nodup :=
  nodup_foldl_addNew List.nodup_nil

lemma mem_sortTexts {items : List String} {s : String} : s ∈ sortTexts items ↔ s ∈ items := by
  simp [sortTexts]

lemma sorted_sortTexts (l : List String) : (sortTexts l).Pairwise (· ≤ ·) := by
  have trans (a b c : String) (hab : decide (a ≤ b) = true) (hbc : decide (b ≤ c) = true) :
      decide (a ≤ c) = true :=
    decide_eq_true (String.le_trans (of_decide_eq_true hab) (of_decide_eq_true hbc))
  have total (a b : String) : (decide (a ≤ b) || decide (b ≤ a)) = true := by
    simpa using String.le_total a b
  exact (List.pairwise_mergeSort trans total l).imp of_decide_eq_true

/-- The order in which some texts are given makes no difference to how they are sorted. -/
lemma sortTexts_perm {items items' : List String} (order : items.Perm items') :
    sortTexts items = sortTexts items' :=
  List.Perm.eq_of_pairwise (fun _ _ _ _ => String.le_antisymm) (sorted_sortTexts items)
    (sorted_sortTexts items')
    ((List.mergeSort_perm _ _).trans (order.trans (List.mergeSort_perm _ _).symm))

/-- Sorted lists of the same distinct texts are equal. -/
lemma eq_of_sorted {l l' : List String} (nodup : l.Nodup) (nodup' : l'.Nodup)
    (sorted : l.Pairwise (· ≤ ·)) (sorted' : l'.Pairwise (· ≤ ·)) (same : ∀ s, s ∈ l ↔ s ∈ l') :
    l = l' :=
  ((List.perm_ext_iff_of_nodup nodup nodup').2 same).eq_of_pairwise
    (fun _ _ _ _ => String.le_antisymm) sorted sorted'

/-- An entry that is set is found, and the others as before. -/
lemma lookup_setEntry {k key : α} {v : β} : ∀ {table : List (α × β)},
    (setEntry key v table).lookup k = if k == key then some v else table.lookup k
  | [] => by
    simp only [setEntry, List.lookup_cons, List.lookup_nil]
    split <;> simp_all
  | (k', v') :: rest => by
    rw [setEntry]
    by_cases hk : k' = key
    · subst hk
      simp only [beq_self_eq_true, if_true, List.lookup_cons]
      by_cases h : k = k'
      · simp [h]
      · have h' : (k == k') = false := by simpa using h
        simp [h']
    · have hne : (k' == key) = false := by simpa using hk
      simp only [hne, Bool.false_eq_true, if_false, List.lookup_cons, lookup_setEntry]
      by_cases h : k = k'
      · subst h
        simp [hne]
      · have h' : (k == k') = false := by simpa using h
        simp [h']

omit [LawfulBEq α] in
lemma mem_setEntry {key : α} {v : β} {e : α × β} {table : List (α × β)}
    (h : e ∈ setEntry key v table) : e = (key, v) ∨ e ∈ table := by
  induction table with
  | nil => simpa [setEntry] using h
  | cons f rest ih =>
    rw [setEntry] at h
    split at h
    · exact (List.mem_cons.1 h).imp_right (List.mem_cons_of_mem f)
    · obtain rfl | h := List.mem_cons.1 h
      · exact .inr List.mem_cons_self
      · exact (ih h).imp_right (List.mem_cons_of_mem f)

lemma map_fst_setEntry {key : α} {v : β} : ∀ {table : List (α × β)},
    (setEntry key v table).map Prod.fst = addNew (table.map Prod.fst) key
  | [] => by simp [setEntry, addNew]
  | (k', v') :: rest => by
    rw [setEntry]
    by_cases hk : k' = key
    · subst hk
      simp [addNew]
    · have hne : (k' == key) = false := by simpa using hk
      have hne' : (key == k') = false := by simpa using fun h => hk h.symm
      simp only [hne, Bool.false_eq_true, if_false, List.map_cons, map_fst_setEntry, addNew,
        List.contains_cons, hne', Bool.false_or]
      split <;> simp

/-- A new key comes behind the others. -/
lemma setEntry_of_notMem {key : α} {v : β} : ∀ {table : List (α × β)}, key ∉ table.map Prod.fst →
    setEntry key v table = table ++ [(key, v)]
  | [], _ => rfl
  | (k, w) :: rest, h => by
    rw [List.map_cons, List.mem_cons, not_or] at h
    have other : ¬(k == key) = true := by simpa using Ne.symm h.1
    rw [setEntry, if_neg other, setEntry_of_notMem h.2, List.cons_append]

/-- Entries with distinct keys are a table as they are. -/
lemma tableOf_of_nodup {fields : List (α × β)} (nodup : (fields.map Prod.fst).Nodup) :
    tableOf fields = fields := by
  have behind : ∀ fields before : List (α × β), ((before ++ fields).map Prod.fst).Nodup →
      fields.foldl (fun acc e => setEntry e.1 e.2 acc) before = before ++ fields := by
    intro fields
    induction fields with
    | nil => simp
    | cons f fields ih =>
      intro before nodup
      have new : f.1 ∉ before.map Prod.fst := by
        rw [List.map_append, List.nodup_append] at nodup
        exact fun h => nodup.2.2 f.1 h f.1 (by simp) rfl
      rw [List.foldl_cons, setEntry_of_notMem new, ih _ (by simpa using nodup), List.append_assoc,
        List.singleton_append]
  exact behind fields [] nodup

/-- The keys of a table are distinct, and its entries are among those that were written. -/
lemma tableOf_spec (fields : List (α × β)) :
    ((tableOf fields).map Prod.fst).Nodup ∧ ∀ f ∈ tableOf fields, f ∈ fields := by
  have written : ∀ fields table : List (α × β), (table.map Prod.fst).Nodup →
      (((fields.foldl (fun acc e => setEntry e.1 e.2 acc) table).map Prod.fst).Nodup ∧
        ∀ f ∈ fields.foldl (fun acc e => setEntry e.1 e.2 acc) table, f ∈ table ∨ f ∈ fields) := by
    intro fields
    induction fields with
    | nil => exact fun table nodup => ⟨nodup, fun f hf => .inl hf⟩
    | cons e fields ih =>
      intro table nodup
      obtain ⟨apart, among⟩ := ih (setEntry e.1 e.2 table) (by
        rw [map_fst_setEntry]
        exact nodup_addNew e.1 nodup)
      refine ⟨apart, fun f hf => ?_⟩
      obtain old | new := among f hf
      · obtain rfl | old := mem_setEntry old
        · exact .inr List.mem_cons_self
        · exact .inl old
      · exact .inr (List.mem_cons_of_mem e new)
  obtain ⟨apart, among⟩ := written fields [] List.nodup_nil
  exact ⟨apart, fun f hf => (among f hf).resolve_left List.not_mem_nil⟩

/-- With distinct keys an entry is found under its key. -/
lemma lookup_eq_of_mem {table : List (α × β)} {e : α × β}
    (nodup : (table.map Prod.fst).Nodup) (he : e ∈ table) : table.lookup e.1 = some e.2 := by
  induction table with
  | nil => simp at he
  | cons a rest ih =>
    rw [List.map_cons, List.nodup_cons] at nodup
    rcases List.mem_cons.1 he with rfl | he
    · exact List.lookup_cons_self
    · have hne : (e.1 == a.1) = false := by
        rw [beq_eq_false_iff_ne]
        exact fun h => nodup.1 (h ▸ List.mem_map_of_mem he)
      rw [List.lookup_cons, hne]
      exact ih nodup.2 he

/-- An entry that is found is one of the table. -/
lemma mem_of_lookup {table : List (α × β)} {k : α} {v : β}
    (h : table.lookup k = some v) : (k, v) ∈ table := by
  obtain ⟨before, after, rfl, -⟩ := List.lookup_eq_some_iff.1 h
  simp

/-! ### Lists side by side -/

section SideBySide

variable {α β : Type} {R : α → β → Prop} {as : List α} {bs : List β} {a : α} {b : β}

/-- What stands in the second of two lists has a counterpart in the first. -/
lemma exists_of_forall₂_right (h : List.Forall₂ R as bs) (hb : b ∈ bs) :
    ∃ a ∈ as, R a b := by
  induction h with
  | nil => simp at hb
  | @cons a' b' as bs hr _ ih =>
    rcases List.mem_cons.1 hb with rfl | hb
    · exact ⟨a', by simp, hr⟩
    · obtain ⟨a, ha, hr⟩ := ih hb
      exact ⟨a, List.mem_cons_of_mem a' ha, hr⟩

lemma exists_of_forall₂_left (h : List.Forall₂ R as bs) (ha : a ∈ as) :
    ∃ b ∈ bs, R a b :=
  exists_of_forall₂_right h.flip ha

end SideBySide

/-! ### Results -/

section Results

variable {α β ε : Type}

instance decidableExistsOk : ∀ r : Except ε α, Decidable (∃ a, r = .ok a)
  | .ok a => isTrue ⟨a, rfl⟩
  | .error _ => isFalse nofun

/-- What comes of two steps that may fail comes of the second one. -/
lemma bind_eq_ok {r : Except ε α} {g : α → Except ε β} {b : β} (h : r >>= g = .ok b) :
    ∃ a, r = .ok a ∧ g a = .ok b := by
  cases r with
  | error e => cases h
  | ok a => exact ⟨a, rfl, h⟩

variable {f : α → Except ε β}

/-- Of each item something comes that does not fail. -/
lemma exists_mapM_ok : ∀ items : List α, (∀ a ∈ items, ∃ b, f a = .ok b) →
    ∃ bs, items.mapM f = .ok bs
  | [], _ => ⟨[], by rw [List.mapM_nil]; rfl⟩
  | a :: rest, h => by
    obtain ⟨b, hb⟩ := h a (by simp)
    obtain ⟨bs, hbs⟩ := exists_mapM_ok rest fun a ha => h a (by simp [ha])
    exact ⟨b :: bs, by rw [List.mapM_cons, hb, hbs]; rfl⟩

lemma exists_of_mapM_ok {a : α} : ∀ {items : List α} {bs : List β},
    items.mapM f = .ok bs → a ∈ items → ∃ b ∈ bs, f a = .ok b
  | i :: rest, bs, h, ha => by
    rw [List.mapM_cons] at h
    obtain ⟨b, hb, h⟩ := bind_eq_ok h
    obtain ⟨bs', hbs, h⟩ := bind_eq_ok h
    obtain rfl := Except.ok.inj h
    rcases List.mem_cons.1 ha with rfl | ha
    · exact ⟨b, by simp, hb⟩
    · obtain ⟨b', hb', hf⟩ := exists_of_mapM_ok hbs ha
      exact ⟨b', List.mem_cons_of_mem b hb', hf⟩

end Results

/-! ### What is found first -/

section Found

variable {α β γ : Type}

lemma findSome?_cons_eq_or {g : α → Option β} {a : α} {rest : List α} :
    (a :: rest).findSome? g = (g a).or (rest.findSome? g) := by
  rw [List.findSome?_cons]
  cases g a <;> rfl

lemma findSome?_congr {g h : α → Option β} {items : List α} (same : ∀ a ∈ items, g a = h a) :
    items.findSome? g = items.findSome? h := by
  induction items with
  | nil => rfl
  | cons a rest ih =>
    rw [findSome?_cons_eq_or, findSome?_cons_eq_or, same a (by simp), ih fun b hb => same b (by simp [hb])]

lemma findSome?_toList {g : α → Option β} (a : Option α) : a.toList.findSome? g = a.bind g := by
  cases a with
  | none => rfl
  | some a => exact findSome?_cons_eq_or.trans Option.or_none

lemma findSome?_flatMap {g : β → Option γ} {f : α → List β} (items : List α) :
    (items.flatMap f).findSome? g = items.findSome? fun a => (f a).findSome? g := by
  induction items with
  | nil => rfl
  | cons a rest ih => rw [List.flatMap_cons, List.findSome?_append, findSome?_cons_eq_or, ih]

lemma findSome?_filterMap {g : β → Option γ} {f : α → Option β} (items : List α) :
    (items.filterMap f).findSome? g = items.findSome? fun a => (f a).bind g := by
  induction items with
  | nil => rfl
  | cons a rest ih =>
    rw [findSome?_cons_eq_or, List.filterMap_cons, ← ih]
    cases f a with
    | none => rfl
    | some b => exact findSome?_cons_eq_or

end Found

/-! ### Faults -/

section Faults

variable {α β ε : Type}

/-- The error of a result, if it is one. -/
def fault? : Except ε α → Option ε
  | .ok _ => none
  | .error e => some e

lemma fault?_eq_none_iff {x : Except ε α} : fault? x = none ↔ ∃ a, x = .ok a := by
  cases x with
  | ok a => exact ⟨fun _ => ⟨a, rfl⟩, fun _ => rfl⟩
  | error e => exact ⟨nofun, fun ⟨a, same⟩ => nomatch same⟩

variable {x : Except ε α}

/-- Where the second of two steps fails alike whatever the first one gives, the first error counts. -/
lemma fault?_bind {f : α → Except ε β} {later : Option ε}
    (h : ∀ a, x = .ok a → fault? (f a) = later) : fault? (x >>= f) = (fault? x).or later := by
  cases x with
  | ok a => exact h a rfl
  | error e => rfl

lemma fault?_pure (a : α) : fault? (pure a : Except ε α) = none := rfl

lemma fault?_map (g : α → β) : fault? (g <$> x) = fault? x := by
  cases x <;> rfl

lemma fault?_mapM {g : α → Except ε β} :
    ∀ items : List α, fault? (items.mapM g) = items.findSome? fun a => fault? (g a)
  | [] => rfl
  | a :: rest => by
    rw [List.mapM_cons, findSome?_cons_eq_or]
    refine fault?_bind fun b _ => ?_
    rw [← fault?_mapM rest]
    exact (fault?_bind fun bs _ => fault?_pure (b :: bs)).trans Option.or_none

lemma mapM_attach {f : α → Except ε β} (items : List α) :
    items.attach.mapM (fun a => f a.1) = items.mapM f := by
  rw [List.mapM_subtype fun _ _ => rfl, List.unattach_attach]

end Faults

end ClientGen
