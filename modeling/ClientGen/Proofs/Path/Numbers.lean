import ClientGen.Machine.Basic
import ClientGen.Proofs.Path.Segments

/-!
# The numbers in paths

What the numbers of a path satisfy, those of its segments satisfy, and so do those of every path that
is made of them. So a path that a machine takes has no way to it that the machine does not take.
-/

namespace ClientGen.Path

open Text

variable {P : Nat → Prop} {a b p s : String} {ss : List String}

/-- No half is kept as a slash. -/
lemma ofNat_ne_slash {n : Nat} (hn : isMarked n = true) : Char.ofNat (n + halfShift) ≠ '/' := by
  intro same
  have value := toNat_ofNat_of_isValid (isValidChar_shifted hn)
  rw [same] at value
  have : '/'.toNat = 47 := rfl
  unfold halfShift at value
  omega

lemma isMadeOf_of_mem_pieces {s : List Char} (h : IsMadeOf P s) :
    ∀ w ∈ pieces '/' s, IsMadeOf P w := by
  obtain ⟨kept, all⟩ := h
  induction kept with
  | nil => exact fun w hw => List.mem_singleton.1 hw ▸ isMadeOf_nil
  | @char c s hc _ ih =>
    rw [numbers_char hc] at all
    obtain ⟨first, all⟩ := List.forall_mem_cons.1 all
    have ih := ih all
    rw [pieces]
    split
    · exact List.forall_mem_cons.2 ⟨isMadeOf_nil, ih⟩
    · obtain ⟨w, ws, form⟩ := exists_pieces_cons '/' s
      rw [form] at ih ⊢
      obtain ⟨hw, hws⟩ := List.forall_mem_cons.1 ih
      exact List.forall_mem_cons.2 ⟨(isMadeOf_cons hc).2 ⟨first, hw⟩, hws⟩
  | @half n s hn _ ih =>
    rw [numbers_half hn] at all
    obtain ⟨first, all⟩ := List.forall_mem_cons.1 all
    have ih := ih all
    obtain ⟨w, ws, form⟩ := exists_pieces_cons '/' s
    have noSlash : (Char.ofNat (n + halfShift) == '/') = false := by simpa using ofNat_ne_slash hn
    rw [pieces, if_neg (by decide), pieces, if_neg (by simp [noSlash]), form]
    rw [form] at ih
    obtain ⟨hw, hws⟩ := List.forall_mem_cons.1 ih
    exact List.forall_mem_cons.2 ⟨(isMadeOf_half hn).2 ⟨first, hw⟩, hws⟩

lemma isMadeOf_of_mem_segments (h : IsMadeOf P p.toList) (hs : s ∈ segments p) :
    IsMadeOf P s.toList := by
  rw [segments, List.mem_filter] at hs
  obtain ⟨w, hw, rfl⟩ := List.mem_map.1 hs.1
  rw [String.toList_ofList]
  exact isMadeOf_of_mem_pieces h w hw

section Made

variable (slash : P '/'.toNat) (dot : P '.'.toNat)

include slash

lemma isMadeOf_rootMarks (p : String) : IsMadeOf P (rootMarks p).toList := by
  have one : IsMadeOf P ['/'] := (isMadeOf_cons (by decide)).2 ⟨slash, isMadeOf_nil⟩
  obtain ⟨-, marks⟩ | ⟨-, marks | marks⟩ := rootMarks_cases p <;> rw [marks]
  · exact isMadeOf_nil
  · exact one
  · exact one.append one

lemma isMadeOf_intercalate (h : ∀ s ∈ ss, IsMadeOf P s.toList) :
    IsMadeOf P ("/".intercalate ss).toList := by
  induction ss with
  | nil => exact isMadeOf_nil
  | cons s ss ih =>
    obtain ⟨hs, hss⟩ := List.forall_mem_cons.1 h
    cases ss with
    | nil => simpa using hs
    | cons t ss =>
      rw [String.intercalate_cons_cons, String.toList_append, String.toList_append]
      exact (hs.append ((isMadeOf_cons (by decide)).2 ⟨slash, isMadeOf_nil⟩)).append (ih hss)

lemma isMadeOf_join (ha : IsMadeOf P a.toList) (hb : IsMadeOf P b.toList) :
    IsMadeOf P (join a b).toList := by
  unfold join
  split
  · exact hb
  · split
    · rw [String.toList_append]
      exact ha.append hb
    · rw [String.toList_append, String.toList_append]
      exact (ha.append ((isMadeOf_cons (by decide)).2 ⟨slash, isMadeOf_nil⟩)).append hb

include dot

omit slash in
lemma isMadeOf_orDot (h : IsMadeOf P s.toList) :
    IsMadeOf P (if s == "" then "." else s).toList := by
  split
  · exact (isMadeOf_cons (by decide)).2 ⟨dot, isMadeOf_nil⟩
  · exact h

lemma isMadeOf_tidy (h : IsMadeOf P p.toList) : IsMadeOf P (tidy p).toList := by
  refine isMadeOf_orDot dot ?_
  rw [String.toList_append]
  exact (isMadeOf_rootMarks slash p).append
    (isMadeOf_intercalate slash fun s hs => isMadeOf_of_mem_segments h hs)

lemma isMadeOf_below (ha : IsMadeOf P a.toList) (hb : IsMadeOf P b.toList) :
    IsMadeOf P (below a b).toList :=
  isMadeOf_tidy slash dot (isMadeOf_join slash ha hb)

lemma isMadeOf_normalise (h : IsMadeOf P p.toList) : IsMadeOf P (normalise p).toList := by
  refine isMadeOf_orDot dot ?_
  rw [String.toList_append]
  refine (isMadeOf_rootMarks slash p).append (isMadeOf_intercalate slash fun s hs => ?_)
  exact isMadeOf_of_mem_segments h ((mem_collapse hs).resolve_left (by simp))

omit dot in
lemma isMadeOf_resolve (ha : IsMadeOf P a.toList) (hb : IsMadeOf P b.toList) :
    IsMadeOf P (resolve a b).toList := by
  rw [resolve, String.toList_append]
  have one : IsMadeOf P ['/'] := (isMadeOf_cons (by decide)).2 ⟨slash, isMadeOf_nil⟩
  refine one.append (isMadeOf_intercalate slash fun s hs => ?_)
  exact isMadeOf_of_mem_segments (isMadeOf_join slash ha hb) ((mem_collapse hs).resolve_left (by simp))

end Made

lemma kept_below (ha : Kept a.toList) (hb : Kept b.toList) : Kept (below a b).toList :=
  have any {s : List Char} (h : Kept s) : IsMadeOf (fun _ => True) s := ⟨h, fun _ _ => trivial⟩
  (isMadeOf_below trivial trivial (any ha) (any hb)).kept

/-! ### Paths that a machine takes -/

/-- A number that a path may have: that of a character which does not end the path, or of a half that
stands for a byte. -/
def Fits (n : Nat) : Prop :=
  n ≠ 0 ∧ (isHalf n = false ∨ isByteHalf n = true)

lemma fits_of_ofPath? (h : FileFault.ofPath? p = none) : ∀ n ∈ numbers p.toList, Fits n := by
  unfold FileFault.ofPath? at h
  dsimp only at h
  split at h
  · cases h
  · next whole =>
    split at h
    · cases h
    · next zero =>
      intro n hn
      refine ⟨?_, loneHalf?_eq_none.1 whole n hn⟩
      rintro rfl
      exact zero (by simpa using hn)

/-- Of a path with nothing but such numbers a machine asks no more than that it is not too long. -/
lemma ofPath?_eq_of_fits (h : ∀ n ∈ numbers p.toList, Fits n) :
    FileFault.ofPath? p = if greatestPathSize < pathSize p then some .nameTooLong else none := by
  have whole : loneHalf? isByteHalf (numbers p.toList) = none :=
    loneHalf?_eq_none.2 fun n hn => (h n hn).2
  have noZero : (numbers p.toList).contains 0 = false := by
    simpa using fun zero => (h 0 zero).1 rfl
  unfold FileFault.ofPath?
  simp only [whole, noZero]
  exact if_neg Bool.false_ne_true

lemma ofPath?_of_fits (h : ∀ n ∈ numbers p.toList, Fits n) :
    FileFault.ofPath? p = none ∨ FileFault.ofPath? p = some .nameTooLong := by
  rw [ofPath?_eq_of_fits h]
  split
  · exact .inr rfl
  · exact .inl rfl

/-- Every part of the way to a path that a machine takes is taken as well, unless it is too long. -/
lemma ofWay?_of_fits (h : IsMadeOf Fits p.toList) : FileFault.ofWay? p = none := by
  have slash : Fits '/'.toNat := ⟨by decide, .inl (by decide)⟩
  have dot : Fits '.'.toNat := ⟨by decide, .inl (by decide)⟩
  have part : ∀ n fault, FileFault.ofPath?
      (normalise (rootMarks p ++ "/".intercalate ((segments p).take (n + 1)))) = some fault →
      fault = .nameTooLong := by
    intro n fault found
    have made : IsMadeOf Fits
        (normalise (rootMarks p ++ "/".intercalate ((segments p).take (n + 1)))).toList := by
      refine isMadeOf_normalise slash dot ?_
      rw [String.toList_append]
      exact (isMadeOf_rootMarks slash p).append (isMadeOf_intercalate slash fun s hs =>
        isMadeOf_of_mem_segments h (List.mem_of_mem_take hs))
    obtain none | long := ofPath?_of_fits made.numbers
    · rw [none] at found
      cases found
    · rw [long] at found
      exact (Option.some.inj found).symm
  unfold FileFault.ofWay?
  dsimp only
  rw [Option.filter_eq_none_iff]
  intro fault found
  obtain ⟨n, -, found⟩ := List.exists_of_findSome?_eq_some found
  simp [part n fault found]

end ClientGen.Path
