/-!
# Distinct items in order

Lists in which an item is kept once, at its first place.
-/

namespace ClientGen

/-- Add an item at the end unless it is there. -/
def addNew {α : Type} [BEq α] (items : List α) (a : α) : List α :=
  if items.contains a then items else items ++ [a]

/-- The distinct items of a list, each at its first place. -/
def distinct {α : Type} [BEq α] (items : List α) : List α :=
  items.foldl addNew []

/-- Set the value of a key in a table: in place when the key is there, at the end otherwise. -/
def setEntry {α β : Type} [BEq α] (key : α) (value : β) : List (α × β) → List (α × β)
  | [] => [(key, value)]
  | (k, v) :: rest => if k == key then (key, value) :: rest else (k, v) :: setEntry key value rest

/-- The table of entries written one after another: of a key that is written again, the first place
and the last value count. -/
def tableOf {α β : Type} [BEq α] (entries : List (α × β)) : List (α × β) :=
  entries.foldl (fun acc (k, v) => setEntry k v acc) []

/-- Texts in the order of their code points. -/
def sortTexts (items : List String) : List String :=
  items.mergeSort fun a b => decide (a ≤ b)

theorem mem_addNew {α : Type} [BEq α] [LawfulBEq α] {items : List α} {a b : α} :
    b ∈ addNew items a ↔ b ∈ items ∨ b = a := by
  unfold addNew
  split
  · next h =>
    have : a ∈ items := by simpa using h
    constructor
    · exact Or.inl
    · rintro (h | rfl) <;> assumption
  · simp

theorem nodup_addNew {α : Type} [BEq α] [LawfulBEq α] {items : List α} (a : α)
    (h : items.Nodup) : (addNew items a).Nodup := by
  unfold addNew
  split
  · exact h
  · next hn =>
    rw [List.nodup_append]
    refine ⟨h, by simp, ?_⟩
    intro x hx y hy hxy
    simp only [List.mem_singleton] at hy
    subst hy hxy
    simp_all

end ClientGen
