import ClientGen.Document.Calendar
import ClientGen.Number.Binary64

/-!
# Documents

A document as it is read from JSON or YAML text: scalars, lists, sets, and maps that keep the order
of their entries. The keys of a map are pairwise different under `Value.sameKey`, by which the
numbers `1` and `1.0` and the truth value `true` are one key.

A list or a map may be inside of itself. The lists and maps of which that may be so are the parts of
a knot: `Value.inside` stands in a part for another part, or for the same one, and `Value.knot` is
one of the parts, with all of them. It is opened where something in it is looked at, which can be
done as often as the knot's budget says: a reader that goes on longer than that meets the same part
twice and so does not end.
-/

namespace ClientGen.Document

open ClientGen.Number

/-- A value of a document. -/
inductive Value
  | null
  | bool (b : Bool)
  | int (n : Int)
  | float (x : Binary64)
  | str (s : String)
  | date (day : Date)
  | time (day : Date) (clock : Clock)
  | bytes (b : List UInt8)
  | list (items : List Value)
  | map (entries : List (Value × Value))
  | set (members : List Value)
  /-- An entry of a map that is kept as a list of its entries. -/
  | pair (key value : Value)
  /-- The part of a number, in a part of the same knot. -/
  | inside (place : Nat)
  /-- One of the parts of a knot, which can be opened `budget` times. -/
  | knot (budget : Nat) (parts : List Value) (place : Nat)
  deriving Inhabited

namespace Value

/-- Equality of two scalars as keys. Only scalars are keys. A NaN is the
same key as one with its mark. -/
def sameKey : Value → Value → Bool
  | .null, .null => true
  | .str s, .str t => s == t
  | .date d, .date e => d == e
  | .time d c, .time e f => sameTime d c e f
  | .bytes a, .bytes b => a == b
  | .bool a, .bool b => a == b
  | .bool a, .int n => (if a then 1 else 0) == n
  | .bool a, .float x => x.toInt? == some (if a then 1 else 0)
  | .int n, .bool b => n == (if b then 1 else 0)
  | .int m, .int n => m == n
  | .int n, .float x => x.toInt? == some n
  | .float x, .bool b => x.toInt? == some (if b then 1 else 0)
  | .float x, .int n => x.toInt? == some n
  | .float (.nan a), .float (.nan b) => a == b
  | .float x, .float y => Binary64.eq x y
  | _, _ => false

/-- The value of a key in a list of entries. -/
def lookup? (key : Value) (entries : List (Value × Value)) : Option Value :=
  (entries.find? fun (k, _) => k.sameKey key).map Prod.snd

/-- Set the value of a key: in place when the key is there, and at the end otherwise. -/
def insert {α : Type} (key : Value) (value : α) : List (Value × α) → List (Value × α)
  | [] => [(key, value)]
  | (k, v) :: rest =>
    if k.sameKey key then (k, value) :: rest else (k, v) :: insert key value rest

/-- The entries written one after another: of a key that is written again, the first place and the
last value count. -/
def ofEntries {α : Type} (entries : List (Value × α)) : List (Value × α) :=
  entries.foldl (fun acc (k, v) => insert k v acc) []

/-! ### Knots -/

/-- A member of a part on its own: where it stands for a part, that part of the knot. -/
def tied (budget : Nat) (parts : List Value) : Value → Value
  | .inside place => .knot budget parts place
  | .pair k v => .pair (tied budget parts k) (tied budget parts v)
  | v => v

/-- A part on its own. -/
def untangled (budget : Nat) (parts : List Value) : Value → Value
  | .list items => .list (items.map (tied budget parts))
  | .map entries => .map (entries.map fun e => (e.1, tied budget parts e.2))
  | v => v

/-- A value without the knot around it, as long as that can be opened. -/
def opened : Value → Value
  | .knot (budget + 1) parts place => untangled budget parts ((parts[place]?).getD .null)
  | v => v

/-- Whether a value is in a knot that can be opened no more. -/
def isSpent : Value → Bool
  | .knot 0 _ _ => true
  | _ => false

/-- The value of a text key, for a map. -/
def get? (v : Value) (key : String) : Option Value :=
  match v.opened with
  | .map entries => lookup? (.str key) entries
  | _ => none

/-- The value of a text key, for a map, without the knot around it. -/
def openAt? (v : Value) (key : String) : Option Value :=
  (v.get? key).map opened

/-- The text of a text value. -/
def text? : Value → Option String
  | .str s => some s
  | _ => none

/-- The text under a key, when there is text. -/
def getText? (v : Value) (key : String) : Option String :=
  (v.get? key).bind text?

/-- Whether a value counts as true: neither null, false, zero nor empty. What is in a knot is not
empty. -/
def truthy : Value → Bool
  | .null => false
  | .bool b => b
  | .int n => n != 0
  | .float x => !x.isZero
  | .str s => !s.isEmpty
  | .date _ => true
  | .time _ _ => true
  | .bytes b => !b.isEmpty
  | .list items => !items.isEmpty
  | .map entries => !entries.isEmpty
  | .set members => !members.isEmpty
  | .pair _ _ => true
  | .inside _ => true
  | .knot _ _ _ => true

/-- Whether the value under a key is there and counts as true. -/
def flag (v : Value) (key : String) : Bool :=
  (v.get? key).any truthy

/-- Whether a value is null. -/
def isNull : Value → Bool
  | .null => true
  | _ => false

/-- Whether a value is a map. -/
def isMap (v : Value) : Bool :=
  match v.opened with
  | .map _ => true
  | _ => false

/-- A map with text keys. -/
def record (fields : List (String × Value)) : Value :=
  .map (fields.map fun (k, v) => (.str k, v))

/-- A list of texts. -/
def texts (items : List String) : Value :=
  .list (items.map .str)

/-- A text, or null where there is none. -/
def ofText? : Option String → Value
  | some s => .str s
  | none => .null

/-! ### Heights -/

mutual

/-- How deep a value is nested, where a knot is taken as deep as it can be opened. -/
def height : Value → Nat
  | .null => 0
  | .bool _ => 0
  | .int _ => 0
  | .float _ => 0
  | .str _ => 0
  | .date _ => 0
  | .time _ _ => 0
  | .bytes _ => 0
  | .list items => heightOfAll items + 1
  | .map entries => heightOfEntries entries + 1
  | .set members => heightOfAll members + 1
  | .pair k v => max k.height v.height + 1
  | .inside _ => 0
  | .knot budget parts _ => (budget + 1) * (heightOfAll parts + 1)

/-- The greatest height of some values. -/
def heightOfAll : List Value → Nat
  | [] => 0
  | v :: vs => max v.height (heightOfAll vs)

/-- The greatest height of the values of some entries. -/
def heightOfEntries : List (Value × Value) → Nat
  | [] => 0
  | (_, v) :: rest => max v.height (heightOfEntries rest)

end

theorem height_le_of_mem {v : Value} : ∀ {vs : List Value}, v ∈ vs → v.height ≤ heightOfAll vs
  | w :: vs, h => by
    simp only [heightOfAll]
    rcases List.mem_cons.1 h with rfl | h
    · omega
    · have := height_le_of_mem h
      omega

theorem height_le_of_entry {e : Value × Value} :
    ∀ {es : List (Value × Value)}, e ∈ es → e.2.height ≤ heightOfEntries es
  | (_, _) :: es, h => by
    simp only [heightOfEntries]
    rcases List.mem_cons.1 h with rfl | h
    · exact Nat.le_max_left _ _
    · have := height_le_of_entry h
      omega

/-- A member of a list is less high than the list. -/
theorem height_item_lt {v : Value} {items : List Value} (h : v ∈ items) :
    v.height < (list items).height := by
  have := height_le_of_mem h
  simp only [height]
  omega

/-- A value in a map is less high than the map. -/
theorem height_entry_lt {e : Value × Value} {entries : List (Value × Value)} (h : e ∈ entries) :
    e.2.height < (map entries).height := by
  have := height_le_of_entry h
  simp only [height]
  omega

theorem height_tied_le (budget : Nat) (parts : List Value) (v : Value) :
    (tied budget parts v).height ≤ v.height + (knot budget parts 0).height := by
  induction v using tied.induct with
  | case1 place => simp only [tied, height]; omega
  | case2 k v hk hv => simp only [tied, height] at *; omega
  | case3 v h₁ h₂ =>
    have : tied budget parts v = v := by
      cases v <;> simp_all [tied]
    rw [this]
    omega

theorem heightOfAll_tied_le (budget : Nat) (parts : List Value) : ∀ items : List Value,
    heightOfAll (items.map (tied budget parts)) ≤
      heightOfAll items + (knot budget parts 0).height
  | [] => Nat.zero_le _
  | v :: vs => by
    have here := height_tied_le budget parts v
    have there := heightOfAll_tied_le budget parts vs
    simp only [List.map_cons, heightOfAll]
    omega

theorem heightOfEntries_tied_le (budget : Nat) (parts : List Value) :
    ∀ entries : List (Value × Value),
      heightOfEntries (entries.map fun e => (e.1, tied budget parts e.2)) ≤
        heightOfEntries entries + (knot budget parts 0).height
  | [] => Nat.zero_le _
  | (_, v) :: rest => by
    have here := height_tied_le budget parts v
    have there := heightOfEntries_tied_le budget parts rest
    simp only [List.map_cons, heightOfEntries]
    omega

theorem height_untangled_le (budget : Nat) (parts : List Value) (part : Value) :
    (untangled budget parts part).height ≤ part.height + (knot budget parts 0).height := by
  cases part with
  | list items =>
    have := heightOfAll_tied_le budget parts items
    simp only [untangled, height] at *
    omega
  | map entries =>
    have := heightOfEntries_tied_le budget parts entries
    simp only [untangled, height] at *
    omega
  | _ => exact Nat.le_add_right _ _

theorem height_part_le (parts : List Value) (place : Nat) :
    ((parts[place]?).getD .null).height ≤ heightOfAll parts := by
  cases h : parts[place]? with
  | none => exact Nat.zero_le _
  | some part => exact height_le_of_mem (List.mem_of_getElem? h)

/-- A value is not higher when it is opened. -/
theorem height_opened_le (v : Value) : v.opened.height ≤ v.height := by
  match v with
  | .knot (budget + 1) parts place =>
    have whole := height_untangled_le budget parts ((parts[place]?).getD .null)
    have part := height_part_le parts place
    have more : (budget + 1 + 1) * (heightOfAll parts + 1) =
        (budget + 1) * (heightOfAll parts + 1) + (heightOfAll parts + 1) := Nat.succ_mul _ _
    simp only [opened, height] at *
    omega
  | .knot 0 _ _ => exact Nat.le_refl _
  | .null => exact Nat.le_refl _
  | .bool _ => exact Nat.le_refl _
  | .int _ => exact Nat.le_refl _
  | .float _ => exact Nat.le_refl _
  | .str _ => exact Nat.le_refl _
  | .date _ => exact Nat.le_refl _
  | .time _ _ => exact Nat.le_refl _
  | .bytes _ => exact Nat.le_refl _
  | .list _ => exact Nat.le_refl _
  | .map _ => exact Nat.le_refl _
  | .set _ => exact Nat.le_refl _
  | .pair _ _ => exact Nat.le_refl _
  | .inside _ => exact Nat.le_refl _

/-- What is found under a key is less high than the map. -/
theorem height_get?_lt {v w : Value} {key : String} (h : v.get? key = some w) :
    w.height < v.height := by
  have whole := height_opened_le v
  unfold get? at h
  split at h
  · next entries opens =>
    obtain ⟨e, found, rfl⟩ := Option.map_eq_some_iff.1 h
    have inner := height_entry_lt (List.mem_of_find?_eq_some found)
    rw [opens] at whole
    omega
  · simp at h

theorem height_openAt?_lt {v w : Value} {key : String} (h : v.openAt? key = some w) :
    w.height < v.height := by
  obtain ⟨found, there, rfl⟩ := Option.map_eq_some_iff.1 h
  have inner := height_opened_le found
  have outer := height_get?_lt there
  omega

end Value

end ClientGen.Document
