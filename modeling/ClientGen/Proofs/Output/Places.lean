import ClientGen.Output.Layout
import ClientGen.Proofs.Naming.Words
import ClientGen.Proofs.Path.Segments

/-!
# Places of generated files

Where the directories and files of a layout stand below the directory that the output is written to:
under a root of the layout, in the directory of the description if it has one, and then in that of the
module.
-/

namespace ClientGen.Output

open Naming Path

variable {m root last : String} {l : Layout} (here : String)

/-! ### Words -/

/-- A word of letters and digits of ASCII and of hyphens. -/
structure IsWord (s : String) : Prop where
  some : s ≠ ""
  chars : ∀ c ∈ s.toList, c = '-' ∨ c.isAlphanum = true

/-- Whether a text is a word is seen from its characters one by one. -/
lemma isWord_iff {s : String} :
    IsWord s ↔ s ≠ "" ∧ (s.toList.all fun c => c == '-' || c.isAlphanum) = true := by
  rw [List.all_eq_true]
  constructor
  · exact fun h => ⟨h.some, fun c hc => by simpa using h.chars c hc⟩
  · exact fun h => ⟨h.1, fun c hc => by simpa using h.2 c hc⟩

instance (s : String) : Decidable (IsWord s) :=
  decidable_of_iff' _ isWord_iff

lemma IsWord.isName {s : String} (h : IsWord s) : IsName s := by
  refine ⟨⟨h.some, ?_, fun slash => absurd (h.chars _ slash) (by decide)⟩, ?_⟩
  · rintro rfl
    exact absurd h (by decide)
  · rintro rfl
    exact absurd h (by decide)

lemma isWord_directoryName (m : String) : IsWord (directoryName m) :=
  ⟨directoryName_ne_empty m, fun _ => of_mem_directoryName⟩

/-- The directory of a module is never that of the shared schemas. -/
lemma moduleDirectory_ne_common (m : String) : moduleDirectory m ≠ commonModule := by
  unfold moduleDirectory
  dsimp only
  split
  · next h =>
    rw [beq_iff_eq.1 h]
    decide
  · next h => simpa using h

lemma isWord_moduleDirectory (m : String) : IsWord (moduleDirectory m) := by
  unfold moduleDirectory
  dsimp only
  split
  · next h =>
    rw [beq_iff_eq.1 h]
    decide
  · exact isWord_directoryName m

lemma isWord_commonModule : IsWord commonModule := by
  decide

/-- A hook is called by letters and digits. -/
lemma isWord_hook (name : String) : IsWord ("use" ++ pascalCase name) := by
  constructor
  · simp
  · intro c hc
    rw [String.toList_append, List.mem_append] at hc
    rcases hc with hc | hc
    · exact (show IsWord "use" by decide).chars c hc
    · exact .inr (isAlphanum_of_mem_pascalCase hc)

/-! ### Directories -/

namespace Layout

/-- The directory that a description with a name has under every root. -/
def inner (l : Layout) : List String :=
  match l.name with
  | some name => if name.isEmpty then [] else [directoryName name]
  | none => []

lemma isWord_of_mem_inner {s : String} (h : s ∈ l.inner) : IsWord s := by
  unfold inner at h
  split at h
  · split at h
    · cases h
    · rw [List.mem_singleton.1 h]
      exact isWord_directoryName _
  · cases h

lemma goal_nest (h : IsName last) :
    goal here (l.nest root last) = goal here root ++ l.inner ++ [last] := by
  have names : ∀ s ∈ l.inner ++ [last], IsName s := by
    intro s hs
    rcases List.mem_append.1 hs with hs | hs
    · exact (isWord_of_mem_inner hs).isName
    · rw [List.mem_singleton.1 hs]
      exact h
  change goal here (normalise (joinAll root (l.inner ++ [last]))) = _
  rw [goal_normalise, goal_joinAll here names, List.append_assoc]

lemma goal_commonDirectory :
    goal here l.commonDirectory = goal here l.schemas ++ l.inner ++ [commonModule] :=
  goal_nest here isWord_commonModule.isName

lemma goal_schemasDirectory :
    goal here (l.schemasDirectory m) = goal here l.schemas ++ l.inner ++ [moduleDirectory m] :=
  goal_nest here (isWord_moduleDirectory m).isName

lemma goal_apisDirectory :
    goal here (l.apisDirectory m) = goal here l.apis ++ l.inner ++ [moduleDirectory m] :=
  goal_nest here (isWord_moduleDirectory m).isName

lemma goal_hooksDirectory :
    goal here (l.hooksDirectory m) = goal here l.hooks ++ l.inner ++ [moduleDirectory m] :=
  goal_nest here (isWord_moduleDirectory m).isName

lemma goal_httpClientFile : goal here l.httpClientFile = goal here l.apis ++ [clientFile] := by
  rw [httpClientFile, goal_normalise, goal_join here ⟨⟨by decide, by decide, by decide⟩, by decide⟩]

/-- A file in a directory of a layout. -/
lemma goal_nest_slash {file : String} (h : IsName file) :
    goal here (l.nest root last ++ "/" ++ file) = goal here (l.nest root last) ++ [file] :=
  goal_slash here (normalise_ne_empty _) h

end Layout

end ClientGen.Output
