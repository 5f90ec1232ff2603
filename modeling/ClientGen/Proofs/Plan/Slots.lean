import ClientGen.Config.Basic
import ClientGen.Proofs.Output.Places
import ClientGen.Proofs.Path.Numbers
import ClientGen.Proofs.Plan.Parts

/-!
# What the files of a plan are for

Every file of a plan but that of the HTTP client has a slot, which says what the file is for, and its
place follows from the slot. Different slots have different places as long as the roots of the layout
are apart.
-/

namespace ClientGen

open Api Emission Naming Output Path Template

/-- The roots under which every module has a directory. -/
inductive Root
  | schemas
  | apis
  | hooks
  deriving DecidableEq

/-- A root of a layout. -/
def Output.Layout.root (l : Layout) : Root → String
  | .schemas => l.schemas
  | .apis => l.apis
  | .hooks => l.hooks

/-- What a file is for: it is one in a directory under a root, or it has the cache keys of a module
with that directory. -/
inductive Slot
  | code (root : Root) (directory file : String)
  | keys (directory : String)
  deriving DecidableEq

/-- The path of a slot. -/
def Slot.path (l : Layout) : Slot → String
  | .code root directory file => l.nest (l.root root) directory ++ "/" ++ file
  | .keys directory => l.nest l.queryKeys (directory ++ ".ts")

/-- The place of a slot, taken from the directory `here`. -/
def Slot.place (here : String) (l : Layout) : Slot → List String
  | .code root directory file => goal here (l.root root) ++ l.inner ++ [directory] ++ [file]
  | .keys directory => goal here l.queryKeys ++ l.inner ++ [directory ++ ".ts"]

/-- The files of a directory of schemas. -/
def schemaFileNames : List String := ["types.ts", "schemas.ts", "index.ts"]

/-- The file of an artifact. -/
def fileName (name : String) : String := name ++ ".ts"

/-- The slots of the shared schemas. -/
def SharedPart.slots (part : SharedPart) : List Slot :=
  part.files.toList.flatMap fun _ => schemaFileNames.map (.code .schemas commonModule)

/-- The files of a module's hooks. -/
def ModulePart.hookNames (part : ModulePart) : List String :=
  if part.target.hooks.isNone then []
  else part.operations.map (fun o => fileName o.hookName) ++ ["index.ts"]

/-- The slots of a module. -/
def ModulePart.slots (part : ModulePart) : List Slot :=
  let directory := moduleDirectory part.target.module
  schemaFileNames.map (.code .schemas directory) ++
    [.code .apis directory "index.ts", .keys directory] ++
    part.hookNames.map (.code .hooks directory)

/-- The slots of a plan. -/
def Plan.slots (plan : Plan) : List Slot :=
  plan.shared.slots ++ plan.parts.flatMap ModulePart.slots

variable {here : String} {l : Layout} {c : Setting} {settings : PlanSettings} {w : Workspace}
  {part : ModulePart} {module : String} {names : List String} {plan : Plan}

/-! ### Paths -/

/-- The files of a directory of schemas. -/
lemma paths_schemaFiles {directory : String} {files : SchemaFiles}
    (h : schemaFiles c l directory w = .ok files) :
    files.all.map (·.path) = schemaFileNames.map fun file => directory ++ "/" ++ file := by
  unfold schemaFiles at h
  obtain ⟨types, -, h⟩ := bind_eq_ok h
  obtain ⟨schemas, -, h⟩ := bind_eq_ok h
  obtain ⟨index, -, h⟩ := bind_eq_ok h
  obtain rfl := Except.ok.inj h
  simp only [SchemaFiles.all, schemaFileNames, List.map_cons, List.map_nil, String.append_assoc]
  rfl

/-- The hook of an operation is written if a library is chosen. -/
lemma hook_of_write {p : OperationParts} {o : ClientOperation} {t : Target}
    (h : p.write c t = .ok o) (chosen : t.hooks.isNone = false) :
    ∃ hook, o.hook = some hook ∧ hook.name = o.hookName := by
  have becomes := becomes_of_write h
  have hooked : o.hook.isSome = true := by
    rw [becomes.hooked]
    simpa using chosen
  obtain ⟨hook, hh⟩ := Option.isSome_iff_exists.1 hooked
  obtain ⟨library, -, written⟩ := becomes.hook hook hh
  unfold OperationParts.writeHook at written
  obtain ⟨content, -, written⟩ := bind_eq_ok written
  obtain rfl := Except.ok.inj written
  exact ⟨_, hh, becomes.parts ▸ rfl⟩

lemma paths_hooks {t : Target} {directory : String} (chosen : t.hooks.isNone = false) :
    ∀ {ops : List ClientOperation}, (∀ o ∈ ops, o.parts.write c t = .ok o) →
      (ops.filterMap (·.hook)).map (fun h => directory ++ "/" ++ h.name ++ ".ts") =
        ops.map fun o => directory ++ "/" ++ fileName o.hookName
  | [], _ => rfl
  | o :: rest, written => by
    obtain ⟨hook, hh, name⟩ := hook_of_write (written o (by simp)) chosen
    rw [List.filterMap_cons_some hh, List.map_cons, List.map_cons, name,
      paths_hooks chosen fun o ho => written o (by simp [ho]), fileName, String.append_assoc]

/-- The files of a module's hooks. -/
lemma paths_hookFiles {files : List GeneratedFile}
    (written : ∀ o ∈ part.operations, o.parts.write c part.target = .ok o)
    (h : hookFiles c part.target part.operations = .ok files) :
    files.map (·.path) = part.hookNames.map fun file =>
      part.target.layout.hooksDirectory part.target.module ++ "/" ++ file := by
  unfold hookFiles at h
  unfold ModulePart.hookNames
  cases chosen : part.target.hooks.isNone with
  | true =>
    rw [chosen, if_pos rfl] at h
    obtain rfl := Except.ok.inj h
    rfl
  | false =>
    rw [chosen, if_neg (by simp)] at h
    obtain ⟨index, -, h⟩ := bind_eq_ok h
    obtain rfl := Except.ok.inj h
    rw [if_neg (by simp), List.map_append, List.map_append, List.map_map, List.map_map]
    congr 1
    · exact paths_hooks chosen written
    · simp only [List.map_cons, List.map_nil, String.append_assoc]
      rfl

/-- The files of a module are those of its slots. -/
lemma ModulePart.Made.paths (made : part.Made c settings module names) :
    part.files.all.map (·.path) = part.slots.map (Slot.path settings.layout) := by
  have layout : part.target.layout = settings.layout := by
    rw [made.target]
    rfl
  have rendered := made.rendered
  unfold moduleFiles at rendered
  obtain ⟨schemas, hs, rendered⟩ := bind_eq_ok rendered
  obtain ⟨api, -, rendered⟩ := bind_eq_ok rendered
  obtain ⟨keys, -, rendered⟩ := bind_eq_ok rendered
  obtain ⟨hooks, hh, rendered⟩ := bind_eq_ok rendered
  have files := Except.ok.inj rendered
  have index (directory : String) : directory ++ "/index.ts" = directory ++ "/" ++ "index.ts" := by
    rw [String.append_assoc]
    rfl
  rw [← files, ← layout]
  simp only [ModuleFiles.all, ModulePart.slots, List.map_append, List.map_map, List.map_cons,
    List.map_nil, paths_schemaFiles hs, paths_hookFiles made.operations.written hh, index]
  rfl

/-- The files of a plan are those of its slots. -/
lemma Plan.Made.paths {d : Description} {templates : TemplateId → ClientGen.Template}
    (made : plan.Made d settings templates) :
    plan.ownFiles.map (·.path) = plan.slots.map (Slot.path settings.layout) := by
  unfold Plan.ownFiles Plan.slots
  rw [List.map_append, List.map_append]
  congr 1
  · unfold SharedPart.slots
    cases files : plan.shared.files with
    | none => rfl
    | some f =>
      simp only [Option.toList_some, List.flatMap_cons, List.flatMap_nil, List.append_nil,
        List.map_map]
      exact paths_schemaFiles (made.shared.rendered f files)
  · rw [List.map_flatMap, List.map_flatMap]
    refine List.flatMap_congr fun part hp => ?_
    obtain ⟨m, -, hm⟩ := exists_of_forall₂_right made.parts hp
    exact hm.paths

/-- A file of a plan has a slot, or it is that of the HTTP client. -/
lemma Plan.Made.path_cases {d : Description} {templates : TemplateId → ClientGen.Template}
    (made : plan.Made d settings templates) {f : GeneratedFile} (hf : f ∈ plan.files) :
    (∃ s ∈ plan.slots, s.path settings.layout = f.path) ∨
      f.path = settings.layout.httpClientFile := by
  obtain ⟨client, -, files⟩ := made.files
  rw [files] at hf
  rcases List.mem_append.1 hf with hf | hf
  · apply Or.inl
    rw [← List.mem_map, ← made.paths]
    exact List.mem_map_of_mem hf
  · apply Or.inr
    rw [List.mem_singleton.1 hf]

/-! ### Places -/

/-- The directory of a slot and its file are names. -/
def Slot.Named : Slot → Prop
  | .code _ directory file => IsName directory ∧ IsName file
  | .keys directory => IsName directory

/-- A file stands where its slot is. -/
lemma goal_path (here : String) {s : Slot} (h : s.Named) :
    goal here (s.path l) = s.place here l := by
  cases s with
  | code root directory file =>
    rw [Slot.path, Layout.goal_nest_slash here h.2, Layout.goal_nest here h.1]
    rfl
  | keys directory =>
    have name : IsName directory := h
    exact Layout.goal_nest here (isName_append_ts name.noSlash)

/-- The directory of a slot is a word, and its file a word with the ending of a source file. -/
def Slot.Worded : Slot → Prop
  | .code _ directory file => IsWord directory ∧ ∃ word, IsWord word ∧ file = fileName word
  | .keys directory => IsWord directory

lemma Slot.Worded.named {s : Slot} (h : s.Worded) : s.Named := by
  cases s with
  | code root directory file =>
    obtain ⟨hd, word, hw, rfl⟩ := h
    exact ⟨hd.isName, isName_append_ts hw.isName.noSlash⟩
  | keys directory => exact IsWord.isName h

lemma worded_code_schemas {root : Root} {directory : String} (h : IsWord directory) :
    ∀ s ∈ schemaFileNames.map (Slot.code root directory), s.Worded := by
  intro s hs
  obtain ⟨file, hf, rfl⟩ := List.mem_map.1 hs
  have all : ∀ file ∈ schemaFileNames, ∃ word ∈ ["types", "schemas", "index"],
      file = fileName word := by decide
  have words : ∀ word ∈ ["types", "schemas", "index"], IsWord word := by decide
  obtain ⟨word, hw, rfl⟩ := all file hf
  exact ⟨h, word, words word hw, rfl⟩

lemma exists_word_of_mem_hookNames {file : String} (h : file ∈ part.hookNames) :
    ∃ word, IsWord word ∧ file = fileName word := by
  unfold ModulePart.hookNames at h
  split at h
  · cases h
  · rcases List.mem_append.1 h with h | h
    · obtain ⟨o, -, rfl⟩ := List.mem_map.1 h
      exact ⟨_, isWord_hook _, rfl⟩
    · exact ⟨"index", by decide, List.mem_singleton.1 h⟩

lemma Plan.worded_of_mem_slots {s : Slot} (h : s ∈ plan.slots) : s.Worded := by
  rcases List.mem_append.1 h with h | h
  · obtain ⟨files, -, hs⟩ := List.mem_flatMap.1 h
    exact worded_code_schemas isWord_commonModule s hs
  · obtain ⟨part, -, hs⟩ := List.mem_flatMap.1 h
    have directory := isWord_moduleDirectory part.target.module
    rcases List.mem_append.1 hs with hs | hs
    · rcases List.mem_append.1 hs with hs | hs
      · exact worded_code_schemas directory s hs
      · rcases List.mem_pair.1 hs with rfl | rfl
        · exact ⟨directory, "index", by decide, rfl⟩
        · exact directory
    · obtain ⟨file, hf, rfl⟩ := List.mem_map.1 hs
      exact ⟨directory, exists_word_of_mem_hookNames hf⟩

/-! ### Different slots -/

/-- The directory of a slot. -/
def Slot.directory : Slot → String
  | .code _ directory _ => directory
  | .keys directory => directory

lemma ModulePart.directory_of_mem_slots {s : Slot} (h : s ∈ part.slots) :
    s.directory = moduleDirectory part.target.module := by
  rcases List.mem_append.1 h with h | h
  · rcases List.mem_append.1 h with h | h
    · obtain ⟨file, -, rfl⟩ := List.mem_map.1 h
      rfl
    · rcases List.mem_pair.1 h with rfl | rfl <;> rfl
  · obtain ⟨file, -, rfl⟩ := List.mem_map.1 h
    rfl

lemma SharedPart.directory_of_mem_slots {part : SharedPart} {s : Slot} (h : s ∈ part.slots) :
    s.directory = commonModule := by
  obtain ⟨files, -, hs⟩ := List.mem_flatMap.1 h
  obtain ⟨file, -, rfl⟩ := List.mem_map.1 hs
  rfl

lemma fileName_injective : Function.Injective fileName :=
  fun _ _ => (String.append_left_inj ".ts").1

lemma ModulePart.nodup_hookNames
    (h : part.target.hooks.isNone = false → (part.operations.map (·.hookName)).Nodup) :
    part.hookNames.Nodup := by
  unfold hookNames
  cases chosen : part.target.hooks.isNone with
  | true => exact List.nodup_nil
  | false =>
    rw [if_neg (by simp)]
    refine List.nodup_append.2 ⟨?_, List.nodup_singleton _, ?_⟩
    · have files := (h chosen).map fileName_injective
      rwa [List.map_map] at files
    · rintro x hx y hy rfl
      -- No hook is called as the index file is.
      obtain ⟨o, -, ho⟩ := List.mem_map.1 hx
      rw [List.mem_singleton.1 hy] at ho
      have first := congrArg (fun s : String => s.toList.head?) ho
      simp [fileName, ClientOperation.hookName, OperationParts.hookName] at first

lemma code_injective (root : Root) (directory : String) :
    Function.Injective (Slot.code root directory) :=
  fun _ _ h => (Slot.code.inj h).2.2

lemma ModulePart.nodup_slots (h : part.hookNames.Nodup) : part.slots.Nodup := by
  have schemas : schemaFileNames.Nodup := by decide
  refine List.nodup_append.2 ⟨List.nodup_append.2 ⟨schemas.map (code_injective _ _), by simp, ?_⟩,
    h.map (code_injective _ _), ?_⟩
  · rintro _ hx y hy rfl
    obtain ⟨file, -, rfl⟩ := List.mem_map.1 hx
    simp at hy
  · rintro _ hx y hy rfl
    obtain ⟨file, -, rfl⟩ := List.mem_map.1 hy
    simp at hx

/-- The slots of a plan are distinct, if its modules have different directories and the hooks of each
of them different names. -/
lemma Plan.nodup_slots (directories : (plan.parts.map (Output.moduleDirectory ·.target.module)).Nodup)
    (hooks : ∀ part ∈ plan.parts, part.hookNames.Nodup) : plan.slots.Nodup := by
  have schemas : schemaFileNames.Nodup := by decide
  refine List.nodup_append.2 ⟨?_, List.nodup_flatMap.2 ⟨fun part hp =>
    ModulePart.nodup_slots (hooks part hp), ?_⟩, ?_⟩
  · unfold SharedPart.slots
    cases plan.shared.files with
    | none => exact List.nodup_nil
    | some files => simpa using schemas.map (code_injective _ _)
  · refine (List.pairwise_map.1 directories).imp fun {part part'} ne s hs hs' => ne ?_
    rw [← part.directory_of_mem_slots hs, ← part'.directory_of_mem_slots hs']
  · rintro s hs _ hs' rfl
    obtain ⟨part, -, hs'⟩ := List.mem_flatMap.1 hs'
    refine moduleDirectory_ne_common part.target.module ?_
    rw [← part.directory_of_mem_slots hs', SharedPart.directory_of_mem_slots hs]

end ClientGen

/-!
## Files stay under the roots

The path of every file of a plan is the normal form of a root of the layout with words behind it. A
description decides about these words only, so that nothing in it leads back out of a root.
-/

namespace ClientGen

open Api Output Path Template

variable {l : Layout}

/-- The roots of a layout. -/
def Output.Layout.roots (l : Layout) : List String :=
  [l.schemas, l.apis, l.hooks, l.queryKeys]

/-- The path is that of a source file under a root of the layout. All behind the root are words. -/
def Output.Layout.Contains (l : Layout) (path : String) : Prop :=
  ∃ root ∈ l.roots, ∃ directories file, (∀ s ∈ directories, IsWord s) ∧ IsWord file ∧
    path = normalise (joinAll root (directories ++ [file ++ ".ts"]))

lemma isName_of_words {directories : List String} {file : String}
    (words : ∀ s ∈ directories, IsWord s) (hf : IsWord file) :
    ∀ s ∈ directories ++ [file ++ ".ts"], IsName s := by
  refine List.forall_mem_append.2 ⟨?_, ?_⟩
  · exact fun s hs => (words s hs).isName
  · intro s hs
    rw [List.mem_singleton.1 hs]
    exact isName_append_ts hf.isName.noSlash

lemma joinAll_append (root : String) (ss ts : List String) :
    joinAll root (ss ++ ts) = joinAll (joinAll root ss) ts :=
  List.foldl_append

/-- A file in a directory of the layout is the normal form of the file under the root. -/
lemma nest_slash (root : String) {directory file : String} (hd : IsName directory)
    (hf : IsName file) :
    l.nest root directory ++ "/" ++ file = normalise (joinAll root (l.inner ++ [directory, file])) := by
  have nested : l.nest root directory = normalise (join (joinAll root l.inner) directory) :=
    congrArg normalise (joinAll_append root l.inner [directory])
  rw [nested, normalise_join_slash hd hf, joinAll_append]
  rfl

lemma contains_slot {s : Slot} (h : s.Worded) : l.Contains (s.path l) := by
  cases s with
  | code root directory file =>
    obtain ⟨hd, word, hw, rfl⟩ := h
    refine ⟨l.root root, by cases root <;> simp [Layout.root, Layout.roots],
      l.inner ++ [directory], word, ?_, hw, ?_⟩
    · exact List.forall_mem_append.2 ⟨fun s => Layout.isWord_of_mem_inner, by simpa using hd⟩
    · have name : IsName (fileName word) := isName_append_ts hw.isName.noSlash
      rw [Slot.path, nest_slash _ hd.isName name, List.append_assoc]
      rfl
  | keys directory =>
    exact ⟨l.queryKeys, by simp [Layout.roots], l.inner, directory,
      fun s => Layout.isWord_of_mem_inner, h, rfl⟩

lemma contains_httpClientFile : l.Contains l.httpClientFile :=
  ⟨l.apis, by simp [Layout.roots], [], "http", by simp, by decide, rfl⟩

lemma Plan.Made.contains {plan : Plan} {d : Description} {settings : PlanSettings}
    {templates : TemplateId → ClientGen.Template} (made : plan.Made d settings templates) :
    ∀ f ∈ plan.files, settings.layout.Contains f.path := by
  intro f hf
  rcases made.path_cases hf with ⟨s, hs, same⟩ | same
  · rw [← same]
    exact contains_slot (Plan.worded_of_mem_slots hs)
  · rw [same]
    exact contains_httpClientFile

/-- Whatever a description holds and wherever the output goes: the path of every file is the normal
form of a root with words behind it, the last one with the ending of a source file, so that the file
stands under that root. No directory of a module is the one of the shared schemas. -/
theorem planOf_contained (d : Description) (settings : PlanSettings)
    (templates : TemplateId → ClientGen.Template) (log : Log) :
    Meets (Plan.of d settings templates) log
      (fun plan _ => ∀ f ∈ plan.files, ∃ root ∈ settings.layout.roots, ∃ directories file,
        (∀ s ∈ directories, IsWord s) ∧ IsWord file ∧
          f.path = normalise (joinAll root (directories ++ [file ++ ".ts"])) ∧
          ∀ here, goal here f.path = goal here root ++ directories ++ [file ++ ".ts"])
      (fun _ _ => True) ∧
    ∀ module, moduleDirectory module ≠ commonModule ∧
      ∀ directory ∈ [settings.layout.schemasDirectory module, settings.layout.apisDirectory module,
          settings.layout.hooksDirectory module],
        ∀ here, goal here directory ≠ goal here settings.layout.commonDirectory := by
  constructor
  · apply planOf_made.imp
    · intro plan _ made f hf
      obtain ⟨root, hr, directories, file, words, word, path⟩ := made.contains f hf
      refine ⟨root, hr, directories, file, words, word, path, fun here => ?_⟩
      rw [path, goal_normalise, goal_joinAll here (isName_of_words words word), List.append_assoc]
    · exact fun _ _ _ => trivial
  · intro module
    have other := moduleDirectory_ne_common module
    refine ⟨other, fun directory hd here same => other ?_⟩
    have last {base : List String}
        (place : goal here directory = base ++ [moduleDirectory module]) :
        moduleDirectory module = commonModule := by
      rw [place, Layout.goal_commonDirectory] at same
      exact List.singleton_inj.1 (List.append_inj' same rfl).2
    simp only [List.mem_cons, List.not_mem_nil, or_false] at hd
    rcases hd with rfl | rfl | rfl
    · exact last (Layout.goal_schemasDirectory here)
    · exact last (Layout.goal_apisDirectory here)
    · exact last (Layout.goal_hooksDirectory here)

end ClientGen

/-!
## Paths of generated code

The files of a plan are called by names with the ending of a source file, and their paths are texts if
the roots of the output are.
-/

namespace ClientGen

open Api Emission Naming Output Path Template Text

/-- A path of generated code: a text that leads to a name with the ending of a source file, wherever
it is taken from. -/
structure IsSource (path : String) : Prop where
  kept : Kept path.toList
  named : ∀ here, ∃ front name, goal here path = front ++ [name ++ ".ts"]

/-- The roots of a layout are texts. -/
structure Output.Layout.IsKept (l : Layout) : Prop where
  schemas : Kept l.schemas.toList
  apis : Kept l.apis.toList
  hooks : Kept l.hooks.toList
  queryKeys : Kept l.queryKeys.toList

/-! ### Texts -/

lemma isMadeOf_of_kept {s : List Char} (h : Kept s) : IsMadeOf (fun _ => True) s :=
  ⟨h, fun _ _ => trivial⟩

lemma kept_normalise {path : String} (h : Kept path.toList) : Kept (normalise path).toList :=
  (isMadeOf_normalise trivial trivial (isMadeOf_of_kept h)).kept

lemma kept_joinAll : ∀ {ss : List String} {a : String}, Kept a.toList →
    (∀ s ∈ ss, Kept s.toList) → Kept (joinAll a ss).toList
  | [], _, h, _ => h
  | s :: ss, a, h, all => by
    obtain ⟨hs, all⟩ := List.forall_mem_cons.1 all
    have first : Kept (join a s).toList :=
      (isMadeOf_join trivial (isMadeOf_of_kept h) (isMadeOf_of_kept hs)).kept
    exact kept_joinAll (a := join a s) first all

/-- A word is kept as it is. -/
lemma kept_of_isWord {s : String} (h : IsWord s) : Kept s.toList :=
  kept_of_notMem fun mark => absurd (h.chars _ mark) (by decide)

lemma kept_append {a b : String} (ha : Kept a.toList) (hb : Kept b.toList) :
    Kept (a ++ b).toList := by
  rw [String.toList_append]
  exact ha.append hb

lemma kept_ts : Kept ".ts".toList :=
  kept_of_notMem (by decide)

lemma kept_nest {l : Layout} {root last : String} (hr : Kept root.toList) (hl : Kept last.toList) :
    Kept (l.nest root last).toList := by
  have inner : ∀ s ∈ l.inner ++ [last], Kept s.toList := by
    intro s hs
    rcases List.mem_append.1 hs with hs | hs
    · exact kept_of_isWord (Layout.isWord_of_mem_inner hs)
    · rw [List.mem_singleton.1 hs]
      exact hl
  exact kept_normalise (kept_joinAll hr inner)

/-! ### Slots -/

variable {l : Layout} {plan : Plan} {s : Slot}

/-- The path of a slot is one of generated code. -/
lemma isSource_path (worded : s.Worded) (kept : l.IsKept) : IsSource (s.path l) := by
  have place (here : String) : goal here (s.path l) = s.place here l := goal_path here worded.named
  cases s with
  | code root directory file =>
    obtain ⟨hd, word, hw, rfl⟩ := worded
    have root : Kept (l.root root).toList := by
      cases root
      · exact kept.schemas
      · exact kept.apis
      · exact kept.hooks
    have front : Kept (l.nest (l.root _) directory ++ "/").toList :=
      kept_append (kept_nest root (kept_of_isWord hd)) (kept_of_notMem (by decide))
    exact ⟨kept_append front (kept_append (kept_of_isWord hw) kept_ts),
      fun here => ⟨_, word, place here⟩⟩
  | keys directory =>
    exact ⟨kept_nest kept.queryKeys (kept_append (kept_of_isWord worded) kept_ts),
      fun here => ⟨_, directory, place here⟩⟩

lemma isSource_httpClientFile (kept : l.IsKept) : IsSource l.httpClientFile where
  kept := kept_normalise (isMadeOf_join trivial (isMadeOf_of_kept kept.apis)
    (isMadeOf_of_kept (kept_of_notMem (by decide)))).kept
  named here := ⟨_, "http", Layout.goal_httpClientFile here⟩

/-- The paths of a plan are those of generated code. -/
lemma Plan.Made.isSource {d : Description} {settings : PlanSettings}
    {templates : TemplateId → ClientGen.Template} (made : plan.Made d settings templates)
    (kept : settings.layout.IsKept) : ∀ f ∈ plan.files, IsSource f.path := by
  intro f hf
  rcases made.path_cases hf with ⟨s, hs, same⟩ | same
  · rw [← same]
    exact isSource_path (Plan.worded_of_mem_slots hs) kept
  · rw [same]
    exact isSource_httpClientFile kept

end ClientGen
