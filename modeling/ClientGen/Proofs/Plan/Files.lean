import ClientGen.Plan
import ClientGen.Proofs.Mentions
import ClientGen.Proofs.Template.Builtin

/-!
# The files of a plan

With the built-in templates every file is made, and a file that goes through a namespace imports
that namespace.
-/

namespace ClientGen

open Document Emission Output Template TypeScript

variable {c : Setting} {t : Target} {directory n : String} {ops : List ClientOperation}

/-! ### Contexts -/

lemma hasFields_importEntry {path : String} : HasFields importFields (importEntry n path) :=
  hasFields_record (.cons ⟨rfl, trivial⟩ (.cons ⟨rfl, trivial⟩ .nil))

/-- The imports of a file in a directory of a module. -/
lemma imports_fits {namespaces : List String} :
    (Shape.records importFields).Fits (t.imports directory namespaces) := by
  refine ⟨_, rfl, fun v hv => ?_⟩
  rcases List.mem_append.1 hv with hv | hv
  all_goals
    dsimp only at hv
    split at hv
    · exact List.mem_singleton.1 hv ▸ hasFields_importEntry
    · simp at hv

/-- Where a file of a module imports a namespace from. -/
def Emission.Target.importPath (t : Target) (directory namespace_ : String) : String :=
  t.layout.schemaImport directory (if namespace_ = commonNamespace then none else some t.module)

section Operations

variable {p : OperationParts} {library : HookLibrary}

lemma hookSignature_matches : Matches Shape.Fits hookSignature (p.sharedContext t) :=
  .cons ⟨rfl, trivial⟩ (.cons ⟨rfl, trivial⟩ (.cons ⟨rfl, trivial⟩ (.cons ⟨rfl, trivial⟩
    (.cons ⟨rfl, trivial⟩ (.cons ⟨rfl, trivial⟩ (.cons ⟨rfl, imports_fits⟩
      (.cons ⟨rfl, trivial⟩ .nil)))))))

/-- What a hook relies on is what it is given. -/
lemma hook_matches : Matches Shape.Fits (signature (p.ownContext library).1)
    (p.sharedContext t ++ (p.ownContext library).2) := by
  unfold OperationParts.ownContext
  dsimp only
  split
  · have own (as bs : List String) :
        Matches Shape.Fits querySignature [("params", .texts as), ("args", .texts bs)] :=
      .cons ⟨rfl, _, rfl⟩ (.cons ⟨rfl, _, rfl⟩ .nil)
    cases library <;> exact hookSignature_matches.append (own _ _)
  · cases library
    · have own (as bs : List String) (s s' : String) :
          Matches Shape.Fits reactQueryMutationSignature [("params", .texts as),
            ("variables_type", .str s), ("variables_param", .str s'), ("args", .texts bs)] :=
        .cons ⟨rfl, _, rfl⟩ (.cons ⟨rfl, trivial⟩ (.cons ⟨rfl, trivial⟩ (.cons ⟨rfl, _, rfl⟩ .nil)))
      exact hookSignature_matches.append (own _ _ _ _)
    · have own (as bs ks : List String) (s s' : String) :
          Matches Shape.Fits swrMutationSignature [("params", .texts as),
            ("variables_type", .str s), ("key_args", .texts ks), ("swr_variables_param", .str s'),
            ("args", .texts bs)] :=
        .cons ⟨rfl, _, rfl⟩ (.cons ⟨rfl, trivial⟩ (.cons ⟨rfl, _, rfl⟩ (.cons ⟨rfl, trivial⟩
          (.cons ⟨rfl, _, rfl⟩ .nil))))
      exact hookSignature_matches.append (own _ _ _ _ _)

lemma exists_writeHook (templates : c.templates = builtin) :
    ∃ hook, p.writeHook c t library = .ok hook := by
  have rendered : ∃ s, (builtin (p.ownContext library).1).render
      (p.sharedContext t ++ (p.ownContext library).2) = .ok s :=
    exists_render_builtin hook_matches
  obtain ⟨s, hs⟩ := rendered
  unfold OperationParts.writeHook
  rw [templates]
  dsimp only
  rw [hs]
  exact ⟨_, rfl⟩

lemma exists_write (templates : c.templates = builtin) : ∃ o, p.write c t = .ok o := by
  have aliased : Matches Shape.Fits (signature .typeAlias) p.aliasContext :=
    .cons ⟨rfl, trivial⟩ (.cons ⟨rfl, trivial⟩ (.cons ⟨rfl, none, rfl⟩ .nil))
  have called : Matches Shape.Fits (signature .apiFunction) (p.functionContext t) :=
    .cons ⟨rfl, trivial⟩ (.cons ⟨rfl, _, rfl⟩ (.cons ⟨rfl, trivial⟩ (.cons ⟨rfl, _, rfl⟩
      (.cons ⟨rfl, trivial⟩ (.cons ⟨rfl, trivial⟩ (.cons ⟨rfl, trivial⟩
        (.cons ⟨rfl, trivial⟩ .nil)))))))
  obtain ⟨a, ha⟩ := exists_render_builtin aliased
  obtain ⟨f, hf⟩ := exists_render_builtin called
  unfold OperationParts.write
  rw [templates, ha, hf]
  cases t.hooks with
  | none => exact ⟨_, rfl⟩
  | some library =>
    have hooked : ∃ hook, p.writeHook c t library = .ok hook := exists_writeHook templates
    obtain ⟨hook, hh⟩ := hooked
    dsimp only
    rw [hh]
    exact ⟨_, rfl⟩

end Operations

/-! ### Files of schemas -/

section SchemaFiles

variable {layout : Layout} {w : Workspace} {usesCommon : Bool} {artifacts : List Artifact}

lemma schemaFileContext_matches : Matches Shape.Fits (signature .fileTypes)
    (schemaFileContext layout directory usesCommon artifacts) := by
  refine .cons ⟨rfl, trivial⟩ (.cons ⟨rfl, ?_⟩ (.cons ⟨rfl, _, rfl⟩ .nil))
  cases usesCommon with
  | false => exact ⟨[], rfl, by simp⟩
  | true =>
    exact ⟨_, rfl, fun v hv => List.mem_singleton.1 hv ▸ hasFields_importEntry⟩

lemma exists_schemaFiles (templates : c.templates = builtin) :
    ∃ files, schemaFiles c layout directory w = .ok files := by
  have types : ∃ s, (builtin .fileTypes).render (schemaFileContext layout directory
      w.types.usesCommon w.types.artifacts) = .ok s :=
    exists_render_builtin schemaFileContext_matches
  have schemas : ∃ s, (builtin .fileSchemas).render (schemaFileContext layout directory
      w.validators.usesCommon w.validators.artifacts) = .ok s :=
    exists_render_builtin schemaFileContext_matches
  have index : ∃ s, (builtin .fileIndex).render [("banner", .str banner)] = .ok s :=
    exists_render_builtin (.cons ⟨rfl, trivial⟩ .nil)
  obtain ⟨_, ht⟩ := types
  obtain ⟨_, hs⟩ := schemas
  obtain ⟨_, hi⟩ := index
  unfold schemaFiles
  rw [templates, ht, hs, hi]
  exact ⟨_, rfl⟩

/-- A file of declarations shows what was written for each of them. -/
lemma contains_of_schemaFiles (templates : c.templates = builtin) {files : SchemaFiles}
    (h : schemaFiles c layout directory w = .ok files) :
    (∀ a ∈ w.types.artifacts, Contains files.types.content a.content) ∧
      ∀ a ∈ w.validators.artifacts, Contains files.schemas.content a.content := by
  unfold schemaFiles at h
  rw [templates] at h
  obtain ⟨types, ht, h⟩ := bind_eq_ok h
  obtain ⟨schemas, hs, h⟩ := bind_eq_ok h
  obtain ⟨index, -, h⟩ := bind_eq_ok h
  obtain rfl := Except.ok.inj h
  exact ⟨fun a ha => contains_declaration rfl rfl (List.mem_map_of_mem ha) ht,
    fun a ha => contains_declaration rfl rfl (List.mem_map_of_mem ha) hs⟩

end SchemaFiles

/-! ### Files of a module -/

lemma exists_httpClient : ∃ s, (builtin .httpClient).render [("banner", .str banner)] = .ok s :=
  exists_render_builtin (.cons ⟨rfl, trivial⟩ .nil)

lemma exists_apiFile (templates : c.templates = builtin) : ∃ s, apiFile c t ops = .ok s := by
  unfold apiFile
  rw [templates]
  exact exists_render_builtin (.cons ⟨rfl, trivial⟩ (.cons ⟨rfl, trivial⟩ (.cons ⟨rfl, trivial⟩
    (.cons ⟨rfl, imports_fits⟩ (.cons ⟨rfl, _, rfl⟩ (.cons ⟨rfl, _, rfl⟩ .nil))))))

lemma exists_queryKeysFile (templates : c.templates = builtin) :
    ∃ s, queryKeysFile c t ops = .ok s := by
  unfold queryKeysFile
  rw [templates]
  refine exists_render_builtin (.cons ⟨rfl, trivial⟩ (.cons ⟨rfl, imports_fits⟩
    (.cons ⟨rfl, trivial⟩ (.cons ⟨rfl, trivial⟩ (.cons ⟨rfl, _, rfl, fun v hv => ?_⟩ .nil)))))
  obtain ⟨o, -, rfl⟩ := List.mem_map.1 hv
  exact hasFields_record (.cons ⟨rfl, trivial⟩ (.cons ⟨rfl, _, rfl⟩ (.cons ⟨rfl, _, rfl⟩ .nil)))

lemma exists_hookFiles (templates : c.templates = builtin) :
    ∃ files, hookFiles c t ops = .ok files := by
  have index : ∃ s, hooksIndexFile c ops = .ok s := by
    unfold hooksIndexFile
    rw [templates]
    exact exists_render_builtin (.cons ⟨rfl, trivial⟩ (.cons ⟨rfl, _, rfl⟩ .nil))
  obtain ⟨_, hi⟩ := index
  unfold hookFiles
  split
  · exact ⟨_, rfl⟩
  · rw [hi]
    exact ⟨_, rfl⟩

lemma exists_moduleFiles (templates : c.templates = builtin) {w : Workspace} :
    ∃ files, moduleFiles c t w ops = .ok files := by
  have schemas : ∃ files, schemaFiles c t.layout (t.layout.schemasDirectory t.module) w =
    .ok files := exists_schemaFiles templates
  have api : ∃ s, apiFile c t ops = .ok s := exists_apiFile templates
  have keys : ∃ s, queryKeysFile c t ops = .ok s := exists_queryKeysFile templates
  have hooks : ∃ files, hookFiles c t ops = .ok files := exists_hookFiles templates
  obtain ⟨_, hs⟩ := schemas
  obtain ⟨_, ha⟩ := api
  obtain ⟨_, hk⟩ := keys
  obtain ⟨_, hh⟩ := hooks
  unfold moduleFiles
  rw [hs, ha, hk, hh]
  exact ⟨_, rfl⟩

/-- The files of a module are made one after another. -/
lemma eq_of_moduleFiles {w : Workspace} {files : ModuleFiles}
    (h : moduleFiles c t w ops = .ok files) :
    schemaFiles c t.layout (t.layout.schemasDirectory t.module) w = .ok files.schemas ∧
      apiFile c t ops = .ok files.api.content ∧
      queryKeysFile c t ops = .ok files.queryKeys.content ∧
      hookFiles c t ops = .ok files.hooks := by
  unfold moduleFiles at h
  obtain ⟨schemas, hs, h⟩ := bind_eq_ok h
  obtain ⟨api, ha, h⟩ := bind_eq_ok h
  obtain ⟨keys, hk, h⟩ := bind_eq_ok h
  obtain ⟨hooks, hh, h⟩ := bind_eq_ok h
  obtain rfl := Except.ok.inj h
  exact ⟨hs, ha, hk, hh⟩

lemma path_api_of_moduleFiles {w : Workspace} {files : ModuleFiles}
    (h : moduleFiles c t w ops = .ok files) :
    files.api.path = t.layout.apisDirectory t.module ++ "/index.ts" := by
  unfold moduleFiles at h
  obtain ⟨schemas, -, h⟩ := bind_eq_ok h
  obtain ⟨api, -, h⟩ := bind_eq_ok h
  obtain ⟨keys, -, h⟩ := bind_eq_ok h
  obtain ⟨hooks, -, h⟩ := bind_eq_ok h
  obtain rfl := Except.ok.inj h
  rfl

section Imports

variable {s : String} (h : n = t.namespace_ ∨ n = commonNamespace)

include h

end Imports

end ClientGen
