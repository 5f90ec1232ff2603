import ClientGen.Proofs.Config.Reading
import ClientGen.Proofs.Plan.Integrity
import ClientGen.Proofs.Plan.Slots

/-!
# Paths of a run

When the files that a run plans, for one specification or for several, stand in different places. The
names of directories keep letters and digits only, and so do those of hooks, so that different names
may lead to one file; and the roots of the output may be chosen so that they overlap. As long as
neither happens, no two planned files have one place but for the HTTP client.
-/

namespace ClientGen

open Api Config Emission Naming Output Partition Path Template

variable {config : Config} {base : String} {root : Document.Value}

/-! ### Configurations -/

/-- A configuration that is read is for the directory that it is read for, and its specifications
have names. -/
lemma of_ofDocument (h : ofDocument base root = .ok config) :
    config.base = base ∧ ∀ e ∈ config.specs, e.name ≠ "" := by
  have reads := ofDocument_reads base root
  rw [h] at reads
  have said : IsOf base root config := reads
  refine ⟨said.place, fun e he => ?_⟩
  obtain ⟨v, -, entry⟩ := exists_of_forall₂_right said.specs he
  exact entry.named

/-! ### Plans of a run -/

/-- What a run plans: for some of the specifications in order, those that are planned at all, a plan of
some description. -/
structure Config.Plans (config : Config) (here : String)
    (templates : TemplateId → ClientGen.Template) (plans : List (EffectiveSpec × Plan)) : Prop where
  specs : (plans.map Prod.fst).Sublist config.effectiveSpecs
  planned : ∀ e ∈ plans, ∃ d log log',
    outcome (Plan.of d (config.settingsOf here e.1) templates) log = (.ok e.2, log')

/-- The place of the directory that the cache keys of a layout are in. -/
def Output.Layout.keysPlace (l : Layout) (base : String) : List String :=
  goal base l.queryKeys ++ l.inner

/-- The directories under the roots that files of some modules are in. -/
def Output.Layout.codeDirectories (l : Layout) (modules : List String) : List String :=
  l.commonDirectory ::
    modules.flatMap fun m => [l.schemasDirectory m, l.apisDirectory m, l.hooksDirectory m]

/-- The roots of a layout are in different places, that of the hooks if there are any. -/
structure Output.Layout.RootsApart (l : Layout) (base : String) (hooks : Bool) : Prop where
  apis : goal base l.schemas ≠ goal base l.apis
  hooks : hooks = true → goal base l.schemas ≠ goal base l.hooks ∧
    goal base l.apis ≠ goal base l.hooks

/-- Nothing that a run plans is in the way of anything else: the specifications have different
directories if they are several, and so have the modules of each; the hooks of a module have different
names; the roots are apart; and the cache keys are in no directory of other files. -/
structure Config.PlansApart (config : Config) (here : String) (plans : List (EffectiveSpec × Plan)) :
    Prop where
  specs : config.isMulti = true → (config.specs.map fun e => directoryName e.name).Nodup
  modules : ∀ e ∈ plans, (e.2.modules.map moduleDirectory).Nodup
  hooks : config.hooks.library ≠ none → ∀ e ∈ plans, ∀ part ∈ e.2.parts,
    (part.operations.map (·.hookName)).Nodup
  roots : ∀ e ∈ plans,
    (config.layoutOf here e.1).RootsApart config.base config.hooks.library.isSome
  keys : ∀ e ∈ plans, ∀ e' ∈ plans,
    (config.layoutOf here e.1).keysPlace config.base ≠
        goal config.base (config.layoutOf here e'.1).apis ∧
      ∀ directory ∈ (config.layoutOf here e'.1).codeDirectories e'.2.modules,
        (config.layoutOf here e.1).keysPlace config.base ≠ goal config.base directory

/-! ### Slots of a plan -/

section Slots

variable {d : Description} {settings : PlanSettings} {templates : TemplateId → ClientGen.Template}
  {plan : Plan} {r : Root} {directory file : String}

lemma Plan.Made.module_mem (made : plan.Made d settings templates) {part : ModulePart}
    (hp : part ∈ plan.parts) : part.target = settings.target part.target.module ∧
      part.target.module ∈ plan.modules := by
  obtain ⟨m, hm, part_made⟩ := exists_of_forall₂_right made.parts hp
  have target := part_made.target
  have same : part.target.module = m := by
    rw [target]
    rfl
  exact ⟨same ▸ target, same ▸ hm⟩

lemma Plan.Made.map_directory (made : plan.Made d settings templates) :
    plan.parts.map (Output.moduleDirectory ·.target.module) = plan.modules.map Output.moduleDirectory := by
  have same : List.Forall₂ Eq (plan.modules.map Output.moduleDirectory)
      (plan.parts.map (Output.moduleDirectory ·.target.module)) :=
    List.forall₂_map_left_iff.2 (List.forall₂_map_right_iff.2 (made.parts.imp fun m part h => by
      rw [h.target]
      rfl))
  rw [List.forall₂_eq_eq_eq] at same
  exact same.symm

/-- The files under the roots are in the directories of modules and of the shared schemas, and none of
them is called as that of the HTTP client is. -/
lemma Plan.Made.code_mem (made : plan.Made d settings templates) (base : String)
    (h : Slot.code r directory file ∈ plan.slots) : file ≠ clientFile ∧
      (r = .hooks → (settings.hooks.bind HookLibrary.ofName?).isSome) ∧
      ∃ D ∈ settings.layout.codeDirectories plan.modules, goal base D =
        goal base (settings.layout.root r) ++ settings.layout.inner ++ [directory] := by
  have schemas : ∀ file ∈ schemaFileNames, file ≠ clientFile := by decide
  rcases List.mem_append.1 h with h | h
  · obtain ⟨files, -, h⟩ := List.mem_flatMap.1 h
    obtain ⟨file', hf, h⟩ := List.mem_map.1 h
    obtain ⟨rfl, rfl, rfl⟩ := Slot.code.inj h
    exact ⟨schemas _ hf, by simp, _, List.mem_cons_self, Layout.goal_commonDirectory base⟩
  · obtain ⟨part, hp, h⟩ := List.mem_flatMap.1 h
    obtain ⟨target, hm⟩ := made.module_mem hp
    have within {D : String} (hD : D ∈ [settings.layout.schemasDirectory part.target.module,
        settings.layout.apisDirectory part.target.module,
        settings.layout.hooksDirectory part.target.module]) :
        D ∈ settings.layout.codeDirectories plan.modules :=
      List.mem_cons_of_mem _ (List.mem_flatMap.2 ⟨_, hm, hD⟩)
    rcases List.mem_append.1 h with h | h
    · rcases List.mem_append.1 h with h | h
      · obtain ⟨file', hf, h⟩ := List.mem_map.1 h
        obtain ⟨rfl, rfl, rfl⟩ := Slot.code.inj h
        exact ⟨schemas _ hf, by simp, _, within (by simp), Layout.goal_schemasDirectory base⟩
      · rcases List.mem_pair.1 h with h | h
        · obtain ⟨rfl, rfl, rfl⟩ := Slot.code.inj h
          exact ⟨by decide, by simp, _, within (by simp), Layout.goal_apisDirectory base⟩
        · cases h
    · obtain ⟨file', hf, h⟩ := List.mem_map.1 h
      obtain ⟨rfl, rfl, rfl⟩ := Slot.code.inj h
      unfold ModulePart.hookNames at hf
      split at hf
      · cases hf
      · next chosen =>
        refine ⟨?_, fun _ => ?_, _, within (by simp), Layout.goal_hooksDirectory base⟩
        · rcases List.mem_append.1 hf with hf | hf
          · obtain ⟨o, -, rfl⟩ := List.mem_map.1 hf
            intro same
            have first := congrArg (fun s : String => s.toList.head?) same
            simp [fileName, ClientOperation.hookName, OperationParts.hookName, clientFile] at first
          · rw [List.mem_singleton.1 hf]
            decide
        · rw [target] at chosen
          simpa [PlanSettings.target, Option.isSome_iff_ne_none] using chosen

end Slots

/-! ### Slots of a run -/

section Places

variable {l l' : Layout} {r r' : Root} {directory directory' file file' : String}

/-- Files under the roots have one place only if they have one name in directories of one name. -/
lemma place_code_eq (h : (Slot.code r directory file).place base l =
    (Slot.code r' directory' file').place base l') :
    goal base (l.root r) ++ l.inner = goal base (l'.root r') ++ l'.inner ∧
      directory = directory' ∧ file = file' := by
  obtain ⟨h, hf⟩ := List.append_inj' h rfl
  obtain ⟨h, hd⟩ := List.append_inj' h rfl
  exact ⟨h, List.singleton_inj.1 hd, List.singleton_inj.1 hf⟩

lemma place_keys_eq (h : (Slot.keys directory).place base l = (Slot.keys directory').place base l') :
    l.keysPlace base = l'.keysPlace base ∧ directory = directory' := by
  obtain ⟨h, hd⟩ := List.append_inj' h rfl
  exact ⟨h, (String.append_left_inj ".ts").1 (List.singleton_inj.1 hd)⟩

lemma place_keys_eq_code (h : (Slot.keys directory).place base l =
    (Slot.code r directory' file).place base l') :
    l.keysPlace base = goal base (l'.root r) ++ l'.inner ++ [directory'] :=
  (List.append_inj' h rfl).1

/-- Roots that are apart and used are told apart by their places. -/
lemma Output.Layout.RootsApart.inj {hooks : Bool} (apart : l.RootsApart base hooks)
    (used : r = .hooks → hooks = true) (used' : r' = .hooks → hooks = true)
    (h : goal base (l.root r) = goal base (l.root r')) : r = r' := by
  cases r <;> cases r' <;> try rfl
  · exact absurd h apart.apis
  · exact absurd h (apart.hooks (used' rfl)).1
  · exact absurd h.symm apart.apis
  · exact absurd h (apart.hooks (used' rfl)).2
  · exact absurd h.symm (apart.hooks (used rfl)).1
  · exact absurd h.symm (apart.hooks (used rfl)).2

end Places

lemma ofName?_name (library : HookLibrary) : HookLibrary.ofName? library.name = some library := by
  cases library <;> decide

/-! ### Directories of the specifications -/

lemma Config.length_effectiveSpecs_le (single : config.isMulti = false) :
    config.effectiveSpecs.length ≤ 1 := by
  have few : config.specs.length < 2 := by simpa [isMulti] using single
  unfold effectiveSpecs
  split
  · rw [List.length_map]
    omega
  · split
    · split <;> simp
    · simp

lemma Config.effectiveSpecs_of_isMulti (multi : config.isMulti = true) :
    config.effectiveSpecs = config.specs.map config.complete := by
  have many : 2 ≤ config.specs.length := by simpa [isMulti] using multi
  unfold effectiveSpecs
  rw [if_pos]
  cases h : config.specs with
  | nil => simp [h] at many
  | cons e rest => rfl

/-- Of several specifications each has a directory of its own name. -/
lemma Config.inner_layoutOf {here : String} {spec : EffectiveSpec} (multi : config.isMulti = true)
    (named : ∀ e ∈ config.specs, e.name ≠ "") (h : spec ∈ config.effectiveSpecs) :
    (config.layoutOf here spec).inner = [directoryName spec.name] := by
  rw [effectiveSpecs_of_isMulti multi] at h
  obtain ⟨entry, hentry, same⟩ := List.mem_map.1 h
  have some : spec.name ≠ "" := by
    rw [← same]
    exact named entry hentry
  unfold Layout.inner layoutOf
  rw [multi]
  dsimp only
  rw [if_pos rfl]
  dsimp only
  rw [if_neg (by simpa using some)]

/-- The specifications that a run plans have different directories, unless there is only one. -/
lemma Config.Plans.pairwise {here : String} {templates : TemplateId → ClientGen.Template}
    {plans : List (EffectiveSpec × Plan)} (planned : config.Plans here templates plans)
    (named : ∀ e ∈ config.specs, e.name ≠ "")
    (apart : config.isMulti = true → (config.specs.map fun e => directoryName e.name).Nodup) :
    plans.Pairwise fun e e' => ∃ n n', n ≠ n' ∧ (config.layoutOf here e.1).inner = [n] ∧
      (config.layoutOf here e'.1).inner = [n'] := by
  cases multi : config.isMulti with
  | false =>
    have few := planned.specs.length_le
    rw [List.length_map] at few
    have one := length_effectiveSpecs_le multi
    match plans, few with
    | [], _ => exact .nil
    | [e], _ => exact List.pairwise_singleton _ e
    | _ :: _ :: _, few => simp at few; omega
  | true =>
    have nodup : (plans.map fun e => directoryName e.1.name).Nodup := by
      have sub := planned.specs.map fun e : EffectiveSpec => directoryName e.name
      rw [effectiveSpecs_of_isMulti multi, List.map_map, List.map_map] at sub
      exact (apart multi).sublist sub
    have inner : ∀ e ∈ plans, (config.layoutOf here e.1).inner = [directoryName e.1.name] :=
      fun e he => inner_layoutOf multi named (planned.specs.subset (List.mem_map_of_mem he))
    exact (List.pairwise_map.1 nodup).imp_of_mem fun {e e'} he he' ne =>
      ⟨_, _, ne, inner e he, inner e' he'⟩

section Run

variable {here : String} {templates : TemplateId → ClientGen.Template}
  {plans : List (EffectiveSpec × Plan)} {e e' : EffectiveSpec × Plan}

lemma Config.Plans.made (planned : config.Plans here templates plans) (he : e ∈ plans) :
    ∃ d, e.2.Made d (config.settingsOf here e.1) templates := by
  obtain ⟨d, log, log', run⟩ := planned.planned e he
  exact ⟨d, planOf_made.of_ok run⟩

/-- The files of a plan are in the places of its slots. -/
lemma Config.Plans.places (planned : config.Plans here templates plans) (he : e ∈ plans) :
    e.2.ownFiles.map (fun f => goal base f.path) =
      e.2.slots.map (Slot.place base (config.layoutOf here e.1)) := by
  obtain ⟨d, made⟩ := planned.made he
  have paths := congrArg (List.map (goal base)) made.paths
  rw [List.map_map, List.map_map] at paths
  refine paths.trans (List.map_congr_left fun s hs => ?_)
  exact goal_path base (Plan.worded_of_mem_slots hs).named

/-- What is told apart by its place is of one kind, and in one directory. -/
lemma Config.PlansApart.same_kind (apart : config.PlansApart here plans)
    (planned : config.Plans here templates plans) (he : e ∈ plans) (he' : e' ∈ plans) {s s' : Slot}
    (hs : s ∈ e.2.slots) (hs' : s' ∈ e'.2.slots)
    (h : s.place config.base (config.layoutOf here e.1) =
      s'.place config.base (config.layoutOf here e'.1)) :
    (∃ r r' directory file, s = .code r directory file ∧ s' = .code r' directory file ∧
      goal config.base ((config.layoutOf here e.1).root r) ++ (config.layoutOf here e.1).inner =
        goal config.base ((config.layoutOf here e'.1).root r') ++
          (config.layoutOf here e'.1).inner) ∨
      ∃ directory, s = .keys directory ∧ s' = .keys directory ∧
        (config.layoutOf here e.1).keysPlace config.base =
          (config.layoutOf here e'.1).keysPlace config.base := by
  -- The cache keys are in no directory of other files.
  have mixed {e e' : EffectiveSpec × Plan} (he : e ∈ plans) (he' : e' ∈ plans)
      {r : Root} {directory directory' file : String} (hs : .code r directory file ∈ e'.2.slots)
      (h : (Slot.keys directory').place config.base (config.layoutOf here e.1) =
        (Slot.code r directory file).place config.base (config.layoutOf here e'.1)) : False := by
    obtain ⟨d, made⟩ := planned.made he'
    obtain ⟨-, -, D, hD, place⟩ := made.code_mem config.base hs
    exact (apart.keys e he e' he').2 D hD ((place_keys_eq_code h).trans place.symm)
  cases s with
  | code r directory file =>
    cases s' with
    | code r' directory' file' =>
      obtain ⟨place, rfl, rfl⟩ := place_code_eq h
      exact .inl ⟨r, r', directory, file, rfl, rfl, place⟩
    | keys directory' => exact (mixed he' he hs h.symm).elim
  | keys directory =>
    cases s' with
    | code r' directory' file' => exact (mixed he he' hs' h).elim
    | keys directory' =>
      obtain ⟨place, rfl⟩ := place_keys_eq h
      exact .inr ⟨directory, rfl, rfl, place⟩

/-- Within a plan different slots have different places. -/
lemma Config.PlansApart.nodup_places (apart : config.PlansApart here plans)
    (planned : config.Plans here templates plans) (he : e ∈ plans) :
    (e.2.slots.map (Slot.place config.base (config.layoutOf here e.1))).Nodup := by
  obtain ⟨d, made⟩ := planned.made he
  have library : (config.settingsOf here e.1).hooks.bind HookLibrary.ofName? =
      config.hooks.library := by
    change (config.hooks.library.map _).bind _ = _
    cases config.hooks.library with
    | none => rfl
    | some library => exact ofName?_name library
  have slots : e.2.slots.Nodup := by
    refine Plan.nodup_slots (made.map_directory ▸ apart.modules e he) fun part hp =>
      ModulePart.nodup_hookNames fun chosen => apart.hooks ?_ e he part hp
    rw [(made.module_mem hp).1] at chosen
    change ((config.settingsOf here e.1).hooks.bind HookLibrary.ofName?).isNone = false at chosen
    rw [library] at chosen
    rintro none
    simp [none] at chosen
  refine slots.map_on fun s hs s' hs' h => ?_
  rcases apart.same_kind planned he he hs hs' h with ⟨r, r', directory, file, rfl, rfl, place⟩ |
    ⟨directory, rfl, rfl, -⟩
  · have used {r : Root} {file : String} (hs : .code r directory file ∈ e.2.slots) :
        r = .hooks → config.hooks.library.isSome = true := by
      rw [← library]
      exact (made.code_mem config.base hs).2.1
    rw [(apart.roots e he).inj (used hs) (used hs') (List.append_cancel_right place)]
  · rfl

/-- Plans of specifications with different directories have no place in common: what is in one place
has a directory of its specification on its way. -/
lemma Config.PlansApart.disjoint_places (apart : config.PlansApart here plans)
    (planned : config.Plans here templates plans) (he : e ∈ plans) (he' : e' ∈ plans) {n n' : String}
    (ne : n ≠ n') (inner : (config.layoutOf here e.1).inner = [n])
    (inner' : (config.layoutOf here e'.1).inner = [n']) :
    (e.2.slots.map (Slot.place config.base (config.layoutOf here e.1))).Disjoint
      (e'.2.slots.map (Slot.place config.base (config.layoutOf here e'.1))) := by
  intro place mem mem'
  obtain ⟨s, hs, one⟩ := List.mem_map.1 mem
  obtain ⟨s', hs', other⟩ := List.mem_map.1 mem'
  have last {front front' : List String}
      (h : front ++ (config.layoutOf here e.1).inner = front' ++ (config.layoutOf here e'.1).inner) :
      False := by
    rw [inner, inner'] at h
    exact ne (List.singleton_inj.1 (List.append_inj' h rfl).2)
  rcases apart.same_kind planned he he' hs hs' (one.trans other.symm) with ⟨_, _, _, _, -, -, place⟩ |
    ⟨_, -, -, place⟩
  · exact last place
  · exact last place

/-- Every plan ends with the HTTP client, which has one content. -/
lemma Config.Plans.exists_client (planned : config.Plans here templates plans) :
    ∃ client, ∀ e ∈ plans, e.2.files =
      e.2.ownFiles ++ [⟨(config.layoutOf here e.1).httpClientFile, client⟩] := by
  have files {e : EffectiveSpec × Plan} (he : e ∈ plans) :
      ∃ content, (templates .httpClient).render [("banner", .str banner)] = .ok content ∧
        e.2.files = e.2.ownFiles ++ [⟨(config.layoutOf here e.1).httpClientFile, content⟩] := by
    obtain ⟨d, made⟩ := planned.made he
    exact made.files
  cases client : (templates .httpClient).render [("banner", .str banner)] with
  | error err =>
    refine ⟨"", fun e he => ?_⟩
    obtain ⟨content, hc, -⟩ := files he
    rw [client] at hc
    cases hc
  | ok content =>
    refine ⟨content, fun e he => ?_⟩
    obtain ⟨content', hc, files⟩ := files he
    rw [client] at hc
    obtain rfl := Except.ok.inj hc
    exact files

/-- No other file of a plan is in the place of the HTTP client of one. -/
lemma Config.PlansApart.client_notMem (apart : config.PlansApart here plans)
    (planned : config.Plans here templates plans) (he : e ∈ plans) (he' : e' ∈ plans) :
    goal config.base (config.layoutOf here e.1).httpClientFile ∉
      e'.2.slots.map (Slot.place config.base (config.layoutOf here e'.1)) := by
  intro mem
  obtain ⟨s, hs, place⟩ := List.mem_map.1 mem
  rw [Layout.goal_httpClientFile] at place
  obtain ⟨d, made⟩ := planned.made he'
  cases s with
  | code r directory file =>
    exact (made.code_mem config.base hs).1 (List.singleton_inj.1 (List.append_inj' place rfl).2)
  | keys directory => exact (apart.keys e' he' e he).1 (List.append_inj' place rfl).1

/-- No two files that a run plans have one place, except that the HTTP client is planned by every
specification, with one content. -/
theorem planned_places_nodup (read : Config.ofDocument base root = .ok config)
    (planned : config.Plans here templates plans) (apart : config.PlansApart here plans) :
    ((plans.flatMap (·.2.ownFiles)).map fun f => goal base f.path).Nodup ∧
      ∃ client, ∀ e ∈ plans, e.2.files =
          e.2.ownFiles ++ [⟨(config.layoutOf here e.1).httpClientFile, client⟩] ∧
        goal base (config.layoutOf here e.1).httpClientFile ∉
          (plans.flatMap (·.2.ownFiles)).map fun f => goal base f.path := by
  obtain ⟨rfl, named⟩ := of_ofDocument read
  have places : ((plans.flatMap (·.2.ownFiles)).map fun f => goal config.base f.path) =
      plans.flatMap fun e => e.2.slots.map (Slot.place config.base (config.layoutOf here e.1)) := by
    rw [List.map_flatMap]
    exact List.flatMap_congr fun e he => planned.places he
  rw [places]
  constructor
  · refine List.nodup_flatMap.2 ⟨fun e he => apart.nodup_places planned he, ?_⟩
    refine (planned.pairwise named apart.specs).imp_of_mem ?_
    rintro e e' he he' ⟨n, n', ne, inner, inner'⟩
    exact apart.disjoint_places planned he he' ne inner inner'
  · obtain ⟨client, files⟩ := planned.exists_client
    refine ⟨client, fun e he => ⟨files e he, fun mem => ?_⟩⟩
    obtain ⟨e', he', mem⟩ := List.mem_flatMap.1 mem
    exact apart.client_notMem planned he he' mem

end Run

/-! ### Two shops -/

/-- A configuration of two specifications with hooks. -/
def twoShops : Document.Value :=
  .record [("specs", .list [
      .record [("name", .str "Shop"), ("path", .str "shop.yaml")],
      .record [("name", .str "Back office"), ("path", .str "office.yaml")]]),
    ("hooks", .record [("library", .str "swr")])]

/-- The configuration of the two shops. -/
def twoShopsConfig : Config where
  base := "/project"
  specs := [{ name := "Shop", path := "shop.yaml" }, { name := "Back office", path := "office.yaml" }]
  hooks := { library := some .swr }

/-- The pet store has a plan with both modules in every specification with hooks. -/
lemma exists_petStore_plan {settings : PlanSettings} (hooks : settings.hooks = some "swr")
    (selected : settings.selected = []) (ignored : settings.ignored = []) :
    ∃ plan log, outcome (Plan.of petStore settings) [] = (.ok plan, log) ∧
      plan.modules = ["pets", "visits"] ∧
      ∀ part ∈ plan.parts, (part.operations.map (·.hookName)).Nodup := by
  have supported : ∀ name ∈ settings.hooks, HookLibrary.ofName? name ≠ none := by
    rw [hooks]
    rintro name ⟨⟩
    decide +kernel
  have both : (outcome (selectModules ((moduleMap petStore).map Prod.fst) settings.selected
      settings.ignored) []).1 = .ok ["pets", "visits"] := by
    rw [selected, ignored]
    decide +kernel
  have writable : petStore.Writable := by decide +kernel
  obtain ⟨plan, log, run, -, chosen⟩ := exists_planOf writable supported both
  refine ⟨plan, log, run, chosen, fun part hp => ?_⟩
  have made : plan.Made petStore settings builtin := planOf_made.of_ok run
  obtain ⟨m, hm, hpart⟩ := exists_of_forall₂_right made.parts hp
  -- Each module has one operation.
  have single : ∀ m ∈ ["pets", "visits"], (petStore.operationsOf m).length = 1 := by
    decide +kernel
  have one := single m (chosen ▸ hm)
  have operations := congrArg List.length hpart.operations.operations
  rw [List.length_map] at operations
  obtain ⟨o, ho⟩ := List.length_eq_one_iff.1 (operations.trans one)
  rw [ho]
  exact List.nodup_singleton _

/-- Both shops have the modules of the pet store, and none of their files is in the way of another. -/
theorem planned_places_twoShops : ∃ plans,
    Config.ofDocument "/project" twoShops = .ok twoShopsConfig ∧
    twoShopsConfig.Plans "/project" builtin plans ∧ twoShopsConfig.PlansApart "/project" plans ∧
    plans.map (·.1.name) = ["Shop", "Back office"] ∧
    ((plans.flatMap (·.2.ownFiles)).map fun f => goal "/project" f.path).Nodup := by
  have read : Config.ofDocument "/project" twoShops = .ok twoShopsConfig := rfl
  have plan (spec : EffectiveSpec) (h : spec ∈ twoShopsConfig.effectiveSpecs) :
      ∃ plan log, outcome (Plan.of petStore (twoShopsConfig.settingsOf "/project" spec)) [] =
        (.ok plan, log) ∧ plan.modules = ["pets", "visits"] ∧
        ∀ part ∈ plan.parts, (part.operations.map (·.hookName)).Nodup := by
    refine exists_petStore_plan rfl ?_ ?_
    all_goals
      revert spec
      decide
  let shop := twoShopsConfig.complete { name := "Shop", path := "shop.yaml" }
  let office := twoShopsConfig.complete { name := "Back office", path := "office.yaml" }
  obtain ⟨p, log, run, modules, hooks⟩ := plan shop List.mem_cons_self
  obtain ⟨p', log', run', modules', hooks'⟩ := plan office (List.mem_cons_of_mem _ List.mem_cons_self)
  have planned : twoShopsConfig.Plans "/project" builtin [(shop, p), (office, p')] :=
    ⟨.refl _, List.forall_mem_cons.2 ⟨⟨_, _, _, run⟩,
      List.forall_mem_cons.2 ⟨⟨_, _, _, run'⟩, by simp⟩⟩⟩
  have roots : ∀ spec ∈ [shop, office],
      (twoShopsConfig.layoutOf "/project" spec).RootsApart "/project" true := by
    intro spec hspec
    rw [show [shop, office] = twoShopsConfig.effectiveSpecs from rfl] at hspec
    constructor
    · unfold goal
      revert spec
      decide +kernel
    · intro _
      unfold goal
      revert spec
      decide +kernel
  have apart : twoShopsConfig.PlansApart "/project" [(shop, p), (office, p')] := by
    constructor
    · decide +kernel
    · simp only [List.forall_mem_cons, modules, modules']
      decide +kernel
    · exact fun _ => List.forall_mem_cons.2 ⟨hooks, List.forall_mem_cons.2 ⟨hooks', by simp⟩⟩
    · exact List.forall_mem_cons.2 ⟨roots shop (by simp), List.forall_mem_cons.2
        ⟨roots office (by simp), by simp⟩⟩
    · unfold goal
      simp only [List.forall_mem_cons, modules, modules']
      decide +kernel
  exact ⟨_, read, planned, apart, rfl, (planned_places_nodup read planned apart).1⟩

end ClientGen
