import ClientGen.Run
import ClientGen.Machine.Disk
import Mathlib.Tactic.Common

/-!
# Work that is put together from services

Most work with files takes no notice of a state that goes along with it: it asks the same services of the
machine as without it. What such work comes to follows from what the services do.
-/

namespace ClientGen

open Machine Output Specification

variable {σ ε ε' α β : Type} {changes : Bool}

/-- The services that runs ask of a machine. Unless it `changes` the machine, a service leaves it as it
is. -/
inductive IsService : Bool → {α : Type} → StateM MachineState α → Prop
  | here {changes : Bool} : IsService changes here
  | status {changes : Bool} (path : String) : IsService changes (status path)
  | readBytes {changes : Bool} (path : String) : IsService changes (readBytes path)
  | names {changes : Bool} (path : String) : IsService changes (names path)
  | fetch {changes : Bool} (address : String) : IsService changes (fetch address)
  | time {changes : Bool} : IsService changes time
  | writeBytes (path : String) (bytes : ByteArray) : IsService true (writeBytes path bytes)
  | makeDirectory (path : String) : IsService true (makeDirectory path)
  | execute (command : List String) (directory : String) : IsService true (execute command directory)

/-- The first work does with a state besides what the second does on the machine alone: both are put
together from the same services. -/
inductive Mirrors (changes : Bool) : {ε α : Type} → Work (StateT σ (StateM MachineState)) ε α →
    Work (StateM MachineState) ε α → Prop
  | pure {ε α : Type} (a : α) : Mirrors changes (pure a : Work _ ε α) (pure a)
  | throw {ε α : Type} (e : ε) : Mirrors changes (throw e : Work _ ε α) (throw e)
  | report {ε : Type} (level : Level) (text : String) :
      Mirrors changes (report level text : Work _ ε _) (report level text)
  | service {ε α : Type} {z : StateM MachineState α} :
      IsService changes z → Mirrors changes (asked (liftM z) : Work _ ε α) (asked z)
  | bind {ε α β : Type} {x : Work (StateT σ (StateM MachineState)) ε α}
      {y : Work (StateM MachineState) ε α} {f : α → Work (StateT σ (StateM MachineState)) ε β}
      {g : α → Work (StateM MachineState) ε β} :
      Mirrors changes x y → (∀ a, Mirrors changes (f a) (g a)) → Mirrors changes (x >>= f) (y >>= g)
  | adapt {ε ε' α : Type} {x : Work (StateT σ (StateM MachineState)) ε α}
      {y : Work (StateM MachineState) ε α} (g : ε → ε') :
      Mirrors changes x y → Mirrors changes (x.adapt g) (y.adapt g)
  | attempt {ε ε' α : Type} {x : Work (StateT σ (StateM MachineState)) ε α}
      {y : Work (StateM MachineState) ε α} :
      Mirrors changes x y → Mirrors changes (attempt x : Work _ ε' _) (attempt y)

lemma mirrors_liftM (r : Except ε α) :
    Mirrors changes (liftM r : Work (StateT σ (StateM MachineState)) ε α) (liftM r) := by
  cases r
  · exact .throw _
  · exact .pure _

/-! ### Files -/

namespace Machine

lemma mirrors_tried {z : StateM MachineState (Except FileError α)} (h : IsService changes z) :
    Mirrors changes (tried (liftM z) : Work (StateT σ _) _ _) (tried z) := by
  refine .bind (.service h) fun r => ?_
  cases r
  · exact .throw _
  · exact .pure _

lemma mirrors_isThere (path : String) :
    Mirrors changes (isThere path : Work (StateT σ _) _ _) (isThere path) := by
  refine .bind (.service (.status path)) fun r => ?_
  cases r with
  | error e =>
    dsimp only
    split
    · exact .throw _
    · exact .pure _
  | ok status => exact .pure _

lemma mirrors_isDirectory (path : String) :
    Mirrors changes (isDirectory path : Work (StateT σ _) ε _) (isDirectory path) := by
  refine .bind (.bind (.service (.status path)) fun r => ?_) fun _ => .pure _
  cases r <;> exact .pure _

lemma mirrors_readText (path : String) :
    Mirrors changes (readText path : Work (StateT σ _) _ _) (readText path) := by
  refine .bind (.adapt _ (mirrors_tried (.readBytes path))) fun bytes => ?_
  cases Text.decode bytes
  · exact .throw _
  · exact .pure _

lemma mirrors_resolved (path : String) :
    Mirrors changes (resolved path : Work (StateT σ _) _ _) (resolved path) := by
  have rest : Mirrors changes (do return Path.resolve (← asked here) path : Work (StateT σ _) FileError _)
      (do return Path.resolve (← asked here) path) :=
    .bind (.service .here) fun _ => .pure _
  unfold resolved
  cases FileFault.ofWay? path
  · exact rest
  · exact .bind (.throw _) fun _ => rest

lemma mirrors_writeText (path text : String) :
    Mirrors true (writeText path text : Work (StateT σ _) _ _) (writeText path text) := by
  unfold writeText
  cases Text.encode text
  · exact .bind (.adapt _ (mirrors_tried (.writeBytes path _))) fun _ => .throw _
  · exact .adapt _ (mirrors_tried (.writeBytes path _))

lemma mirrors_makeDirectoriesUpTo (height : Nat) (path : String) :
    Mirrors true (makeDirectoriesUpTo height path : Work (StateT σ _) _ _)
      (makeDirectoriesUpTo height path) := by
  induction height generalizing path with
  | zero => exact .pure _
  | succ height ih =>
    have there (e : FileError) : Mirrors true
        (do if !(← isDirectory path) then throw e : Work (StateT σ _) FileError Unit)
        (do if !(← isDirectory path) then throw e) := by
      refine .bind (mirrors_isDirectory path) fun b => ?_
      cases b
      · exact .throw e
      · exact .pure _
    rw [makeDirectoriesUpTo, makeDirectoriesUpTo]
    refine .bind (.service (.makeDirectory path)) fun r => ?_
    cases r with
    | ok _ => exact .pure _
    | error e =>
      dsimp only
      split
      · split
        on_goal 1 => refine .bind (.throw e) fun _ => ?_
        -- Behind the directories above, the directory is tried again in both cases.
        all_goals
          refine .bind (ih _) fun _ => .bind (.service (.makeDirectory path)) fun r => ?_
          cases r with
          | ok _ => exact .pure _
          | error e =>
            dsimp only
            split
            · exact .bind (.throw e) fun _ => there e
            · exact there e
      · exact there e

lemma mirrors_makeDirectories (path : String) :
    Mirrors true (makeDirectories path : Work (StateT σ _) _ _) (makeDirectories path) :=
  mirrors_makeDirectoriesUpTo _ path

lemma mirrors_copyFile (source target : String) :
    Mirrors true (copyFile source target : Work (StateT σ _) _ _) (copyFile source target) := by
  refine .bind (.bind (mirrors_isDirectory target) fun b => ?_) fun goal => ?_
  · cases b <;> exact .pure _
  · exact .bind (mirrors_tried (.readBytes source)) fun bytes =>
      mirrors_tried (.writeBytes goal bytes)

end Machine

/-! ### Writing -/

namespace Output.Writer

lemma mirrors_loadManifest (root : String) :
    Mirrors changes (loadManifest root : Work (StateT σ _) _ _) (loadManifest root) := by
  refine .bind (.adapt _ (mirrors_isThere _)) fun there => ?_
  cases there
  · exact .pure _
  · refine .bind (.attempt (mirrors_readText _)) fun r => ?_
    rcases r with (e | e | e | e) | text
    · exact .bind (.report _ _) fun _ => .pure _
    · exact .throw _
    · exact .throw _
    · exact .throw _
    · dsimp only
      rcases Manifest.read text with (_ | _) | _
      · exact .bind (.report _ _) fun _ => .pure _
      · exact .throw _
      · exact .pure _

lemma mirrors_open (root : String) (options : WriteOptions) :
    Mirrors changes (open_ root options : Work (StateT σ _) _ _) (open_ root options) :=
  .bind (mirrors_loadManifest root) fun _ => .pure _

lemma mirrors_replace (w : Writer) (target key content : String) :
    Mirrors true (w.replace target key content : Work (StateT σ _) _ _)
      (w.replace target key content) := by
  have rest : Mirrors true (do
      (makeDirectories (Path.parent target)).adapt TextError.file
      writeText target content
      report .debug ("Wrote " ++ key)
      return w.remember key content : Work (StateT σ _) TextError Writer) (do
      (makeDirectories (Path.parent target)).adapt TextError.file
      writeText target content
      report .debug ("Wrote " ++ key)
      return w.remember key content) :=
    .bind (.adapt _ (mirrors_makeDirectories _)) fun _ => .bind (mirrors_writeText _ _) fun _ =>
      .bind (.report _ _) fun _ => .pure _
  refine .bind (.adapt _ (mirrors_isThere _)) fun there => ?_
  split
  · exact .bind (.adapt _ (mirrors_copyFile _ _)) fun _ => rest
  · exact rest

lemma mirrors_write (w : Writer) (path content : String) :
    Mirrors true (w.write path content : Work (StateT σ _) _ _) (w.write path content) := by
  have rest (key : String) : Mirrors true (do
      if w.options.dryRun then
        report .info ("Would write " ++ key)
        return (.written, w)
      return (.written, ← w.replace (Path.below w.root path) key content) :
        Work (StateT σ _) TextError (WriteStatus × Writer)) (do
      if w.options.dryRun then
        report .info ("Would write " ++ key)
        return (.written, w)
      return (.written, ← w.replace (Path.below w.root path) key content)) := by
    split
    · exact .bind (.report _ _) fun _ => .pure _
    · exact .bind (mirrors_replace _ _ _ _) fun _ => .pure _
  refine .bind (.adapt _ (mirrors_resolved _)) fun full => .bind (.service .here) fun here => ?_
  rcases Text.encode content with half | _
  · exact .throw _
  · refine .bind (.adapt _ (mirrors_isThere _)) fun there => ?_
    cases there
    · exact rest _
    · refine .bind (mirrors_readText _) fun existing => ?_
      cases existing == content
      · cases w.isEdited (keyOf here w.root full) existing && !w.options.force
        · exact rest _
        · exact .bind (.report _ _) fun _ => .pure _
      · exact .pure _

lemma mirrors_saveManifest (w : Writer) :
    Mirrors true (w.saveManifest : Work (StateT σ _) _ _) w.saveManifest := by
  unfold saveManifest
  split
  · exact .pure _
  · exact .bind (.adapt _ (mirrors_makeDirectories _)) fun _ => .bind (mirrors_writeText _ _) fun _ =>
      .pure _

end Output.Writer

lemma mirrors_writeFiles : ∀ (files : List GeneratedFile) (w : Writer) (r : SpecResult),
    Mirrors true (writeFiles w r files : Work (StateT σ _) _ _) (writeFiles w r files)
  | [], _, _ => .pure _
  | file :: rest, w, r => by
    rw [writeFiles, writeFiles]
    exact .bind (Writer.mirrors_write _ _ _) fun (status, w) =>
      mirrors_writeFiles rest w (r.note file.path status)

/-! ### Formatting -/

namespace Formatter

lemma mirrors_isMentioned (f : Formatter) (root : String) :
    Mirrors changes (f.isMentioned root : Work (StateT σ _) _ _) (f.isMentioned root) := by
  refine .bind (.adapt _ (mirrors_isThere _)) fun there => ?_
  cases there
  · exact .pure _
  · refine .bind (.attempt (mirrors_readText _)) fun r => ?_
    rcases r with (e | e | e | e) | text
    · exact .bind (.report _ _) fun _ => .pure _
    · exact .throw _
    · exact .throw _
    · exact .throw _
    · exact .pure _

lemma mirrors_holdsNameWith (root head : String) :
    Mirrors changes (holdsNameWith root head : Work (StateT σ _) _ _) (holdsNameWith root head) := by
  refine .bind (.service (.names root)) fun r => ?_
  cases r <;> exact .pure _

lemma mirrors_detect (root : String) :
    Mirrors changes (detect root : Work (StateT σ _) _ _) (detect root) := by
  refine .bind (mirrors_isMentioned _ _) fun mentioned => ?_
  cases mentioned
  case true => exact .pure _
  refine .bind (mirrors_holdsNameWith _ _) fun held => ?_
  cases held
  case true => exact .pure _
  refine .bind (.adapt _ (mirrors_isThere _)) fun there => ?_
  cases there
  case true => exact .pure _
  refine .bind (.adapt _ (mirrors_isThere _)) fun there => ?_
  cases there <;> exact .pure _

lemma mirrors_format (f : Formatter) (paths : List String) (directory : String) :
    Mirrors true (f.format paths directory : Work (StateT σ _) ε _) (f.format paths directory) := by
  unfold format
  split
  · exact .pure _
  · refine .bind (.service (.execute _ _)) fun r => ?_
    cases r with
    | error e => exact .bind (.report _ _) fun _ => .pure _
    | ok finished =>
      dsimp only
      split <;> exact .bind (.report _ _) fun _ => .pure _

end Formatter

lemma mirrors_formatWritten (config : Config) (written : List String) :
    Mirrors true (formatWritten config written : Work (StateT σ _) _ _) (formatWritten config written) := by
  have choice : Mirrors true (Formatter.ofChoice config.formatter config.base : Work (StateT σ _) _ _)
      (Formatter.ofChoice config.formatter config.base) := by
    cases config.formatter
    case auto => exact Formatter.mirrors_detect _
    all_goals exact .pure _
  refine .bind choice fun formatter => ?_
  cases formatter
  · exact .pure _
  · exact .bind (Formatter.mirrors_format _ _ _) fun _ => .pure _

/-! ### Loading -/

namespace Specification

namespace AddressCache

lemma mirrors_checked (address : String) :
    Mirrors changes (checked address : Work (StateT σ _) _ _) (checked address) := by
  unfold checked
  cases Text.encode address
  · exact .throw _
  · exact .pure _

lemma mirrors_areThere (first second : String) :
    Mirrors changes (areThere first second : Work (StateT σ _) _ _) (areThere first second) := by
  refine .bind (mirrors_isThere first) fun there => ?_
  cases there
  · exact .pure _
  · exact mirrors_isThere second

lemma mirrors_known? (c : AddressCache) (address : String) :
    Mirrors changes (c.known? address : Work (StateT σ _) _ _) (c.known? address) := by
  have ignored : Mirrors changes (do
      report .debug ("Ignoring unreadable cache metadata for " ++ address)
      return none : Work (StateT σ _) Failure (Option Document.Value)) (do
      report .debug ("Ignoring unreadable cache metadata for " ++ address)
      return none) :=
    .bind (.report _ _) fun _ => .pure _
  refine .bind (.attempt (mirrors_readText _)) fun r => ?_
  rcases r with (e | e | e | e) | text
  · exact ignored
  · exact .throw _
  · exact .throw _
  · exact .throw _
  · dsimp only
    rcases Json.read text with (_ | _) | v
    · exact ignored
    · exact .throw _
    · dsimp only
      split
      · exact .pure _
      · exact .throw _

lemma mirrors_get? (c : AddressCache) (address : String) :
    Mirrors changes (c.get? address : Work (StateT σ _) _ _) (c.get? address) := by
  refine .bind (.adapt _ (mirrors_checked _)) fun _ =>
    .bind (.adapt _ (mirrors_areThere _ _)) fun there => ?_
  cases there
  · exact .pure _
  refine .bind (mirrors_known? c address) fun known => ?_
  cases known with
  | none => exact .pure _
  | some known =>
    dsimp only
    cases names known address
    · exact .pure _
    · refine .bind (.adapt _ (mirrors_readText _)) fun text => ?_
      cases fits known text
      · exact .bind (.report _ _) fun _ => .pure _
      · exact .pure _

lemma mirrors_put (c : AddressCache) (address text : String) :
    Mirrors true (c.put address text : Work (StateT σ _) _ _) (c.put address text) :=
  .bind (mirrors_checked _) fun _ => .bind (.adapt _ (mirrors_makeDirectories _)) fun _ =>
    .bind (mirrors_writeText _ _) fun _ => .bind (.service .time) fun _ => mirrors_writeText _ _

end AddressCache

lemma mirrors_fetchText (address : String) :
    Mirrors changes (fetchText address : Work (StateT σ _) _ _) (fetchText address) := by
  refine .bind (.service (.fetch address)) fun r => ?_
  cases r with
  | error cause => exact .throw _
  | ok r =>
    dsimp only
    cases refusal? address r
    · exact .pure _
    · exact .throw _

lemma mirrors_loadAddress (cache : Option AddressCache) (address : String) :
    Mirrors true (loadAddress cache address : Work (StateT σ _) _ _) (loadAddress cache address) := by
  have known (text : String) : Mirrors true (do
      report .debug ("Using cached spec for " ++ address)
      liftM (ofText text address false) :
        Work (StateT σ (StateM MachineState)) Failure Document.Value) (do
      report .debug ("Using cached spec for " ++ address)
      liftM (ofText text address false)) :=
    .bind (.report _ _) fun _ => mirrors_liftM _
  unfold loadAddress
  cases cache with
  | none =>
    refine .bind (.pure none) fun kept => ?_
    cases kept with
    | some text => exact known text
    | none =>
      exact .bind (.report _ _) fun _ => .bind (.adapt _ (mirrors_fetchText _)) fun text =>
        .bind (mirrors_liftM _) fun document => .pure _
  | some c =>
    refine .bind (AddressCache.mirrors_get? c address) fun kept => ?_
    cases kept with
    | some text => exact known text
    | none =>
      exact .bind (.report _ _) fun _ => .bind (.adapt _ (mirrors_fetchText _)) fun text =>
        .bind (mirrors_liftM _) fun document =>
          .bind (.adapt _ (AddressCache.mirrors_put c address text)) fun _ => .pure _

lemma mirrors_readDocument (path full : String) :
    Mirrors changes (FileCache.readDocument path full : Work (StateT σ _) _ _)
      (FileCache.readDocument path full) :=
  .bind (.adapt _ (mirrors_tried (.readBytes full))) fun _ => .bind (mirrors_liftM _) fun _ =>
    mirrors_liftM _

lemma mirrors_get (c : FileCache) (path : String) :
    Mirrors changes (c.get path : Work (StateT σ _) _ _) (c.get path) := by
  refine .bind (.adapt _ (mirrors_resolved _)) fun full =>
    .bind (.adapt _ (mirrors_tried (.status full))) fun status => ?_
  dsimp only
  cases c.lookup? ⟨full, status⟩
  · exact .bind (mirrors_readDocument _ _) fun _ => .bind (mirrors_liftM _) fun _ => .pure _
  · exact .pure _

lemma mirrors_invalidate (c : FileCache) (path : Option String) :
    Mirrors changes (c.invalidate path : Work (StateT σ _) _ _) (c.invalidate path) := by
  cases path with
  | none => exact .pure _
  | some path => exact .bind (.adapt _ (mirrors_resolved _)) fun _ => .pure _

end Specification

end ClientGen
