import Folio.Proofs.Config.Validation
import Folio.Renderer

/-!
# Which compiler a file gets

Settings name compilers with the extensions of their files. The registry that is made from them
takes the last registration of an extension, so a script goes before Markdown, and of two scripts
with one extension the later would win. The check of settings lets no two scripts list an extension,
so the order of the scripts decides nothing.

Main definitions:
- `Registry.compilerFor`: the compiler of a file
- `CompilersConfig.Assigns`: what settings say about it, with no mention of an order

Main statements:
- `Registry.compile_eq`: a file is converted by its compiler
- `Registry.compilerFor_ofConfig`: the compiler of a file is the one that settings say, in whatever
  order they list the scripts
-/

namespace Folio

variable {R : Type} {language : ScriptLanguage R} {fs fs' : FileSystem} {root : Path}

/-! ## Section 1: The compiler of a file -/

/-- What converts a file. -/
inductive Compiler (R : Type) where
  /-- The text stays as it is. -/
  | passThrough
  | markdown (options : Markdown.Options)
  | script (script : Script R)
deriving DecidableEq

/-- The extension of a file as the registry compares it, if it has one that is text. -/
def Path.key? (file : Path) : Option String := (file.extension?.bind Name.text?).map normalExtension

namespace Registry

/-- The compiler for an extension. -/
def compilerAt (registry : Registry R) (key : String) : Compiler R :=
  match lookup key registry.converters with
  | none => .passThrough
  | some (.markdown options) => .markdown options
  | some (.script index) =>
      match registry.scripts[index]? with
      | none => .passThrough
      | some script => .script script

/-- The compiler of a file. -/
def compilerFor (registry : Registry R) (file : Path) : Compiler R :=
  match file.key? with
  | none => .passThrough
  | some key => registry.compilerAt key

theorem choice_eq (registry : Registry R) (file : Path) :
    registry.choice file = file.key?.bind fun key => lookup key registry.converters := by
  unfold choice Path.key?
  cases file.extension?.bind Name.text? <;> rfl

/-- A file is converted by its compiler. -/
theorem compile_eq (registry : Registry R) (file : Path) (text : String) (site : Site) :
    (registry.compile language file text site).1
      = match registry.compilerFor file with
        | .passThrough => .ok text
        | .markdown options => .ok (Markdown.compile options text)
        | .script script => (script.compile language file text site).1 := by
  unfold compile compilerFor
  rw [choice_eq]
  cases file.key? with
  | none => rfl
  | some key =>
    simp only [Option.bind_some, compilerAt]
    cases lookup key registry.converters with
    | none => rfl
    | some converter =>
      cases converter with
      | markdown => rfl
      | script index =>
        dsimp only
        cases registry.scripts[index]? <;> rfl

/-! ## Section 2: Registrations -/

/-- Registered scripts are there. -/
def IsConsistent (registry : Registry R) : Prop :=
  ∀ key index, lookup key registry.converters = some (.script index) → index < registry.scripts.length

theorem lookup_register (registry : Registry R) (extensions : List String) (converter : Converter)
    (key : String) :
    lookup key (registry.register extensions converter).converters
      = if key ∈ extensions.map normalExtension then some converter
        else lookup key registry.converters := by
  unfold register
  generalize registry.converters = converters
  -- on the extensions, for any that are registered already
  induction extensions generalizing converters with
  | nil => rfl
  | cons extension rest ih =>
    rw [List.foldl_cons, ih, lookup, List.map_cons]
    by_cases listed : key ∈ rest.map normalExtension
    · rw [if_pos listed, if_pos (List.mem_cons_of_mem _ listed)]
    · rw [if_neg listed]
      by_cases same : normalExtension extension = key
      · rw [if_pos same, if_pos (same ▸ List.mem_cons_self)]
      · have unlisted : key ∉ normalExtension extension :: rest.map normalExtension := by
          simp only [List.mem_cons, not_or]
          exact ⟨fun h => same h.symm, listed⟩
        rw [if_neg same, if_neg unlisted]

theorem isConsistent_empty : (empty : Registry R).IsConsistent := nofun

theorem compilerAt_empty (key : String) : (empty : Registry R).compilerAt key = .passThrough := rfl

section

variable {registry : Registry R} {extensions : List String}

theorem IsConsistent.register_markdown (consistent : registry.IsConsistent)
    {options : Markdown.Options} : (registry.register extensions (.markdown options)).IsConsistent := by
  intro key index found
  rw [lookup_register] at found
  split at found
  · cases found
  · exact consistent key index found

theorem compilerAt_register_markdown {options : Markdown.Options} {key : String} :
    (registry.register extensions (.markdown options)).compilerAt key
      = if key ∈ extensions.map normalExtension then .markdown options
        else registry.compilerAt key := by
  unfold compilerAt
  rw [lookup_register]
  by_cases listed : key ∈ extensions.map normalExtension
  · rw [if_pos listed, if_pos listed]
  · rw [if_neg listed, if_neg listed]
    rfl

theorem IsConsistent.registerScript (consistent : registry.IsConsistent) {script : Script R} :
    (registry.registerScript extensions script).IsConsistent := by
  intro key index found
  have grown : (registry.registerScript extensions script).scripts.length
      = registry.scripts.length + 1 := List.length_append
  rw [grown]
  have found : lookup key (registry.register extensions (.script registry.scripts.length)).converters
      = some (.script index) := found
  rw [lookup_register] at found
  split at found
  · -- the script has the place behind all others
    obtain rfl : registry.scripts.length = index := by simpa using found
    exact Nat.lt_succ_self _
  · exact Nat.lt_succ_of_lt (consistent key index found)

theorem compilerAt_registerScript (consistent : registry.IsConsistent) {script : Script R}
    {key : String} :
    (registry.registerScript extensions script).compilerAt key
      = if key ∈ extensions.map normalExtension then .script script
        else registry.compilerAt key := by
  have found := lookup_register registry extensions (.script registry.scripts.length) key
  have scripts : (registry.registerScript extensions script).scripts = registry.scripts ++ [script] :=
    rfl
  have converters : (registry.registerScript extensions script).converters
      = (registry.register extensions (.script registry.scripts.length)).converters := rfl
  unfold compilerAt
  rw [converters, found, scripts]
  by_cases listed : key ∈ extensions.map normalExtension
  · simp [listed]
  · -- what was registered before still means the same
    rw [if_neg listed, if_neg listed]
    cases before : lookup key registry.converters with
    | none => rfl
    | some converter =>
      cases converter with
      | markdown options => rfl
      | script index =>
        have inRange := consistent key index before
        dsimp only
        rw [List.getElem?_append_left inRange]

end

end Registry

/-! ## Section 3: Settings -/

/-- The script that a part of settings names, with its program read. -/
def ScriptConfig.Loads (language : ScriptLanguage R) (fs : FileSystem) (root : Path)
    (entry : ScriptConfig) (script : Script R) : Prop :=
  Script.load language fs entry.name (root.join entry.program) entry.input entry.output = .ok script

/-- What settings say about the compiler of a file. Scripts go before Markdown. -/
inductive CompilersConfig.Assigns (language : ScriptLanguage R) (fs : FileSystem) (root : Path)
    (config : CompilersConfig) (file : Path) : Compiler R → Prop
  /-- One script, and no other, lists the extension of the file. -/
  | script {key : String} {before after : List ScriptConfig} {entry : ScriptConfig}
      {script : Script R} (hasKey : file.key? = some key)
      (listed : config.scripts = before ++ entry :: after) (lists : key ∈ entry.keys)
      (alone : ∀ other ∈ before ++ after, key ∉ other.keys)
      (loads : entry.Loads language fs root script) :
      Assigns language fs root config file (.script script)
  /-- No script lists the extension, but Markdown does. -/
  | markdown {key : String} (hasKey : file.key? = some key)
      (unlisted : ∀ entry ∈ config.scripts, key ∉ entry.keys) (enabled : config.markdown.enable)
      (lists : key ∈ config.markdown.extensions.map normalExtension) :
      Assigns language fs root config file (.markdown config.markdown.options)
  /-- The file has no extension that is text, or nothing lists it. -/
  | passThrough (unlisted : ∀ key, file.key? = some key →
      (∀ entry ∈ config.scripts, key ∉ entry.keys)
        ∧ ¬ (config.markdown.enable ∧ key ∈ config.markdown.extensions.map normalExtension)) :
      Assigns language fs root config file .passThrough

namespace Registry

theorem addScripts_cons_eq_ok_iff {registry registry' : Registry R} {entry : ScriptConfig}
    {rest : List ScriptConfig} :
    addScripts language fs root registry (entry :: rest) = .ok registry'
      ↔ ∃ script, entry.Loads language fs root script
        ∧ addScripts language fs root (registry.registerScript entry.extensions script) rest
          = .ok registry' := by
  unfold ScriptConfig.Loads
  rw [addScripts]
  cases Script.load language fs entry.name (root.join entry.program) entry.input entry.output <;>
    simp

/-- Scripts are added just if each of them can be loaded. -/
theorem exists_addScripts_iff {registry : Registry R} {scripts : List ScriptConfig} :
    (∃ registry', addScripts language fs root registry scripts = .ok registry')
      ↔ ∀ entry ∈ scripts, ∃ script, entry.Loads language fs root script := by
  induction scripts generalizing registry with
  | nil => simp [addScripts]
  | cons entry rest ih =>
    simp only [addScripts_cons_eq_ok_iff, List.forall_mem_cons]
    constructor
    · rintro ⟨registry', script, loads, added⟩
      exact ⟨⟨script, loads⟩, ih.mp ⟨registry', added⟩⟩
    · rintro ⟨⟨script, loads⟩, others⟩
      obtain ⟨registry', added⟩ := ih.mpr others
      exact ⟨registry', script, loads, added⟩

/-- Scripts leave an extension alone that they do not list. -/
theorem compilerAt_addScripts_of_unlisted {registry registry' : Registry R}
    {scripts : List ScriptConfig} {key : String} (consistent : registry.IsConsistent)
    (added : addScripts language fs root registry scripts = .ok registry')
    (unlisted : ∀ entry ∈ scripts, key ∉ entry.keys) :
    registry'.compilerAt key = registry.compilerAt key := by
  induction scripts generalizing registry with
  | nil =>
    obtain rfl := Except.ok.inj added
    rfl
  | cons entry rest ih =>
    obtain ⟨script, -, added⟩ := addScripts_cons_eq_ok_iff.mp added
    obtain ⟨free, others⟩ := List.forall_mem_cons.mp unlisted
    calc registry'.compilerAt key
        = (registry.registerScript entry.extensions script).compilerAt key :=
          ih consistent.registerScript added others
      _ = registry.compilerAt key := by rw [compilerAt_registerScript consistent]; exact if_neg free

/-- An extension belongs to the last script that lists it. -/
theorem compilerAt_addScripts_of_lists {registry registry' : Registry R}
    {before after : List ScriptConfig} {entry : ScriptConfig} {key : String}
    (consistent : registry.IsConsistent)
    (added : addScripts language fs root registry (before ++ entry :: after) = .ok registry')
    (lists : key ∈ entry.keys) (last : ∀ other ∈ after, key ∉ other.keys) :
    ∃ script, entry.Loads language fs root script ∧ registry'.compilerAt key = .script script := by
  induction before generalizing registry with
  | nil =>
    obtain ⟨script, loads, added⟩ := addScripts_cons_eq_ok_iff.mp added
    refine ⟨script, loads, ?_⟩
    rw [compilerAt_addScripts_of_unlisted consistent.registerScript added last,
      compilerAt_registerScript consistent]
    exact if_pos lists
  | cons _ _ ih =>
    obtain ⟨_, -, added⟩ := addScripts_cons_eq_ok_iff.mp added
    exact ih consistent.registerScript added

/-- The compilers that settings name before any script. -/
def base (config : MarkdownConfig) : Registry R :=
  if config.enable then empty.register config.extensions (.markdown config.options) else empty

theorem isConsistent_base (config : MarkdownConfig) : (base config : Registry R).IsConsistent := by
  unfold base
  split
  · exact isConsistent_empty.register_markdown
  · exact isConsistent_empty

theorem compilerAt_base (config : MarkdownConfig) (key : String) :
    (base config : Registry R).compilerAt key
      = if config.enable ∧ key ∈ config.extensions.map normalExtension then .markdown config.options
        else .passThrough := by
  unfold base
  cases config.enable with
  | true => simp [compilerAt_register_markdown, compilerAt_empty]
  | false => simp [compilerAt_empty]

/-- The compiler of a file is the one that settings say, if no extension is listed twice. -/
theorem assigns_compilerFor {config : CompilersConfig} {registry : Registry R}
    (distinct : (config.scripts.flatMap ScriptConfig.keys).Nodup)
    (made : ofConfig language fs root config = .ok registry) (file : Path) :
    config.Assigns language fs root file (registry.compilerFor file) := by
  have consistent : (base config.markdown : Registry R).IsConsistent := isConsistent_base _
  have added : addScripts language fs root (base config.markdown) config.scripts = .ok registry := made
  unfold compilerFor
  cases hasKey : file.key? with
  | none => exact .passThrough fun key h => by simp [hasKey] at h
  | some key =>
    by_cases listed : ∃ entry ∈ config.scripts, key ∈ entry.keys
    · obtain ⟨entry, mem, lists⟩ := listed
      obtain ⟨before, after, split⟩ := List.append_of_mem mem
      rw [split] at distinct added
      have alone := ScriptConfig.not_mem_keys_of_nodup distinct lists
      obtain ⟨script, loads, found⟩ := compilerAt_addScripts_of_lists consistent added lists
        fun other after => alone other (List.mem_append_right _ after)
      dsimp only
      rw [found]
      exact .script hasKey split lists alone loads
    · have unlisted : ∀ entry ∈ config.scripts, key ∉ entry.keys :=
        fun entry mem lists => listed ⟨entry, mem, lists⟩
      dsimp only
      rw [compilerAt_addScripts_of_unlisted consistent added unlisted, compilerAt_base]
      split
      · rename_i markdown
        exact .markdown hasKey unlisted markdown.1 markdown.2
      · rename_i neither
        refine .passThrough fun key' hasKey' => ?_
        obtain rfl : key = key' := Option.some.inj (hasKey.symm.trans hasKey')
        exact ⟨unlisted, neither⟩

end Registry

/-! ## Section 4: What settings say is settled -/

namespace CompilersConfig.Assigns

variable {config config' : CompilersConfig} {file : Path} {c c' : Compiler R}

/-- What settings say does not depend on the order of the scripts. -/
theorem perm (assigns : config.Assigns language fs root file c)
    (scripts : config'.scripts.Perm config.scripts) (markdown : config'.markdown = config.markdown) :
    config'.Assigns language fs root file c := by
  cases assigns with
  | @script key before after entry script hasKey listed lists alone loads =>
    have mem : entry ∈ config'.scripts := scripts.mem_iff.mpr (by simp [listed])
    obtain ⟨before', after', listed'⟩ := List.append_of_mem mem
    -- the other scripts are the same ones
    have others : (before' ++ after').Perm (before ++ after) := by
      rw [listed, listed'] at scripts
      exact (List.perm_middle.symm.trans (scripts.trans List.perm_middle)).cons_inv
    exact .script hasKey listed' lists (fun other mem => alone other (others.mem_iff.mp mem)) loads
  | markdown hasKey unlisted enabled lists =>
    rw [← markdown] at enabled lists ⊢
    exact .markdown hasKey (fun entry mem => unlisted entry (scripts.mem_iff.mp mem)) enabled lists
  | passThrough unlisted =>
    refine .passThrough fun key hasKey => ?_
    obtain ⟨free, neither⟩ := unlisted key hasKey
    rw [markdown]
    exact ⟨fun entry mem => free entry (scripts.mem_iff.mp mem), neither⟩

/-- Settings say one thing of a file. -/
theorem unique (assigns : config.Assigns language fs root file c)
    (assigns' : config.Assigns language fs root file c') : c = c' := by
  cases assigns with
  | @script key before after entry script hasKey listed lists alone loads =>
    have mem : entry ∈ config.scripts := by simp [listed]
    cases assigns' with
    | @script key' before' after' entry' script' hasKey' listed' lists' alone' loads' =>
      obtain rfl : key = key' := Option.some.inj (hasKey.symm.trans hasKey')
      -- the other script that lists the extension is the same one
      have mem' : entry' ∈ entry :: (before ++ after) :=
        List.perm_middle.mem_iff.mp (listed ▸ listed' ▸ by simp)
      obtain rfl : entry' = entry := by
        rcases List.mem_cons.mp mem' with same | elsewhere
        · exact same
        · exact absurd lists' (alone _ elsewhere)
      exact congrArg _ (Except.ok.inj (loads.symm.trans loads'))
    | markdown hasKey' unlisted =>
      obtain rfl := Option.some.inj (hasKey.symm.trans hasKey')
      exact absurd lists (unlisted entry mem)
    | passThrough unlisted => exact absurd lists ((unlisted key hasKey).1 entry mem)
  | @markdown key hasKey unlisted enabled lists =>
    cases assigns' with
    | @script key' _ _ entry _ hasKey' listed lists' =>
      obtain rfl := Option.some.inj (hasKey.symm.trans hasKey')
      exact absurd lists' (unlisted entry (by simp [listed]))
    | markdown => rfl
    | passThrough unlisted => exact absurd ⟨enabled, lists⟩ (unlisted key hasKey).2
  | passThrough unlisted =>
    cases assigns' with
    | @script key _ _ entry _ hasKey listed lists =>
      exact absurd lists ((unlisted key hasKey).1 entry (by simp [listed]))
    | @markdown key hasKey _ enabled lists => exact absurd ⟨enabled, lists⟩ (unlisted key hasKey).2
    | passThrough => rfl

end CompilersConfig.Assigns

namespace Registry

/-- For settings that pass the check and whose compilers can be loaded, the compiler of a file is
the one that settings say. The same scripts in another order pass as well, can be loaded as well, and
give every file the same compiler. -/
theorem compilerFor_ofConfig {config : Config} {registry : Registry R}
    (accepted : config.check fs = .ok ())
    (made : ofConfig language fs' root config.compilers = .ok registry) :
    (∀ file c, registry.compilerFor file = c
        ↔ config.compilers.Assigns language fs' root file c)
      ∧ ∀ scripts : List ScriptConfig, scripts.Perm config.compilers.scripts →
        (config.withScripts scripts).check fs = .ok ()
          ∧ ∃ registry' : Registry R,
            ofConfig language fs' root (config.withScripts scripts).compilers = .ok registry'
              ∧ ∀ file, registry'.compilerFor file = registry.compilerFor file := by
  have distinct : (config.compilers.scripts.flatMap ScriptConfig.keys).Nodup :=
    (ScriptConfig.checkAll_eq_ok_iff.mp (Config.check_eq_ok_iff.mp accepted).2.2.2.2.2).2
  have assigned := assigns_compilerFor distinct made
  refine ⟨fun file c => ⟨?_, fun assigns => (assigned file).unique assigns⟩, fun scripts perm => ?_⟩
  · rintro rfl
    exact assigned file
  · have distinct' : (scripts.flatMap ScriptConfig.keys).Nodup :=
      (perm.flatMap_right _).nodup_iff.mpr distinct
    -- each script can be loaded, wherever it stands
    have loads := exists_addScripts_iff.mp ⟨registry, made⟩
    obtain ⟨registry', made'⟩ := exists_addScripts_iff.mpr
      fun entry mem => loads entry (perm.mem_iff.mp mem)
    refine ⟨Config.check_withScripts accepted perm, registry', made', fun file => ?_⟩
    have assigned' : (config.withScripts scripts).compilers.Assigns language fs' root file
        (registry'.compilerFor file) := assigns_compilerFor distinct' made' file
    exact (assigned'.perm perm.symm rfl).unique (assigned file)

/-- A language whose programs convert every text to their own source. -/
def sourceLanguage : ScriptLanguage String where
  load _ source := some source
  setGlobal _ _ := pure ()
  call := do return some (← get)
  globalText? _ := pure none

/-- A project with two programs. -/
def twoPrograms : FileSystem where
  entries := [([.ofString "w"], .directory), ([.ofString "w", .ofString "p"], .file "first".toByteArray),
    ([.ofString "w", .ofString "q"], .file "second".toByteArray)]
  workingDirectory := [.ofString "w"]

/-- Settings with a script that lists an extension of Markdown, in another spelling. -/
def twoScripts : Config where
  build := { root := .ofString "/w" }
  compilers :=
    { markdown := { extensions := ["md", "txt"] }
      scripts := [{ name := "one", extensions := ["..TXT"], program := .ofString "/w/p" },
        { name := "two", extensions := ["rst"], program := .ofString "/w/q" }] }

/-- The compilers that the settings name. -/
def twoCompilers : Registry String :=
  (ofConfig sourceLanguage twoPrograms (.ofString "/w") twoScripts.compilers).toOption.getD empty

/-- The script takes the extension from Markdown, in both orders of the scripts. -/
theorem compilerFor_ofConfig_twoScripts :
    twoScripts.check twoPrograms = .ok ()
      ∧ twoScripts.compilers.Assigns sourceLanguage twoPrograms (.ofString "/w") (.ofString "a.tXt")
        (.script { name := "one", program := some (.ofString "/w/p"), input := "source",
                   output := "output", runtime := "first" })
      ∧ ∃ registry registry' : Registry String,
        ofConfig sourceLanguage twoPrograms (.ofString "/w") twoScripts.compilers = .ok registry
        ∧ ofConfig sourceLanguage twoPrograms (.ofString "/w")
            (twoScripts.withScripts twoScripts.compilers.scripts.reverse).compilers = .ok registry'
        ∧ ∀ file, registry'.compilerFor file = registry.compilerFor file := by
  have accepted : twoScripts.check twoPrograms = .ok () := by decide +kernel
  have made : ofConfig sourceLanguage twoPrograms (.ofString "/w") twoScripts.compilers
      = .ok twoCompilers := by decide +kernel
  have settled := compilerFor_ofConfig accepted made
  obtain ⟨-, registry', made', same⟩ := settled.2 _ (List.reverse_perm _)
  exact ⟨accepted, (settled.1 _ _).mp (by decide +kernel), _, registry', made, made', same⟩

end Registry

end Folio
