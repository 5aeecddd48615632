import Folio.Proofs.Compiler.Binding
import Folio.Proofs.Compiler.Registry

/-!
# Programs that are read again

A registry can read the programs of its scripts again, one after the other up to the first that
fails. If none fails, it is afterwards the registry that the settings would give now: neither
conversions nor earlier readings leave a trace. If one fails, those before it have been read again
nevertheless, and only what is converted by other compilers is converted as if nothing had happened.

Every script has a runtime of its own, so what it gives depends on the conversions by this script
alone.

Main definitions:
- `Registry.convert`: conversions one after the other
- `Registry.Used`: what may have become of a registry that has been made from settings

Main statements:
- `Registry.ofConfig_eq_of_outline`: reading again is making anew
- `Registry.getElem?_convert_of_script`: what a script gives in the course of conversions
- `Registry.rebuilt_of_reloadScripts`: what comes after programs have been read again
- `Registry.convert_of_failed_reload`: what comes after a program could not be read again
-/

namespace Folio

variable {R : Type} {language : ScriptLanguage R} {fs : FileSystem} {root : Path}

/-! ## Section 1: Reading again is making anew -/

/-- A script that settings name is read again as it is loaded. -/
theorem Script.reload_eq_load {script : Script R} {entry : ScriptConfig}
    (same : script.outline = entry.outline root) :
    script.reload language fs
      = Script.load language fs entry.name (root.join entry.program) entry.input entry.output := by
  obtain ⟨name, program, input, output, runtime⟩ := script
  obtain ⟨rfl, rfl, rfl, rfl⟩ : entry.name = name ∧ some (root.join entry.program) = program
      ∧ entry.input = input ∧ entry.output = output := by
    simpa [Script.outline, ScriptConfig.outline, eq_comm] using same
  rfl

namespace Registry

/-- Registries are told apart by what their scripts are and by what the settings say. -/
theorem eq_of_outline {registry registry' : Registry R}
    (outline : registry.outline = registry'.outline)
    (scripts : registry.scripts = registry'.scripts) : registry = registry' := by
  obtain ⟨converters, scripts₁⟩ := registry
  obtain ⟨converters', scripts₂⟩ := registry'
  obtain rfl : converters = converters' := congrArg Registry.converters outline
  obtain rfl : scripts₁ = scripts₂ := scripts
  rfl

theorem scripts_outlineScripts (registry : Registry Unit) (entries : List ScriptConfig) :
    (outlineScripts root registry entries).scripts
      = registry.scripts ++ entries.map (ScriptConfig.outline root) := by
  induction entries generalizing registry with
  | nil => simp [outlineScripts]
  | cons entry rest ih =>
    have registered : (registry.registerScript entry.extensions (entry.outline root)).scripts
        = registry.scripts ++ [entry.outline root] := rfl
    have more := ih (registry.registerScript entry.extensions (entry.outline root))
    rw [registered, List.append_assoc] at more
    exact more

/-- The scripts of settings, in their order. -/
theorem scripts_outline (config : CompilersConfig) :
    (config.outline root).scripts = config.scripts.map (ScriptConfig.outline root) := by
  unfold CompilersConfig.outline
  rw [scripts_outlineScripts]
  split <;> rfl

/-- Adding the scripts of settings gives the scripts that come of reading their programs again, or
fails as that does. -/
theorem addScripts_eq_reloadAll (language : ScriptLanguage R) (fs : FileSystem)
    {entries : List ScriptConfig} {scripts : List (Script R)} (registry : Registry R)
    (same : scripts.map Script.outline = entries.map (ScriptConfig.outline root)) :
    (addScripts language fs root registry entries).map Registry.scripts
      = (reloadAll language fs scripts).1.map
          fun _ => registry.scripts ++ (reloadAll language fs scripts).2 := by
  -- on the settings and the scripts together, which are in the same order
  induction entries generalizing scripts registry with
  | nil =>
    obtain rfl := List.map_eq_nil_iff.mp same
    simp [addScripts, reloadAll, Except.map]
  | cons entry rest ih =>
    obtain ⟨script, others, rfl, first, later⟩ := List.map_eq_cons_iff.mp same
    rw [addScripts, reloadAll, ← Script.reload_eq_load first]
    cases script.reload language fs with
    | error e => rfl
    | ok read =>
      have registered : (registry.registerScript entry.extensions read).scripts
          = registry.scripts ++ [read] := rfl
      dsimp only
      rw [ih _ later, registered]
      simp

/-- A registry that is what settings say, apart from its runtimes: to read its programs again is to
make it anew. -/
theorem ofConfig_eq_of_outline (language : ScriptLanguage R) (fs : FileSystem)
    {config : CompilersConfig} {registry : Registry R}
    (outline : registry.outline = config.outline root) :
    ofConfig language fs root config
      = (registry.reloadScripts language fs).1.map
          fun _ => (registry.reloadScripts language fs).2 := by
  have same : registry.scripts.map Script.outline
      = config.scripts.map (ScriptConfig.outline root) :=
    (congrArg Registry.scripts outline).trans (scripts_outline config)
  have scripts := addScripts_eq_reloadAll language fs (base config.markdown) same
  have none : (base config.markdown : Registry R).scripts = [] := by
    unfold base
    split <;> rfl
  rw [none, List.nil_append] at scripts
  have kept := registry.outline_reloadScripts language fs
  unfold reloadScripts at kept ⊢
  cases reading : reloadAll language fs registry.scripts with
  | mk result read =>
    rw [reading] at scripts kept
    cases made : ofConfig language fs root config with
    | error e =>
      have made' : addScripts language fs root (base config.markdown) config.scripts = .error e :=
        made
      rw [made'] at scripts
      cases result with
      | error e' => exact congrArg Except.error (Except.error.inj scripts)
      | ok done => cases scripts
    | ok fresh =>
      have made' : addScripts language fs root (base config.markdown) config.scripts = .ok fresh :=
        made
      rw [made'] at scripts
      cases result with
      | error e' => cases scripts
      | ok done =>
        -- what has been made is what settings say as well
        refine congrArg Except.ok (eq_of_outline ?_ (Except.ok.inj scripts))
        exact (outline_of_ofConfig made).trans (outline.symm.trans kept.symm)

/-! ## Section 2: What becomes of a registry -/

/-- What a registry may have become that has been made from settings: it has converted texts, and
has read its programs again, on whatever files there were then and whether or not that succeeded. -/
inductive Used (language : ScriptLanguage R) (root : Path) (config : CompilersConfig) :
    Registry R → Prop
  | made {fs : FileSystem} {registry : Registry R}
      (made : ofConfig language fs root config = .ok registry) : Used language root config registry
  | converted {registry : Registry R} (before : Used language root config registry)
      (c : Conversion) :
      Used language root config (registry.compile language c.path c.text c.site).2
  | reloaded {registry : Registry R} (before : Used language root config registry)
      (fs : FileSystem) : Used language root config (registry.reloadScripts language fs).2

/-- A registry stays what settings say, apart from its runtimes. -/
theorem Used.outline {config : CompilersConfig} {registry : Registry R}
    (used : registry.Used language root config) : registry.outline = config.outline root := by
  induction used with
  | made made => exact outline_of_ofConfig made
  | converted before c ih => exact (outline_compile _ c.path c.text c.site).trans ih
  | reloaded before fs ih => exact (outline_reloadScripts _ language fs).trans ih

/-- The results of conversions one after the other, and the registry after them. -/
def convert (language : ScriptLanguage R) (registry : Registry R) :
    List Conversion → List (Except CompileError String) × Registry R
  | [] => ([], registry)
  | c :: rest =>
      let (result, registry) := registry.compile language c.path c.text c.site
      let (results, registry) := convert language registry rest
      (result :: results, registry)

/-- A registry that has been made from settings and has come a long way reads its programs again just
if the settings can be made into a registry now, and then it is that one; so it converts from then on
as that one does. If it fails, so does making a registry, and for the same reason. -/
theorem rebuilt_of_reloadScripts {config : CompilersConfig} {registry : Registry R}
    (used : registry.Used language root config) (fs : FileSystem) :
    (∀ reloaded, registry.reloadScripts language fs = (.ok (), reloaded) →
        ∃ fresh, ofConfig language fs root config = .ok fresh
          ∧ ∀ conversions,
            (reloaded.convert language conversions).1 = (fresh.convert language conversions).1)
      ∧ (∀ fresh, ofConfig language fs root config = .ok fresh →
        registry.reloadScripts language fs = (.ok (), fresh))
      ∧ ∀ e, ofConfig language fs root config = .error e
          ↔ (registry.reloadScripts language fs).1 = .error e := by
  have same := ofConfig_eq_of_outline language fs used.outline
  cases reading : registry.reloadScripts language fs with
  | mk result reloaded =>
    rw [reading] at same
    rw [same]
    cases result with
    | error e => simp [Except.map]
    | ok done => simp [Except.map]

/-- A language whose programs convert every text to their own source, with a mark for each earlier
run. -/
def markingLanguage : ScriptLanguage String where
  load _ source := some source
  setGlobal _ _ := pure ()
  call := do
    let source ← get
    set (source ++ "+")
    return some source
  globalText? _ := pure none

/-- The two programs as text files, of which the first has changed. -/
def changedProgram : FileSystem :=
  twoPrograms.set [.ofString "w", .ofString "p"] (.file "changed".toByteArray)

/-- The compilers of the settings after a conversion. -/
def usedCompilers : Registry String :=
  (twoCompilers.compile markingLanguage (.ofString "a.txt") "" {}).2

/-- The marks of earlier runs go with the programs, also that of the program that has not changed. -/
theorem rebuilt_of_reloadScripts_usedCompilers :
    usedCompilers.Used markingLanguage (.ofString "/w") twoScripts.compilers
      ∧ (usedCompilers.convert markingLanguage [⟨.ofString "a.txt", "", {}⟩]).1 = [.ok "first+"]
      ∧ ∃ reloaded fresh, usedCompilers.reloadScripts markingLanguage changedProgram = (.ok (), reloaded)
        ∧ ofConfig markingLanguage changedProgram (.ofString "/w") twoScripts.compilers = .ok fresh
        ∧ ∀ conversions, (reloaded.convert markingLanguage conversions).1
          = (fresh.convert markingLanguage conversions).1 := by
  have made : ofConfig markingLanguage twoPrograms (.ofString "/w") twoScripts.compilers
      = .ok twoCompilers := by decide +kernel
  have used : usedCompilers.Used markingLanguage (.ofString "/w") twoScripts.compilers :=
    .converted (.made made) ⟨.ofString "a.txt", "", {}⟩
  have read : usedCompilers.reloadScripts markingLanguage changedProgram
      = (.ok (), (usedCompilers.reloadScripts markingLanguage changedProgram).2) :=
    Prod.ext (by decide +kernel) rfl
  obtain ⟨fresh, made', same⟩ := (rebuilt_of_reloadScripts used changedProgram).1 _ read
  exact ⟨used, by decide +kernel, _, fresh, read, made', same⟩

/-! ## Section 3: One script among others -/

/-- The conversions of a script, by its number. -/
def conversionsOf (registry : Registry R) (index : Nat) (conversions : List Conversion) :
    List Conversion :=
  conversions.filter fun c => registry.choice c.path = some (.script index)

theorem converters_compile (registry : Registry R) (c : Conversion) :
    (registry.compile language c.path c.text c.site).2.converters = registry.converters := by
  have outline : (registry.compile language c.path c.text c.site).2.outline = registry.outline :=
    registry.outline_compile c.path c.text c.site
  have converters := congrArg Registry.converters outline
  exact converters

/-- Which compiler a file gets is a matter of registrations alone. -/
theorem choice_congr {registry registry' : Registry R}
    (same : registry'.converters = registry.converters) (file : Path) :
    registry'.choice file = registry.choice file := by
  unfold choice
  rw [same]

/-- A conversion goes on with a script just if it is one of its own. -/
theorem getElem?_scripts_compile (registry : Registry R) (c : Conversion) (index : Nat) :
    (registry.compile language c.path c.text c.site).2.scripts[index]?
      = (registry.scripts[index]?).map fun script =>
          script.after language (registry.conversionsOf index [c]) := by
  unfold compile conversionsOf
  cases choice : registry.choice c.path with
  | none => simp [choice, Script.after]
  | some converter =>
    cases converter with
    | markdown options => simp [choice, Script.after]
    | script other =>
      by_cases own : other = index
      · subst own
        cases found : registry.scripts[other]? with
        | none => simp [found]
        | some script =>
          obtain ⟨inRange, rfl⟩ := List.getElem?_eq_some_iff.mp found
          simp [choice, Script.after, inRange]
      · dsimp only
        cases found : registry.scripts[other]? with
        | none => simp [choice, own, Script.after]
        | some script => simp [choice, own, Script.after]

/-- What conversions leave of a script: it has converted its own ones. -/
theorem getElem?_scripts_convert (language : ScriptLanguage R) (registry : Registry R)
    (conversions : List Conversion) (index : Nat) :
    (registry.convert language conversions).2.scripts[index]?
      = (registry.scripts[index]?).map fun script =>
          script.after language (registry.conversionsOf index conversions) := by
  induction conversions generalizing registry with
  | nil => simp [convert, conversionsOf, Script.after]
  | cons c rest ih =>
    have own : (registry.compile language c.path c.text c.site).2.conversionsOf index rest
        = registry.conversionsOf index rest := by
      unfold conversionsOf
      simp only [choice_congr (registry.converters_compile c)]
    have split : registry.conversionsOf index (c :: rest)
        = registry.conversionsOf index [c] ++ registry.conversionsOf index rest :=
      List.filter_append [c] rest
    show (convert language (registry.compile language c.path c.text c.site).2 rest).2.scripts[index]?
      = _
    rw [ih, getElem?_scripts_compile, own, split, Option.map_map]
    simp [Function.comp_def, Script.after, List.foldl_append]

theorem converters_convert (registry : Registry R) (conversions : List Conversion) :
    (registry.convert language conversions).2.converters = registry.converters := by
  induction conversions generalizing registry with
  | nil => rfl
  | cons c rest ih => exact (ih _).trans (registry.converters_compile c)

/-- Every conversion goes on with what those before it have left. -/
theorem getElem?_convert (registry : Registry R) (conversions : List Conversion) (position : Nat) :
    (registry.convert language conversions).1[position]?
      = (conversions[position]?).map fun c =>
          ((registry.convert language (conversions.take position)).2.compile language c.path c.text
            c.site).1 := by
  induction conversions generalizing registry position with
  | nil => simp [convert]
  | cons c rest ih =>
    cases position with
    | zero => simp [convert]
    | succ position => exact ih (registry.compile language c.path c.text c.site).2 position

section

variable {registry registry' : Registry R} {conversions : List Conversion} {c : Conversion}
  {index position : Nat}

/-- A script gives what it gives after its own earlier conversions. -/
theorem getElem?_convert_of_script (language : ScriptLanguage R) {script : Script R}
    (at_position : conversions[position]? = some c)
    (chosen : registry.choice c.path = some (.script index))
    (found : registry.scripts[index]? = some script) :
    (registry.convert language conversions).1[position]?
      = some ((script.after language
          (registry.conversionsOf index (conversions.take position))).compile language c.path c.text
            c.site).1 := by
  have scripts := registry.getElem?_scripts_convert language (conversions.take position) index
  rw [found] at scripts
  rw [getElem?_convert, at_position, Option.map_some]
  unfold compile
  rw [choice_congr (registry.converters_convert _), chosen]
  dsimp only
  rw [scripts]
  rfl

/-- A conversion gives the same with two registries in which its script is the same, whatever the
others are. -/
theorem getElem?_convert_congr (at_position : conversions[position]? = some c)
    (converters : registry'.converters = registry.converters)
    (own : ∀ index, registry.choice c.path = some (.script index) →
      registry'.scripts[index]? = registry.scripts[index]?) :
    (registry'.convert language conversions).1[position]?
      = (registry.convert language conversions).1[position]? := by
  have choice : ∀ file, registry'.choice file = registry.choice file := choice_congr converters
  rw [getElem?_convert, getElem?_convert, at_position, Option.map_some, Option.map_some]
  unfold compile
  rw [choice_congr (registry'.converters_convert _), choice_congr (registry.converters_convert _),
    choice]
  cases chosen : registry.choice c.path with
  | none => rfl
  | some converter =>
    cases converter with
    | markdown options => rfl
    | script index =>
      have conversionsOf : registry'.conversionsOf index (conversions.take position)
          = registry.conversionsOf index (conversions.take position) := by
        unfold Registry.conversionsOf
        simp only [choice]
      dsimp only
      rw [getElem?_scripts_convert, getElem?_scripts_convert, own index chosen, conversionsOf]
      cases registry.scripts[index]? <;> rfl

end

/-! ## Section 4: A program that cannot be read again -/

/-- Scripts before and after their programs were read again as far as the first that failed: those
before it have their new programs, and it and those after it are as they were. -/
structure FailsAt (language : ScriptLanguage R) (fs : FileSystem)
    (scripts scripts' : List (Script R)) (e : CompileError) (count : Nat) : Prop where
  fails : ∃ script, scripts[count]? = some script ∧ script.reload language fs = .error e
  before : ∀ index < count, ∃ script again, scripts[index]? = some script
    ∧ script.reload language fs = .ok again ∧ scripts'[index]? = some again
  others : ∀ index, count ≤ index → scripts'[index]? = scripts[index]?

theorem exists_failsAt_of_reloadAll {scripts scripts' : List (Script R)} {e : CompileError}
    (failed : reloadAll language fs scripts = (.error e, scripts')) :
    ∃ count, FailsAt language fs scripts scripts' e count := by
  induction scripts generalizing scripts' with
  | nil => simp [reloadAll] at failed
  | cons script rest ih =>
    rw [reloadAll] at failed
    cases read : script.reload language fs with
    | error cause =>
      rw [read] at failed
      obtain ⟨rfl, rfl⟩ : cause = e ∧ script :: rest = scripts' := by simpa using failed
      exact ⟨0, ⟨script, rfl, read⟩, nofun, fun _ _ => rfl⟩
    | ok again =>
      cases reading : reloadAll language fs rest with
      | mk result rest' =>
        rw [read] at failed
        dsimp only at failed
        rw [reading] at failed
        obtain ⟨rfl, rfl⟩ : result = .error e ∧ again :: rest' = scripts' := by simpa using failed
        obtain ⟨count, fails, before, others⟩ := ih reading
        -- the script in front has its new program, and the others are one further on
        refine ⟨count + 1, fails, fun index less => ?_, fun index least => ?_⟩
        · cases index with
          | zero => exact ⟨script, again, rfl, read, rfl⟩
          | succ index => exact before index (Nat.lt_of_succ_lt_succ less)
        · cases index with
          | zero => exact absurd least (Nat.not_succ_le_zero count)
          | succ index => exact others index (Nat.le_of_succ_le_succ least)

/-- If a program cannot be read again, the scripts in front of it have their new programs all the
same. A conversion by one of these gives what the script gives that has just been read, after no
conversions but its own later ones. A conversion by anything else gives what it would have given, and
so does one by a script without a file; so nothing changes if the first script fails. -/
theorem convert_of_failed_reload {registry reloaded : Registry R} {e : CompileError}
    (failed : registry.reloadScripts language fs = (.error e, reloaded)) :
    ∃ count, FailsAt language fs registry.scripts reloaded.scripts e count
      ∧ ∀ conversions position c, conversions[position]? = some c →
        (∀ index < count, registry.choice c.path = some (.script index) →
          ∃ script again, registry.scripts[index]? = some script
            ∧ script.reload language fs = .ok again
            ∧ (reloaded.convert language conversions).1[position]?
              = some ((again.after language
                  (registry.conversionsOf index (conversions.take position))).compile language c.path
                    c.text c.site).1)
        ∧ ((∀ index < count, registry.choice c.path = some (.script index) →
              ∀ script, registry.scripts[index]? = some script → script.program = none) →
          (reloaded.convert language conversions).1[position]?
            = (registry.convert language conversions).1[position]?) := by
  have converters : reloaded.converters = registry.converters :=
    (congrArg (fun outcome => outcome.2.converters) failed).symm
  have reading : reloadAll language fs registry.scripts = (.error e, reloaded.scripts) :=
    congrArg (fun outcome => (outcome.1, outcome.2.scripts)) failed
  have choice : ∀ file, reloaded.choice file = registry.choice file := choice_congr converters
  obtain ⟨count, failsAt⟩ := exists_failsAt_of_reloadAll reading
  refine ⟨count, failsAt, fun conversions position c at_position => ⟨?_, fun fileless => ?_⟩⟩
  · intro index less chosen
    obtain ⟨script, again, found, read, found'⟩ := failsAt.before index less
    have gives := getElem?_convert_of_script language at_position
      ((choice c.path).trans chosen) found'
    unfold conversionsOf at gives ⊢
    simp only [choice] at gives
    exact ⟨script, again, found, read, gives⟩
  · refine getElem?_convert_congr at_position converters fun index chosen => ?_
    rcases Nat.lt_or_ge index count with less | least
    · obtain ⟨script, again, found, read, found'⟩ := failsAt.before index less
      -- to read a program again that has no file leaves the script alone
      have kept : script.reload language fs = .ok script := by
        unfold Script.reload
        rw [fileless index less chosen script found]
      rw [found, found', Except.ok.inj (read.symm.trans kept)]
    · exact failsAt.others index least

/-- The project after its first program was changed and its second one was lost. -/
def lostProgram : FileSystem := changedProgram.prune [.ofString "w", .ofString "q"]

/-- The first script goes on with its new program although the second one fails, which keeps its
old one. -/
theorem convert_of_failed_reload_lostProgram :
    ∃ e reloaded, twoCompilers.reloadScripts sourceLanguage lostProgram = (.error e, reloaded)
      ∧ (twoCompilers.convert sourceLanguage [⟨.ofString "a.txt", "", {}⟩]).1 = [.ok "first"]
      ∧ (reloaded.convert sourceLanguage [⟨.ofString "a.txt", "", {}⟩]).1[0]? = some (.ok "changed")
      ∧ (reloaded.convert sourceLanguage [⟨.ofString "b.rst", "", {}⟩]).1[0]? = some (.ok "second") := by
  have failed : twoCompilers.reloadScripts sourceLanguage lostProgram
      = (.error (.unreadable (.ofString "/w/q") .notFound),
          (twoCompilers.reloadScripts sourceLanguage lostProgram).2) :=
    Prod.ext (by decide +kernel) rfl
  obtain ⟨count, failsAt, settled⟩ := convert_of_failed_reload failed
  have reads : (twoCompilers.scripts[0]?).map (Script.reload sourceLanguage lostProgram)
      = some (.ok { name := "one", program := some (.ofString "/w/p"), input := "source",
                    output := "output", runtime := "changed" }) := by decide +kernel
  have lost : (twoCompilers.scripts[1]?).map (Script.reload sourceLanguage lostProgram)
      = some (.error (.unreadable (.ofString "/w/q") .notFound)) := by decide +kernel
  have after : 0 < count := Nat.pos_of_ne_zero fun first =>
    absurd (failsAt.others 0 (Nat.le_of_eq first)) (by decide +kernel)
  have kept := (settled [⟨.ofString "b.rst", "", {}⟩] 0 _ rfl).2 fun index less chosen => by
    -- the script of this file is the one that fails, which no script does that has been read
    obtain rfl : 1 = index := by
      have choice : twoCompilers.choice (.ofString "b.rst") = some (.script 1) := by decide +kernel
      simpa [choice] using chosen
    obtain ⟨script, again, found, read, -⟩ := failsAt.before 1 less
    rw [found, Option.map_some, read] at lost
    cases lost
  obtain ⟨script, again, found, read, gives⟩ := (settled [⟨.ofString "a.txt", "", {}⟩] 0 _ rfl).1 0
    after (by decide +kernel)
  rw [found, Option.map_some, read] at reads
  obtain rfl := Except.ok.inj (Option.some.inj reads)
  exact ⟨_, _, failed, by decide +kernel, gives, kept.trans (by decide +kernel)⟩

end Registry

end Folio
