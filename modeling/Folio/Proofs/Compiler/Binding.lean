import Folio.Proofs.Config.Validation
import Folio.Proofs.Lua.Globals
import Folio.Proofs.Renderer.Outline

/-!
# What a program finds in its globals

Before every run of its program a script binds the text, the path and the site variables, and clears
the output global. These are four assignments to one table, which earlier runs have filled with
whatever they liked; two of them go to names that settings give.

The check of settings keeps the input from the output, but neither of them from the two fixed names.
A script whose input is one of these finds the path or the site variables where its text should be,
and one whose output is one of these finds nothing there. With other names every global holds what
it should.

Main definitions:
- `Conversion`, `Script.after`: a script after earlier conversions
- `Script.FindsGlobals`: what a program finds in the globals of a script

Main statements:
- `Script.bindGlobals_of_plain`: every assignment counts until another one goes to the same name
- `Script.compile_eq_noOutput`: a run that leaves the output global alone and returns nothing
- `Script.bindGlobals_of_check`: what the program of a script finds that has passed the check
-/

namespace Folio

open Lua (Runtime)

/-! ## Section 1: Earlier conversions -/

/-- What is asked of a compiler once. -/
structure Conversion where
  path : Path
  text : String
  site : Site

namespace Script

variable {R : Type} {language : ScriptLanguage R}

/-- A script after some conversions, whose results do not matter. -/
def after (language : ScriptLanguage R) (script : Script R) (history : List Conversion) : Script R :=
  history.foldl (fun script c => (script.compile language c.path c.text c.site).2) script

/-- Conversions change the runtime of a script alone. -/
theorem outline_after (script : Script R) (history : List Conversion) :
    (script.after language history).outline = script.outline := by
  induction history generalizing script with
  | nil => rfl
  | cons c rest ih => exact (ih _).trans (outline_compile script c.path c.text c.site)

/-- Before its first conversion a script has no metatable on its globals. -/
theorem hasPlainGlobals_of_load {fs : FileSystem} {name input output : String} {program : Path}
    {script : Script Runtime}
    (loaded : load Lua.language fs name program input output = .ok script) :
    script.runtime.HasPlainGlobals := by
  unfold load runtimeOf at loaded
  split at loaded
  · cases loaded
  · split at loaded
    · cases loaded
    · rename_i made
      obtain rfl := Except.ok.inj loaded
      exact Runtime.hasPlainGlobals_load made

/-! ## Section 2: Four assignments -/

/-- The globals of a runtime after those of a script were bound. A name that is assigned twice holds
what the later assignment gave it. -/
structure FindsGlobals (script : Script Runtime) (c : Conversion) (r : Runtime) : Prop where
  plain : r.HasPlainGlobals
  output : r.Holds script.output none
  site : script.output ≠ siteGlobal → r.Holds siteGlobal (some c.site.vars.toValue)
  path : script.output ≠ sourcePathGlobal → r.Holds sourcePathGlobal (some (.str c.path.display))
  input : script.input ≠ sourcePathGlobal → script.input ≠ siteGlobal → script.input ≠ script.output →
    r.Holds script.input (some (.str c.text))
  others : ∀ name ∉ [script.input, sourcePathGlobal, siteGlobal, script.output],
    r.global name = script.runtime.global name

theorem sourcePathGlobal_ne_siteGlobal : sourcePathGlobal ≠ siteGlobal := by decide

/-- Every assignment counts until another one goes to the same name. -/
theorem bindGlobals_of_plain {script : Script Runtime} (plain : script.runtime.HasPlainGlobals)
    (c : Conversion) :
    ∃ r, (script.bindGlobals Lua.language c.path c.text c.site).runFrom script.runtime = (.ok (), r)
      ∧ script.FindsGlobals c r := by
  obtain ⟨r₁, first, bound₁⟩ :=
    Runtime.setGlobal_of_plain plain script.input (some (.str c.text))
  obtain ⟨r₂, second, bound₂⟩ :=
    Runtime.setGlobal_of_plain bound₁.plain sourcePathGlobal (some (.str c.path.display))
  obtain ⟨r₃, third, bound₃⟩ :=
    Runtime.setGlobal_of_plain bound₂.plain siteGlobal (some c.site.vars.toValue)
  obtain ⟨r₄, fourth, bound₄⟩ := Runtime.setGlobal_of_plain bound₃.plain script.output none
  refine ⟨r₄, ?_, ?_⟩
  · unfold bindGlobals
    rw [Step.runFrom_bind_ok first, Step.runFrom_bind_ok second, Step.runFrom_bind_ok third, fourth]
  · -- what a global holds is what its last assignment gave it, kept by those to other names
    constructor
    case plain => exact bound₄.plain
    case output => exact bound₄.holds
    case site => exact fun apart => bound₄.holds_of_ne apart.symm bound₃.holds
    case path =>
      intro apart
      exact bound₄.holds_of_ne apart.symm
        (bound₃.holds_of_ne sourcePathGlobal_ne_siteGlobal bound₂.holds)
    case input =>
      intro notPath notSite notOutput
      exact bound₄.holds_of_ne notOutput
        (bound₃.holds_of_ne notSite (bound₂.holds_of_ne notPath bound₁.holds))
    case others =>
      intro name other
      simp only [List.mem_cons, List.not_mem_nil, or_false, not_or] at other
      obtain ⟨notInput, notPath, notSite, notOutput⟩ := other
      rw [bound₄.others name notOutput, bound₃.others name notSite, bound₂.others name notPath,
        bound₁.others name notInput]

/-! ## Section 3: No output -/

/-- A run that returns nothing and leaves the output global as it found it gives no output. -/
theorem compile_eq_noOutput {script : Script Runtime} {c : Conversion} {r r' : Runtime}
    (bound : (script.bindGlobals Lua.language c.path c.text c.site).runFrom script.runtime
      = (.ok (), r))
    (finds : script.FindsGlobals c r) (called : Lua.language.call.runFrom r = (.ok none, r'))
    (plain : r'.HasPlainGlobals) (unset : r'.global script.output = r.global script.output) :
    (script.compile Lua.language c.path c.text c.site).1
      = .error (.noOutput script.name script.output) := by
  have nothing : r'.global script.output = .nil := unset.trans finds.output
  obtain ⟨r'', read⟩ := Runtime.globalText?_of_plain plain script.output
  rw [nothing] at read
  have converted : (script.convert Lua.language c.path c.text c.site).runFrom script.runtime
      = (.ok none, r'') := by
    unfold convert
    rw [Step.runFrom_bind_ok bound, Step.runFrom_bind_ok called]
    exact read
  unfold compile
  rw [show (script.convert Lua.language c.path c.text c.site).run.run script.runtime = _ from converted]

/-! ## Section 4: Scripts of settings -/

/-- What the program of a script finds that has passed the check, after whatever conversions, as long
as they have put no metatable on the globals. The output global holds nothing. The site variables
and the path are in their globals, unless one of these is the output global. The text is in the
input global, unless that is one of these: it then holds the path or the site variables. All other
globals are as earlier runs left them. A run that returns nothing and leaves the output global as it
found it gives no output. -/
theorem bindGlobals_of_check {fs fs' : FileSystem} {config : Config} {entry : ScriptConfig}
    {program : Path} {script : Script Runtime} (history : List Conversion)
    (accepted : config.check fs = .ok ()) (listed : entry ∈ config.compilers.scripts)
    (loaded : load Lua.language fs' entry.name program entry.input entry.output = .ok script)
    (plain : (script.after Lua.language history).runtime.HasPlainGlobals) (c : Conversion) :
    let script' := script.after Lua.language history
    ∃ r, (script'.bindGlobals Lua.language c.path c.text c.site).runFrom script'.runtime = (.ok (), r)
      ∧ r.Holds entry.output none
      ∧ (entry.output ≠ siteGlobal → r.Holds siteGlobal (some c.site.vars.toValue))
      ∧ (entry.output ≠ sourcePathGlobal → r.Holds sourcePathGlobal (some (.str c.path.display)))
      ∧ (entry.input ≠ sourcePathGlobal → entry.input ≠ siteGlobal →
        r.Holds entry.input (some (.str c.text)))
      ∧ (entry.input = sourcePathGlobal → r.Holds entry.input (some (.str c.path.display)))
      ∧ (entry.input = siteGlobal → r.Holds entry.input (some c.site.vars.toValue))
      ∧ (∀ name ∉ [entry.input, sourcePathGlobal, siteGlobal, entry.output],
        r.global name = script'.runtime.global name)
      ∧ ∀ r', Lua.language.call.runFrom r = (.ok none, r') → r'.HasPlainGlobals →
        r'.global entry.output = r.global entry.output →
          (script'.compile Lua.language c.path c.text c.site).1
            = .error (.noOutput entry.name entry.output) := by
  intro script'
  have valid : entry.IsValid fs :=
    (ScriptConfig.checkAll_eq_ok_iff.mp (Config.check_eq_ok_iff.mp accepted).2.2.2.2.2).1 entry listed
  -- what earlier conversions leave is the script of the settings with another runtime
  have outline : script'.outline
      = { name := entry.name, program := some program, input := entry.input, output := entry.output,
          runtime := () } := (outline_after script history).trans (outline_load loaded)
  have name : script'.name = entry.name := congrArg Script.name outline
  have input : script'.input = entry.input := congrArg Script.input outline
  have output : script'.output = entry.output := congrArg Script.output outline
  obtain ⟨r, bound, finds⟩ := bindGlobals_of_plain plain c
  rw [← name, ← input, ← output]
  have apart : script'.input ≠ script'.output := input ▸ output ▸ valid.apart
  refine ⟨r, bound, finds.output, finds.site, finds.path, ?_, ?_, ?_, finds.others, ?_⟩
  · exact fun notPath notSite => finds.input notPath notSite apart
  -- the path and the site variables are assigned after the input, and stay in its global
  · intro same
    rw [same] at apart ⊢
    exact finds.path apart.symm
  · intro same
    rw [same] at apart ⊢
    exact finds.site apart.symm
  · exact fun r' called plain' unset => compile_eq_noOutput bound finds called plain' unset

/-- A project with a program that gives an output in its first run alone. -/
def firstRunProgram : FileSystem where
  entries := [([.ofString "w"], .directory),
    ([.ofString "w", .ofString "p"],
      .file "if not done then html = sourcePath done = true end".toByteArray)]
  workingDirectory := [.ofString "w"]

/-- Settings with two scripts, one of which wants its text where the path is put. -/
def sourcePathInput : Config where
  build := { root := .ofString "/w" }
  compilers :=
    { scripts := [{ name := "one", extensions := ["adoc"], program := .ofString "/w/p",
                    input := "asciidocSource", output := "html" },
        { name := "two", extensions := ["rst"], program := .ofString "/w/p",
          input := "sourcePath", output := "html" }] }

/-- A first conversion leaves an output, and the program does nothing in the second one. -/
def RunsOnce (script : Script Runtime) : Prop :=
  let script' := script.after Lua.language [⟨.ofString "a", "old", {}⟩]
  let bound := (script'.bindGlobals Lua.language (.ofString "b") "text" {}).runFrom script'.runtime
  let called := Lua.language.call.runFrom bound.2
  script'.runtime.HasPlainGlobals ∧ script'.runtime.global "html" = .ofText "a"
    ∧ called.1 = .ok none ∧ called.2.HasPlainGlobals ∧ called.2.global "html" = .nil

instance : DecidablePred RunsOnce := fun _ => inferInstanceAs (Decidable (_ ∧ _ ∧ _ ∧ _ ∧ _))

theorem exists_runsOnce : ∀ entry ∈ sourcePathInput.compilers.scripts, ∃ script,
    load Lua.language firstRunProgram entry.name entry.program entry.input entry.output = .ok script
      ∧ script.RunsOnce := by
  have computed : ∀ entry ∈ sourcePathInput.compilers.scripts,
      (load Lua.language firstRunProgram entry.name entry.program entry.input entry.output
        ).toOption.any fun script => RunsOnce script := by
    decide +kernel
  exact fun entry mem => exists_ok_of_any (computed entry mem)

/-- Both scripts pass the check, and a first conversion sets the output global of both. In the second one
that global is nil, so that there is no output if the program does not set it again. One script finds
the text in its input global, in the first conversion as in the second, the other one the path. -/
theorem bindGlobals_of_check_sourcePathInput :
    sourcePathInput.check firstRunProgram = .ok () ∧ ∃ one two r₀ r r',
      load Lua.language firstRunProgram "one" (.ofString "/w/p") "asciidocSource" "html" = .ok one
      ∧ load Lua.language firstRunProgram "two" (.ofString "/w/p") "sourcePath" "html" = .ok two ∧
      let one' := one.after Lua.language [⟨.ofString "a", "old", {}⟩]
      let two' := two.after Lua.language [⟨.ofString "a", "old", {}⟩]
      (bindGlobals Lua.language one (.ofString "a") "old" {}).runFrom one.runtime = (.ok (), r₀)
      ∧ r₀.global "asciidocSource" = .ofText "old"
      ∧ one'.runtime.global "html" = .ofText "a"
      ∧ (bindGlobals Lua.language one' (.ofString "b") "text" {}).runFrom one'.runtime = (.ok (), r)
      ∧ r.global "asciidocSource" = .ofText "text" ∧ r.global "html" = .nil
      ∧ (one'.compile Lua.language (.ofString "b") "text" {}).1 = .error (.noOutput "one" "html")
      ∧ two'.runtime.global "html" = .ofText "a"
      ∧ (bindGlobals Lua.language two' (.ofString "b") "text" {}).runFrom two'.runtime = (.ok (), r')
      ∧ r'.global "sourcePath" = .ofText "b" ∧ r'.global "html" = .nil
      ∧ (two'.compile Lua.language (.ofString "b") "text" {}).1
          = .error (.noOutput "two" "html") := by
  have accepted : sourcePathInput.check firstRunProgram = .ok () := by decide +kernel
  have first : sourcePathInput.compilers.scripts[0] ∈ sourcePathInput.compilers.scripts :=
    List.mem_cons_self
  have second : sourcePathInput.compilers.scripts[1] ∈ sourcePathInput.compilers.scripts :=
    List.mem_cons_of_mem _ List.mem_cons_self
  obtain ⟨one, loadedOne, plainOne, leftOne, calledOne⟩ := exists_runsOnce _ first
  obtain ⟨two, loadedTwo, plainTwo, leftTwo, calledTwo⟩ := exists_runsOnce _ second
  obtain ⟨r₀, bound₀, -, -, -, input₀, -⟩ := bindGlobals_of_check [] accepted first loadedOne
    (hasPlainGlobals_of_load loadedOne) ⟨.ofString "a", "old", {}⟩
  obtain ⟨r, boundOne, clearOne, -, -, input, -, -, -, nothingOne⟩ := bindGlobals_of_check
    [⟨.ofString "a", "old", {}⟩] accepted first loadedOne plainOne ⟨.ofString "b", "text", {}⟩
  obtain ⟨r', boundTwo, clearTwo, -, -, -, path, -, -, nothingTwo⟩ := bindGlobals_of_check
    [⟨.ofString "a", "old", {}⟩] accepted second loadedTwo plainTwo ⟨.ofString "b", "text", {}⟩
  rw [boundOne] at calledOne
  rw [boundTwo] at calledTwo
  refine ⟨accepted, one, two, r₀, r, r', loadedOne, loadedTwo, bound₀, ?_, leftOne, boundOne, ?_,
    clearOne, ?_, leftTwo, boundTwo, ?_, clearTwo, ?_⟩
  · exact Runtime.holds_str.mp (input₀ (by decide) (by decide))
  · exact Runtime.holds_str.mp (input (by decide) (by decide))
  · exact nothingOne _ (Prod.ext calledOne.1 rfl) calledOne.2.1 (calledOne.2.2.trans clearOne.symm)
  · exact Runtime.holds_str.mp (path rfl)
  · exact nothingTwo _ (Prod.ext calledTwo.1 rfl) calledTwo.2.1 (calledTwo.2.2.trans clearTwo.symm)

end Script

end Folio
