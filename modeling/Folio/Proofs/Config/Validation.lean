import Folio.Config.Validation
import Mathlib.Data.List.Nodup

/-!
# What passes the check of settings

The check of scripts goes through them in their order and remembers which extensions are taken. It
passes just if every script is in order by itself and no extension is listed twice, be it by one
script or by two, where extensions count as the registry compares them. So the order of the scripts
does not matter.

Main definitions:
- `ScriptConfig.keys`: the extensions of a script as the registry compares them
- `ScriptConfig.IsValid`: a script that is in order by itself
- `Config.withScripts`: settings with other scripts

Main statements:
- `ScriptConfig.checkAll_eq_ok_iff`, `Config.check_eq_ok_iff`: what passes the check
- `Config.check_withScripts`: scripts in another order pass as well
-/

namespace Folio

theorem ite_throw_eq_ok {ε α β : Type} {c : Prop} [Decidable c] {e : ε} {next : β → Except ε α}
    {rest : Except ε α} {a : α} :
    (if c then (throw e : Except ε β) >>= next else rest) = .ok a ↔ ¬ c ∧ rest = .ok a := by
  have thrown : (throw e : Except ε β) >>= next = .error e := rfl
  split <;> simp_all

namespace ScriptConfig

variable {fs : FileSystem} {claimed claimed' : List String} {script : ScriptConfig}
  {scripts : List ScriptConfig}

/-! ## Section 1: One script -/

/-- The extensions of a script as the registry compares them. -/
def keys (script : ScriptConfig) : List String := script.extensions.map normalExtension

/-- A script that is in order by itself: it has a name, an extension and a program, and its globals
have different names that globals can have. -/
structure IsValid (fs : FileSystem) (script : ScriptConfig) : Prop where
  named : ¬ Text.isBlankText script.name.toList
  extensions : script.extensions ≠ []
  program : fs.isFile script.program
  input : isGlobalName script.input
  output : isGlobalName script.output
  apart : script.input ≠ script.output

theorem claim_eq_ok_iff {extensions : List String} : claim claimed extensions = .ok claimed'
    ↔ (extensions.map normalExtension).reverse ++ claimed = claimed'
      ∧ (extensions.map normalExtension).Nodup
      ∧ ∀ key ∈ extensions.map normalExtension, key ∉ claimed := by
  -- on the extensions, for any that are taken already
  induction extensions generalizing claimed with
  | nil => simp [claim]
  | cons extension rest ih =>
    unfold claim
    dsimp only
    by_cases taken : normalExtension extension ∈ claimed
    · simp [taken]
    · simp only [List.contains_iff_mem, taken, if_false, ih, List.map_cons, List.reverse_cons,
        List.append_assoc, List.singleton_append, List.nodup_cons, List.mem_cons, not_or]
      grind

/-- A script passes the check just if it is in order by itself and its extensions are free. -/
theorem check_eq_ok_iff : script.check fs claimed = .ok claimed'
    ↔ script.IsValid fs ∧ script.keys.reverse ++ claimed = claimed' ∧ script.keys.Nodup
      ∧ ∀ key ∈ script.keys, key ∉ claimed := by
  rw [keys, ← claim_eq_ok_iff]
  unfold check
  dsimp only
  simp only [ite_throw_eq_ok]
  -- the extensions are looked at between the other tests
  cases claim claimed script.extensions with
  | error extension =>
    have thrown {next : List String → Except ConfigFault (List String)} :
        ((throw (.claimedExtension script.name extension) : Except ConfigFault (List String)) >>= next)
          ≠ .ok claimed' := nofun
    simp [thrown]
  | ok taken =>
    have returned : (pure taken : Except ConfigFault (List String)) = .ok claimed'
        ↔ (.ok taken : Except String (List String)) = .ok claimed' :=
      ⟨fun same => congrArg _ (Except.ok.inj same), fun same => congrArg _ (Except.ok.inj same)⟩
    dsimp only
    simp only [pure_bind, ite_throw_eq_ok]
    rw [returned]
    constructor
    · rintro ⟨named, extensions, program, input, output, apart, same⟩
      exact ⟨⟨named, by simpa using extensions, by simpa using program, by simpa using input,
        by simpa using output, apart⟩, same⟩
    · rintro ⟨valid, same⟩
      exact ⟨valid.named, by simpa using valid.extensions, by simpa using valid.program,
        by simpa using valid.input, by simpa using valid.output, valid.apart, same⟩

/-! ## Section 2: All scripts -/

theorem checkAll_cons_eq_ok_iff :
    checkAll fs claimed (script :: scripts) = .ok ()
      ↔ ∃ claimed', script.check fs claimed = .ok claimed' ∧ checkAll fs claimed' scripts = .ok () := by
  rw [checkAll]
  cases script.check fs claimed <;> simp

theorem checkAll_eq_ok_iff_of_claimed : checkAll fs claimed scripts = .ok ()
    ↔ (∀ script ∈ scripts, script.IsValid fs) ∧ (scripts.flatMap keys).Nodup
      ∧ ∀ key ∈ scripts.flatMap keys, key ∉ claimed := by
  -- on the scripts, for any extensions that are taken already
  induction scripts generalizing claimed with
  | nil => simp [checkAll]
  | cons script rest ih =>
    simp only [checkAll_cons_eq_ok_iff, check_eq_ok_iff, ih, List.forall_mem_cons,
      List.flatMap_cons, List.nodup_append, List.mem_append]
    constructor
    · rintro ⟨_, ⟨valid, rfl, once, free⟩, others, distinct, apart⟩
      grind
    · rintro ⟨⟨valid, others⟩, ⟨once, distinct, apart⟩, free⟩
      exact ⟨_, ⟨valid, rfl, once, fun key mem => free key (.inl mem)⟩, others, distinct, by grind⟩

/-- Scripts pass the check just if each is in order by itself and no extension is listed twice. -/
theorem checkAll_eq_ok_iff : checkAll fs [] scripts = .ok ()
    ↔ (∀ script ∈ scripts, script.IsValid fs) ∧ (scripts.flatMap keys).Nodup := by
  rw [checkAll_eq_ok_iff_of_claimed]
  simp

/-- An extension that a script lists is listed by no script before or after it. -/
theorem not_mem_keys_of_nodup {before after : List ScriptConfig} {key : String}
    (distinct : ((before ++ script :: after).flatMap keys).Nodup) (lists : key ∈ script.keys) :
    ∀ other ∈ before ++ after, key ∉ other.keys := by
  rw [List.flatMap_append, List.flatMap_cons, List.nodup_append, List.nodup_append] at distinct
  obtain ⟨-, ⟨-, -, following⟩, preceding⟩ := distinct
  intro other mem listed
  rcases List.mem_append.mp mem with mem | mem
  · exact preceding key (List.mem_flatMap.mpr ⟨other, mem, listed⟩) key
      (List.mem_append_left _ lists) rfl
  · exact following key lists key (List.mem_flatMap.mpr ⟨other, mem, listed⟩) rfl

end ScriptConfig

/-! ## Section 3: Settings -/

namespace Config

variable {fs : FileSystem} {config : Config}

/-- Settings pass the check just if their parts do. -/
theorem check_eq_ok_iff : config.check fs = .ok () ↔ fs.isDirectory config.build.root
    ∧ config.build.extensions ≠ [] ∧ (∀ e ∈ config.build.extensions, isDottedExtension e)
    ∧ config.build.layouts.staysBelow ∧ config.build.includes.staysBelow
    ∧ ScriptConfig.checkAll fs [] config.compilers.scripts = .ok () := by
  unfold check
  dsimp only
  simp only [ite_throw_eq_ok]
  cases found : config.build.extensions.find? fun e => !isDottedExtension e with
  | some extension =>
    have undotted := List.find?_some found
    have thrown {next : Unit → Except ConfigFault Unit} :
        ((throw (.badExtension extension) : Except ConfigFault Unit) >>= next) ≠ .ok () := nofun
    have mem := List.mem_of_find?_eq_some found
    simp only [thrown, and_false, false_iff, not_and]
    intro _ _ dotted
    simp [dotted extension mem] at undotted
  | none =>
    have dotted : ∀ e ∈ config.build.extensions, isDottedExtension e := by
      simpa using List.find?_eq_none.mp found
    dsimp only
    simp only [ite_throw_eq_ok, Bool.not_eq_true, Bool.not_eq_false', List.isEmpty_eq_false_iff]
    constructor
    · rintro ⟨root, nonempty, parts⟩
      exact ⟨root, nonempty, dotted, parts⟩
    · rintro ⟨root, nonempty, -, parts⟩
      exact ⟨root, nonempty, parts⟩

/-- Settings with other scripts. -/
def withScripts (config : Config) (scripts : List ScriptConfig) : Config :=
  { config with compilers := { config.compilers with scripts } }

/-- Scripts that pass the check do so in any order. -/
theorem check_withScripts {scripts : List ScriptConfig} (accepted : config.check fs = .ok ())
    (perm : scripts.Perm config.compilers.scripts) : (config.withScripts scripts).check fs = .ok () := by
  obtain ⟨root, extensions, dotted, layouts, includes, checked⟩ := check_eq_ok_iff.mp accepted
  obtain ⟨valid, distinct⟩ := ScriptConfig.checkAll_eq_ok_iff.mp checked
  refine check_eq_ok_iff.mpr ⟨root, extensions, dotted, layouts, includes, ?_⟩
  refine ScriptConfig.checkAll_eq_ok_iff.mpr ⟨fun script mem => valid script (perm.mem_iff.mp mem), ?_⟩
  exact (perm.flatMap_right ScriptConfig.keys).nodup_iff.mpr distinct

end Config

end Folio
