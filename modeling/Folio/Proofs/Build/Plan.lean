import Folio.Proofs.Build.Documents
import Folio.Proofs.Path.Extension

/-!
# Planning targets

Documents are given their targets one after the other, until one has the target of a document before
it. As long as that does not happen, the documents planned so far are the ones before, each with its
target, and no two of these targets are equal. A clash is therefore at the first position at which
there can be one, and the other position is the only one before it with the same target.

Main definitions:
- `Targets.Clash`: two positions with equal targets
- `Targets.FirstClash`: the pair that is reported

Main statements:
- `Targets.planAfter_cases`: what planning comes to after some documents
- `Targets.plan_iff`: when planning succeeds, what it gives, and what it refuses
-/

namespace Folio

namespace Targets

/-! ## Section 1: Clashes -/

variable {output : Path} {documents : List Path}

/-- The document at position `j` has the target of the one at position `i` before it. -/
def Clash (output : Path) (documents : List Path) (i j : Nat) : Prop :=
  i < j ∧ ∃ a ∈ documents[i]?, ∃ b ∈ documents[j]?, (output.targetIn a).equiv (output.targetIn b)

/-- The clash at the smallest position, with the one position before it that it can be with. -/
structure FirstClash (output : Path) (documents : List Path) (i j : Nat) : Prop where
  clash : Clash output documents i j
  least : ∀ i' j', Clash output documents i' j' → j ≤ j'
  only : ∀ i', Clash output documents i' j → i' = i

theorem FirstClash.unique {i j i' j' : Nat} (h : FirstClash output documents i j)
    (h' : FirstClash output documents i' j') : i = i' ∧ j = j' := by
  obtain rfl : j = j' := Nat.le_antisymm (h.least i' j' h'.clash) (h'.least i j h.clash)
  exact ⟨h'.only i h.clash, rfl⟩

/-- Documents no two of which have equal targets. -/
abbrev Distinct (output : Path) (documents : List Path) : Prop :=
  documents.Pairwise fun a b => ¬ (output.targetIn a).equiv (output.targetIn b)

theorem not_clash_of_distinct (distinct : Distinct output documents) (i j : Nat) :
    ¬ Clash output documents i j := by
  rintro ⟨before, a, atI, b, atJ, same⟩
  obtain ⟨boundI, rfl⟩ := List.getElem?_eq_some_iff.mp atI
  obtain ⟨boundJ, rfl⟩ := List.getElem?_eq_some_iff.mp atJ
  exact List.pairwise_iff_getElem.mp distinct i j boundI boundJ before same

/-- A document behind distinct ones, one of which has its target. -/
theorem firstClash_of_append {front between later : List Path} {first second : Path}
    (distinct : Distinct output (front ++ first :: between))
    (same : (output.targetIn second).equiv (output.targetIn first)) :
    FirstClash output (front ++ first :: between ++ second :: later) front.length
      (front ++ first :: between).length := by
  set before := front ++ first :: between with split
  -- a position before the clash is one of the documents that are distinct
  have inside (i : Nat) (bound : i < before.length) :
      (before ++ second :: later)[i]? = before[i]? := List.getElem?_append_left bound
  have atFirst : before[front.length]? = some first := by simp [split]
  have atSecond : (before ++ second :: later)[before.length]? = some second := by simp
  have bound : front.length < before.length := by simp [split]
  have clash : Clash output (before ++ second :: later) front.length before.length :=
    ⟨bound, first, by rw [inside _ bound]; exact atFirst, second, atSecond, by
      simpa [Path.equiv, eq_comm] using same⟩
  refine ⟨clash, fun i' j' earlier => ?_, fun i' other => ?_⟩
  · by_contra small
    rw [Nat.not_le] at small
    obtain ⟨order, a, atI, b, atJ, same'⟩ := earlier
    rw [inside _ (order.trans small)] at atI
    rw [inside _ small] at atJ
    exact not_clash_of_distinct distinct i' j' ⟨order, a, atI, b, atJ, same'⟩
  · obtain ⟨order, a, atI, b, atJ, same'⟩ := other
    obtain rfl : second = b := Option.some.inj (atSecond.symm.trans atJ)
    rw [inside _ order] at atI
    -- two documents before it with the target of the second have the same target
    have shared : (output.targetIn a).equiv (output.targetIn first) := by
      simp only [Path.equiv, decide_eq_true_eq] at same same' ⊢
      exact same'.trans same
    rcases Nat.lt_trichotomy i' front.length with less | equal | more
    · exact absurd ⟨less, a, atI, first, atFirst, shared⟩ (not_clash_of_distinct distinct _ _)
    · exact equal
    · refine absurd ⟨more, first, atFirst, a, atI, ?_⟩ (not_clash_of_distinct distinct _ _)
      simpa [Path.equiv, eq_comm] using shared

/-! ## Section 2: Planning one document after the other -/

/-- Documents, each with its target. -/
def withTargets (output : Path) (documents : List Path) : List (Path × Path) :=
  documents.map fun document => (document, output.targetIn document)

/-- What planning comes to after distinct documents: all documents with their targets, or the first
clash among them. -/
theorem planAfter_cases {before : List Path} (distinct : Distinct output before) (rest : List Path) :
    (Distinct output (before ++ rest)
        ∧ planAfter output (withTargets output before) rest
            = .ok (withTargets output (before ++ rest)))
      ∨ ∃ i j, ∃ first ∈ (before ++ rest)[i]?, ∃ second ∈ (before ++ rest)[j]?,
          FirstClash output (before ++ rest) i j
            ∧ planAfter output (withTargets output before) rest
                = .error { first, second, target := output.targetIn second } := by
  -- on the documents left; those planned so far are the distinct ones before them
  induction rest generalizing before with
  | nil => exact .inl (by simpa [planAfter] using distinct)
  | cons second later ih =>
    cases found : before.find? fun a => (output.targetIn second).equiv (output.targetIn a) with
    | some first =>
      obtain ⟨same, front, between, rfl, -⟩ := List.find?_eq_some_iff_append.mp found
      refine .inr ⟨_, _, first, ?_, second, ?_, firstClash_of_append distinct same, ?_⟩
      · simp
      · simp
      · simp only [planAfter, withTargets, List.find?_map, Function.comp_def, found]
        rfl
    | none =>
      have longer : Distinct output (before ++ [second]) := by
        refine List.pairwise_append.mpr ⟨distinct, List.pairwise_singleton .., ?_⟩
        intro a mem b isSecond
        obtain rfl := List.mem_singleton.mp isSecond
        simpa [Path.equiv, eq_comm] using List.find?_eq_none.mp found a mem
      have step : planAfter output (withTargets output before) (second :: later)
          = planAfter output (withTargets output (before ++ [second])) later := by
        simp only [planAfter, withTargets, List.find?_map, Function.comp_def, found]
        simp
      have onwards := ih longer
      rw [List.append_assoc, List.singleton_append] at onwards
      rw [step]
      exact onwards

/-- What planning comes to: all documents with their targets, or the first clash among them. -/
theorem plan_cases (output : Path) (documents : List Path) :
    (Distinct output documents ∧ plan output documents = .ok (withTargets output documents))
      ∨ ∃ i j, ∃ first ∈ documents[i]?, ∃ second ∈ documents[j]?,
          FirstClash output documents i j
            ∧ plan output documents
                = .error { first, second, target := output.targetIn second } :=
  planAfter_cases .nil documents

/-! ## Section 3: Planning all documents -/

/-- Planning succeeds if and only if no two positions have equal targets, and then gives every
document with its target, in order. Otherwise it names the two documents of the first clash. A target
is the path of the document below the output directory with the extension of its last component
replaced. -/
theorem plan_iff (output : Path) (documents : List Path) :
    (∀ targets, plan output documents = .ok targets ↔
        (∀ i j, ¬ Clash output documents i j)
          ∧ targets = documents.map fun document => (document, output.targetIn document))
      ∧ (∀ clash, plan output documents = .error clash ↔
          ∃ i j, FirstClash output documents i j
            ∧ documents[i]? = some clash.first ∧ documents[j]? = some clash.second
            ∧ clash.target = output.targetIn clash.second)
      ∧ (∀ document, Path.Extended (Name.ofString "html") (output.join document)
          (output.targetIn document))
      ∧ ∀ document, document.isAbsolute = false → (output.join document).components
          = if output.bytes = [] then document.components else output.components ++ document.steps := by
  refine ⟨fun targets => ?_, fun clash => ?_, fun document => ?_, fun document relative => ?_⟩
  · rcases plan_cases output documents with
      ⟨distinct, planned⟩ | ⟨i, j, first, -, second, -, found, refused⟩
    · rw [planned]
      constructor
      · intro given
        exact ⟨not_clash_of_distinct distinct, (Except.ok.inj given).symm⟩
      · rintro ⟨-, rfl⟩
        rfl
    · rw [refused]
      constructor
      · intro given
        cases given
      · rintro ⟨none, -⟩
        exact absurd found.clash (none i j)
  · rcases plan_cases output documents with
      ⟨distinct, planned⟩ | ⟨i, j, first, atFirst, second, atSecond, found, refused⟩
    · rw [planned]
      constructor
      · intro given
        cases given
      · rintro ⟨i, j, found, -⟩
        exact absurd found.clash (not_clash_of_distinct distinct i j)
    · rw [refused]
      constructor
      · intro given
        obtain rfl := Except.error.inj given
        exact ⟨i, j, found, atFirst, atSecond, rfl⟩
      · rintro ⟨i', j', found', atFirst', atSecond', target⟩
        -- the first clash is at one pair of positions
        obtain ⟨rfl, rfl⟩ := found.unique found'
        obtain rfl : first = clash.first := Option.some.inj (atFirst.symm.trans atFirst')
        obtain rfl : second = clash.second := Option.some.inj (atSecond.symm.trans atSecond')
        rw [← target]
  · exact Path.extended_withExtension _ (by decide) ⟨0x68, by decide, by decide⟩
  · split
    · rename_i here
      simp [Path.join, relative, here]
    · rename_i nonempty
      exact Path.components_join nonempty relative

/-- Two documents of a site that differ in their extension alone have one target, if the dot in front
of their name is not taken for the beginning of an extension. The later clash is not reported. -/
theorem plan_hidden :
    let output := Path.ofString "out/."
    let documents := ["a.b.txt", "d/.x", "d//.x.md", "a.b.c/."].map Path.ofString
    (∀ i j, ¬ Clash output (documents.take 2) i j)
      ∧ (∃ i j, FirstClash output documents i j
          ∧ documents[i]? = some (Path.ofString "d/.x")
          ∧ documents[j]? = some (Path.ofString "d//.x.md"))
      ∧ (output.join (Path.ofString "d//.x.md")).components
          = ["out", "d", ".x.md"].map fun name => .normal (Name.ofString name) := by
  intro output documents
  refine ⟨?_, ?_, ?_⟩
  · exact (((plan_iff output (documents.take 2)).1 (withTargets output (documents.take 2))).mp
      (by decide +kernel)).1
  · obtain ⟨i, j, found, first, second, -⟩ := ((plan_iff output documents).2.1
      { first := Path.ofString "d/.x"
        second := Path.ofString "d//.x.md"
        target := Path.ofString "out/./d//.x.html" }).mp (by decide +kernel)
    exact ⟨i, j, found, first, second⟩
  · rw [(plan_iff output documents).2.2.2 _ (by decide +kernel)]
    decide +kernel

end Targets

end Folio
