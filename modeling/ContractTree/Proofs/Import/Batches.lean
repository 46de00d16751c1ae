import ContractTree.Proofs.Document.Readers
import ContractTree.Proofs.Import.NameOrder
import ContractTree.Tree.Equality
import Mathlib.Data.List.Nodup

namespace ContractTree

/-!
# Batches and their sources

A batch succeeds if each of its sources does when it is imported alone, and then it has
the trees of these imports.  It fails with the error of one of its sources: of those
that fail alone, the one whose name comes first.  No source has a part in what becomes
of another, so nothing that happens to the sources behind that one changes the error.
-/

/-- A source is imported alone, under its own name. -/
def importAlone (options : ImportOptions) (entry : SourceName × Json) : Except ImportError Node :=
  importUnit { options with source := entry.1 } entry.2

/-- Of the sources that fail alone, one has the least name in the order of bytes. -/
structure Sources.FailsFirst (options : ImportOptions) (sources : Sources)
    (entry : SourceName × Json) (cause : ImportError) : Prop where
  member : entry ∈ sources
  fails : importAlone options entry = .error cause
  least : ∀ other ∈ sources, (∃ failure, importAlone options other = .error failure) →
    entry.1.bytes ≤ other.1.bytes

/-! ## Answers in the order of their items -/

section Checks

variable {ε α β : Type} {check : α → Except ε β} {items : List α}

/-- What each answer tells of its item is told of the items in order. -/
theorem map_eq_of_checked {γ : Type} {answers : List β} {told : β → γ} {known : α → γ}
    (checked : items.map check = answers.map .ok)
    (tells : ∀ item answer, check item = .ok answer → told answer = known item) :
    answers.map told = items.map known := by
  induction items generalizing answers with
  | nil =>
    cases answers with
    | nil => rfl
    | cons answer later => cases checked
  | cons item rest ih =>
    cases answers with
    | nil => cases checked
    | cons answer later =>
      have each := List.cons.inj checked
      rw [List.map_cons, List.map_cons, tells item answer each.1, ih each.2]

end Checks

/-! ## Sources in the order of their names -/

/-- Sorting puts what has a name in the order of the names. -/
theorem pairwise_sorted {α : Type} (entries : List (SourceName × α)) :
    (entries.mergeSort fun first second => decide (first.1 ≤ second.1)).Pairwise
      fun first second => first.1 ≤ second.1 := by
  have ordered : (entries.mergeSort fun first second => decide (first.1 ≤ second.1)).Pairwise
      fun first second => decide (first.1 ≤ second.1) := by
    refine List.pairwise_mergeSort (fun first second third here there => ?_)
      (fun first second => ?_) entries
    · exact decide_eq_true (String.le_trans (of_decide_eq_true here) (of_decide_eq_true there))
    · rw [Bool.or_eq_true, decide_eq_true_iff, decide_eq_true_iff]
      exact String.le_total first.1 second.1
  exact ordered.imp of_decide_eq_true

namespace Sources

variable (sources : Sources)

theorem sorted_perm : sources.sorted.Perm sources := List.mergeSort_perm _ _

theorem mem_sorted {entry : SourceName × Json} : entry ∈ sources.sorted ↔ entry ∈ sources :=
  sources.sorted_perm.mem_iff

theorem sorted_pairwise :
    sources.sorted.Pairwise fun first second => first.1.bytes ≤ second.1.bytes :=
  (pairwise_sorted sources).imp SourceName.le_iff_bytes_le.1

end Sources

/-! ## Batches -/

section Batch

variable {options : ImportOptions} {sources : Sources}

/-- The tree of a source with its name. -/
def importNamed (options : ImportOptions) (entry : SourceName × Json) :
    Except ImportError (SourceName × Node) :=
  (importAlone options entry).map (Prod.mk entry.1)

theorem importNamed_eq_ok_iff {entry : SourceName × Json} {named : SourceName × Node} :
    importNamed options entry = .ok named ↔
      named.1 = entry.1 ∧ importAlone options entry = .ok named.2 := by
  rcases named with ⟨name, unit⟩
  unfold importNamed
  cases importAlone options entry with
  | error cause => exact iff_of_false nofun fun impossible => nomatch impossible.2
  | ok root =>
    constructor
    · rintro ⟨⟩
      exact ⟨rfl, rfl⟩
    · rintro ⟨same, made⟩
      cases same
      cases made
      rfl

theorem importNamed_eq_error_iff {entry : SourceName × Json} {cause : ImportError} :
    importNamed options entry = .error cause ↔ importAlone options entry = .error cause := by
  unfold importNamed
  cases importAlone options entry with
  | error failure =>
    constructor
    · rintro ⟨⟩
      rfl
    · rintro ⟨⟩
      rfl
  | ok root => exact iff_of_false nofun nofun

theorem exists_importNamed_iff {entry : SourceName × Json} :
    (∃ named, importNamed options entry = .ok named) ↔
      ∃ unit, importAlone options entry = .ok unit := by
  constructor
  · rintro ⟨named, made⟩
    exact ⟨named.2, (importNamed_eq_ok_iff.1 made).2⟩
  · rintro ⟨unit, made⟩
    exact ⟨(entry.1, unit), importNamed_eq_ok_iff.2 ⟨rfl, made⟩⟩

theorem importSources_eq (options : ImportOptions) (sources : Sources) :
    importSources options sources = sources.sorted.mapM (importNamed options) := by
  unfold importSources
  congr 1

/-- A batch succeeds if each of its sources does. -/
theorem exists_importSources_iff :
    (∃ trees, importSources options sources = .ok trees) ↔
      ∀ entry ∈ sources, ∃ unit, importAlone options entry = .ok unit := by
  rw [importSources_eq, exists_mapM_eq_ok_iff]
  constructor
  · intro each entry member
    exact exists_importNamed_iff.1 (each entry (sources.mem_sorted.2 member))
  · intro each entry member
    exact exists_importNamed_iff.2 (each entry (sources.mem_sorted.1 member))

/-- A batch that succeeds has one tree for each source, that of the source alone. -/
theorem importSources_trees {trees : List (SourceName × Node)}
    (imported : importSources options sources = .ok trees) :
    (trees.map Prod.fst).Perm (sources.map Prod.fst) ∧
      ∀ name unit, (name, unit) ∈ trees ↔
        ∃ document, (name, document) ∈ sources ∧
          importAlone options (name, document) = .ok unit := by
  rw [importSources_eq, mapM_eq_ok_iff] at imported
  constructor
  · have names : trees.map Prod.fst = sources.sorted.map Prod.fst :=
      map_eq_of_checked imported fun _ _ made => (importNamed_eq_ok_iff.1 made).1
    rw [names]
    exact sources.sorted_perm.map Prod.fst
  · intro name unit
    have listed : (name, unit) ∈ trees ↔
        (.ok (name, unit) : Except ImportError (SourceName × Node)) ∈ trees.map Except.ok := by
      constructor
      · exact List.mem_map_of_mem
      · intro member
        rcases List.mem_map.1 member with ⟨named, inside, same⟩
        cases same
        exact inside
    rw [listed, ← imported, List.mem_map]
    constructor
    · rintro ⟨⟨name', document⟩, member, made⟩
      rcases importNamed_eq_ok_iff.1 made with ⟨same, made⟩
      cases same
      exact ⟨document, sources.mem_sorted.1 member, made⟩
    · rintro ⟨document, member, made⟩
      exact ⟨(name, document), sources.mem_sorted.2 member,
        importNamed_eq_ok_iff.2 ⟨rfl, made⟩⟩

/-- Before a source that fails first, in the order of names, all sources pass. -/
theorem Sources.FailsFirst.passes {entry : SourceName × Json} {cause : ImportError}
    (fails : sources.FailsFirst options entry cause) (distinct : (sources.map Prod.fst).Nodup)
    {before after : Sources} (split : sources.sorted = before ++ entry :: after) :
    ∀ earlier ∈ before, ∃ unit, importAlone options earlier = .ok unit := by
  intro earlier member
  cases made : importAlone options earlier with
  | ok unit => exact ⟨unit, rfl⟩
  | error failure =>
    have inside : earlier ∈ sources := by
      rw [← sources.mem_sorted, split]
      exact List.mem_append_left _ member
    have ordered := sources.sorted_pairwise
    rw [split] at ordered
    have below : earlier.1.bytes ≤ entry.1.bytes :=
      (List.pairwise_append.1 ordered).2.2 earlier member entry (List.mem_cons_self ..)
    have above := fails.least earlier inside ⟨failure, made⟩
    have same : earlier.1 = entry.1 :=
      String.le_antisymm (SourceName.le_iff_bytes_le.2 below) (SourceName.le_iff_bytes_le.2 above)
    have apart : (sources.sorted.map Prod.fst).Nodup :=
      (sources.sorted_perm.map Prod.fst).nodup_iff.2 distinct
    rw [split, List.map_append] at apart
    exact absurd same (List.nodup_append.1 apart |>.2.2 _ (List.mem_map_of_mem member) _
      (List.mem_cons_self ..))

/-- A batch fails with the error of the source that fails first. -/
theorem importSources_eq_error_iff (distinct : (sources.map Prod.fst).Nodup)
    {cause : ImportError} :
    importSources options sources = .error cause ↔
      ∃ entry, sources.FailsFirst options entry cause := by
  rw [importSources_eq, mapM_eq_error_iff]
  constructor
  · rintro ⟨before, entry, after, split, passed, failed⟩
    have ordered := sources.sorted_pairwise
    rw [split] at ordered
    refine ⟨entry, ?_, importNamed_eq_error_iff.1 failed, fun other member failing => ?_⟩
    · rw [← sources.mem_sorted, split]
      exact List.mem_append_right _ (List.mem_cons_self ..)
    · rw [← sources.mem_sorted, split, List.mem_append, List.mem_cons] at member
      rcases member with earlier | rfl | later
      · rcases exists_importNamed_iff.1 (passed other earlier) with ⟨unit, made⟩
        rcases failing with ⟨failure, made'⟩
        cases made.symm.trans made'
      · exact List.le_refl _
      · exact (List.pairwise_cons.1 (List.pairwise_append.1 ordered).2.1).1 other later
  · rintro ⟨entry, fails⟩
    rcases List.append_of_mem (sources.mem_sorted.2 fails.member) with ⟨before, after, split⟩
    refine ⟨before, entry, after, split, fun earlier member => ?_,
      importNamed_eq_error_iff.2 fails.fails⟩
    exact exists_importNamed_iff.2 (fails.passes distinct split earlier member)

/-- The results of the sources may be collected in any order, and each from an import
of its own: taken in the order of the names, they make the batch. -/
theorem importSources_of_results (distinct : (sources.map Prod.fst).Nodup)
    {results : List (SourceName × Except ImportError Node)}
    (collected : results.Perm (sources.map fun entry => (entry.1, importAlone options entry))) :
    (results.mergeSort fun first second => decide (first.1 ≤ second.1)).mapM
        (fun (name, result) => result.map (Prod.mk name)) = importSources options sources := by
  let tag := fun entry => (entry.1, importAlone options entry)
  have apart : ((sources.map tag).map Prod.fst).Nodup := by rwa [List.map_map]
  have sorted : results.mergeSort (fun first second => decide (first.1 ≤ second.1)) =
      sources.sorted.map tag := by
    have perm : (results.mergeSort fun first second => decide (first.1 ≤ second.1)).Perm
        (sources.map tag) := (List.mergeSort_perm _ _).trans collected
    have perm' : (sources.sorted.map tag).Perm (sources.map tag) := sources.sorted_perm.map tag
    refine (perm.trans perm'.symm).eq_of_pairwise (fun first second here there below above => ?_)
      (pairwise_sorted results) (List.pairwise_map.2 (pairwise_sorted sources))
    exact List.inj_on_of_nodup_map apart (perm.mem_iff.1 here) (perm'.mem_iff.1 there)
      (String.le_antisymm below above)
  rw [sorted, importSources_eq, List.mapM_map]
  rfl

end Batch

/-- A batch is the imports of its sources, each by itself and under its own name.  It
succeeds if they all do, with exactly their trees.  Otherwise it fails with the error of
the source with the least name among those that fail, and it still does so if other
sources are added, removed or altered, as long as none with a smaller name fails. -/
theorem importSources_independent (options : ImportOptions) (sources : Sources)
    (distinct : (sources.map Prod.fst).Nodup) :
    ((∃ trees, importSources options sources = .ok trees) ↔
      ∀ entry ∈ sources, ∃ unit, importAlone options entry = .ok unit) ∧
    (∀ trees, importSources options sources = .ok trees →
      (trees.map Prod.fst).Perm (sources.map Prod.fst) ∧
        ∀ name unit, (name, unit) ∈ trees ↔ ∃ document, (name, document) ∈ sources ∧
          importAlone options (name, document) = .ok unit) ∧
    (∀ cause, importSources options sources = .error cause ↔
      ∃ entry, sources.FailsFirst options entry cause) ∧
    ∀ entry cause, sources.FailsFirst options entry cause →
      ∀ others : Sources, (others.map Prod.fst).Nodup → entry ∈ others →
        (∀ other ∈ others, other.1.bytes < entry.1.bytes →
          ∃ unit, importAlone options other = .ok unit) →
        importSources options others = .error cause := by
  refine ⟨exists_importSources_iff, fun _ => importSources_trees,
    fun _ => importSources_eq_error_iff distinct, ?_⟩
  intro entry cause first others apart member smaller
  refine (importSources_eq_error_iff apart).2 ⟨entry, member, first.fails, ?_⟩
  rintro other inside ⟨failure, failing⟩
  by_cases below : other.1.bytes < entry.1.bytes
  · rcases smaller other inside below with ⟨unit, made⟩
    cases made.symm.trans failing
  · exact List.not_lt.1 below

/-! ## Batches of units with the same identifiers -/

/-- A unit with one node, which has the tag. -/
def taggedUnit (tag : String) : Json :=
  .obj [("nodeType", .str "SourceUnit"), ("id", .int 1), ("src", .str "0:20"), ("nodes", .arr [
    .obj [("nodeType", .str tag), ("id", .int 2), ("src", .str "0:20")]])]

def brokenBatch : Sources :=
  [("C.sol", taggedUnit "Zeta"), ("A.sol", taggedUnit "Throw"), ("B.sol", taggedUnit "Beta")]

theorem failsFirst_brokenBatch :
    brokenBatch.FailsFirst .strict ("B.sol", taggedUnit "Beta") (.unknownKind "Beta") := by
  have passes : importAlone .strict ("A.sol", taggedUnit "Throw") = .ok
      ⟨1, ⟨"A.sol", ⟨0, 20⟩⟩, .declaration (.sourceUnit none [
        ⟨2, ⟨"A.sol", ⟨0, 20⟩⟩, .statement .throw⟩])⟩ := by decide +kernel
  refine ⟨by simp [brokenBatch], by decide +kernel, ?_⟩
  rintro other member ⟨failure, failing⟩
  simp only [brokenBatch, List.mem_cons, List.not_mem_nil, or_false] at member
  rcases member with rfl | rfl | rfl
  · decide +kernel
  · cases passes.symm.trans failing
  · exact List.le_refl _

/-- Two sources with the same identifiers. -/
def sharingBatch : Sources :=
  [("B.sol", taggedUnit "Throw"), ("A.sol", taggedUnit "Break")]

/-- The first batch fails with the error of its second source in the order of names, and
it still does after the third has been altered and the first has been removed.  In the
second batch the identifiers of the one source are those of the other, and both pass. -/
theorem importSources_independent_brokenBatch :
    importSources .strict brokenBatch = .error (.unknownKind "Beta") ∧
      importSources .strict [("B.sol", taggedUnit "Beta"), ("C.sol", taggedUnit "Eta")] =
        .error (.unknownKind "Beta") ∧
      ∃ trees, importSources .strict sharingBatch = .ok trees ∧
        (trees.map Prod.fst).Perm ["B.sol", "A.sol"] := by
  have distinct : (brokenBatch.map Prod.fst).Nodup := by decide +kernel
  rcases importSources_independent .strict brokenBatch distinct with ⟨_, _, fails, keeps⟩
  refine ⟨(fails _).2 ⟨_, failsFirst_brokenBatch⟩,
    keeps _ _ failsFirst_brokenBatch _ (by decide +kernel) (List.mem_cons_self ..) ?_, ?_⟩
  · intro other member below
    simp only [List.mem_cons, List.not_mem_nil, or_false] at member
    rcases member with rfl | rfl
    · exact absurd below (List.lt_irrefl _)
    · exact absurd below (by decide +kernel)
  · have apart : (sharingBatch.map Prod.fst).Nodup := by decide +kernel
    rcases importSources_independent .strict sharingBatch apart with ⟨succeeds, made, _⟩
    have finished : ∀ entry ∈ sharingBatch,
        (importAlone .strict entry).toOption.isSome = true := by decide +kernel
    have passes : ∀ entry ∈ sharingBatch, ∃ unit, importAlone .strict entry = .ok unit := by
      intro entry member
      have isSome := finished entry member
      cases made : importAlone .strict entry with
      | ok unit => exact ⟨unit, rfl⟩
      | error cause =>
        rw [made] at isSome
        cases isSome
    rcases succeeds.2 passes with ⟨trees, imported⟩
    exact ⟨trees, imported, (made trees imported).1⟩

end ContractTree
