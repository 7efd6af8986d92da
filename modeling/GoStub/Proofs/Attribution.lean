import GoStub.Proofs.Outline
import GoStub.Proofs.Dict

/-! References of a source: each qualified name of the source is attributed once, by the imports and
by what the functions around it bind. -/

namespace GoStub

namespace Syntax

namespace SourceFile

theorem occurrences_eq (file : SourceFile) :
    ((occurrencesOf [] (Outline.ofFile file)).filter fun o => Name.isExported o.mention.name) =
      file.sightings.map Sighting.occurrence := by
  have hitem (item : TopLevel) : occurrencesOf [] (Outline.ofTopLevel item) =
      ((TreeNode.topLevel item).sightings []).map Sighting.occurrence :=
    TreeNode.occurrencesOf_outline (TreeNode.topLevel item) (by simp)
  rw [Outline.ofFile, occurrencesOf_flatMap, sightings]
  simp only [hitem]
  rw [← List.map_flatMap, List.filter_map]
  rfl

/-- The paths of the imports that are in the map by their default name while no qualified name has
it as its qualifier. -/
def unusedImports (file : SourceFile) (imports : Dict String) : List String :=
  (file.imports.filter fun spec => spec.name = .default ∧
    imports.get? (Name.ofImportPath spec.path) = some spec.path ∧
    ∀ s ∈ file.sightings, s.qualifier ≠ Name.ofImportPath spec.path).map (·.path)

/-- The source itself says what the name is: it is the local name of an import, or declared at the
level of the file. -/
def Explains (file : SourceFile) (name : String) : Prop :=
  (∃ spec ∈ file.imports, spec.localName? = some name) ∨
    ∃ item ∈ file.items, name ∈ declaredNames item

instance (file : SourceFile) (name : String) : Decidable (file.Explains name) :=
  inferInstanceAs (Decidable (_ ∨ _))

/-- The qualified names whose qualifier is neither in the map nor shadowed around them nor explained
by the source. -/
def unmatched (file : SourceFile) (imports : Dict String) (shadowed : Sighting → Bool) :
    List Sighting :=
  file.sightings.filter fun s =>
    shadowed s = false ∧ imports.get? s.qualifier = none ∧ ¬ file.Explains s.qualifier

end SourceFile

end Syntax

open Syntax

variable (imports : Dict String) (path : Path) (file : SourceFile)

private theorem filterMap_ite {α β : Type} (l : List α) (p : α → Prop) [DecidablePred p]
    (f : α → β) :
    (l.filterMap fun a => if p a then some (f a) else none) = (l.filter p).map f := by
  induction l with
  | nil => rfl
  | cons a l ih => by_cases h : p a <;> simp [h, ih]

theorem unusedDefaults_eq : (ImportView.ofFile imports file).unusedDefaults
    (file.sightings.map Sighting.occurrence) = file.unusedImports imports := by
  simp only [ImportView.unusedDefaults, ImportView.ofFile, SourceFile.unusedImports,
    ← filterMap_ite, List.filter_filterMap, List.map_filterMap]
  apply List.filterMap_congr
  rintro ⟨path, name, line⟩ -
  cases name with
  | default =>
    by_cases hget : imports.get? (Name.ofImportPath path) = some path
    · simp [ImportSpec.localName?, hget, Option.filter_some, Sighting.occurrence,
        Sighting.qualifier]
    · simp [ImportSpec.localName?, hget]
  | _ => simp

theorem isUnmatched_iff (s : Sighting) :
    (ImportView.ofFile imports file).isUnmatched s.occurrence = true ↔
      s.isShadowed = false ∧ imports.get? s.qualifier = none ∧ ¬ file.Explains s.qualifier := by
  simp [ImportView.isUnmatched, ImportView.ofFile, Sighting.occurrence, Sighting.qualifier,
    Dict.contains, SourceFile.Explains, and_assoc]

theorem unmatched_mentions :
    (if (file.unusedImports imports).isEmpty = true then []
      else ((file.sightings.map Sighting.occurrence).filter
        (ImportView.ofFile imports file).isUnmatched).map (·.mention)) =
      if file.unusedImports imports = [] then []
      else (file.unmatched imports Sighting.isShadowed).map (·.mention) := by
  have hfilter : (file.sightings.map Sighting.occurrence).filter
      (ImportView.ofFile imports file).isUnmatched =
        (file.unmatched imports Sighting.isShadowed).map Sighting.occurrence := by
    rw [List.filter_map, SourceFile.unmatched]
    congr 1
    apply List.filter_congr
    intro s _
    rw [Bool.eq_iff_iff, decide_eq_true_iff]
    exact isUnmatched_iff imports file s
  rw [hfilter, List.map_map]
  simp only [List.isEmpty_iff]
  rfl

theorem reference?_occurrence (s : Sighting) :
    (ImportView.ofFile imports file).reference? s.occurrence =
      if s.isShadowed then none
      else (imports.get? s.qualifier).map (⟨·, s.mention.name, s.mention.asType⟩) := by
  cases hs : s.isShadowed <;>
    simp [ImportView.reference?, ImportView.ofFile, Sighting.occurrence, Sighting.qualifier, hs]

theorem shadowed?_occurrence (s : Sighting) :
    (ImportView.ofFile imports file).shadowed? path s.occurrence =
      if s.isShadowed ∧ imports.get? s.qualifier ≠ none then some ⟨path, s.mention, .boundLocally⟩
      else none := by
  cases hs : s.isShadowed <;>
    simp [ImportView.shadowed?, ImportView.ofFile, Sighting.occurrence, Sighting.qualifier, hs,
      Dict.contains, Option.isSome_iff_ne_none]

theorem unguessed?_eq (paths : List String) (m : Mention) :
    ImportView.unguessed? paths path m =
      if Name.matchingImport? m.qualifier paths = none then some ⟨path, m, .noImport⟩
      else none := by
  cases h : Name.matchingImport? m.qualifier paths <;> simp [ImportView.unguessed?, h]

/-- Every qualified name is attributed once. Under an import's name it is a reference, or in doubt
if a function around it binds that name. Under a name that nothing in the source explains, and as
long as some import is unused, it is a reference to the one unused import that may be called so, or
in doubt. Nothing is said of whether a qualifier counts as bound that is a type parameter by the
receiver of a method and not bound otherwise. -/
theorem referencesIn_eq :
    ∃ shadowed : Sighting → Bool,
      (∀ s ∈ file.sightings, ¬ s.BoundByReceiver → (shadowed s = true ↔ s.Bound)) ∧
      (referencesIn imports path file).references =
        (file.sightings.filterMap fun s =>
          if shadowed s then none
          else (imports.get? s.qualifier).map (⟨·, s.mention.name, s.mention.asType⟩)) ++
        (if file.unusedImports imports = [] then []
          else (file.unmatched imports shadowed).filterMap fun s =>
            (Name.matchingImport? s.qualifier (file.unusedImports imports)).map
              (⟨·, s.mention.name, s.mention.asType⟩)) ∧
      (referencesIn imports path file).ambiguous =
        ((file.sightings.filter fun s => shadowed s ∧ imports.get? s.qualifier ≠ none).map fun s =>
          ⟨path, s.mention, .boundLocally⟩) ++
        (if file.unusedImports imports = [] then []
          else ((file.unmatched imports shadowed).filter fun s =>
            Name.matchingImport? s.qualifier (file.unusedImports imports) = none).map fun s =>
              ⟨path, s.mention, .noImport⟩) := by
  refine ⟨Sighting.isShadowed, fun s _ h => Sighting.isShadowed_iff h, ?_⟩
  unfold referencesIn ImportView.sortMentions
  simp only [SourceFile.occurrences_eq, unusedDefaults_eq, unmatched_mentions]
  constructor
  · congr 1
    · rw [List.filterMap_map]
      exact List.filterMap_congr fun s _ => reference?_occurrence imports file s
    · split
      · rfl
      · rw [List.filterMap_map]
        rfl
  · congr 1
    · rw [List.filterMap_map, ← filterMap_ite]
      exact List.filterMap_congr fun s _ => shadowed?_occurrence imports path file s
    · split
      · rfl
      · rw [List.filterMap_map, ← filterMap_ite]
        exact List.filterMap_congr fun s _ =>
          unguessed?_eq path (file.unusedImports imports) s.mention

/-- A source that imports `x` without using it, and uses a variable of its own. -/
def configured : SourceFile where
  items := [
    .package "a",
    .imports [⟨"example.com/x", .default, 3⟩],
    .stmt (.declare (.vars [⟨["cfg"], some ⟨default, .name "T"⟩, []⟩])),
    .func "f" [] ⟨[], []⟩ [.eval [⟨default, .call ⟨default, .name "println"⟩ []
      [⟨default, .selector ⟨default, .name "cfg"⟩ "Name"⟩]⟩]]]

/-- The qualified name in `configured`, with the nodes around it. -/
def configuredName : Sighting where
  around :=
    let call : ExprNode := ⟨default, .call ⟨default, .name "println"⟩ []
      [⟨default, .selector ⟨default, .name "cfg"⟩ "Name"⟩]⟩
    [.expr call, .stmt (.eval [call]), .topLevel (.func "f" [] ⟨[], []⟩ [.eval [call]])]
  mention := ⟨(default : Stretch).line, "cfg", "Name", false⟩

theorem configuredName_mem_sightings : configuredName ∈ configured.sightings := by
  rw [SourceFile.sightings, List.mem_filter, List.mem_flatMap]
  refine ⟨⟨_, List.mem_of_getLast? rfl, ?_⟩, by decide +kernel⟩
  -- from the function to its statement, the call there and the last argument of the call
  apply TreeNode.mem_sightings_of_mem_children (List.mem_of_getLast? rfl)
  apply TreeNode.mem_sightings_of_mem_children (List.mem_of_getLast? rfl)
  apply TreeNode.mem_sightings_of_mem_children (List.mem_of_getLast? rfl)
  exact TreeNode.mem_sightings_of_mention rfl

/-- A qualified name that no import and no function explains is not reported if the file declares
its qualifier, though an import is unused. -/
theorem configured_not_reported :
    configuredName ∈ configured.sightings ∧ ¬ configuredName.Bound ∧
      (Dict.ofList [("x", "example.com/x")]).get? configuredName.qualifier = none ∧
      configured.unusedImports (.ofList [("x", "example.com/x")]) = ["example.com/x"] ∧
      (referencesIn (.ofList [("x", "example.com/x")]) ⟨"main.go"⟩ configured).references = [] ∧
      (referencesIn (.ofList [("x", "example.com/x")]) ⟨"main.go"⟩ configured).ambiguous = [] := by
  have hfound : configured.sightings.map Sighting.occurrence = [configuredName.occurrence] := by
    rw [← SourceFile.occurrences_eq]
    decide +kernel
  refine ⟨configuredName_mem_sightings, by decide +kernel, by decide +kernel, ?_,
    by decide +kernel, by decide +kernel⟩
  rw [← unusedDefaults_eq, hfound]
  decide +kernel

end GoStub
