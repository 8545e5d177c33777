import ClassDiagram.Generation
import Mathlib.Data.List.Basic

/-!
# What is generated from a linked model

Each element is written by itself, so one that cannot be written takes nothing away from the others
(`Linked.generate_writesAll`): all files that can be written are there in the order of their elements, and there is one
error for each element that cannot.  Where there is none, the files are those of the writers that stop at the first
error (`Linked.WritesAll.sources_eq`, `Linked.WritesAll.diagrams_eq`).
-/

set_option autoImplicit false

namespace ClassDiagram

/-! ## Batches -/

/-- What is in the way of something. -/
def obstacle? {α : Type} : Except Misfit α → Option Misfit
  | .ok _ => none
  | .error e => some e

/-- What is written, if nothing is in the way and there is something to write. -/
def written? {α : Type} (x : Except Misfit (Option α)) : Option α := x.toOption.join

namespace Batch

variable {α β : Type}

/-- The files of batches are those of each of them. -/
theorem files_concat (batches : List (Batch α)) : (concat batches).files = batches.flatMap (·.files) := by
  induction batches with
  | nil => rfl
  | cons b rest ih => rw [concat, append, ih, List.flatMap_cons]

/-- The failures of batches are those of each of them. -/
theorem failures_concat (batches : List (Batch α)) : (concat batches).failures = batches.flatMap (·.failures) := by
  induction batches with
  | nil => rfl
  | cons b rest ih => rw [concat, append, ih, List.flatMap_cons]

variable (items : List β) (failure : β → Misfit → Diagnostic) (f : β → Except Misfit (Option α))

/-- The files of a batch are those that can be written, in their order. -/
theorem files_of_map : (concat (items.map fun b => ofResult (failure b) (f b))).files =
    items.filterMap fun b => written? (f b) := by
  rw [files_concat, List.flatMap_map, List.filterMap_eq_flatMap_toList]
  refine List.flatMap_congr fun b _ => ?_
  rcases f b with _ | _ | _ <;> rfl

/-- The failures of a batch are those of the elements that cannot be written, in their order. -/
theorem failures_of_map : (concat (items.map fun b => ofResult (failure b) (f b))).failures =
    items.filterMap fun b => (obstacle? (f b)).map (failure b) := by
  rw [failures_concat, List.flatMap_map, List.filterMap_eq_flatMap_toList]
  refine List.flatMap_congr fun b _ => ?_
  rcases f b with _ | _ | _ <;> rfl

/-- Where nothing is in the way, a batch has the files that are written one after another. -/
theorem mapM_of_no_failures (free : ∀ b ∈ items, obstacle? (f b) = none) :
    (do return (← items.mapM f).filterMap id) = Except.ok (items.filterMap fun b => written? (f b)) := by
  induction items with
  | nil => rfl
  | cons b rest ih =>
    rw [List.forall_mem_cons] at free
    have others := ih free.2
    cases written : f b with
    | error e =>
      rw [written] at free
      cases free.1
    | ok file =>
      rw [List.mapM_cons, written, List.filterMap_cons, written]
      cases listed : rest.mapM f with
      | error e =>
        rw [listed] at others
        cases others
      | ok files =>
        rw [listed] at others
        rw [← Except.ok.inj others]
        cases file <;> rfl

end Batch

/-! ## All that is generated -/

namespace Linked

/-- Whether a result has, after the findings of a check, all that can be written of a linked model: the file of each
type that has one and the diagram of each package with types, in their order, and an error for each of them that
cannot be written. -/
structure WritesAll (m : Linked) (s : Java.Settings) (g : Diagram.Settings) (found : List Diagnostic) (r : Generated) :
    Prop where
  sources : r.sources = (m.model.types.filter s.covers).filterMap fun t => written? (s.source m t)
  diagrams : r.diagrams = (m.model.allPackages.filter (!·.types.isEmpty)).filterMap fun p => written? (g.diagram p)
  diagnostics : r.diagnostics = found ++
    ((m.model.types.filter s.covers).filterMap fun t => (obstacle? (s.source m t)).map (sourceFailure t)) ++
    (m.model.allPackages.filter (!·.types.isEmpty)).filterMap fun p => (obstacle? (g.diagram p)).map (diagramFailure p)
  covered : ∀ t ∈ m.model.types, ∀ file, s.source m t = .ok file → file.isSome = s.covers t
  filled : ∀ p ∈ m.model.allPackages, ∀ file, g.diagram p = .ok file → file.isSome = !p.types.isEmpty

variable {m : Linked}

/-- A type has a file, if it can be written, exactly where files are made for its kind. -/
theorem isSome_of_source {s : Java.Settings} {t : LinkedType} {file : Option Java.SourceFile}
    (written : s.source m t = .ok file) : file.isSome = s.covers t := by
  have unit : (s.unit? m t).isSome = s.covers t := by
    obtain ⟨place, name, body⟩ := t
    unfold Java.Settings.unit? Java.Settings.covers
    cases body with
    | enumeration literals =>
      change (if s.writesEnumerations = true then _ else none).isSome = s.writesEnumerations
      cases s.writesEnumerations <;> rfl
    | _ => rfl
  unfold Java.Settings.source at written
  cases found : s.unit? m t with
  | none =>
    rw [found] at unit written
    rw [← unit, ← Except.ok.inj written]
    rfl
  | some u =>
    rw [found] at unit written
    dsimp only at written
    cases text : u.text s.indent with
    | error e =>
      rw [text] at written
      cases written
    | ok text =>
      rw [text] at written
      rw [← unit, ← Except.ok.inj written]
      rfl

/-- A package has a diagram, if it can be drawn, exactly where it has types. -/
theorem isSome_of_diagram {g : Diagram.Settings} {p : LinkedPackage} {file : Option Diagram.DiagramFile}
    (drawn : g.diagram p = .ok file) : file.isSome = !p.types.isEmpty := by
  unfold Diagram.Settings.diagram at drawn
  split at drawn
  · next empty =>
    rw [← Except.ok.inj drawn, empty]
    rfl
  · next full =>
    cases page : (Diagram.writeTypes (Diagram.Page.start g.indent g.style) p.types).mapError (·.error) with
    | error e =>
      rw [page] at drawn
      cases drawn
    | ok w =>
      rw [page] at drawn
      rw [← Except.ok.inj drawn, Bool.eq_false_iff.2 full]
      rfl

/-- There is no file of a type that is not covered. -/
theorem source_of_not_covers {s : Java.Settings} {t : LinkedType} (uncovered : s.covers t = false) :
    s.source m t = .ok none := by
  rw [Java.Settings.source, Java.Settings.unit?, uncovered]
  rfl

/-- There is no diagram of a package without types. -/
theorem diagram_of_isEmpty {g : Diagram.Settings} {p : LinkedPackage} (empty : p.types.isEmpty = true) :
    g.diagram p = .ok none := by
  rw [Diagram.Settings.diagram, if_pos empty]
  rfl

/-- What is made of the items that count is what is made of all. -/
theorem filterMap_filter_of_none {α β : Type} {items : List α} {p : α → Bool} {f : α → Option β}
    (others : ∀ a ∈ items, p a = false → f a = none) : (items.filter p).filterMap f = items.filterMap f := by
  rw [List.filterMap_filter]
  refine List.filterMap_congr fun a there => ?_
  cases counts : p a with
  | true => rfl
  | false => exact (others a there counts).symm

/-- Whatever cannot be written, the rest is. -/
theorem writesAll_of_batches {s : Java.Settings} {g : Diagram.Settings} (found : List Diagnostic) :
    m.WritesAll s g found
      ⟨found ++ (s.batch m).failures ++ (g.batch m).failures, (s.batch m).files, (g.batch m).files⟩ := by
  have type {β : Type} (f : LinkedType → Except Misfit (Option Java.SourceFile) → Option β)
      (nothing : ∀ t, f t (.ok none) = none) :
      (m.model.types.filter s.covers).filterMap (fun t => f t (s.source m t)) =
        m.model.types.filterMap fun t => f t (s.source m t) :=
    filterMap_filter_of_none fun t _ uncovered => by rw [source_of_not_covers uncovered, nothing]
  have package {β : Type} (f : LinkedPackage → Except Misfit (Option Diagram.DiagramFile) → Option β)
      (nothing : ∀ p, f p (.ok none) = none) :
      (m.model.allPackages.filter (!·.types.isEmpty)).filterMap (fun p => f p (g.diagram p)) =
        m.model.allPackages.filterMap fun p => f p (g.diagram p) :=
    filterMap_filter_of_none fun p _ without => by rw [diagram_of_isEmpty (by simpa using without), nothing]
  refine ⟨?_, ?_, ?_, fun t _ file => isSome_of_source, fun p _ file => isSome_of_diagram⟩
  · rw [type (fun _ => written?) fun _ => rfl]
    exact Batch.files_of_map _ _ _
  · rw [package (fun _ => written?) fun _ => rfl]
    exact Batch.files_of_map _ _ _
  · rw [type (fun t x => (obstacle? x).map (sourceFailure t)) fun _ => rfl,
      package (fun p x => (obstacle? x).map (diagramFailure p)) fun _ => rfl]
    exact congrArg₂ _ (congrArg _ (Batch.failures_of_map _ _ _)) (Batch.failures_of_map _ _ _)

/-- Where the types can be named and errors are no obstacle, all that can be written is generated. -/
theorem generate_writesAll {c : Configuration} {files : FileTree} {table : TypeTable} (lenient : c.isStrict = false)
    (tabled : c.typeTable files = .ok table) : ∃ r, m.generate c files = .ok r ∧
      m.WritesAll (c.javaSettings table) (c.diagramSettings .standard) (m.diagnostics c.reportsReferences) r := by
  refine ⟨_, ?_, writesAll_of_batches (m.diagnostics c.reportsReferences)⟩
  rw [generate, Configuration.check, Configuration.accept, lenient, tabled]
  rfl

namespace WritesAll

variable {s : Java.Settings} {g : Diagram.Settings} {found : List Diagnostic} {r : Generated}
  (all : m.WritesAll s g found r) (free : r.diagnostics = found)
include all free

/-- Where nothing failed, nothing is in the way of any file. -/
theorem no_obstacles : (∀ t ∈ m.model.types, obstacle? (s.source m t) = none) ∧
    ∀ p ∈ m.model.allPackages, obstacle? (g.diagram p) = none := by
  have none : ((m.model.types.filter s.covers).filterMap fun t => (obstacle? (s.source m t)).map (sourceFailure t)) = [] ∧
      ((m.model.allPackages.filter (!·.types.isEmpty)).filterMap fun p =>
        (obstacle? (g.diagram p)).map (diagramFailure p)) = [] := by
    have same := all.diagnostics
    rw [free, List.append_assoc] at same
    exact List.append_eq_nil_iff.1 (List.self_eq_append_right.1 same)
  simp only [List.filterMap_eq_nil_iff, List.mem_filter, Option.map_eq_none_iff] at none
  refine ⟨fun t there => ?_, fun p there => ?_⟩
  · cases covered : s.covers t with
    | true => exact none.1 t ⟨there, covered⟩
    | false =>
      rw [source_of_not_covers covered]
      rfl
  · cases empty : p.types.isEmpty with
    | false => exact none.2 p ⟨there, by simp [empty]⟩
    | true =>
      rw [diagram_of_isEmpty empty]
      rfl

/-- Where nothing fails, the Java files are those that are written one after another. -/
theorem sources_eq : s.sources m = .ok r.sources := by
  rw [all.sources, filterMap_filter_of_none fun t _ uncovered => by rw [source_of_not_covers uncovered]; rfl]
  exact Batch.mapM_of_no_failures _ _ (all.no_obstacles free).1

/-- Where nothing fails, the diagrams are those that are drawn one after another. -/
theorem diagrams_eq : g.diagrams m = .ok r.diagrams := by
  rw [all.diagrams, filterMap_filter_of_none fun p _ without => by
    rw [diagram_of_isEmpty (by simpa using without)]
    rfl]
  exact Batch.mapM_of_no_failures _ _ (all.no_obstacles free).2

end WritesAll

end Linked

end ClassDiagram
