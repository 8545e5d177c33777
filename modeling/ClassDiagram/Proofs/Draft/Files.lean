import ClassDiagram.Proofs.Draft.Generation
import ClassDiagram.Proofs.Model.Files

/-!
# The files that are generated from a draft

Every Java file is that of a type and has its path, and every diagram is that of a package and has its name, whatever is
left out because it cannot be written (`generate_paths`).  In a linked draft the check tells names side by side apart,
so different types have different routes and so have different packages.  So no two files of one kind have the same name
(`files_distinct`).
-/

set_option autoImplicit false

namespace ClassDiagram.Draft

/-! ## What the files are called -/

/-- The path of the file of a type. -/
def pathOf (t : LinkedType) : String := Java.sourcePath t.place.home t.name

/-- The name of the diagram of a package. -/
def diagramNameOf (baseName : String) (p : LinkedPackage) : String :=
  Diagram.nameOfFile (baseName ++ "_" ++ joinedNames "." p.place.home)

namespace Inquiry

variable {α β γ : Type}

/-- An attempt that finds nothing in the way has at most one file, the answer. -/
theorem files_of_attempt {failure : Misfit → Diagnostic} {q : Inquiry (Option α)} {spots : List Spot} {b : Batch α}
    (answered : ((attempt failure q).run spots).1 = .ok b) :
    b.files = [] ∨ ∃ file, (q.run spots).1 = .ok (some file) ∧ b.files = [file] := by
  unfold attempt at answered
  rw [run_tryCatch, run_bind] at answered
  cases run : q.run spots with
  | mk answer after =>
    rw [run] at answered
    rcases answer with e | _ | file
    · obtain rfl := Except.ok.inj answered
      exact .inl rfl
    · obtain rfl := Except.ok.inj answered
      exact .inl rfl
    · obtain rfl := Except.ok.inj answered
      exact .inr ⟨file, rfl, rfl⟩

/-- The files of attempts are those of some of the elements, in the order of the elements. -/
theorem files_of_attempts {items : List β} {failure : β → Misfit → Diagnostic} {q : β → Inquiry (Option α)}
    (called : α → γ) (own : β → γ)
    (each : ∀ b ∈ items, ∀ spots file, ((q b).run spots).1 = .ok (some file) → called file = own b) {spots : List Spot}
    {batches : List (Batch α)}
    (answered : ((items.mapM fun b => attempt (failure b) (q b)).run spots).1 = .ok batches) :
    ((Batch.concat batches).files.map called).Sublist (items.map own) := by
  induction items generalizing spots batches with
  | nil =>
    obtain rfl := Except.ok.inj answered
    exact List.Sublist.slnil
  | cons b rest ih =>
    rw [List.forall_mem_cons] at each
    rw [List.mapM_cons] at answered
    obtain ⟨batch, first, after, answered⟩ := ok_of_bind answered
    obtain ⟨others, later, after', answered⟩ := ok_of_bind answered
    obtain rfl := Except.ok.inj answered
    have tail := ih each.2 later
    rw [Batch.concat, Batch.append, List.map_append]
    rcases files_of_attempt first with none | ⟨file, answer, one⟩
    · rw [none]
      exact tail.cons _
    · rw [one, List.map_singleton, each.1 spots file answer]
      exact tail.cons_cons _

end Inquiry

open Inquiry

variable {d : Draft}

/-- A file of a type has the path of the type. -/
theorem path_of_sourceOf {s : Java.Settings} {f : Forms} {t : TypeForms} {spots : List Spot} {file : Java.SourceFile}
    (answered : ((d.sourceOf s f t).run spots).1 = .ok (some file)) : file.path = pathOf t.linked := by
  unfold sourceOf at answered
  split at answered
  · cases answered
  · obtain ⟨_, _, _, answered⟩ := ok_of_bind answered
    obtain ⟨text, _, _, answered⟩ := ok_of_bind answered
    obtain ⟨_, _, _, answered⟩ := ok_of_bind answered
    obtain rfl := Option.some.inj (Except.ok.inj answered)
    rfl

/-- A diagram of a package has the name of the package. -/
theorem name_of_diagramOf {s : Diagram.Settings} {v : Diagram.Vocabulary} {g : GivenAt} {p : Package Handle Pointer}
    {linked quiet : LinkedPackage} {spots : List Spot} {file : Diagram.DiagramFile}
    (answered : ((d.diagramOf s v g p linked quiet).run spots).1 = .ok (some file)) :
    Diagram.nameOfFile file.name = diagramNameOf s.baseName linked := by
  unfold diagramOf at answered
  split at answered
  · cases answered
  · obtain ⟨_, _, _, answered⟩ := ok_of_bind answered
    obtain ⟨_, _, _, answered⟩ := ok_of_bind answered
    obtain ⟨_, _, _, answered⟩ := ok_of_bind answered
    obtain ⟨_, _, _, answered⟩ := ok_of_bind answered
    obtain ⟨_, _, _, answered⟩ := ok_of_bind answered
    obtain ⟨_, _, _, answered⟩ := ok_of_bind answered
    obtain ⟨_, _, _, answered⟩ := ok_of_bind answered
    obtain rfl := Option.some.inj (Except.ok.inj answered)
    rfl

/-- The first parts of zipped lists are some of the first list, in order. -/
theorem map_fst_zip_sublist {α β : Type} (l : List α) (l' : List β) : ((l.zip l').map Prod.fst).Sublist l := by
  induction l generalizing l' with
  | nil => exact List.Sublist.slnil
  | cons a rest ih =>
    cases l' with
    | nil => exact List.nil_sublist _
    | cons b rest' => exact (ih rest').cons_cons a

/-- The second parts of zipped lists are some of the second list, in order. -/
theorem map_snd_zip_sublist {α β : Type} (l : List α) (l' : List β) : ((l.zip l').map Prod.snd).Sublist l' := by
  induction l generalizing l' with
  | nil => exact List.nil_sublist _
  | cons a rest ih =>
    cases l' with
    | nil => exact List.Sublist.slnil
    | cons b rest' => exact (ih rest').cons_cons b

/-- The linked forms that are put together with others are some of those given, in order. -/
theorem linked_ofLists_sublist (own : List (Classifier Handle Pointer)) (linked quiet : List LinkedType) :
    ((TypeForms.ofLists own linked quiet).map (·.linked)).Sublist linked := by
  have pairs : (TypeForms.ofLists own linked quiet).map (·.linked) =
      ((own.zip (linked.zip quiet)).map Prod.snd).map Prod.fst := by
    rw [TypeForms.ofLists, List.map_map, List.map_map]
    rfl
  rw [pairs]
  exact ((map_snd_zip_sublist own _).map Prod.fst).trans (map_fst_zip_sublist linked quiet)

/-- A draft answers an inquiry as if nothing had been read before. -/
theorem fst_ask {α : Type} (d : Draft) (q : Inquiry α) : (d.ask q).1 = (q.run []).1 := rfl

/-- What is generated is what some draft writes with the forms that were taken before the check. -/
theorem files_of_generate {c : Configuration} {tree : FileTree} {r : Generated}
    (generated : (d.generate c tree).1 = .ok r) :
    ∃ (checked : Draft) (table : TypeTable) (diagnostics : List Diagnostic),
      ((checked.files d.forms c table diagnostics).run []).1 = .ok r := by
  unfold generate at generated
  dsimp only at generated
  split at generated
  · cases generated
  · next diagnostics table _ =>
    dsimp only at generated
    rw [mapError_eq_ok, fst_ask] at generated
    exact ⟨_, table, diagnostics, generated⟩

/-- The files that are generated are those of some types and of some packages, in their order. -/
theorem generate_paths {c : Configuration} {tree : FileTree} {r : Generated}
    (generated : (d.generate c tree).1 = .ok r) :
    (r.sources.map (·.path)).Sublist (d.view.model.types.map pathOf) ∧
      (r.diagrams.map fun f => Diagram.nameOfFile f.name).Sublist
        (d.view.model.allPackages.map (diagramNameOf c.diagramName)) := by
  obtain ⟨checked, table, diagnostics, run⟩ := files_of_generate generated
  obtain ⟨sources, types, after, run⟩ := ok_of_bind run
  obtain ⟨diagrams, packages, _, run⟩ := ok_of_bind run
  obtain rfl := Except.ok.inj run
  constructor
  · obtain ⟨_, _, _, types⟩ := ok_of_bind types
    obtain ⟨batches, attempts, _, types⟩ := ok_of_bind types
    obtain rfl := Except.ok.inj types
    have linked := (linked_ofLists_sublist checked.model.types d.view.model.types d.forms.quiet.model.types).map pathOf
    rw [List.map_map] at linked
    have ofTypes := files_of_attempts Java.SourceFile.path (fun t : TypeForms => pathOf t.linked)
      (fun t _ spots file answer => path_of_sourceOf answer) attempts
    exact ofTypes.trans linked
  · obtain ⟨batches, attempts, _, packages⟩ := ok_of_bind packages
    obtain rfl := Except.ok.inj packages
    have pairs := (map_snd_zip_sublist checked.model.allPackages
      (d.forms.linked.model.allPackages.zip d.forms.quiet.model.allPackages)).map Prod.fst
    have linked := (pairs.trans (map_fst_zip_sublist _ _)).map (diagramNameOf c.diagramName)
    rw [List.map_map, List.map_map] at linked
    have ofPackages := files_of_attempts (fun f : Diagram.DiagramFile => Diagram.nameOfFile f.name)
      (fun p : Package Handle Pointer × LinkedPackage × LinkedPackage => diagramNameOf c.diagramName p.2.1)
      (fun p _ spots file answer => name_of_diagramOf (s := c.diagramSettings .standard) answer) attempts
    exact ofPackages.trans linked

/-! ## Different names -/

section

variable {found : List Diagnostic} {report : Bool}

/-- Without errors no name is found to be shared. -/
theorem isSingle_of_no_errors (clean : ∀ x ∈ found, x.isError = false) : ∀ x ∈ found, Validation.IsSingle x := by
  intro x there label name same
  have grave : x.isError = true := by
    rw [Diagnostic.isError, Diagnostic.severity, same]
    rfl
  rw [clean x there] at grave
  cases grave

/-- The home of a package is the route to it. -/
theorem IsCurrent.home_of_mem_routedPackages (current : d.IsCurrent) {route : List String}
    {p : Package Handle Pointer} (routed : (route, p) ∈ routedPackages d.model.packages) :
    d.home p.place.origin = route := by
  obtain ⟨path, inner, there, rfl⟩ :=
    at_of_mem_routedPackages (fun q among => Model.At.of_mem_packages among) routed
  rw [List.append_nil] at there
  exact home_eq current.sound current.placed there

variable (current : d.IsCurrent) (distinct : AreDistinct d.model.packages)
  (packages : ∀ p ∈ d.model.allPackages, IsPathPart p.name)
include current distinct packages

/-- No two types have files with the same path. -/
theorem IsCurrent.nodup_paths (types : ∀ t ∈ d.model.types, IsPathPart t.name) :
    (d.view.model.types.map pathOf).Nodup := by
  have routes : d.view.model.types.map pathOf =
      (routedTypes d.model.packages).map fun routed => Java.sourcePath routed.1 routed.2.name := by
    have all : d.model.types = (routedTypes d.model.packages).map Prod.snd :=
      (routedTypes_map_snd d.model.packages).symm
    rw [types_view, all, List.map_map, List.map_map]
    refine List.map_congr_left fun routed there => ?_
    change Java.sourcePath (d.home routed.2.place.origin) routed.2.name = _
    rw [current.home_of_mem_routedTypes there]
  have parts : ∀ routed ∈ routedTypes d.model.packages, ∀ name ∈ routed.1 ++ [routed.2.name], IsPathPart name := by
    intro routed there
    refine List.forall_mem_append.2 ⟨fun name among => ?_, List.forall_mem_singleton.2 ?_⟩
    · obtain ⟨p, held, rfl⟩ := exists_of_mem_route there among
      exact packages p held
    · refine types _ ?_
      change routed.2 ∈ typesIn d.model.packages
      rw [← routedTypes_map_snd]
      exact List.mem_map_of_mem there
  have nonempty : ∀ routed ∈ routedTypes d.model.packages, routed.1 ≠ [] := by
    intro routed there
    obtain ⟨p, _, rest, same⟩ := exists_of_mem_routedTypes there
    simp [same]
  have single : (routedTypes d.model.packages).Nodup := (nodup_routes distinct).of_map
  rw [routes]
  refine single.map_on fun routed there routed' there' same => ?_
  have alike := sourcePath_inj (nonempty routed there) (nonempty routed' there') (parts routed there)
    (parts routed' there') same
  exact List.inj_on_of_nodup_map (nodup_routes distinct) there there' alike

/-- No two packages have diagrams with the same name. -/
theorem IsCurrent.nodup_diagramNames (baseName : String) :
    (d.view.model.allPackages.map (diagramNameOf baseName)).Nodup := by
  have routes : d.view.model.allPackages.map (diagramNameOf baseName) =
      (routedPackages d.model.packages).map fun routed =>
        Diagram.nameOfFile (baseName ++ "_" ++ joinedNames "." routed.1) := by
    have all : d.model.allPackages = (routedPackages d.model.packages).map Prod.snd :=
      (routedPackages_map_snd d.model.packages).symm
    rw [allPackages_view, all, List.map_map, List.map_map]
    refine List.map_congr_left fun routed there => ?_
    have place : (d.seenPackage routed.2).place = d.placeOf d.positions routed.2.place := by
      obtain ⟨_, _, _, _, _⟩ := routed
      rfl
    rw [Function.comp_apply, Function.comp_apply, diagramNameOf, place]
    change Diagram.nameOfFile (baseName ++ "_" ++ joinedNames "." (d.home routed.2.place.origin)) = _
    rw [current.home_of_mem_routedPackages there]
  have parts : ∀ routed ∈ routedPackages d.model.packages, ∀ name ∈ routed.1, IsPathPart name := by
    intro routed there name among
    obtain ⟨p, held, rfl⟩ := exists_of_mem_packageRoute there among
    exact packages p held
  have nonempty : ∀ routed ∈ routedPackages d.model.packages, routed.1 ≠ [] := by
    intro routed there
    obtain ⟨p, _, rest, same⟩ := exists_of_mem_routedPackages there
    simp [same]
  have single : (routedPackages d.model.packages).Nodup := (nodup_packageRoutes distinct).of_map
  rw [routes]
  refine single.map_on fun routed there routed' there' same => ?_
  have alike := nameOfDiagram_inj (nonempty routed there) (nonempty routed' there') (parts routed there)
    (parts routed' there') same
  exact List.inj_on_of_nodup_map (nodup_packageRoutes distinct) there there' alike

end

/-- No two Java files of one run have the same path, and no two diagrams the same name, where the check of a linked draft
finds no errors and all names of packages and types can be parts of a path. -/
theorem files_distinct (linked : d.IsLinked) {report : Bool} {found : List Diagnostic}
    (checked : (d.diagnostics report).1 = .ok found) (clean : ∀ x ∈ found, x.isError = false)
    (packages : ∀ p ∈ d.model.allPackages, IsPathPart p.name) (types : ∀ t ∈ d.model.types, IsPathPart t.name)
    {c : Configuration} {tree : FileTree} {r : Generated} (generated : (d.generate c tree).1 = .ok r) :
    (r.sources.map (·.path)).Nodup ∧ (r.diagrams.map fun f => Diagram.nameOfFile f.name).Nodup := by
  have current := linked.isCurrent
  have distinct := current.sound.areDistinct checked (isSingle_of_no_errors clean)
  obtain ⟨sources, diagrams⟩ := generate_paths generated
  exact ⟨sources.nodup (current.nodup_paths distinct packages types),
    diagrams.nodup (current.nodup_diagramNames distinct packages c.diagramName)⟩

/-- A town with a hall in it and a hall beside it, with a stage in each of the three. -/
def town : Declared :=
  let stage : Classifier Unit String := ⟨(), "Stage", .classBody ⟨false, [], [], [], []⟩⟩
  ⟨[⟨(), "town", [⟨(), "hall", [], [stage]⟩], [stage, ⟨(), "Hall", .enumeration ["SMALL"]⟩]⟩,
    ⟨(), "hall", [], [stage]⟩]⟩

/-- A town with packages and types of the same names has files with distinct paths. -/
theorem files_distinct_in_town :
    ∃ r, ((ofDeclared town).diagnostics true).1 = .ok [] ∧ ((ofDeclared town).generate .standard []).1 = .ok r ∧
      r.sources.map (·.path) =
        ["town/Stage.java", "town/Hall.java", "town/hall/Stage.java", "hall/Stage.java"] ∧
      r.diagrams.map (·.name) = ["diagram_town", "diagram_town.hall", "diagram_hall"] ∧
      (r.sources.map (·.path)).Nodup ∧ (r.diagrams.map fun f => Diagram.nameOfFile f.name).Nodup := by
  have checked : ((ofDeclared town).diagnostics true).1 = .ok [] := by decide +kernel
  have tabled : Configuration.standard.typeTable [] = .ok ⟨standardPrimitives, []⟩ := rfl
  obtain ⟨r, written, all⟩ := (ofDeclared town).view.generate_writesAll (c := .standard) rfl tabled
  have generated := ((isTyped_ofDeclared town).generate_eq .standard []).trans written
  refine ⟨r, checked, generated, ?_, ?_, ?_⟩
  · rw [all.sources]
    decide +kernel
  · rw [all.diagrams]
    decide +kernel
  · exact files_distinct (.declared town) checked (by simp) (by decide +kernel) (by decide +kernel) generated

end ClassDiagram.Draft
