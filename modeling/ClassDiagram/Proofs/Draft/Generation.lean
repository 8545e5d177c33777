import ClassDiagram.Proofs.Draft.Drawing
import ClassDiagram.Proofs.Draft.QualifiedNames
import ClassDiagram.Proofs.Draft.Sources
import ClassDiagram.Proofs.Model.Generation

/-!
# What is generated from a draft

The check of a draft settles its references before anything is written, and so does every file for those after it.
Where everything is of its kind this changes no answer: all that is generated from a draft is what its linked form
gives (`IsTyped.generate_eq`), and a file is the one that the draft gives when nothing else is asked of it.  So what
cannot be written takes nothing away from the rest (`generate_isolates_failures`).
-/

set_option autoImplicit false

namespace ClassDiagram

/-- The packages of a model move with its places. -/
theorem Model.allPackages_map {ι ρ κ σ : Type} (f : ι → κ) (g : ι → RefField → Nat → ρ → σ) (m : Model ι ρ) :
    (m.map f g).allPackages = m.allPackages.map (·.map f g) :=
  allPackages_mapPackages f g m.packages

namespace Draft

open Inquiry

/-- A package of a draft as it is in the linked form. -/
def seenPackage (d : Draft) (p : Package Handle Pointer) : LinkedPackage :=
  p.map (d.placeOf d.positions) (d.linkOf d.positions)

/-- The packages of the linked form of a draft are those of the draft, seen from it. -/
theorem allPackages_view (d : Draft) : d.view.model.allPackages = d.model.allPackages.map d.seenPackage :=
  Model.allPackages_map _ _ d.model

/-! ## Drafts that were read -/

/-- Whether a draft is another one of which references may have been read. -/
def IsReading (d' d : Draft) : Prop := ∃ g, d'.model = d.model.map id g

/-- A draft is a reading of itself. -/
theorem IsReading.refl (d : Draft) : d.IsReading d := ⟨fun _ _ _ p => p, d.model.map_self.symm⟩

/-- A draft some of whose references were followed is a reading of it. -/
theorem isReading_settle (d : Draft) (chosen : Choice) : (d.settle chosen).IsReading d := by
  refine ⟨fun h field i p => if chosen h.origin field i then d.settled h.origin field p else p, ?_⟩
  unfold Draft.settle
  split <;> rfl

/-- An inquiry that is caught goes on with its value, or with the handler of its error. -/
theorem Inquiry.run_tryCatch {α : Type} (q : Inquiry α) (h : Misfit → Inquiry α) (spots : List Spot) :
    (tryCatch q h : Inquiry α).run spots =
      match q.run spots with
      | (.ok a, after) => (.ok a, after)
      | (.error e, after) => (h e).run after := by
  rw [ExceptT.run_tryCatch]
  simp only [bind, StateT.bind]
  rcases q.run spots with ⟨_ | _, after⟩ <;> rfl

/-- An attempt always has an answer, a batch of at most one file or one failure. -/
theorem Inquiry.Gives.attempt {α : Type} {q : Inquiry (Option α)} {x : Except Misfit (Option α)} (gives : q.Gives x)
    (failure : Misfit → Diagnostic) : (attempt failure q).Gives (.ok (Batch.ofResult failure x)) := by
  intro spots
  have known := gives spots
  unfold Draft.attempt
  rw [run_tryCatch, run_bind]
  cases run : q.run spots with
  | mk answer after =>
    rw [run] at known
    subst known
    cases answer <;> rfl

section

variable {d d' : Draft} {g : Handle → RefField → Nat → Pointer → Pointer} (same : d'.model = d.model.map id g)
include same

/-- The forms of the types are those of the draft, each with its linked form. -/
theorem typeForms_eq : d'.typeForms ⟨d.positions, d.view, .nothing, d.view⟩ =
    d.model.types.map fun t => ⟨t.map id g, d.seen t, d.seen t⟩ := by
  rw [typeForms, TypeForms.ofLists, same, Model.types_map, types_view]
  rw [List.zip_map', List.zip_map', List.map_map]
  rfl

/-- The forms of the packages are those of the draft, each with its linked form. -/
theorem packageForms_eq : d'.packageForms ⟨d.positions, d.view, .nothing, d.view⟩ =
    d.model.allPackages.map fun p => (p.map id g, d.seenPackage p, d.seenPackage p) := by
  rw [packageForms, same, Model.allPackages_map, allPackages_view]
  rw [List.zip_map', List.zip_map']

end

/-! ## Files -/

section

variable {d d' : Draft} (typed : d.IsTyped) (typed' : d'.IsTyped) (reading : d'.IsReading d)
include typed typed' reading

/-- The file of each type is that of the linked form. -/
theorem IsReading.gives_sourceOf (s : Java.Settings) :
    ∀ t ∈ d'.typeForms d.forms, (d'.sourceOf s d.forms t).Gives (s.source d.view t.linked) := by
  intro t there
  obtain ⟨g, same⟩ := reading
  rw [typed.forms_eq] at there ⊢
  rw [typeForms_eq same] at there
  obtain ⟨own, known, rfl⟩ := List.mem_map.1 there
  refine typed'.gives_sourceOf ?_ s typed.view_leadsToElements ?_ d.positions
  · rw [same, Model.types_map]
    exact List.mem_map_of_mem known
  · rw [types_view]
    exact List.mem_map_of_mem known

/-- The diagram of each package is that of the linked form. -/
theorem IsReading.gives_diagramOf (s : Diagram.Settings) :
    ∀ p ∈ d'.packageForms d.forms,
      (d'.diagramOf s (.ofStyle s.style) d.forms.given p.1 p.2.1 p.2.2).Gives (s.diagram p.2.1) := by
  intro p there
  obtain ⟨g, same⟩ := reading
  rw [typed.forms_eq] at there ⊢
  rw [packageForms_eq same] at there
  obtain ⟨own, known, rfl⟩ := List.mem_map.1 there
  refine typed'.gives_diagramOf s ?_ ?_
  · rw [same, Model.allPackages_map]
    exact List.mem_map_of_mem known
  · obtain ⟨place, name, packages, types⟩ := own
    rw [seenPackage, Package.map, Package.map, List.map_map, List.map_map]
    refine List.map_congr_left fun t _ => ?_
    obtain ⟨place, name, body⟩ := t
    cases body <;> rfl

omit typed' in
/-- The linked forms of the types are the types of the linked form. -/
theorem IsReading.linked_typeForms : (d'.typeForms d.forms).map (·.linked) = d.view.model.types := by
  obtain ⟨g, same⟩ := reading
  rw [typed.forms_eq, typeForms_eq same, List.map_map, types_view]
  rfl

omit typed' in
/-- The linked forms of the packages are the packages of the linked form. -/
theorem IsReading.linked_packageForms : (d'.packageForms d.forms).map (·.2.1) = d.view.model.allPackages := by
  obtain ⟨g, same⟩ := reading
  rw [typed.forms_eq, packageForms_eq same, List.map_map, allPackages_view]
  rfl

/-- Writing the sources of a draft gives those of its linked form. -/
theorem IsReading.gives_sourceBatch (s : Java.Settings) : (d'.sourceBatch d.forms s).Gives (.ok (s.batch d.view)) := by
  have files : ((d'.typeForms d.forms).mapM fun t => attempt (sourceFailure t.linked) (d'.sourceOf s d.forms t)).Gives
      ((d'.typeForms d.forms).mapM fun t =>
        .ok (Batch.ofResult (sourceFailure t.linked) (s.source d.view t.linked))) :=
    gives_mapM fun t there => (reading.gives_sourceOf typed typed' s t there).attempt _
  have all : ((d'.typeForms d.forms).mapM fun t =>
      (.ok (Batch.ofResult (sourceFailure t.linked) (s.source d.view t.linked)) : Except Misfit _)) =
        .ok (d.view.model.types.map fun t => Batch.ofResult (sourceFailure t) (s.source d.view t)) := by
    rw [← reading.linked_typeForms typed, List.map_map]
    exact List.mapM_pure
  rw [all] at files
  exact typed'.gives_readEnds.then (files.then (gives_pure _))

/-- Drawing the diagrams of a draft gives those of its linked form. -/
theorem IsReading.gives_diagramBatch (s : Diagram.Settings) :
    (d'.diagramBatch d.forms s (.ofStyle s.style)).Gives (.ok (s.batch d.view)) := by
  have files : ((d'.packageForms d.forms).mapM fun (p, linked, quiet) =>
      attempt (diagramFailure linked) (d'.diagramOf s (.ofStyle s.style) d.forms.given p linked quiet)).Gives
        ((d'.packageForms d.forms).mapM fun p : Package Handle Pointer × LinkedPackage × LinkedPackage =>
          .ok (Batch.ofResult (diagramFailure p.2.1) (s.diagram p.2.1))) :=
    gives_mapM fun p there => (reading.gives_diagramOf typed typed' s p there).attempt _
  have all : ((d'.packageForms d.forms).mapM fun p =>
      (.ok (Batch.ofResult (diagramFailure p.2.1) (s.diagram p.2.1)) : Except Misfit _)) =
        .ok (d.view.model.allPackages.map fun p => Batch.ofResult (diagramFailure p) (s.diagram p)) := by
    rw [← reading.linked_packageForms typed, List.map_map]
    exact List.mapM_pure
  rw [all] at files
  exact files.then (gives_pure _)

end

/-! ## All that is generated -/

section

variable {d : Draft} (typed : d.IsTyped)
include typed

/-- All that is generated from a draft is what its linked form gives. -/
theorem IsTyped.generate_eq (c : Configuration) (tree : FileTree) : (d.generate c tree).1 = d.view.generate c tree := by
  have found := (typed.gives_findings c.reportsReferences).ask_eq d
  obtain ⟨chosen, checked⟩ : ∃ chosen, (d.ask (d.findings d.forms c.reportsReferences)).2 = d.settle chosen := ⟨_, rfl⟩
  have files (table : TypeTable) (diagnostics : List Diagnostic) :
      ((d.settle chosen).files d.forms c table diagnostics).Gives
        (.ok ⟨diagnostics ++ ((c.javaSettings table).batch d.view).failures ++
            ((c.diagramSettings .standard).batch d.view).failures,
          ((c.javaSettings table).batch d.view).files, ((c.diagramSettings .standard).batch d.view).files⟩) := by
    have reading := isReading_settle d chosen
    have typed' := typed.settle chosen
    refine (reading.gives_sourceBatch typed typed' (c.javaSettings table)).then ?_
    exact (reading.gives_diagramBatch typed typed' (c.diagramSettings .standard)).then (gives_pure _)
  unfold generate Linked.generate Configuration.check
  dsimp only
  rw [found, checked]
  cases accepted : c.accept (d.view.diagnostics c.reportsReferences) with
  | error e => simp only [Except.mapError, bind, Except.bind, accepted]
  | ok diagnostics =>
    cases tabled : c.typeTable tree with
    | error e => simp only [Except.mapError, bind, Except.bind, accepted]
    | ok table =>
      simp only [Except.mapError, bind, Except.bind, accepted, pure, Except.pure]
      rw [(files table diagnostics).ask_eq]

/-- The Java files of a draft that are written one after another are those of its linked form. -/
theorem IsTyped.sources_eq (s : Java.Settings) : (d.sources s).1 = s.sources d.view := by
  have reading := IsReading.refl d
  have files := gives_mapM (reading.gives_sourceOf typed typed s)
  have same : (d.typeForms d.forms).mapM (fun t => s.source d.view t.linked) =
      d.view.model.types.mapM (s.source d.view) := by
    rw [← reading.linked_typeForms typed, List.mapM_map]
    rfl
  rw [same] at files
  have listed := files.bind fun found _ => gives_pure (found.filterMap id)
  exact (typed.gives_readEnds.then (f := fun _ => _) listed).ask_eq d

/-- The diagrams of a draft that are drawn one after another are those of its linked form. -/
theorem IsTyped.diagrams_eq (s : Diagram.Settings) : (d.diagrams s (.ofStyle s.style)).1 = s.diagrams d.view := by
  have reading := IsReading.refl d
  have files := gives_mapM (reading.gives_diagramOf typed typed s)
  have same : (d.packageForms d.forms).mapM (fun p => s.diagram p.2.1) = d.view.model.allPackages.mapM s.diagram := by
    rw [← reading.linked_packageForms typed, List.mapM_map]
    rfl
  rw [same] at files
  have listed := files.bind fun found _ => gives_pure (found.filterMap id)
  exact listed.ask_eq d

end

/-- Whether the file of each type and the diagram of each package of a draft, asked for by itself and whatever was read
before, is that of the linked form. -/
structure WritesAlone (d : Draft) (s : Java.Settings) (g : Diagram.Settings) : Prop where
  types : (d.typeForms d.forms).map (·.linked) = d.view.model.types
  packages : (d.packageForms d.forms).map (·.2.1) = d.view.model.allPackages
  source : ∀ t ∈ d.typeForms d.forms, (d.sourceOf s d.forms t).Gives (s.source d.view t.linked)
  diagram : ∀ p ∈ d.packageForms d.forms,
    (d.diagramOf g (.ofStyle g.style) d.forms.given p.1 p.2.1 p.2.2).Gives (g.diagram p.2.1)

/-- From every draft in which everything is of its kind all that can be written is generated: each file as it is when
nothing else is asked for, in the order of the elements, and behind the findings of the check one error for each
element that cannot be written.  Where there is none, the files are those that are written one after another. -/
theorem generate_isolates_failures {d : Draft} (typed : d.IsTyped) {c : Configuration} {tree : FileTree}
    {table : TypeTable} (lenient : c.isStrict = false) (tabled : c.typeTable tree = .ok table) :
    ∃ found r, (d.diagnostics c.reportsReferences).1 = .ok found ∧ (d.generate c tree).1 = .ok r ∧
      d.view.WritesAll (c.javaSettings table) (c.diagramSettings .standard) found r ∧
      d.WritesAlone (c.javaSettings table) (c.diagramSettings .standard) ∧
      (r.diagnostics = found → (d.sources (c.javaSettings table)).1 = .ok r.sources ∧
        (d.diagrams (c.diagramSettings .standard) .standard).1 = .ok r.diagrams) := by
  obtain ⟨r, generated, all⟩ := d.view.generate_writesAll lenient tabled
  have reading := IsReading.refl d
  have alone : d.WritesAlone (c.javaSettings table) (c.diagramSettings .standard) :=
    { types := reading.linked_typeForms typed
      packages := reading.linked_packageForms typed
      source := reading.gives_sourceOf typed typed _
      diagram := reading.gives_diagramOf typed typed _ }
  refine ⟨d.view.diagnostics c.reportsReferences, r, typed.diagnostics_eq _, ?_, all, alone, fun free => ⟨?_, ?_⟩⟩
  · rw [typed.generate_eq, generated]
  · rw [typed.sources_eq, all.sources_eq free]
  · rw [← all.diagrams_eq free]
    exact typed.diagrams_eq (c.diagramSettings .standard)

/-- A harbour with a ship whose operation is described by a number, and a mooring with a bound of too many digits. -/
def harbour : Declared :=
  ⟨[⟨(), "harbour",
    [⟨(), "quays", [],
      [⟨(), "Quay", .classBody ⟨false, [], [], [], []⟩⟩,
        ⟨(), "moors", .association
          [⟨(), "ship", some "Ship", .number (Int.ofNat (Nat.pow 10 5000)), .number 1, none, false, .plain⟩,
            ⟨(), "quay", some "Quay", .number 0, .number 1, none, false, .plain⟩]⟩]⟩],
    [⟨(), "Ship", .classBody ⟨false, [],
        [⟨(), "load", none, .number 0, .number 1, [], none, false, false, .int 3, .null⟩], [], []⟩⟩,
      ⟨(), "Flag", .enumeration ["RED", "GREEN"]⟩]⟩]⟩

/-- The ship has no file and the package of the quays no diagram; the rest is written. -/
theorem generate_isolates_failures_in_harbour :
    ∃ found r, ((ofDeclared harbour).diagnostics true).1 = .ok found ∧
      ((ofDeclared harbour).generate .standard []).1 = .ok r ∧
      r.sources.map (·.path) = ["harbour/Flag.java", "harbour/quays/Quay.java"] ∧
      r.diagrams.map (·.name) = ["diagram_harbour"] ∧
      r.diagnostics.map (·.targetName) = found.map (·.targetName) ++ ["Ship", "quays"] := by
  have tabled : Configuration.standard.typeTable [] = .ok ⟨standardPrimitives, []⟩ := rfl
  obtain ⟨found, r, checked, generated, all, -⟩ :=
    generate_isolates_failures (isTyped_ofDeclared harbour) (c := .standard) rfl tabled
  refine ⟨found, r, checked, generated, ?_, ?_, ?_⟩
  · rw [all.sources]
    decide +kernel
  · rw [all.diagrams]
    decide +kernel
  · have failed : (((ofDeclared harbour).view.model.types.filter
        (Configuration.standard.javaSettings ⟨standardPrimitives, []⟩).covers).filterMap fun t =>
          (obstacle? ((Configuration.standard.javaSettings ⟨standardPrimitives, []⟩).source
            (ofDeclared harbour).view t)).map (sourceFailure t)).map (·.targetName) = ["Ship"] := by
      decide +kernel
    have undrawn : (((ofDeclared harbour).view.model.allPackages.filter (!·.types.isEmpty)).filterMap fun p =>
        (obstacle? ((Configuration.standard.diagramSettings .standard).diagram p)).map (diagramFailure p)).map
          (·.targetName) = ["quays"] := by
      decide +kernel
    rw [all.diagnostics, List.append_assoc, List.map_append, List.map_append, failed, undrawn]
    rfl

end Draft

end ClassDiagram
