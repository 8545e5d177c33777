import ClassDiagram.Draft.Analysis
import ClassDiagram.Proofs.Draft.Inquiries
import ClassDiagram.Proofs.Draft.View
import ClassDiagram.Proofs.Fallible
import ClassDiagram.Proofs.Model.Changes
import ClassDiagram.Proofs.Model.Findings

/-!
# The check of a draft and of its linked form

Where nothing is given beside the tree, names and literals are those of the tree: they count, are compared and are
shown as they are.  So the check of a draft in which everything is of its kind finds what the check of its linked form
finds (`IsTyped.gives_findings`).
-/

set_option autoImplicit false

namespace ClassDiagram.Draft

open Inquiry

/-! ## Nothing given -/

namespace GivenAt

/-- Nothing is given beside the tree. -/
def nothing : GivenAt := ⟨[]⟩

/-- Where nothing was given, a name counts as it is. -/
theorem counted_nothing (key : Key) (name : String) : nothing.counted key name = name := by
  change (if (Document.text name).isGiven then name else "") = name
  rw [Document.isGiven]
  by_cases empty : name.isEmpty = true
  · rw [String.isEmpty_iff.1 empty]
    rfl
  · rw [if_pos (by simp [empty])]

/-- Where nothing was given, the literals of a type are texts. -/
theorem literals_nothing (t : LinkedType) : nothing.literals t = .ok (t.literals.map .text) := by
  obtain ⟨place, name, body⟩ := t
  cases body <;> rfl

/-- Where nothing was given, a link is quiet as it is. -/
theorem quietLink_nothing (field : RefField) (l : Link) : nothing.quietLink field l = l := by
  obtain ⟨name, target⟩ := l
  unfold quietLink
  split
  · cases target with
    | none => rfl
    | some t => exact congrArg (fun n => Link.mk name (some ⟨t.key, t.kind, n, t.home⟩)) (counted_nothing _ _)
  · rfl

/-- Where nothing was given, a type is quiet as it is. -/
theorem quietType_nothing (t : LinkedType) : nothing.quietType t = t := by
  obtain ⟨place, name, body⟩ := t
  cases body with
  | association ends => exact congrArg (Classifier.mk place · (.association ends)) (counted_nothing _ _)
  | _ => rfl

/-- Every name counts where nothing is given. -/
theorem quiet_nothing (m : Linked) : nothing.quiet m = m := by
  have change : ({ classifier := nothing.quietType } : Change Place Link) = .none := by
    have same : nothing.quietType = id := funext quietType_nothing
    rw [same]
    rfl
  have links : (fun _ field _ l => nothing.quietLink field l : Place → RefField → Nat → Link → Link) =
      fun _ _ _ l => l := by
    funext _ field _ l
    exact quietLink_nothing field l
  rw [quiet, change, links, Model.map_self, Change.ofModel_none]

/-- Where nothing was given, a type is compared as it is. -/
theorem comparedType_nothing (t : LinkedType) : nothing.comparedType t = t := by
  obtain ⟨place, name, body⟩ := t
  cases body with
  | enumeration literals =>
    have texts : (literals.map Document.text).map nothing.comparedBy = literals := by
      rw [List.map_map]
      exact List.map_id literals
    exact congrArg (fun ls => Classifier.mk place name (.enumeration ls)) texts
  | _ => rfl

/-- Every name is compared as it is where nothing is given. -/
theorem compared_nothing (m : Linked) : nothing.compared m = m := by
  have change : ({
      package := fun p => { p with name := nothing.comparedName p.place.key p.name }
      classifier := nothing.comparedType
      property := fun p => { p with name := nothing.comparedName p.place.key p.name }
      operation := fun o => { o with name := nothing.comparedName o.place.key o.name } } :
        Change Place Link) = .none := by
    have types : nothing.comparedType = id := funext comparedType_nothing
    have packages : (fun p : LinkedPackage => { p with name := nothing.comparedName p.place.key p.name }) = id := by
      funext ⟨_, _, _, _⟩
      rfl
    rw [types, packages]
    rfl
  rw [compared, change, Change.ofModel_none]

/-- Where nothing was given, findings are told as they are. -/
theorem counting_nothing (found : List Diagnostic) : counting nothing found = found := by
  refine List.filter_eq_self.2 fun x _ => ?_
  have none : givenWhere nothing x = none := by
    rw [givenWhere]
    rfl
  rw [none]
  exact Bool.or_true _

end GivenAt

/-! ## Findings as they are shown -/

/-- Whether a finding about a name that an element shares is at the element with this name. -/
def NamesItself (x : Diagnostic) : Prop :=
  GivenAt.shownFinding .nothing x.targetName none x.finding = x.finding

/-- Where nothing was given, a finding that names what it is about is shown as it is. -/
theorem GivenAt.shown_nothing {x : Diagnostic} (named : NamesItself x) : GivenAt.nothing.shown x = x := by
  obtain ⟨finding, target, name, field, index⟩ := x
  have none : givenWhere .nothing ⟨finding, target, name, field, index⟩ = none := by
    rw [givenWhere]
    rfl
  rw [shown, none]
  exact congrArg (Diagnostic.mk · target name field index) named

namespace Validation

open ClassDiagram.Validation

variable {x : Diagnostic} {m : Linked}

/-- A finding about the structure of a model names what it is about. -/
theorem namesItself_of_isStructural (structural : IsStructural x) : NamesItself x := by
  obtain ⟨finding, target, name, field, index⟩ := x
  cases finding with
  | duplicateName label own =>
    obtain rfl : own = name := structural
    rfl
  | endClashesWithProperty own =>
    obtain rfl : own = name := structural
    rfl
  | duplicateEnd own owner =>
    obtain rfl : own = name := structural
    rfl
  | _ => rfl

/-- Every finding about a linked model names what it is about. -/
theorem namesItself_diagnostics {report : Bool} (found : x ∈ m.diagnostics report) : NamesItself x := by
  rcases List.mem_append.1 found with structural | reference
  · exact namesItself_of_isStructural (isStructural_of_mem structural)
  · split at reference
    · obtain ⟨e, _, within⟩ := List.mem_flatMap.1 reference
      obtain ⟨r, _, built⟩ := List.mem_filterMap.1 within
      obtain ⟨_, same⟩ := Option.ite_none_right_eq_some.1 built
      obtain rfl := Option.some.inj same
      rfl
    · cases reference

end Validation

/-! ## Names where nothing is given -/

/-- A name that is a text has the letters that conventions ask for. -/
theorem nameHasLetters_text (use name : String) : nameHasLetters use (.text name) = .ok () := by
  rw [nameHasLetters]
  split <;> rfl

/-- Where nothing was given, all names have letters. -/
theorem namesHaveLetters_nothing (m : Linked) : namesHaveLetters .nothing m = .ok () := by
  have types : m.model.types.forM (typeHasLetters .nothing) = .ok () := by
    refine forM_eq_ok fun t _ => ?_
    have literals : (t.literals.map Document.text).forM literalHasLetters = .ok () := by
      refine forM_eq_ok fun literal there => ?_
      obtain ⟨text, _, rfl⟩ := List.mem_map.1 there
      rfl
    have name : nameHasLetters "upper" (GivenAt.nothing.name t.key t.name) = .ok () := nameHasLetters_text _ _
    rw [typeHasLetters, GivenAt.literals_nothing, name]
    split
    · exact literals
    · exact literals
  have features : m.model.elements.forM (featureHasLetters .nothing) = .ok () := by
    refine forM_eq_ok fun e _ => ?_
    unfold featureHasLetters
    split
    · exact nameHasLetters_text _ _
    · exact nameHasLetters_text _ _
    · rfl
  rw [namesHaveLetters, types]
  exact features

/-- Where nothing was given, names can be told apart. -/
theorem distinguishable_nothing (items : List (String × Key)) : distinguishable .nothing items = .ok () :=
  forM_eq_ok fun _ _ => rfl

/-- Where nothing was given, the names in all scopes can be told apart. -/
theorem scopesDistinguishable_nothing (m : Linked) : scopesDistinguishable .nothing m = .ok () := by
  have type (t : LinkedType) : typeDistinguishable .nothing t = .ok () := by
    have literals : (t.literals.map Document.text).forM (fun literal => discard literal.asKey) =
        (.ok () : Except Misfit Unit) := by
      refine forM_eq_ok fun literal there => ?_
      obtain ⟨text, _, rfl⟩ := List.mem_map.1 there
      rfl
    simp only [typeDistinguishable, distinguishable_nothing, GivenAt.literals_nothing]
    exact literals
  have package (p : LinkedPackage) : packageDistinguishable .nothing p = .ok () := by
    simp only [packageDistinguishable, distinguishable_nothing]
    exact forM_eq_ok fun t _ => type t
  simp only [scopesDistinguishable, distinguishable_nothing]
  exact forM_eq_ok fun p _ => package p

/-- Where nothing was given, the names of members can be told apart. -/
theorem membersDistinguishable_nothing (m : Linked) (t : LinkedType) :
    membersDistinguishable .nothing m t = .ok () := by
  simp only [membersDistinguishable, distinguishable_nothing]
  rfl

/-! ## Reading -/

variable {d : Draft}

/-- In a typed draft nothing was given beside the tree. -/
theorem IsTyped.givenAt_eq (typed : d.IsTyped) : d.givenAt = .nothing := by
  rw [givenAt, typed.given]
  rfl

/-- Where everything is of its kind, the linked form is one in which all names count. -/
theorem IsTyped.forms_eq (typed : d.IsTyped) : d.forms = ⟨d.positions, d.view, .nothing, d.view⟩ := by
  rw [forms, typed.givenAt_eq, GivenAt.quiet_nothing]

section

variable (typed : d.IsTyped)
include typed

/-- Nothing is in the way of reading the references of a type in a field. -/
theorem IsTyped.gives_readEach {t : Classifier Handle Pointer} (there : .classifier t ∈ d.elements)
    (field : RefField) {next : Option Holder → Inquiry Unit}
    (passes : ∀ target, target ≠ some .model → (next target).Gives (.ok ())) :
    (d.readEach t.place.origin field (t.supersIn field) next).Gives (.ok ()) := by
  refine gives_forM fun (p, i) among => ?_
  have reference : (field, i, p) ∈ (Element.classifier t).references := by
    have listed : (field, i, p) ∈ numbered field (t.supersIn field) := List.mem_map.2 ⟨(p, i), among, rfl⟩
    obtain ⟨place, name, body⟩ := t
    cases body with
    | classBody c =>
      cases field with
      | type => cases among
      | superClasses => exact List.mem_append_left _ listed
      | superInterfaces => exact List.mem_append_right _ listed
    | interface c =>
      cases field with
      | superInterfaces => exact listed
      | type => cases among
      | superClasses => cases among
    | datatype properties => cases among
    | primitive => cases among
    | enumeration literals => cases among
    | association ends => cases among
  refine (typed.gives_read there reference i).then (passes _ ?_)
  exact typed.targetOf_ne_model there reference

/-- Nothing is in the way of reading the type of an element. -/
theorem IsTyped.gives_readType {e : Element Handle Pointer} (there : e ∈ d.elements) {type : Option Pointer}
    (own : e.references = typeReference type) :
    ∃ target, (d.readType e.place type).Gives (.ok target) ∧ target ≠ some .model := by
  cases type with
  | none => exact ⟨none, gives_pure none, by simp⟩
  | some p =>
    have among : (RefField.type, 0, p) ∈ e.references := by simp [own, typeReference]
    exact ⟨_, typed.gives_read there among 0, typed.targetOf_ne_model there among⟩

/-- Reading the ends of a typed draft meets nothing in the way. -/
theorem IsTyped.gives_readEnds : d.readEnds.Gives (.ok ()) := by
  refine gives_forM fun p among => ?_
  obtain ⟨t, kind, part⟩ := List.mem_flatMap.1 among
  have known : Element.classifier t ∈ d.model.elements := Model.mem_types_iff.1 (List.mem_filter.1 kind).1
  have inside : Element.property p ∈ d.model.elements := Model.mem_elements_of_mem_parts known (by simp [part])
  have own : (Element.property p).references = typeReference p.type := rfl
  obtain ⟨target, reads, _⟩ := typed.gives_readType (mem_elements_of_tree inside) own
  exact reads.discard

/-- Reading the super types of a typed draft meets nothing in the way. -/
theorem IsTyped.gives_readInheritance : d.readInheritance.Gives (.ok ()) := by
  have graph (kind : Kind) (field : RefField) : (d.readGraph kind field).Gives (.ok ()) := by
    refine gives_forM fun origin _ => ?_
    unfold readSupers
    split
    · exact gives_pure ()
    · next t found =>
      obtain ⟨e, element, isType⟩ := Option.bind_eq_some_iff.1 found
      obtain rfl := asType_eq_some.1 isType
      have same : (Element.classifier t).place.origin = origin := by simpa using List.find?_some element
      subst same
      exact typed.gives_readEach (List.mem_of_find?_eq_some element) field fun _ _ => gives_pure ()
  exact (graph .classKind .superClasses).then (graph .interface .superInterfaces)

/-! ## The check -/

/-- Nothing is in the way of the check of a draft in which everything is of its kind. -/
theorem IsTyped.gives_inspect {f : Forms} (plain : f.given = .nothing) (report : Bool) :
    (d.inspect f report).Gives (.ok ()) := by
  have members : f.linked.classes.forM (membersDistinguishable .nothing f.linked) = .ok () :=
    forM_eq_ok fun t _ => membersDistinguishable_nothing _ t
  have references : Gives (d.model.elements.forM d.readAll) (.ok ()) := by
    refine gives_forM fun e there => gives_forM fun r among => ?_
    exact (typed.gives_read (mem_elements_of_tree there) among r.2.1).discard
  have last : Gives (if report then d.model.elements.forM d.readAll else pure ()) (.ok ()) := by
    cases report with
    | true => exact references
    | false => exact gives_pure ()
  rw [inspect, plain, namesHaveLetters_nothing, scopesDistinguishable_nothing, members]
  refine (gives_of (.ok ())).then ((gives_of (.ok ())).then ?_)
  exact typed.gives_readInheritance.then (typed.gives_readEnds.then ((gives_of (.ok ())).then last))

omit typed in
/-- Where nothing was given, the findings are those about the linked form, after the draft was gone through. -/
theorem findings_of_nothing {f : Forms} (plain : f.given = .nothing) (report : Bool) :
    d.findings f report = do d.inspect f report; return f.linked.diagnostics report := by
  have shown : (f.linked.diagnostics report).map GivenAt.nothing.shown = f.linked.diagnostics report := by
    refine (List.map_congr_left fun x found => ?_).trans (List.map_id _)
    exact GivenAt.shown_nothing (Validation.namesItself_diagnostics found)
  unfold findings
  dsimp only
  rw [plain, GivenAt.compared_nothing, GivenAt.counting_nothing, shown]

/-- The check of a draft in which everything is of its kind finds what that of its linked form finds. -/
theorem IsTyped.gives_findings (report : Bool) :
    (d.findings d.forms report).Gives (.ok (d.view.diagnostics report)) := by
  have plain : d.forms.given = .nothing := typed.givenAt_eq
  rw [findings_of_nothing plain]
  exact (typed.gives_inspect plain report).then (gives_pure _)

/-- The diagnostics of a typed draft are those of its linked form. -/
theorem IsTyped.diagnostics_eq (report : Bool) :
    (d.diagnostics report).1 = .ok (d.view.diagnostics report) :=
  (typed.gives_findings report).ask_eq d

/-- What a check of a typed draft found are the diagnostics of its linked form. -/
theorem IsTyped.eq_of_diagnostics {report : Bool} {found : List Diagnostic}
    (checked : (d.diagnostics report).1 = .ok found) : d.view.diagnostics report = found :=
  Except.ok.inj ((typed.diagnostics_eq report).symm.trans checked)

end

end ClassDiagram.Draft
