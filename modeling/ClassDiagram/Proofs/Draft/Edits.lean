import ClassDiagram.Proofs.Draft.Soundness
import ClassDiagram.Proofs.Model.Settled

/-!
# Every edit keeps a draft sound

An edit changes the element with an origin and leaves the others, so there is one lemma for each edit, about
what it does to this element (`isTame_of_own`).
-/

set_option autoImplicit false

namespace ClassDiagram.Draft

variable {d d' : Draft} {o : Origin} {e : Element Handle Pointer} {r : Change Handle Pointer}
  {extra : List (Element Handle Pointer)}

/-! ## Changes of one element -/

/-- A change is tame if what it does to the one element that it changes is. -/
theorem isTame_of_own {f : Element Handle Pointer → Element Handle Pointer}
    (own : ∀ c, r.own c = if c.place.origin = o then f c else c) (place : ∀ c, (f c).place = c.place)
    (complete : ∀ c, IsComplete c → IsComplete (f c)) (parts : ∀ c, (f c).parts.Subperm (extra ++ c.parts)) :
    IsTame r o extra where
  place c := by
    rw [own]
    split
    · exact place c
    · rfl
  complete c whole := by
    rw [own]
    split
    · exact complete c whole
    · exact whole
  parts c := by
    rw [own]
    split
    · exact parts c
    · exact List.Subperm.refl _

/-- A change that puts in nothing keeps a draft sound. -/
theorem IsSound.changed (sound : d.IsSound) (tame : IsTame r o []) : (d.changeAll r).IsSound := by
  refine IsSound.changeAll tame ?_
  rw [List.append_nil]
  exact sound

/-! ## Attributes -/

/-- The change that sets an attribute. -/
def Attribute.change (a : Attribute) : Change Handle Pointer where
  package := a.ofPackage
  classifier := a.ofClassifier
  property := a.ofProperty
  operation := a.ofOperation
  parameter := a.ofParameter

/-- An attribute is neither a reference nor a part. -/
theorem Attribute.own_change (a : Attribute) (c : Element Handle Pointer) :
    (a.change.own c).place = c.place ∧ (a.change.own c).references = c.references ∧
      (a.change.own c).parts = c.parts := by
  cases c with
  | package p => cases a <;> exact ⟨rfl, rfl, rfl⟩
  | classifier t =>
    obtain ⟨place, name, body⟩ := t
    cases a <;> cases body <;> exact ⟨rfl, rfl, rfl⟩
  | property p => cases a <;> exact ⟨rfl, rfl, rfl⟩
  | operation o => cases a <;> exact ⟨rfl, rfl, rfl⟩
  | parameter r => cases a <;> exact ⟨rfl, rfl, rfl⟩

/-- An attribute that is set leaves a draft sound. -/
theorem IsSound.apply (sound : d.IsSound) (origin : Origin) (a : Attribute) :
    (d.apply origin a).IsSound := by
  refine sound.changed (o := origin) (isTame_of_own (f := a.change.own) (fun c => ?_) ?_ ?_ ?_)
  · cases c <;> exact apply_ite _ _ _ _
  · exact fun c => (a.own_change c).1
  · intro c complete
    rwa [IsComplete, (a.own_change c).2.1]
  · intro c
    rw [(a.own_change c).2.2]
    exact List.Subperm.refl _

/-- A value that is kept as it was given leaves a draft sound, unless it is a name that does not fit. -/
theorem IsSound.keepGiven (sound : d.IsSound) {g : GivenValue} {fits : Bool}
    (named : g.field = "name" → fits = true) : (d.keepGiven g fits).IsSound := by
  refine ⟨sound.apart, sound.known, sound.present, fun h there => ?_⟩
  have others {h : GivenValue}
      (there : h ∈ d.given.filter fun h => !(h.holder == g.holder && h.field == g.field)) :
      h.field ≠ "name" := sound.named h (List.mem_filter.1 there).1
  change h ∈ (if fits then _ else _) at there
  cases fits with
  | true => exact others there
  | false =>
    rcases List.mem_append.1 there with old | new
    · exact others old
    · rw [List.mem_singleton.1 new]
      exact fun name => Bool.false_ne_true (named name)

/-- Any value may be given to an attribute, but for a name it has to be a text. -/
theorem IsSound.set (sound : d.IsSound) {holder : Holder} {word : String} {value : Document}
    (named : word = "name" → d.canHold holder word value = true) : (d.set holder word value).IsSound := by
  have kept : (d.keepGiven ⟨holder, word, value⟩ (d.canHold holder word value)).IsSound :=
    sound.keepGiven named
  unfold Draft.set
  split
  · exact kept.apply _ _
  · exact kept

/-! ## References -/

/-- The reference to a type is present exactly if there is none or it is. -/
theorem present_typeReference {type : Option Pointer} :
    (∀ r ∈ typeReference type, r.2.2.isAbsent = false) ↔ ∀ p ∈ type, p.isAbsent = false := by
  rw [typeReference, List.forall_mem_map]
  simp

/-- Numbered references are present exactly if each of them is. -/
theorem present_numbered {field : RefField} {ps : List Pointer} :
    (∀ r ∈ numbered field ps, r.2.2.isAbsent = false) ↔ ∀ p ∈ ps, p.isAbsent = false := by
  have items := List.forall_mem_map (l := ps.zipIdx) (f := Prod.fst) (P := fun p => p.isAbsent = false)
  rw [List.zipIdx_map_fst] at items
  rw [items, numbered, List.forall_mem_map]

/-- The change that sets the types of elements. -/
def typeChange (type : Option Pointer) : Change Handle Pointer where
  property p := { p with type := type }
  operation o := { o with type := type }
  parameter r := { r with type := type }

/-- A type that is set leaves a draft sound. -/
theorem IsSound.setType (sound : d.IsSound) {holder : Holder} {type : Option Pointer}
    (present : ∀ p ∈ type, p.isAbsent = false) : (d.setType holder type).IsSound := by
  have beside (given : List GivenType) : ({ d with givenTypes := given } : Draft).IsSound :=
    ⟨sound.apart, sound.known, sound.present, sound.named⟩
  cases holder with
  | model => exact beside _
  | element origin =>
    rw [Draft.setType]
    split
    · refine sound.changed (o := origin) (isTame_of_own (f := (typeChange type).own) (fun c => ?_) (fun c => ?_)
        (fun c complete => ?_) fun c => ?_)
      · cases c with
        | package p => exact (ite_self _).symm
        | classifier t => exact (ite_self _).symm
        | property p => exact apply_ite _ _ _ _
        | operation o => exact apply_ite _ _ _ _
        | parameter r => exact apply_ite _ _ _ _
      · cases c <;> rfl
      · cases c with
        | package p => exact complete
        | classifier t => exact complete
        | property p => exact present_typeReference.2 present
        | operation o => exact present_typeReference.2 present
        | parameter r => exact present_typeReference.2 present
      · cases c <;> exact List.Subperm.refl _
    · exact beside _

/-- The change of the super references in a field. -/
def superChange (field : RefField) (f : List Pointer → List Pointer) : Change Handle Pointer where
  classifier t := { t with body := t.body.changeSupers field f }

/-- Changed references of a type are references that it had, or come from the change. -/
theorem complete_changeSupers {field : RefField} {f : List Pointer → List Pointer}
    (present : ∀ ps, (∀ p ∈ ps, p.isAbsent = false) → ∀ p ∈ f ps, p.isAbsent = false)
    {t : Classifier Handle Pointer} (complete : IsComplete (.classifier t)) :
    IsComplete (.classifier { t with body := t.body.changeSupers field f }) := by
  obtain ⟨place, name, body⟩ := t
  cases body with
  | classBody b =>
    obtain ⟨first, second⟩ := List.forall_mem_append.1 complete
    rw [present_numbered] at first second
    cases field with
    | type => exact complete
    | superClasses =>
      exact List.forall_mem_append.2 ⟨present_numbered.2 (present _ first), present_numbered.2 second⟩
    | superInterfaces =>
      exact List.forall_mem_append.2 ⟨present_numbered.2 first, present_numbered.2 (present _ second)⟩
  | interface b =>
    cases field with
    | superInterfaces => exact present_numbered.2 (present _ (present_numbered.1 complete))
    | type => exact complete
    | superClasses => exact complete
  | datatype properties => exact complete
  | primitive => exact complete
  | enumeration literals => exact complete
  | association ends => exact complete

/-- Other super types leave the parts of a type as they are. -/
theorem parts_changeSupers (field : RefField) (f : List Pointer → List Pointer)
    (t : Classifier Handle Pointer) :
    ((superChange field f).own (.classifier t)).parts = (Element.classifier t).parts := by
  obtain ⟨place, name, body⟩ := t
  cases body <;> cases field <;> rfl

/-- Super types that are changed leave a draft sound if the new ones are present. -/
theorem IsSound.changeSupers (sound : d.IsSound) {holder : Holder} {word : String}
    {f : List Pointer → List Pointer}
    (present : ∀ ps, (∀ p ∈ ps, p.isAbsent = false) → ∀ p ∈ f ps, p.isAbsent = false) :
    (d.changeSupers holder word f).IsSound := by
  unfold Draft.changeSupers
  split
  · next origin field _ =>
    refine sound.changed (o := origin) (isTame_of_own (f := (superChange field f).own) (fun c => ?_) (fun c => ?_)
      (fun c complete => ?_) fun c => ?_)
    · cases c with
      | classifier t => exact apply_ite _ _ _ _
      | package p => exact (ite_self _).symm
      | property p => exact (ite_self _).symm
      | operation o => exact (ite_self _).symm
      | parameter r => exact (ite_self _).symm
    · cases c <;> rfl
    · cases c with
      | classifier t => exact complete_changeSupers present complete
      | package p => exact complete
      | property p => exact complete
      | operation o => exact complete
      | parameter r => exact complete
    · cases c with
      | classifier t =>
        rw [parts_changeSupers]
        exact List.Subperm.refl _
      | package p => exact List.Subperm.refl _
      | property p => exact List.Subperm.refl _
      | operation o => exact List.Subperm.refl _
      | parameter r => exact List.Subperm.refl _
  · exact sound

/-! ## Elements that are put in -/

/-- What is inserted at some position is added to the items. -/
theorem insertAt_perm {α : Type} (position : Option Int) (item : α) (items : List α) :
    (insertAt position item items).Perm (item :: items) := by
  cases position with
  | none => exact List.perm_append_singleton item items
  | some i =>
    rw [insertAt, List.splitAt_eq]
    refine List.perm_middle.trans ?_
    rw [List.take_append_drop]

/-- What an element is after another one was put in a list of it. -/
def withPart (branch : Branch) (item : Element Handle Pointer) (position : Option Int) :
    Change Handle Pointer where
  package := insertInPackage item position
  classifier := insertInClassifier branch item position
  operation := insertInOperation item position

section

variable {α : Type} (element : α → Element Handle Pointer) {item : α} {items items' : List α}

/-- An item that is put in one of the lists of an element becomes a part of it. -/
theorem subperm_inserted (more : items'.Perm (item :: items)) (front back : List (Element Handle Pointer)) :
    (front ++ items'.map element ++ back).Subperm ([element item] ++ (front ++ items.map element ++ back)) := by
  have moved := ((more.map element).append_left front).trans List.perm_middle
  exact (moved.append_right back).subperm

end

/-- A change of one list of a type leaves the others, and does nothing to a type without the list. -/
theorem changeProperties_cases (place : Handle) (name : String) (body : Body Handle Pointer)
    (f : List (Property Handle Pointer) → List (Property Handle Pointer)) :
    body.changeProperties f = body ∨
      (Element.classifier ⟨place, name, body.changeProperties f⟩).parts =
        (f (Classifier.mk place name body).properties).map .property ++
          (Classifier.mk place name body).operations.map .operation ++
          (Classifier.mk place name body).ends.map .property := by
  rw [Element.parts_classifier]
  cases body with
  | classBody _ => exact .inr rfl
  | interface _ => exact .inr rfl
  | datatype _ => exact .inr rfl
  | primitive => exact .inl rfl
  | enumeration _ => exact .inl rfl
  | association _ => exact .inl rfl

/-- A change to the operations of a body changes nothing, or the operations among its parts. -/
theorem changeOperations_cases (place : Handle) (name : String) (body : Body Handle Pointer)
    (f : List (Operation Handle Pointer) → List (Operation Handle Pointer)) :
    body.changeOperations f = body ∨
      (Element.classifier ⟨place, name, body.changeOperations f⟩).parts =
        (Classifier.mk place name body).properties.map .property ++
          (f (Classifier.mk place name body).operations).map .operation ++
          (Classifier.mk place name body).ends.map .property := by
  rw [Element.parts_classifier]
  cases body with
  | classBody _ => exact .inr rfl
  | interface _ => exact .inr rfl
  | datatype _ => exact .inl rfl
  | primitive => exact .inl rfl
  | enumeration _ => exact .inl rfl
  | association _ => exact .inl rfl

/-- A change to the ends of a body changes nothing, or the ends among its parts. -/
theorem changeEnds_cases (place : Handle) (name : String) (body : Body Handle Pointer)
    (f : List (Property Handle Pointer) → List (Property Handle Pointer)) :
    body.changeEnds f = body ∨
      (Element.classifier ⟨place, name, body.changeEnds f⟩).parts =
        (Classifier.mk place name body).properties.map .property ++
          (Classifier.mk place name body).operations.map .operation ++
          (f (Classifier.mk place name body).ends).map .property := by
  rw [Element.parts_classifier]
  cases body with
  | association _ => exact .inr rfl
  | classBody _ => exact .inl rfl
  | interface _ => exact .inl rfl
  | datatype _ => exact .inl rfl
  | primitive => exact .inl rfl
  | enumeration _ => exact .inl rfl

/-- A type in which something is inserted has no parts but this and those that it had. -/
theorem parts_insertInClassifier (branch : Branch) (item : Element Handle Pointer) (position : Option Int)
    (t : Classifier Handle Pointer) :
    (Element.classifier (insertInClassifier branch item position t)).parts.Subperm
      ([item] ++ (Element.classifier t).parts) := by
  have same : (Element.classifier t).parts.Subperm ([item] ++ (Element.classifier t).parts) :=
    (List.sublist_cons_self item _).subperm
  obtain ⟨place, name, body⟩ := t
  unfold insertInClassifier
  split
  · next child =>
    rcases changeProperties_cases place name body (insertAt position child) with none | parts
    · exact none.symm ▸ same
    · have put := subperm_inserted .property
        (insertAt_perm position child (Classifier.mk place name body).properties) []
        ((Classifier.mk place name body).operations.map .operation ++
          (Classifier.mk place name body).ends.map .property)
      rw [parts, Element.parts_classifier]
      simpa only [List.nil_append, List.append_assoc] using put
  · next child =>
    rcases changeEnds_cases place name body (insertAt position child) with none | parts
    · exact none.symm ▸ same
    · have put := subperm_inserted .property
        (insertAt_perm position child (Classifier.mk place name body).ends)
        ((Classifier.mk place name body).properties.map .property ++
          (Classifier.mk place name body).operations.map .operation) []
      rw [parts, Element.parts_classifier]
      simpa only [List.append_nil] using put
  · next child =>
    rcases changeOperations_cases place name body (insertAt position child) with none | parts
    · exact none.symm ▸ same
    · have put := insertAt_perm position child (Classifier.mk place name body).operations
      rw [parts, Element.parts_classifier]
      exact subperm_inserted .operation put _ _
  · exact same

/-- An element that is put in a list becomes a part, and the other parts stay. -/
theorem parts_withPart (branch : Branch) (item : Element Handle Pointer) (position : Option Int)
    (c : Element Handle Pointer) :
    ((withPart branch item position).own c).parts.Subperm ([item] ++ c.parts) := by
  have same (es : List (Element Handle Pointer)) : es.Subperm ([item] ++ es) :=
    (List.sublist_cons_self item es).subperm
  cases c with
  | package p =>
    cases item with
    | package child =>
      have put := subperm_inserted .package (insertAt_perm position child p.packages) []
        (p.types.map .classifier)
      rw [Change.own, Element.parts_package, Element.parts_package]
      exact put
    | classifier child =>
      have put := subperm_inserted .classifier (insertAt_perm position child p.types)
        (p.packages.map .package) []
      rw [List.append_nil, List.append_nil] at put
      rw [Change.own, Element.parts_package, Element.parts_package]
      exact put
    | property _ => exact same _
    | operation _ => exact same _
    | parameter _ => exact same _
  | classifier t => exact parts_insertInClassifier branch item position t
  | operation o =>
    cases item with
    | parameter child =>
      have put := subperm_inserted .parameter (insertAt_perm position child o.parameters) [] []
      rw [List.append_nil, List.append_nil] at put
      rw [Change.own, Element.parts_operation, Element.parts_operation]
      exact put
    | package _ => exact same _
    | classifier _ => exact same _
    | property _ => exact same _
    | operation _ => exact same _
  | property p => exact same _
  | parameter r => exact same _

/-- A part that is inserted leaves the place of its holder and the references there. -/
theorem own_withPart (branch : Branch) (item : Element Handle Pointer) (position : Option Int)
    (c : Element Handle Pointer) :
    ((withPart branch item position).own c).place = c.place ∧
      ((withPart branch item position).own c).references = c.references := by
  cases c with
  | package p => cases item <;> exact ⟨rfl, rfl⟩
  | classifier t =>
    obtain ⟨place, name, body⟩ := t
    have keep {body' : Body Handle Pointer} (same : (Classifier.mk place name body').superReferences =
        (Classifier.mk place name body).superReferences) :
        (Element.classifier ⟨place, name, body'⟩).place = (Element.classifier ⟨place, name, body⟩).place ∧
          (Element.classifier ⟨place, name, body'⟩).references =
            (Element.classifier ⟨place, name, body⟩).references := ⟨rfl, same⟩
    change (Element.classifier (insertInClassifier branch item position ⟨place, name, body⟩)).place = _ ∧
      (Element.classifier (insertInClassifier branch item position ⟨place, name, body⟩)).references = _
    unfold insertInClassifier
    split
    · exact keep (by cases body <;> rfl)
    · exact keep (by cases body <;> rfl)
    · exact keep (by cases body <;> rfl)
    · exact ⟨rfl, rfl⟩
  | operation o => cases item <;> exact ⟨rfl, rfl⟩
  | property p => exact ⟨rfl, rfl⟩
  | parameter r => exact ⟨rfl, rfl⟩

/-- An element may be put in an element where the draft would be sound with it aside. -/
theorem IsSound.insertInElement {item : Element Handle Pointer} (sound : (d.keepAside item).IsSound)
    (origin : Origin) (branch : Branch) (position : Option Int) :
    (d.insertInElement origin branch item position).IsSound := by
  refine IsSound.changeAll (o := origin) (isTame_of_own
    (f := (withPart branch item position).own) (fun c => ?_) (fun c => ?_) (fun c complete => ?_) fun c => ?_)
    sound
  · cases c with
    | package p => exact apply_ite _ _ _ _
    | classifier t => exact apply_ite _ _ _ _
    | operation o => exact apply_ite _ _ _ _
    | property p => exact (ite_self _).symm
    | parameter r => exact (ite_self _).symm
  · exact (own_withPart branch item position c).1
  · rwa [IsComplete, (own_withPart branch item position c).2]
  · exact parts_withPart branch item position c

/-- An element that is kept aside is one more root. -/
theorem roots_keepAside (d : Draft) (item : Element Handle Pointer) :
    (d.keepAside item).roots = d.roots ++ [item] := by
  rw [roots, roots, keepAside, List.append_assoc]

/-- An element may be put in a draft that would be sound with it aside. -/
theorem IsSound.insert {item : Element Handle Pointer} {holder : Holder} {branch : Branch}
    {position : Option Int} (sound : (d.keepAside item).IsSound)
    (inserted : d.insert holder branch item position = .ok d') : d'.IsSound := by
  have without : d.IsSound := by
    obtain ⟨once, whole, named⟩ := isSound_iff.1 sound
    rw [roots_keepAside] at whole
    simp only [roots_keepAside, occurrencesIn_append] at once
    exact isSound_iff.2 ⟨fun x => Nat.le_of_add_right_le (once x),
      (List.forall_mem_append.1 whole).1, named⟩
  unfold Draft.insert at inserted
  cases list : d.branchOf holder branch with
  | error e =>
    rw [list] at inserted
    cases inserted
  | ok origins =>
    rw [list] at inserted
    cases holder with
    | element origin =>
      obtain rfl := Except.ok.inj inserted
      exact sound.insertInElement origin branch position
    | model =>
      cases item with
      | package child =>
        obtain rfl := Except.ok.inj inserted
        obtain ⟨once, whole, named⟩ := isSound_iff.1 sound
        -- The package comes to the top of the tree.
        have moved : (roots { d with model := ⟨insertAt position child d.model.packages⟩ }).Perm
            (d.keepAside (.package child)).roots := by
          have top := ((insertAt_perm position child d.model.packages).map Element.package).append_right d.aside
          rw [roots_keepAside]
          exact top.trans (List.perm_append_singleton _ _).symm
        refine isSound_iff.2 ⟨fun x => ?_, fun e root => ?_, named⟩
        · rw [occurrencesIn_perm moved]
          exact once x
        · exact whole e (moved.mem_iff.1 root)
      | classifier _ => exact Except.ok.inj inserted ▸ without
      | property _ => exact Except.ok.inj inserted ▸ without
      | operation _ => exact Except.ok.inj inserted ▸ without
      | parameter _ => exact Except.ok.inj inserted ▸ without

end ClassDiagram.Draft
