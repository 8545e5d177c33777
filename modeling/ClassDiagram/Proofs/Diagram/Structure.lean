import ClassDiagram.Proofs.Diagram.Lines
import ClassDiagram.Proofs.Java.Lines
import ClassDiagram.Proofs.Model.Associations
import ClassDiagram.Proofs.Model.Generation

/-!
# What Java and diagrams show of a model

The header of a Java type and the lines that a diagram has for its super types are written from the same names
(`classHeader_eq`, `superLines_eq`).  A diagram has an edge for an association exactly if its ends are two at known types
(`edgeText_eq_ok`), and that is where some class has a member because of it (`IsRooted.givesMember_iff`).  So Java and
diagrams show the same structure of every package (`IsRooted.showsSame`).
-/

set_option autoImplicit false

namespace ClassDiagram

/-! ## Super types -/

/-- The names of what links lead to; a link that leads nowhere has none. -/
def targetNames (links : List Link) : List String := (links.filterMap (·.target)).map (·.name)

/-- The names that headers and diagrams give for super types are those of what their references lead to. -/
theorem knownNames_eq (links : List Link) : knownNames links = targetNames links := by
  rw [targetNames, List.map_filterMap]
  rfl

/-- The names of the known types that a type extends: super classes of a class, super interfaces of an interface. -/
def extendedNames (t : LinkedType) : List String :=
  match t.body with
  | .classBody c => targetNames c.superClasses
  | .interface c => targetNames c.superInterfaces
  | _ => []

/-- The names of the known interfaces that a class implements. -/
def implementedNames (t : LinkedType) : List String :=
  match t.body with
  | .classBody c => targetNames c.superInterfaces
  | _ => []

namespace Java

variable {t : LinkedType}

/-- The words before the name in the header of a class or an interface. -/
def headWords (t : LinkedType) : String :=
  match t.body with
  | .classBody c => if c.isAbstract then "public abstract class " else "public class "
  | _ => "public interface "

/-- The header of a class or an interface, with the names that it extends and implements. -/
def typeHeader (t : LinkedType) : String :=
  headWords t ++ t.name ++ clause "extends" (extendedNames t) ++ clause "implements" (implementedNames t)

/-- Whether a text is that of a type: its package, its imports and a block under its header. -/
def IsTypeText (t : LinkedType) (text : String) : Prop :=
  ∃ lines, ∃ imported body : List String, text = textOfLines lines ∧
    full lines = packageLines (packageName t.place.home) ++ imported.map ("import " ++ ·) ++
      [typeHeader t ++ " \x7b"] ++ body ++ ["\x7d"]

/-- The header of a class with a name is that of its type. -/
theorem classHeader_eq {c : ClassBody Place Link} (body : t.body = .classBody c) (named : t.name ≠ "") :
    classHeader t c = .ok (typeHeader t) := by
  have words : headWords t = if c.isAbstract then "public abstract class " else "public class " := by
    rw [headWords, body]
  have extended : extendedNames t = targetNames c.superClasses := by rw [extendedNames, body]
  have implemented : implementedNames t = targetNames c.superInterfaces := by rw [implementedNames, body]
  have joined : joinWords [.text "public", .text (if c.isAbstract then "abstract" else ""), .text "class",
      .text t.name] = .ok (headWords t ++ t.name) := by
    have given : (Document.text t.name).isGiven = true := by simpa [Document.isGiven] using named
    rw [joinWords, words]
    cases c.isAbstract <;> simp only [List.filter_cons, given] <;> rfl
  unfold classHeader typeHeader
  rw [joined, extended, implemented, knownNames_eq, knownNames_eq]
  rfl

/-- The header of an interface is that of its type. -/
theorem interfaceHeader_eq {c : InterfaceBody Place Link} (body : t.body = .interface c) :
    interfaceHeader t c = typeHeader t := by
  have words : headWords t = "public interface " := by rw [headWords, body]
  have extended : extendedNames t = targetNames c.superInterfaces := by rw [extendedNames, body]
  have implemented : clause "implements" (implementedNames t) = "" := by rw [implementedNames, body]; rfl
  unfold interfaceHeader typeHeader
  rw [words, extended, implemented, knownNames_eq, String.append_empty]

/-- Every text that is written for a class or an interface has its header. -/
theorem isTypeText {s : Settings} {m : Linked} (named : t.name ≠ "") (kind : t.kind = .classKind ∨ t.kind = .interface)
    {f : SourceFile} (written : s.source m t = .ok (some f)) : IsTypeText t f.text := by
  obtain ⟨u, unit, given, -⟩ := exists_unit_of_source written
  -- The unit is one block, under a header with the names that the type extends and implements.
  obtain ⟨code, own, package⟩ : ∃ code, u.code = [.ofBlock (.ok (typeHeader t)) code] ∧
      u.package = packageName t.place.home := by
    obtain ⟨-, unit⟩ := Option.ite_none_right_eq_some.1 unit
    cases body : t.body with
    | classBody c =>
      rw [body] at unit
      obtain rfl := Option.some.inj unit
      exact ⟨_, by rw [classUnit, classHeader_eq body named], rfl⟩
    | interface c =>
      rw [body] at unit
      obtain rfl := Option.some.inj unit
      exact ⟨_, by rw [interfaceUnit, interfaceHeader_eq body]; rfl, rfl⟩
    | _ => rw [Classifier.kind, body] at kind; rcases kind with kind | kind <;> cases kind
  obtain ⟨margin, head, lines, imported, -, formed, same, -, all⟩ := CompilationUnit.fullLines_of_block own given
  obtain rfl := Except.ok.inj formed
  rw [package] at all
  exact ⟨lines, imported, codeLines margin 1 code, same, all⟩

end Java

/-! ## Members -/

/-- Whether some class, of a model or outside of it, has a member because of an association. -/
def Linked.GivesMember (m : Linked) (a : LinkedType) : Prop :=
  ∃ c ∈ m.everyType, c.kind = .classKind ∧ ∃ r ∈ m.associationMembers c, m.associationOf? r.far = some a

/-- Whether an association is between two known types: it has two ends, and they are at these. -/
structure IsBetween (a : LinkedType) (first second : LinkedProperty) (source target : Target) : Prop where
  ends : a.ends = [first, second]
  source : first.endType = some source
  target : second.endType = some target

/-- An association is between no other types than those at its two ends. -/
theorem IsBetween.unique {a : LinkedType} {first first' second second' : LinkedProperty}
    {source source' target target' : Target} (between : IsBetween a first second source target)
    (between' : IsBetween a first' second' source' target') :
    first = first' ∧ second = second' ∧ source = source' ∧ target = target' := by
  obtain ⟨ends, isFirst, isSecond⟩ := between
  obtain ⟨ends', isFirst', isSecond'⟩ := between'
  obtain ⟨rfl, rfl⟩ : first = first' ∧ second = second' := by simpa [ends] using ends'
  exact ⟨rfl, rfl, Option.some.inj (isFirst.symm.trans isFirst'), Option.some.inj (isSecond.symm.trans isSecond')⟩

/-- Whether an association has an end at a class. -/
def HasClassEnd (a : LinkedType) : Prop := ∃ e ∈ a.ends, ∃ t, e.endType = some t ∧ t.kind = .classKind

/-- An association at a class contributes a member exactly if it is between two known types. -/
theorem Linked.IsRooted.givesMember_iff {m : Linked} (rooted : m.IsRooted) {a : LinkedType} (among : a ∈ m.associations)
    (atClass : HasClassEnd a) :
    m.GivesMember a ↔ ∃ first second source target, IsBetween a first second source target := by
  constructor
  · rintro ⟨c, -, -, r, member, belongs⟩
    obtain ⟨rfl, typed, atOwner, a', among', ends⟩ := rooted.mem_associationMembers_iff.1 member
    obtain rfl : a' = a := by
      rw [rooted.associationOf?_eq (mem_associationsAt.1 among').1 (mem_ends ends)] at belongs
      exact Option.some.inj belongs
    obtain ⟨far, isFar⟩ := Option.isSome_iff_exists.1 typed
    obtain ⟨near, isNear, -⟩ := isEndAt_iff.1 atOwner
    rcases ends with ends | ends
    · exact ⟨_, _, far, near, ends, isFar, isNear⟩
    · exact ⟨_, _, near, far, ends, isNear, isFar⟩
  · rintro ⟨first, second, source, target, between⟩
    -- The class at one end has a member for the other end, whichever of the two it is at.
    obtain ⟨e, there, t, found, isClass⟩ := atClass
    obtain ⟨c, known, rfl⟩ := rooted.classes a among e there t found isClass
    have participates : a ∈ m.associationsAt c.key :=
      mem_associationsAt.2 ⟨among, e, there, c.target, found, isClass, rfl⟩
    have atEnd : isEndAt e c.key = true := isEndAt_iff.2 ⟨c.target, found, rfl⟩
    obtain ⟨far, ends, typed⟩ : ∃ far, (a.ends = [far, e] ∨ a.ends = [e, far]) ∧ far.endType.isSome := by
      have first' : first.endType.isSome := by rw [between.source]; rfl
      have second' : second.endType.isSome := by rw [between.target]; rfl
      rw [between.ends] at there
      rcases List.mem_pair.1 there with rfl | rfl
      · exact ⟨second, .inr between.ends, second'⟩
      · exact ⟨first, .inl between.ends, first'⟩
    refine ⟨c, known, isClass, ⟨c, far, e⟩, ?_, rooted.associationOf?_eq among (mem_ends ends)⟩
    exact rooted.mem_associationMembers_iff.2 ⟨rfl, typed, atEnd, a, participates, ends⟩

namespace Diagram

variable {s : Style} {t a : LinkedType}

/-! ## Relations -/

/-- The lines for the names that a type extends, then those for the names that it implements. -/
def superTypeLines (s : Style) (t : LinkedType) : List String :=
  (extendedNames t).map (s.generalization · t.name) ++ (implementedNames t).map (s.realization · t.name)

/-- The lines of super types are those for the names that a type extends and implements. -/
theorem superLines_eq (s : Style) (t : LinkedType) : superLines s t = superTypeLines s t := by
  unfold superLines superTypeLines extendedNames implementedNames
  cases t.body <;> simp [knownNames_eq]

/-- Whether a line is the edge of an association between two known types: it names these in the order of the ends, with
the multiplicities of the ends. -/
def IsEdge (s : Style) (a : LinkedType) (line : String) : Prop :=
  ∃ first second source target low high, IsBetween a first second source target ∧
    s.multiplicity? first.lower first.upper = some low ∧ s.multiplicity? second.lower second.upper = some high ∧
    line = s.association source.name low (s.edgeSign second.aggregation first.aggregation) high target.name a.name

/-- Whether what leads to the ends of an association has names. -/
def NamesEnds (a : LinkedType) : Prop := ∀ e ∈ a.ends, ∀ t, e.endType = some t → t.name ≠ ""

/-- The multiplicity at an end is the one that the style gives for its bounds. -/
theorem endMultiplicity_eq_ok {e : LinkedProperty} {text : String} :
    endMultiplicity s e = .ok text ↔ s.multiplicity? e.lower e.upper = some text := by
  unfold endMultiplicity
  cases s.multiplicity? e.lower e.upper with
  | none => exact ⟨nofun, nofun⟩
  | some text' =>
    exact ⟨fun same => congrArg some (Except.ok.inj same), fun same => congrArg Except.ok (Option.some.inj same)⟩

/-- The type of an end with a known type is written by the name of that type. -/
theorem typeText_eq {e : LinkedProperty} {target : Target} (found : e.endType = some target) :
    typeText e.type = target.name := by
  rw [Property.endType] at found
  rw [typeText, found]
  rfl

section

variable (named : NamesEnds a)
include named

/-- The edge of an association between two types names these, their multiplicities and the association. -/
theorem edgeText_of_between {first second : LinkedProperty} {source target : Target}
    (between : IsBetween a first second source target) : edgeText s a = do
      let low ← endMultiplicity s first
      let high ← endMultiplicity s second
      return some (s.association source.name low (s.edgeSign second.aggregation first.aggregation) high target.name
        a.name) := by
  have there : first ∈ a.ends ∧ second ∈ a.ends := by simp [between.ends]
  have both : ¬ (source.name.isEmpty || target.name.isEmpty) = true := by
    simp [named first there.1 source between.source, named second there.2 target between.target]
  unfold edgeText
  rw [between.ends]
  dsimp only
  rw [typeText_eq between.source, typeText_eq between.target, if_neg both]

omit named in
/-- An association that is not between two types has no edge. -/
theorem edgeText_of_not_between (apart : ∀ first second source target, ¬ IsBetween a first second source target) :
    edgeText s a = .ok none := by
  have unknown {e : LinkedProperty} (missing : e.endType = none) : typeText e.type = "" := by
    rw [Property.endType] at missing
    rw [typeText, missing]
    rfl
  unfold edgeText
  split
  · next first second ends =>
    have missing : ((typeText first.type).isEmpty || (typeText second.type).isEmpty) = true := by
      cases isFirst : first.endType with
      | none => simp [unknown isFirst]
      | some source =>
        cases isSecond : second.endType with
        | none => simp [unknown isSecond]
        | some target => exact absurd ⟨ends, isFirst, isSecond⟩ (apart first second source target)
    exact if_pos missing
  · rfl

/-- There is an edge for an association exactly if it is between two known types. -/
theorem edgeText_eq_ok {edge : Option String} : edgeText s a = .ok edge ↔
    ((∀ first second source target, ¬ IsBetween a first second source target) ∧ edge = none) ∨
      ∃ line, IsEdge s a line ∧ edge = some line := by
  by_cases apart : ∀ first second source target, ¬ IsBetween a first second source target
  · rw [edgeText_of_not_between apart]
    constructor
    · rintro ⟨⟩
      exact .inl ⟨apart, rfl⟩
    · rintro (⟨-, rfl⟩ | ⟨_, ⟨first, second, source, target, _, _, between, _⟩, _⟩)
      · rfl
      · exact absurd between (apart first second source target)
  · simp only [not_forall, not_not] at apart
    obtain ⟨first, second, source, target, between⟩ := apart
    rw [edgeText_of_between named between]
    simp only [bind_eq_ok, endMultiplicity_eq_ok]
    constructor
    · rintro ⟨low, shown, high, shown', same⟩
      exact .inr ⟨_, ⟨first, second, source, target, low, high, between, shown, shown', rfl⟩, (Except.ok.inj same).symm⟩
    · rintro (⟨apart, -⟩ | ⟨_, ⟨_, _, _, _, low, high, between', shown, shown', rfl⟩, rfl⟩)
      · exact absurd between (apart first second source target)
      · obtain ⟨rfl, rfl, rfl, rfl⟩ := between.unique between'
        exact ⟨low, shown, high, shown', rfl⟩

/-- Whether the multiplicities of the ends of an association can be written, where it is between two known types. -/
def HasMultiplicities (s : Style) (a : LinkedType) : Prop :=
  ∀ first second source target, IsBetween a first second source target →
    (∃ low, s.multiplicity? first.lower first.upper = some low) ∧
      ∃ high, s.multiplicity? second.lower second.upper = some high

/-- There is an edge, or none where none is in order, exactly if both multiplicities can be written. -/
theorem exists_edgeText_iff : (∃ edge, edgeText s a = .ok edge) ↔ HasMultiplicities s a := by
  simp only [edgeText_eq_ok named]
  constructor
  · rintro ⟨edge, given⟩ first second source target between'
    rcases given with ⟨apart, -⟩ | ⟨line, ⟨_, _, _, _, low, high, between, shown, shown', -⟩, -⟩
    · exact absurd between' (apart first second source target)
    · obtain ⟨rfl, rfl, rfl, rfl⟩ := between.unique between'
      exact ⟨⟨low, shown⟩, high, shown'⟩
  · intro each
    by_cases apart : ∀ first second source target, ¬ IsBetween a first second source target
    · exact ⟨none, .inl ⟨apart, rfl⟩⟩
    · simp only [not_forall, not_not] at apart
      obtain ⟨first, second, source, target, between⟩ := apart
      obtain ⟨⟨low, shown⟩, high, shown'⟩ := each first second source target between
      exact ⟨_, .inr ⟨_, ⟨first, second, source, target, low, high, between, shown, shown', rfl⟩, rfl⟩⟩

end

/-! ## Lines of relations -/

variable {types : List LinkedType}

/-- The relations of types are the lines of their super types and then their edges. -/
theorem relationLines_eq_ok {relations : List String} : relationLines s types = .ok relations ↔
    ∃ edges, types.mapM (edgeText s) = .ok edges ∧
      relations = types.flatMap (superTypeLines s) ++ edges.filterMap id := by
  have same : superLines s = superTypeLines s := funext (superLines_eq s)
  rw [relationLines, bind_eq_ok, same]
  exact exists_congr fun edges => and_congr_right fun _ =>
    ⟨fun given => (Except.ok.inj given).symm, fun given => congrArg Except.ok given.symm⟩

/-- The relations of types can be written exactly if their edges can. -/
theorem exists_relationLines_iff :
    (∃ relations, relationLines s types = .ok relations) ↔ ∃ edges, types.mapM (edgeText s) = .ok edges := by
  simp only [relationLines_eq_ok]
  exact ⟨fun ⟨_, edges, given, _⟩ => ⟨edges, given⟩, fun ⟨edges, given⟩ => ⟨_, edges, given, rfl⟩⟩

/-- The lines of super types are not empty. -/
theorem full_superTypeLines (s : Style) (types : List LinkedType) :
    full (types.flatMap (superTypeLines s)) = types.flatMap (superTypeLines s) := by
  refine full_eq_self fun l there => ?_
  obtain ⟨t, -, there⟩ := List.mem_flatMap.1 there
  rcases List.mem_append.1 there with there | there
  · obtain ⟨name, -, rfl⟩ := List.mem_map.1 there
    simp [Style.generalization]
  · obtain ⟨name, -, rfl⟩ := List.mem_map.1 there
    simp [Style.realization]

/-- The lines that hide something are not empty. -/
theorem full_hideLines (s : Style) (types : List LinkedType) : full (hideLines s types) = hideLines s types := by
  refine full_eq_self ?_
  unfold hideLines
  refine List.forall_mem_append.2 ⟨?_, ?_⟩
  · split <;> simp
  · split <;> simp

/-- An edge is no empty line. -/
theorem isEmpty_of_isEdge {line : String} (isEdge : IsEdge s a line) : line.isEmpty = false := by
  obtain ⟨_, _, _, _, _, _, _, _, _, rfl⟩ := isEdge
  simp [Style.association]

end Diagram

/-! ## The same structure -/

open Diagram

namespace Linked

/-- Whether an association is shown by its edge, if there is one; an association at a class has one exactly if some
class has a member because of it. -/
structure ShowsAssociation (m : Linked) (s : Style) (a : LinkedType) (edge : Option String) : Prop where
  drawn : HasClassEnd a → (edge.isSome ↔ m.GivesMember a)
  shown : ∀ line, edge = some line → IsEdge s a line

/-- Whether a text is that of the diagram of a package: boxes, the lines of its types for their super types, the edges
of its associations, and what it hides, between two marks. -/
def IsDiagramText (m : Linked) (s : Diagram.Settings) (p : LinkedPackage) (text : String) : Prop :=
  ∃ lines edges, text = textOfLines lines ∧ List.Forall₂ (m.ShowsAssociation s.style) p.types edges ∧
    full lines = full [s.style.start] ++ (boxes s.style p.types).flatMap (Box.fullLines s.indent.margin) ++
      p.types.flatMap (superTypeLines s.style) ++ edges.filterMap id ++ hideLines s.style p.types ++
      full [s.style.finish]

/-- Whether Java and diagrams show the same structure of a package: its classes and interfaces, if they can be written,
have files, whose headers have the names in the lines for the super types, and the edges are for the associations that
classes have members of.  With a text to indent lines there is a diagram exactly if its multiplicities can be written. -/
structure ShowsSame (m : Linked) (s : Java.Settings) (g : Diagram.Settings) (p : LinkedPackage) : Prop where
  headers : ∀ t ∈ p.types, t.kind = .classKind ∨ t.kind = .interface →
    ∀ file, s.source m t = .ok file → ∃ f, file = some f ∧ Java.IsTypeText t f.text
  diagram : ∀ f, g.diagram p = .ok (some f) → m.IsDiagramText g p f.text
  exists_diagram : ∀ margin, g.indent = .unit margin → p.types ≠ [] →
    ((∃ f, g.diagram p = .ok (some f)) ↔ ∀ a ∈ p.types, HasMultiplicities g.style a)

/-- Whether the types of a linked model, and what leads to the ends of its associations, have names. -/
structure IsNamed (m : Linked) : Prop where
  types : ∀ t ∈ m.model.types, t.name ≠ ""
  ends : ∀ a ∈ m.associations, NamesEnds a

variable {m : Linked}

/-- A type with ends is an association. -/
theorem mem_associations_of_mem_ends {a : LinkedType} (known : a ∈ m.model.types) {e : LinkedProperty}
    (there : e ∈ a.ends) : a ∈ m.associations := by
  refine List.mem_filter.2 ⟨known, ?_⟩
  unfold Classifier.ends at there
  split at there
  · next body => simp [Classifier.kind, body, Body.kind]
  · cases there

/-- The edges of associations are not empty. -/
theorem full_edges {s : Style} {types : List LinkedType} {edges : List (Option String)}
    (each : List.Forall₂ (m.ShowsAssociation s) types edges) : full (edges.filterMap id) = edges.filterMap id := by
  induction each with
  | nil => rfl
  | @cons a edge _ _ first _ ih =>
    cases edge with
    | none => exact ih
    | some line =>
      have alone : full [line] = [line] :=
        full_eq_self (List.forall_mem_singleton.2 (isEmpty_of_isEdge (first.shown line rfl)))
      change full ([line] ++ _) = [line] ++ _
      rw [full_append, alone]
      exact congrArg ([line] ++ ·) ih

section

variable (rooted : m.IsRooted)
include rooted

/-- What is drawn for an association shows it. -/
theorem IsRooted.showsAssociation {s : Style} {a : LinkedType} (known : a ∈ m.model.types) (named : NamesEnds a)
    {edge : Option String} (given : edgeText s a = .ok edge) : m.ShowsAssociation s a edge := by
  have cases := (edgeText_eq_ok named).1 given
  refine ⟨fun atClass => ?_, fun line same => ?_⟩
  · have among : a ∈ m.associations := by
      obtain ⟨e, there, -⟩ := atClass
      exact mem_associations_of_mem_ends known there
    rw [rooted.givesMember_iff among atClass]
    rcases cases with ⟨apart, rfl⟩ | ⟨line, ⟨first, second, source, target, _, _, between, -⟩, rfl⟩
    · exact ⟨nofun, fun ⟨first, second, source, target, between⟩ => absurd between (apart first second source target)⟩
    · exact ⟨fun _ => ⟨first, second, source, target, between⟩, fun _ => rfl⟩
  · rcases cases with ⟨-, missing⟩ | ⟨line', isEdge, found⟩
    · cases missing.symm.trans same
    · obtain rfl := Option.some.inj (found.symm.trans same)
      exact isEdge

/-- Java and diagrams show the same structure of every package. -/
theorem IsRooted.showsSame (named : m.IsNamed) (s : Java.Settings) (g : Diagram.Settings) {p : LinkedPackage}
    (there : p ∈ m.model.allPackages) : m.ShowsSame s g p := by
  have known {t : LinkedType} (among : t ∈ p.types) : t ∈ m.model.types := List.mem_flatMap.2 ⟨p, there, among⟩
  have ends {a : LinkedType} (among : a ∈ p.types) : NamesEnds a := fun e part =>
    named.ends a (mem_associations_of_mem_ends (known among) part) e part
  refine ⟨fun t among kind file written => ?_, ?_, ?_⟩
  · have covered : s.covers t = true := by rcases kind with kind | kind <;> simp [Java.Settings.covers, kind]
    obtain ⟨f, rfl⟩ := Option.isSome_iff_exists.1 ((isSome_of_source written).trans covered)
    exact ⟨f, rfl, Java.isTypeText (named.types t (known among)) kind written⟩
  · intro f drawn
    obtain ⟨lines, relations, formed, rfl, all⟩ := fullLines_of_diagram drawn
    obtain ⟨edges, given, rfl⟩ := relationLines_eq_ok.1 formed
    have each : List.Forall₂ (m.ShowsAssociation g.style) p.types edges := by
      have texts := (mapM_eq_ok fun a _ edge => Iff.rfl).1 given
      have among := (List.forall₂_and_left p.types edges).2 ⟨fun a here => here, texts⟩
      exact among.imp fun a edge ⟨here, text⟩ => rooted.showsAssociation (known here) (ends here) text
    refine ⟨lines, edges, rfl, each, ?_⟩
    rw [all, full_append, full_superTypeLines, full_edges each, full_hideLines]
    simp only [List.append_assoc]
  · intro margin unit types
    rw [exists_diagram_iff unit types, exists_relationLines_iff]
    exact exists_mapM_iff fun a among => exists_edgeText_iff (ends among)

end

end Linked

end ClassDiagram
