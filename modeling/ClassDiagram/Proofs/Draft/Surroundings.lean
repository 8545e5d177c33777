import ClassDiagram.Draft.Lookup
import ClassDiagram.Proofs.Model.Cycles
import ClassDiagram.Proofs.Model.Routes
import ClassDiagram.Proofs.Model.Settled

/-!
# What is around an element of a draft

In a draft in which no element is at two places, the positions of the tree tell what each element is in
(`holderOf_positions`).  Where the elements remember this, following what they are in leads through what is
around them to the model (`holders_eq`), so that looking up a name from an element goes through the packages
around it in the tree (`lookUp_eq`).
-/

set_option autoImplicit false

namespace ClassDiagram.Draft

/-- Whether no element of a draft is at two places, the origin of each is of an addition that was made, no
reference is missing, and all names are texts. -/
structure IsSound (d : Draft) : Prop where
  apart : (d.elements.map (·.place.origin)).Nodup
  known : ∀ e ∈ d.elements, e.place.origin.addition < d.additions
  present : ∀ e ∈ d.elements, ∀ r ∈ e.references, r.2.2.isAbsent = false
  named : ∀ g ∈ d.given, g.field ≠ "name"

variable {d : Draft} {path : Path} {e : Element Handle Pointer} {around : List (Element Handle Pointer)}

/-- The elements of the model of a draft are elements of the draft. -/
theorem mem_elements_of_tree (there : e ∈ d.model.elements) : e ∈ d.elements :=
  List.mem_append_left _ there

section

variable (sound : d.IsSound)
include sound

/-- An element of the tree is found by its origin. -/
theorem IsSound.elementAmong_elements (there : e ∈ d.model.elements) :
    elementAmong d.elements e.place.origin = some e := by
  refine find?_eq_some_of_unique (mem_elements_of_tree there) (beq_self_eq_true _) fun e' there' same => ?_
  exact List.inj_on_of_nodup_map sound.apart there' (mem_elements_of_tree there) (eq_of_beq same)

/-- The elements of the model of a sound draft have distinct origins. -/
theorem IsSound.nodup_tree : (d.model.elements.map (·.place.origin)).Nodup := by
  have apart := sound.apart
  rw [elements, List.map_append] at apart
  exact apart.of_append_left

/-- The index says nothing about the elements. -/
theorem IsSound.withIndex (index : Option Index) : ({ d with index := index } : Draft).IsSound :=
  ⟨sound.apart, sound.known, sound.present, sound.named⟩

end

/-! ## Positions -/

/-- There is a position for each element of the model of a draft. -/
theorem positions_map_fst (d : Draft) :
    d.positions.map Prod.fst = d.model.elements.map (·.place.origin) := by
  have even : d.model.elements.length ≤ (Linking.settle d.model).elements.length :=
    Nat.le_of_eq d.model.length_settle.symm
  calc d.positions.map Prod.fst
      = ((d.model.elements.zip (Linking.settle d.model).elements).map Prod.fst).map (·.place.origin) := by
        rw [positions, List.map_map, List.map_map]
        rfl
    _ = d.model.elements.map (·.place.origin) := by rw [List.map_fst_zip even]

/-- The positions of a draft are those of the elements of its tree. -/
theorem mem_positions {origin : Origin} :
    (origin, path) ∈ d.positions ↔ ∃ e around, d.model.At path e around ∧ e.place.origin = origin := by
  rw [positions, List.mem_map]
  constructor
  · rintro ⟨⟨e, s⟩, pair, same⟩
    obtain ⟨rfl, rfl⟩ := Prod.mk.inj same
    obtain ⟨path, around, there, key⟩ := Model.at_of_mem_zip pair
    refine ⟨e, around, ?_, rfl⟩
    rwa [key]
  · rintro ⟨e, around, there, rfl⟩
    obtain ⟨s, pair, key⟩ := Model.mem_zip_of_at there
    exact ⟨(e, s), pair, Prod.ext rfl (congrArg Key.path key)⟩

/-- The position of an element is the path to it. -/
theorem IsSound.lookup_positions (sound : d.IsSound) (there : d.model.At path e around) :
    List.lookup e.place.origin d.positions = some path := by
  have among : (e.place.origin, path) ∈ d.positions := mem_positions.2 ⟨e, around, there, rfl⟩
  have apart : (d.positions.map Prod.fst).Nodup := positions_map_fst d ▸ sound.nodup_tree
  cases found : List.lookup e.place.origin d.positions with
  | none =>
    have missing := List.lookup_eq_none_iff.1 found (e.place.origin, path) among
    simp at missing
  | some path' =>
    obtain ⟨before, after, split, _⟩ := List.lookup_eq_some_iff.1 found
    have among' : (e.place.origin, path') ∈ d.positions := by simp [split]
    have same := List.inj_on_of_nodup_map apart among' among rfl
    rw [(Prod.mk.inj same).2]

/-- The origin at a path is that of the element there. -/
theorem originAt?_positions (there : d.model.At path e around) :
    d.positions.originAt? path = some e.place.origin := by
  have among : (e.place.origin, path) ∈ d.positions := mem_positions.2 ⟨e, around, there, rfl⟩
  have found : d.positions.find? (·.2 == path) = some (e.place.origin, path) := by
    refine find?_eq_some_of_unique among (beq_self_eq_true _) fun pair among' same => ?_
    obtain ⟨origin, path'⟩ := pair
    obtain rfl : path' = path := eq_of_beq same
    obtain ⟨e', around', there', rfl⟩ := mem_positions.1 among'
    rw [(there'.unique there).1]
  rw [Positions.originAt?, found]
  rfl

/-- What an element is in, where what is around it is given with the nearest first. -/
def nearestOf : List (Element Handle Pointer) → Holder
  | [] => .model
  | a :: _ => .element a.place.origin

/-- The nearest type or package around an element is found by origins. -/
theorem nearestOf_map {f : Handle → Handle} {g : Handle → RefField → Nat → Pointer → Pointer}
    (same : ∀ h, (f h).origin = h.origin) (around : List (Element Handle Pointer)) :
    nearestOf (around.map (·.map f g)) = nearestOf around := by
  cases around with
  | nil => rfl
  | cons a rest =>
    rw [List.map_cons, nearestOf, nearestOf, Element.place_map]
    exact congrArg Holder.element (same a.place)

/-- The positions tell what each element of the tree is in. -/
theorem IsSound.holderOf_positions (sound : d.IsSound) (there : d.model.At path e around) :
    d.positions.holderOf e.place.origin = some (nearestOf around) := by
  rw [Positions.holderOf, sound.lookup_positions there, Option.bind_some, Positions.holderAt]
  cases there with
  | top found => rfl
  | @part path a _ around step outer leads =>
    rw [List.dropLast_concat]
    cases path with
    | nil => exact absurd rfl outer.path_ne_nil
    | cons first rest =>
      change (d.positions.originAt? (first :: rest)).map Holder.element = _
      rw [originAt?_positions outer]
      rfl

/-! ## Holders -/

/-- Whether the elements of the tree remember what they are in, and an index that is kept is that of the
tree. -/
structure IsPlaced (d : Draft) : Prop where
  holders : ∀ {path e around}, d.model.At path e around → e.place.holder = some (nearestOf around)
  index : ∀ i, d.index = some i → i = d.freshIndex

section

variable (sound : d.IsSound) (placed : d.IsPlaced) (there : d.model.At path e around)
include sound placed there

/-- Going outward from an element leads through those around it to the model. -/
theorem outward_eq {fuel : Nat} (enough : around.length < fuel) :
    outward d.elements fuel (some (.element e.place.origin)) =
      (e :: around).map (fun a => Holder.element a.place.origin) ++ [.model] := by
  induction there generalizing fuel with
  | top found =>
    have here := Model.At.top (m := d.model) found
    obtain ⟨fuel, rfl⟩ := Nat.exists_eq_add_of_lt enough
    rw [outward, sound.elementAmong_elements here.mem_elements.1, Option.bind_some, placed.holders here,
      nearestOf]
    cases fuel <;> rfl
  | @part path a c around step outer leads ih =>
    have here := Model.At.part outer leads
    obtain ⟨fuel, rfl⟩ := Nat.exists_eq_add_of_lt enough
    rw [outward, sound.elementAmong_elements here.mem_elements.1, Option.bind_some, placed.holders here,
      nearestOf, ih (by rw [List.length_cons]; omega)]
    rfl

/-- Following what elements are in leads from an element through what is around it to the model. -/
theorem holders_eq : d.holders (some (.element e.place.origin)) =
    (e :: around).map (fun a => Holder.element a.place.origin) ++ [.model] := by
  refine outward_eq sound placed there ?_
  have room := there.length_lt
  rw [elements, List.length_append]
  omega

/-- An element of the model is known to be in it. -/
theorem isInModel_eq : d.isInModel (some (.element e.place.origin)) = true := by
  rw [isInModel, holders_eq sound placed there]
  simp

/-- The packages from an element outwards are the element, if it is one, and those around it. -/
theorem packagesFrom_eq :
    d.packagesFrom (some (.element e.place.origin)) = packagesAmong (e :: around) := by
  have known : ∀ a ∈ e :: around, a ∈ d.model.elements := List.forall_mem_cons.2 there.mem_elements
  have outside : [Holder.model].filterMap (packageAmong d.elements) = [] := rfl
  change (d.holders _).filterMap (packageAmong d.elements) = _
  rw [holders_eq sound placed there, List.filterMap_append, outside, List.append_nil, List.filterMap_map,
    packagesAmong]
  refine List.filterMap_congr fun a among => ?_
  rw [Function.comp_apply, packageAmong, sound.elementAmong_elements (known a among)]
  cases a <;> rfl

/-- The home of an element is the route through those around it. -/
theorem home_eq : d.home e.place.origin = routeThrough (e :: around) := by
  rw [home, packagesAround, packagesFrom_eq sound placed there, routeThrough]

end

/-! ## Names -/

/-- The types of a list by name. -/
def entriesOf (types : List (Classifier Handle Pointer)) : Scope Entry :=
  types.map fun t => (t.name, .ofType t)

/-- What the names in a model are looked up in. -/
def directoryOf (m : Model Handle Pointer) : Directory Entry := ⟨m.nameTree .ofType, entriesOf m.types⟩

/-- The type that a name leads to in a model, inside of elements that are given with the nearest first. -/
def lookUpIn (m : Model Handle Pointer) (around : List (Element Handle Pointer)) (kinds : List Kind)
    (name : String) : Option Entry :=
  (directoryOf m).find? ((packagesAmong around).map fun p => entriesOf p.types) kinds name

section

variable {f : Handle → Handle} {g : Handle → RefField → Nat → Pointer → Pointer}
  (same : ∀ h, (f h).origin = h.origin)
include same

/-- The entry of a type does not depend on where its references lead. -/
theorem ofType_map (t : Classifier Handle Pointer) : Entry.ofType (t.map f g) = .ofType t := by
  obtain ⟨place, name, body⟩ := t
  have kind : (body.map f g place).kind = body.kind := by cases body <;> rfl
  exact (Entry.mk.injEq ..).mpr ⟨same place, kind⟩

/-- The entries of types do not depend on where their references lead. -/
theorem entriesOf_map (types : List (Classifier Handle Pointer)) :
    entriesOf (types.map (·.map f g)) = entriesOf types := by
  rw [entriesOf, entriesOf, List.map_map]
  exact List.map_congr_left fun t _ => Prod.ext rfl (ofType_map same t)

/-- The directory of a model does not depend on where its references lead. -/
theorem directoryOf_map (m : Model Handle Pointer) : directoryOf (m.map f g) = directoryOf m := by
  rw [directoryOf, directoryOf, Model.types_map, entriesOf_map same, Model.nameTree, Model.nameTree, Model.map,
    NameTree.addPackages_map (ofType_map same)]

/-- Other places and references of elements with the same origins do not change what a name leads to. -/
theorem lookUpIn_map (m : Model Handle Pointer) (around : List (Element Handle Pointer)) (kinds : List Kind)
    (name : String) :
    lookUpIn (m.map f g) (around.map (·.map f g)) kinds name = lookUpIn m around kinds name := by
  have scopes : (packagesAmong (around.map (·.map f g))).map (fun p => entriesOf p.types) =
      (packagesAmong around).map fun p => entriesOf p.types := by
    rw [packagesAmong_map, List.map_map]
    refine List.map_congr_left fun p _ => ?_
    obtain ⟨_, _, _, types⟩ := p
    exact entriesOf_map same types
  rw [lookUpIn, lookUpIn, directoryOf_map same, scopes]

end

section

variable (sound : d.IsSound)
include sound

/-- In a sound draft every name is filed under itself. -/
theorem IsSound.filedUnder_eq (origin : Origin) (name : String) : d.filedUnder origin name = name := by
  have none : d.given.find? (fun g => g.holder == .element origin && g.field == "name") = none := by
    rw [List.find?_eq_none]
    intro g among
    simp [sound.named g among]
  rw [filedUnder, given?, none]
  rfl

/-- In a sound draft a scope has the entries of its types. -/
theorem IsSound.scopeOf_eq (types : List (Classifier Handle Pointer)) : d.scopeOf types = entriesOf types := by
  rw [scopeOf, entriesOf]
  exact List.map_congr_left fun t _ => by rw [sound.filedUnder_eq]

/-- The index of a sound draft is the tree of its names. -/
theorem IsSound.freshIndex_eq : d.freshIndex = ⟨d.model.nameTree .ofType, []⟩ := by
  have none : d.labels = [] := by
    rw [labels, List.map_eq_nil_iff, List.filter_eq_nil_iff]
    intro g among
    simp [sound.named g among]
  rw [freshIndex, filed, none]
  rfl

/-- The index that a sound draft keeps is the tree of its names if it is in place. -/
theorem IsSound.currentIndex_eq (placed : d.IsPlaced) : d.currentIndex = ⟨d.model.nameTree .ofType, []⟩ := by
  rw [currentIndex]
  cases kept : d.index with
  | none => exact sound.freshIndex_eq
  | some i => exact (placed.index i kept).trans sound.freshIndex_eq

/-- A qualified name is looked up in the index of the tree. -/
theorem findQualified_eq (placed : d.IsPlaced) (kinds : List Kind) (name : String) :
    (d.findQualified kinds name).1 = (d.model.nameTree .ofType).findQualified kinds name := by
  rw [findQualified, sound.currentIndex_eq placed]

/-- A name is looked up from an element in the packages around it, the nearest first. -/
theorem lookUp_eq (placed : d.IsPlaced) (there : d.model.At path e around) (kinds : List Kind)
    (name : String) :
    d.lookUp (.element e.place.origin) kinds name = lookUpIn d.model (e :: around) kinds name := by
  have scopes : (packagesAmong (e :: around)).map (fun p => d.scopeOf p.types) =
      (packagesAmong (e :: around)).map fun p => entriesOf p.types :=
    List.map_congr_left fun p _ => sound.scopeOf_eq p.types
  rw [lookUp, if_pos (isInModel_eq sound placed there), packagesFrom_eq sound placed there, scopes,
    directoryFor, sound.scopeOf_eq, sound.currentIndex_eq placed, lookUpIn, directoryOf, Directory.find?,
    Directory.find?]
  -- The index counts only where the name is qualified.
  cases isQualified name with
  | true => rfl
  | false => rfl

end

end ClassDiagram.Draft
