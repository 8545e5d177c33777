import ClassDiagram.Proofs.Model.Elements
import ClassDiagram.Proofs.Model.Places

/-!
# Routes to types

The route to a type is the list of the names of the packages around it, the outermost first.  The index of a
model has one node for all packages of one route.  Under each route and name it lists the types in the order
of the model (`NameTree.entriesAt_addPackages`), so looking up a qualified name in it is searching the types
of the model, in their order, for one with the route and the name that the segments give
(`Model.findQualified_nameTree`).
-/

set_option autoImplicit false

namespace ClassDiagram

variable {ι ρ κ σ α : Type}

/-! ## Routes -/

mutual

/-- The types of a package and of all packages in it, each with the names of the packages on the way to it,
in the order in which they are visited. -/
def Package.routedTypes : Package ι ρ → List (List String × Classifier ι ρ)
  | ⟨_, name, packages, types⟩ =>
    types.map ([name], ·) ++ (routedTypes packages).map fun (route, t) => (name :: route, t)

/-- The types of packages, each with the names of the packages on the way to it. -/
def routedTypes : List (Package ι ρ) → List (List String × Classifier ι ρ)
  | [] => []
  | p :: rest => p.routedTypes ++ routedTypes rest

end

/-- The types on routes are those of the first package, those inside it and those after it. -/
theorem routedTypes_cons (place : ι) (name : String) (packages rest : List (Package ι ρ))
    (types : List (Classifier ι ρ)) :
    routedTypes (⟨place, name, packages, types⟩ :: rest) = types.map ([name], ·) ++
      (routedTypes packages).map (fun routed => (name :: routed.1, routed.2)) ++ routedTypes rest := by
  rw [routedTypes, Package.routedTypes]

/-- The types on routes are all types, in order. -/
theorem routedTypes_map_snd : (ps : List (Package ι ρ)) → (routedTypes ps).map Prod.snd = typesIn ps
  | [] => rfl
  | ⟨place, name, packages, types⟩ :: rest => by
    rw [routedTypes_cons, typesIn_cons, ← routedTypes_map_snd packages, ← routedTypes_map_snd rest]
    simp [Function.comp_def]

/-- The types of packages in a row are on their routes in a row. -/
theorem routedTypes_append (ps : List (Package ι ρ)) (qs : List (Package ι ρ)) :
    routedTypes (ps ++ qs) = routedTypes ps ++ routedTypes qs := by
  induction ps with
  | nil => rfl
  | cons p rest ih =>
    rw [List.cons_append, routedTypes, ih, routedTypes, List.append_assoc]

/-- Every route begins with the name of one of the packages. -/
theorem exists_of_mem_routedTypes {route : List String} {t : Classifier ι ρ} :
    {ps : List (Package ι ρ)} → (route, t) ∈ routedTypes ps → ∃ p ∈ ps, ∃ rest, route = p.name :: rest
  | [], there => absurd there List.not_mem_nil
  | ⟨place, name, packages, types⟩ :: rest, there => by
    rw [routedTypes_cons, List.mem_append, List.mem_append] at there
    rcases there with (here | below) | after
    · obtain ⟨t', _, same⟩ := List.mem_map.1 here
      exact ⟨_, List.mem_cons_self, [], (congrArg Prod.fst same).symm⟩
    · obtain ⟨⟨route', t'⟩, _, same⟩ := List.mem_map.1 below
      exact ⟨_, List.mem_cons_self, route', (congrArg Prod.fst same).symm⟩
    · obtain ⟨p, among, rest, same⟩ := exists_of_mem_routedTypes after
      exact ⟨p, List.mem_cons_of_mem _ among, rest, same⟩

/-- A route consists of names of packages. -/
theorem exists_of_mem_route {route : List String} {t : Classifier ι ρ} {name : String} :
    {ps : List (Package ι ρ)} → (route, t) ∈ routedTypes ps → name ∈ route →
      ∃ p ∈ allPackages ps, p.name = name
  | [], there, _ => absurd there List.not_mem_nil
  | ⟨place, own, packages, types⟩ :: rest, there, among => by
    have first : ∃ p ∈ allPackages (⟨place, own, packages, types⟩ :: rest), p.name = own :=
      ⟨⟨place, own, packages, types⟩, by simp [allPackages, Package.all], rfl⟩
    rw [routedTypes_cons, List.mem_append, List.mem_append] at there
    rcases there with (here | below) | after
    · obtain ⟨t', _, same⟩ := List.mem_map.1 here
      obtain ⟨rfl, rfl⟩ := Prod.mk.inj same
      rwa [List.mem_singleton.1 among]
    · obtain ⟨⟨route', t'⟩, routed, same⟩ := List.mem_map.1 below
      obtain ⟨rfl, rfl⟩ := Prod.mk.inj same
      rcases List.mem_cons.1 among with rfl | deeper
      · exact first
      · obtain ⟨p, held, same⟩ := exists_of_mem_route routed deeper
        exact ⟨p, by simp [allPackages, Package.all, held], same⟩
    · obtain ⟨p, held, same⟩ := exists_of_mem_route after among
      exact ⟨p, by simp [allPackages, held], same⟩

/-- Types that are moved are on the routes that they were on. -/
theorem routedTypes_map (f : ι → κ) (g : ι → RefField → Nat → ρ → σ) :
    (ps : List (Package ι ρ)) →
      routedTypes (mapPackages f g ps) = (routedTypes ps).map fun (route, t) => (route, t.map f g)
  | [] => rfl
  | ⟨place, name, packages, types⟩ :: rest => by
    rw [mapPackages, Package.map, routedTypes_cons, routedTypes_cons, routedTypes_map f g packages,
      routedTypes_map f g rest]
    simp [Function.comp_def]

/-- The types of a model that is moved are its types, moved. -/
theorem Model.types_map (f : ι → κ) (g : ι → RefField → Nat → ρ → σ) (m : Model ι ρ) :
    (m.map f g).types = m.types.map (·.map f g) := by
  change typesIn (mapPackages f g m.packages) = (typesIn m.packages).map (·.map f g)
  rw [← routedTypes_map_snd, ← routedTypes_map_snd, routedTypes_map, List.map_map, List.map_map]
  rfl

/-- The packages among elements. -/
def packagesAmong (es : List (Element ι ρ)) : List (Package ι ρ) :=
  es.filterMap fun
    | .package p => some p
    | _ => none

/-- The packages among elements that are moved are those among them, moved. -/
theorem packagesAmong_map (f : ι → κ) (g : ι → RefField → Nat → ρ → σ) (es : List (Element ι ρ)) :
    packagesAmong (es.map (·.map f g)) = (packagesAmong es).map (·.map f g) := by
  rw [packagesAmong, packagesAmong, List.filterMap_map, List.map_filterMap]
  refine List.filterMap_congr fun e _ => ?_
  cases e <;> rfl

/-- The names of the packages around an element, the outermost first, where those that are around it are
given with the nearest first. -/
def routeThrough (around : List (Element ι ρ)) : List String := (packagesAmong around).reverse.map (·.name)

/-- A type on a route is in the packages of the route. -/
theorem at_of_mem_routedTypes {m : Model ι ρ} {around : List (Element ι ρ)} {route : List String}
    {t : Classifier ι ρ} : {ps : List (Package ι ρ)} → (∀ p ∈ ps, ∃ path, m.At path (.package p) around) →
      (route, t) ∈ routedTypes ps →
      ∃ path inner, m.At path (.classifier t) (inner ++ around) ∧ route = routeThrough inner
  | [], _, there => absurd there List.not_mem_nil
  | ⟨place, name, packages, types⟩ :: rest, known, there => by
    rw [List.forall_mem_cons] at known
    obtain ⟨path, here⟩ := known.1
    rw [routedTypes_cons, List.mem_append, List.mem_append] at there
    rcases there with (among | below) | after
    · obtain ⟨t', held, same⟩ := List.mem_map.1 among
      obtain ⟨rfl, rfl⟩ := Prod.mk.inj same
      obtain ⟨step, inside⟩ := here.of_mem_parts (c := .classifier t') (by simp [held])
      exact ⟨_, [.package ⟨place, name, packages, types⟩], inside, rfl⟩
    · obtain ⟨⟨route', t'⟩, routed, same⟩ := List.mem_map.1 below
      obtain ⟨rfl, rfl⟩ := Prod.mk.inj same
      have nested (p : Package ι ρ) (held : p ∈ packages) :
          ∃ path', m.At path' (.package p) (.package ⟨place, name, packages, types⟩ :: around) := by
        obtain ⟨step, inside⟩ := here.of_mem_parts (c := .package p) (by simp [held])
        exact ⟨_, inside⟩
      obtain ⟨path', inner, there, rfl⟩ := at_of_mem_routedTypes nested routed
      refine ⟨path', inner ++ [.package ⟨place, name, packages, types⟩], by simpa using there, ?_⟩
      simp [routeThrough, packagesAmong]
    · exact at_of_mem_routedTypes known.2 after

/-- The route to a type of a model goes through what is around the type. -/
theorem Model.at_of_mem_routedTypes {m : Model ι ρ} {route : List String} {t : Classifier ι ρ}
    (there : (route, t) ∈ routedTypes m.packages) :
    ∃ path around, m.At path (.classifier t) around ∧ route = routeThrough around := by
  obtain ⟨path, inner, there, same⟩ :=
    ClassDiagram.at_of_mem_routedTypes (fun p among => At.of_mem_packages among) there
  exact ⟨path, inner, by simpa using there, same⟩

/-! ## The index -/

namespace NameTree

/-- The entries with a name in the node that names lead to. -/
def entriesAt (tree : NameTree α) (names : List String) (name : String) : List α :=
  ((tree.descend names).map (·.typesNamed name)).getD []

section

variable (tree : NameTree α) (name : String)

/-- The entries at no names are those of the tree itself. -/
@[simp] theorem entriesAt_nil : tree.entriesAt [] name = tree.typesNamed name := rfl

/-- An empty tree has no entries anywhere. -/
@[simp] theorem entriesAt_empty (own : String) (names : List String) :
    (empty own : NameTree α).entriesAt names name = [] := by
  cases names with
  | nil => rfl
  | cons first rest => rfl

/-- A child that is missing is as good as one without contents. -/
theorem entriesAt_cons (first : String) (rest : List String) :
    tree.entriesAt (first :: rest) name =
      ((tree.child? first).getD (.empty first)).entriesAt rest name := by
  rw [entriesAt, descend]
  cases tree.child? first with
  | none => exact (entriesAt_empty name first rest).symm
  | some child => rfl

/-- A child that is set is the child of its name, and the others stay. -/
theorem child?_setChild (child : NameTree α) :
    (tree.setChild child).child? name = if name = child.name then some child else tree.child? name := by
  have replaced (children : List (NameTree α)) :
      (children.map fun c => if c.name == child.name then child else c).find? (·.name == name) =
        if name = child.name then (children.find? (·.name == name)).map fun _ => child
        else children.find? (·.name == name) := by
    induction children with
    | nil => simp
    | cons c rest ih =>
      rw [List.map_cons, List.find?_cons, List.find?_cons, ih]
      by_cases same : name = child.name
      · subst same
        cases here : c.name == child.name <;> simp [here]
      · have apart : (child.name == name) = false := beq_eq_false_iff_ne.2 (Ne.symm same)
        cases here : c.name == child.name with
        | true => simp [eq_of_beq here, apart, same]
        | false => simp [same]
  rw [setChild]
  split
  · next found =>
    refine (replaced tree.children).trans ?_
    split
    · next same =>
      subst same
      obtain ⟨c, there⟩ := Option.isSome_iff_exists.1 found
      rw [child?] at there
      rw [there]
      rfl
    · rfl
  · next missing =>
    rw [child?, List.find?_append]
    split
    · next same =>
      subst same
      rw [Option.not_isSome_iff_eq_none, child?] at missing
      simp [missing]
    · next other =>
      have apart : child.name ≠ name := fun same => other same.symm
      simp [apart, child?]

/-- A child that is set leaves the types of a tree. -/
@[simp] theorem typesNamed_setChild (child : NameTree α) :
    (tree.setChild child).typesNamed name = tree.typesNamed name := by
  rw [setChild]
  split <;> rfl

/-- A child that is set changes the entries below its name alone. -/
theorem entriesAt_setChild (child : NameTree α) (first : String) (rest : List String) :
    (tree.setChild child).entriesAt (first :: rest) name =
      if first = child.name then child.entriesAt rest name else tree.entriesAt (first :: rest) name := by
  rw [entriesAt_cons, child?_setChild]
  split
  · rfl
  · rw [entriesAt_cons]

/-- A new entry comes after those that have its name. -/
theorem lookup_addNamed (own : String) (entry : α) (types : List (String × List α)) :
    ((addNamed own entry types).lookup name).getD [] =
      (types.lookup name).getD [] ++ if name = own then [entry] else [] := by
  have lookup_cons (n : String) (entries : List α) (rest : List (String × List α)) :
      ((n, entries) :: rest).lookup name = if name = n then some entries else rest.lookup name := by
    rw [List.lookup_cons]
    by_cases here : name = n
    · simp [here]
    · simp [here, beq_eq_false_iff_ne.2 here]
  induction types with
  | nil =>
    rw [addNamed, lookup_cons]
    split <;> simp
  | cons pair rest ih =>
    obtain ⟨n, entries⟩ := pair
    rw [addNamed]
    split
    · next same =>
      subst same
      rw [lookup_cons, lookup_cons]
      split <;> simp
    · next other =>
      rw [lookup_cons, lookup_cons]
      split
      · next here =>
        subst here
        simp [other]
      · exact ih

/-- Types that are added come after those of the same name. -/
theorem typesNamed_addTypes (types : List (String × α)) :
    (tree.addTypes types).typesNamed name =
      tree.typesNamed name ++ (types.filter (·.1 == name)).map Prod.snd := by
  rw [addTypes, typesNamed, typesNamed]
  generalize tree.types = found
  induction types generalizing found with
  | nil => simp
  | cons pair rest ih =>
    obtain ⟨own, entry⟩ := pair
    rw [List.foldl_cons, ih, lookup_addNamed, List.filter_cons, List.append_assoc]
    by_cases same : own = name
    · simp [same]
    · simp [same, Ne.symm same]

/-- Types that are added leave the children of a tree. -/
theorem child?_addTypes (types : List (String × α)) :
    (tree.addTypes types).child? name = tree.child? name := rfl

end

/-- A child that is set leaves the name of a tree. -/
theorem name_setChild (tree child : NameTree α) : (tree.setChild child).name = tree.name := by
  rw [setChild]
  split <;> rfl

/-- Packages that are added leave the name of a tree. -/
theorem name_addPackages (entry : Classifier ι ρ → α) (tree : NameTree α) (ps : List (Package ι ρ)) :
    (addPackages entry tree ps).name = tree.name := by
  induction ps generalizing tree with
  | nil => rfl
  | cons p rest ih =>
    obtain ⟨_, _, _, _⟩ := p
    rw [addPackages, ih, addPackage, name_setChild]

/-- The child of a name has this name, also if it is a new one. -/
theorem name_childOrEmpty (tree : NameTree α) (name : String) :
    ((tree.child? name).getD (.empty name)).name = name := by
  cases found : tree.child? name with
  | none => rfl
  | some child =>
    rw [child?] at found
    simpa using List.find?_some found

/-- The types with a route and a name, in their order. -/
def typesOn (names : List String) (name : String) (ps : List (Package ι ρ)) : List (Classifier ι ρ) :=
  ((routedTypes ps).filter fun (route, t) => route == names && t.name == name).map Prod.snd

/-- Under the name of a package there are its types, and what is in the packages that it holds. -/
theorem typesOn_cons (place : ι) (own : String) (packages rest : List (Package ι ρ))
    (types : List (Classifier ι ρ)) (names : List String) (name : String) :
    typesOn names name (⟨place, own, packages, types⟩ :: rest) =
      (match names with
        | [] => []
        | first :: names =>
          if first = own then
            (if names = [] then types.filter (·.name == name) else []) ++ typesOn names name packages
          else []) ++ typesOn names name rest := by
  rw [typesOn, routedTypes_cons, List.filter_append, List.map_append, List.filter_append, List.map_append]
  congr 1
  cases names with
  | nil => simp [List.filter_map, Function.comp_def]
  | cons first names =>
    by_cases same : first = own
    · subst same
      by_cases last : names = []
      · subst last
        simp [List.filter_map, Function.comp_def, typesOn]
      · simp [List.filter_map, Function.comp_def, typesOn, last]
    · have other : ¬ own = first := fun here => same here.symm
      simp [List.filter_map, Function.comp_def, same, other]

/-- The index lists under a route and a name what was there, and then the types with this route and name in
the order of the packages that are added. -/
theorem entriesAt_addPackages (entry : Classifier ι ρ → α) (name : String) :
    (ps : List (Package ι ρ)) → (tree : NameTree α) → (names : List String) →
      (addPackages entry tree ps).entriesAt names name =
        tree.entriesAt names name ++ (typesOn names name ps).map entry
  | [], tree, names => by
    rw [addPackages]
    simp [typesOn, routedTypes]
  | ⟨place, own, packages, types⟩ :: rest, tree, names => by
    rw [addPackages, entriesAt_addPackages entry name rest, typesOn_cons, List.map_append, ← List.append_assoc]
    congr 1
    rw [addPackage]
    cases names with
    | nil => simp
    | cons first names =>
      rw [entriesAt_setChild, name_addPackages]
      -- Only what is under the name of the package changes.
      change (if first = ((tree.child? own).getD (.empty own)).name then _ else _) = _
      rw [name_childOrEmpty]
      by_cases same : first = own
      · subst same
        simp only [if_true]
        rw [entriesAt_addPackages entry name packages, entriesAt_cons, List.map_append, ← List.append_assoc]
        congr 1
        cases names with
        | nil =>
          rw [entriesAt_nil, entriesAt_nil, typesNamed_addTypes]
          simp [List.filter_map, Function.comp_def]
        | cons second names =>
          rw [entriesAt_cons, child?_addTypes, entriesAt_cons]
          simp
      · simp [same]

/-- Other places and references do not change the index, where they do not change its entries. -/
theorem addPackages_map {f : ι → κ} {g : ι → RefField → Nat → ρ → σ} {entry : Classifier ι ρ → α}
    {entry' : Classifier κ σ → α} (same : ∀ t, entry' (t.map f g) = entry t) :
    (ps : List (Package ι ρ)) → (tree : NameTree α) →
      addPackages entry' tree (mapPackages f g ps) = addPackages entry tree ps
  | [], _ => rfl
  | ⟨place, name, packages, types⟩ :: rest, tree => by
    have named : (fun t => (t.name, entry' t)) ∘ Classifier.map f g = fun t => (t.name, entry t) := by
      funext t
      exact Prod.ext rfl (same t)
    rw [mapPackages, Package.map, addPackages, addPackages, addPackage, addPackage, addPackages_map same rest,
      addPackages_map same packages, List.map_map, named]

end NameTree

/-! ## Qualified names -/

/-- A qualified name is looked up by its last segment, at those before it. -/
theorem NameTree.findQualified_eq [HasKind α] (tree : NameTree α) (kinds : List Kind) (name : String) :
    tree.findQualified kinds name =
      (nameSegments name).getLast?.bind fun last =>
        firstOf kinds (tree.entriesAt (nameSegments name).dropLast last) := by
  simp only [findQualified, entriesAt]
  cases (nameSegments name).getLast? with
  | none => rfl
  | some last =>
    cases tree.descend (nameSegments name).dropLast with
    | none => rfl
    | some node => rfl

/-- Looking up a qualified name in the index of a model is searching the types of the model for the first one
of the kinds whose route and name are the segments of the qualified name. -/
theorem Model.findQualified_nameTree [HasKind α] (m : Model ι ρ) (entry : Classifier ι ρ → α)
    (kindOf : ∀ t, HasKind.kindOf (entry t) = t.kind) (kinds : List Kind) (name : String) :
    (m.nameTree entry).findQualified kinds name =
      ((routedTypes m.packages).find? fun (route, t) =>
        kinds.contains t.kind && route ++ [t.name] == nameSegments name).map fun (_, t) => entry t := by
  rw [NameTree.findQualified_eq]
  rcases List.eq_nil_or_concat (nameSegments name) with none | ⟨names, last, parts⟩
  · have nowhere : (routedTypes m.packages).find? (fun (route, t) =>
        kinds.contains t.kind && route ++ [t.name] == ([] : List String)) = Option.none := by
      simp
    rw [none, nowhere]
    rfl
  · rw [parts, List.concat_eq_append, List.getLast?_append, List.getLast?_singleton, Option.some_or,
      Option.bind_some, List.dropLast_concat, nameTree, NameTree.entriesAt_addPackages,
      NameTree.entriesAt_empty, List.nil_append]
    simp only [firstOf, NameTree.typesOn, List.map_map, List.find?_map, List.find?_filter]
    -- The route is that of the node, and the name is the one that is looked up there.
    congr 2
    funext pair
    rw [Bool.eq_iff_iff]
    simp [kindOf, and_comm]

end ClassDiagram
