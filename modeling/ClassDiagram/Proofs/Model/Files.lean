import ClassDiagram.Diagram.File
import ClassDiagram.Java.Source
import ClassDiagram.Proofs.Model.QualifiedNames

/-!
# The names of files

Names without a separator can be read off what they are joined to (`joinedNames_inj`).  So the path of a Java file tells
the packages around its type and the name of the type, and the name of a diagram tells its package.  Where names side by
side are different, no two packages have the same route (`nodup_packageRoutes`), as no two types have.
-/

set_option autoImplicit false

namespace ClassDiagram

variable {ι ρ : Type}

/-! ## Joined names -/

/-- Whether a name can be a part of a path: it is not empty and holds neither a slash nor a dot. -/
structure IsPathPart (name : String) : Prop where
  nonempty : name ≠ ""
  slashless : '/' ∉ name.toList
  dotless : '.' ∉ name.toList

/-- A name can be part of a path exactly if it is not empty and has neither slashes nor dots. -/
theorem isPathPart_iff (name : String) :
    IsPathPart name ↔ name ≠ "" ∧ '/' ∉ name.toList ∧ '.' ∉ name.toList :=
  ⟨fun ⟨nonempty, slashless, dotless⟩ => ⟨nonempty, slashless, dotless⟩,
    fun ⟨nonempty, slashless, dotless⟩ => ⟨nonempty, slashless, dotless⟩⟩

instance (name : String) : Decidable (IsPathPart name) := decidable_of_iff' _ (isPathPart_iff name)

/-- Names without a character are told by what they are joined to with it. -/
theorem joinedNames_inj {c : Char} {names names' : List String} (some : names ≠ []) (some' : names' ≠ [])
    (apart : ∀ name ∈ names, c ∉ name.toList) (apart' : ∀ name ∈ names', c ∉ name.toList)
    (same : joinedNames (String.singleton c) names = joinedNames (String.singleton c) names') : names = names' := by
  have parts {names : List String} (some : names ≠ []) (apart : ∀ name ∈ names, c ∉ name.toList) :
      (joinedNames (String.singleton c) names).toList.splitOn c = names.map String.toList := by
    rw [joinedNames, String.toList_intercalate, String.toList_singleton]
    refine List.splitOn_intercalate c ?_ (by simpa using some)
    exact List.forall_mem_map.2 apart
  have lists : names.map String.toList = names'.map String.toList := by
    rw [← parts some apart, same, parts some' apart']
  exact List.map_injective_iff.2 (fun _ _ => String.toList_inj.1) lists

/-- The path of a file is its packages and its name with slashes between them. -/
theorem sourcePath_eq {home : List String} (some : home ≠ []) (nonempty : ∀ name ∈ home, name ≠ "") (name : String) :
    Java.sourcePath home name = joinedNames "/" (home ++ [Java.nameOfFile name]) := by
  have given : (joinedNames "/" home).isEmpty = false := by
    obtain ⟨first, rest, rfl⟩ := List.exists_cons_of_ne_nil some
    have letters : first.toList ≠ [] := fun none => nonempty first (by simp) (String.toList_eq_nil_iff.1 none)
    rw [Bool.eq_false_iff, Ne, String.isEmpty_iff, ← String.toList_eq_nil_iff, joinedNames, String.toList_intercalate]
    cases rest with
    | nil => simpa using letters
    | cons next rest => simp [List.intercalate_cons_cons, letters]
  rw [Java.sourcePath, given, joinedNames, joinedNames, String.intercalate_append_of_ne_nil some (by simp),
    String.intercalate_singleton]
  rfl

/-- The path of a file tells the packages around its type and the name of the type. -/
theorem sourcePath_inj {home home' : List String} {name name' : String} (some : home ≠ []) (some' : home' ≠ [])
    (parts : ∀ n ∈ home ++ [name], IsPathPart n) (parts' : ∀ n ∈ home' ++ [name'], IsPathPart n)
    (same : Java.sourcePath home name = Java.sourcePath home' name') : home ++ [name] = home' ++ [name'] := by
  have slashless {home : List String} {name : String} (parts : ∀ n ∈ home ++ [name], IsPathPart n) :
      ∀ n ∈ home ++ [Java.nameOfFile name], '/' ∉ n.toList := by
    rw [List.forall_mem_append, List.forall_mem_singleton] at parts ⊢
    refine ⟨fun n there => (parts.1 n there).slashless, ?_⟩
    rw [Java.nameOfFile, String.toList_append, List.mem_append]
    rintro (inside | ending)
    · exact parts.2.slashless inside
    · exact absurd ending (by decide)
  have nonempty {home : List String} {name : String} (parts : ∀ n ∈ home ++ [name], IsPathPart n) :
      ∀ n ∈ home, n ≠ "" := fun n there => (parts n (List.mem_append_left _ there)).nonempty
  rw [sourcePath_eq some (nonempty parts), sourcePath_eq some' (nonempty parts')] at same
  have alike := joinedNames_inj (c := '/') (by simp) (by simp) (slashless parts) (slashless parts') same
  obtain ⟨rfl, last⟩ := List.append_inj' alike rfl
  have ending : name ++ ".java" = name' ++ ".java" := List.singleton_inj.1 last
  rw [String.append_left_inj] at ending
  rw [ending]

/-- The name of a diagram tells its package. -/
theorem nameOfDiagram_inj {baseName : String} {home home' : List String} (some : home ≠ []) (some' : home' ≠ [])
    (parts : ∀ n ∈ home, IsPathPart n) (parts' : ∀ n ∈ home', IsPathPart n)
    (same : Diagram.nameOfFile (baseName ++ "_" ++ joinedNames "." home) =
      Diagram.nameOfFile (baseName ++ "_" ++ joinedNames "." home')) : home = home' := by
  have names : joinedNames "." home = joinedNames "." home' := by
    rw [Diagram.nameOfFile, Diagram.nameOfFile, String.append_left_inj, String.append_right_inj] at same
    exact same
  exact joinedNames_inj (c := '.') some some' (fun n there => (parts n there).dotless)
    (fun n there => (parts' n there).dotless) names

/-! ## Routes to packages -/

mutual

/-- A package and all packages in it, each with the names of the packages on the way to it and its own, in the order in
which they are visited. -/
def Package.routedPackages : Package ι ρ → List (List String × Package ι ρ)
  | ⟨place, name, packages, types⟩ =>
    ([name], ⟨place, name, packages, types⟩) :: (routedPackages packages).map fun (route, p) => (name :: route, p)

/-- Packages and all packages in them, each with the names of the packages on the way to it and its own. -/
def routedPackages : List (Package ι ρ) → List (List String × Package ι ρ)
  | [] => []
  | p :: rest => p.routedPackages ++ routedPackages rest

end

/-- The packages on routes are the first, those inside it and those after it. -/
theorem routedPackages_cons (place : ι) (name : String) (packages rest : List (Package ι ρ))
    (types : List (Classifier ι ρ)) :
    routedPackages (⟨place, name, packages, types⟩ :: rest) = ([name], ⟨place, name, packages, types⟩) ::
      (routedPackages packages).map (fun routed => (name :: routed.1, routed.2)) ++ routedPackages rest := by
  rw [routedPackages, Package.routedPackages]

/-- The packages on routes are all packages, in order. -/
theorem routedPackages_map_snd : (ps : List (Package ι ρ)) → (routedPackages ps).map Prod.snd = allPackages ps
  | [] => rfl
  | ⟨place, name, packages, types⟩ :: rest => by
    rw [routedPackages_cons, allPackages, Package.all, ← routedPackages_map_snd packages,
      ← routedPackages_map_snd rest]
    simp [Function.comp_def]

/-- Every route begins with the name of one of the packages. -/
theorem exists_of_mem_routedPackages {route : List String} {p : Package ι ρ} :
    {ps : List (Package ι ρ)} → (route, p) ∈ routedPackages ps → ∃ q ∈ ps, ∃ rest, route = q.name :: rest
  | [], there => absurd there List.not_mem_nil
  | ⟨place, name, packages, types⟩ :: rest, there => by
    rw [routedPackages_cons, List.mem_append, List.mem_cons] at there
    rcases there with (here | below) | after
    · exact ⟨_, List.mem_cons_self, [], congrArg Prod.fst here⟩
    · obtain ⟨⟨route', p'⟩, _, same⟩ := List.mem_map.1 below
      exact ⟨_, List.mem_cons_self, route', (congrArg Prod.fst same).symm⟩
    · obtain ⟨q, among, steps, same⟩ := exists_of_mem_routedPackages after
      exact ⟨q, List.mem_cons_of_mem _ among, steps, same⟩

/-- A route consists of names of packages. -/
theorem exists_of_mem_packageRoute {route : List String} {p : Package ι ρ} {name : String} :
    {ps : List (Package ι ρ)} → (route, p) ∈ routedPackages ps → name ∈ route →
      ∃ q ∈ allPackages ps, q.name = name
  | [], there, _ => absurd there List.not_mem_nil
  | ⟨place, own, packages, types⟩ :: rest, there, among => by
    have first : ∃ q ∈ allPackages (⟨place, own, packages, types⟩ :: rest), q.name = own :=
      ⟨⟨place, own, packages, types⟩, by simp [allPackages, Package.all], rfl⟩
    rw [routedPackages_cons, List.mem_append, List.mem_cons] at there
    rcases there with (here | below) | after
    · obtain ⟨rfl, rfl⟩ := Prod.mk.inj here
      rwa [List.mem_singleton.1 among]
    · obtain ⟨⟨route', p'⟩, routed, same⟩ := List.mem_map.1 below
      obtain ⟨rfl, rfl⟩ := Prod.mk.inj same
      rcases List.mem_cons.1 among with rfl | deeper
      · exact first
      · obtain ⟨q, held, same⟩ := exists_of_mem_packageRoute routed deeper
        exact ⟨q, by simp [allPackages, Package.all, held], same⟩
    · obtain ⟨q, held, same⟩ := exists_of_mem_packageRoute after among
      exact ⟨q, by simp [allPackages, held], same⟩

/-- The route to a package goes through what is around it. -/
theorem at_of_mem_routedPackages {m : Model ι ρ} {around : List (Element ι ρ)} {route : List String}
    {p : Package ι ρ} : {ps : List (Package ι ρ)} → (∀ p ∈ ps, ∃ path, m.At path (.package p) around) →
      (route, p) ∈ routedPackages ps →
      ∃ path inner, m.At path (.package p) (inner ++ around) ∧ route = routeThrough (.package p :: inner)
  | [], _, there => absurd there List.not_mem_nil
  | ⟨place, name, packages, types⟩ :: rest, known, there => by
    rw [List.forall_mem_cons] at known
    obtain ⟨path, here⟩ := known.1
    rw [routedPackages_cons, List.mem_append, List.mem_cons] at there
    rcases there with (own | below) | after
    · obtain ⟨rfl, rfl⟩ := Prod.mk.inj own
      exact ⟨path, [], here, rfl⟩
    · obtain ⟨⟨route', p'⟩, routed, same⟩ := List.mem_map.1 below
      obtain ⟨rfl, rfl⟩ := Prod.mk.inj same
      have nested (q : Package ι ρ) (held : q ∈ packages) :
          ∃ path', m.At path' (.package q) (.package ⟨place, name, packages, types⟩ :: around) := by
        obtain ⟨step, inside⟩ := here.of_mem_parts (c := .package q) (by simp [held])
        exact ⟨_, inside⟩
      obtain ⟨path', inner, there, rfl⟩ := at_of_mem_routedPackages nested routed
      refine ⟨path', inner ++ [.package ⟨place, name, packages, types⟩], by simpa using there, ?_⟩
      simp [routeThrough, packagesAmong]
    · exact at_of_mem_routedPackages known.2 after

/-- No two packages have the same route where names side by side are different. -/
theorem nodup_packageRoutes : {ps : List (Package ι ρ)} → AreDistinct ps →
    ((routedPackages ps).map Prod.fst).Nodup
  | [], _ => List.nodup_nil
  | ⟨place, name, packages, types⟩ :: rest, distinct => by
    obtain ⟨below, -, after, other⟩ := distinct.cons
    have nested : ((routedPackages packages).map fun routed => (name :: routed.1, routed.2)).map Prod.fst =
        ((routedPackages packages).map Prod.fst).map (name :: ·) := by
      rw [List.map_map, List.map_map]
      rfl
    rw [routedPackages_cons, List.map_append, List.map_cons, nested, List.nodup_append', List.nodup_cons]
    refine ⟨⟨?_, (nodup_packageRoutes below).map fun _ _ => List.tail_eq_of_cons_eq⟩, nodup_packageRoutes after, ?_⟩
    · -- A package that is nested has a longer route.
      intro inner
      obtain ⟨route, among, same⟩ := List.mem_map.1 inner
      obtain ⟨⟨route', p⟩, routed, rfl⟩ := List.mem_map.1 among
      obtain ⟨q, _, steps, rfl⟩ := exists_of_mem_routedPackages routed
      simp at same
    · intro route there there'
      obtain ⟨⟨route', p⟩, routed, rfl⟩ := List.mem_map.1 there'
      obtain ⟨q, among, steps, rfl⟩ := exists_of_mem_routedPackages routed
      rcases List.mem_cons.1 there with own | inner
      · exact other q among (List.cons.inj own).1
      · obtain ⟨route'', _, same⟩ := List.mem_map.1 inner
        exact other q among (List.cons.inj same).1.symm

end ClassDiagram
