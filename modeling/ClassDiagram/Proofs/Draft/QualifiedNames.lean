import ClassDiagram.Draft.Analysis
import ClassDiagram.Proofs.Draft.History
import ClassDiagram.Proofs.Model.Findings
import ClassDiagram.Proofs.Model.QualifiedNames
import Mathlib.Data.List.Find

/-!
# Qualified names in a draft

Looking up a qualified name in a linked draft is searching its types in their order for one whose packages and name
are the segments (`findQualified_eq_search`), though the index has one node for all packages of one name side by
side.  Where the check of the draft finds no duplicate names of packages and types, and no name has separators in it,
a type is found by its own qualified name (`findQualified_qualifiedName`).
-/

set_option autoImplicit false

namespace ClassDiagram

variable {ι ρ κ σ : Type}

/-! ## Qualified names are searched for -/

namespace Draft

variable {d : Draft}

/-- The home of a type is the route to it. -/
theorem IsCurrent.home_of_mem_routedTypes (current : d.IsCurrent) {route : List String}
    {t : Classifier Handle Pointer} (routed : (route, t) ∈ routedTypes d.model.packages) :
    d.home t.place.origin = route := by
  obtain ⟨path, around, there, rfl⟩ := Model.at_of_mem_routedTypes routed
  exact home_eq current.sound current.placed there

/-- Every type of a model is on a route. -/
theorem exists_mem_routedTypes {t : Classifier Handle Pointer} (there : t ∈ d.model.types) :
    ∃ route, (route, t) ∈ routedTypes d.model.packages := by
  change t ∈ typesIn d.model.packages at there
  rw [← routedTypes_map_snd] at there
  obtain ⟨⟨route, t⟩, routed, rfl⟩ := List.mem_map.1 there
  exact ⟨route, routed⟩

/-- A qualified name leads to the first type of the kinds in the order of the model whose packages, the outermost
first, and name are the segments; to none exactly if there is no such type. -/
theorem findQualified_eq_search (linked : d.IsLinked) (kinds : List Kind) (name : String) :
    (d.findQualified kinds name).1 = (d.model.types.find? fun t =>
        kinds.contains t.kind && d.home t.place.origin ++ [t.name] == nameSegments name).map .ofType ∧
      ((d.findQualified kinds name).1 = none ↔
        ∀ t ∈ d.model.types, t.kind ∈ kinds → d.home t.place.origin ++ [t.name] ≠ nameSegments name) := by
  have current := linked.isCurrent
  have search : (d.findQualified kinds name).1 = (d.model.types.find? fun t =>
      kinds.contains t.kind && d.home t.place.origin ++ [t.name] == nameSegments name).map .ofType := by
    have types : d.model.types = (routedTypes d.model.packages).map Prod.snd :=
      (routedTypes_map_snd d.model.packages).symm
    rw [findQualified_eq current.sound current.placed, Model.findQualified_nameTree _ _ fun _ => rfl, types,
      List.find?_map, Option.map_map]
    congr 1
    refine List.find?_congr fun pair routed => ?_
    rw [Function.comp_apply, current.home_of_mem_routedTypes routed]
  refine ⟨search, ?_⟩
  rw [search, Option.map_eq_none_iff, List.find?_eq_none]
  refine forall₂_congr fun t _ => ?_
  rw [Bool.and_eq_true, List.contains_iff_mem, beq_iff_eq, not_and]

/-- A league with a cup in three packages: two side by side, and one in another package with the league's name.  The
cup also comes with the league in one name. -/
def league : Declared :=
  ⟨[⟨(), "league",
      [⟨(), "cup", [], [⟨(), "Match", .primitive⟩]⟩,
        ⟨(), "cup", [], [⟨(), "Match", .enumeration []⟩, ⟨(), "Match", .classBody ⟨false, [], [], [], []⟩⟩]⟩], []⟩,
    ⟨(), "league", [⟨(), "cup", [], [⟨(), "Match", .classBody ⟨false, [], [], [], []⟩⟩]⟩], []⟩,
    ⟨(), "league.cup", [], [⟨(), "Final", .primitive⟩]⟩]⟩

/-- The first match that is a class is in the second cup; a final is in no package that two segments tell. -/
theorem findQualified_eq_search_in_league :
    ((ofDeclared league).findQualified [.classKind] "league::cup..Match").1 =
        some ⟨⟨0, [.package 0, .package 1, .type 1]⟩, .classKind⟩ ∧
      ((ofDeclared league).findQualified Kind.all "league.cup.Final").1 = none :=
  ⟨(findQualified_eq_search (.declared league) _ _).1.trans (by decide +kernel),
    (findQualified_eq_search (.declared league) _ _).2.2 (by decide +kernel)⟩

end Draft

/-! ## Names side by side -/

/-- The packages of a package are itself and those inside it. -/
theorem Package.all_eq (p : Package ι ρ) : p.all = p :: allPackages p.packages := by
  obtain ⟨_, _, _, _⟩ := p
  rw [Package.all]

/-- Names side by side stay different where packages are replaced by such with the same names in them. -/
theorem AreDistinct.of_map {f : Package ι ρ → Package κ σ} {ps : List (Package ι ρ)}
    {qs : List (Package κ σ)} (distinct : AreDistinct qs) (tops : qs.map (·.name) = ps.map (·.name))
    (all : allPackages qs = (allPackages ps).map f)
    (packages : ∀ p, (f p).packages.map (·.name) = p.packages.map (·.name))
    (types : ∀ p, (f p).types.map (·.name) = p.types.map (·.name)) : AreDistinct ps := by
  refine ⟨tops ▸ distinct.here, fun p there => ?_⟩
  have inside := distinct.inside (f p) (all ▸ List.mem_map_of_mem there)
  rwa [packages, types] at inside

/-- Packages that are moved have their packages moved. -/
theorem allPackages_mapPackages (f : ι → κ) (g : ι → RefField → Nat → ρ → σ) :
    (ps : List (Package ι ρ)) → allPackages (mapPackages f g ps) = (allPackages ps).map (·.map f g)
  | [] => rfl
  | ⟨place, name, packages, types⟩ :: rest => by
    rw [mapPackages, allPackages, allPackages, Package.all_eq, Package.all_eq, List.map_append, List.map_cons,
      ← allPackages_mapPackages f g packages, ← allPackages_mapPackages f g rest, Package.map]

/-- Packages have distinct names if they have them when moved. -/
theorem areDistinct_of_mapPackages {f : ι → κ} {g : ι → RefField → Nat → ρ → σ} {ps : List (Package ι ρ)}
    (distinct : AreDistinct (mapPackages f g ps)) : AreDistinct ps := by
  have tops (ps : List (Package ι ρ)) : (mapPackages f g ps).map (·.name) = ps.map (·.name) := by
    rw [mapPackages_eq, List.map_map]
    exact List.map_congr_left fun p _ => Element.name_map f g (.package p)
  refine distinct.of_map (tops ps) (allPackages_mapPackages f g ps) (fun p => ?_) fun p => ?_
  · obtain ⟨_, _, packages, _⟩ := p
    exact tops packages
  · obtain ⟨_, _, _, types⟩ := p
    exact List.map_map

/-- A change that keeps packages where they are changes each of them. -/
theorem allPackages_ofPackages {r : Change ι ρ} (keeps : ∀ p, (r.package p).packages = p.packages) :
    (ps : List (Package ι ρ)) → allPackages (r.ofPackages ps) = (allPackages ps).map r.ofPackage
  | [] => rfl
  | ⟨place, name, packages, types⟩ :: rest => by
    rw [Change.ofPackages, allPackages, allPackages, Package.all_eq, Package.all_eq, List.map_append, List.map_cons,
      ← allPackages_ofPackages keeps packages, ← allPackages_ofPackages keeps rest, Change.ofPackage, keeps]

/-- A change that leaves the names of packages and types leaves them different. -/
theorem areDistinct_of_ofPackages {r : Change ι ρ} (package : r.package = id)
    (classifier : ∀ t, (r.classifier t).name = t.name) {ps : List (Package ι ρ)}
    (distinct : AreDistinct (r.ofPackages ps)) : AreDistinct ps := by
  have tops (ps : List (Package ι ρ)) : (r.ofPackages ps).map (·.name) = ps.map (·.name) := by
    rw [Change.ofPackages_eq, List.map_map]
    refine List.map_congr_left fun p _ => ?_
    obtain ⟨_, _, _, _⟩ := p
    rw [Function.comp_apply, Change.ofPackage, package]
    rfl
  refine distinct.of_map (tops ps) (allPackages_ofPackages (fun _ => package ▸ rfl) ps) (fun p => ?_) fun p => ?_
  · obtain ⟨_, _, packages, _⟩ := p
    rw [Change.ofPackage, package]
    exact tops packages
  · obtain ⟨_, _, _, types⟩ := p
    rw [Change.ofPackage, package]
    exact List.map_map.trans (List.map_congr_left fun t _ => classifier _)

/-! ## When no duplicates are found -/

namespace Validation

variable {m : Model Place ρ}

/-- Whether a finding is not about a name that packages or types side by side have in common. -/
def IsSingle (x : Diagnostic) : Prop :=
  ∀ label name, x.finding = .duplicateName label name → label ≠ "package" ∧ label ≠ "type"

/-- Names of packages or types are distinct if no two of them are reported as duplicates. -/
theorem nodup_of_duplicates {label : String} {items : List (String × Key)}
    (kind : label = "package" ∨ label = "type") (single : ∀ x ∈ duplicates label items, IsSingle x) :
    (items.map Prod.fst).Nodup := by
  refine (noErrors_duplicates label items).1 fun x there => ?_
  obtain ⟨⟨name, key⟩, _, given⟩ := List.mem_filterMap.1 there
  obtain ⟨_, same⟩ := Option.ite_none_right_eq_some.1 given
  obtain rfl := Option.some.inj same
  have other := single _ there label name rfl
  exact kind.elim (absurd · other.1) (absurd · other.2)

/-- Packages and types have distinct names if none is reported as a duplicate. -/
theorem areDistinct_of_duplicateNames (single : ∀ x ∈ duplicateNames m, IsSingle x) :
    AreDistinct m.packages := by
  have packages (ps : List (Package Place ρ)) : ps.map (·.name) = (packageNames ps).map Prod.fst := by
    rw [packageNames, List.map_map]
    rfl
  have types (ts : List (Classifier Place ρ)) : ts.map (·.name) = (typeNames ts).map Prod.fst := by
    rw [typeNames, List.map_map]
    rfl
  simp only [duplicateNames, packageDuplicates, List.forall_mem_append, List.forall_mem_flatMap] at single
  obtain ⟨tops, inside⟩ := single
  refine ⟨packages _ ▸ nodup_of_duplicates (.inl rfl) tops, fun p there => ?_⟩
  obtain ⟨⟨held, kinds⟩, _⟩ := inside p there
  exact ⟨packages _ ▸ nodup_of_duplicates (.inl rfl) held, types _ ▸ nodup_of_duplicates (.inr rfl) kinds⟩

end Validation

namespace Draft

variable {d : Draft} {found : List Diagnostic} {reportReferences : Bool}

/-- What the check of a draft finds. -/
theorem found_eq (checked : (d.diagnostics reportReferences).1 = .ok found) :
    found = (counting d.givenAt
      ((d.givenAt.compared d.view).diagnostics reportReferences)).map d.givenAt.shown := by
  change ((d.findings d.forms reportReferences).run []).1 = .ok found at checked
  rw [findings, ExceptT.run_bind] at checked
  simp only [bind, StateT.bind] at checked
  rcases inspected : (d.inspect d.forms reportReferences).run [] with ⟨_ | _, spots⟩
  · rw [inspected] at checked
    cases checked
  · rw [inspected] at checked
    exact (Except.ok.inj checked).symm

/-- Names are compared as they are where all names are texts. -/
theorem IsSound.comparedName_eq (sound : d.IsSound) (key : Key) (name : String) :
    d.givenAt.comparedName key name = name := by
  have none : d.givenAt.values.lookup (key, "name") = none := by
    rw [List.lookup_eq_none_iff]
    intro pair there
    obtain ⟨g, among, rfl⟩ := List.mem_map.1 there
    simp [Ne.symm (sound.named g among)]
  rw [GivenAt.comparedName, GivenAt.name, GivenAt.value, none]
  rfl

/-- A type is compared by the name that counts for it. -/
theorem name_comparedType (g : GivenAt) (t : LinkedType) :
    (g.comparedType t).name = g.comparedName t.key t.name := by
  unfold GivenAt.comparedType
  split <;> rfl

/-- Names side by side are different where the check of a draft does not find them to be the same. -/
theorem IsSound.areDistinct (sound : d.IsSound) (checked : (d.diagnostics reportReferences).1 = .ok found)
    (single : ∀ x ∈ found, Validation.IsSingle x) : AreDistinct d.model.packages := by
  have compared : ∀ x ∈ Validation.duplicateNames (d.givenAt.compared d.view).model, Validation.IsSingle x := by
    intro x there label name same
    have raw : x ∈ (d.givenAt.compared d.view).diagnostics reportReferences := by
      simp [Linked.diagnostics, Validation.structureFindings, there]
    have counts : x ∈ counting d.givenAt ((d.givenAt.compared d.view).diagnostics reportReferences) := by
      refine List.mem_filter.2 ⟨raw, ?_⟩
      simp [isConvention, same]
    have shown : d.givenAt.shown x ∈ found := found_eq checked ▸ List.mem_map_of_mem counts
    have own : (d.givenAt.shown x).finding = .duplicateName label (d.givenAt.shown x).targetName := by
      rw [GivenAt.shown, same]
      rfl
    exact single _ shown label _ own
  refine areDistinct_of_mapPackages (areDistinct_of_ofPackages ?_ (fun t => ?_)
    (Validation.areDistinct_of_duplicateNames compared))
  · funext p
    obtain ⟨place, name, packages, types⟩ := p
    exact congrArg (Package.mk place · packages types) (sound.comparedName_eq place.key name)
  · exact (name_comparedType _ t).trans (sound.comparedName_eq t.key t.name)

/-! ## Types by their own names -/

/-- The qualified name of a type: the names of the packages around it and its own, joined by a separator. -/
def qualifiedName (d : Draft) (separator : String) (t : Classifier Handle Pointer) : String :=
  joinedNames separator (d.home t.place.origin) ++ separator ++ t.name

/-- Where the check finds no duplicate names of packages and types, and all their names can be segments, a type is
found by its qualified name with any separator, and the segments of this name are the names of the packages around
the type and its own.  So types with the same qualified name are the same. -/
theorem findQualified_qualifiedName (linked : d.IsLinked)
    (checked : (d.diagnostics reportReferences).1 = .ok found) (single : ∀ x ∈ found, Validation.IsSingle x)
    (packages : ∀ p ∈ d.model.allPackages, IsSegment p.name) (types : ∀ t ∈ d.model.types, IsSegment t.name) :
    (∀ t ∈ d.model.types, ∀ separator ∈ separators,
      (d.findQualified Kind.all (d.qualifiedName separator t)).1 = some (.ofType t) ∧
        nameSegments (d.qualifiedName separator t) = d.home t.place.origin ++ [t.name]) ∧
    ∀ t ∈ d.model.types, ∀ t' ∈ d.model.types, ∀ separator ∈ separators, ∀ separator' ∈ separators,
      d.qualifiedName separator t = d.qualifiedName separator' t' → t = t' := by
  have current := linked.isCurrent
  have distinct := nodup_routes (current.sound.areDistinct checked single)
  have segments : ∀ t ∈ d.model.types, ∀ separator ∈ separators,
      nameSegments (d.qualifiedName separator t) = d.home t.place.origin ++ [t.name] := by
    intro t there separator known
    obtain ⟨route, routed⟩ := exists_mem_routedTypes there
    obtain ⟨p, _, rest, begins⟩ := exists_of_mem_routedTypes routed
    have whole : d.qualifiedName separator t = joinedNames separator (route ++ [t.name]) := by
      rw [qualifiedName, current.home_of_mem_routedTypes routed, joinedNames, joinedNames,
        String.intercalate_append_of_ne_nil (by simp [begins]) (by simp), String.intercalate_singleton]
    rw [whole, current.home_of_mem_routedTypes routed]
    refine nameSegments_joined known (by simp) (List.forall_mem_append.2 ⟨fun name among => ?_, ?_⟩)
    · obtain ⟨p, held, rfl⟩ := exists_of_mem_route routed among
      exact packages p held
    · exact List.forall_mem_singleton.2 (types t there)
  have same : ∀ t ∈ d.model.types, ∀ t' ∈ d.model.types,
      d.home t.place.origin ++ [t.name] = d.home t'.place.origin ++ [t'.name] → t = t' := by
    intro t there t' there' alike
    obtain ⟨route, routed⟩ := exists_mem_routedTypes there
    obtain ⟨route', routed'⟩ := exists_mem_routedTypes there'
    rw [current.home_of_mem_routedTypes routed, current.home_of_mem_routedTypes routed'] at alike
    exact congrArg Prod.snd (List.inj_on_of_nodup_map distinct routed routed' alike)
  refine ⟨fun t there separator known => ⟨?_, segments t there separator known⟩, ?_⟩
  · have everything : Kind.all.contains t.kind = true := by cases t.kind <;> rfl
    rw [(findQualified_eq_search linked _ _).1, segments t there separator known]
    have found : d.model.types.find? (fun t' => Kind.all.contains t'.kind &&
        d.home t'.place.origin ++ [t'.name] == d.home t.place.origin ++ [t.name]) = some t := by
      refine find?_eq_some_of_unique there (by rw [everything, beq_self_eq_true]; rfl) fun t' there' alike => ?_
      rw [Bool.and_eq_true, beq_iff_eq] at alike
      exact same t' there' t there alike.2
    rw [found]
    rfl
  · intro t there t' there' separator known separator' known' alike
    refine same t there t' there' ?_
    rw [← segments t there separator known, alike, segments t' there' separator' known']

/-- A federation of a club and a school, each with teams. -/
def federation : Declared :=
  ⟨[⟨(), "sport",
      [⟨(), "club", [], [⟨(), "Team", .primitive⟩]⟩, ⟨(), "school", [], [⟨(), "Team", .primitive⟩]⟩],
      [⟨(), "Team", .primitive⟩]⟩]⟩

/-- A type of the federation is found by its qualified name, which has three segments. -/
theorem findQualified_qualifiedName_in_federation :
    ((ofDeclared federation).diagnostics true).1 = .ok [] ∧
      ((ofDeclared federation).findQualified Kind.all "sport::school::Team").1 =
        some ⟨⟨0, [.package 0, .package 1, .type 0]⟩, .primitive⟩ ∧
      nameSegments "sport::school::Team" = ["sport", "school", "Team"] := by
  have checked : ((ofDeclared federation).diagnostics true).1 = .ok [] := by decide +kernel
  have names := findQualified_qualifiedName (.declared federation) checked (by simp) (by decide +kernel)
    (by decide +kernel)
  let team := (ofDeclared federation).model.types.get ⟨2, by decide +kernel⟩
  have name : (ofDeclared federation).qualifiedName "::" team = "sport::school::Team" := by decide +kernel
  have told := names.1 team (List.get_mem ..) "::" (by decide)
  rw [name] at told
  exact ⟨checked, told⟩

end Draft

end ClassDiagram
