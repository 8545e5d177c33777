import ClassDiagram.Proofs.Model.Places

/-!
# What names lead to

A name in a model leads to a type of the model or to nothing: whatever holds of every entry of an index
and of the packages around a name holds of what is found.
-/

set_option autoImplicit false

namespace ClassDiagram

variable {α ι ρ : Type} {P : α → Prop}

/-! ## Indexes -/

namespace NameTree

/-- Whether something holds of all entries of a node and of the nodes under it. -/
inductive All (P : α → Prop) : NameTree α → Prop where
  | intro {tree : NameTree α} (children : ∀ c ∈ tree.children, All P c)
    (types : ∀ pair ∈ tree.types, ∀ entry ∈ pair.2, P entry) : All P tree

/-- What holds of all entries of a tree holds of those of its children. -/
theorem All.children {tree : NameTree α} (all : tree.All P) : ∀ c ∈ tree.children, c.All P := by
  cases all with
  | intro children types => exact children

/-- What holds of all entries of a tree holds of the types in it. -/
theorem All.types {tree : NameTree α} (all : tree.All P) :
    ∀ pair ∈ tree.types, ∀ entry ∈ pair.2, P entry := by
  cases all with
  | intro children types => exact types

/-- Everything holds of all entries of an empty tree. -/
theorem all_empty (name : String) : (empty name : NameTree α).All P := by
  constructor <;> simp [empty]

/-- What holds of all entries of a tree holds of those of a child. -/
theorem All.child {tree child : NameTree α} (all : tree.All P) {name : String}
    (found : tree.child? name = some child) : child.All P :=
  all.children child (List.mem_of_find?_eq_some found)

/-- What holds of all entries of a tree and a child holds of the tree with the child. -/
theorem All.setChild {tree child : NameTree α} (all : tree.All P) (new : child.All P) :
    (tree.setChild child).All P := by
  rw [NameTree.setChild]
  split
  · refine .intro (fun c there => ?_) all.types
    obtain ⟨c', there', rfl⟩ := List.mem_map.1 there
    split
    · exact new
    · exact all.children c' there'
  · refine .intro (fun c there => ?_) all.types
    rcases List.mem_append.1 there with old | last
    · exact all.children c old
    · exact List.mem_singleton.1 last ▸ new

/-- What holds of all entries and a new one holds of the entries with it. -/
theorem all_addNamed {name : String} {entry : α} {types : List (String × List α)}
    (new : P entry) (old : ∀ pair ∈ types, ∀ entry ∈ pair.2, P entry) :
    ∀ pair ∈ addNamed name entry types, ∀ entry ∈ pair.2, P entry := by
  induction types with
  | nil => simpa [addNamed] using new
  | cons pair rest ih =>
    obtain ⟨n, entries⟩ := pair
    rw [List.forall_mem_cons] at old
    rw [addNamed]
    split
    · refine List.forall_mem_cons.2 ⟨fun e there => ?_, old.2⟩
      rcases List.mem_append.1 there with before | last
      · exact old.1 e before
      · exact List.mem_singleton.1 last ▸ new
    · exact List.forall_mem_cons.2 ⟨old.1, ih old.2⟩

/-- What holds of all entries of a tree and some types holds of the tree with these. -/
theorem All.addTypes {tree : NameTree α} (all : tree.All P) {types : List (String × α)}
    (new : ∀ pair ∈ types, P pair.2) : (tree.addTypes types).All P := by
  refine .intro all.children ?_
  rw [NameTree.addTypes]
  have old := all.types
  generalize tree.types = found at old ⊢
  induction types generalizing found with
  | nil => exact old
  | cons pair rest ih =>
    rw [List.forall_mem_cons] at new
    exact ih new.2 (addNamed pair.1 pair.2 found) (all_addNamed new.1 old)

/-- What holds of all types of packages holds in the index of the packages. -/
theorem All.addPackages {entry : Classifier ι ρ → α} {tree : NameTree α} (all : tree.All P) :
    (ps : List (Package ι ρ)) → (∀ t ∈ typesIn ps, P (entry t)) →
      (NameTree.addPackages entry tree ps).All P
  | [], _ => all
  | ⟨_, name, packages, types⟩ :: rest, new => by
    simp only [typesIn_cons, List.mem_append, or_imp, forall_and] at new
    rw [NameTree.addPackages, NameTree.addPackage]
    have child : ((tree.child? name).getD (.empty name)).All P := by
      cases found : tree.child? name with
      | none => exact all_empty name
      | some child => exact all.child found
    refine All.addPackages (all.setChild (All.addPackages (child.addTypes ?_) packages new.2.1)) rest
      new.2.2
    intro pair there
    obtain ⟨t, among, rfl⟩ := List.mem_map.1 there
    exact new.1 t among

/-- What holds of all entries of a tree holds below it. -/
theorem All.descend {tree node : NameTree α} (all : tree.All P) {names : List String}
    (found : tree.descend names = some node) : node.All P := by
  induction names generalizing tree with
  | nil => exact Option.some.inj found ▸ all
  | cons name rest ih =>
    rw [NameTree.descend] at found
    split at found
    · exact absurd found (by simp)
    · next child there => exact ih (all.child there) found

/-- What holds of all entries of a tree holds of those with a name. -/
theorem All.typesNamed {tree : NameTree α} (all : tree.All P) (name : String) :
    ∀ entry ∈ tree.typesNamed name, P entry := by
  intro entry there
  rw [NameTree.typesNamed] at there
  cases found : tree.types.lookup name with
  | none => simp [found] at there
  | some entries =>
    obtain ⟨before, after, split, _⟩ := List.lookup_eq_some_iff.1 found
    exact all.types (name, entries) (by simp [split]) entry (by simpa [found] using there)

variable [HasKind α]

/-- A qualified name leads to an entry of the index. -/
theorem All.findQualified {tree : NameTree α} (all : tree.All P) {kinds : List Kind} {name : String}
    {entry : α} (found : tree.findQualified kinds name = some entry) : P entry := by
  simp only [NameTree.findQualified] at found
  split at found
  · exact absurd found (by simp)
  · split at found
    · exact absurd found (by simp)
    · next node there =>
      exact (all.descend there).typesNamed _ entry (List.mem_of_find?_eq_some found)

end NameTree

/-! ## Directories -/

section Directory

variable [HasKind α]

/-- Whether something holds of all types of a scope. -/
def Scope.All (P : α → Prop) (scope : Scope α) : Prop := ∀ pair ∈ scope, P pair.2

/-- What holds of all entries of a scope holds of the one that is found. -/
theorem Scope.All.named {scope : Scope α} (all : Scope.All P scope) {kinds : List Kind} {name : String}
    {entry : α} (found : scope.named? kinds name = some entry) : P entry := by
  obtain ⟨pair, there, rfl⟩ := Option.map_eq_some_iff.1 found
  exact all pair (List.mem_of_find?_eq_some there)

/-- A name leads to an entry of the index, of a package around it or of the whole model. -/
theorem Directory.of_find? {d : Directory α} (tree : d.tree.All P) (everything : Scope.All P d.everything)
    {scopes : List (Scope α)} (around : ∀ scope ∈ scopes, Scope.All P scope) {kinds : List Kind}
    {name : String} {entry : α} (found : d.find? scopes kinds name = some entry) : P entry := by
  rw [Directory.find?] at found
  split at found
  · exact absurd found (by simp)
  · split at found
    · exact tree.findQualified found
    · obtain ⟨scope, there, named⟩ := List.exists_of_findSome?_eq_some found
      rcases List.mem_append.1 there with near | last
      · exact (around scope near).named named
      · exact Scope.All.named (List.mem_singleton.1 last ▸ everything) named

end Directory

end ClassDiagram
