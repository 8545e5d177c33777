import ClassDiagram.Objects.Creation
import Mathlib.Data.List.Nodup
import Mathlib.Logic.Relation

/-!
# The search for cycles

The search from a node finds a way back exactly if the node reaches itself over one or more references
(`returnIndex?_isSome_iff`).

The search drops the references of a type when it has followed them.  That loses no way to the node: a way
that comes by the type again can be cut short to the part after its last visit, and that part begins with a
reference that the search has just added to its list (`leads_or_after`).
-/

set_option autoImplicit false

namespace ClassDiagram

open Relation

namespace SuperGraph

variable {α : Type} [DecidableEq α] {edges : List (α × List (Option α))} {node next n : α}
  {supers : List (Option α)}

/-- Whether a reference of a node leads to another one. -/
def Leads (edges : List (α × List (Option α))) (a b : α) : Prop := some b ∈ supersAmong edges a

/-- The super types of a node are those that its edges have. -/
theorem supersAmong_of_lookup (found : edges.lookup n = some supers) : supersAmong edges n = supers := by
  rw [supersAmong, found, Option.getD_some]

/-- A node without edges leads nowhere. -/
theorem not_leads_of_lookup (none : edges.lookup n = none) (b : α) : ¬ Leads edges n b := by
  simp [Leads, supersAmong, none]

/-- Without a node all others have the edges that they had. -/
theorem lookup_without (edges : List (α × List (Option α))) (next n : α) :
    (without edges next).lookup n = if n = next then none else edges.lookup n := by
  induction edges with
  | nil => simp [without]
  | cons entry rest ih =>
    obtain ⟨key, supers⟩ := entry
    rw [without] at ih ⊢
    by_cases dropped : key = next
    · subst dropped
      by_cases same : n = key
      · simpa [same] using ih
      · simp [same, ih, List.lookup_cons, beq_false_of_ne same]
    · by_cases same : n = key
      · subst same
        simp [dropped]
      · simp [dropped, ih, List.lookup_cons, beq_false_of_ne same]

/-- Without a node all others lead where they led. -/
theorem leads_without {b : α} : Leads (without edges next) n b ↔ n ≠ next ∧ Leads edges n b := by
  rw [Leads, supersAmong, lookup_without]
  by_cases same : n = next <;> simp [same, Leads, supersAmong]

/-- A way to a node avoids the references of a type, or it does so after one of them. -/
theorem leads_or_after (way : ReflTransGen (Leads edges) n node) (next : α) :
    ReflTransGen (Leads (without edges next)) n node ∨
      ∃ s, Leads edges next s ∧ ReflTransGen (Leads (without edges next)) s node := by
  induction way using ReflTransGen.head_induction_on with
  | refl => exact .inl .refl
  | @head a b step _ ih =>
    rcases ih with avoids | after
    · by_cases same : a = next
      · exact .inr ⟨b, same ▸ step, avoids⟩
      · exact .inl (avoids.head (leads_without.2 ⟨same, step⟩))
    · exact .inr after

/-- Whether one of some references leads to a node, over any number of further ones. -/
def SomeLeads (edges : List (α × List (Option α))) (todo : List (Option α)) (node : α) : Prop :=
  ∃ n, some n ∈ todo ∧ ReflTransGen (Leads edges) n node

/-- Some of several lists of nodes lead to a node if the first does or some of the others. -/
theorem someLeads_cons {t : Option α} {rest : List (Option α)} :
    SomeLeads edges (t :: rest) node ↔
      (∃ n ∈ t, ReflTransGen (Leads edges) n node) ∨ SomeLeads edges rest node := by
  simp only [SomeLeads, List.mem_cons, or_and_right, exists_or, Option.mem_def, eq_comm (b := t)]

/-- The references of a type stand for the type, and need not be followed again. -/
theorem someLeads_without (found : edges.lookup next = some supers) (ne : next ≠ node)
    (rest : List (Option α)) :
    SomeLeads (without edges next) (supers ++ rest) node ↔ SomeLeads edges (some next :: rest) node := by
  have step {s : α} : some s ∈ supers ↔ Leads edges next s := by
    rw [Leads, supersAmong_of_lookup found]
  constructor
  · rintro ⟨s, among, way⟩
    have way : ReflTransGen (Leads edges) s node :=
      ReflTransGen.mono (fun a b leads => (leads_without.1 leads).2) _ _ way
    rcases List.mem_append.1 among with first | later
    · exact ⟨next, List.mem_cons_self, way.head (step.1 first)⟩
    · exact ⟨s, List.mem_cons_of_mem _ later, way⟩
  · rintro ⟨s, among, way⟩
    rcases leads_or_after way next with avoids | ⟨b, leads, after⟩
    · rcases List.mem_cons.1 among with same | later
      · -- A way from the type itself starts with one of its references.
        obtain rfl : s = next := Option.some.inj same
        rcases avoids.cases_head with here | ⟨b, leads, _⟩
        · exact absurd here ne
        · exact absurd rfl (leads_without.1 leads).1
      · exact ⟨s, List.mem_append_right _ later, avoids⟩
    · exact ⟨b, List.mem_append_left _ (step.2 leads), after⟩

/-- The search finds a reference exactly if one of those that it is given leads to the node. -/
theorem entryAmong_isSome_iff (node : α) (edges : List (α × List (Option α)))
    (todo : List (Option α × Nat)) :
    (entryAmong node edges todo).isSome ↔ SomeLeads edges (todo.map Prod.fst) node := by
  induction edges, todo using entryAmong.induct node with
  | case1 edges => simp [entryAmong, SomeLeads]
  | case2 edges _ rest ih => simp [entryAmong, ih, someLeads_cons]
  | case3 edges origin rest =>
    rw [entryAmong, if_pos rfl]
    exact iff_of_true rfl ⟨node, List.mem_cons_self, .refl⟩
  | case4 edges next origin rest ne none ih =>
    have stuck : ¬ ReflTransGen (Leads edges) next node := by
      intro way
      rcases way.cases_head with here | ⟨b, leads, _⟩
      · exact ne here
      · exact not_leads_of_lookup none b leads
    rw [entryAmong, if_neg ne]
    split
    · rw [ih, List.map_cons, someLeads_cons]
      simp [stuck]
    · next found => simp [none] at found
  | case5 edges next origin rest ne supers found ih =>
    rw [entryAmong, if_neg ne]
    split
    · next none => simp [found] at none
    · next supers' found' =>
      obtain rfl : supers = supers' := Option.some.inj (found.symm.trans found')
      have dropped := someLeads_without found ne (rest.map Prod.fst)
      simpa [Function.comp_def] using ih.trans (by simpa [Function.comp_def] using dropped)

/-- A node has a reference through which it reaches itself exactly if it is on a cycle. -/
theorem returnIndex?_isSome_iff (g : SuperGraph α) (node : α) :
    (g.returnIndex? node).isSome ↔ TransGen (Leads g.edges) node node := by
  rw [returnIndex?, entryAmong_isSome_iff, TransGen.head'_iff, List.zipIdx_map_fst]
  rfl

/-- No node is found on a cycle exactly if none is on one. -/
theorem cycleNodes_eq_nil_iff (g : SuperGraph α) :
    g.cycleNodes = [] ↔ ∀ node ∈ g.nodes, ¬ TransGen (Leads g.edges) node node := by
  rw [cycleNodes, List.filterMap_eq_nil_iff]
  refine forall₂_congr fun node _ => ?_
  rw [← returnIndex?_isSome_iff]
  cases g.returnIndex? node <;> simp

end SuperGraph

/-! ## Inheritance -/

/-- A search finds the only element that it accepts. -/
theorem find?_eq_some_of_unique {α : Type} {p : α → Bool} {l : List α} {a : α} (among : a ∈ l)
    (accepts : p a = true) (unique : ∀ b ∈ l, p b = true → b = a) : l.find? p = some a := by
  cases found : l.find? p with
  | none => exact absurd accepts (List.find?_eq_none.1 found a among)
  | some b => rw [unique b (List.mem_of_find?_eq_some found) (List.find?_some found)]

namespace Linked

variable {m : Linked} {field : RefField}

/-- Whether the type with a key has a super reference of a field that leads to the type with another
key. -/
def HasSuper (m : Linked) (field : RefField) (key super : Key) : Prop :=
  ∃ t ∈ m.typeWithKey? key, ∃ link ∈ t.supersIn field, ∃ target ∈ link.target, target.key = super

/-- The edges of a type are the keys of what its references lead to. -/
theorem lookup_edges (m : Linked) (field : RefField) (key : Key) :
    (m.edges field).lookup key =
      (m.typeWithKey? key).map fun t => (t.supersIn field).map fun l => l.target.map (·.key) := by
  rw [edges, typeWithKey?]
  induction m.everyType with
  | nil => rfl
  | cons t rest ih =>
    rw [List.map_cons, List.lookup_cons, List.find?_cons, BEq.comm]
    split
    · simp
    · next other => simpa [other] using ih

/-- The graph of a model leads from a type to its super types. -/
theorem leads_edges {key super : Key} :
    SuperGraph.Leads (m.edges field) key super ↔ m.HasSuper field key super := by
  rw [SuperGraph.Leads, SuperGraph.supersAmong, lookup_edges, HasSuper]
  cases m.typeWithKey? key <;> simp

end Linked

end ClassDiagram
