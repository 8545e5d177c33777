import ClassDiagram.Proofs.Model.Cycles

/-!
# The way back to a node

The search from a node gives the position of the first of its super references that leads back to it
(`returnIndex?_eq_findIdx?`), though it drops the references of a type when it has followed them under an earlier
position.  A type that was followed without success leads nowhere that matters, so dropping it takes no way from the
references after it (`reaches_without`); one that leads back ends the search under the position that it was found by.

The search follows the references of no type twice (`readAmong_nodup`), and its answer depends on those of no other
type (`entryAmong_of_agree`).  All this together is `search_is_exact`.
-/

set_option autoImplicit false

namespace ClassDiagram.SuperGraph

open Relation

variable {α : Type} [DecidableEq α] {edges edges' : List (α × List (Option α))} {node next n : α}
  {supers : List (Option α)} {t : Option α}

/-! ## One step of the search -/

section

variable (ne : next ≠ node)
include ne

/-- A node without edges is no way in. -/
theorem entryAmong_of_missing (missing : edges.lookup next = none) (origin : Nat) (rest : List (Option α × Nat)) :
    entryAmong node edges ((some next, origin) :: rest) = entryAmong node edges rest := by
  rw [entryAmong, if_neg ne]
  split
  · rfl
  · next found => simp [missing] at found

/-- The way in through a node is the way in through what it leads to, without the node. -/
theorem entryAmong_of_lookup (found : edges.lookup next = some supers) (origin : Nat)
    (rest : List (Option α × Nat)) :
    entryAmong node edges ((some next, origin) :: rest) =
      entryAmong node (without edges next) (supers.map (·, origin) ++ rest) := by
  rw [entryAmong, if_neg ne]
  split
  · next missing => simp [found] at missing
  · next supers' found' =>
    obtain rfl : supers = supers' := Option.some.inj (found.symm.trans found')
    rfl

/-- A node without edges is not read. -/
theorem readAmong_of_missing (missing : edges.lookup next = none) (rest : List (Option α)) :
    readAmong node edges (some next :: rest) = readAmong node edges rest := by
  rw [readAmong, if_neg ne]
  split
  · rfl
  · next found => simp [missing] at found

/-- A node with edges is read, and then what it leads to, without the node. -/
theorem readAmong_of_lookup (found : edges.lookup next = some supers) (rest : List (Option α)) :
    readAmong node edges (some next :: rest) = next :: readAmong node (without edges next) (supers ++ rest) := by
  rw [readAmong, if_neg ne]
  split
  · next missing => simp [found] at missing
  · next supers' found' =>
    obtain rfl : supers = supers' := Option.some.inj (found.symm.trans found')
    rfl

end

/-! ## References that lead back -/

/-- Whether a reference leads to a node, or to what reaches it. -/
def Reaches (edges : List (α × List (Option α))) (node : α) (t : Option α) : Prop :=
  ∃ n, t = some n ∧ ReflTransGen (Leads edges) n node

/-- Some of several nodes lead to a node exactly if one of them reaches it. -/
theorem someLeads_iff_reaches {todo : List (Option α)} :
    SomeLeads edges todo node ↔ ∃ t ∈ todo, Reaches edges node t := by
  constructor
  · rintro ⟨n, among, way⟩
    exact ⟨some n, among, n, rfl, way⟩
  · rintro ⟨_, among, n, rfl, way⟩
    exact ⟨n, among, way⟩

instance (edges : List (α × List (Option α))) (node : α) : DecidablePred (Reaches edges node) := fun t =>
  decidable_of_iff ((entryAmong node edges [(t, 0)]).isSome = true) <| by
    rw [entryAmong_isSome_iff, someLeads_iff_reaches]
    simp

/-- Nothing is reached from no node. -/
@[simp] theorem not_reaches_none : ¬ Reaches edges node none := by
  simp [Reaches]

/-- A node reaches itself. -/
theorem reaches_self : Reaches edges node (some node) := ⟨node, rfl, .refl⟩

/-- A node without edges reaches no other. -/
theorem not_reaches_of_missing (ne : next ≠ node) (missing : edges.lookup next = none) :
    ¬ Reaches edges node (some next) := by
  rintro ⟨n, same, way⟩
  obtain rfl := Option.some.inj same
  rcases way.cases_head with here | ⟨b, leads, _⟩
  · exact ne here
  · exact not_leads_of_lookup missing b leads

/-- A type leads back exactly if one of its references does, after its own references are dropped. -/
theorem reaches_iff_of_lookup (found : edges.lookup next = some supers) (ne : next ≠ node) :
    Reaches edges node (some next) ↔ ∃ s ∈ supers, Reaches (without edges next) node s := by
  have dropped := someLeads_without found ne []
  rw [List.append_nil, someLeads_iff_reaches, someLeads_iff_reaches] at dropped
  simpa using dropped.symm

/-- The references of a type that does not lead back may be dropped. -/
theorem reaches_without (stuck : ¬ Reaches edges node (some next)) (t : Option α) :
    Reaches (without edges next) node t ↔ Reaches edges node t := by
  have wider {a b : α} (way : ReflTransGen (Leads (without edges next)) a b) :
      ReflTransGen (Leads edges) a b :=
    ReflTransGen.mono (fun _ _ leads => (leads_without.1 leads).2) _ _ way
  constructor
  · rintro ⟨n, rfl, way⟩
    exact ⟨n, rfl, wider way⟩
  · rintro ⟨n, rfl, way⟩
    rcases leads_or_after way next with avoids | ⟨s, leads, after⟩
    · exact ⟨n, rfl, avoids⟩
    · exact absurd ⟨next, rfl, (wider after).head leads⟩ stuck

/-! ## The first of them -/

omit [DecidableEq α] in
/-- Entries with one origin: the first that is accepted tells this origin. -/
theorem find?_withOrigin {p : Option α → Bool} (supers : List (Option α)) (origin : Nat)
    (rest : List (Option α × Nat)) :
    ((supers.map (·, origin) ++ rest).find? fun entry => p entry.1).map Prod.snd =
      if ∃ s ∈ supers, p s = true then some origin else (rest.find? fun entry => p entry.1).map Prod.snd := by
  induction supers with
  | nil => simp
  | cons s others ih =>
    by_cases accepted : p s = true
    · simp [accepted]
    · simpa [accepted] using ih

/-- The search gives the origin of the first entry of its list that leads back. -/
theorem entryAmong_eq_find? (node : α) (edges : List (α × List (Option α))) (todo : List (Option α × Nat)) :
    entryAmong node edges todo =
      (todo.find? fun entry => decide (Reaches edges node entry.1)).map Prod.snd := by
  induction edges, todo using entryAmong.induct node with
  | case1 edges => simp [entryAmong]
  | case2 edges _ rest ih => simp [entryAmong, ih]
  | case3 edges origin rest => simp [entryAmong, reaches_self]
  | case4 edges next origin rest ne missing ih =>
    rw [entryAmong_of_missing ne missing, ih]
    simp [not_reaches_of_missing ne missing]
  | case5 edges next origin rest ne supers found ih =>
    have origins := find?_withOrigin (p := fun s => decide (Reaches (without edges next) node s)) supers origin rest
    have through := reaches_iff_of_lookup found ne
    rw [entryAmong_of_lookup ne found, ih, origins]
    simp only [decide_eq_true_eq]
    by_cases back : Reaches edges node (some next)
    · -- Whichever of the references leads back, it was found under the origin of the type.
      rw [if_pos (through.1 back)]
      simp [back]
    · rw [if_neg fun some => back (through.2 some)]
      simp [back, reaches_without back]

/-- The search from a node gives the position of the first of its references that leads back to it. -/
theorem returnIndex?_eq_findIdx? (g : SuperGraph α) (node : α) :
    g.returnIndex? node = (g.supersOf node).findIdx? fun t => decide (Reaches g.edges node t) := by
  rw [returnIndex?, entryAmong_eq_find?, List.findIdx?_eq_fst_find?_zipIdx]

/-- Whether the super reference of a node at a position leads to the node, or to what reaches it. -/
def ReturnsBy (g : SuperGraph α) (node : α) (i : Nat) : Prop :=
  ∃ t, (g.supersOf node)[i]? = some (some t) ∧ ReflTransGen (Leads g.edges) t node

/-- A node returns by an index exactly if what it leads to there reaches it. -/
theorem returnsBy_iff {g : SuperGraph α} {i : Nat} :
    g.ReturnsBy node i ↔ ∃ within : i < (g.supersOf node).length, Reaches g.edges node (g.supersOf node)[i] := by
  constructor
  · rintro ⟨t, found, way⟩
    obtain ⟨within, same⟩ := List.getElem?_eq_some_iff.1 found
    exact ⟨within, t, same, way⟩
  · rintro ⟨within, t, same, way⟩
    exact ⟨t, List.getElem?_eq_some_iff.2 ⟨within, same⟩, way⟩

/-- The index that is found is the first one by which a node returns. -/
theorem returnIndex?_eq_some_iff {g : SuperGraph α} {i : Nat} :
    g.returnIndex? node = some i ↔ g.ReturnsBy node i ∧ ∀ j < i, ¬ g.ReturnsBy node j := by
  rw [returnIndex?_eq_findIdx?, List.findIdx?_eq_some_iff_getElem, returnsBy_iff]
  simp only [decide_eq_true_eq, returnsBy_iff]
  constructor
  · rintro ⟨within, back, first⟩
    refine ⟨⟨within, back⟩, ?_⟩
    rintro j less ⟨_, earlier⟩
    exact first j less earlier
  · rintro ⟨⟨within, back⟩, first⟩
    refine ⟨within, back, ?_⟩
    intro j less earlier
    exact first j less ⟨by omega, earlier⟩

/-! ## What the search reads -/

/-- A node with edges is one of the graph. -/
theorem mem_keys_of_lookup (found : edges.lookup n = some supers) : n ∈ edges.map Prod.fst := by
  obtain ⟨before, after, split, _⟩ := List.lookup_eq_some_iff.1 found
  simp [split]

/-- The search follows the references of no type twice, and not those of the node. -/
theorem readAmong_nodup (node : α) (edges : List (α × List (Option α))) (todo : List (Option α)) :
    (readAmong node edges todo).Nodup ∧
      ∀ n ∈ readAmong node edges todo, n ≠ node ∧ (edges.lookup n).isSome = true := by
  induction edges, todo using readAmong.induct node with
  | case1 edges => simp [readAmong]
  | case2 edges rest ih => simpa [readAmong] using ih
  | case3 edges rest => simp [readAmong]
  | case4 edges next rest ne missing ih =>
    rw [readAmong_of_missing ne missing]
    exact ih
  | case5 edges next rest ne supers found ih =>
    obtain ⟨once, others⟩ := ih
    simp only [lookup_without] at others
    rw [readAmong_of_lookup ne found, List.nodup_cons, List.forall_mem_cons]
    refine ⟨⟨?_, once⟩, ⟨ne, by simp [found]⟩, ?_⟩
    · intro again
      simpa using (others next again).2
    · intro n among
      obtain ⟨other, kept⟩ := others n among
      split at kept
      · simp at kept
      · exact ⟨other, kept⟩

/-- The answer of the search depends on the references of those types only that it reads. -/
theorem entryAmong_of_agree (todo : List (Option α × Nat))
    (read : ∀ n ∈ readAmong node edges (todo.map Prod.fst), edges'.lookup n = edges.lookup n)
    (missing : ∀ n, edges.lookup n = none → edges'.lookup n = none) :
    entryAmong node edges' todo = entryAmong node edges todo := by
  induction edges, todo using entryAmong.induct node generalizing edges' with
  | case1 edges => simp [entryAmong]
  | case2 edges _ rest ih =>
    rw [List.map_cons, readAmong] at read
    simpa [entryAmong] using ih read missing
  | case3 edges origin rest => simp [entryAmong]
  | case4 edges next origin rest ne none ih =>
    rw [List.map_cons, readAmong_of_missing ne none] at read
    rw [entryAmong_of_missing ne none, entryAmong_of_missing ne (missing next none)]
    exact ih read missing
  | case5 edges next origin rest ne supers found ih =>
    rw [List.map_cons, readAmong_of_lookup ne found, List.forall_mem_cons] at read
    rw [entryAmong_of_lookup ne found, entryAmong_of_lookup ne (read.1.trans found)]
    apply ih
    · intro n among
      rw [lookup_without, lookup_without]
      split
      · rfl
      · exact read.2 n (by simpa [Function.comp_def] using among)
    · intro n none
      rw [lookup_without] at none ⊢
      split
      · rfl
      · next other => exact missing n (by simpa [other] using none)

/-! ## Nodes on cycles -/

/-- Whether a node reaches itself over one or more references. -/
def IsOnCycle (g : SuperGraph α) (node : α) : Prop := TransGen (Leads g.edges) node node

instance (g : SuperGraph α) : DecidablePred g.IsOnCycle := fun node =>
  decidable_of_iff _ (g.returnIndex?_isSome_iff node)

/-- The nodes on cycles are those that return to themselves, in order. -/
theorem nodes_cycleNodes (g : SuperGraph α) :
    g.cycleNodes.map (·.node) = g.nodes.filter fun node => decide (g.IsOnCycle node) := by
  rw [cycleNodes, List.map_filterMap, ← List.filterMap_eq_filter]
  apply List.filterMap_congr
  intro node _
  have found := g.returnIndex?_isSome_iff node
  cases answer : g.returnIndex? node with
  | none =>
    have free : ¬ g.IsOnCycle node := fun cycle => by simpa [answer] using found.2 cycle
    simp [Option.guard, free]
  | some i =>
    have cycle : g.IsOnCycle node := found.1 (by simp [answer])
    simp [Option.guard, cycle]

/-- A node on a cycle is told with the first index by which it returns. -/
theorem returnIndex?_of_mem_cycleNodes {g : SuperGraph α} {c : CycleNode α} (found : c ∈ g.cycleNodes) :
    g.returnIndex? c.node = some c.index := by
  obtain ⟨node, _, built⟩ := List.mem_filterMap.1 found
  obtain ⟨i, answer, rfl⟩ := Option.map_eq_some_iff.1 built
  exact answer

/-- The search for cycles is exact, whatever the references of the types lead to.  From a node it follows the references
of each type at most once, of types of the graph only, and its answer depends on no other references.  It finds none
exactly if the node does not reach itself, and else the first position whose reference leads to the node or to what
reaches it.  So the nodes that are reported are, in order, the listed ones that are on a cycle. -/
theorem search_is_exact (g : SuperGraph α) :
    (∀ node,
      ((g.nodesRead node).Nodup ∧ (∀ n ∈ g.nodesRead node, n = node ∨ n ∈ g.edges.map Prod.fst) ∧
        ∀ edges', (∀ n ∈ g.nodesRead node, edges'.lookup n = g.edges.lookup n) →
          (∀ n, g.edges.lookup n = none → edges'.lookup n = none) →
            (⟨g.nodes, edges'⟩ : SuperGraph α).returnIndex? node = g.returnIndex? node) ∧
      (g.returnIndex? node = none ↔ ¬ g.IsOnCycle node) ∧
      ∀ i, g.returnIndex? node = some i ↔ g.ReturnsBy node i ∧ ∀ j < i, ¬ g.ReturnsBy node j) ∧
    g.cycleNodes.map (·.node) = g.nodes.filter (fun node => decide (g.IsOnCycle node)) ∧
    ∀ c ∈ g.cycleNodes, g.returnIndex? c.node = some c.index := by
  refine ⟨?_, g.nodes_cycleNodes, fun c found => returnIndex?_of_mem_cycleNodes found⟩
  intro node
  obtain ⟨once, others⟩ := readAmong_nodup node g.edges (g.supersOf node)
  refine ⟨⟨?_, ?_, ?_⟩, ?_, fun i => returnIndex?_eq_some_iff⟩
  · rw [nodesRead, List.nodup_cons]
    exact ⟨fun among => (others node among).1 rfl, once⟩
  · intro n among
    rcases List.mem_cons.1 among with rfl | later
    · exact .inl rfl
    · obtain ⟨supers, found⟩ := Option.isSome_iff_exists.1 (others n later).2
      exact .inr (mem_keys_of_lookup found)
  · intro edges' read missing
    rw [nodesRead, List.forall_mem_cons] at read
    have supers : supersAmong edges' node = g.supersOf node := by
      rw [supersAmong, read.1]
      rfl
    change entryAmong node edges' (supersAmong edges' node).zipIdx = _
    rw [supers]
    apply entryAmong_of_agree
    · rw [List.zipIdx_map_fst]
      exact read.2
    · exact missing
  · rw [IsOnCycle, ← g.returnIndex?_isSome_iff]
    simp

/-- A node with a reference to nothing, one that ends without the node, and two that lead back by the same type.  A node
that only reaches the cycle is not reported, one that is listed twice is reported twice. -/
example :
    (⟨[6, 1, 4, 1], [(1, [none, some 4, some 3, some 2]), (2, [some 1]), (3, [some 2]), (4, [some 5]),
      (6, [some 1])]⟩ : SuperGraph Nat).cycleNodes = [⟨1, 2⟩, ⟨1, 2⟩] := by
  decide +kernel

end ClassDiagram.SuperGraph
