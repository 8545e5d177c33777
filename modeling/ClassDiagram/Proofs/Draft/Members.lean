import ClassDiagram.Draft.Analysis
import ClassDiagram.Proofs.Draft.Plain
import ClassDiagram.Proofs.Model.Contributions

/-!
# Members of classes in a draft

In a linked draft whose references lead to types of its tree, the members of a class are those that a plain scan of
the associations finds, and each association contributes to the classes what its ends say
(`members_conserved`).  This is also what the draft answers when it is asked for the members of a class, and it answers
where everything in it is of its kind.
-/

set_option autoImplicit false

namespace ClassDiagram.Draft

variable {d : Draft} {found : List AssociationMember}

/-- The members that a draft finds for a type, by its key. -/
def membersFound (d : Draft) (origin : Origin) : List AssociationMember :=
  (d.view.everyType.find? (·.key == d.key origin)).elim [] d.view.associationMembers

/-- What a draft answers, if it can, when it is asked for the members of a type. -/
theorem members_eq {origin : Origin} (answered : (d.members origin).1 = .ok found) :
    found = d.membersFound origin := by
  change ((do
    d.readEnds
    Inquiry.of ((d.membersFound origin).forM (methodsFit d.givenAt))
    return d.membersFound origin : Inquiry (List AssociationMember)).run []).1 = .ok found at answered
  obtain ⟨_, _, _, answered⟩ := Inquiry.ok_of_bind answered
  obtain ⟨_, _, _, answered⟩ := Inquiry.ok_of_bind answered
  exact (Except.ok.inj answered).symm

/-- The names of accessors can be formed of names that are texts. -/
theorem methodsFit_nothing (m : AssociationMember) : methodsFit .nothing m = .ok () := by
  unfold methodsFit
  cases m.isBidirectional <;> rfl

/-- A draft in which everything is of its kind answers. -/
theorem IsTyped.members_eq_ok (typed : d.IsTyped) (origin : Origin) :
    (d.members origin).1 = .ok (d.membersFound origin) := by
  have fits : (d.membersFound origin).forM (methodsFit d.givenAt) = .ok () := by
    rw [typed.givenAt_eq]
    exact forM_eq_ok fun m _ => methodsFit_nothing m
  have answers : (do
      d.readEnds
      Inquiry.of ((d.membersFound origin).forM (methodsFit d.givenAt))
      return d.membersFound origin : Inquiry (List AssociationMember)).Gives (.ok (d.membersFound origin)) := by
    rw [fits]
    exact typed.gives_readEnds.then ((Inquiry.gives_of (.ok ())).then (Inquiry.gives_pure _))
  exact answers.ask_eq d

/-- A type of a sound draft is found by its key, as it is seen from the draft. -/
theorem IsSound.find?_seen (sound : d.IsSound) {t : Classifier Handle Pointer} (there : .classifier t ∈ d.elements) :
    d.view.everyType.find? (·.key == d.key t.place.origin) = some (d.seen t) := by
  have known : d.seen t ∈ d.view.everyType := mem_everyType_view there
  refine find?_eq_some_of_unique known (beq_self_eq_true _) fun t' known' same => ?_
  exact List.inj_on_of_nodup_map sound.nodup_typeKeys known' known (eq_of_beq same)

/-- A type of the model of a sound draft is found by the key of its place. -/
theorem IsSound.find?_key (sound : d.IsSound) {t : Classifier Handle Pointer} (there : t ∈ d.model.types) :
    d.view.everyType.find? (·.key == d.key t.place.origin) = some (d.seen t) :=
  sound.find?_seen (mem_elements_of_tree (Model.mem_types_iff.1 there))

/-- The members of every class of a linked draft are those that a plain scan of the associations finds in their order:
of an association with two ends the far ones whose type is known, each with the other end.  These are answered where
everything in the draft is of its kind, and nothing else is answered anywhere.  And every association contributes two
members where it is between classes, one where it is between a class and a type of another kind, and else none. -/
theorem members_conserved (linked : d.IsLinked) (closed : d.IsClosed) :
    (∀ c ∈ d.view.classes, d.view.associationMembers c = d.view.scannedMembers c) ∧
      (∀ t ∈ d.model.types, t.kind = .classKind →
        (∀ found, (d.members t.place.origin).1 = .ok found → found = d.view.scannedMembers (d.seen t)) ∧
          (d.IsTyped → (d.members t.place.origin).1 = .ok (d.view.scannedMembers (d.seen t)))) ∧
      ∀ a ∈ d.view.associations, d.view.Conserves a := by
  have current := linked.isCurrent
  have coherent := current.view_isCoherent closed
  have scan : ∀ c ∈ d.view.classes, d.view.associationMembers c = d.view.scannedMembers c :=
    fun c isClass => coherent.associationMembers_eq_scan isClass
  refine ⟨scan, fun t there kind => ?_, fun a among => ?_⟩
  · have isClass : d.seen t ∈ d.view.classes := by
      refine List.mem_filter.2 ⟨?_, ?_⟩
      · rw [types_view]
        exact List.mem_map_of_mem there
      · obtain ⟨place, name, body⟩ := t
        cases body <;> simp_all [seen, Classifier.map, Classifier.kind, Body.map, Body.kind]
    have same : d.membersFound t.place.origin = d.view.scannedMembers (d.seen t) := by
      rw [membersFound, current.sound.find?_key there]
      exact scan _ isClass
    rw [← same]
    exact ⟨fun found answered => members_eq answered, fun typed => typed.members_eq_ok t.place.origin⟩
  · exact coherent.conserves among fun e there target leads =>
      current.exists_type_of_endType closed among there leads

/-- An end of an association. -/
def endAt (name type : String) (upper : Bound) : Property Unit String :=
  ⟨(), name, some type, .number 0, upper, none, false, .plain⟩

/-- A tournament with associations between two classes, of a class with itself, of a class and an interface, with an
unknown type, and between three classes. -/
def tournament : Declared :=
  ⟨[⟨(), "tournament", [⟨(), "people", [], [⟨(), "Player", .classBody ⟨false, [], [], [], []⟩⟩]⟩],
      [⟨(), "Team", .classBody ⟨false, [], [], [], []⟩⟩,
        ⟨(), "Sponsor", .interface ⟨[], [], []⟩⟩,
        ⟨(), "plays", .association [endAt "team" "Team" (.number 1), endAt "players" "Player" .unbounded]⟩,
        ⟨(), "meets", .association [endAt "hosts" "Team" .unbounded, endAt "guests" "Team" .unbounded]⟩,
        ⟨(), "funds", .association [endAt "sponsor" "Sponsor" (.number 1), endAt "funded" "Team" .unbounded]⟩]⟩,
    ⟨(), "rest", [],
      [⟨(), "judges", .association [endAt "judge" "Judge" (.number 1), endAt "judged" "Team" .unbounded]⟩,
        ⟨(), "trades", .association
          [endAt "seller" "Team" (.number 1), endAt "buyer" "Team" (.number 1), endAt "traded" "Player" (.number 1)]⟩]⟩]⟩

/-- The associations of the tournament contribute two, two, one, no and no members. -/
theorem members_conserved_in_tournament :
    (∀ c ∈ (ofDeclared tournament).view.classes, (ofDeclared tournament).view.associationMembers c =
        (ofDeclared tournament).view.scannedMembers c) ∧
      (∀ t ∈ (ofDeclared tournament).model.types, t.kind = .classKind →
        ((ofDeclared tournament).members t.place.origin).1 =
          .ok ((ofDeclared tournament).view.scannedMembers ((ofDeclared tournament).seen t))) ∧
      (∀ a ∈ (ofDeclared tournament).view.associations, (ofDeclared tournament).view.Conserves a) ∧
      ((ofDeclared tournament).view.associations.map fun a =>
          (a.name, ((ofDeclared tournament).view.membersOf a).map fun r => (r.owner.name, r.name))) =
        [("plays", [("Team", "players"), ("Player", "team")]),
          ("meets", [("Team", "hosts"), ("Team", "guests")]),
          ("funds", [("Team", "sponsor")]), ("judges", []), ("trades", [])] := by
  obtain ⟨scan, answers, conserved⟩ := members_conserved (.declared tournament) (isClosed_ofDeclared tournament)
  have answered := fun t there kind => (answers t there kind).2 (isTyped_ofDeclared tournament)
  exact ⟨scan, answered, conserved, by decide +kernel⟩

end ClassDiagram.Draft
