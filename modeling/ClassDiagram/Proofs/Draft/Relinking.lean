import ClassDiagram.Proofs.Draft.Answers

/-!
# Linking forgets what was

Whatever was done with a draft, linking it makes it answer as the draft of a new model with the same tree
(`relinking_forgets`).  What was asked before, in which order, and from which trees it was answered is of no
consequence; only the targets that were given stay.
-/

set_option autoImplicit false

namespace ClassDiagram.Draft

open Relation

variable {d d' : Draft} {owner : Origin} {field : RefField}

/-! ## What does not change the tree -/

/-- A pointer whose target is forgotten is the same as new. -/
theorem Pointer.anew_reset (p : Pointer) : p.reset.anew = p.anew := by
  obtain ⟨_, _, aim⟩ := p
  cases aim <;> rfl

/-- A pointer as new is the same as new. -/
theorem Pointer.anew_anew (p : Pointer) : p.anew.anew = p.anew := by
  obtain ⟨_, _, aim⟩ := p
  cases aim <;> rfl

/-- A pointer that was followed is the same as new. -/
theorem anew_settled (p : Pointer) : (d.settled owner field p).anew = p.anew := by
  rw [settled]
  split
  · next unread =>
    rw [Pointer.anew, Pointer.anew, Pointer.aim_of_isOpen unread]
  · rfl

/-- Linking changes nothing about a draft as new. -/
theorem bare_linkAll (d : Draft) : bare d.linkAll.model = bare d.model := by
  have linked (p : Pointer) : p.linked.anew = p.anew := p.anew_reset
  exact bare_map (f := d.settledHandle) (fun _ => rfl) (fun _ _ _ p => linked p) d.model

/-- A model as new is the same as new. -/
theorem bare_bare (m : Model Handle Pointer) : bare (bare m) = bare m :=
  bare_map (f := bareHandle) (fun _ => rfl) (fun _ _ _ p => p.anew_anew) m

/-- What only reads pointers changes nothing about a draft as new. -/
theorem bare_mapPointers {g : Handle → RefField → Nat → Pointer → Pointer} (reads : d.OnlyReads g) :
    bare (d.mapPointers g).model = bare d.model := by
  refine bare_map (f := id) (fun _ => rfl) (fun h field i p => ?_) d.model
  rcases reads h field i p with same | forgotten | asked
  · rw [same]
  · rw [forgotten, Pointer.anew_reset]
  · rw [asked, anew_settled]

/-- Asking for something leaves the tree as it is. -/
theorem Access.bare_eq (asked : Access d d') : bare d'.model = bare d.model := by
  cases asked with
  | settle chosen =>
    have same := bare_mapPointers (onlyReads_settle d chosen)
    unfold Draft.settle
    split
    · exact same
    · exact same
  | forget owner field index => exact bare_mapPointers (onlyReads_forget d owner field index)
  | find scope kinds name =>
    rw [Draft.find]
    split <;> rfl
  | findQualified kinds name =>
    rw [Draft.findQualified]
    split <;> rfl
  | keepIndex => rfl

/-- Asking a draft something changes nothing about it as new. -/
theorem Accesses.bare_eq (asked : Accesses d d') : bare d'.model = bare d.model := by
  induction asked with
  | refl => rfl
  | tail _ asked ih => exact asked.bare_eq.trans ih

/-! ## Targets that were given -/

/-- Whether each target that was given to a reference of a draft is kept in another one, and the reference leads
to it. -/
def KeepsGiven (d d' : Draft) : Prop :=
  ∀ s target, d.givenTarget? s = some target →
    d'.givenTarget? s = some target ∧ d'.leadsTo? s = some (some target)

/-- The targets that were given to references can be told from a draft as new. -/
theorem givenTarget?_eq (d : Draft) (s : Spot) : d.givenTarget? s =
    (referenceAt? (bare d.model) s).bind fun p =>
      match p.aim with
      | .given target => some target
      | _ => none := by
  rw [givenTarget?, referenceAt?_bare]
  cases referenceAt? d.model s with
  | none => rfl
  | some p =>
    obtain ⟨_, _, aim⟩ := p
    cases aim <;> rfl

/-- A reference leads to the target that was given, in any draft. -/
theorem leadsTo?_of_givenTarget? {s : Spot} {target : Holder} (given : d.givenTarget? s = some target) :
    d.leadsTo? s = some (some target) := by
  obtain ⟨⟨name, isLinked, aim⟩, found, own⟩ := Option.bind_eq_some_iff.1 given
  rw [leadsTo?, found]
  cases aim with
  | given target' => exact congrArg some own
  | _ => exact absurd own (Option.some_ne_none _).symm

/-- Drafts that are the same as new keep the targets that were given. -/
theorem keepsGiven_of_bare (same : bare d'.model = bare d.model) : d.KeepsGiven d' := by
  intro s target given
  have kept : d'.givenTarget? s = some target := by
    rw [givenTarget?_eq, same, ← givenTarget?_eq]
    exact given
  exact ⟨kept, leadsTo?_of_givenTarget? kept⟩

/-! ## Linking -/

/-- The draft of a new model with the tree of a sound draft is current. -/
theorem IsSound.isCurrent_anew (sound : d.IsSound) : d.anew.IsCurrent := by
  have elements : ∀ extra : Option Index, Draft.elements ⟨bare d.model, [], extra, d.additions, [], []⟩ =
      d.model.elements.map bareElement := fun _ =>
    (List.append_nil _).trans (elements_bare d.model)
  refine IsSound.linkAll ⟨?_, ?_, ?_, by simp⟩
  · rw [elements, List.map_map]
    refine (congrArg List.Nodup (List.map_congr_left fun e _ => ?_)).mpr sound.nodup_tree
    exact origin_bareElement e
  · rw [elements, List.forall_mem_map]
    intro e there
    rw [origin_bareElement]
    exact sound.known e (mem_elements_of_tree there)
  · rw [elements, List.forall_mem_map]
    intro e there
    rw [bareElement, Element.references_map, List.forall_mem_map]
    intro r among
    have present := sound.present e (mem_elements_of_tree there) r among
    obtain ⟨field, i, name, isLinked, aim⟩ := r
    cases aim <;> exact present

/-- The draft of a new model with the same tree is the same as new. -/
theorem bare_anew (d : Draft) : bare d.anew.model = bare d.model :=
  (bare_linkAll _).trans (bare_bare d.model)

/-- Whatever happened to a linked draft, linking it makes it answer as the draft of a new model with its tree does,
and so do the drafts after any accesses, linked again or not.  Accesses and linking keep all targets that were
given. -/
theorem relinking_forgets {d d₁ : Draft} (linked : d.IsLinked) (history : Evolves d d₁) :
    (∀ a b, Evolves d a → Access a b ∨ a.link = (.ok (), b) → a.KeepsGiven b) ∧
    ∃ d₂, d₁.link = (.ok (), d₂) ∧ d₂.AnswersAs d₁.anew ∧
      ∀ d₃, Accesses d₂ d₃ → d₃.AnswersAs d₂ ∧ ∃ d₄, d₃.link = (.ok (), d₄) ∧ d₄.AnswersAs d₂ := by
  have always {a : Draft} (before : Evolves d a) : a.IsSound := before.isSound linked.isCurrent.sound
  have sound := always history
  refine ⟨fun a b before step => ?_, d₁.linkAll, sound.link_eq, ?_, fun d₃ asked => ?_⟩
  · rcases step with asked | linking
    · exact keepsGiven_of_bare asked.bare_eq
    · rw [(always before).link_eq] at linking
      obtain ⟨-, rfl⟩ := Prod.mk.inj linking
      exact keepsGiven_of_bare (bare_linkAll a)
  · exact sound.linkAll.answersAs sound.isCurrent_anew ((bare_linkAll d₁).trans (bare_anew d₁).symm)
  · have current := asked.isCurrent sound.linkAll
    refine ⟨current.answersAs sound.linkAll asked.bare_eq, d₃.linkAll, current.sound.link_eq, ?_⟩
    exact current.sound.linkAll.answersAs sound.linkAll ((bare_linkAll d₃).trans asked.bare_eq)

/-- A roster of players, who are persons of another package. -/
def roster : Declared :=
  ⟨[⟨(), "club", [], [⟨(), "Player", .classBody ⟨false, [], [], ["Person"], []⟩⟩]⟩,
    ⟨(), "people", [],
      [⟨(), "Person", .classBody ⟨false, [], [], [], []⟩⟩,
        ⟨(), "Child", .classBody ⟨false, [], [], [], []⟩⟩]⟩]⟩

/-- The place of the class of players. -/
def rosterPlayer : Origin := ⟨0, [.package 0, .type 0]⟩

/-- The place of the class of persons. -/
def rosterPerson : Origin := ⟨0, [.package 1, .type 0]⟩

/-- The place of the class of children. -/
def rosterChild : Origin := ⟨0, [.package 1, .type 1]⟩

/-- The roster after all references were asked for, a reference with a target was added to the player's, and the
name of the person went to the child. -/
def renamedRoster : Draft :=
  ((((ofDeclared roster).settle fun _ _ _ => true).changeSupers (.element rosterPlayer) "super_classes"
      (· ++ [.towards (.text "Person") (.element rosterPerson)])).set
    (.element rosterPerson) "name" (.text "Human")).set (.element rosterChild) "name" (.text "Person")

/-- The player was a person and becomes a child; where the person was given as target, the person stays. -/
theorem relinking_forgets_after_renaming :
    renamedRoster.leadsTo? ⟨rosterPlayer, .superClasses, 0⟩ = some (some (.element rosterPerson)) ∧
      ∃ d₂, renamedRoster.link = (.ok (), d₂) ∧ d₂.AnswersAs renamedRoster.anew ∧
        d₂.leadsTo? ⟨rosterPlayer, .superClasses, 0⟩ = some (some (.element rosterChild)) ∧
        d₂.leadsTo? ⟨rosterPlayer, .superClasses, 1⟩ = some (some (.element rosterPerson)) := by
  have history : Evolves (ofDeclared roster) renamedRoster := by
    refine (ReflTransGen.single (.access (.settle _ _))).tail (.edit (.changeSupers _ _ _ ?added)) |>.tail
      (.edit (.set _ fun _ => ?person)) |>.tail (.edit (.set _ fun _ => ?child))
    case added =>
      intro ps present
      exact List.forall_mem_append.2 ⟨present, List.forall_mem_singleton.2 rfl⟩
    case person => rfl
    case child => rfl
  obtain ⟨keeps, d₂, linking, answers, _⟩ := relinking_forgets (.declared roster) history
  have renewed : renamedRoster.anew.leadsTo? ⟨rosterPlayer, .superClasses, 0⟩ =
      some (some (.element rosterChild)) := by decide +kernel
  have given : renamedRoster.givenTarget? ⟨rosterPlayer, .superClasses, 1⟩ = some (.element rosterPerson) := by
    decide +kernel
  exact ⟨by decide +kernel, d₂, linking, answers, (answers.targets _).trans renewed,
    (keeps _ _ history (.inr linking) _ _ given).2⟩

end ClassDiagram.Draft
