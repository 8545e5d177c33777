import ClassDiagram.Proofs.Draft.Generation
import ClassDiagram.Proofs.Model.Findings

/-!
# Strict configurations

A strict configuration refuses a model with errors before anything is written.  The errors that count are those of the
check: what cannot be written is reported as an error too, but behind them, and refuses nothing.  So of two
configurations that differ in strictness alone, the strict one gives the refusal where the check finds an error, and
else all that the other one gives (`strict_refuses_or_agrees`).
-/

set_option autoImplicit false

namespace ClassDiagram

/-- A configuration made strict. -/
def Configuration.strict (c : Configuration) : Configuration := { c with isStrict := true }

/-- A configuration made lenient. -/
def Configuration.lenient (c : Configuration) : Configuration := { c with isStrict := false }

namespace Configuration

variable {c : Configuration} {found : List Diagnostic}

/-- A strict configuration refuses a model with errors, and tells the findings. -/
theorem accept_strict_of_errors (errors : ¬ NoErrors found) :
    c.strict.accept found = .error (.validationFailed found) := by
  have grave : (c.strict.isStrict && found.any (·.isError)) = true := by
    simpa [strict, NoErrors] using errors
  rw [accept, if_pos grave]
  rfl

/-- A strict configuration accepts a model without errors. -/
theorem accept_strict_of_no_errors (free : NoErrors found) : c.strict.accept found = .ok found := by
  have passes : ¬ (c.strict.isStrict && found.any (·.isError)) = true := by
    simpa [strict, NoErrors] using free
  rw [accept, if_neg passes]
  rfl

/-- A lenient configuration accepts every model. -/
@[simp] theorem accept_lenient : c.lenient.accept found = .ok found := rfl

end Configuration

/-! ## Linked models -/

/-- From a linked model, a strict configuration gives the refusal or what the lenient one gives. -/
theorem Linked.generate_strict (m : Linked) (c : Configuration) (tree : FileTree) :
    (¬ NoErrors (m.diagnostics c.reportsReferences) →
      m.generate c.strict tree = .error (.validationFailed (m.diagnostics c.reportsReferences))) ∧
    (NoErrors (m.diagnostics c.reportsReferences) → m.generate c.strict tree = m.generate c.lenient tree) := by
  have check (c' : Configuration) (same : c'.reportsReferences = c.reportsReferences) :
      c'.check m = c'.accept (m.diagnostics c.reportsReferences) := by
    rw [Configuration.check, same]
  constructor
  · intro errors
    rw [generate, check c.strict rfl, Configuration.accept_strict_of_errors errors]
    rfl
  · intro free
    rw [generate, generate, check c.strict rfl, check c.lenient rfl, Configuration.accept_strict_of_no_errors free,
      Configuration.accept_lenient]
    rfl

/-! ## Drafts -/

namespace Draft

variable {d : Draft} {c : Configuration} {tree : FileTree} {found : List Diagnostic}

/-- Where the check finds an error, a strict run is the check and the refusal, whatever else the configuration and the
files of profiles say. -/
theorem generate_strict_of_errors (checked : (d.diagnostics c.reportsReferences).1 = .ok found)
    (errors : ¬ NoErrors found) :
    d.generate c.strict tree = (.error (.validationFailed found), (d.diagnostics c.reportsReferences).2) := by
  rw [diagnostics] at checked
  unfold generate
  change _ = (_, (d.ask (d.findings d.forms c.reportsReferences)).2)
  rcases asked : d.ask (d.findings d.forms c.reportsReferences) with ⟨answer, after⟩
  obtain rfl : answer = .ok found := by rw [← checked, asked]
  dsimp only
  rw [show c.strict.reportsReferences = c.reportsReferences from rfl, asked]
  simp only [Except.mapError, bind, Except.bind, Configuration.accept_strict_of_errors errors]

/-- Where the check finds no error, or gives no list, strictness makes no difference. -/
theorem generate_strict_of_no_errors
    (free : ∀ found, (d.diagnostics c.reportsReferences).1 = .ok found → NoErrors found) :
    d.generate c.strict tree = d.generate c.lenient tree := by
  rcases asked : d.ask (d.findings d.forms c.reportsReferences) with ⟨answer, after⟩
  have strict : d.ask (d.findings d.forms c.strict.reportsReferences) = (answer, after) := asked
  have lenient : d.ask (d.findings d.forms c.lenient.reportsReferences) = (answer, after) := asked
  unfold generate
  dsimp only
  rw [strict, lenient]
  cases answer with
  | error e => rfl
  | ok found =>
    have passes : NoErrors found := free found (by rw [diagnostics, asked])
    simp only [Except.mapError, bind, Except.bind, Configuration.accept_strict_of_no_errors passes,
      Configuration.accept_lenient]
    rfl

/-- A lenient configuration refuses nothing. -/
theorem generate_lenient_ne_refusal (refused : List Diagnostic) :
    (d.generate c.lenient tree).1 ≠ .error (.validationFailed refused) := by
  unfold generate
  dsimp only
  rcases d.ask (d.findings d.forms c.lenient.reportsReferences) with ⟨e | found, after⟩
  · intro refusal
    cases refusal
  · simp only [Except.mapError, bind, Except.bind, Configuration.accept_lenient]
    -- What comes after the check fails by a profile or by what cannot be written.
    cases c.lenient.typeTable tree with
    | error e =>
      intro refusal
      cases refusal
    | ok table =>
      simp only [pure, Except.pure]
      cases (after.ask (after.files d.forms c.lenient table found)).1 with
      | error e =>
        intro refusal
        cases refusal
      | ok r =>
        intro refusal
        cases refusal

/-- A strict run is refused exactly where the check finds an error, and then with all that the check finds. -/
theorem generate_strict_refuses_iff :
    (d.generate c.strict tree).1 = .error (.validationFailed found) ↔
      (d.diagnostics c.reportsReferences).1 = .ok found ∧ ¬ NoErrors found := by
  constructor
  · intro refusal
    by_cases free : ∀ found, (d.diagnostics c.reportsReferences).1 = .ok found → NoErrors found
    · rw [generate_strict_of_no_errors free] at refusal
      exact absurd refusal (generate_lenient_ne_refusal found)
    · push Not at free
      obtain ⟨found', checked, errors⟩ := free
      rw [generate_strict_of_errors checked errors] at refusal
      cases refusal
      exact ⟨checked, errors⟩
  · rintro ⟨checked, errors⟩
    rw [generate_strict_of_errors checked errors]

/-- Whether a strict run over a draft does nothing else than the lenient one, but for the refusal of errors that the
check finds. -/
structure AddsRefusal (d : Draft) (c : Configuration) (tree : FileTree) : Prop where
  refuses : ∀ found, (d.generate c.strict tree).1 = .error (.validationFailed found) ↔
    (d.diagnostics c.reportsReferences).1 = .ok found ∧ ¬ NoErrors found
  /-- With the refusal nothing is done but the check: no other setting and no profile makes a difference. -/
  unrendered : ∀ found, (d.generate c.strict tree).1 = .error (.validationFailed found) →
    ∀ (c' : Configuration) (tree' : FileTree), c'.reportsReferences = c.reportsReferences →
      d.generate c'.strict tree' = (.error (.validationFailed found), (d.diagnostics c.reportsReferences).2)
  agrees : (∀ found, (d.generate c.strict tree).1 ≠ .error (.validationFailed found)) →
    d.generate c.strict tree = d.generate c.lenient tree

/-- Strictness adds nothing but the refusal of models with errors. -/
theorem addsRefusal (d : Draft) (c : Configuration) (tree : FileTree) : d.AddsRefusal c tree where
  refuses _ := generate_strict_refuses_iff
  unrendered := by
    intro found refusal c' tree' same
    obtain ⟨checked, errors⟩ := generate_strict_refuses_iff.1 refusal
    rw [← same] at checked ⊢
    exact generate_strict_of_errors checked errors
  agrees := by
    intro passes
    apply generate_strict_of_no_errors
    intro found checked
    by_contra errors
    exact passes found (generate_strict_refuses_iff.2 ⟨checked, errors⟩)

/-- Strictness adds the refusal only.  A strict run over any draft is refused exactly if the check finds an error, with
all that it finds and before anything is written, and else it is the lenient run, with the draft after it.  So where
everything is of its kind it gives, without an error of the check, all files that can be written and behind the findings
an error for each that cannot; the same goes for a linked model by itself. -/
theorem strict_refuses_or_agrees {c : Configuration} {tree : FileTree} {table : TypeTable}
    (tabled : c.typeTable tree = .ok table) :
    (∀ d : Draft, d.AddsRefusal c tree ∧
      (d.IsTyped → ∃ found, (d.diagnostics c.reportsReferences).1 = .ok found ∧
        (¬ NoErrors found → (d.generate c.strict tree).1 = .error (.validationFailed found)) ∧
        (NoErrors found → ∃ r, (d.generate c.strict tree).1 = .ok r ∧ (d.generate c.lenient tree).1 = .ok r ∧
          d.view.WritesAll (c.javaSettings table) (c.diagramSettings .standard) found r))) ∧
    (∀ m : Linked, (¬ NoErrors (m.diagnostics c.reportsReferences) →
        m.generate c.strict tree = .error (.validationFailed (m.diagnostics c.reportsReferences))) ∧
      (NoErrors (m.diagnostics c.reportsReferences) → ∃ r, m.generate c.strict tree = .ok r ∧
        m.generate c.lenient tree = .ok r ∧
        m.WritesAll (c.javaSettings table) (c.diagramSettings .standard) (m.diagnostics c.reportsReferences) r)) := by
  have lenient (m : Linked) : ∃ r, m.generate c.lenient tree = .ok r ∧
      m.WritesAll (c.javaSettings table) (c.diagramSettings .standard) (m.diagnostics c.reportsReferences) r :=
    m.generate_writesAll (c := c.lenient) rfl tabled
  constructor
  · intro d
    refine ⟨d.addsRefusal c tree, ?_⟩
    intro typed
    have checked := typed.diagnostics_eq c.reportsReferences
    refine ⟨_, checked, ?_, ?_⟩
    · intro errors
      exact generate_strict_refuses_iff.2 ⟨checked, errors⟩
    · intro free
      obtain ⟨r, generated, all⟩ := lenient d.view
      have run : (d.generate c.lenient tree).1 = .ok r := by rw [typed.generate_eq, generated]
      have same : d.generate c.strict tree = d.generate c.lenient tree := by
        apply generate_strict_of_no_errors
        intro found checked
        obtain rfl := typed.eq_of_diagnostics checked
        exact free
      exact ⟨r, by rw [same, run], run, all⟩
  · intro m
    obtain ⟨refused, agrees⟩ := m.generate_strict c tree
    refine ⟨refused, ?_⟩
    intro free
    obtain ⟨r, generated, all⟩ := lenient m
    exact ⟨r, by rw [agrees free, generated], generated, all⟩

/-- The types of a yard: one whose name should start with a capital, and one with an operation that is described by a
number, which cannot be written. -/
def yardTypes : List (Classifier Unit String) :=
  [⟨(), "crane", .classBody ⟨false, [], [], [], []⟩⟩,
    ⟨(), "Jib", .classBody ⟨false, [],
      [⟨(), "lift", none, .number 0, .number 1, [], none, false, false, .int 3, .null⟩], [], []⟩⟩]

/-- The yard. -/
def yard : Declared := ⟨[⟨(), "yard", [], yardTypes⟩]⟩

/-- The yard with a second type of a name. -/
def crowdedYard : Declared := ⟨[⟨(), "yard", [], yardTypes ++ [⟨(), "Jib", .primitive⟩]⟩]⟩

/-- The crowded yard is refused with the warning and both errors.  The warning alone, and the type that cannot be
written, refuse nothing. -/
theorem strict_refuses_or_agrees_in_yard :
    (∃ found, ((ofDeclared crowdedYard).diagnostics true).1 = .ok found ∧
      found.map (·.severity) = [.warning, .error, .error] ∧
      ((ofDeclared crowdedYard).generate Configuration.standard.strict []).1 = .error (.validationFailed found)) ∧
    ∃ r, ((ofDeclared yard).generate Configuration.standard.strict []).1 = .ok r ∧
      ((ofDeclared yard).generate Configuration.standard.lenient []).1 = .ok r ∧
      r.sources.map (·.path) = ["yard/crane.java"] ∧ r.diagrams.map (·.name) = ["diagram_yard"] ∧
      r.diagnostics.map (fun x => (x.severity, x.targetName)) = [(.warning, "crane"), (.error, "Jib")] := by
  have tabled : Configuration.standard.typeTable [] = .ok ⟨standardPrimitives, []⟩ := rfl
  obtain ⟨drafts, -⟩ := strict_refuses_or_agrees tabled
  constructor
  · have typed := isTyped_ofDeclared crowdedYard
    have grave : ((ofDeclared crowdedYard).view.diagnostics true).map (·.severity) = [.warning, .error, .error] := by
      decide +kernel
    obtain ⟨found, checked, refused, -⟩ := (drafts (ofDeclared crowdedYard)).2 typed
    obtain rfl := typed.eq_of_diagnostics checked
    refine ⟨_, checked, grave, refused ?_⟩
    unfold NoErrors
    decide +kernel
  · have typed := isTyped_ofDeclared yard
    obtain ⟨found, checked, -, agrees⟩ := (drafts (ofDeclared yard)).2 typed
    obtain rfl := typed.eq_of_diagnostics checked
    have free : NoErrors ((ofDeclared yard).view.diagnostics true) := by
      unfold NoErrors
      decide +kernel
    obtain ⟨r, strict, lenient, all⟩ := agrees free
    refine ⟨r, strict, lenient, ?_, ?_, ?_⟩
    · rw [all.sources]
      decide +kernel
    · rw [all.diagrams]
      decide +kernel
    · rw [all.diagnostics]
      decide +kernel

end Draft

end ClassDiagram
