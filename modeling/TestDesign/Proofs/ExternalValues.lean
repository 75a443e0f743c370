import TestDesign.Proofs.ValueReferences

/-!
# TestDesign.Proofs.ExternalValues

What external steps do to the values that are remembered. A step leaves the variables alone that it
does not name (`get?_of_steps`). But an external step also hands over all that external steps had
typed before it was assembled, so it takes back what the test case has typed since
(`fillingAge_restores_old_name`). `external_step_keeps_value`: variables that no external step names
keep their values, because the external steps never learn of them (`ignores_of_assembleAll`).
-/

namespace TestDesign

open TestDesign.Random Drafting

variable {scope : Scope} {var : String}

/-! ## Steps that do not name a variable -/

/-- The step names an element with the variable, or refers to its value. -/
def Step.Names (step : Step) (scope : Scope) (var : String) : Prop :=
  ∃ e ∈ step.entities, (e.kind = .element ∨ e.kind = .property ∧ Brief.refersToValue e = true) ∧
    ∃ x, scope.findElement? e.value = some x ∧ x.variableName = var

instance (step : Step) (scope : Scope) (var : String) : Decidable (step.Names scope var) :=
  decidable_of_iff (∃ e ∈ step.entities,
    (e.kind = .element ∨ e.kind = .property ∧ Brief.refersToValue e = true) ∧
      ((scope.findElement? e.value).map (·.variableName)) = some var)
    (by simp [Step.Names, Option.map_eq_some_iff])

theorem Step.not_assigns {step : Step} (h : ¬ step.Names scope var) : ¬ step.Assigns scope var := by
  rintro ⟨-, -, e, he, hkind, hx⟩
  exact h ⟨e, he, .inl hkind, hx⟩

theorem Step.elementOf?_eq_none {step : Step} (h : ¬ step.Names scope var) {e : Entity}
    (he : e ∈ step.entities)
    (hkind : e.kind = .element ∨ e.kind = .property ∧ Brief.refersToValue e = true) :
    scope.elementOf? var e = none := by
  cases hx : scope.elementOf? var e with
  | none => rfl
  | some x =>
    obtain ⟨hfound, hvar⟩ := Option.filter_eq_some_iff.1 hx
    exact absurd ⟨e, he, hkind, x, hfound, of_decide_eq_true hvar⟩ h

theorem Entry.events_eq_nil {e : Entry} (h : ¬ e.source.Names scope var) :
    e.events scope var = [] := by
  cases e with
  | expanded x =>
    refine List.flatMap_eq_nil_iff.2 ?_
    intro p hp
    have hmem : p.1 ∈ x.source.entities := (List.mem_filter.1 (List.of_mem_zip hp).1).1
    unfold typedEvents
    split
    · rename_i hkind
      rw [Step.elementOf?_eq_none h hmem (.inl hkind)]
      rfl
    · rfl
  | resolved x hclosed =>
    refine List.flatMap_eq_nil_iff.2 ?_
    intro p hp
    unfold shownEvents
    split
    · rename_i hand
      rw [Step.elementOf?_eq_none h (List.of_mem_zip hp).1 (.inr hand)]
      rfl
    · rfl

/-- A step that does not name a variable leaves its value as it is. -/
theorem get?_of_steps {b : Brief} {step : Step} {s s' : Draft} {out : List Step}
    (h : Gives (b.steps step) s out s') (hn : ¬ step.Names b.scope var) :
    s'.values.get? var = s.values.get? var := by
  obtain ⟨e, rfl, -, hruns⟩ := runs_of_steps h
  have hmoves := Entry.moves hruns (Step.not_assigns hn)
  rw [Entry.events_eq_nil hn] at hmoves
  exact hmoves

/-! ## What external steps know -/

/-- No value is kept for the variable. -/
structure Externals.Ignores (x : Externals) (var : String) : Prop where
  values : x.values.get? var = none
  steps : ∀ content e, x.steps.get? content = some e → e.values.get? var = none

theorem Externals.Ignores.insert {x : Externals} {content : String} {e : ExternalStep}
    (h : x.Ignores var) (he : e.values.get? var = none) : (x.insert content e).Ignores var where
  values := by rw [Externals.insert, Keyed.get?_union, he, h.values, Option.or_none]
  steps := by
    intro content' e' he'
    by_cases hcontent : content' = content
    · subst hcontent
      rw [Externals.insert, Keyed.get?_insert_self] at he'
      cases he'
      exact he
    · rw [Externals.insert, Keyed.get?_insert_ne _ _ hcontent] at he'
      exact h.steps content' e' he'

theorem Externals.ignores_empty (var : String) : ({} : Externals).Ignores var where
  values := rfl
  steps := nofun

theorem Desk.get?_adopt {d : Desk} {e : ExternalStep} (h : e.values.get? var = none) :
    (d.adopt e).draft.values.get? var = d.draft.values.get? var := by
  rw [adopt, Keyed.get?_union, h, Option.none_or]

/-- A part of the assembly keeps the external steps from learning of the variable. -/
def KeepsIgnored {α : Type} (m : Assembling α) (var : String) : Prop :=
  ∀ desk, desk.externals.Ignores var → (m desk).2.externals.Ignores var

section KeepsIgnored

variable {α β : Type} {m : Assembling α} {f : α → Assembling β}

theorem keepsIgnored_pure (x : α) : KeepsIgnored (pure x) var := fun _ h => h

theorem keepsIgnored_bind (hm : KeepsIgnored m var) (hf : ∀ x, KeepsIgnored (f x) var) :
    KeepsIgnored (m >>= f) var :=
  preserves_bind (P := fun desk : Desk => desk.externals.Ignores var) hm hf

theorem keepsIgnored_onDraft (d : Drafting α) : KeepsIgnored (Desk.onDraft d) var := fun _ h => h

end KeepsIgnored

namespace Assembler

variable {a : Assembler} {survey : Survey} {plan : Plan} {scenario : List Step}

/-- An external step neither changes the value of a variable that it does not name, nor learns of
the variable, if no external step knew of it. -/
theorem externalStep_of_ignores {step : Step} {desk : Desk} (h : desk.externals.Ignores var)
    (hn : ¬ step.Names scope var) :
    (a.externalStep scope survey step desk).2.draft.values.get? var = desk.draft.values.get? var ∧
      (a.externalStep scope survey step desk).2.externals.Ignores var := by
  cases hrun : a.externalStep scope survey step desk with
  | mk result desk' =>
    cases externalOutcome a scope survey hrun with
    | @again e hkept => exact ⟨Desk.get?_adopt (h.steps _ e hkept), h⟩
    | failed => exact ⟨rfl, h⟩
    | @made out draft _ hsteps =>
      -- The step was assembled from all that external steps know, and hands all of it over.
      have hvalues : draft.values.get? var = none := (get?_of_steps hsteps hn).trans h.values
      exact ⟨Desk.get?_adopt hvalues, h.insert hvalues⟩

theorem keepsIgnored_step {step : Step} (h : step.isExternal = true → ¬ step.Names scope var) :
    KeepsIgnored (a.step scope survey plan step) var := by
  unfold Assembler.step
  split
  · rename_i hexternal
    exact fun desk hdesk => (externalStep_of_ignores hdesk (h hexternal)).2
  · exact keepsIgnored_onDraft _

theorem keepsIgnored_steps {steps : List Step}
    (h : ∀ step ∈ steps, step.isExternal = true → ¬ step.Names scope var) :
    KeepsIgnored (a.steps scope survey plan steps) var := by
  induction steps with
  | nil => exact keepsIgnored_pure _
  | cons step steps ih =>
    unfold Assembler.steps
    refine keepsIgnored_bind (keepsIgnored_step (h step List.mem_cons_self)) fun _ => ?_
    refine keepsIgnored_bind (ih fun s hs => h s (List.mem_cons_of_mem _ hs)) fun _ => ?_
    exact keepsIgnored_pure _

theorem keepsIgnored_assemble
    (h : ∀ step ∈ scenario, step.isExternal = true → ¬ step.Names scope var) :
    KeepsIgnored (a.assemble scope survey plan scenario) var := by
  unfold assemble
  refine keepsIgnored_bind (keepsIgnored_steps h) fun _ => ?_
  exact keepsIgnored_bind (keepsIgnored_onDraft _) fun _ => keepsIgnored_pure _

theorem ignores_of_assembleAll {plans : List (Plan × Nat)} {session : Session} {external : Stream}
    (h : ∀ step ∈ scenario, step.isExternal = true → ¬ step.Names scope var)
    (hsession : session.externals.Ignores var) :
    (a.assembleAll scope survey scenario plans session external).2.externals.Ignores var := by
  refine assembleAll_preserves (Q := fun s => s.externals.Ignores var) ?_ hsession
  intro numbered _ s stream result desk hsofar hassemble
  have hdesk : (a.assemble scope survey numbered.1 scenario
      (a.freshDesk numbered.2 s stream)).2.externals.Ignores var :=
    keepsIgnored_assemble h _ hsofar
  rw [hassemble, ← desk.externals_afterPlan result] at hdesk
  exact hdesk

/-- In every plan of a run, and wherever it stands in the scenario, an external step keeps the value
of a variable that no external step names, now or before the run. A reference to the value then
shows what was typed before the external step. -/
theorem external_step_keeps_value (a : Assembler) (survey : Survey) (plan : Plan)
    (earlier : List (Plan × Nat)) (start first external : Stream) (reports : Reports)
    {session : Session}
    {before after : List Step} {step : Step} (hsession : session.externals.Ignores var)
    (hscenario : ∀ s ∈ scenario, s.isExternal = true → ¬ s.Names scope var)
    (hsplit : scenario = before ++ step :: after) (hexternal : step.isExternal = true) :
    let externals := (a.assembleAll scope survey scenario earlier session first).2.externals
    let desk :=
      (a.steps scope survey plan before ⟨{ stream := start, reports }, externals, external⟩).2
    let next := (a.step scope survey plan step desk).2
    next.draft.values.get? var = desk.draft.values.get? var ∧
      ∀ (b : Brief) (reference : Step) (x : Element) (v : Value), x.variableName = var →
        desk.draft.values.get? var = some v →
          Gives (b.replaceValue reference x) next.draft { text := v.inSentence, value := some v }
            next.draft := by
  intro externals desk next
  have hmem : step ∈ scenario := by
    rw [hsplit]
    exact List.mem_append_right _ List.mem_cons_self
  have hbefore : ∀ s ∈ before, s.isExternal = true → ¬ s.Names scope var := by
    intro s hs
    refine hscenario s ?_
    rw [hsplit]
    exact List.mem_append_left _ hs
  have hexternals : externals.Ignores var := ignores_of_assembleAll hscenario hsession
  have hdesk : desk.externals.Ignores var := keepsIgnored_steps hbefore _ hexternals
  have hvalues : next.draft.values.get? var = desk.draft.values.get? var := by
    simp only [next, Assembler.step, hexternal, if_true]
    exact (externalStep_of_ignores hdesk (hscenario step hmem hexternal)).1
  refine ⟨hvalues, ?_⟩
  intro b reference x v hvar hv
  rw [← hvalues, ← hvar] at hv
  unfold Brief.replaceValue
  refine gives_bind.2 ⟨next.draft, next.draft, gives_get.2 ⟨rfl, rfl⟩, ?_⟩
  rw [hv]
  exact gives_pure.2 ⟨rfl, rfl⟩

def people : Scope where
  spec := ⟨[doc]⟩
  here := some doc
where
  doc : Document := { path := "a.feature", elements := [{ name := "User" }, { name := "Age" }] }

def oldName : Step where
  content := "Given that I fill \x7bUser\x7d with \"old\""
  kind := .givenStep
  location := {}
  entities := [⟨.action, "fill", "fill", 13, none⟩,
    ⟨.element, "User", "\x7bUser\x7d", 18, none⟩, ⟨.value, "old", "\"old\"", 30, none⟩]
  isExternal := true

def newName : Step where
  content := "When I fill \x7bUser\x7d with \"new\""
  kind := .whenStep
  location := {}
  entities := [⟨.action, "fill", "fill", 7, none⟩,
    ⟨.element, "User", "\x7bUser\x7d", 12, none⟩, ⟨.value, "new", "\"new\"", 24, none⟩]

def fillingAge : Step where
  content := "And I fill \x7bAge\x7d with 5"
  kind := .andStep
  location := {}
  entities := [⟨.action, "fill", "fill", 6, none⟩,
    ⟨.element, "Age", "\x7bAge\x7d", 11, none⟩, ⟨.number, "5", "5", 22, none⟩]
  isExternal := true

/-- The desk of the first plan of a fresh run after some steps. -/
def deskAfter (before : List Step) : Desk :=
  (steps { seed := ⟨"scenaria"⟩ } people {} {} before ⟨{ stream := default }, {}, default⟩).2

def deskAfterAge (before : List Step) : Desk :=
  (step { seed := ⟨"scenaria"⟩ } people {} {} fillingAge (deskAfter before)).2

/-- What a reference to the value of the user shows. -/
def userOn (desk : Desk) : Option String := (desk.draft.values.get? "User").map Value.inSentence

/-- Where no external step names the user, the new name stays. -/
theorem fillingAge_keeps_name :
    userOn (deskAfter [newName]) = some "\"new\"" ∧
      userOn (deskAfterAge [newName]) = some "\"new\"" := by
  have hname : userOn (deskAfter [newName]) = some "\"new\"" := by decide +kernel
  have hignored : ({} : Session).externals.Ignores "User" := Externals.ignores_empty _
  have hnames : ∀ s ∈ [newName, fillingAge], s.isExternal = true → ¬ s.Names people "User" := by
    decide +kernel
  have hsplit : [newName, fillingAge] = [newName] ++ fillingAge :: [] := rfl
  have hkeep := (external_step_keeps_value { seed := ⟨"scenaria"⟩ } {} {} [] default default
    default {} hignored hnames hsplit rfl).1
  exact ⟨hname, (congrArg (Option.map Value.inSentence) hkeep).trans hname⟩

/-- An external step that fills the age alone takes back the new name of the user. -/
theorem fillingAge_restores_old_name :
    ¬ fillingAge.Names people "User" ∧
      userOn (deskAfter [oldName, newName]) = some "\"new\"" ∧
      userOn (deskAfterAge [oldName, newName]) = some "\"old\"" := by
  decide +kernel

theorem external_step_changes_other_value :
    ¬ ∀ (a : Assembler) (scope : Scope) (survey : Survey) (plan : Plan) (before : List Step)
      (s : Step) (var : String) (start external : Stream), s.isExternal = true →
        ¬ s.Names scope var →
          let desk := (a.steps scope survey plan before ⟨{ stream := start }, {}, external⟩).2
          (a.step scope survey plan s desk).2.draft.values.get? var =
            desk.draft.values.get? var := by
  intro h
  obtain ⟨hnames, hnew, hold⟩ := fillingAge_restores_old_name
  have hsame : userOn (deskAfterAge [oldName, newName]) = userOn (deskAfter [oldName, newName]) :=
    congrArg (Option.map Value.inSentence) (h { seed := ⟨"scenaria"⟩ } people {} {}
      [oldName, newName] fillingAge "User" default default rfl hnames)
  rw [hnew, hold] at hsame
  exact absurd hsame (by decide)

end Assembler

end TestDesign
