import TestDesign.Proofs.SeparatePlans
import TestDesign.Proofs.ValueEvents

/-!
# TestDesign.Proofs.ValueReferences

References to the values of elements, over a whole test case: its steps, and then its checks.
`references_show_typed_value`: they show what was typed last, and before anything is typed a common
text. The proof goes through what is remembered for a variable: each filled target and each
replaced entity moves it as its event says (`moves_of_fillTarget`, `moves_of_replace`), so a whole
run does (`Transcript.moves`).
-/

namespace TestDesign

open TestDesign.Random Drafting

variable {b : Brief} {s s' : Draft} {var : String}

/-! ## Filling -/

theorem values_of_fillFreely {literal : String} {reference : Option String} {f : Brief.Filling}
    (h : Gives (b.fillFreely literal reference) s f s') : s'.values = s.values := by
  unfold Brief.fillFreely at h
  obtain ⟨text, s₁, hdraw, hrest⟩ := gives_bind.1 h
  obtain ⟨-, rfl⟩ := gives_pure.1 hrest
  exact values_of_draw hdraw

theorem values_of_valueFor {step : Step} {case : DataCase} {c : Constraints} {v : Value}
    (h : Gives (b.valueFor step var case c) s v s') : s'.values = s.values := by
  unfold Brief.valueFor at h
  obtain ⟨result, s₁, hdraw, hrest⟩ := gives_bind.1 h
  cases result with
  | ok v =>
    obtain ⟨-, rfl⟩ := gives_pure.1 hrest
    exact values_of_draw hdraw
  | error e => exact absurd hrest not_gives_throw

theorem values_of_remember_pure {f f' : Brief.Filling}
    (h : Gives (do remember var f'.value; pure f') s f s') :
    s'.values = s.values.insert var f.value := by
  obtain ⟨_, s₁, hremember, hrest⟩ := gives_bind.1 h
  obtain ⟨rfl, rfl⟩ := gives_pure.1 hrest
  exact values_of_remember hremember

/-- A filled element has its new value remembered, and no other variable is touched. -/
theorem values_of_fillElement {step : Step} {target : Entity} {x : Element} {f : Brief.Filling}
    (h : Gives (b.fillElement step target x) s f s') :
    s'.values = s.values.insert x.variableName f.value := by
  simp only [Brief.fillElement] at h
  split at h
  · obtain ⟨v, s₁, hv, hrest⟩ := gives_bind.1 h
    obtain ⟨_, s₂, hmark, hrest⟩ := gives_bind.1 hrest
    rw [values_of_remember_pure hrest, values_of_markFilled hmark, values_of_valueFor hv]
  · obtain ⟨case, s₁, hcase, hrest⟩ := gives_bind.1 h
    obtain ⟨v, s₂, hv, hrest⟩ := gives_bind.1 hrest
    rw [values_of_remember_pure hrest, values_of_valueFor hv, values_of_draw hcase]
  · obtain ⟨f', s₁, hfill, hrest⟩ := gives_bind.1 h
    rw [values_of_remember_pure hrest, values_of_fillFreely hfill]

theorem elementOf?_of_findElement? {scope : Scope} {e : Entity} {x : Element}
    (hx : scope.findElement? e.value = some x) :
    scope.elementOf? var e = if x.variableName = var then some x else none := by
  simp [Scope.elementOf?, hx, Option.filter]

theorem elementOf?_of_none {scope : Scope} {e : Entity}
    (hx : scope.findElement? e.value = none) : scope.elementOf? var e = none := by
  simp [Scope.elementOf?, hx]

theorem values_of_warn_bind {α : Type} {d : Diagnostic} {rest : Drafting α} {x : α}
    (h : Gives (do warn d; rest) s x s') : ∃ s₁, s₁.values = s.values ∧ Gives rest s₁ x s' := by
  obtain ⟨_, s₁, hwarn, hrest⟩ := gives_bind.1 h
  exact ⟨s₁, values_of_warn hwarn, hrest⟩

/-- Filling a target types a value into the element that it names, if there is one. -/
theorem moves_of_fillTarget {step : Step} {target : Entity} {f : Brief.Filling}
    (h : Gives (b.fillTarget step target) s f s') :
    Chained (Moves b) (s.values.get? var) (typedEvents b.scope var target f)
      (s'.values.get? var) := by
  unfold Brief.fillTarget at h
  split at h
  · rename_i hkind
    rw [typedEvents, if_pos hkind]
    split at h
    · rename_i x hx
      rw [values_of_fillElement h, elementOf?_of_findElement? hx]
      split
      · rename_i hvar
        rw [← hvar, Keyed.get?_insert_self]
        exact chained_singleton (.typed _ _)
      · rename_i hvar
        exact Keyed.get?_insert_ne _ _ (Ne.symm hvar)
    · rename_i hx
      rw [elementOf?_of_none hx]
      obtain ⟨s₁, hvalues, hrest⟩ := values_of_warn_bind h
      rw [values_of_fillFreely hrest, hvalues]
      rfl
  · rename_i hkind
    rw [typedEvents, if_neg hkind, values_of_fillFreely h]
    rfl

theorem Expanded.moves {x : Expanded} (h : x.Runs b s s') :
    Chained (Moves b) (s.values.get? var) (x.events b.scope var) (s'.values.get? var) :=
  Chained.flatMap h fun _ _ _ _ hfill => moves_of_fillTarget hfill

/-! ## Replacing -/

theorem moves_of_replaceValue {step : Step} {x : Element} {r : Brief.Replacement}
    (h : Gives (b.replaceValue step x) s r s') (hvar : x.variableName = var) :
    Moves b (s.values.get? var) (.shown x r.text) (s'.values.get? var) ∧
      ∀ other, other ≠ var → s'.values.get? other = s.values.get? other := by
  subst hvar
  unfold Brief.replaceValue at h
  obtain ⟨s₀, s₁, hget, hrest⟩ := gives_bind.1 h
  obtain ⟨rfl, rfl⟩ := gives_get.1 hget
  split at hrest
  · rename_i v hv
    obtain ⟨rfl, rfl⟩ := gives_pure.1 hrest
    rw [hv]
    exact ⟨.known x v, fun _ _ => rfl⟩
  · rename_i hv
    rw [hv]
    split at hrest
    · rename_i e he
      obtain ⟨_, s₂, hnote, hpure⟩ := gives_bind.1 hrest
      obtain ⟨rfl, rfl⟩ := gives_pure.1 hpure
      rw [values_of_note hnote, hv]
      refine ⟨.blank x ?_, fun _ _ => rfl⟩
      rw [Brief.isBroken, he]
      rfl
    · rename_i c hc
      obtain ⟨v, s₂, hdrawn, hrest⟩ := gives_bind.1 hrest
      obtain ⟨_, s₃, hremember, hpure⟩ := gives_bind.1 hrest
      obtain ⟨rfl, rfl⟩ := gives_pure.1 hpure
      rw [values_of_remember hremember, values_of_valueFor hdrawn, Keyed.get?_insert_self]
      refine ⟨.drawn x v ?_, fun _ hne => Keyed.get?_insert_ne _ _ hne⟩
      rw [Brief.isBroken, hc]
      rfl

theorem values_of_warn_pure {α : Type} {d : Diagnostic} {x y : α}
    (h : Gives (do warn d; pure y) s x s') : x = y ∧ s'.values = s.values := by
  obtain ⟨s₁, hvalues, hpure⟩ := values_of_warn_bind h
  obtain ⟨rfl, rfl⟩ := gives_pure.1 hpure
  exact ⟨rfl, hvalues⟩

/-- Only references to values touch what is remembered. -/
theorem values_of_replace {step : Step} {e : Entity} {r : Brief.Replacement}
    (h : Gives (b.replace step e) s r s') (hkind : e.kind ≠ .property) :
    s'.values = s.values := by
  unfold Brief.replace at h
  split at h
  · unfold Brief.replaceConstant at h
    split at h
    · rw [(gives_pure.1 h).2]
    · exact (values_of_warn_pure h).2
  · unfold Brief.replaceElement at h
    split at h
    · rw [(gives_pure.1 h).2]
    · exact (values_of_warn_pure h).2
  · contradiction
  all_goals rw [(gives_pure.1 h).2]

theorem moves_of_replace {step : Step} {e : Entity} {r : Brief.Replacement}
    (h : Gives (b.replace step e) s r s') :
    Chained (Moves b) (s.values.get? var) (shownEvents b.scope var e r)
      (s'.values.get? var) := by
  by_cases hkind : e.kind = .property
  · simp only [Brief.replace, hkind, Brief.replaceProperty] at h
    split at h
    · rename_i hrefers
      rw [shownEvents, if_pos ⟨hkind, hrefers⟩]
      split at h
      · rename_i x hx
        rw [elementOf?_of_findElement? hx]
        split
        · rename_i hvar
          exact chained_singleton (moves_of_replaceValue h hvar).1
        · rename_i hvar
          exact (moves_of_replaceValue h rfl).2 var (Ne.symm hvar)
      · rename_i hx
        rw [elementOf?_of_none hx, (values_of_warn_pure h).2]
        rfl
    · rename_i hrefers
      rw [shownEvents, if_neg fun hand => hrefers hand.2, (values_of_warn_pure h).2]
      rfl
  · rw [shownEvents, if_neg fun hand => hkind hand.1, values_of_replace h hkind]
    rfl

/-- What an entity must be for its replacement to give a value or to name an element. -/
structure FitsEntity (scope : Scope) (e : Entity) (r : Brief.Replacement) : Prop where
  isValue : r.value.isSome = true → e.kind.isValue = true
  isElement : ∀ var, r.target = some var → e.kind = .element ∧
    ∃ x, scope.findElement? e.value = some x ∧ x.variableName = var

theorem isValue_of_kept {e : Entity} (h : (Brief.kept e).value.isSome = true) :
    e.kind.isValue = true := by
  cases hkind : e.kind with
  | value | number | constant | property => rfl
  | action | literal | element | state => simp [Brief.kept, hkind] at h

theorem target_of_replaceValue {step : Step} {x : Element} {r : Brief.Replacement}
    (h : Gives (b.replaceValue step x) s r s') : r.target = none := by
  unfold Brief.replaceValue at h
  obtain ⟨s₀, s₁, hget, hrest⟩ := gives_bind.1 h
  split at hrest
  · rw [(gives_pure.1 hrest).1]
  · split at hrest
    · obtain ⟨_, s₂, -, hpure⟩ := gives_bind.1 hrest
      rw [(gives_pure.1 hpure).1]
    · obtain ⟨v, s₂, -, hrest⟩ := gives_bind.1 hrest
      obtain ⟨_, s₃, -, hpure⟩ := gives_bind.1 hrest
      rw [(gives_pure.1 hpure).1]

theorem fitsEntity_of_replace {step : Step} {e : Entity} {r : Brief.Replacement}
    (h : Gives (b.replace step e) s r s') : FitsEntity b.scope e r := by
  unfold Brief.replace at h
  split at h
  · rename_i hkind
    have htarget : r.target = none := by
      unfold Brief.replaceConstant at h
      split at h
      · rw [(gives_pure.1 h).1]
      · rw [(values_of_warn_pure h).1]
    exact ⟨fun _ => by rw [hkind]; rfl, fun var hvar => by simp [htarget] at hvar⟩
  · rename_i hkind
    unfold Brief.replaceElement at h
    split at h
    · rename_i x hx
      rw [(gives_pure.1 h).1]
      refine ⟨nofun, fun var hvar => ⟨hkind, x, hx, ?_⟩⟩
      cases hvar
      rfl
    · rw [(values_of_warn_pure h).1]
      exact ⟨nofun, nofun⟩
  · rename_i hkind
    have htarget : r.target = none := by
      unfold Brief.replaceProperty at h
      split at h
      · split at h
        · exact target_of_replaceValue h
        · rw [(values_of_warn_pure h).1]
      · rw [(values_of_warn_pure h).1]
    exact ⟨fun _ => by rw [hkind]; rfl, fun var hvar => by simp [htarget] at hvar⟩
  all_goals
    rw [(gives_pure.1 h).1]
    exact ⟨isValue_of_kept, nofun⟩

/-! ## Steps -/

/-- The step types a value that it gives itself into an element with the variable. -/
def Step.Assigns (step : Step) (scope : Scope) (var : String) : Prop :=
  step.isFill = true ∧ step.hasValue = true ∧
    ∃ e ∈ step.entities, e.kind = .element ∧
      ∃ x, scope.findElement? e.value = some x ∧ x.variableName = var

theorem get?_of_rememberAll {v : Value} {vars : List String} {u : Unit}
    (h : Gives (Brief.rememberAll v vars) s u s') (hn : var ∉ vars) :
    s'.values.get? var = s.values.get? var := by
  induction vars generalizing s with
  | nil =>
    obtain ⟨-, rfl⟩ := gives_pure.1 h
    rfl
  | cons other vars ih =>
    unfold Brief.rememberAll at h
    obtain ⟨_, s₁, hremember, hrest⟩ := gives_bind.1 h
    rw [ih hrest (fun hmem => hn (List.mem_cons_of_mem _ hmem)), values_of_remember hremember]
    exact Keyed.get?_insert_ne _ _ fun heq => hn (heq ▸ List.mem_cons_self)

theorem exists_mem_zip {es : List Entity} {rs : List Brief.Replacement} {r : Brief.Replacement}
    (hlength : rs.length = es.length) (hr : r ∈ rs) : ∃ e ∈ es, (e, r) ∈ es.zip rs := by
  have hmap : (es.zip rs).map (·.2) = rs := List.map_snd_zip (Nat.le_of_eq hlength)
  rw [← hmap] at hr
  obtain ⟨p, hp, rfl⟩ := List.mem_map.1 hr
  exact ⟨p.1, (List.of_mem_zip hp).1, hp⟩

/-- A fill step that gives a value assigns it to the elements that it names. -/
theorem assigns_of_replacements {step : Step} {scope : Scope} {rs : List Brief.Replacement}
    {v : Value} (hlength : rs.length = step.entities.length)
    (hfits : ∀ p ∈ step.entities.zip rs, FitsEntity scope p.1 p.2) (hfill : step.isFill = true)
    (hv : rs.findSome? (·.value) = some v) (hvar : var ∈ rs.filterMap (·.target)) :
    step.Assigns scope var := by
  obtain ⟨r, hr, hvalue⟩ := List.exists_of_findSome?_eq_some hv
  obtain ⟨e, he, hzip⟩ := exists_mem_zip hlength hr
  obtain ⟨r', hr', htarget⟩ := List.mem_filterMap.1 hvar
  obtain ⟨e', he', hzip'⟩ := exists_mem_zip hlength hr'
  have hkind := (hfits _ hzip).isValue (by rw [hvalue]; rfl)
  obtain ⟨helement, x, hx, hname⟩ := (hfits _ hzip').isElement var htarget
  exact ⟨hfill, List.any_eq_true.2 ⟨e, he, hkind⟩, e', he', helement, x, hx, hname⟩

theorem Resolved.moves {r : Resolved} (h : r.Runs b s s')
    (hassigns : ¬ r.source.Assigns b.scope var) :
    Chained (Moves b) (s.values.get? var) (r.events b.scope var) (s'.values.get? var) := by
  obtain ⟨s₁, hruns, hgiven⟩ := h
  -- The replacements are the events; a value that the step gives itself goes to other variables.
  have hmoves : Chained (Moves b) (s.values.get? var) (r.events b.scope var)
      (s₁.values.get? var) :=
    Chained.flatMap hruns fun _ _ _ _ hreplace => moves_of_replace hreplace
  have hfits := Chained.forall (P := fun p => FitsEntity b.scope p.1 p.2) hruns
    fun _ _ _ hreplace => fitsEntity_of_replace hreplace
  suffices hkeep : s'.values.get? var = s₁.values.get? var by
    rw [hkeep]
    exact hmoves
  unfold Brief.typeGiven at hgiven
  split at hgiven
  · rename_i hfill
    split at hgiven
    · rename_i v hv
      exact get?_of_rememberAll hgiven fun hmem =>
        hassigns (assigns_of_replacements r.length_eq hfits hfill hv hmem)
    · rw [(gives_pure.1 hgiven).2]
  · rw [(gives_pure.1 hgiven).2]

theorem Entry.moves {e : Entry} (h : e.Runs b s s') (hassigns : ¬ e.source.Assigns b.scope var) :
    Chained (Moves b) (s.values.get? var) (e.events b.scope var) (s'.values.get? var) := by
  cases e with
  | expanded x => exact Expanded.moves h
  | resolved x hclosed => exact Resolved.moves h hassigns

/-- What happens to a variable in a whole run, if no step gives it a value of its own. -/
theorem Transcript.moves {scenario : List Step} {t : Transcript b scenario} (h : t.Runs s s')
    (hassigns : ∀ step ∈ scenario, ¬ step.Assigns b.scope var)
    (hchecks : ∀ c ∈ t.checks, ¬ c.resolved.source.Assigns b.scope var) :
    Chained (Moves b) (s.values.get? var) (t.events var) (s'.values.get? var) := by
  obtain ⟨s₁, hentries, -, hruns⟩ := h
  refine chained_append.2 ⟨s₁.values.get? var, ?_, ?_⟩
  · refine Chained.flatMap (g := fun s => s.values.get? var) hentries fun e he _ _ hrun => ?_
    have hsource : e.source ∈ scenario := t.sources ▸ List.mem_map_of_mem he
    exact Entry.moves hrun (hassigns _ hsource)
  · exact Chained.flatMap (g := fun s => s.values.get? var) hruns fun c hc _ _ hrun =>
      Resolved.moves hrun (hchecks c hc)

/-! ## Generated test cases -/

namespace Assembler

variable (a : Assembler) (scope : Scope)

/-- A generated test case comes from the assembly of its plan alone. -/
theorem exists_gives_of_mem_generate {scenario : List Step} {planners : List Planner}
    {session : Session} {p : PreTestCase} (h : ∀ s ∈ scenario, s.isExternal = false)
    (hp : p ∈ (a.generate scope scenario planners session).1) :
    ∃ plan i draft,
      Gives ((a.brief scope (Survey.of scope scenario).1 (some plan)).testCase plan scenario)
        { stream := (a.seed.nth i).stream } p draft := by
  unfold generate at hp
  simp only [assembleAll_eq_merge_alone a scope _ scenario h] at hp
  obtain ⟨o, ho, hresult⟩ := List.mem_filterMap.1 hp
  obtain ⟨⟨plan, i⟩, -, rfl⟩ := List.mem_map.1 ho
  rw [result_alone a scope _ scenario h plan i] at hresult
  refine ⟨plan, i, ?_⟩
  cases hcase : (a.brief scope (Survey.of scope scenario).1 (some plan)).testCase plan scenario
    { stream := (a.seed.nth i).stream } with
  | mk result draft =>
    rw [hcase] at hresult
    cases result with
    | ok p' =>
      cases hresult
      exact ⟨draft, hcase⟩
    | error d => cases hresult

/-- Every generated test case has a transcript of its assembly in which references to the value of
an element agree with what was typed into it, unless a fill step gives the element a value of its
own. After a fill step they show the value typed last. Before the first one they all show the same
text, apart from those that come before the first reference to an element with consistent
properties, which show the empty text. -/
theorem references_show_typed_value {scenario : List Step} {planners : List Planner}
    {session : Session} {p : PreTestCase} (h : ∀ s ∈ scenario, s.isExternal = false)
    (hp : p ∈ (a.generate scope scenario planners session).1) :
    ∃ t : Transcript (a.brief scope (Survey.of scope scenario).1 (some p.plan)) scenario,
      (∃ i draft, t.Runs { stream := (a.seed.nth i).stream } draft) ∧
      p.steps = t.steps ∧ p.oracles = t.oracles ∧
      ∀ var, (∀ step ∈ scenario, ¬ step.Assigns scope var) →
        (∀ c ∈ t.checks, ¬ c.resolved.source.Assigns scope var) →
        ShowsLast (t.events var) ∧
          ShowsCommon (a.brief scope (Survey.of scope scenario).1 (some p.plan))
            (t.events var) := by
  obtain ⟨plan, i, draft, hgives⟩ := exists_gives_of_mem_generate a scope h hp
  obtain ⟨rfl, t, hsteps, horacles, hruns⟩ := exists_transcript hgives
  refine ⟨t, ⟨i, draft, hruns⟩, hsteps, horacles, ?_⟩
  intro var hassigns hchecks
  have hmoves := Transcript.moves hruns hassigns hchecks
  exact ⟨showsLast_of_moves hmoves, showsCommon_of_moves hmoves⟩

/-- A step that only refers to the value of an element. -/
def seeing (var : String) : Step where
  content := "Then I see \x7b" ++ var ++ "|value\x7d"
  kind := .thenStep
  location := {}
  entities := [⟨.property, var, "\x7b" ++ var ++ "|value\x7d", 11, some "value"⟩]

def fillingNote : Step where
  content := "When I fill \x7bNote\x7d"
  kind := .whenStep
  location := {}
  entities := [⟨.action, "fill", "fill", 7, none⟩, ⟨.element, "Note", "\x7bNote\x7d", 12, none⟩]

def noteScope : Scope where
  spec := ⟨[{ path := "note.feature", elements := [
    { name := "Note", properties := [{ kind := .value, value := .text "x" }] }] }]⟩

def filledPlanner : Planner where
  mix := .onlyValid
  combination := .indexOfEach 0
  seed := ⟨"scenaria"⟩

def noteCase : PreTestCase where
  plan := ⟨Keyed.empty.insert "Note" { case := .filled, verdict := .valid }⟩
  steps := [
    { content := "Then I see \"x\"", kind := .thenStep, location := {} },
    { content := "When I fill <note> with \"x\"", kind := .whenStep, location := {}
      comment := some "\x7bNote\x7d, valid: filled" },
    { content := "Then I see \"x\"", kind := .thenStep, location := {} }]
  oracles := []

def noteScenario : List Step := [seeing "Note", fillingNote, seeing "Note"]

/-- The note is seen, filled and seen again. -/
theorem note_shows_typed_value :
    noteCase ∈ (generate { seed := ⟨"scenaria"⟩ } noteScope noteScenario [filledPlanner] {}).1 ∧
      ∃ t : Transcript (brief { seed := ⟨"scenaria"⟩ } noteScope
          (Survey.of noteScope noteScenario).1 (some noteCase.plan)) noteScenario,
        noteCase.steps = t.steps ∧ ShowsLast (t.events "Note") := by
  have hp : noteCase ∈
      (generate { seed := ⟨"scenaria"⟩ } noteScope noteScenario [filledPlanner] {}).1 := by
    decide +kernel
  obtain ⟨t, -, hsteps, horacles, ht⟩ := references_show_typed_value _ _ (by decide) hp
  have hchecks : t.checks = [] := List.map_eq_nil_iff.1 horacles.symm
  have hvalue : ∀ s ∈ noteScenario, ¬ (s.isFill = true ∧ s.hasValue = true) := by decide
  refine ⟨hp, t, hsteps, (ht "Note" ?_ ?_).1⟩
  · exact fun s hs hassigns => hvalue s hs ⟨hassigns.1, hassigns.2.1⟩
  · rw [hchecks]
    exact nofun

/-- References before anything is typed show the same text. -/
def ShowsSame (es : List Event) : Prop :=
  ∃ common : String, ∀ (before : List Event) (x : Element) (text : String) (after : List Event),
    es = before ++ .shown x text :: after → lastTyped before = none → text = common

/-- Two documents declare an element with the variable `Feature:Note`; the one that is found by
that variable has inconsistent properties, the one that is found by its name alone has not. -/
def sharedScope : Scope where
  spec := ⟨[inconsistent, consistent]⟩
  here := some consistent
where
  inconsistent : Document := { path := "a.feature", feature := some {
    name := "Feature", elements := [{ name := "Note", feature := some "Feature", properties := [
      { kind := .minValue, value := .int 10 }, { kind := .maxValue, value := .int 1 }] }] } }
  consistent : Document := { path := "b.feature", feature := some {
    name := "Feature", elements := [{ name := "Note", feature := some "Feature", properties := [
      { kind := .value, value := .text "x" }] }] } }

def sharedScenario : List Step := [seeing "Feature:Note", seeing "Note"]

def sharedCase : PreTestCase where
  plan := {}
  steps := [
    { content := "Then I see \"\"", kind := .thenStep, location := {} },
    { content := "Then I see \"x\"", kind := .thenStep, location := {} }]
  oracles := []

def seeingPieces (var : String) : Segments where
  parts := [("Then I see ".toList,
    ⟨.property, var, "\x7b" ++ var ++ "|value\x7d", 11, some "value"⟩)]
  tail := []

/-- What is written for the reference is what follows the first words of the step. -/
theorem events_of_seeing {e : Entry} {scope : Scope} {name : String}
    (hsource : e.source = seeing name) (hpieces : (seeing name).segments = .ok (seeingPieces name))
    (hname : (scope.findElement? name).map (·.variableName) = some var) :
    ∃ x text, e.events scope var = [.shown x text] ∧
      (e.steps b).map (·.content) = ["Then I see " ++ text] := by
  obtain ⟨x, hx, hvar⟩ := Option.map_eq_some_iff.1 hname
  cases e with
  | expanded y =>
    have hopen := y.isOpen
    rw [show y.source = seeing name from hsource] at hopen
    cases hopen
  | resolved r hclosed =>
    have hsource : r.source = seeing name := hsource
    have hsegments := r.segments_eq
    rw [hsource, hpieces, Except.ok.injEq] at hsegments
    have hlength := r.length_eq
    rw [hsource] at hlength
    obtain ⟨rep, hrep⟩ := List.length_eq_one_iff.1 hlength
    refine ⟨x, rep.text, ?_, ?_⟩
    · have hrefers : Brief.refersToValue
          ⟨.property, name, "\x7b" ++ name ++ "|value\x7d", 11, some "value"⟩ = true := rfl
      simp [Entry.events, Resolved.events, hsource, hrep, seeing, shownEvents, hrefers,
        Scope.elementOf?, hx, hvar]
    · have hcontent : r.step.content = "Then I see " ++ rep.text := by
        apply String.toList_inj.1
        simp [Resolved.step, Resolved.content, ← hsegments, hrep, seeingPieces]
      simp [Entry.steps, hcontent]

def sharedBrief : Brief :=
  brief { seed := ⟨"scenaria"⟩ } sharedScope (Survey.of sharedScope sharedScenario).1 (some {})

/-- Both references are to the same variable and nothing is filled, but the first one shows the
empty text. -/
theorem shared_variable_shows_two_texts :
    (generate { seed := ⟨"scenaria"⟩ } sharedScope sharedScenario [] {}).1 = [sharedCase] ∧
      (∀ s ∈ sharedScenario, s.isExternal = false ∧ s.isFill = false) ∧
      ∀ t : Transcript sharedBrief sharedScenario,
        sharedCase.steps = t.steps → ¬ ShowsSame (t.events "Feature:Note") := by
  refine ⟨by decide +kernel, by decide, fun t hsteps ⟨common, hcommon⟩ => ?_⟩
  obtain ⟨e₁, rest, hentries, hsource₁, hrest⟩ := List.map_eq_cons_iff.1 t.sources
  obtain ⟨e₂, rest', rfl, hsource₂, hrest'⟩ := List.map_eq_cons_iff.1 hrest
  cases List.map_eq_nil_iff.1 hrest'
  have hname₁ : (sharedScope.findElement? "Feature:Note").map (·.variableName) =
      some "Feature:Note" := by decide +kernel
  have hname₂ : (sharedScope.findElement? "Note").map (·.variableName) = some "Feature:Note" := by
    decide +kernel
  obtain ⟨x₁, text₁, hevents₁, hcontent₁⟩ :=
    events_of_seeing (b := sharedBrief) hsource₁ rfl hname₁
  obtain ⟨x₂, text₂, hevents₂, hcontent₂⟩ :=
    events_of_seeing (b := sharedBrief) hsource₂ rfl hname₂
  have hevents : t.events "Feature:Note" = .shown x₁ text₁ :: .shown x₂ text₂ ::
      t.checks.flatMap fun c => c.resolved.events sharedScope "Feature:Note" := by
    have hscope : sharedBrief.scope = sharedScope := rfl
    simp [Transcript.events, hentries, hscope, hevents₁, hevents₂]
  have hsame : text₁ = text₂ :=
    (hcommon [] x₁ text₁ _ hevents rfl).trans (hcommon [_] x₂ text₂ _ hevents rfl).symm
  have hcontents : ["Then I see \"\"", "Then I see \"x\""] =
      ["Then I see " ++ text₁, "Then I see " ++ text₂] := by
    have hlines := congrArg (List.map (·.content)) hsteps
    simpa [Transcript.steps, hentries, hcontent₁, hcontent₂, sharedCase] using hlines
  rw [hsame, List.cons.injEq, List.cons.injEq] at hcontents
  exact absurd (hcontents.1.trans hcontents.2.1.symm) (by decide)

end Assembler

end TestDesign
