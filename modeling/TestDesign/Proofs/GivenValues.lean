import TestDesign.Proofs.RecognizedSteps
import TestDesign.Proofs.Scanning
import TestDesign.Proofs.ValueReferences

/-!
# TestDesign.Proofs.GivenValues

Fill steps that say themselves what is typed, and what later references to the filled elements
show. `Resolved.history` adds to the events of a step that it types its value, so that every run
moves along its whole history (`Resolved.moves_history`), and what follows a fill step starts from
its value (`Transcript.exists_moves_after`).

`references_show_given_value`: references show the value that the entity of the step was read as.
That is the text of the step, unless the entity is a number that is not written as its value is.
-/

namespace TestDesign

open Drafting

variable {b : Brief} {s s' : Draft} {var : String}

/-! ## Histories -/

namespace Resolved

/-- A fill step that gives a value types it into the elements that it names. -/
def given (r : Resolved) (var : String) : List Event :=
  if r.source.isFill then
    match r.replacements.findSome? (·.value) with
    | some v => if var ∈ r.replacements.filterMap (·.target) then [.typed v] else []
    | none => []
  else []

/-- All that happens to a variable in a step: references first, then what the step types. -/
def history (scope : Scope) (var : String) (r : Resolved) : List Event :=
  r.events scope var ++ r.given var

end Resolved

def Entry.history (scope : Scope) (var : String) : Entry → List Event
  | expanded x => x.events scope var
  | resolved x _ => x.history scope var

/-- Only fill steps give values. -/
theorem Entry.history_eq_events {e : Entry} (h : e.source.isFill = false) (scope : Scope)
    (var : String) : e.history scope var = e.events scope var := by
  cases e with
  | expanded x => rfl
  | resolved r hclosed =>
    have hfill : r.source.isFill = false := h
    simp [Entry.history, Entry.events, Resolved.history, Resolved.given, hfill]

/-- All that happens to a variable in some last steps of a test case and in its checks. -/
def Transcript.historyAfter {scenario : List Step} (t : Transcript b scenario) (last : List Entry)
    (var : String) : List Event :=
  last.flatMap (Entry.history b.scope var) ++
    t.checks.flatMap fun c => c.resolved.history b.scope var

theorem get?_of_mem_rememberAll {v : Value} {vars : List String} {u : Unit}
    (h : Gives (Brief.rememberAll v vars) s u s') (hmem : var ∈ vars) :
    s'.values.get? var = some v := by
  induction vars generalizing s with
  | nil => cases hmem
  | cons other vars ih =>
    unfold Brief.rememberAll at h
    obtain ⟨_, s₁, hremember, hrest⟩ := gives_bind.1 h
    by_cases hlater : var ∈ vars
    · exact ih hrest hlater
    · obtain rfl : var = other := (List.mem_cons.1 hmem).resolve_right hlater
      rw [get?_of_rememberAll hrest hlater, values_of_remember hremember, Keyed.get?_insert_self]

theorem Resolved.moves_given {r : Resolved}
    (h : Gives (Brief.typeGiven r.source r.replacements) s () s') :
    Chained (Moves b) (s.values.get? var) (r.given var) (s'.values.get? var) := by
  unfold Brief.typeGiven at h
  unfold Resolved.given
  cases hfill : r.source.isFill with
  | false =>
    simp only [hfill, Bool.false_eq_true, if_false] at h ⊢
    exact congrArg (·.values.get? var) (gives_pure.1 h).2
  | true =>
    cases hv : r.replacements.findSome? (·.value) with
    | none =>
      simp only [hfill, hv, if_true] at h ⊢
      exact congrArg (·.values.get? var) (gives_pure.1 h).2
    | some v =>
      simp only [hfill, hv, if_true] at h ⊢
      split
      · rename_i hmem
        rw [get?_of_mem_rememberAll h hmem]
        exact chained_singleton (.typed _ _)
      · rename_i hmem
        exact get?_of_rememberAll h hmem

/-- What is remembered for a variable moves along its history. -/
theorem Resolved.moves_history {r : Resolved} (h : r.Runs b s s') :
    Chained (Moves b) (s.values.get? var) (r.history b.scope var) (s'.values.get? var) := by
  obtain ⟨s₁, hruns, hgiven⟩ := h
  refine chained_append.2 ⟨s₁.values.get? var, ?_, Resolved.moves_given hgiven⟩
  exact Chained.flatMap (g := fun s => s.values.get? var) hruns
    fun _ _ _ _ hreplace => moves_of_replace hreplace

theorem Entry.moves_history {e : Entry} (h : e.Runs b s s') :
    Chained (Moves b) (s.values.get? var) (e.history b.scope var) (s'.values.get? var) := by
  cases e with
  | expanded x => exact Expanded.moves h
  | resolved x hclosed => exact Resolved.moves_history h

/-- A step runs somewhere in a test case, and what comes after it goes on from there. -/
theorem Transcript.exists_moves_after {scenario : List Step} {t : Transcript b scenario}
    {before after : List Entry} {e : Entry} (h : t.Runs s s')
    (hsplit : t.entries = before ++ e :: after) :
    ∃ s₁ s₂, e.Runs b s₁ s₂ ∧ ∀ var,
      Chained (Moves b) (s₂.values.get? var) (t.historyAfter after var) (s'.values.get? var) := by
  obtain ⟨s₃, hentries, -, hchecks⟩ := h
  rw [hsplit] at hentries
  obtain ⟨s₁, -, s₂, hrun, hafter⟩ := chained_append.1 hentries
  refine ⟨s₁, s₂, hrun, fun var => chained_append.2 ⟨s₃.values.get? var, ?_, ?_⟩⟩
  · exact Chained.flatMap (g := fun s => s.values.get? var) hafter
      fun _ _ _ _ hrun => Entry.moves_history hrun
  · exact Chained.flatMap (g := fun s => s.values.get? var) hchecks
      fun _ _ _ _ hrun => Resolved.moves_history hrun

/-- Up to the next typing, references show what is remembered. -/
theorem text_of_moves {v : Value} {k : Option Value} {mid rest : List Event} {x : Element}
    {text : String} (h : Chained (Moves b) (some v) (mid ++ .shown x text :: rest) k)
    (hmid : lastTyped mid = none) : text = v.inSentence := by
  obtain ⟨k₁, hbefore, k₂, hshown, -⟩ := chained_append.1 h
  cases eq_of_lastTyped_none hbefore hmid
  cases hshown
  rfl

/-! ## Steps that give one value -/

/-- The value that an entity of its own gives to the elements of its step. -/
def Scope.valueOf? (scope : Scope) (v : Entity) : Option Value :=
  match v.kind with
  | .value => some (.text v.value)
  | .number => some (.ofLiteral v.value)
  | .constant => (scope.findConstant? v.value).map (·.value)
  | .action | .literal | .element | .property | .state => none

/-- A fill step that one entity gives a value to: a quoted value, a number or a constant. -/
structure Step.GivesOnly (step : Step) (v : Entity) : Prop where
  isFill : step.isFill = true
  only : step.entities.filter (·.kind.isValue) = [v]
  kind : v.kind ≠ .property

/-- What stands for an entity that gives a value: the value of a constant, which is empty where the
constant is not found, and the entity itself otherwise. -/
structure Shows (scope : Scope) (v : Entity) (r : Brief.Replacement) : Prop where
  value : r.value = scope.valueOf? v
  constant : v.kind = .constant → ∀ w, scope.valueOf? v = some w → r.text = w.inSentence
  literal : v.kind ≠ .constant → r.text = v.text
  missing : scope.valueOf? v = none → r.text = Brief.blankText

theorem shows_of_replace {step : Step} {v : Entity} {r : Brief.Replacement}
    (h : Gives (b.replace step v) s r s') (hvalue : v.kind.isValue = true)
    (hkind : v.kind ≠ .property) : Shows b.scope v r := by
  unfold Brief.replace at h
  cases hv : v.kind with
  | action | literal | element | state =>
    rw [hv] at hvalue
    cases hvalue
  | property => exact absurd hv hkind
  | value | number =>
    simp only [hv] at h
    have hgiven : b.scope.valueOf? v ≠ none := by simp [Scope.valueOf?, hv]
    rw [(gives_pure.1 h).1]
    exact ⟨by simp [Brief.kept, Scope.valueOf?, hv], by simp [hv], fun _ => rfl,
      fun hnone => absurd hnone hgiven⟩
  | constant =>
    simp only [hv, Brief.replaceConstant] at h
    cases hc : b.scope.findConstant? v.value with
    | some c =>
      simp only [hc] at h
      rw [(gives_pure.1 h).1]
      have hgiven : b.scope.valueOf? v = some c.value := by simp [Scope.valueOf?, hv, hc]
      exact ⟨hgiven.symm, fun _ w hw => by rw [Option.some.inj (hgiven.symm.trans hw)],
        fun hne => absurd hv hne,
        fun hnone => absurd (hgiven.symm.trans hnone) (Option.some_ne_none _)⟩
    | none =>
      simp only [hc] at h
      rw [(values_of_warn_pure h).1]
      have hgiven : b.scope.valueOf? v = none := by simp [Scope.valueOf?, hv, hc]
      exact ⟨hgiven.symm, fun _ w hw => absurd (hgiven.symm.trans hw).symm (Option.some_ne_none w),
        fun hne => absurd hv hne, fun _ => rfl⟩

namespace Resolved

variable {r : Resolved} {v : Entity}

/-- The entity that gives the value is replaced once. -/
theorem exists_pair (h : r.source.GivesOnly v) :
    ∃ shown, (r.source.entities.zip r.replacements).filter (·.1.kind.isValue) = [(v, shown)] := by
  have honly := h.only
  rw [← r.map_fst_zip, List.filter_map, List.map_eq_singleton_iff] at honly
  obtain ⟨⟨v', shown⟩, hfilter, rfl⟩ := honly
  exact ⟨shown, hfilter⟩

/-- No other replacement gives a value. -/
theorem findSome?_value {scope : Scope} {shown : Brief.Replacement}
    (hfits : ∀ p ∈ r.source.entities.zip r.replacements, FitsEntity scope p.1 p.2)
    (hpair : (r.source.entities.zip r.replacements).filter (·.1.kind.isValue) = [(v, shown)]) :
    r.replacements.findSome? (·.value) = shown.value := by
  have hmem : (v, shown) ∈ r.source.entities.zip r.replacements :=
    (List.mem_filter.1 (hpair ▸ List.mem_singleton_self _)).1
  have hone : ∀ r' ∈ r.replacements, r'.value.isSome = true → r' = shown := by
    intro r' hr' hvalue
    rw [← r.map_snd_zip] at hr'
    obtain ⟨p, hp, rfl⟩ := List.mem_map.1 hr'
    have hfilter : p ∈ (r.source.entities.zip r.replacements).filter (·.1.kind.isValue) :=
      List.mem_filter.2 ⟨hp, (hfits p hp).isValue hvalue⟩
    rw [hpair] at hfilter
    exact congrArg (·.2) (List.mem_singleton.1 hfilter)
  cases hfound : r.replacements.findSome? (·.value) with
  | some w =>
    obtain ⟨r', hr', hw⟩ := List.exists_of_findSome?_eq_some hfound
    rw [← hone r' hr' (by rw [hw]; rfl), hw]
  | none =>
    have hshown : shown ∈ r.replacements := (List.of_mem_zip hmem).2
    exact (List.findSome?_eq_none_iff.1 hfound shown hshown).symm

/-- No reference to a value stands beside the entity that gives the value. -/
theorem events_of_givesOnly (h : r.source.GivesOnly v) (scope : Scope) :
    r.events scope var = [] := by
  refine List.flatMap_eq_nil_iff.2 fun p hp => ?_
  rw [shownEvents, if_neg]
  rintro ⟨hkind, -⟩
  have hvalue : p.1 ∈ r.source.entities.filter (·.kind.isValue) :=
    List.mem_filter.2 ⟨(List.of_mem_zip hp).1, by rw [hkind]; rfl⟩
  rw [h.only] at hvalue
  exact h.kind (List.mem_singleton.1 hvalue ▸ hkind)

end Resolved

/-- The step names the element. -/
def Step.NamesElement (step : Step) (scope : Scope) (x : Element) : Prop :=
  ∃ e ∈ step.entities, e.kind = .element ∧ scope.findElement? e.value = some x

theorem target_of_replace {step : Step} {e : Entity} {x : Element} {r : Brief.Replacement}
    (h : Gives (b.replace step e) s r s') (hkind : e.kind = .element)
    (hx : b.scope.findElement? e.value = some x) : r.target = some x.variableName := by
  simp only [Brief.replace, hkind, Brief.replaceElement, hx] at h
  rw [(gives_pure.1 h).1]

/-- The elements that a step names are those that it types its value into. -/
theorem Resolved.mem_targets {r : Resolved} {x : Element}
    (hruns : ∀ p ∈ r.source.entities.zip r.replacements,
      ∃ s s', Gives (b.replace r.source p.1) s p.2 s')
    (hx : r.source.NamesElement b.scope x) :
    x.variableName ∈ r.replacements.filterMap (·.target) := by
  obtain ⟨e, he, hkind, hfound⟩ := hx
  obtain ⟨shown, hmem⟩ := r.exists_replacement he
  obtain ⟨s, s', hreplace⟩ := hruns _ hmem
  exact List.mem_filterMap.2
    ⟨shown, (List.of_mem_zip hmem).2, target_of_replace hreplace hkind hfound⟩

/-- A fill step that gives a value leaves it behind in all elements that it names. -/
theorem Resolved.get?_of_given {r : Resolved} {w : Value} {x : Element} (h : r.Runs b s s')
    (hfill : r.source.isFill = true) (hw : r.replacements.findSome? (·.value) = some w)
    (hx : r.source.NamesElement b.scope x) : s'.values.get? x.variableName = some w := by
  obtain ⟨s₁, hruns, hgiven⟩ := h
  have hreplaced := Chained.forall
    (P := fun p => ∃ s s', Gives (b.replace r.source p.1) s p.2 s') hruns
    fun s _ s' hreplace => ⟨s, s', hreplace⟩
  simp only [Brief.typeGiven, hfill, if_true, hw] at hgiven
  exact get?_of_mem_rememberAll hgiven (Resolved.mem_targets hreplaced hx)

/-- A fill step that gives a value shows it, and leaves it behind in the elements that it names. If
it has no value, because its constant is not found, it leaves no trace. -/
theorem Resolved.gives_value {r : Resolved} {v : Entity} (h : r.Runs b s s')
    (hgives : r.source.GivesOnly v) :
    ∃ shown, (v, shown) ∈ r.source.entities.zip r.replacements ∧ Shows b.scope v shown ∧
      (∀ w, b.scope.valueOf? v = some w → ∀ x, r.source.NamesElement b.scope x →
        s'.values.get? x.variableName = some w) ∧
      (b.scope.valueOf? v = none → ∀ var, r.history b.scope var = []) := by
  have ⟨s₁, hruns, _⟩ := h
  obtain ⟨shown, hpair⟩ := Resolved.exists_pair hgives
  have hmem := List.mem_filter.1 (hpair ▸ List.mem_singleton_self (v, shown))
  have hreplaced := Chained.forall
    (P := fun p => ∃ s s', Gives (b.replace r.source p.1) s p.2 s') hruns
    fun s _ s' hreplace => ⟨s, s', hreplace⟩
  have hshows : Shows b.scope v shown := by
    obtain ⟨_, _, hreplace⟩ := hreplaced _ hmem.1
    exact shows_of_replace hreplace hmem.2 hgives.kind
  have hfits : ∀ p ∈ r.source.entities.zip r.replacements, FitsEntity b.scope p.1 p.2 := by
    intro p hp
    obtain ⟨_, _, hreplace⟩ := hreplaced p hp
    exact fitsEntity_of_replace hreplace
  have hvalue : r.replacements.findSome? (·.value) = b.scope.valueOf? v := by
    rw [← hshows.value]
    exact Resolved.findSome?_value hfits hpair
  refine ⟨shown, hmem.1, hshows, ?_, ?_⟩
  · intro w hw x hx
    exact Resolved.get?_of_given h hgives.isFill (hvalue.trans hw) hx
  · intro hnone var
    rw [Resolved.history, Resolved.events_of_givesOnly hgives, Resolved.given, hvalue, hnone]
    simp

/-! ## Test cases -/

/-- A quoted value or a constant is shown as it is remembered; a number is shown as it stands in
the step, and remembered as the value that it is read as. -/
theorem Shows.inSentence_eq_iff {scope : Scope} {v : Entity} {w : Value} {r : Brief.Replacement}
    {d : Dictionary} (h : Shows scope v r) (hfits : Sentence.Fits d v)
    (hw : scope.valueOf? v = some w) :
    w.inSentence = r.text ↔ (v.kind = .number → (Value.ofLiteral v.text).inSentence = v.text) := by
  unfold Scope.valueOf? at hw
  cases hkind : v.kind with
  | action | literal | element | property | state => simp [hkind] at hw
  | value =>
    simp only [hkind, Option.some.injEq] at hw
    rw [h.literal (by simp [hkind]), ← hw]
    exact ⟨fun _ => nofun, fun _ => hfits.value hkind⟩
  | number =>
    simp only [hkind, Option.some.injEq] at hw
    rw [h.literal (by simp [hkind]), ← hw, hfits.number hkind]
    exact ⟨fun heq _ => heq, fun heq => heq rfl⟩
  | constant =>
    rw [h.constant hkind w (by simpa only [Scope.valueOf?] using hw)]
    exact ⟨fun _ => nofun, fun _ => rfl⟩

/-- What is typed with the entity `v`, shown in the step `r`, and what references to it show as long
as nothing else is typed into the element. -/
structure Transcript.ShowsGiven {scenario : List Step} (t : Transcript b scenario) (r : Resolved)
    (after : List Entry) (v : Entity) (shown : Brief.Replacement) : Prop where
  mem : (v, shown) ∈ r.source.entities.zip r.replacements
  /-- References show the value, which is the text of the step if it is no number, or a number that
  is written as its value is. -/
  found : ∀ w, b.scope.valueOf? v = some w → ∀ x, r.source.NamesElement b.scope x →
    ∀ mid y text rest, t.historyAfter after x.variableName = mid ++ .shown y text :: rest →
      lastTyped mid = none →
        text = w.inSentence ∧ (text = shown.text ↔
          (v.kind = .number → (Value.ofLiteral v.text).inSentence = v.text))
  /-- A constant that is not found leaves no trace. -/
  missing : b.scope.valueOf? v = none →
    shown.text = Brief.blankText ∧ ∀ var, r.history b.scope var = []

theorem Transcript.exists_showsGiven {scenario : List Step} {t : Transcript b scenario}
    {before after : List Entry} {e : Entry} {v : Entity} (h : t.Runs s s')
    (hsplit : t.entries = before ++ e :: after) (hrecognized : e.source.IsRecognized)
    (hgives : e.source.GivesOnly v) :
    ∃ r hclosed shown, e = .resolved r hclosed ∧ t.ShowsGiven r after v shown := by
  have hvalue : v ∈ e.source.entities.filter (·.kind.isValue) :=
    hgives.only ▸ List.mem_singleton_self v
  obtain ⟨hmem, hkind⟩ := List.mem_filter.1 hvalue
  obtain ⟨r, hclosed, rfl⟩ := Entry.exists_resolved (List.any_eq_true.2 ⟨v, hmem, hkind⟩)
  obtain ⟨d, sentence, location, step, hstep, -, hentities⟩ := hrecognized
  have hfits : Sentence.Fits d v := fits_of_recognize hstep v (hentities ▸ hmem)
  obtain ⟨s₁, s₂, hrun, hmoves⟩ := exists_moves_after h hsplit
  obtain ⟨shown, hpair, hshows, hremembered, hmissing⟩ := Resolved.gives_value hrun hgives
  refine ⟨r, hclosed, shown, rfl, hpair, ?_, fun hnone => ⟨hshows.missing hnone, hmissing hnone⟩⟩
  intro w hw x hx mid y text rest hhistory hmid
  have hlater := hmoves x.variableName
  rw [hremembered w hw x hx, hhistory] at hlater
  have htext : text = w.inSentence := text_of_moves hlater hmid
  exact ⟨htext, htext ▸ hshows.inSentence_eq_iff hfits hw⟩

namespace Assembler

variable (a : Assembler) (scope : Scope)

/-- In a generated test case every fill step that one entity gives a value to, a quoted value, a
number or a constant, stays one step. Until something else is typed into an element that it names,
references to the element show the value that the entity was read as. That is exactly what the step
shows in the place of the entity, unless this is a number that is not written as its value is. A
constant that is not found is shown as an empty value, which is not remembered. -/
theorem references_show_given_value {scenario : List Step} {planners : List Planner}
    {session : Session} {p : PreTestCase} (h : ∀ s ∈ scenario, s.isExternal = false)
    (hp : p ∈ (a.generate scope scenario planners session).1) :
    ∃ t : Transcript (a.brief scope (Survey.of scope scenario).1 (some p.plan)) scenario,
      (∃ i draft, t.Runs { stream := (a.seed.nth i).stream } draft) ∧
      p.steps = t.steps ∧ p.oracles = t.oracles ∧
      ∀ before e after, t.entries = before ++ e :: after → e.source.IsRecognized →
        ∀ v, e.source.GivesOnly v →
          ∃ r hclosed shown, e = .resolved r hclosed ∧ t.ShowsGiven r after v shown := by
  obtain ⟨plan, i, draft, hgives⟩ := exists_gives_of_mem_generate a scope h hp
  obtain ⟨rfl, t, hsteps, horacles, hruns⟩ := exists_transcript hgives
  exact ⟨t, ⟨i, draft, hruns⟩, hsteps, horacles, fun before e after hsplit hrecognized v hv =>
    Transcript.exists_showsGiven hruns hsplit hrecognized hv⟩

def givingZip (entity : Entity) : Step where
  content := "When I fill \x7bZip\x7d with " ++ entity.text
  kind := .whenStep
  location := {}
  entities := [⟨.action, "fill", "fill", 7, none⟩, ⟨.element, "Zip", "\x7bZip\x7d", 12, none⟩,
    entity]

def zipScope : Scope where
  spec := ⟨[{ path := "zip.feature", elements := [
    { name := "Zip", properties := [{ kind := .value, value := .text "x" }] }] }]⟩

def five : Entity := ⟨.number, "5", "5", 23, none⟩

def zipScenario : List Step := [givingZip five, seeing "Zip"]

def zipCase : PreTestCase where
  plan := {}
  steps := [
    { content := "When I fill <zip> with 5", kind := .whenStep, location := {}
      comment := some "\x7bZip\x7d" },
    { content := "Then I see 5", kind := .thenStep, location := {} }]
  oracles := []

def zipBrief : Brief :=
  brief { seed := ⟨"scenaria"⟩ } zipScope (Survey.of zipScope zipScenario).1 (some zipCase.plan)

/-- The code is filled, and then seen as it was typed. -/
theorem zip_shows_given_value :
    zipCase ∈ (generate { seed := ⟨"scenaria"⟩ } zipScope zipScenario [] {}).1 ∧
      ∃ t : Transcript zipBrief zipScenario, zipCase.steps = t.steps ∧
        ∃ r after shown, t.ShowsGiven r after five shown ∧
          ∃ x, t.historyAfter after "Zip" = [.shown x shown.text] := by
  have hp : zipCase ∈ (generate { seed := ⟨"scenaria"⟩ } zipScope zipScenario [] {}).1 := by
    decide +kernel
  have hrecognized : recognize .english "When I fill \x7bZip\x7d with 5" {} =
      .ok (givingZip five) := eq_ok_of_toOption (by decide +kernel)
  have hgives : (givingZip five).GivesOnly five := ⟨by decide, by decide, by decide⟩
  obtain ⟨t, -, hsteps, horacles, ht⟩ := references_show_given_value _ _ (by decide) hp
  have hchecks : t.checks = [] := List.map_eq_nil_iff.1 horacles.symm
  obtain ⟨e₁, rest, hentries, hsource₁, hrest⟩ := List.map_eq_cons_iff.1 t.sources
  obtain ⟨e₂, rest', rfl, hsource₂, hrest'⟩ := List.map_eq_cons_iff.1 hrest
  cases List.map_eq_nil_iff.1 hrest'
  obtain ⟨r, hclosed, shown, rfl, hshows⟩ := ht [] e₁ [e₂] hentries
    (hsource₁ ▸ ⟨_, _, _, _, hrecognized, rfl, rfl⟩) five (hsource₁ ▸ hgives)
  have hsource₁ : r.source = givingZip five := hsource₁
  have hname : (zipScope.findElement? "Zip").map (·.variableName) = some "Zip" := by decide +kernel
  obtain ⟨x, hx, hvar⟩ := Option.map_eq_some_iff.1 hname
  obtain ⟨y, text, hevents, -⟩ := events_of_seeing (b := zipBrief) hsource₂ rfl hname
  have hhistory : t.historyAfter [e₂] "Zip" = [.shown y text] := by
    have hlater : e₂.history zipScope "Zip" = [.shown y text] :=
      (Entry.history_eq_events (hsource₂ ▸ rfl) _ _).trans hevents
    simp only [Transcript.historyAfter, hchecks, List.flatMap_cons, List.flatMap_nil,
      List.append_nil]
    exact hlater
  have hnamed : r.source.NamesElement zipScope x :=
    hsource₁ ▸ ⟨_, List.mem_cons_of_mem _ List.mem_cons_self, rfl, hx⟩
  obtain ⟨-, hiff⟩ := hshows.found _ rfl x hnamed [] y text [] (hvar ▸ hhistory) rfl
  have htext : text = shown.text := hiff.2 fun _ => Value.inSentence_ofLiteral_toString 5
  exact ⟨hp, t, hsteps, r, [e₂], shown, hshows, y, htext ▸ hhistory⟩

def zipLines (entity : Entity) : List (List String) :=
  (generate { seed := ⟨"scenaria"⟩ } zipScope [givingZip entity, seeing "Zip"] [] {}).1.map
    fun p => p.steps.map (·.content)

/-- A number with zeros in front is shown as it stands, and then without them; a constant that is
not found is shown as an empty value, and then the element has another one. -/
theorem zip_shows_other_value :
    zipLines ⟨.number, "007", "007", 23, none⟩ = [["When I fill <zip> with 007", "Then I see 7"]] ∧
      zipLines ⟨.constant, "nope", "[nope]", 23, none⟩ =
        [["When I fill <zip> with \"\"", "Then I see \"x\""]] := by
  decide +kernel

end Assembler

end TestDesign
