import TestDesign.Proofs.SpliceLoop

/-!
# TestDesign.Proofs.Transcript

The transcript of a test case says for each step of the scenario what was typed into its targets or
what was written for its entities, and likewise for the checks. The steps of the test case can be
read off it. `exists_transcript`: every test case that can be assembled has a transcript of its
assembly.
-/

namespace TestDesign

open Drafting

/-- Things that happen one after the other, each taking a state to the next one. -/
def Chained {σ ε : Type} (R : σ → ε → σ → Prop) : σ → List ε → σ → Prop
  | s, [], s' => s' = s
  | s, e :: es, s' => ∃ s₁, R s e s₁ ∧ Chained R s₁ es s'

section Chained

variable {σ τ ε δ : Type} {R : σ → ε → σ → Prop} {Q : τ → δ → τ → Prop} {s s' : σ}

theorem chained_append {es es' : List ε} :
    Chained R s (es ++ es') s' ↔ ∃ s₁, Chained R s es s₁ ∧ Chained R s₁ es' s' := by
  induction es generalizing s with
  | nil => simp [Chained]
  | cons e es ih =>
    simp only [List.cons_append, Chained, ih]
    constructor
    · rintro ⟨s₁, he, s₂, hes, hes'⟩
      exact ⟨s₂, ⟨s₁, he, hes⟩, hes'⟩
    · rintro ⟨s₂, ⟨s₁, he, hes⟩, hes'⟩
      exact ⟨s₁, he, s₂, hes, hes'⟩

theorem chained_singleton {e : ε} (h : R s e s') : Chained R s [e] s' := ⟨s', h, rfl⟩

/-- If each single thing is a chain of others, seen through `g`, then so are all of them. -/
theorem Chained.flatMap {g : σ → τ} {f : ε → List δ} {es : List ε} (h : Chained R s es s')
    (hstep : ∀ e ∈ es, ∀ s s', R s e s' → Chained Q (g s) (f e) (g s')) :
    Chained Q (g s) (es.flatMap f) (g s') := by
  induction es generalizing s with
  | nil => exact congrArg g h
  | cons e es ih =>
    obtain ⟨s₁, he, hes⟩ := h
    rw [List.flatMap_cons]
    exact chained_append.2 ⟨g s₁, hstep e List.mem_cons_self s s₁ he,
      ih hes fun e hmem => hstep e (List.mem_cons_of_mem _ hmem)⟩

theorem Chained.forall {P : ε → Prop} {es : List ε} (h : Chained R s es s')
    (hP : ∀ s e s', R s e s' → P e) : ∀ e ∈ es, P e := by
  induction es generalizing s with
  | nil => nofun
  | cons e es ih =>
    obtain ⟨s₁, he, hes⟩ := h
    intro x hx
    rcases List.mem_cons.1 hx with rfl | hx
    · exact hP s x s₁ he
    · exact ih hes x hx

theorem Chained.exists_of_mem {e : ε} {es : List ε} (h : Chained R s es s') (he : e ∈ es) :
    ∃ s₁ s₂, R s₁ e s₂ :=
  h.forall (P := fun e => ∃ s₁ s₂, R s₁ e s₂) (fun s₁ _ s₂ hstep => ⟨s₁, s₂, hstep⟩) e he

end Chained

/-! ## Entries and checks -/

/-- A fill step that leaves the value open, with what is typed into each of its targets. -/
structure Expanded where
  source : Step
  action : Entity
  fillings : List Brief.Filling
  isOpen : Brief.openFill? source = some (action, source.targets)
  length_eq : fillings.length = source.targets.length

/-- A step that stays one step, with what stands for each of its entities. -/
structure Resolved where
  source : Step
  pieces : Segments
  replacements : List Brief.Replacement
  segments_eq : source.segments = .ok pieces
  length_eq : replacements.length = source.entities.length

/-- What became of a step of the scenario. -/
inductive Entry where
  | expanded (x : Expanded)
  | resolved (x : Resolved) (isClosed : Brief.openFill? x.source = none)

/-- A check after an element was filled, with the name of the element in the user interface. -/
structure Check where
  literal : String
  resolved : Resolved

/-! ## What a transcript says in sentences -/

namespace Brief

variable (b : Brief)

/-- The fill steps for some targets, of which the first one is number `i`. -/
def fillSteps (step : Step) (action : Entity) : Nat → List Filling → List Step
  | _, [] => []
  | i, f :: fs =>
    let kind := if i = 0 then step.kind else .andStep
    { content := b.fillSentence kind action f, kind
      location := { step.location with line := step.location.line + i }
      isExternal := step.isExternal, comment := some f.comment } :: fillSteps step action (i + 1) fs

end Brief

namespace Resolved

variable (r : Resolved)

theorem map_fst_zip : (r.source.entities.zip r.replacements).map (·.1) = r.source.entities :=
  List.map_fst_zip (Nat.le_of_eq r.length_eq.symm)

theorem map_snd_zip : (r.source.entities.zip r.replacements).map (·.2) = r.replacements :=
  List.map_snd_zip (Nat.le_of_eq r.length_eq)

theorem exists_replacement {e : Entity} (he : e ∈ r.source.entities) :
    ∃ shown, (e, shown) ∈ r.source.entities.zip r.replacements := by
  rw [← r.map_fst_zip] at he
  obtain ⟨⟨e', shown⟩, hp, rfl⟩ := List.mem_map.1 he
  exact ⟨shown, hp⟩

def content : List Char :=
  (r.pieces.parts.zip r.replacements).flatMap (fun p => p.1.1 ++ p.2.text.toList) ++ r.pieces.tail

def step : Step where
  content := String.ofList r.content
  kind := r.source.kind
  location := r.source.location
  isExternal := r.source.isExternal
  comment := Brief.joinComments (r.source.comment.toList ++ r.replacements.filterMap (·.mention))

end Resolved

def Check.step (c : Check) (b : Brief) : Step :=
  { c.resolved.step with
    content := otherwiseAsThen c.resolved.step.content b.dictionary, kind := .thenStep
    comment := some (b.dictionary.fromWord ++ " " ++ literalReference c.literal) }

namespace Entry

def source : Entry → Step
  | expanded x => x.source
  | resolved x _ => x.source

def steps (b : Brief) : Entry → List Step
  | expanded x => b.fillSteps x.source x.action 0 x.fillings
  | resolved x _ => [x.step]

end Entry

/-! ## Runs -/

/-- A step that gives a value itself types it into the elements that it names. -/
def Brief.typeGiven (step : Step) (rs : List Brief.Replacement) : Drafting Unit :=
  if step.isFill then
    match rs.findSome? (·.value) with
    | some v => Brief.rememberAll v (rs.filterMap (·.target))
    | none => pure ()
  else pure ()

/-- The targets are filled one after the other. -/
def Expanded.Runs (b : Brief) (s : Draft) (x : Expanded) (s' : Draft) : Prop :=
  Chained (fun s p s' => Gives (b.fillTarget x.source p.1) s p.2 s') s
    (x.source.targets.zip x.fillings) s'

/-- The entities are replaced one after the other. -/
def Resolved.Runs (b : Brief) (s : Draft) (r : Resolved) (s' : Draft) : Prop :=
  ∃ s₁, Chained (fun s p s' => Gives (b.replace r.source p.1) s p.2 s') s
      (r.source.entities.zip r.replacements) s₁ ∧
    Gives (Brief.typeGiven r.source r.replacements) s₁ () s'

def Entry.Runs (b : Brief) (s : Draft) (e : Entry) (s' : Draft) : Prop :=
  match e with
  | expanded x => x.Runs b s s'
  | resolved x _ => x.Runs b s s'

def Check.Runs (b : Brief) (s : Draft) (c : Check) (s' : Draft) : Prop := c.resolved.Runs b s s'

/-- An entry for each step of a scenario, and the checks for the elements with a value of the
plan. -/
structure Transcript (b : Brief) (scenario : List Step) where
  entries : List Entry
  filled : List FilledElement
  checks : List Check
  sources : entries.map Entry.source = scenario
  checkSources : checks.map (fun c => (c.literal, c.resolved.source)) =
    filled.flatMap fun e => (b.violationSteps e.var).map fun s => (e.literal, s)

namespace Transcript

variable {b : Brief} {scenario : List Step} (t : Transcript b scenario)

def steps : List Step := t.entries.flatMap (Entry.steps b)

def oracles : List Step := t.checks.map fun c => c.step b

/-- The transcript is that of an assembly which starts and ends with the given drafts. -/
def Runs (s s' : Draft) : Prop :=
  ∃ s₁, Chained (Entry.Runs b) s t.entries s₁ ∧ t.filled = s₁.filled ∧
    Chained (Check.Runs b) s₁ t.checks s'

end Transcript

/-! ## Every assembly has a transcript -/

variable {b : Brief} {s s' : Draft}

theorem runs_of_expandFill {step : Step} {action : Entity} {targets : List Entity} {i : Nat}
    {out : List Step} (h : Gives (b.expandFill step action i targets) s out s') :
    ∃ fs, fs.length = targets.length ∧ out = b.fillSteps step action i fs ∧
      Chained (fun s p s' => Gives (b.fillTarget step p.1) s p.2 s') s (targets.zip fs) s' := by
  induction targets generalizing i s out with
  | nil =>
    obtain ⟨rfl, rfl⟩ := gives_pure.1 h
    exact ⟨[], rfl, rfl, rfl⟩
  | cons target targets ih =>
    unfold Brief.expandFill at h
    obtain ⟨f, s₁, hf, hrest⟩ := gives_bind.1 h
    obtain ⟨out', s₂, hothers, hpure⟩ := gives_bind.1 hrest
    obtain ⟨rfl, rfl⟩ := gives_pure.1 hpure
    obtain ⟨fs, hlength, rfl, hruns⟩ := ih hothers
    exact ⟨f :: fs, by simp [hlength], rfl, s₁, hf, hruns⟩

theorem suits_of_replace {step : Step} {p : Entity × Brief.Replacement}
    (h : Gives (b.replace step p.1) s p.2 s') : Brief.Rewriting.Suits p := by
  intro hkind
  rw [Brief.replace_eq_kept hkind] at h
  exact (gives_pure.1 h).1

theorem runs_of_rewriteEntities {step : Step} {es : List Entity} {w w' : Brief.Rewriting}
    (h : Gives (b.rewriteEntities step w es) s w' s') :
    ∃ rs, rs.length = es.length ∧
      w' = (es.zip rs).foldl (Brief.Rewriting.next step.content.toList) w ∧
      Chained (fun s p s' => Gives (b.replace step p.1) s p.2 s') s (es.zip rs) s' := by
  induction es generalizing s w with
  | nil =>
    obtain ⟨rfl, rfl⟩ := gives_pure.1 h
    exact ⟨[], rfl, rfl, rfl⟩
  | cons e es ih =>
    unfold Brief.rewriteEntities at h
    obtain ⟨w₁, s₁, hfirst, hrest⟩ := gives_bind.1 h
    rw [Brief.rewriteEntity_eq] at hfirst
    obtain ⟨r, s₂, hr, hpure⟩ := gives_bind.1 hfirst
    obtain ⟨rfl, rfl⟩ := gives_pure.1 hpure
    obtain ⟨rs, hlength, rfl, hruns⟩ := ih hrest
    exact ⟨r :: rs, by simp [hlength], rfl, s₁, hr, hruns⟩

theorem runs_of_resolve {step : Step} {out : Step} (hcheck : step.checkEntities = .ok ())
    (h : Gives (b.resolve step) s out s') :
    ∃ r : Resolved, r.source = step ∧ out = r.step ∧ r.Runs b s s' := by
  obtain ⟨pieces, hpieces⟩ := Step.checkEntities_eq_ok_iff.1 hcheck
  unfold Brief.resolve at h
  obtain ⟨w, s₁, hloop, hrest⟩ := gives_bind.1 h
  obtain ⟨rs, hlength, hw, hruns⟩ := runs_of_rewriteEntities hloop
  let r : Resolved := ⟨step, pieces, rs, hpieces, hlength⟩
  have hsuits : ∀ p ∈ step.entities.zip rs, Brief.Rewriting.Suits p :=
    hruns.forall fun _ _ _ => suits_of_replace
  -- What the loop has collected, in terms of the replacements.
  have hreplacements : (step.entities.zip rs).map (·.2) = rs := r.map_snd_zip
  have hcontent : w.finish step.content.toList = r.content := by
    rw [hw]
    exact Brief.Rewriting.finish_foldl_next hpieces hlength hsuits _
  have hexplicit : w.explicit = rs.findSome? (·.value) := by
    conv => rhs; rw [← hreplacements, List.findSome?_map]
    rw [hw, Brief.Rewriting.explicit_foldl]
    rfl
  have hcomments : w.comments = step.comment.toList ++ rs.filterMap (·.mention) := by
    conv => rhs; rw [← hreplacements, List.filterMap_map]
    rw [hw, Brief.Rewriting.comments_foldl _ hsuits]
    rfl
  have htargets : w.targets = rs.filterMap (·.target) := by
    conv => rhs; rw [← hreplacements, List.filterMap_map]
    rw [hw, Brief.Rewriting.targets_foldl _ hsuits]
    rfl
  simp only [hexplicit, htargets, hcontent, hcomments] at hrest
  suffices hgiven : out = r.step ∧ Gives (Brief.typeGiven step rs) s₁ () s' from
    ⟨r, rfl, hgiven.1, s₁, hruns, hgiven.2⟩
  unfold Brief.typeGiven
  cases hfill : step.isFill with
  | true =>
    simp only [hfill, if_true] at hrest ⊢
    cases hv : rs.findSome? (·.value) with
    | some v =>
      simp only [hv] at hrest ⊢
      obtain ⟨_, s₂, hremember, hpure⟩ := gives_bind.1 hrest
      obtain ⟨rfl, rfl⟩ := gives_pure.1 hpure
      exact ⟨rfl, hremember⟩
    | none =>
      simp only [hv] at hrest ⊢
      obtain ⟨rfl, rfl⟩ := gives_pure.1 hrest
      exact ⟨rfl, gives_pure.2 ⟨rfl, rfl⟩⟩
  | false =>
    simp only [hfill, Bool.false_eq_true, if_false] at hrest ⊢
    obtain ⟨rfl, rfl⟩ := gives_pure.1 hrest
    exact ⟨rfl, gives_pure.2 ⟨rfl, rfl⟩⟩

theorem gives_checkStep {step : Step} {u : Unit} :
    Gives (b.checkStep step) s u s' ↔ step.checkEntities = .ok () ∧ s' = s := by
  unfold Brief.checkStep
  cases step.checkEntities with
  | ok u => simp [gives_pure]
  | error e => simp [not_gives_throw]

/-- The step fills targets without saying what with. -/
def Step.IsOpen (s : Step) : Prop := s.isFill = true ∧ s.hasValue = false ∧ s.targets ≠ []

theorem Brief.isOpen_of_openFill? {step : Step} {action : Entity} {targets : List Entity}
    (h : openFill? step = some (action, targets)) :
    step.IsOpen ∧ step.fillAction? = some action := by
  unfold openFill? at h
  split at h
  · rename_i haction
    split at h
    · cases h
    · rename_i hopen
      simp only [Bool.or_eq_true, List.isEmpty_iff, not_or, Bool.not_eq_true] at hopen
      cases h
      exact ⟨⟨by rw [Step.isFill, haction]; rfl, hopen⟩, haction⟩
  · cases h

/-- A step with a value stays one step. -/
theorem Entry.exists_resolved {e : Entry} (h : e.source.hasValue = true) :
    ∃ r hclosed, e = .resolved r hclosed := by
  cases e with
  | expanded x =>
    obtain ⟨⟨-, hvalue, -⟩, -⟩ := Brief.isOpen_of_openFill? x.isOpen
    cases hvalue.symm.trans h
  | resolved r hclosed => exact ⟨r, hclosed, rfl⟩

theorem Brief.not_isOpen_of_openFill? {step : Step} (h : openFill? step = none) :
    ¬ step.IsOpen := by
  rintro ⟨hfill, hvalue, htargets⟩
  obtain ⟨action, haction⟩ := Option.isSome_iff_exists.1 hfill
  simp [openFill?, haction, hvalue, htargets] at h

theorem targets_of_openFill? {step : Step} {action : Entity} {targets : List Entity}
    (h : Brief.openFill? step = some (action, targets)) : targets = step.targets := by
  unfold Brief.openFill? at h
  split at h
  · split at h
    · cases h
    · cases h
      rfl
  · cases h

theorem runs_of_steps {step : Step} {out : List Step} (h : Gives (b.steps step) s out s') :
    ∃ e : Entry, e.source = step ∧ out = e.steps b ∧ e.Runs b s s' := by
  unfold Brief.steps at h
  obtain ⟨_, s₁, haccepted, hrest⟩ := gives_bind.1 h
  obtain ⟨hcheck, rfl⟩ := gives_checkStep.1 haccepted
  split at hrest
  · rename_i action targets hopen
    obtain ⟨fs, hlength, rfl, hruns⟩ := runs_of_expandFill hrest
    cases targets_of_openFill? hopen
    exact ⟨.expanded ⟨step, action, fs, hopen, hlength⟩, rfl, rfl, hruns⟩
  · rename_i hclosed
    obtain ⟨out', s₂, hresolve, hpure⟩ := gives_bind.1 hrest
    obtain ⟨rfl, rfl⟩ := gives_pure.1 hpure
    obtain ⟨r, rfl, rfl, hruns⟩ := runs_of_resolve hcheck hresolve
    exact ⟨.resolved r hclosed, rfl, rfl, hruns⟩

theorem runs_of_stepsAll {scenario out : List Step} (h : Gives (b.stepsAll scenario) s out s') :
    ∃ entries : List Entry, entries.map Entry.source = scenario ∧
      out = entries.flatMap (Entry.steps b) ∧ Chained (Entry.Runs b) s entries s' := by
  induction scenario generalizing s out with
  | nil =>
    obtain ⟨rfl, rfl⟩ := gives_pure.1 h
    exact ⟨[], rfl, rfl, rfl⟩
  | cons step scenario ih =>
    unfold Brief.stepsAll at h
    obtain ⟨first, s₁, hfirst, hrest⟩ := gives_bind.1 h
    obtain ⟨rest, s₂, hothers, hpure⟩ := gives_bind.1 hrest
    obtain ⟨rfl, rfl⟩ := gives_pure.1 hpure
    obtain ⟨e, rfl, rfl, hruns⟩ := runs_of_steps hfirst
    obtain ⟨entries, rfl, rfl, hrunsAll⟩ := ih hothers
    exact ⟨e :: entries, rfl, rfl, s₁, hruns, hrunsAll⟩

theorem runs_of_oracle {literal : String} {otherwise out : Step}
    (h : Gives (b.oracle literal otherwise) s out s') :
    ∃ c : Check, (c.literal, c.resolved.source) = (literal, otherwise) ∧ out = c.step b ∧
      c.Runs b s s' := by
  unfold Brief.oracle at h
  obtain ⟨_, s₁, haccepted, hrest⟩ := gives_bind.1 h
  obtain ⟨hcheck, rfl⟩ := gives_checkStep.1 haccepted
  obtain ⟨out', s₂, hresolve, hpure⟩ := gives_bind.1 hrest
  obtain ⟨rfl, rfl⟩ := gives_pure.1 hpure
  obtain ⟨r, rfl, rfl, hruns⟩ := runs_of_resolve hcheck hresolve
  exact ⟨⟨literal, r⟩, rfl, rfl, hruns⟩

theorem runs_of_oraclesOf {literal : String} {sources out : List Step}
    (h : Gives (b.oraclesOf literal sources) s out s') :
    ∃ checks : List Check,
      checks.map (fun c => (c.literal, c.resolved.source)) = sources.map (fun o => (literal, o)) ∧
      out = checks.map (·.step b) ∧ Chained (Check.Runs b) s checks s' := by
  induction sources generalizing s out with
  | nil =>
    obtain ⟨rfl, rfl⟩ := gives_pure.1 h
    exact ⟨[], rfl, rfl, rfl⟩
  | cons otherwise sources ih =>
    unfold Brief.oraclesOf at h
    obtain ⟨o, s₁, hfirst, hrest⟩ := gives_bind.1 h
    obtain ⟨os, s₂, hothers, hpure⟩ := gives_bind.1 hrest
    obtain ⟨rfl, rfl⟩ := gives_pure.1 hpure
    obtain ⟨c, hsource, rfl, hruns⟩ := runs_of_oracle hfirst
    obtain ⟨checks, hsources, rfl, hrunsAll⟩ := ih hothers
    exact ⟨c :: checks, by simp [hsource, hsources], rfl, s₁, hruns, hrunsAll⟩

theorem runs_of_oraclesFor {filled : List FilledElement} {out : List Step}
    (h : Gives (b.oraclesFor filled) s out s') :
    ∃ checks : List Check,
      checks.map (fun c => (c.literal, c.resolved.source)) =
        filled.flatMap (fun e => (b.violationSteps e.var).map fun o => (e.literal, o)) ∧
      out = checks.map (·.step b) ∧ Chained (Check.Runs b) s checks s' := by
  induction filled generalizing s out with
  | nil =>
    obtain ⟨rfl, rfl⟩ := gives_pure.1 h
    exact ⟨[], rfl, rfl, rfl⟩
  | cons e filled ih =>
    unfold Brief.oraclesFor at h
    obtain ⟨os, s₁, hfirst, hrest⟩ := gives_bind.1 h
    obtain ⟨os', s₂, hothers, hpure⟩ := gives_bind.1 hrest
    obtain ⟨rfl, rfl⟩ := gives_pure.1 hpure
    obtain ⟨checks, hsources, rfl, hruns⟩ := runs_of_oraclesOf hfirst
    obtain ⟨checks', hsources', rfl, hruns'⟩ := ih hothers
    exact ⟨checks ++ checks', by simp [hsources, hsources'], by simp,
      chained_append.2 ⟨s₁, hruns, hruns'⟩⟩

theorem exists_transcript {plan : Plan} {scenario : List Step} {p : PreTestCase}
    (h : Gives (b.testCase plan scenario) s p s') :
    p.plan = plan ∧
      ∃ t : Transcript b scenario, p.steps = t.steps ∧ p.oracles = t.oracles ∧ t.Runs s s' := by
  unfold Brief.testCase at h
  obtain ⟨steps, s₁, hsteps, hrest⟩ := gives_bind.1 h
  obtain ⟨oracles, s₂, horacles, hpure⟩ := gives_bind.1 hrest
  obtain ⟨rfl, rfl⟩ := gives_pure.1 hpure
  unfold Brief.oracles at horacles
  obtain ⟨s₃, s₄, hget, horacles⟩ := gives_bind.1 horacles
  obtain ⟨rfl, rfl⟩ := gives_get.1 hget
  obtain ⟨entries, hsources, rfl, hruns⟩ := runs_of_stepsAll hsteps
  obtain ⟨checks, hcheckSources, rfl, hruns'⟩ := runs_of_oraclesFor horacles
  exact ⟨rfl, ⟨entries, _, checks, hsources, hcheckSources⟩, rfl, rfl, _, hruns, rfl, hruns'⟩

end TestDesign
