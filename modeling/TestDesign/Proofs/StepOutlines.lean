import Mathlib.Data.List.Forall2
import TestDesign.Proofs.KeptSteps

/-!
# TestDesign.Proofs.StepOutlines

Which part of a pre-test-case its scenario decides. Values and comments differ from plan to plan, but
a step of the scenario always becomes a segment of the same outlines (`Brief.Becomes`): a fill step
that leaves its targets open becomes one step for each of them, any other ordinary step stays one
step, and an external step becomes what is kept for it. So all pre-test-cases of a call have the same
outlines, place by place (`steps_follow_scenario`), and a scenario that leaves room for the lines of
its targets decides that no line is too large (`lines_lt_of_mem_generate`).
-/

namespace TestDesign

open TestDesign.Random Drafting

/-- What plans and streams have no influence on. -/
structure Outline where
  kind : StepKind
  location : Location
  isExternal : Bool
deriving DecidableEq

namespace Step

def outline (s : Step) : Outline := ⟨s.kind, s.location, s.isExternal⟩

/-- The outline of the step for target number `n`. -/
def outlineAt (source : Step) (n : Nat) : Outline where
  kind := if n = 0 then source.kind else .andStep
  location := { source.location with line := source.location.line + n }
  isExternal := source.isExternal

end Step

namespace Brief

variable (b : Brief)

/-- The name of a target in the user interface. -/
def literalOf (target : Entity) : String :=
  if target.kind = .element then
    match b.scope.findElement? target.value with
    | some e => e.literal b.literalCase
    | none => b.guessedLiteral target.value
  else target.value

/-- The step fills target number `n` of a fill step, and nothing else. -/
structure Fills (source : Step) (target : Entity) (n : Nat) (s : Step) : Prop where
  outline : s.outline = source.outlineAt n
  content : ∃ action value comment, source.fillAction? = some action ∧
    s.content = b.fillSentence s.kind action ⟨b.literalOf target, value, comment⟩

/-- What a step of a scenario becomes in a pre-test-case, when external steps are kept as given. -/
inductive Becomes (x : Externals) (source : Step) : List Step → Prop
  | kept {segment : List Step} (external : source.isExternal = true)
    (h : x.kept? source.content = some segment) : Becomes x source segment
  | expanded {segment : List Step} (own : source.isExternal = false) (isOpen : source.IsOpen)
    (h : List.Forall₂ (fun p => b.Fills source p.1 p.2) source.targets.zipIdx segment) :
    Becomes x source segment
  | single {s : Step} (own : source.isExternal = false) (isClosed : ¬ source.IsOpen)
    (h : s.outline = source.outline) : Becomes x source [s]

variable {b}

/-! ## Segments -/

theorem literal_of_fillFreely {s s' : Draft} {literal : String} {reference : Option String}
    {f : Filling} (h : Gives (b.fillFreely literal reference) s f s') : f.literal = literal := by
  obtain ⟨text, s₁, -, hpure⟩ := gives_bind.1 h
  rw [(gives_pure.1 hpure).1]

theorem literal_of_fillElement {s s' : Draft} {step : Step} {target : Entity} {e : Element}
    {f : Filling} (h : Gives (b.fillElement step target e) s f s') :
    f.literal = e.literal b.literalCase := by
  simp only [fillElement] at h
  split at h
  · obtain ⟨v, s₁, -, hrest⟩ := gives_bind.1 h
    obtain ⟨_, s₂, -, hrest⟩ := gives_bind.1 hrest
    obtain ⟨filling, s₃, hfilling, hrest⟩ := gives_bind.1 hrest
    obtain ⟨_, s₄, -, hpure⟩ := gives_bind.1 hrest
    rw [(gives_pure.1 hpure).1, (gives_pure.1 hfilling).1]
  · obtain ⟨case, s₁, -, hrest⟩ := gives_bind.1 h
    obtain ⟨v, s₂, -, hrest⟩ := gives_bind.1 hrest
    obtain ⟨filling, s₃, hfilling, hrest⟩ := gives_bind.1 hrest
    obtain ⟨_, s₄, -, hpure⟩ := gives_bind.1 hrest
    rw [(gives_pure.1 hpure).1, (gives_pure.1 hfilling).1]
  · obtain ⟨filling, s₁, hfilling, hrest⟩ := gives_bind.1 h
    obtain ⟨_, s₂, -, hpure⟩ := gives_bind.1 hrest
    rw [(gives_pure.1 hpure).1]
    exact literal_of_fillFreely hfilling

theorem literal_of_fillTarget {s s' : Draft} {step : Step} {target : Entity} {f : Filling}
    (h : Gives (b.fillTarget step target) s f s') : f.literal = b.literalOf target := by
  unfold fillTarget at h
  unfold literalOf
  by_cases hkind : target.kind = .element
  · rw [if_pos hkind] at h ⊢
    cases helement : b.scope.findElement? target.value with
    | some e =>
      simp only [helement] at h ⊢
      exact literal_of_fillElement h
    | none =>
      simp only [helement] at h ⊢
      obtain ⟨_, s₁, -, hrest⟩ := gives_bind.1 h
      exact literal_of_fillFreely hrest
  · rw [if_neg hkind] at h ⊢
    exact literal_of_fillFreely h

/-- The steps of an expanded fill step fill its targets one after the other. -/
theorem forall₂_fillSteps {source : Step} {action : Entity} {s s' : Draft}
    (haction : source.fillAction? = some action) {targets : List Entity} {fs : List Filling}
    {i : Nat} (hlength : fs.length = targets.length)
    (hruns : Chained (fun s p s' => Gives (b.fillTarget source p.1) s p.2 s') s
      (targets.zip fs) s') :
    List.Forall₂ (fun p => b.Fills source p.1 p.2) (targets.zipIdx i)
      (b.fillSteps source action i fs) := by
  induction targets generalizing fs i s with
  | nil =>
    cases List.length_eq_zero_iff.1 hlength
    exact .nil
  | cons target targets ih =>
    cases fs with
    | nil => cases hlength
    | cons f fs =>
      obtain ⟨s₁, hfill, hrest⟩ := hruns
      have hliteral := literal_of_fillTarget hfill
      rw [List.zipIdx_cons]
      refine .cons ⟨rfl, action, f.value, f.comment, haction, ?_⟩ (ih (by simpa using hlength) hrest)
      rw [← hliteral]

theorem becomes_of_entry {x : Externals} {e : Entry} {s s' : Draft}
    (hown : e.source.isExternal = false) (hruns : e.Runs b s s') :
    b.Becomes x e.source (e.steps b) := by
  cases e with
  | expanded e =>
    obtain ⟨hopen, haction⟩ := isOpen_of_openFill? e.isOpen
    exact .expanded hown hopen (forall₂_fillSteps haction e.length_eq hruns)
  | resolved r hclosed => exact .single hown (not_isOpen_of_openFill? hclosed) rfl

/-! ## Outlines -/

theorem outlines_of_fills {source : Step} {targets : List (Entity × Nat)} {segment : List Step}
    (h : List.Forall₂ (fun p => b.Fills source p.1 p.2) targets segment) :
    segment.map Step.outline = targets.map fun p => source.outlineAt p.2 := by
  induction h with
  | nil => rfl
  | cons hfills _ ih => rw [List.map_cons, List.map_cons, hfills.outline, ih]

/-! ## Lines -/

/-- Lines are words of 64 bits, which this is too large for. -/
def lineLimit : Nat := UInt64.size

variable {x : Externals} {source : Step} {segment : List Step}

theorem Becomes.segment_ne_nil (h : b.Becomes x source segment) (hown : source.isExternal = false) :
    segment ≠ [] := by
  cases h with
  | kept hexternal => simp [hexternal] at hown
  | expanded _ hopen hfills =>
    rintro rfl
    have hlength := hfills.length_eq
    exact hopen.2.2 (List.length_eq_zero_iff.1 (by simpa using hlength))
  | single => exact List.cons_ne_nil _ _

theorem Becomes.lines_eq (h : b.Becomes x source segment) (hown : source.isExternal = false) :
    segment.map (·.location.line) =
      (List.range segment.length).map (source.location.line + ·) := by
  cases h with
  | kept hexternal => simp [hexternal] at hown
  | expanded _ _ hfills =>
    calc segment.map (·.location.line)
        = (segment.map Step.outline).map (·.location.line) := by
          rw [List.map_map]
          rfl
      _ = (source.targets.zipIdx.map Prod.snd).map (source.location.line + ·) := by
          rw [outlines_of_fills hfills, List.map_map, List.map_map]
          rfl
      _ = (List.range segment.length).map (source.location.line + ·) := by
          rw [List.zipIdx_map_snd, ← List.range_eq_range', ← hfills.length_eq, List.length_zipIdx]
  | @single s _ _ houtline =>
    have hline : s.location.line = source.location.line :=
      congrArg (fun o => o.location.line) houtline
    simp [hline]

/-- The lines of a segment are words when its last one is. -/
theorem Becomes.lines_lt_iff (h : b.Becomes x source segment) (hown : source.isExternal = false) :
    (∀ s ∈ segment, s.location.line < lineLimit) ↔
      source.location.line + (segment.length - 1) < lineLimit := by
  have hpos : 0 < segment.length := List.length_pos_iff.2 (h.segment_ne_nil hown)
  have hlines : (∀ line ∈ segment.map (·.location.line), line < lineLimit) ↔
      ∀ n < segment.length, source.location.line + n < lineLimit := by
    simp [h.lines_eq hown]
  rw [List.forall_mem_map] at hlines
  rw [hlines]
  constructor
  · intro hall
    exact hall _ (by omega)
  · intro hlast n hn
    omega

/-- What a step becomes has no more lines than the step has targets. -/
theorem Becomes.lines_lt (h : b.Becomes x source segment) (hown : source.isExternal = false)
    (hfits : source.location.line + (source.targets.length - 1) < lineLimit) :
    ∀ s ∈ segment, s.location.line < lineLimit := by
  have hlength : segment.length - 1 ≤ source.targets.length - 1 := by
    cases h with
    | kept hexternal => simp [hexternal] at hown
    | expanded _ _ hfills =>
      have hlength := hfills.length_eq
      rw [List.length_zipIdx] at hlength
      omega
    | single => exact Nat.zero_le _
  exact (h.lines_lt_iff hown).2 (by omega)

theorem lines_lt_of_mem_flatten {scenario : List Step} {segments : List (List Step)}
    (h : List.Forall₂ (b.Becomes x) scenario segments)
    (hown : ∀ source ∈ scenario, source.isExternal = false)
    (hfits : ∀ source ∈ scenario,
      source.location.line + (source.targets.length - 1) < lineLimit) :
    ∀ s ∈ segments.flatten, s.location.line < lineLimit := by
  induction h with
  | nil => exact List.forall_mem_nil _
  | cons hfirst _ ih =>
    obtain ⟨hown₁, hothers⟩ := List.forall_mem_cons.1 hown
    obtain ⟨hfits₁, hfits'⟩ := List.forall_mem_cons.1 hfits
    intro s hs
    rcases List.mem_append.1 hs with hs | hs
    · exact hfirst.lines_lt hown₁ hfits₁ s hs
    · exact ih hothers hfits' s hs

/-! ## Several plans -/

variable {b' : Brief}

/-- Whatever the plans are, a step becomes segments of the same outlines. -/
theorem Becomes.outlines_eq {segment' : List Step}
    (h : b.Becomes x source segment) (h' : b'.Becomes x source segment') :
    segment.map Step.outline = segment'.map Step.outline := by
  cases h with
  | kept hexternal hkept =>
    cases h' with
    | kept _ hkept' =>
      rw [hkept] at hkept'
      cases hkept'
      rfl
    | expanded hown | single hown => simp [hexternal] at hown
  | expanded hown hopen hfills =>
    cases h' with
    | kept hexternal => simp [hexternal] at hown
    | expanded _ _ hfills' => rw [outlines_of_fills hfills, outlines_of_fills hfills']
    | single _ hclosed => exact absurd hopen hclosed
  | single hown hclosed houtline =>
    cases h' with
    | kept hexternal => simp [hexternal] at hown
    | expanded _ hopen => exact absurd hopen hclosed
    | single _ _ houtline' => simp [houtline, houtline']

theorem outlines_flatten_eq {scenario : List Step} {segments segments' : List (List Step)}
    (h : List.Forall₂ (b.Becomes x) scenario segments)
    (h' : List.Forall₂ (b'.Becomes x) scenario segments') :
    segments.flatten.map Step.outline = segments'.flatten.map Step.outline := by
  induction h generalizing segments' with
  | nil =>
    cases h'
    rfl
  | cons hfirst _ ih =>
    cases h' with
    | cons hfirst' hrest' =>
      simp only [List.flatten_cons, List.map_append]
      rw [hfirst.outlines_eq hfirst', ih hrest']

end Brief

/-! ## Generated test cases -/

theorem Stage.becomes {a : Assembler} {scope : Scope} {survey : Survey} {plan : Plan} {d d' : Desk}
    {x : Externals} {stage : Stage} (hruns : stage.Runs a scope survey plan d d')
    (hkept : ∀ source out, stage = .external source out → x.kept? source.content = some out) :
    (a.brief scope survey (some plan)).Becomes x stage.source
      (stage.steps (a.brief scope survey (some plan))) := by
  cases stage with
  | external source out => exact .kept hruns.1 (hkept source out rfl)
  | own e => exact Brief.becomes_of_entry hruns.1 hruns.2.1

theorem Course.becomes {a : Assembler} {scope : Scope} {survey : Survey} {scenario : List Step}
    {start : Desk} {p : PreTestCase} {x : Externals} (course : Course a scope survey scenario start p)
    (hkept : ∀ source out, Stage.external source out ∈ course.stages →
      x.kept? source.content = some out) :
    List.Forall₂ ((a.brief scope survey (some p.plan)).Becomes x) scenario
      (course.stages.map (Stage.steps (a.brief scope survey (some p.plan)))) := by
  have hstages : List.Forall₂ ((a.brief scope survey (some p.plan)).Becomes x)
      (course.stages.map Stage.source)
      (course.stages.map (Stage.steps (a.brief scope survey (some p.plan)))) := by
    rw [List.forall₂_map_left_iff, List.forall₂_map_right_iff, List.forall₂_same]
    intro stage hstage
    obtain ⟨d, d', hruns⟩ := course.stagesRun.exists_of_mem hstage
    exact Stage.becomes hruns fun source out heq => hkept source out (heq ▸ hstage)
  rwa [course.sources] at hstages

/-- The steps of a pre-test-case are segments, one for each step of its scenario. -/
theorem PreTestCase.Reuses.exists_segments {p : PreTestCase} {scope : Scope} {c : Call}
    {x : Externals} (h : p.Reuses scope c x) :
    ∃ segments, p.steps = segments.flatten ∧
      List.Forall₂ ((c.assembler.brief scope (Survey.of scope c.scenario).1 (some p.plan)).Becomes x)
        c.scenario segments := by
  obtain ⟨i, externals, external, course, hkept⟩ := h
  refine ⟨_, ?_, course.becomes hkept⟩
  rw [course.steps_eq, List.flatMap_def]

namespace Assembler

variable {a : Assembler} {scope : Scope} {scenario : List Step} {planners : List Planner}
  {session : Session} {p : PreTestCase}

/-- The scenario decides how many steps its pre-test-cases have, and the outline of each of them. -/
theorem steps_follow_scenario (hp : p ∈ (a.generate scope scenario planners session).1) :
    let run := a.generate scope scenario planners session
    let b := a.brief scope (Survey.of scope scenario).1 (some p.plan)
    (∃ segments, p.steps = segments.flatten ∧
      List.Forall₂ (b.Becomes run.2.externals) scenario segments) ∧
    ∀ q ∈ run.1, q.steps.map Step.outline = p.steps.map Step.outline := by
  intro run b
  have hreuses {q : PreTestCase} (hq : q ∈ run.1) :=
    (Call.reuses (c := ⟨a, scenario, planners⟩) hq).exists_segments
  obtain ⟨segments, hsteps, hsegments⟩ := hreuses hp
  refine ⟨⟨segments, hsteps, hsegments⟩, ?_⟩
  intro q hq
  obtain ⟨segments', hsteps', hsegments'⟩ := hreuses hq
  rw [hsteps, hsteps']
  exact Brief.outlines_flatten_eq hsegments' hsegments

/-- Where the scenario leaves room for the lines of its targets, the lines that are computed are
words. -/
theorem lines_lt_of_mem_generate (hown : ∀ source ∈ scenario, source.isExternal = false)
    (hfits : ∀ source ∈ scenario,
      source.location.line + (source.targets.length - 1) < Brief.lineLimit)
    (hp : p ∈ (a.generate scope scenario planners session).1) :
    ∀ s ∈ p.steps, s.location.line < Brief.lineLimit := by
  obtain ⟨segments, hsteps, hsegments⟩ :=
    (Call.reuses (c := ⟨a, scenario, planners⟩) hp).exists_segments
  rw [hsteps]
  exact Brief.lines_lt_of_mem_flatten hsegments hown hfits

/-- A step that leaves two targets open. -/
def twoTargets : Step where
  content := "When I fill \x7bUser\x7d and <age>"
  kind := .whenStep
  location := { file := some "a.feature", line := 7, column := 3 }
  entities := [⟨.action, "fill", "fill", 7, none⟩, ⟨.element, "User", "\x7bUser\x7d", 12, none⟩,
    ⟨.literal, "age", "<age>", 23, none⟩]

/-- After signing in, each target is filled on a line of its own. -/
theorem twoTargets_follow_scenario :
    let scenario := [signingIn, twoTargets]
    let run := generate { seed := ⟨"scenaria"⟩ } accounts scenario [] {}
    ∃ p, run.1 = [p] ∧ p.steps.map (·.location.line) = [0, 7, 8] ∧
      ∃ segments, p.steps = segments.flatten ∧
        List.Forall₂ ((brief { seed := ⟨"scenaria"⟩ } accounts (Survey.of accounts scenario).1
          (some p.plan)).Becomes run.2.externals) scenario segments := by
  intro scenario run
  have hlines : run.1.map (fun p => p.steps.map (·.location.line)) = [[0, 7, 8]] := by
    decide +kernel
  obtain ⟨p, hp, hline⟩ := List.map_eq_singleton_iff.1 hlines
  have hmem : p ∈ run.1 := by
    rw [hp]
    exact List.mem_cons_self
  exact ⟨p, hp, hline, (steps_follow_scenario hmem).1⟩

/-- A fill step that names no target. -/
def fillingForm : Step where
  content := "When I fill the form"
  kind := .whenStep
  location := {}
  entities := [⟨.action, "fill", "fill", 7, none⟩]

/-- An ordinary fill step that gives no value stays a step when it has no targets at all. -/
theorem fill_without_targets_stays :
    ¬ ∀ (a : Assembler) (scope : Scope) (source : Step), source.isExternal = false →
      source.isFill = true → source.hasValue = false →
        ∀ p ∈ (a.generate scope [source] [] {}).1, p.steps.length = source.targets.length := by
  intro h
  have hlength : (generate { seed := ⟨"scenaria"⟩ } accounts [fillingForm] [] {}).1.map
      (fun p => p.steps.length) = [1] := by
    decide +kernel
  obtain ⟨p, hp, hone⟩ := List.map_eq_singleton_iff.1 hlength
  have hnone := h { seed := ⟨"scenaria"⟩ } accounts fillingForm rfl rfl rfl p
    (by rw [hp]; exact List.mem_cons_self)
  rw [hone] at hnone
  exact absurd hnone (by decide)

end Assembler

end TestDesign
