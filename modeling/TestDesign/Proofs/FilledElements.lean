import TestDesign.Proofs.Compositional
import TestDesign.Proofs.Courses
import TestDesign.Proofs.PlannedCases

/-!
# TestDesign.Proofs.FilledElements

Which elements get their values from a plan. A step of the assembly marks the elements that it fills
by the plan and no others (`filled_of_fillTarget`, `keeps_filled`), so after a whole scenario the
marked elements are the first ones of each planned variable among the targets that ordinary fill
steps leave open, in the order of these steps (`Course.filled_eq`).
-/

namespace TestDesign

open TestDesign.Random Drafting

/-! ## What a computation leaves as it is -/

/-- Whether the computation succeeds or fails, it does not change what `view` shows of the state. -/
def Keeps {σ ρ α : Type} (view : σ → ρ) (m : ExceptT Diagnostic (StateM σ) α) : Prop :=
  ∀ s, view (m s).2 = view s

section Keeps

variable {σ ρ α β : Type} {view : σ → ρ} {m : ExceptT Diagnostic (StateM σ) α}
  {f : α → ExceptT Diagnostic (StateM σ) β}

theorem keeps_pure (x : α) : Keeps view (pure x) := fun _ => rfl

theorem keeps_throw (e : Diagnostic) :
    Keeps view (throw e : ExceptT Diagnostic (StateM σ) α) := fun _ => rfl

theorem keeps_bind (hm : Keeps view m) (hf : ∀ x, Keeps view (f x)) : Keeps view (m >>= f) :=
  fun s => preserves_bind (P := fun s' => view s' = view s) (fun s' h => (hm s').trans h)
    (fun x s' h => (hf x s').trans h) s rfl

theorem Keeps.of_run (h : Keeps view m) {s s' : σ} {x : Except Diagnostic α}
    (hrun : m s = (x, s')) : view s' = view s := by
  have hs := h s
  rwa [hrun] at hs

/-- Nothing but marking changes the filled elements. -/
theorem keeps_filled :
    Compositional fun {α} (m : Drafting α) => Keeps Draft.filled m where
  pure := keeps_pure
  throw e _ := keeps_throw e
  bind := keeps_bind
  get _ hf := keeps_bind (fun _ => rfl) hf
  draw _ _ := rfl
  note _ _ _ := rfl
  remember _ _ _ := rfl

end Keeps

/-- What each thing of a chain does to a part of the state, all of them do one after the other. -/
theorem Chained.foldl {σ ρ ε : Type} {R : σ → ε → σ → Prop} (view : σ → ρ) (g : ρ → ε → ρ)
    {es : List ε} {s s' : σ} (h : Chained R s es s')
    (hstep : ∀ s e s', R s e s' → view s' = g (view s) e) : view s' = es.foldl g (view s) := by
  induction es generalizing s with
  | nil => exact congrArg view h
  | cons e es ih =>
    obtain ⟨s₁, he, hes⟩ := h
    rw [ih hes, hstep s e s₁ he]
    rfl

theorem Chained.keeps {σ ρ ε : Type} {R : σ → ε → σ → Prop} {view : σ → ρ} {es : List ε}
    {s s' : σ} (h : Chained R s es s') (hstep : ∀ s e s', R s e s' → view s' = view s) :
    view s' = view s := by
  induction es generalizing s with
  | nil => exact congrArg view h
  | cons e es ih =>
    obtain ⟨s₁, he, hes⟩ := h
    exact (ih hes).trans (hstep s e s₁ he)

/-! ## What steps fill -/

/-- The element that an entity names, if it names one. -/
def Scope.named? (scope : Scope) (e : Entity) : Option Element :=
  if e.kind = .element then scope.findElement? e.value else none

/-- The elements for which an ordinary fill step leaves the value open, in order. -/
def Step.leftOpen (scope : Scope) (step : Step) : List Element :=
  if step.isExternal || step.hasValue then [] else Survey.filledBy scope step

theorem Step.isExternal_of_mem_leftOpen {scope : Scope} {step : Step} {x : Element}
    (h : x ∈ step.leftOpen scope) : step.isExternal = false := by
  cases hexternal : step.isExternal with
  | true => simp [leftOpen, hexternal] at h
  | false => rfl

theorem Step.filterMap_named? (scope : Scope) (step : Step) :
    step.targets.filterMap scope.named? =
      (step.entitiesOf .element).filterMap fun e => scope.findElement? e.value := by
  unfold Step.targets Step.entitiesOf
  rw [List.filterMap_filter, List.filterMap_filter]
  refine congrArg (List.filterMap · step.entities) (funext fun e => ?_)
  by_cases hkind : e.kind = .element
  · simp [Scope.named?, hkind, EntityKind.isTarget]
  · simp [Scope.named?, hkind]

theorem Step.leftOpen_of_openFill? {scope : Scope} {step : Step} {action : Entity}
    {targets : List Entity} (hown : step.isExternal = false)
    (h : Brief.openFill? step = some (action, targets)) :
    step.leftOpen scope = step.targets.filterMap scope.named? := by
  obtain ⟨⟨hfill, hvalue, -⟩, -⟩ := Brief.isOpen_of_openFill? h
  simp [leftOpen, hown, hvalue, Survey.filledBy, hfill, filterMap_named?]

theorem Step.leftOpen_of_closed {scope : Scope} {step : Step}
    (h : Brief.openFill? step = none) : step.leftOpen scope = [] := by
  have hclosed := Brief.not_isOpen_of_openFill? h
  unfold leftOpen Survey.filledBy
  split
  · rfl
  · split
    · rename_i hown hfill
      simp only [Bool.or_eq_true, not_or, Bool.not_eq_true] at hown
      have htargets : step.targets = [] :=
        Decidable.not_not.1 fun hne => hclosed ⟨hfill, hown.2, hne⟩
      rw [← filterMap_named?, htargets]
      rfl
    · rfl

/-! ## Marking -/

namespace Brief

variable (b : Brief)

/-- Whether the plan has a case for the element, and the survey its constraints. -/
def isPlanned (x : Element) : Bool :=
  (b.survey.constraints.get? x.variableName).isSome &&
    (b.plan.bind (·.case? x.variableName)).isSome

/-- The mark of an element. -/
def markOf (x : Element) : FilledElement := ⟨x.variableName, x.literal b.literalCase⟩

/-- Marks a planned element, unless its variable is marked. -/
def mark (filled : List FilledElement) (x : Element) : List FilledElement :=
  if b.isPlanned x && !filled.any (·.var = x.variableName) then filled ++ [b.markOf x] else filled

variable {b} {s s' : Draft} {step : Step}

theorem filled_of_markFilled {e : FilledElement} {u : Unit} (h : Gives (markFilled e) s u s') :
    s'.filled = if s.filled.any (·.var = e.var) then s.filled else s.filled ++ [e] := by
  cases h
  dsimp only
  split <;> rfl

theorem filled_of_fillElement {target : Entity} {x : Element} {f : Filling}
    (h : Gives (b.fillElement step target x) s f s') : s'.filled = b.mark s.filled x := by
  have hremember (f' : Filling) : Keeps Draft.filled
      (do remember x.variableName f'.value; pure f' : Drafting Filling) :=
    keeps_bind (keeps_filled.remember _ _) fun _ => keeps_pure _
  simp only [fillElement] at h
  split at h
  · rename_i c planned hc hp
    obtain ⟨v, s₁, hv, hrest⟩ := gives_bind.1 h
    obtain ⟨_, s₂, hmark, hrest⟩ := gives_bind.1 hrest
    have hkept : s₁.filled = s.filled := (keeps_filled.valueFor _ _ _).of_run hv
    rw [(hremember _).of_run hrest, filled_of_markFilled hmark, hkept]
    simp only [mark, isPlanned, markOf, hc, hp, Option.isSome_some, Bool.and_self, Bool.true_and]
    cases s.filled.any (·.var = x.variableName) <;> rfl
  · rename_i hp
    obtain ⟨case, s₁, hcase, hrest⟩ := gives_bind.1 h
    obtain ⟨v, s₂, hv, hrest⟩ := gives_bind.1 hrest
    have hdrawn : s₁.filled = s.filled := by
      cases hcase
      rfl
    have hkept : s₂.filled = s₁.filled := (keeps_filled.valueFor _ _ _).of_run hv
    rw [(hremember _).of_run hrest, hkept, hdrawn]
    simp [mark, isPlanned, hp]
  · rename_i hc
    obtain ⟨f', s₁, hfill, hrest⟩ := gives_bind.1 h
    have hkept : s₁.filled = s.filled := (keeps_filled.fillFreely _ _).of_run hfill
    rw [(hremember _).of_run hrest, hkept]
    simp [mark, isPlanned, hc]

/-- Filling a target marks the element that it names. -/
theorem filled_of_fillTarget {target : Entity} {f : Filling}
    (h : Gives (b.fillTarget step target) s f s') :
    s'.filled =
      match b.scope.named? target with
      | some x => b.mark s.filled x
      | none => s.filled := by
  by_cases hkind : target.kind = .element
  · cases hx : b.scope.findElement? target.value with
    | some x =>
      simp only [fillTarget, hkind, if_true, hx] at h
      simp only [Scope.named?, hkind, if_true, hx]
      exact filled_of_fillElement h
    | none =>
      simp only [fillTarget, hkind, if_true, hx] at h
      simp only [Scope.named?, hkind, if_true, hx]
      exact (keeps_bind (keeps_filled.warn rfl) fun _ => keeps_filled.fillFreely _ _).of_run h
  · rw [fillTarget, if_neg hkind] at h
    rw [Scope.named?, if_neg hkind]
    exact (keeps_filled.fillFreely _ _).of_run h

/-! ### Replacing marks nothing -/

theorem keeps_typeGiven (rs : List Replacement) : Keeps Draft.filled (typeGiven step rs) := by
  unfold typeGiven
  split
  · split
    · exact keeps_filled.rememberAll _ _
    · exact keeps_pure _
  · exact keeps_pure _

end Brief

/-! ## Marks of a whole scenario -/

variable {b : Brief} {s s' : Draft}

theorem Expanded.filled_eq {x : Expanded} (h : x.Runs b s s') :
    s'.filled = (x.source.targets.filterMap b.scope.named?).foldl b.mark s.filled := by
  have hfold := Chained.foldl Draft.filled
    (fun fs p => match b.scope.named? p.1 with | some x => b.mark fs x | none => fs) h
    fun _ _ _ hfill => Brief.filled_of_fillTarget hfill
  have htargets : (x.source.targets.zip x.fillings).map (·.1) = x.source.targets :=
    List.map_fst_zip (Nat.le_of_eq x.length_eq.symm)
  rw [hfold, ← htargets, List.foldl_filterMap, List.foldl_map, htargets]
  refine congrArg (List.foldl · s.filled _) (funext fun fs => funext fun p => ?_)
  cases b.scope.named? p.1 <;> rfl

theorem Resolved.filled_eq {r : Resolved} (h : r.Runs b s s') : s'.filled = s.filled := by
  obtain ⟨s₁, hruns, hgiven⟩ := h
  have hreplaced : s₁.filled = s.filled :=
    Chained.keeps hruns fun _ _ _ hreplace => (keeps_filled.replace _).of_run hreplace
  exact ((Brief.keeps_typeGiven _).of_run hgiven).trans hreplaced

theorem Entry.filled_eq {e : Entry} (hown : e.source.isExternal = false) (h : e.Runs b s s') :
    s'.filled = (e.source.leftOpen b.scope).foldl b.mark s.filled := by
  cases e with
  | expanded x =>
    rw [Step.leftOpen_of_openFill? hown x.isOpen]
    exact Expanded.filled_eq h
  | resolved r hclosed =>
    rw [Entry.source, Step.leftOpen_of_closed hclosed]
    exact Resolved.filled_eq h

namespace Assembler

variable {a : Assembler} {scope : Scope} {survey : Survey} {plan : Plan}

theorem filled_of_externalStep {step : Step} {out : List Step} {desk desk' : Desk}
    (h : a.externalStep scope survey step desk = (.ok out, desk')) :
    desk'.draft.filled = desk.draft.filled := by
  cases externalOutcome a scope survey h with
  | again => rfl
  | made => rfl

end Assembler

theorem Stage.filled_eq {a : Assembler} {scope : Scope} {survey : Survey} {plan : Plan}
    {d d' : Desk} {stage : Stage} (h : stage.Runs a scope survey plan d d') :
    d'.draft.filled = (stage.source.leftOpen scope).foldl
      (a.brief scope survey (some plan)).mark d.draft.filled := by
  cases stage with
  | external source out =>
    obtain ⟨hexternal, hruns⟩ := h
    have hnone : source.leftOpen scope = [] := by simp [Step.leftOpen, hexternal]
    rw [Stage.source, hnone]
    exact Assembler.filled_of_externalStep hruns
  | own e =>
    obtain ⟨hown, hruns, -⟩ := h
    exact Entry.filled_eq hown hruns

/-- The elements marked by a whole scenario. -/
theorem Course.filled_eq {a : Assembler} {scope : Scope} {survey : Survey} {scenario : List Step}
    {start : Desk} {p : PreTestCase} (c : Course a scope survey scenario start p) :
    c.desk.draft.filled = (scenario.flatMap (Step.leftOpen scope)).foldl
      (a.brief scope survey (some p.plan)).mark start.draft.filled := by
  have hfold := Chained.foldl (fun d => d.draft.filled)
    (fun fs stage => (stage.source.leftOpen scope).foldl
      (a.brief scope survey (some p.plan)).mark fs) c.stagesRun
    fun _ _ _ hrun => Stage.filled_eq hrun
  have hsources := congrArg (List.flatMap (Step.leftOpen scope)) c.sources
  rw [hfold, ← hsources, List.foldl_flatMap, List.foldl_map]

end TestDesign
