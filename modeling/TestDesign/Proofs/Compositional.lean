import TestDesign.Proofs.SpliceLoop

/-!
# TestDesign.Proofs.Compositional

Properties of parts of the assembly that come down to the operations on a draft. When such a property
holds of the single operations and of every sequence of parts that have it, then it holds of what a
step becomes (`Compositional.steps`) and of the checks of a plan (`Compositional.oracles`).
-/

namespace TestDesign

open TestDesign.Random Drafting

/-- After a warning the test case goes on with a substitute, after an error there is none. -/
def Note.IsGraded : Note → Prop
  | .error d => d.isRecoverable = false
  | .warning d => d.isRecoverable = true

/-- Holds of every part of the assembly that is made of parts with the property, and of the operations
on a draft; marking a filled element apart. Of a draft only the values and the filled elements are
read. Nothing is given up for a recoverable reason, and what is noted is noted as what it is. -/
structure Compositional (P : ∀ ⦃α : Type⦄, Drafting α → Prop) : Prop where
  pure {α : Type} (x : α) : P (pure x : Drafting α)
  throw {α : Type} (e : Diagnostic) (h : e.isRecoverable = false) : P (throw e : Drafting α)
  bind {α β : Type} {m : Drafting α} {f : α → Drafting β} (hm : P m) (hf : ∀ x, P (f x)) :
    P (m >>= f)
  get {α : Type} {f : Draft → Drafting α}
    (hsame : ∀ s t : Draft, t.values = s.values → t.filled = s.filled → f t = f s)
    (hf : ∀ s, P (f s)) : P (get >>= f)
  draw {α : Type} (d : Draw α) : P (draw d)
  note (n : Note) (h : n.IsGraded) : P (note n)
  remember (var : String) (v : Value) : P (remember var v)

namespace Compositional

variable {P : ∀ ⦃α : Type⦄, Drafting α → Prop} {b : Brief} {step : Step}

theorem warn (h : Compositional P) {d : Diagnostic} (hd : d.isRecoverable = true) : P (warn d) :=
  h.note (.warning d) hd

/-! ## Filling -/

theorem fillFreely (h : Compositional P) (literal : String) (reference : Option String) :
    P (b.fillFreely literal reference) := by
  unfold Brief.fillFreely
  exact h.bind (h.draw _) fun _ => h.pure _

theorem valueFor (h : Compositional P) (var : String) (case : DataCase) (c : Constraints) :
    P (b.valueFor step var case c) := by
  unfold Brief.valueFor
  refine h.bind (h.draw _) ?_
  intro x
  cases x with
  | ok v => exact h.pure v
  | error fault => exact h.throw _ rfl

theorem fillElement (h : Compositional P) (hmark : ∀ e, P (markFilled e)) (target : Entity)
    (x : Element) : P (b.fillElement step target x) := by
  have hremember (f : Brief.Filling) : P (do Drafting.remember x.variableName f.value; Pure.pure f) :=
    h.bind (h.remember _ _) fun _ => h.pure f
  simp only [Brief.fillElement]
  split
  · refine h.bind (h.valueFor _ _ _) fun v => ?_
    exact h.bind (hmark _) fun _ => hremember _
  · refine h.bind (h.draw _) fun case => ?_
    exact h.bind (h.valueFor _ _ _) fun v => hremember _
  · exact h.bind (h.fillFreely _ _) hremember

theorem fillTarget (h : Compositional P) (hmark : ∀ e, P (markFilled e)) (target : Entity) :
    P (b.fillTarget step target) := by
  unfold Brief.fillTarget
  split
  · split
    · exact h.fillElement hmark target _
    · exact h.bind (h.warn rfl) fun _ => h.fillFreely _ _
  · exact h.fillFreely _ _

theorem expandFill (h : Compositional P) (hmark : ∀ e, P (markFilled e)) (action : Entity) (i : Nat)
    (targets : List Entity) : P (b.expandFill step action i targets) := by
  induction targets generalizing i with
  | nil => exact h.pure _
  | cons target targets ih =>
    unfold Brief.expandFill
    refine h.bind (h.fillTarget hmark target) fun f => ?_
    exact h.bind (ih (i + 1)) fun _ => h.pure _

/-! ## Replacing -/

theorem replaceValue (h : Compositional P) (x : Element) : P (b.replaceValue step x) := by
  unfold Brief.replaceValue
  refine h.get ?_ fun s => ?_
  · intro s t hvalues _
    simp only [hvalues]
  · split
    · exact h.pure _
    · split
      · exact h.bind (h.note _ rfl) fun _ => h.pure _
      · refine h.bind (h.valueFor _ _ _) fun v => ?_
        exact h.bind (h.remember _ _) fun _ => h.pure _

theorem replace (h : Compositional P) (e : Entity) : P (b.replace step e) := by
  have hwarn {d : Diagnostic} (hd : d.isRecoverable = true) (r : Brief.Replacement) :
      P (do Drafting.warn d; Pure.pure r) :=
    h.bind (h.warn hd) fun _ => h.pure r
  unfold Brief.replace
  split
  · unfold Brief.replaceConstant
    split
    · exact h.pure _
    · exact hwarn rfl _
  · unfold Brief.replaceElement
    split
    · exact h.pure _
    · exact hwarn rfl _
  · unfold Brief.replaceProperty
    split
    · split
      · exact h.replaceValue _
      · exact hwarn rfl _
    · exact hwarn rfl _
  all_goals exact h.pure _

theorem rewriteEntities (h : Compositional P) (w : Brief.Rewriting) (es : List Entity) :
    P (b.rewriteEntities step w es) := by
  induction es generalizing w with
  | nil => exact h.pure _
  | cons e es ih =>
    unfold Brief.rewriteEntities
    rw [Brief.rewriteEntity_eq]
    exact h.bind (h.bind (h.replace e) fun _ => h.pure _) ih

theorem rememberAll (h : Compositional P) (v : Value) (vars : List String) :
    P (Brief.rememberAll v vars) := by
  induction vars with
  | nil => exact h.pure _
  | cons var vars ih =>
    unfold Brief.rememberAll
    exact h.bind (h.remember _ _) fun _ => ih

theorem resolve (h : Compositional P) : P (b.resolve step) := by
  unfold Brief.resolve
  refine h.bind (h.rewriteEntities _ _) fun w => ?_
  simp only
  split
  · split
    · exact h.bind (h.rememberAll _ _) fun _ => h.pure _
    · exact h.pure _
  · exact h.pure _

/-! ## Steps and checks -/

variable (b) (step)

theorem checkStep (h : Compositional P) : P (b.checkStep step) := by
  unfold Brief.checkStep
  split
  · exact h.pure _
  · exact h.throw _ rfl

theorem steps (h : Compositional P) (hmark : ∀ e, P (markFilled e)) : P (b.steps step) := by
  unfold Brief.steps
  refine h.bind (h.checkStep b step) fun _ => ?_
  split
  · exact h.expandFill hmark _ _ _
  · exact h.bind h.resolve fun _ => h.pure _

theorem oraclesOf (h : Compositional P) (literal : String) (otherwise : List Step) :
    P (b.oraclesOf literal otherwise) := by
  induction otherwise with
  | nil => exact h.pure _
  | cons o os ih =>
    have horacle : P (b.oracle literal o) := by
      unfold Brief.oracle
      refine h.bind (h.checkStep b o) fun _ => ?_
      exact h.bind h.resolve fun _ => h.pure _
    unfold Brief.oraclesOf
    exact h.bind horacle fun _ => h.bind ih fun _ => h.pure _

theorem oraclesFor (h : Compositional P) (filled : List FilledElement) :
    P (b.oraclesFor filled) := by
  induction filled with
  | nil => exact h.pure _
  | cons e es ih =>
    unfold Brief.oraclesFor
    refine h.bind (h.oraclesOf b _ _) fun _ => ?_
    exact h.bind ih fun _ => h.pure _

theorem oracles (h : Compositional P) : P b.oracles := by
  unfold Brief.oracles
  refine h.get ?_ fun s => h.oraclesFor b s.filled
  intro s t _ hfilled
  rw [hfilled]

end Compositional

end TestDesign
