import TestDesign.Proofs.Transcript

/-!
# TestDesign.Proofs.ValueEvents

For a variable the transcript of a test case is a list of events: an expanded fill step types a
value, a reference to the value shows a text. `Moves` says what an event can be after the events
before it, and what is remembered then; `showsLast_of_moves` and `showsCommon_of_moves` say what
follows for all references of a run.
-/

namespace TestDesign

/-- What happens to the value of a variable. -/
inductive Event where
  /-- A fill step that leaves the value open gets the value. -/
  | typed (v : Value)
  /-- The text is written for a reference to the value of the element. -/
  | shown (x : Element) (text : String)

namespace Event

def value? : Event → Option Value
  | typed v => some v
  | shown _ _ => none

def element? : Event → Option Element
  | typed _ => none
  | shown x _ => some x

end Event

/-- The element that an entity names, if it has the variable. -/
def Scope.elementOf? (scope : Scope) (var : String) (e : Entity) : Option Element :=
  (scope.findElement? e.value).filter (·.variableName = var)

/-- The event of a target that is filled. -/
def typedEvents (scope : Scope) (var : String) (target : Entity) (f : Brief.Filling) :
    List Event :=
  if target.kind = .element then (scope.elementOf? var target).toList.map fun _ => .typed f.value
  else []

/-- The event of an entity that is replaced. -/
def shownEvents (scope : Scope) (var : String) (e : Entity) (r : Brief.Replacement) :
    List Event :=
  if e.kind = .property ∧ Brief.refersToValue e then
    (scope.elementOf? var e).toList.map fun x => .shown x r.text
  else []

def Expanded.events (scope : Scope) (var : String) (x : Expanded) : List Event :=
  (x.source.targets.zip x.fillings).flatMap fun p => typedEvents scope var p.1 p.2

def Resolved.events (scope : Scope) (var : String) (r : Resolved) : List Event :=
  (r.source.entities.zip r.replacements).flatMap fun p => shownEvents scope var p.1 p.2

def Entry.events (scope : Scope) (var : String) : Entry → List Event
  | expanded x => x.events scope var
  | resolved x _ => x.events scope var

/-- The events of a variable, those of the steps before those of the checks. -/
def Transcript.events {b : Brief} {scenario : List Step} (t : Transcript b scenario)
    (var : String) : List Event :=
  t.entries.flatMap (Entry.events b.scope var) ++
    t.checks.flatMap fun c => c.resolved.events b.scope var

/-! ## What references show -/

/-- The last value that was typed. -/
def lastTyped (es : List Event) : Option Value := (es.filterMap Event.value?).getLast?

/-- The elements that were referred to. -/
def elementsShown (es : List Event) : List Element := es.filterMap Event.element?

/-- Whether the properties of the element are inconsistent. -/
def Brief.isBroken (b : Brief) (x : Element) : Bool := !(b.constraintsOf x).isOk

/-- A reference after some value was typed shows the last one. -/
def ShowsLast (es : List Event) : Prop :=
  ∀ before x text after, es = before ++ .shown x text :: after →
    ∀ v, lastTyped before = some v → text = v.inSentence

/-- References before any value is typed show a common text, but for those that come before the
first one to an element whose properties are consistent, which show the empty text. -/
def ShowsCommon (b : Brief) (es : List Event) : Prop :=
  ∃ common, ∀ before x text after, es = before ++ .shown x text :: after →
    lastTyped before = none →
      text = if (x :: elementsShown before).all b.isBroken then Brief.blankText else common

variable {b : Brief}

/-- An event, with what is remembered for the variable before and after it. -/
inductive Moves (b : Brief) : Option Value → Event → Option Value → Prop
  | typed (known : Option Value) (v : Value) : Moves b known (.typed v) (some v)
  | known (x : Element) (v : Value) : Moves b (some v) (.shown x v.inSentence) (some v)
  | drawn (x : Element) (v : Value) (h : b.isBroken x = false) :
    Moves b none (.shown x v.inSentence) (some v)
  | blank (x : Element) (h : b.isBroken x = true) : Moves b none (.shown x Brief.blankText) none

theorem lastTyped_typed (v : Value) (es : List Event) :
    lastTyped (.typed v :: es) = some ((lastTyped es).getD v) := by
  simp [lastTyped, Event.value?, List.getLast?_cons]

/-- Without typing, what is remembered stays. -/
theorem eq_of_lastTyped_none {v : Value} {k : Option Value} {es : List Event}
    (h : Chained (Moves b) (some v) es k) (hn : lastTyped es = none) : k = some v := by
  induction es with
  | nil => exact h
  | cons e es ih =>
    obtain ⟨k₁, he, hes⟩ := h
    cases he with
    | typed _ w => simp [lastTyped_typed] at hn
    | known x => exact ih hes hn

/-- After typing, the last typed value is remembered. -/
theorem eq_of_lastTyped_some {v : Value} {k k' : Option Value} {es : List Event}
    (h : Chained (Moves b) k es k') (hv : lastTyped es = some v) : k' = some v := by
  induction es generalizing k with
  | nil => cases hv
  | cons e es ih =>
    obtain ⟨k₁, he, hes⟩ := h
    cases he with
    | typed _ w =>
      rw [lastTyped_typed] at hv
      cases hlast : lastTyped es with
      | none =>
        rw [hlast] at hv
        cases hv
        exact eq_of_lastTyped_none hes hlast
      | some u =>
        rw [hlast] at hv
        cases hv
        exact ih hes hlast
    | known | drawn | blank => exact ih hes hv

theorem showsLast_of_moves {k k' : Option Value} {es : List Event} (h : Chained (Moves b) k es k') :
    ShowsLast es := by
  rintro before x text after rfl v hv
  obtain ⟨k₁, hbefore, k₂, hshown, -⟩ := chained_append.1 h
  cases eq_of_lastTyped_some hbefore hv
  cases hshown
  rfl

theorem showsCommon_of_moves {k' : Option Value} {es : List Event}
    (h : Chained (Moves b) none es k') : ShowsCommon b es := by
  -- Only a blank reference leaves nothing remembered, so only there the induction goes on.
  induction es with
  | nil =>
    refine ⟨"", ?_⟩
    intro before x text after hes
    simp at hes
  | cons e es ih =>
    obtain ⟨k₁, he, hes⟩ := h
    cases he with
    | typed _ v =>
      refine ⟨"", ?_⟩
      intro before x text after hsplit hn
      rcases List.cons_eq_append_iff.1 hsplit with ⟨-, hcons⟩ | ⟨before', rfl, -⟩
      · cases hcons
      · simp [lastTyped_typed] at hn
    | blank y hy =>
      obtain ⟨common, hcommon⟩ := ih hes
      refine ⟨common, ?_⟩
      intro before x text after hsplit hn
      rcases List.cons_eq_append_iff.1 hsplit with ⟨rfl, hcons⟩ | ⟨before', rfl, hrest⟩
      · cases hcons
        simp [elementsShown, hy]
      · rw [hcommon before' x text after hrest hn]
        simp [elementsShown, Event.element?, hy]
    | drawn y v hy =>
      refine ⟨v.inSentence, ?_⟩
      intro before x text after hsplit hn
      rcases List.cons_eq_append_iff.1 hsplit with ⟨rfl, hcons⟩ | ⟨before', rfl, hrest⟩
      · cases hcons
        simp [hy]
      · subst hrest
        obtain ⟨k₁, hbefore, k₂, hshown, -⟩ := chained_append.1 hes
        cases eq_of_lastTyped_none hbefore hn
        cases hshown
        simp [elementsShown, Event.element?, hy]

end TestDesign
