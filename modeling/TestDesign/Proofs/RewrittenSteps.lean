import Mathlib.Data.List.Basic
import TestDesign.Proofs.ReadableFills
import TestDesign.Proofs.ValueReferences

/-!
# TestDesign.Proofs.RewrittenSteps

The sentence and the comment of a step that stays one step.

`Spliced` says when a text is a sentence with other texts in the places of its entities: what stands
between the entities is copied, from the byte where one ends to the byte where the next one begins.
`Brief.textFor` says what is written for an entity, given the values that are remembered.
`rewritten_sentence_is_spliced`: the sentence that comes out is the one that went in, with these texts
in the places of its entities; without references, the whole step comes out as it went in.
-/

namespace TestDesign

open Drafting Text

/-- The second text is what follows the byte `start` of a sentence, with texts in the places of the
entities. -/
inductive Spliced : List Char → Nat → List (Entity × String) → List Char → Prop where
  | tail (cs : List Char) (start : Nat) : Spliced cs start [] cs
  | entity {gap rest out : List Char} {start : Nat} {e : Entity} {text : String}
      {ps : List (Entity × String)} (hposition : e.position = start + byteLength gap)
      (hrest : Spliced rest e.stop ps out) :
      Spliced (gap ++ e.text.toList ++ rest) start ((e, text) :: ps) (gap ++ text.toList ++ out)

theorem Spliced.of_cut {cs : List Char} {start : Nat} {es : List Entity} {g : Segments}
    (h : Segments.cut cs start es = .ok g) (texts : List String)
    (hlength : texts.length = es.length) :
    Spliced cs start (es.zip texts)
      ((g.parts.zip texts).flatMap (fun p => p.1.1 ++ p.2.toList) ++ g.tail) := by
  induction es generalizing cs start g texts with
  | nil =>
    cases h
    exact .tail cs start
  | cons e es ih =>
    obtain ⟨text, texts, rfl⟩ := List.exists_cons_of_length_eq_add_one hlength
    obtain ⟨gap, rest, g', rfl, hposition, hcut, rfl⟩ := Segments.cut_cons h
    have hrest := ih hcut texts (Nat.add_right_cancel hlength)
    have hspliced : Spliced _ start ((e, text) :: es.zip texts) _ := .entity hposition hrest
    simpa using hspliced

variable {b : Brief} {s s' : Draft} {step : Step}

/-! ## What is written for an entity -/

namespace Brief

/-- What is written for an entity when the given values are remembered: the value of a constant, the
name of an element, the remembered value of the element of a reference, and the entity itself where
it is none of these. -/
def textFor (b : Brief) (values : Keyed Value) (e : Entity) : String :=
  match e.kind with
  | .constant =>
    match b.scope.findConstant? e.value with
    | some c => c.value.inSentence
    | none => blankText
  | .element =>
    match b.scope.findElement? e.value with
    | some x => literalReference (x.literal b.literalCase)
    | none => literalReference (b.guessedLiteral e.value)
  | .property =>
    if refersToValue e then
      match (b.scope.findElement? e.value).bind fun x => values.get? x.variableName with
      | some v => v.inSentence
      | none => blankText
    else e.text
  | .action | .literal | .value | .number | .state => e.text

end Brief

/-- The entities that the comment of a step mentions. -/
def EntityKind.isMentioned : EntityKind → Bool
  | constant | element => true
  | action | literal | property | value | number | state => false

/-- The replacement of an entity that was written with the given values remembered. -/
structure Written (b : Brief) (values : Keyed Value) (e : Entity) (r : Brief.Replacement) :
    Prop where
  text : r.text = b.textFor values e
  mention : r.mention = if e.kind.isMentioned then some e.text else none

theorem written_of_replaceValue {x : Element} {e : Entity} {r : Brief.Replacement}
    (h : Gives (b.replaceValue step x) s r s') (hkind : e.kind = .property)
    (hrefers : Brief.refersToValue e) (hx : b.scope.findElement? e.value = some x) :
    Written b s'.values e r := by
  have hmoves := (moves_of_replaceValue h rfl).1
  constructor
  · simp only [Brief.textFor, hkind, hrefers, if_true, hx, Option.bind_some]
    generalize s.values.get? x.variableName = before at hmoves
    generalize s'.values.get? x.variableName = after at hmoves
    generalize r.text = text at hmoves
    cases hmoves with
    | known | drawn | blank => rfl
  · rw [hkind]
    unfold Brief.replaceValue at h
    obtain ⟨s₀, s₁, hget, hrest⟩ := gives_bind.1 h
    split at hrest
    · rw [(gives_pure.1 hrest).1]
      rfl
    · split at hrest
      · obtain ⟨_, s₂, -, hpure⟩ := gives_bind.1 hrest
        rw [(gives_pure.1 hpure).1]
        rfl
      · obtain ⟨v, s₂, -, hrest⟩ := gives_bind.1 hrest
        obtain ⟨_, s₃, -, hpure⟩ := gives_bind.1 hrest
        rw [(gives_pure.1 hpure).1]
        rfl

/-- What a reference shows is what is remembered right after it was written. -/
theorem written_of_replace {e : Entity} {r : Brief.Replacement}
    (h : Gives (b.replace step e) s r s') : Written b s'.values e r := by
  unfold Brief.replace at h
  cases hkind : e.kind with
  | action | literal | value | number | state =>
    simp only [hkind] at h
    rw [(gives_pure.1 h).1]
    exact ⟨by simp [Brief.textFor, Brief.kept, hkind],
      by simp [Brief.kept, hkind, EntityKind.isMentioned]⟩
  | constant =>
    simp only [hkind, Brief.replaceConstant] at h
    cases hc : b.scope.findConstant? e.value with
    | some c =>
      simp only [hc] at h
      rw [(gives_pure.1 h).1]
      exact ⟨by simp [Brief.textFor, hkind, hc], by simp [hkind, EntityKind.isMentioned]⟩
    | none =>
      simp only [hc] at h
      rw [(values_of_warn_pure h).1]
      exact ⟨by simp [Brief.textFor, hkind, hc], by simp [hkind, EntityKind.isMentioned]⟩
  | element =>
    simp only [hkind, Brief.replaceElement] at h
    cases hx : b.scope.findElement? e.value with
    | some x =>
      simp only [hx] at h
      rw [(gives_pure.1 h).1]
      exact ⟨by simp [Brief.textFor, hkind, hx], by simp [hkind, EntityKind.isMentioned]⟩
    | none =>
      simp only [hx] at h
      rw [(values_of_warn_pure h).1]
      exact ⟨by simp [Brief.textFor, hkind, hx], by simp [hkind, EntityKind.isMentioned]⟩
  | property =>
    simp only [hkind, Brief.replaceProperty] at h
    by_cases hrefers : Brief.refersToValue e
    · rw [if_pos hrefers] at h
      cases hx : b.scope.findElement? e.value with
      | some x =>
        simp only [hx] at h
        exact written_of_replaceValue h hkind hrefers hx
      | none =>
        simp only [hx] at h
        rw [(values_of_warn_pure h).1]
        exact ⟨by simp [Brief.textFor, hkind, hrefers, hx], by simp [hkind, EntityKind.isMentioned]⟩
    · rw [if_neg hrefers] at h
      rw [(values_of_warn_pure h).1]
      exact ⟨by simp [Brief.textFor, hkind, hrefers], by simp [hkind, EntityKind.isMentioned]⟩

/-! ## Whole steps -/

/-- What the comment of a step is joined from. -/
def Step.remarks (step : Step) : List String :=
  step.comment.toList ++ (step.entities.filter (·.kind.isMentioned)).map (·.text)

/-- The text is written for the entity, which takes the draft `s` to `s'`. -/
def Brief.Writes (b : Brief) (step : Step) (s : Draft) (p : Entity × String) (s' : Draft) : Prop :=
  (∃ r, Gives (b.replace step p.1) s r s') ∧ p.2 = b.textFor s'.values p.1

/-- The step `out` is another one, assembled from the draft `s`, with texts in the places of its
entities. -/
structure Rewritten (b : Brief) (s : Draft) (step out : Step) : Prop where
  /-- The texts are written one after the other. -/
  content : ∃ texts s₁, texts.length = step.entities.length ∧
    Chained (b.Writes step) s (step.entities.zip texts) s₁ ∧
    Spliced step.content.toList 0 (step.entities.zip texts) out.content.toList
  comment : out.comment =
    if step.remarks = [] then none else some (" ".intercalate step.remarks)
  kind : out.kind = step.kind
  location : out.location = step.location
  isExternal : out.isExternal = step.isExternal

theorem Chained.map {σ ε δ : Type} {R : σ → ε → σ → Prop} {Q : σ → δ → σ → Prop} {f : ε → δ}
    {es : List ε} {s s' : σ} (h : Chained R s es s')
    (hstep : ∀ s e s', R s e s' → Q s (f e) s') : Chained Q s (es.map f) s' := by
  induction es generalizing s with
  | nil => exact h
  | cons e es ih =>
    obtain ⟨s₁, he, hes⟩ := h
    exact ⟨s₁, hstep s e s₁ he, ih hes⟩

theorem joinComments_eq (comments : List String) :
    Brief.joinComments comments =
      if comments = [] then none else some (" ".intercalate comments) := by
  cases comments with
  | nil => rfl
  | cons c cs => simp [Brief.joinComments]

namespace Resolved

variable {r : Resolved}

theorem mentions_eq (h : ∀ p ∈ r.source.entities.zip r.replacements,
      p.2.mention = if p.1.kind.isMentioned then some p.1.text else none) :
    r.replacements.filterMap (·.mention) =
      (r.source.entities.filter (·.kind.isMentioned)).map (·.text) := by
  have hentities := r.map_fst_zip
  have hreplacements := r.map_snd_zip
  calc r.replacements.filterMap (·.mention)
      = (r.source.entities.zip r.replacements).filterMap (·.2.mention) := by
        conv_lhs => rw [← hreplacements, List.filterMap_map]
        rfl
    _ = (r.source.entities.zip r.replacements).filterMap
          (fun p => if p.1.kind.isMentioned then some p.1.text else none) :=
        List.filterMap_congr h
    _ = r.source.entities.filterMap
          (fun e => if e.kind.isMentioned then some e.text else none) := by
        conv_rhs => rw [← hentities, List.filterMap_map]
        rfl
    _ = (r.source.entities.filter (·.kind.isMentioned)).map (·.text) := by
        rw [← List.filterMap_eq_map', List.filterMap_filter]

theorem rewritten (h : r.Runs b s s') : Rewritten b s r.source r.step := by
  obtain ⟨s₁, hruns, -⟩ := h
  have hwritten : ∀ p ∈ r.source.entities.zip r.replacements,
      ∃ values, Written b values p.1 p.2 :=
    hruns.forall fun s p s' hreplace => ⟨s'.values, written_of_replace hreplace⟩
  have hmentions := r.mentions_eq fun p hp => (hwritten p hp).choose_spec.mention
  refine ⟨⟨r.replacements.map (·.text), s₁, ?_, ?_, ?_⟩, ?_, rfl, rfl, rfl⟩
  · rw [List.length_map, r.length_eq]
  · rw [List.zip_map_right]
    exact hruns.map fun s p s' hreplace =>
      ⟨⟨p.2, hreplace⟩, (written_of_replace hreplace).text⟩
  · have hspliced := Spliced.of_cut r.segments_eq (r.replacements.map (·.text))
      (by rw [List.length_map, r.length_eq])
    simpa [step, content, List.zip_map_right, List.flatMap_map] using hspliced
  · rw [← joinComments_eq, Step.remarks, ← hmentions]
    rfl

end Resolved

/-- Whenever a step that passes the check of its entities is kept as one step, its sentence comes out
with other texts in the places of its entities and nothing else changed, and its comment is joined
from its own one and the constants and elements that it refers to. Without references the step comes
out as it is, and nothing is drawn, remembered or reported for it. -/
theorem rewritten_sentence_is_spliced {out : Step} (hcheck : step.checkEntities = .ok ())
    (h : Gives (b.resolve step) s out s') :
    Rewritten b s step out ∧
      ((∀ e ∈ step.entities, e.kind.isReference = false) →
        out = { step with entities := [] } ∧ s' = s) := by
  refine ⟨?_, ?_⟩
  · obtain ⟨r, rfl, rfl, hruns⟩ := runs_of_resolve hcheck h
    exact Resolved.rewritten hruns
  · intro hplain
    have hkept := gives_resolve (b := b) s hplain
    cases h.symm.trans hkept
    exact ⟨rfl, rfl⟩

def seeingZip : Step where
  content := "Then ~geöffnet~ I see [pi]\x7bZip|value\x7d in \x7bZip\x7d!"
  kind := .thenStep
  location := {}
  entities := [⟨.state, "geöffnet", "~geöffnet~", 5, none⟩, ⟨.constant, "pi", "[pi]", 23, none⟩,
    ⟨.property, "Zip", "\x7bZip|value\x7d", 27, some "value"⟩,
    ⟨.element, "Zip", "\x7bZip\x7d", 42, none⟩]
  comment := some "at last"

def shopScope : Scope where
  spec := ⟨[{
    path := "shop.feature"
    elements := [{ name := "Zip", properties := [{ kind := .value, value := .text "x" }] }]
    constants := [{ name := "pi", value := .int 3 }] }]⟩

def shopBrief : Brief :=
  Assembler.brief { seed := ⟨"scenaria"⟩ } shopScope (Survey.of shopScope [seeingZip]).1 none

/-- The state stays as it is, with its letter of two bytes; constant, value and name are written for
the other entities. -/
theorem seeingZip_is_spliced :
    ∃ out s', seeingZip.checkEntities = .ok () ∧
      Gives (shopBrief.resolve seeingZip) { stream := default } out s' ∧
      out.content = "Then ~geöffnet~ I see 3\"x\" in <zip>!" ∧
      out.comment = some "at last [pi] \x7bZip\x7d" ∧
      Rewritten shopBrief { stream := default } seeingZip out := by
  have hcheck : seeingZip.checkEntities = .ok () := by decide
  have hshown : ((shopBrief.resolve seeingZip) { stream := default }).1.toOption.map
        (fun out => (out.content, out.comment)) =
      some ("Then ~geöffnet~ I see 3\"x\" in <zip>!", some "at last [pi] \x7bZip\x7d") := by
    decide +kernel
  cases hrun : (shopBrief.resolve seeingZip) { stream := default } with
  | mk result s' =>
    rw [hrun] at hshown
    cases result with
    | error e => cases hshown
    | ok out =>
      obtain ⟨hcontent, hcomment⟩ := Prod.mk.inj (Option.some.inj hshown)
      exact ⟨out, s', hcheck, hrun, hcontent, hcomment,
        (rewritten_sentence_is_spliced hcheck hrun).1⟩

end TestDesign
