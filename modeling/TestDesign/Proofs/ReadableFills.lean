import TestDesign.Proofs.FillSentences
import TestDesign.Proofs.PlannedCases

/-!
# TestDesign.Proofs.ReadableFills

The fill steps that a fill step becomes can be read again: their sentences have the verb of the
step, the name and the value of the target (`expanded_step_readable`). A step without references,
such as these are once they have been read, comes out of the assembly as it is (`gives_steps`).
-/

namespace TestDesign

open Drafting Text Sentence

/-! ## Steps without references -/

variable {b : Brief} {step : Step}

/-- Where there are no references the cursor stays at the beginning. -/
theorem gives_rewriteEntities (b : Brief) (step : Step) (s : Draft) (w : Brief.Rewriting)
    {es : List Entity} (h : ∀ e ∈ es, e.kind.isReference = false) :
    ∃ v, Gives (b.rewriteEntities step w es) s { w with explicit := v } s := by
  induction es generalizing w with
  | nil => exact ⟨w.explicit, gives_pure.2 ⟨rfl, rfl⟩⟩
  | cons e es ih =>
    obtain ⟨hfirst, hrest⟩ := List.forall_mem_cons.1 h
    obtain ⟨v, hv⟩ := ih (w.take (Brief.kept e).value) hrest
    refine ⟨v, gives_bind.2 ⟨w.take (Brief.kept e).value, s, ?_, hv⟩⟩
    rw [Brief.rewriteEntity_eq, Brief.replace_eq_kept hfirst]
    refine gives_bind.2 ⟨_, s, gives_pure.2 ⟨rfl, rfl⟩, gives_pure.2 ⟨?_, rfl⟩⟩
    simp [Brief.Rewriting.next, hfirst]

theorem joinComments_toList (comment : Option String) :
    Brief.joinComments comment.toList = comment := by
  cases comment with
  | none => rfl
  | some c => simp [Brief.joinComments]

/-- Without references the whole sentence is copied in the end. -/
theorem gives_resolve (s : Draft) (h : ∀ e ∈ step.entities, e.kind.isReference = false) :
    Gives (b.resolve step) s { step with entities := [] } s := by
  obtain ⟨v, hloop⟩ := gives_rewriteEntities b step s { comments := step.comment.toList } h
  have hcopied : dropBytes? step.content.toList 0 = some step.content.toList :=
    dropBytes?_append [] step.content.toList
  have hstep : Gives (pure ({
      content := String.ofList (Brief.Rewriting.finish
        { comments := step.comment.toList, explicit := v } step.content.toList)
      kind := step.kind, location := step.location, isExternal := step.isExternal
      comment := Brief.joinComments step.comment.toList } : Step))
      s { step with entities := [] } s := by
    refine gives_pure.2 ⟨?_, rfl⟩
    simp [Brief.Rewriting.finish, hcopied, joinComments_toList]
  unfold Brief.resolve
  refine gives_bind.2 ⟨_, s, hloop, ?_⟩
  cases step.isFill with
  | false => exact hstep
  | true =>
    -- A step without references names no element that its value could go to.
    cases v with
    | none => exact hstep
    | some v => exact gives_bind.2 ⟨(), s, gives_pure.2 ⟨rfl, rfl⟩, hstep⟩

theorem gives_steps (s : Draft) (hcheck : step.checkEntities = .ok ())
    (hclosed : Brief.openFill? step = none)
    (h : ∀ e ∈ step.entities, e.kind.isReference = false) :
    Gives (b.steps step) s [{ step with entities := [] }] s := by
  unfold Brief.steps
  refine gives_bind.2 ⟨(), s, gives_checkStep.2 ⟨hcheck, rfl⟩, ?_⟩
  rw [hclosed]
  exact gives_bind.2 ⟨_, s, gives_resolve s h, gives_pure.2 ⟨rfl, rfl⟩⟩

/-! ## Values -/

/-- Characters of dates and times. -/
def isCalendarChar (c : Char) : Bool :=
  Decimal.isDigit c || c = '-' || c = '+' || c = ':' || c = ' '

section Calendar

open Calendar

@[simp] theorem all_padded (width n : Nat) : (padded width n).toList.all isCalendarChar = true := by
  have hdigits : ∀ c ∈ (toString n).toList, isCalendarChar c = true := by
    intro c hc
    rw [isCalendarChar, Decimal.isDigit_of_mem_repr n c hc]
    rfl
  have hzero : isCalendarChar '0' = true := by decide
  rw [List.all_eq_true]
  intro c hc
  rw [padded, String.toList_append, String.toList_ofList] at hc
  rcases List.mem_append.1 hc with hc | hc
  · rw [List.eq_of_mem_replicate hc, hzero]
  · exact hdigits c hc

@[simp] theorem all_yearText (year : Int) : (yearText year).toList.all isCalendarChar = true := by
  unfold yearText
  split
  · exact all_padded _ _
  · rw [String.toList_append, List.all_append, all_padded, Bool.and_true]
    split <;> decide

@[simp] theorem all_dateText (d : Date) : d.text.toList.all isCalendarChar = true := by
  have hmark : "-".toList.all isCalendarChar = true := by decide
  simp only [Date.text, String.toList_append, List.all_append, all_yearText, all_padded, hmark,
    Bool.and_self]

@[simp] theorem all_timeText (t : Time) : t.text.toList.all isCalendarChar = true := by
  have hmark : ":".toList.all isCalendarChar = true := by decide
  simp only [Time.text, String.toList_append, List.all_append, all_padded, hmark, Bool.and_self]

@[simp] theorem all_momentText (m : Moment) : m.text.toList.all isCalendarChar = true := by
  have hmark : " ".toList.all isCalendarChar = true := by decide
  simp only [Moment.text, String.toList_append, List.all_append, all_dateText, all_timeText, hmark,
    Bool.and_self]

end Calendar

namespace Value

/-- Integers, dates and times, and texts of letters and digits. -/
def isSimple : Value → Bool
  | int _ | date _ | time _ | dateTime _ => true
  | text s => s.toList.all isAlphanumeric
  | bool _ | real _ | list _ => false

/-- What the written value is read as. -/
def entityKind : Value → EntityKind
  | int _ => .number
  | bool _ | real _ | text _ | date _ | time _ | dateTime _ | list _ => .value

theorem plain_of_all {p : Char → Bool} {s : String} (h : s.toList.all p = true)
    (hp : p '\\' = false ∧ p '"' = false) : ∀ c ∈ s.toList, c ≠ '\\' ∧ c ≠ '"' := by
  intro c hc
  have hpc := List.all_eq_true.1 h c hc
  constructor
  all_goals
    rintro rfl
    simp [hp] at hpc

/-- Simple values are integers, or quoted texts in which nothing is hidden. -/
theorem cases_of_isSimple {v : Value} (h : v.isSimple = true) :
    (∃ n, v = .int n) ∨
      v.entityKind = .value ∧ v.inSentence = (Value.text v.typed).inSentence ∧
        ∀ c ∈ v.typed.toList, c ≠ '\\' ∧ c ≠ '"' := by
  have hcalendar : isCalendarChar '\\' = false ∧ isCalendarChar '"' = false := by decide
  have hquoted : ∀ {s : String}, (∀ c ∈ s.toList, c ≠ '\\' ∧ c ≠ '"') →
      quoted s = (Value.text s).inSentence := by
    intro s hs
    rw [inSentence, escapeQuotes_of_plain hs, String.ofList_toList]
  cases v with
  | bool | real | list => cases h
  | int n => exact .inl ⟨n, rfl⟩
  | text s =>
    have hplain := plain_of_all h (by decide)
    exact .inr ⟨rfl, rfl, hplain⟩
  | date d =>
    have hplain := plain_of_all (all_dateText d) hcalendar
    exact .inr ⟨rfl, hquoted hplain, hplain⟩
  | time t =>
    have hplain := plain_of_all (all_timeText t) hcalendar
    exact .inr ⟨rfl, hquoted hplain, hplain⟩
  | dateTime m =>
    have hplain := plain_of_all (all_momentText m) hcalendar
    exact .inr ⟨rfl, hquoted hplain, hplain⟩

/-- How a value is written and read: it is the end of a sentence, and after a blank it is one entity
with the text of the value. -/
structure IsReadable (v : Value) : Prop where
  ne_empty : v.inSentence ≠ ""
  last : ∀ c ∈ v.inSentence.toList.getLast?, isBlank c = false
  read : ∀ (d : Dictionary) (start : Location) (k : Cursor), startsWord k.last = true →
    entitiesFrom d start k v.inSentence.toList =
      .ok [⟨v.entityKind, v.typed, v.inSentence, k.bytes, none⟩]

theorem isReadable_of_isSimple {v : Value} (h : v.isSimple = true) : v.IsReadable := by
  rcases cases_of_isSimple h with ⟨n, rfl⟩ | ⟨hkind, hwritten, hplain⟩
  · have hinteger : IsInteger (int n).inSentence.toList := isInteger_toString n.toInt
    refine ⟨fun hempty => hinteger.ne_nil (congrArg String.toList hempty), ?_, ?_⟩
    · exact fun c hc => Decimal.not_isBlank_of_isDigit (hinteger.isDigit_getLast c hc)
    · intro d start k hk
      rw [entitiesFrom_integer hinteger hk, String.ofList_toList]
      rfl
  · refine ⟨hwritten ▸ inSentence_ne_empty _, hwritten ▸ getLast?_inSentence _, ?_⟩
    intro d start k hk
    have htext : (Value.text v.typed).inSentence =
        String.ofList ('"' :: (escapeQuotes v.typed.toList ++ ['"'])) := by
      rw [← toList_inSentence, String.ofList_toList]
    rw [hwritten, toList_inSentence, htext, hkind, escapeQuotes_of_plain hplain,
      entitiesFrom_quoted (fitsQuotes_of_plain hplain), unescape_of_plain hplain,
      String.ofList_toList]

end Value

/-! ## Expanded steps -/

theorem startsWord_fillOpening (kind : StepKind) (verb literal : String) :
    startsWord (Cursor.advance {} (fillOpening kind verb literal).toList).last = true := by
  have hlast : (fillOpening kind verb literal).toList.getLast? = some ' ' := by
    rw [fillOpening, String.toList_append, List.getLast?_append]
    rfl
  have hblank : startsWord (some ' ') = true := by simp [startsWord, isBlank_space]
  rw [Cursor.advance, hlast]
  exact hblank

theorem fillSentence_eq (hb : b.dictionary = .english) (kind : StepKind) (action : Entity)
    (f : Brief.Filling) : b.fillSentence kind action f =
      fillOpening kind action.text f.literal ++ f.value.inSentence := by
  have hwords : Dictionary.english.subject = "I" ∧ Dictionary.english.connective = "with" := by
    decide
  apply String.toList_inj.1
  simp [Brief.fillSentence, hb, hwords, fillOpening]

/-- The sentence of the step is read as a fill step of the same kind, which has the verb and then
the name and the value of the filling; assembled again, it keeps the sentence. -/
structure Step.ReadAs (o : Step) (verb : String) (f : Brief.Filling) (r : Step) : Prop where
  kind : r.kind = o.kind
  content : r.content = o.content
  entities : ∃ p q n, r.entities = [⟨.action, fillName, verb, p, none⟩,
    ⟨.literal, f.literal, literalReference f.literal, q, none⟩,
    ⟨f.value.entityKind, f.value.typed, f.value.inSentence, n, none⟩]
  assembled : ∀ (b : Brief) (s : Draft), Gives (b.steps r) s [{ r with entities := [] }] s

theorem exists_readAs {action : Entity} {f : Brief.Filling} {o : Step}
    (hb : b.dictionary = .english) (hverb : IsVerb .english action.text)
    (ho : o.content = b.fillSentence o.kind action f) (hliteral : IsReferable f.literal)
    (hvalue : f.value.isSimple = true) (location : Location) :
    ∃ r, recognize .english o.content location = .ok r ∧ o.ReadAs action.text f r := by
  have hreadable := Value.isReadable_of_isSimple hvalue
  obtain ⟨p, q, hread⟩ := recognize_fillOpening o.kind hverb hliteral
  have hrecognized := hread f.value.inSentence location hreadable.ne_empty hreadable.last
  rw [hreadable.read _ _ _ (startsWord_fillOpening _ _ _), ← fillSentence_eq hb, ← ho]
    at hrecognized
  refine ⟨_, hrecognized, rfl, rfl, ⟨p, q, _, rfl⟩, fun b' s => ?_⟩
  have hkinds : f.value.entityKind.isValue = true ∧ f.value.entityKind.isReference = false := by
    cases f.value <;> exact ⟨rfl, rfl⟩
  refine gives_steps s (checkEntities_of_recognize hrecognized) ?_ ?_
  · simp [Brief.openFill?, Step.fillAction?, Step.entitiesOf, Step.hasValue, hkinds.1]
  · exact List.forall_mem_cons.2 ⟨rfl, List.forall_mem_cons.2 ⟨rfl,
      List.forall_mem_singleton.2 hkinds.2⟩⟩

theorem content_of_mem_fillSteps {action : Entity} {fs : List Brief.Filling} {i : Nat}
    {o : Step} {f : Brief.Filling} (h : (o, f) ∈ (b.fillSteps step action i fs).zip fs) :
    o.content = b.fillSentence o.kind action f := by
  induction fs generalizing i with
  | nil => cases h
  | cons f' fs ih =>
    rw [Brief.fillSteps, List.zip_cons_cons] at h
    rcases List.mem_cons.1 h with heq | h
    · obtain ⟨rfl, rfl⟩ := Prod.mk.inj heq
      rfl
    · exact ih h

/-- The steps that a recognized English step is expanded to can be recognized. Each has the name and
the value of what is typed into its target; where a sentence can refer to the name, and the value is
an integer, a date, a time, a moment or a text of letters and digits, the sentence is read as a step
of the same kind with the verb of the expanded step, this name and this value. Assembled again, it
keeps its sentence. -/
theorem expanded_step_readable {sentence : String} {location : Location} {action : Entity}
    {targets : List Entity} {i : Nat} {s s' : Draft} {out : List Step}
    (hstep : recognize .english sentence location = .ok step)
    (haction : step.fillAction? = some action) (hb : b.dictionary = .english)
    (hout : Gives (b.expandFill step action i targets) s out s') :
    ∃ fs, fs.length = targets.length ∧ out = b.fillSteps step action i fs ∧
      Chained (fun s p s' => Gives (b.fillTarget step p.1) s p.2 s') s (targets.zip fs) s' ∧
      ∀ o f, (o, f) ∈ out.zip fs → IsReferable f.literal → f.value.isSimple = true →
        ∀ l, ∃ r, recognize .english o.content l = .ok r ∧ o.ReadAs action.text f r := by
  obtain ⟨fs, hlength, rfl, hruns⟩ := runs_of_expandFill hout
  refine ⟨fs, hlength, rfl, hruns, fun o f hmem hliteral hvalue l => ?_⟩
  have hentity := List.mem_filter.1 (List.mem_of_find?_eq_some haction)
  obtain ⟨hverb, -⟩ := (fits_of_recognize hstep action hentity.1).action (by simpa using hentity.2)
  exact exists_readAs hb hverb (content_of_mem_fillSteps hmem) hliteral hvalue l

def enter : Entity := ⟨.action, "fill", "enter", 7, none⟩

def years : Entity := ⟨.element, "Years", "\x7bYears\x7d", 13, none⟩

def fillingYears : Step where
  content := "When I enter \x7bYears\x7d"
  kind := .whenStep
  location := {}
  entities := [enter, years]

def yearsScope : Scope where
  spec := ⟨[{ path := "years.feature", elements := [
    { name := "Years", properties := [{ kind := .value, value := .int 7 }] }] }]⟩

def yearsBrief : Brief :=
  Assembler.brief { seed := ⟨"scenaria"⟩ } yearsScope (Survey.of yearsScope [fillingYears]).1
    (some ⟨Keyed.empty.insert "Years" { case := .filled, verdict := .valid }⟩)

def yearsDraft : Draft where
  stream := ((⟨"scenaria"⟩ : Random.Seed).nth 0).stream

def filledYears : Step where
  content := "When I enter <years> with 7"
  kind := .whenStep
  location := {}
  comment := some "\x7bYears\x7d, valid: filled"

/-- The element is filled with the number that is declared for it. -/
theorem filledYears_readable :
    (yearsBrief.expandFill fillingYears enter 0 [years] yearsDraft).1 = .ok [filledYears] ∧
      ∃ f r, recognize .english filledYears.content {} = .ok r ∧
        filledYears.ReadAs "enter" f r := by
  have hstep : recognize .english "When I enter \x7bYears\x7d" {} = .ok fillingYears :=
    eq_ok_of_toOption (by decide +kernel)
  have hout : (yearsBrief.expandFill fillingYears enter 0 [years] yearsDraft).1 =
      .ok [filledYears] := eq_ok_of_toOption (by decide +kernel)
  have hfilling : (yearsBrief.fillTarget fillingYears years yearsDraft).1.toOption.map
      (fun f => (f.literal, f.value.isSimple)) = some ("years", true) := by
    decide +kernel
  obtain ⟨fs, hlength, -, hruns, hread⟩ := expanded_step_readable hstep (by decide) rfl
    (Prod.ext hout rfl)
  obtain ⟨f, rfl⟩ := List.length_eq_one_iff.1 hlength
  obtain ⟨s₁, hfill, -⟩ := hruns
  have hf : yearsBrief.fillTarget fillingYears years yearsDraft = (.ok f, s₁) := hfill
  rw [hf] at hfilling
  simp only [Except.toOption, Option.map_some, Option.some.injEq, Prod.mk.injEq] at hfilling
  have hyears : IsReferable f.literal := by
    rw [hfilling.1]
    exact isReferable_of_visible (by decide) rfl
  exact ⟨hout, f, hread filledYears f List.mem_cons_self hyears hfilling.2 {}⟩

end TestDesign
