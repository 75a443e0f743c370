import TestDesign.Proofs.RecognizedSteps
import TestDesign.Proofs.SharedValues

/-!
# TestDesign.Proofs.QuotedReferences

A quoted value is read without its quotes and without the backslashes in front of quotes, and what
it was read as is written again for references. The characters are the same, since the reader lets
no other quote into a quoted text than one behind a backslash.

`quoted_value_shown_as_written`: a reference to an element shows what the step shows that a quoted
value was typed with.
-/

namespace TestDesign

open Drafting

variable {b : Brief} {s s' : Draft} {v : Entity}

namespace Resolved

variable {r : Resolved}

/-- The entity that gives the value of the step, the first one that gives any, and what stands for
it. -/
def giving? (r : Resolved) : Option (Entity × Brief.Replacement) :=
  (r.source.entities.zip r.replacements).find? (·.2.value.isSome)

theorem findSome?_of_giving? {p : Entity × Brief.Replacement} (h : r.giving? = some p) :
    r.replacements.findSome? (·.value) = p.2.value := by
  obtain ⟨hp, before, after, hsplit, hbefore⟩ := List.find?_eq_some_iff_append.1 h
  obtain ⟨w, hw⟩ := Option.isSome_iff_exists.1 hp
  rw [← r.map_snd_zip, List.findSome?_map, hw, List.findSome?_eq_some_iff]
  refine ⟨before, p, after, hsplit, hw, fun q hq => ?_⟩
  simpa using hbefore q hq

/-- The first entity of a kind that gives values is the one, if it has a value. -/
theorem giving?_of_first {scope : Scope}
    (hfits : ∀ p ∈ r.source.entities.zip r.replacements, FitsEntity scope p.1 p.2)
    (hsome : ∀ shown, (v, shown) ∈ r.source.entities.zip r.replacements →
      shown.value.isSome = true)
    (hfirst : r.source.entities.find? (·.kind.isValue) = some v) :
    ∃ shown, r.giving? = some (v, shown) := by
  rw [← r.map_fst_zip, List.find?_map, Option.map_eq_some_iff] at hfirst
  obtain ⟨⟨v', shown⟩, hfound, rfl⟩ := hfirst
  obtain ⟨-, before, after, hsplit, hbefore⟩ := List.find?_eq_some_iff_append.1 hfound
  refine ⟨shown, List.find?_eq_some_iff_append.2
    ⟨hsome shown (List.mem_of_find?_eq_some hfound), before, after, hsplit, fun p hp => ?_⟩⟩
  have hmem : p ∈ r.source.entities.zip r.replacements := by
    rw [hsplit]
    exact List.mem_append_left _ hp
  have hkind : p.1.kind.isValue = false := by simpa using hbefore p hp
  simpa using fun hvalue => Bool.eq_false_iff.1 hkind ((hfits p hmem).isValue hvalue)

end Resolved

/-- References to the variable show the text in all steps and checks that start with what is
remembered for it, until something else is typed into its element. -/
def ReferencesShow (var : String) (known : Option Value) (text : String) : Prop :=
  ∀ (b : Brief) (s s₁ s₂ : Draft) (entries : List Entry) (checks : List Check)
    (mid : List Event) (y : Element) (shown : String) (rest : List Event),
    s.values.get? var = known → Chained (Entry.Runs b) s entries s₁ →
      Chained (Check.Runs b) s₁ checks s₂ →
      entries.flatMap (Entry.history b.scope var) ++
        checks.flatMap (fun c => c.resolved.history b.scope var) = mid ++ .shown y shown :: rest →
      lastTyped mid = none → shown = text

theorem referencesShow_inSentence (var : String) (w : Value) :
    ReferencesShow var (some w) w.inSentence := by
  intro b s s₁ s₂ entries checks mid y shown rest hw hentries hchecks hhistory hmid
  exact text_of_later hentries hchecks hw hhistory hmid

/-- A quoted value is shown as it stands in its step. -/
theorem Resolved.shows_quoted {r : Resolved} {shown : Brief.Replacement} (h : r.Runs b s s')
    (hmem : (v, shown) ∈ r.source.entities.zip r.replacements) (hkind : v.kind = .value) :
    shown.text = v.text ∧ shown.value = some (.text v.value) := by
  obtain ⟨s₁, hruns, -⟩ := h
  obtain ⟨s₂, s₃, hreplace⟩ := Chained.exists_of_mem hruns hmem
  have hshows := shows_of_replace hreplace (by rw [hkind]; rfl) (by simp [hkind])
  exact ⟨hshows.literal (by simp [hkind]), by rw [hshows.value, Scope.valueOf?, hkind]⟩

/-- Quoted values of recognized sentences are written as they stand there, backslashes and quotes
included. A fill step with a quoted value stays one step, in which the value stands as before. If
this is the first value that the step gives, which holds if no reference, number or constant comes
before it, then later references to the elements that the step names show the same characters,
until something else is typed. -/
theorem quoted_value_shown_as_written :
    (∀ (d : Dictionary) (sentence : String) (location : Location) (step : Step),
      recognize d sentence location = .ok step → ∀ v ∈ step.entities, v.kind = .value →
        (Value.text v.value).inSentence = v.text) ∧
    ∀ (b : Brief) (step : Step) (s s' : Draft) (out : List Step), step.IsRecognized →
      step.isFill = true → Gives (b.steps step) s out s' →
      ∀ v ∈ step.entities, v.kind = .value →
        ∃ r : Resolved, r.source = step ∧ out = [r.step] ∧ r.Runs b s s' ∧
          (step.entities.find? (·.kind.isValue) = some v → ∃ shown, r.giving? = some (v, shown)) ∧
          ∀ shown, (v, shown) ∈ r.source.entities.zip r.replacements →
            shown.text = v.text ∧
            (r.giving? = some (v, shown) → ∀ x, step.NamesElement b.scope x →
              ReferencesShow x.variableName (s'.values.get? x.variableName) v.text) := by
  refine ⟨fun d sentence location step h v hv hkind => (fits_of_recognize h v hv).value hkind, ?_⟩
  intro b step s s' out hrecognized hfill h v hv hkind
  obtain ⟨entry, rfl, rfl, hrun⟩ := runs_of_steps h
  obtain ⟨r, hclosed, rfl⟩ := Entry.exists_resolved (List.any_eq_true.2 ⟨v, hv, by rw [hkind]; rfl⟩)
  refine ⟨r, rfl, rfl, hrun, ?_, ?_⟩
  · intro hfirst
    have ⟨s₁, hruns, _⟩ := hrun
    have hfits := Chained.forall (P := fun p => FitsEntity b.scope p.1 p.2) hruns
      fun _ _ _ hreplace => fitsEntity_of_replace hreplace
    refine Resolved.giving?_of_first hfits (fun shown hmem => ?_) hfirst
    rw [(Resolved.shows_quoted hrun hmem hkind).2]
    rfl
  · intro shown hmem
    obtain ⟨htext, hvalue⟩ := Resolved.shows_quoted hrun hmem hkind
    refine ⟨htext, fun hgiving x hx => ?_⟩
    obtain ⟨d, sentence, location, step, hstep, -, hentities⟩ := hrecognized
    have hfits : Sentence.Fits d v := fits_of_recognize hstep v (hentities ▸ hv)
    rw [Resolved.get?_of_given hrun hfill
      ((Resolved.findSome?_of_giving? hgiving).trans hvalue) hx, ← hfits.value hkind]
    exact referencesShow_inSentence x.variableName (.text v.value)

namespace Assembler

/-- A path in which backslashes and quotes are hidden. -/
def path : Entity := ⟨.value, "C:\\\\dir \"x\"", "\"C:\\\\dir \\\"x\\\"\"", 24, none⟩

def fillingPath : Step where
  content := "When I fill \x7bPath\x7d with " ++ path.text
  kind := .whenStep
  location := {}
  entities := [⟨.action, "fill", "fill", 7, none⟩, ⟨.element, "Path", "\x7bPath\x7d", 12, none⟩,
    path]

def pathScope : Scope where
  spec := ⟨[{ path := "path.feature", elements := [{ name := "Path" }] }]⟩

def pathBrief : Brief := brief { seed := ⟨"scenaria"⟩ } pathScope {} none

/-- The path is read without some of its backslashes, and seen with all of them. -/
theorem path_shown_as_written :
    recognize .english fillingPath.content {} = .ok fillingPath ∧
      (Value.text path.value).inSentence = path.text ∧
      ∃ filled s seen s', Gives (pathBrief.steps fillingPath) { stream := default } filled s ∧
        Gives (pathBrief.steps (seeing "Path")) s seen s' ∧
        seen.map (·.content) = ["Then I see " ++ path.text] := by
  have hrecognized : recognize .english fillingPath.content {} = .ok fillingPath :=
    eq_ok_of_toOption (by decide +kernel)
  have hpath : path ∈ fillingPath.entities := by decide
  have hname : (pathScope.findElement? "Path").map (·.variableName) = some "Path" := by
    decide +kernel
  obtain ⟨x, hx, hvar⟩ := Option.map_eq_some_iff.1 hname
  obtain ⟨hwritten, hshown⟩ := quoted_value_shown_as_written
  have hok : (pathBrief.steps fillingPath { stream := default }).1.isOk = true := by
    decide +kernel
  have hokSeen : (pathBrief.steps (seeing "Path")
      (pathBrief.steps fillingPath { stream := default }).2).1.isOk = true := by
    decide +kernel
  obtain ⟨filled, hfilled⟩ := exists_of_isOk hok
  obtain ⟨seen, hseen⟩ := exists_of_isOk hokSeen
  have hfilling : Gives (pathBrief.steps fillingPath) { stream := default } filled
      (pathBrief.steps fillingPath { stream := default }).2 := Prod.ext hfilled rfl
  have hseeing : Gives (pathBrief.steps (seeing "Path")) _ seen _ := Prod.ext hseen rfl
  refine ⟨hrecognized, hwritten _ _ _ _ hrecognized path hpath rfl, filled, _, seen, _, hfilling,
    hseeing, ?_⟩
  obtain ⟨r, hsource, -, -, hfirst, hreferences⟩ := hshown pathBrief fillingPath _ _ filled
    ⟨_, _, _, _, hrecognized, rfl, rfl⟩ (by decide) hfilling path hpath rfl
  obtain ⟨shown, hgiving⟩ := hfirst rfl
  obtain ⟨-, hlater⟩ := hreferences shown (List.mem_of_find?_eq_some hgiving)
  obtain ⟨entry, hentry, rfl, hrun⟩ := runs_of_steps hseeing
  obtain ⟨y, text, hevents, hcontent⟩ := events_of_seeing (b := pathBrief) hentry rfl hname
  have htext : text = path.text := by
    refine hlater hgiving x ⟨_, List.mem_cons_of_mem _ List.mem_cons_self, rfl, hx⟩ pathBrief _ _ _
      [entry] [] [] y text [] rfl (chained_singleton hrun) rfl ?_ rfl
    have hhistory : entry.history pathBrief.scope "Path" = entry.events pathBrief.scope "Path" :=
      Entry.history_eq_events (hentry ▸ rfl) _ _
    rw [hvar, List.flatMap_singleton, hhistory, List.flatMap_nil, List.append_nil]
    exact hevents
  rw [hcontent, htext]

end Assembler

end TestDesign
