import TestDesign.Proofs.GivenValues

/-!
# TestDesign.Proofs.SharedValues

Fill steps that name several elements and write a value behind each of them. Such a step does not
pair them up: it keeps the first value that any of its entities gives, and types it into all
elements that it names (`step_shares_first_value`). What is written behind the other elements is
shown by the step, but not by later references to them.
-/

namespace TestDesign

open Drafting

/-! ## Values behind elements -/

namespace EntityKind

/-- Whether the entity spells out a value. -/
def isWritten : EntityKind → Bool
  | value | number => true
  | action | literal | element | property | constant | state => false

theorem isValue_of_isWritten {k : EntityKind} (h : k.isWritten = true) :
    k.isValue = true ∧ k ≠ .property := by
  cases k with
  | value | number => exact ⟨rfl, nofun⟩
  | action | literal | element | property | constant | state => cases h

end EntityKind

namespace Step

/-- The value that is written in some entities before the next element. -/
def ownValue? : List Entity → Option Entity
  | [] => none
  | e :: es =>
    if e.kind.isWritten then some e
    else if e.kind = .element then none
    else ownValue? es

/-- The elements among some entities, each with the value that is written behind it. -/
def pairsOf : List Entity → List (Entity × Option Entity)
  | [] => []
  | e :: es => if e.kind = .element then (e, ownValue? es) :: pairsOf es else pairsOf es

/-- A fill step that names elements and writes a value behind each of them. -/
structure GivesEach (step : Step) : Prop where
  isFill : step.isFill = true
  names : pairsOf step.entities ≠ []
  writes : ∀ p ∈ pairsOf step.entities, p.2.isSome = true

variable {e v : Entity} {es : List Entity}

theorem mem_of_ownValue? (h : ownValue? es = some v) : v ∈ es ∧ v.kind.isWritten = true := by
  induction es with
  | nil => cases h
  | cons e es ih =>
    unfold ownValue? at h
    split at h
    · rename_i hwritten
      cases h
      exact ⟨List.mem_cons_self, hwritten⟩
    · split at h
      · cases h
      · exact ⟨List.mem_cons_of_mem e (ih h).1, (ih h).2⟩

theorem mem_of_mem_pairsOf {o : Option Entity} (h : (e, o) ∈ pairsOf es) :
    (e ∈ es ∧ e.kind = .element) ∧ ∀ v, o = some v → v ∈ es ∧ v.kind.isWritten = true := by
  induction es with
  | nil => cases h
  | cons f es ih =>
    have hlater : (e, o) ∈ pairsOf es → (e ∈ f :: es ∧ e.kind = .element) ∧
        ∀ v, o = some v → v ∈ f :: es ∧ v.kind.isWritten = true := by
      intro h
      obtain ⟨⟨hmem, hkind⟩, hown⟩ := ih h
      exact ⟨⟨List.mem_cons_of_mem f hmem, hkind⟩, fun v hv =>
        ⟨List.mem_cons_of_mem f (hown v hv).1, (hown v hv).2⟩⟩
    unfold pairsOf at h
    split at h
    · rename_i hkind
      rcases List.mem_cons.1 h with heq | h
      · cases heq
        refine ⟨⟨List.mem_cons_self, hkind⟩, fun v hv => ?_⟩
        obtain ⟨hmem, hwritten⟩ := mem_of_ownValue? hv
        exact ⟨List.mem_cons_of_mem _ hmem, hwritten⟩
      · exact hlater h
    · exact hlater h

theorem GivesEach.exists_written {step : Step} (h : step.GivesEach) :
    ∃ v ∈ step.entities, v.kind.isWritten = true := by
  obtain ⟨⟨e, o⟩, hp⟩ := List.exists_mem_of_ne_nil _ h.names
  obtain ⟨v, rfl⟩ := Option.isSome_iff_exists.1 (h.writes _ hp)
  exact ⟨v, (mem_of_mem_pairsOf hp).2 v rfl⟩

end Step

/-! ## The value of a step -/

variable {b : Brief} {s s' : Draft}

theorem Scope.exists_valueOf? (scope : Scope) {v : Entity} (h : v.kind.isWritten = true) :
    ∃ w, scope.valueOf? v = some w := by
  unfold valueOf?
  cases hkind : v.kind with
  | value | number => exact ⟨_, rfl⟩
  | action | literal | element | property | constant | state =>
    rw [hkind] at h
    cases h

/-- The first entity that gives a value stands in front of all values that are given. -/
theorem findSome?_of_find? {es : List Entity} {rs : List Brief.Replacement} {v : Entity}
    (hlength : rs.length = es.length)
    (hfits : ∀ p ∈ es.zip rs, p.2.value.isSome = true → p.1.kind.isValue = true)
    (hfirst : es.find? (·.kind.isValue) = some v) :
    ∃ shown, (v, shown) ∈ es.zip rs ∧
      ∀ w, shown.value = some w → rs.findSome? (·.value) = some w := by
  induction es generalizing rs with
  | nil => cases hfirst
  | cons e es ih =>
    cases rs with
    | nil => cases hlength
    | cons r rs =>
      cases hkind : e.kind.isValue with
      | true =>
        simp only [List.find?_cons, hkind, Option.some.injEq] at hfirst
        subst hfirst
        refine ⟨r, List.mem_cons_self, fun w hw => ?_⟩
        rw [List.findSome?_cons, hw]
      | false =>
        simp only [List.find?_cons, hkind] at hfirst
        have hnone : r.value = none := by
          refine Option.not_isSome_iff_eq_none.1 fun hsome => ?_
          have hvalue := hfits (e, r) List.mem_cons_self hsome
          rw [hkind] at hvalue
          cases hvalue
        obtain ⟨shown, hmem, hvalue⟩ := ih (Nat.succ.inj hlength)
          (fun p hp => hfits p (List.mem_cons_of_mem _ hp)) hfirst
        refine ⟨shown, List.mem_cons_of_mem _ hmem, fun w hw => ?_⟩
        rw [List.findSome?_cons, hnone]
        exact hvalue w hw

namespace Resolved

variable {r : Resolved}

/-- A step that writes a value gives one. -/
theorem exists_given {v : Entity} (h : r.Runs b s s') (hv : v ∈ r.source.entities)
    (hwritten : v.kind.isWritten = true) :
    ∃ w, r.replacements.findSome? (·.value) = some w := by
  obtain ⟨s₁, hruns, -⟩ := h
  obtain ⟨shown, hmem⟩ := r.exists_replacement hv
  obtain ⟨s₂, s₃, hreplace⟩ := Chained.exists_of_mem hruns hmem
  obtain ⟨hvalue, hkind⟩ := EntityKind.isValue_of_isWritten hwritten
  obtain ⟨w, hw⟩ := b.scope.exists_valueOf? hwritten
  refine Option.isSome_iff_exists.1 (List.findSome?_isSome_iff.2 ?_)
  refine ⟨shown, (List.of_mem_zip hmem).2, ?_⟩
  rw [(shows_of_replace hreplace hvalue hkind).value, hw]
  rfl

/-- The first entity that gives a value gives that of the step, if it is known beforehand. -/
theorem given_eq_of_first {v : Entity} {w own : Value} (h : r.Runs b s s')
    (hw : r.replacements.findSome? (·.value) = some w)
    (hfirst : r.source.entities.find? (·.kind.isValue) = some v) (hkind : v.kind ≠ .property)
    (hown : b.scope.valueOf? v = some own) : w = own := by
  obtain ⟨s₁, hruns, -⟩ := h
  have hfits := Chained.forall (P := fun p => FitsEntity b.scope p.1 p.2) hruns
    fun _ _ _ hreplace => fitsEntity_of_replace hreplace
  obtain ⟨shown, hmem, hgiven⟩ :=
    findSome?_of_find? r.length_eq (fun p hp => (hfits p hp).isValue) hfirst
  obtain ⟨s₂, s₃, hreplace⟩ := Chained.exists_of_mem hruns hmem
  have hvalue : v.kind.isValue = true :=
    List.find?_some (p := fun e : Entity => e.kind.isValue) hfirst
  have hshown := (shows_of_replace hreplace hvalue hkind).value
  exact Option.some.inj (hw.symm.trans (hgiven own (hshown.trans hown)))

end Resolved

/-- Later steps and checks show what is remembered, until something else is typed. -/
theorem text_of_later {entries : List Entry} {checks : List Check} {s₁ s₂ : Draft} {var : String}
    {w : Value} {mid rest : List Event} {y : Element} {text : String}
    (hentries : Chained (Entry.Runs b) s entries s₁) (hchecks : Chained (Check.Runs b) s₁ checks s₂)
    (hw : s.values.get? var = some w)
    (hhistory : entries.flatMap (Entry.history b.scope var) ++
      checks.flatMap (fun c => c.resolved.history b.scope var) = mid ++ .shown y text :: rest)
    (hmid : lastTyped mid = none) : text = w.inSentence := by
  have hmoves : Chained (Moves b) (s.values.get? var)
      (entries.flatMap (Entry.history b.scope var) ++
        checks.flatMap fun c => c.resolved.history b.scope var) (s₂.values.get? var) := by
    refine chained_append.2 ⟨s₁.values.get? var, ?_, ?_⟩
    · exact Chained.flatMap (g := fun s => s.values.get? var) hentries
        fun _ _ _ _ hrun => Entry.moves_history hrun
    · exact Chained.flatMap (g := fun s => s.values.get? var) hchecks
        fun _ _ _ _ hrun => Resolved.moves_history hrun
  rw [hw, hhistory] at hmoves
  exact text_of_moves hmoves hmid

/-- A fill step that writes a value behind each of its elements stays one step, and types one value
into all of them: the first one that is given, which is that of the first quoted value, number or
constant unless a reference comes before it. So an element keeps the value that is written behind it
just if this is the one, and later references show the one, until something else is typed. -/
theorem step_shares_first_value {step : Step} {out : List Step}
    (h : Gives (b.steps step) s out s') (hgives : step.GivesEach) :
    ∃ (r : Resolved) (w : Value), r.source = step ∧ out = [r.step] ∧ r.Runs b s s' ∧
      r.replacements.findSome? (·.value) = some w ∧
      (∀ v own, step.entities.find? (·.kind.isValue) = some v → v.kind ≠ .property →
        b.scope.valueOf? v = some own → w = own) ∧
      ∀ e v x, (e, some v) ∈ Step.pairsOf step.entities → b.scope.findElement? e.value = some x →
        s'.values.get? x.variableName = some w ∧
        (s'.values.get? x.variableName = b.scope.valueOf? v ↔ b.scope.valueOf? v = some w) ∧
        ∀ entries checks s₁ s₂ mid y text rest, Chained (Entry.Runs b) s' entries s₁ →
          Chained (Check.Runs b) s₁ checks s₂ →
          entries.flatMap (Entry.history b.scope x.variableName) ++
            checks.flatMap (fun c => c.resolved.history b.scope x.variableName) =
              mid ++ .shown y text :: rest →
          lastTyped mid = none → text = w.inSentence := by
  obtain ⟨v, hv, hwritten⟩ := hgives.exists_written
  obtain ⟨entry, rfl, rfl, hrun⟩ := runs_of_steps h
  cases entry with
  | expanded x =>
    have hopen := (Brief.isOpen_of_openFill? x.isOpen).1
    have hhas : x.source.hasValue = true :=
      List.any_eq_true.2 ⟨v, hv, (EntityKind.isValue_of_isWritten hwritten).1⟩
    rw [hopen.2.1] at hhas
    cases hhas
  | resolved r hclosed =>
    obtain ⟨w, hw⟩ := Resolved.exists_given hrun hv hwritten
    refine ⟨r, w, rfl, rfl, hrun, hw, ?_, ?_⟩
    · intro v own hfirst hkind hown
      exact Resolved.given_eq_of_first hrun hw hfirst hkind hown
    · intro e v x hpair hx
      obtain ⟨⟨hmem, hkind⟩, -⟩ := Step.mem_of_mem_pairsOf hpair
      have hget := Resolved.get?_of_given hrun hgives.isFill hw ⟨e, hmem, hkind, hx⟩
      refine ⟨hget, by rw [hget, eq_comm], ?_⟩
      intro entries checks s₁ s₂ mid y text rest hentries hchecks hhistory hmid
      exact text_of_later hentries hchecks hget hhistory hmid

namespace Assembler

def ann : Entity := ⟨.value, "Ann", "\"Ann\"", 24, none⟩

def town : Entity := ⟨.element, "Town", "\x7bTown\x7d", 34, none⟩

def rome : Entity := ⟨.value, "Rome", "\"Rome\"", 46, none⟩

def introducing : Step where
  content := "When I fill \x7bUser\x7d with \"Ann\" and \x7bTown\x7d with \"Rome\""
  kind := .whenStep
  location := {}
  entities := [⟨.action, "fill", "fill", 7, none⟩, ⟨.element, "User", "\x7bUser\x7d", 12, none⟩,
    ann, town, rome]

theorem introducing_givesEach : introducing.GivesEach := ⟨by decide, by decide, by decide⟩

def townScope : Scope where
  spec := ⟨[{ path := "town.feature", elements := [{ name := "User" }, { name := "Town" }] }]⟩

def townBrief : Brief := brief { seed := ⟨"scenaria"⟩ } townScope {} none

/-- The step types the name of the user into the town as well. -/
theorem introducing_shares_name :
    ∃ out s', Gives (townBrief.steps introducing) { stream := default } out s' ∧
      introducing.GivesEach ∧ s'.values.get? "Town" = some (.text "Ann") := by
  have hok : (townBrief.steps introducing { stream := default }).1.isOk = true := by
    decide +kernel
  obtain ⟨out, hout⟩ := exists_of_isOk hok
  have h : Gives (townBrief.steps introducing) { stream := default } out
      (townBrief.steps introducing { stream := default }).2 := Prod.ext hout rfl
  have hname : (townScope.findElement? "Town").map (·.variableName) = some "Town" := by
    decide +kernel
  obtain ⟨x, hx, hvar⟩ := Option.map_eq_some_iff.1 hname
  obtain ⟨r, w, -, -, -, -, hfirst, hshared⟩ := step_shares_first_value h introducing_givesEach
  obtain rfl : w = .text "Ann" := hfirst ann (.text "Ann") rfl (by decide) rfl
  obtain ⟨hget, -⟩ := hshared town rome x (by decide) hx
  exact ⟨out, _, h, introducing_givesEach, hvar ▸ hget⟩

/-- The step shows both values, and later references the first one only. -/
theorem introducing_shows_name_as_town :
    recognize .english introducing.content {} = .ok introducing ∧ introducing.GivesEach ∧
      (town, some rome) ∈ Step.pairsOf introducing.entities ∧
      (generate { seed := ⟨"scenaria"⟩ } townScope
        [introducing, seeing "User", seeing "Town"] [] {}).1.map
          (fun p => p.steps.map (·.content)) =
        [["When I fill <user> with \"Ann\" and <town> with \"Rome\"", "Then I see \"Ann\"",
          "Then I see \"Ann\""]] := by
  refine ⟨eq_ok_of_toOption ?_, introducing_givesEach, ?_, ?_⟩
  all_goals decide +kernel

end Assembler

end TestDesign
