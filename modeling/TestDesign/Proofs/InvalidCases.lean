import TestDesign.Proofs.CaseOutcomes

/-!
# TestDesign.Proofs.InvalidCases

Invalid cases are about one property of their element. `invalid_case_violates_property`: the
property that a case is planned for is declared, the case has the steps of that property, and all
values drawn for the case violate the property as it is declared.

The property is named without looking at the range (`violatedBound`), the verdict comes from the
range. They agree because zero is said to lie below the minimum just where it does when it lies
outside the range (`zeroAgrees_integers`, `zeroAgrees_of_lowest`, `zeroAgrees_lengths`).
-/

namespace TestDesign

open Calendar TestDesign.Random

/-- What it means for a value to violate a declared property of an element of the given type. -/
def Property.ViolatedBy (p : Property) (t : DataType) (v : Value) : Prop :=
  match p.kind with
  | .minValue => ∃ m, p.value.convert? t = some m ∧ v.Precedes m
  | .maxValue => ∃ m, p.value.convert? t = some m ∧ m.Precedes v
  | .minLength => ∃ n s, p.value.length? = some n ∧ v = .text s ∧ s.length < n.toNat
  | .maxLength => ∃ n s, p.value.length? = some n ∧ v = .text s ∧ n.toNat < s.length
  | .format => ∃ f s, Pattern.Format.of? p.value.typed = some f ∧ v = .text s ∧
      f.isMatch s = false
  | .value => ∃ items, p.value = .list items ∧ items ≠ [] ∧
      ∀ item ∈ items, item.convert? t ≠ some v
  | .required => Constraints.flag (some p.value) = true ∧ v = .text ""
  | .id | .dataType | .computed => False

variable {e : Element} {c : Constraints} {b : Boundary}

/-- The case is about a declared property of the element, which all values drawn for it violate. -/
def Constraints.Blames (c : Constraints) (e : Element) (case : DataCase) : Prop :=
  ∃ kind p, c.violated case = some kind ∧ e.property? kind = some p ∧
    ∀ g : Generator, Draw.Always (g.generate case c) fun x =>
      ∀ v, x = .ok v → p.ViolatedBy c.dataType v

/-! ## The side of zero -/

theorem zeroAgrees_integers {lo hi : Option Int64} {r : StepRange StepDomain.integers}
    (hb : Stepped.integers.Bounds c lo hi) (hr : StepRange.of .integers lo hi = .ok r) :
    r.ZeroAgrees c.isZeroBelowMin := by
  have hmin := Stepped.min_integers hr
  have hle := r.min_le_max
  have hzero : StepDomain.integers.zero = 0 := rfl
  unfold Constraints.isZeroBelowMin
  rw [hb.minValue]
  cases lo with
  | none =>
    simp only [Option.map_none, Option.getD_none, Value.minInt] at hmin
    exact ⟨fun h => by omega, fun _ => rfl⟩
  | some m =>
    have hpos : 0 < m ↔ 0 < m.toInt := Int64.lt_iff_toInt_lt
    simp only [Option.map_some, Option.getD_some] at hmin
    simp only [Option.map_some, Stepped.integers, decide_eq_true_eq, decide_eq_false_iff_not,
      hpos, StepRange.ZeroAgrees]
    omega

section Stepped

variable {t : DataType} {α : Type} {d : StepDomain α} (S : Stepped t d) {lo hi : Option α}
  {r : StepRange d}

/-- Zero of dates and times is where they begin, so only a declared minimum excludes it. -/
theorem zeroAgrees_of_lowest (hzero : d.zero = d.lowest)
    (hbelow : ∀ {c : Constraints} {x}, c.minValue = some (S.value x) → c.isZeroBelowMin = true)
    (hb : S.Bounds c lo hi) (hr : StepRange.of d lo hi = .ok r) :
    r.ZeroAgrees c.isZeroBelowMin := by
  have h₀ := r.lowest_le_min
  have h₁ := r.min_le_max
  refine ⟨fun hlt => ?_, fun hlt => by omega⟩
  obtain ⟨m, rfl, -⟩ := StepRange.below_declared S.lawful hr (Int.le_of_eq (S.top_eq hr))
    S.lawful.zero_mem.1 hlt
  exact hbelow hb.minValue

/-- A boundary of the values that lies outside the range is blamed on the bound on its side. -/
theorem Stepped.blames (h : c.ReadFrom e) (hc : c.check = .ok ()) (ht : c.dataType = t)
    (hzero : ∀ {lo hi r}, S.Bounds c lo hi → StepRange.of d lo hi = .ok r →
      r.ZeroAgrees c.isZeroBelowMin)
    (hv : c.verdict (.value b) = .invalid) : c.Blames e (.value b) := by
  obtain ⟨lo, hi, hb⟩ := S.exists_bounds h ht
  obtain ⟨r, hr⟩ := S.exists_range hb hc
  have htop := Int.le_of_eq (S.top_eq hr)
  have hgreatest := StepRange.greatest_le_top hr
  have hvr := hv
  rw [S.verdict_eq hb hr] at hvr
  have hdraw (g : Generator) := S.always_atBoundary g hb hr (b := b) (by rw [hv]; decide)
  rcases StepRange.declared_of_invalid S.lawful hr htop hvr (hzero hb hr) .minValue .maxValue with
    ⟨m, rfl, hkind, hside⟩ | ⟨m, rfl, hkind, hside⟩
  · obtain ⟨p, hp, hvalue⟩ := Constraints.property_of_typed? h.minValue hb.minValue
    refine ⟨.minValue, p, hkind, hp, fun g => (hdraw g).mono ?_⟩
    rintro x ⟨i, rfl, hi⟩ v hx
    cases hx
    simp only [Property.ViolatedBy, Element.kind_of_property? hp]
    exact ⟨_, hvalue, S.precedes_of_le (hside i hi)⟩
  · obtain ⟨p, hp, hvalue⟩ := Constraints.property_of_typed? h.maxValue hb.maxValue
    refine ⟨.maxValue, p, hkind, hp, fun g => (hdraw g).mono ?_⟩
    rintro x ⟨i, rfl, hi⟩ v hx
    cases hx
    simp only [Property.ViolatedBy, Element.kind_of_property? hp]
    exact ⟨_, hvalue, S.precedes_of_le (hside i hi)⟩

end Stepped

theorem Constraints.blames_value (h : c.ReadFrom e) (hc : c.check = .ok ())
    (ht : c.dataType ≠ .real) (hv : c.verdict (.value b) = .invalid) : c.Blames e (.value b) := by
  cases htype : c.dataType with
  | integer => exact Stepped.integers.blames h hc htype zeroAgrees_integers hv
  | date =>
    refine Stepped.dates.blames h hc htype (zeroAgrees_of_lowest Stepped.dates rfl ?_) hv
    intro c x hx
    rw [isZeroBelowMin, hx]
    rfl
  | time =>
    refine Stepped.times.blames h hc htype (zeroAgrees_of_lowest Stepped.times rfl ?_) hv
    intro c x hx
    rw [isZeroBelowMin, hx]
    rfl
  | dateTime =>
    refine Stepped.moments.blames h hc htype (zeroAgrees_of_lowest Stepped.moments rfl ?_) hv
    intro c x hx
    rw [isZeroBelowMin, hx]
    rfl
  | real => exact absurd htype ht
  | string | boolean =>
    simp [verdict, valueExtent?, valueRange, htype, ValueRange.of, verdictIn] at hv

/-! ## Lengths -/

theorem top_lengths_le {r : StepRange StepDomain.lengths} (h : c.ReadFrom e)
    (hr : c.lengthRange = .ok r) : r.top ≤ 18446744073709551615 := by
  rw [(StepRange.of_eq_ok hr).1]
  cases hhi : c.maxLength with
  | none =>
    simp only [Option.map_none, StepRange.topFor, StepDomain.greatest_lengths]
    omega
  | some n =>
    have hn := h.maxLength_le hhi
    unfold Value.maxInt at hn
    rw [Option.map_some, StepRange.topFor_lengths]
    split <;> omega

theorem zeroAgrees_lengths (h : c.ReadFrom e) {r : StepRange StepDomain.lengths}
    (hr : c.lengthRange = .ok r) : r.ZeroAgrees c.isZeroBelowMinLength := by
  have h₀ := r.lowest_le_min
  have h₁ := r.min_le_max
  have hzero : StepDomain.lengths.zero = StepDomain.lengths.lowest := rfl
  refine ⟨fun hlt => ?_, fun hlt => by omega⟩
  obtain ⟨m, hm, hle⟩ := StepRange.below_declared StepDomain.lengths_lawful hr
    (top_lengths_le h hr) (Int.le_refl _) hlt
  have hpos : ¬ m.toNat ≤ 0 := of_decide_eq_false hle
  have hlt : 0 < m := UInt64.lt_iff_toNat_lt.2 (Nat.not_le.1 hpos)
  rw [Constraints.isZeroBelowMinLength, hm]
  exact decide_eq_true hlt

/-- The length of the text is the value of the index that is drawn. -/
theorem always_atLength_of {r : StepRange StepDomain.lengths} {P : Int → Prop}
    (hr : c.lengthRange = .ok r) (hP : Draw.Always (r.indexAt b) P) :
    Draw.Always (Generator.atLength b c) fun x =>
      ∃ i s, x = .ok (.text s) ∧ P i ∧ s.length = (StepDomain.lengths.value i).toNat := by
  simp only [Generator.atLength, hr]
  refine Draw.always_bind (P := fun n => ∃ i, n = StepDomain.lengths.value i ∧ P i) ?_ ?_
  · exact Draw.always_bind hP fun i hi => Draw.always_pure ⟨i, rfl, hi⟩
  · rintro n ⟨i, rfl, hi⟩
    exact Draw.always_bind (Draw.always_text _) fun s hs => Draw.always_pure ⟨i, s, rfl, hi, hs⟩

theorem always_lengthCase {r : StepRange StepDomain.lengths} (hr : c.lengthRange = .ok r)
    (hv : c.verdict (.length b) ≠ .incompatible) (g : Generator) :
    Draw.Always (g.generate (.length b) c) fun x =>
      ∃ i s, x = .ok (.text s) ∧ r.Places b i ∧ s.length = (StepDomain.lengths.value i).toNat := by
  unfold Generator.generate
  rw [if_neg hv]
  exact always_atLength_of hr (r.always_indexAt b)

/-- A verdict on a length is one on the range of lengths. -/
theorem Constraints.exists_lengthRange_of_verdict (hv : c.verdict (.length b) ≠ .incompatible) :
    ∃ r, c.lengthRange = .ok r ∧
      (r.extent c.minLength.isSome c.maxLength.isSome).verdict b = c.verdict (.length b) := by
  simp only [verdict, lengthExtent?] at hv ⊢
  split at hv
  · exact absurd rfl hv
  · rename_i ht
    rw [if_neg ht]
    split at hv
    · rename_i r hr
      exact ⟨r, hr, rfl⟩
    · exact absurd rfl hv

theorem Constraints.blames_length (h : c.ReadFrom e) (hv : c.verdict (.length b) = .invalid) :
    c.Blames e (.length b) := by
  have hcompatible : c.verdict (.length b) ≠ .incompatible := by rw [hv]; decide
  obtain ⟨r, hr, hvr⟩ := exists_lengthRange_of_verdict hcompatible
  rw [hv] at hvr
  have hdraw := always_lengthCase hr hcompatible
  rcases StepRange.declared_of_invalid StepDomain.lengths_lawful hr (top_lengths_le h hr) hvr
    (zeroAgrees_lengths h hr) .minLength .maxLength with
    ⟨m, hm, hkind, hside⟩ | ⟨m, hm, hkind, hside⟩
  · obtain ⟨p, hp, hvalue⟩ := property_of_lengthOf? h.minLength hm
    refine ⟨.minLength, p, hkind, hp, fun g => (hdraw g).mono ?_⟩
    rintro x ⟨i, s, rfl, hi, hs⟩ v hx
    cases hx
    have hlt := Nat.not_le.1 (of_decide_eq_false (hside i hi))
    simp only [Property.ViolatedBy, Element.kind_of_property? hp]
    exact ⟨m, s, hvalue, rfl, by omega⟩
  · obtain ⟨p, hp, hvalue⟩ := property_of_lengthOf? h.maxLength hm
    refine ⟨.maxLength, p, hkind, hp, fun g => (hdraw g).mono ?_⟩
    rintro x ⟨i, s, rfl, hi, hs⟩ v hx
    cases hx
    have hlt := Nat.not_le.1 (of_decide_eq_false (hside i hi))
    simp only [Property.ViolatedBy, Element.kind_of_property? hp]
    exact ⟨m, s, hvalue, rfl, by omega⟩

/-! ## Formats -/

open Pattern in
theorem always_firstMismatch (f : Format) (min max tries attempt : Nat) :
    Draw.Always (f.firstMismatch min max tries attempt) fun x => ∀ s ∈ x, f.isMatch s = false := by
  induction tries generalizing attempt with
  | zero => exact Draw.always_pure nofun
  | succ tries ih =>
    refine Draw.always_of_forall fun s => ?_
    split
    · exact ih _
    · rename_i hmatch
      refine Draw.always_pure ?_
      intro t ht
      cases ht
      exact Bool.eq_false_iff.2 hmatch

theorem verdictIf_eq_invalid {declared : Bool} {v : Verdict}
    (h : Constraints.verdictIf declared v = .invalid) : declared = true ∧ v = .invalid := by
  cases declared with
  | true => exact ⟨rfl, h⟩
  | false => cases h

theorem Constraints.blames_format (h : c.ReadFrom e) (hv : c.verdict .formatInvalid = .invalid) :
    c.Blames e .formatInvalid := by
  obtain ⟨pattern, hpattern⟩ := Option.isSome_iff_exists.1 (verdictIf_eq_invalid hv).1
  obtain ⟨p, hp, hvalue⟩ := h.property_of_format hpattern
  refine ⟨.format, p, rfl, hp, ?_⟩
  intro g
  unfold Generator.generate
  rw [if_neg (by rw [hv]; decide)]
  simp only [Generator.compatible, Generator.mismatching, hpattern, Property.ViolatedBy,
    Element.kind_of_property? hp, hvalue]
  cases hf : Pattern.Format.of? pattern with
  | none =>
    refine Draw.always_pure ?_
    intro v hv
    cases hv
  | some f =>
    refine Draw.always_bind (always_firstMismatch f _ _ _ _) fun x hx => ?_
    cases x with
    | none =>
      refine Draw.always_pure ?_
      intro v hv
      cases hv
    | some s =>
      refine Draw.always_pure ?_
      intro v hv
      cases hv
      exact ⟨f, s, rfl, rfl, hx s rfl⟩

/-! ## Values outside a set -/

theorem Value.beq_self_of_isOf {v : Value} {t : DataType} (h : v.IsOf t) (ht : t ≠ .real) :
    (v == v) = true := by
  show Value.beq v v = true
  cases v with
  | real x =>
    cases t <;> first | exact absurd rfl ht | cases h
  | list items => cases h
  | bool | int | text | date | time | dateTime => simp [Value.beq]

theorem always_outsider (g : Generator) (ht : c.dataType ≠ .real) (tries : Nat) :
    Draw.Always (g.outsider c tries) fun x => ∀ v ∈ x, v ∉ c.accepted := by
  induction tries with
  | zero => exact Draw.always_pure nofun
  | succ tries ih =>
    refine Draw.always_bind (g.always_anyOf_isOf c.dataType) fun v hv => ?_
    split
    · exact ih
    · rename_i hnot
      refine Draw.always_pure ?_
      intro w hw hmem
      cases hw
      exact hnot (List.contains_iff_exists_mem_beq.2 ⟨v, hmem, Value.beq_self_of_isOf hv ht⟩)

theorem Constraints.blames_set (h : c.ReadFrom e) (ht : c.dataType ≠ .real)
    (hv : c.verdict .setOther = .invalid) : c.Blames e .setOther := by
  have haccepted : c.accepted ≠ [] := by
    intro hnil
    have hdeclared := (verdictIf_eq_invalid hv).1
    simp [hasAccepted, hnil] at hdeclared
  obtain ⟨p, items, hp, hvalue, hne, hitems⟩ := h.property_of_accepted haccepted
  refine ⟨.value, p, rfl, hp, ?_⟩
  intro g
  unfold Generator.generate
  rw [if_neg (by rw [hv]; decide)]
  simp only [Generator.compatible, Property.ViolatedBy, Element.kind_of_property? hp]
  refine Draw.always_bind (always_outsider g ht _) fun x hx => ?_
  cases x with
  | none =>
    refine Draw.always_pure ?_
    intro v hv
    cases hv
  | some v =>
    refine Draw.always_pure ?_
    intro w hw
    cases hw
    refine ⟨items, hvalue, hne, ?_⟩
    intro item hitem hconv
    obtain ⟨u, hu, hconv'⟩ := hitems item hitem
    cases hconv.symm.trans hconv'
    exact hx v rfl hu

/-! ## Empty values -/

theorem Constraints.blames_required (h : c.ReadFrom e) (hv : c.verdict .notFilled = .invalid) :
    c.Blames e .notFilled := by
  have hrequired : c.isRequired = true := by
    cases hq : c.isRequired with
    | true => rfl
    | false => simp [verdict, hq] at hv
  obtain ⟨p, hp, hflag⟩ := h.property_of_isRequired hrequired
  refine ⟨.required, p, rfl, hp, ?_⟩
  intro g
  unfold Generator.generate
  rw [if_neg (by rw [hv]; decide)]
  refine Draw.always_pure ?_
  intro v hx
  cases hx
  simp only [Property.ViolatedBy, Element.kind_of_property? hp]
  exact ⟨hflag, trivial⟩

theorem Constraints.blames_of_invalid {case : DataCase} (h : c.ReadFrom e) (hc : c.check = .ok ())
    (ht : c.dataType ≠ .real) (hv : c.verdict case = .invalid) : c.Blames e case := by
  cases case with
  | value b => exact blames_value h hc ht hv
  | length b => exact blames_length h hv
  | formatInvalid => exact blames_format h hv
  | setOther => exact blames_set h ht hv
  | notFilled => exact blames_required h hv
  | formatValid | setFirst | setRandom | setLast | computed =>
    exact absurd (verdictIf_eq_invalid hv).2 (by decide)
  | filled => cases hv

/-- Every invalid case in the analysis of an element is about a property that the element
declares: it has the steps of that property, and all values drawn for it violate the property. -/
theorem invalid_case_violates_property {a : Analysis} {p : PlannedCase}
    (hc : Constraints.ofElement e = .ok c) (ht : c.dataType ≠ .real) (ha : e.analysis = .ok a)
    (hp : p ∈ a) (hv : p.verdict = .invalid) :
    ∃ kind property, c.violated p.case = some kind ∧ e.property? kind = some property ∧
      p.otherwiseSteps = property.otherwiseSteps ∧
      ∀ g : Generator, Draw.Always (g.generate p.case c) fun x =>
        ∀ v, x = .ok v → property.ViolatedBy c.dataType v := by
  obtain ⟨hread, hcheck⟩ := Constraints.ofElement_eq_ok hc
  simp only [Element.analysis, hc, Except.map, Except.ok.injEq] at ha
  subst ha
  obtain ⟨case, -, rfl⟩ := List.mem_map.1 hp
  obtain ⟨kind, property, hkind, hproperty, hdraw⟩ :=
    Constraints.blames_of_invalid hread hcheck ht hv
  refine ⟨kind, property, hkind, hproperty, ?_, hdraw⟩
  have hverdict : c.verdict case = .invalid := hv
  simp only [Element.plannedCase, Element.otherwiseSteps, hverdict, hkind, Option.bind_some,
    hproperty, if_true]

def tooYoung : Step where
  content := "Otherwise I see \"Too young\""
  kind := .otherwiseStep
  location := {}

def tooOld : Step := { tooYoung with content := "Otherwise I see \"Too old\"" }

/-- An element for the age of an adult who still works. -/
def workingAge : Element where
  name := "Age"
  properties := [
    { kind := .minValue, value := .int 18, otherwiseSteps := [tooYoung] },
    { kind := .maxValue, value := .int 65, otherwiseSteps := [tooOld] }]

def workingAgeConstraints : Constraints where
  dataType := .integer
  minValue := some (.int 18)
  maxValue := some (.int 65)

/-- Zero is too young an age. -/
theorem workingAge_zero_violates_minimum :
    Constraints.ofElement workingAge = .ok workingAgeConstraints ∧
      workingAgeConstraints.violated (.value .zero) = some .minValue ∧
      ∃ property, workingAge.property? .minValue = some property ∧
        property.otherwiseSteps = [tooYoung] ∧
        ∀ g : Generator, Draw.Always (g.generate (.value .zero) workingAgeConstraints) fun x =>
          ∀ v, x = .ok v → property.ViolatedBy .integer v := by
  have hc : Constraints.ofElement workingAge = .ok workingAgeConstraints := rfl
  have hp : workingAge.plannedCase workingAgeConstraints (.value .zero) ∈
      DataCase.all.map (workingAge.plannedCase workingAgeConstraints) :=
    List.mem_map_of_mem (by decide)
  obtain ⟨kind, property, hkind, hproperty, -, hdraw⟩ :=
    invalid_case_violates_property hc (by decide) (by rw [Element.analysis, hc]; rfl) hp rfl
  cases hkind
  refine ⟨hc, rfl, property, hproperty, ?_, hdraw⟩
  cases hproperty
  rfl

end TestDesign
