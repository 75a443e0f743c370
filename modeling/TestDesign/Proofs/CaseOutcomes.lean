import TestDesign.Proofs.Reading

/-!
# TestDesign.Proofs.CaseOutcomes

What can come of drawing the value of a data case, for every element whose properties are accepted
and every stream. `Outcome` lists it for the cases that are compatible with the element: a value of
its type, the empty text, or one of three failures that belong to one case each.

Each declared bound, length, format and set is checked once, when the element is read.
`exists_of_delta`, `exists_lengthRange` and `exists_format` say that it can still be used when a
value is drawn, so no draw ends with a fault of the properties.
-/

namespace TestDesign

open TestDesign.Random

/-! ## Ranges that were checked -/

theorem RealRange.exists_of_delta {lo hi delta : Option Float} {r : RealRange}
    (h : of lo hi delta = .ok r) (delta' : Option Float) : ∃ r', of lo hi delta' = .ok r' := by
  unfold of at h ⊢
  simp only at h ⊢
  split at h
  · cases h
  · rename_i hbounds
    rw [if_neg hbounds]
    exact ⟨_, rfl⟩

namespace ValueRange

/-- The type of the values in a range. -/
def dataType : ValueRange → DataType
  | integer _ => .integer
  | real _ => .real
  | date _ => .date
  | time _ => .time
  | dateTime _ => .dateTime

theorem always_drawAt_isOf (r : ValueRange) (b : Boundary) :
    Draw.Always (r.drawAt b) fun v => v.IsOf r.dataType := by
  cases r with
  | integer r | real r | date r | time r | dateTime r =>
    exact Draw.always_of_forall fun x => Draw.always_pure trivial

variable {α : Type} {t : DataType} {min max : Option Value} {delta : Option Float}

theorem dataType_whole {r : ValueRange} (h : whole t = some r) : r.dataType = t := by
  cases t with
  | integer | real | date | time | dateTime =>
    cases h
    rfl
  | string | boolean => cases h

theorem eq_wrap_of_steps {d : StepDomain α} {convert : Value → Option α}
    {wrap : StepRange d → ValueRange} {x : Option ValueRange}
    (h : steps d convert wrap min max = .ok x) : ∃ r, x = some (wrap r) := by
  unfold steps at h
  split at h
  · cases h
  · obtain ⟨r, -, rfl⟩ := map_eq_ok.1 h
    exact ⟨r, rfl⟩

/-- A range is one of the values of its type; strings and truth values have none. -/
theorem of_eq_ok {x : Option ValueRange} (h : of t min max delta = .ok x) :
    (∃ r, x = some r ∧ r.dataType = t) ∨ x = none ∧ (t = .string ∨ t = .boolean) := by
  cases t with
  | integer | date | time | dateTime =>
    obtain ⟨r, rfl⟩ := eq_wrap_of_steps h
    exact .inl ⟨_, rfl, rfl⟩
  | real =>
    simp only [of] at h
    split at h
    · cases h
    · obtain ⟨r, -, rfl⟩ := map_eq_ok.1 h
      exact .inl ⟨_, rfl, rfl⟩
  | string =>
    cases h
    exact .inr ⟨rfl, .inl rfl⟩
  | boolean =>
    cases h
    exact .inr ⟨rfl, .inr rfl⟩

/-- The distance between reals has no say in whether there is a range. -/
theorem exists_of_delta {x : Option ValueRange} (h : of t min max delta = .ok x)
    (delta' : Option Float) : ∃ y, of t min max delta' = .ok y ∧ y.isSome = x.isSome := by
  cases t with
  | integer | date | time | dateTime | string | boolean => exact ⟨x, h, rfl⟩
  | real =>
    simp only [of] at h ⊢
    split at h
    · cases h
    · obtain ⟨r, hr, rfl⟩ := map_eq_ok.1 h
      obtain ⟨r', hr'⟩ := RealRange.exists_of_delta hr delta'
      exact ⟨some (.real r'), by rw [hr']; rfl, rfl⟩

end ValueRange

namespace StepRange

variable {α : Type} {d : StepDomain α}

/-- Bounds in their order have a range, wherever they lie. -/
theorem exists_of (lo hi : Option α)
    (h : ∀ a ∈ lo, ∀ b ∈ hi, d.index a ≤ d.index b) : ∃ r, of d lo hi = .ok r := by
  have hgreatest := greatest_le_topFor d (hi.map d.index)
  have hdomain := d.lowest_le_greatest
  have hmin := boundFor_mem d (lo.map d.index) (Int.le_trans hdomain hgreatest) (Int.le_refl _)
    (Int.le_trans hdomain hgreatest)
  have hmax := boundFor_mem d (hi.map d.index) (Int.le_trans hdomain hgreatest) hdomain hgreatest
  suffices hle : boundFor d (topFor d (hi.map d.index)) d.lowest (lo.map d.index) ≤
      boundFor d (topFor d (hi.map d.index)) d.greatest (hi.map d.index) by
    unfold of
    simp only
    rw [dif_pos hle]
    exact ⟨_, rfl⟩
  cases lo with
  | none => exact hmax.1
  | some a =>
    cases hi with
    | none => exact hmin.2
    | some b => exact StepDomain.clamp_le_clamp (Int.le_trans hdomain hgreatest) (h a rfl b rfl)

end StepRange

namespace Constraints

variable {c : Constraints}

theorem exists_lengthRange (h : c.checkLengths = .ok ()) : ∃ r, c.lengthRange = .ok r := by
  refine StepRange.exists_of c.minLength c.maxLength ?_
  intro lo hlo hi hhi
  simp only [checkLengths, Option.mem_def.1 hlo, Option.mem_def.1 hhi] at h
  split at h
  · cases h
  · rename_i hle
    have hle := UInt64.not_lt.1 hle
    exact Int.ofNat_le.2 (UInt64.le_iff_toNat_le.1 hle)

/-- The format of an element is one of a string, and well formed. -/
theorem exists_format (h : c.checkFormat = .ok ()) {pattern : String}
    (hp : c.format = some pattern) :
    c.dataType = .string ∧ ∃ f, Pattern.Format.of? pattern = some f := by
  simp only [checkFormat, hp] at h
  split at h
  · cases h
  · rename_i ht
    split at h
    · cases h
    · rename_i hf
      exact ⟨Decidable.not_not.1 ht, Option.ne_none_iff_exists'.1 (by simpa using hf)⟩

theorem isOf_of_typedAll {t : DataType} {kind : PropertyKind} {xs ws : List Value}
    (h : typedAll t kind xs = .ok ws) : ∀ w ∈ ws, w.IsOf t := by
  induction xs generalizing ws with
  | nil =>
    cases h
    nofun
  | cons x xs ih =>
    simp only [typedAll, bind_eq_ok] at h
    obtain ⟨w, hw, ws', hws', hws⟩ := h
    cases hws
    intro v hv
    rcases List.mem_cons.1 hv with rfl | hv
    · exact isOf_of_typed? (x := some x) (by rw [typed?, hw]; rfl) rfl
    · exact ih hws' v hv

theorem verdictIf_ne_incompatible {declared : Bool} {v : Verdict}
    (h : verdictIf declared v ≠ .incompatible) : declared = true := by
  cases declared with
  | true => rfl
  | false => exact absurd rfl h

/-- A random valid case is valid, and does not leave its element empty by name. -/
theorem always_validCase (c : Constraints) :
    Draw.Always c.validCase fun case => c.verdict case = .valid ∧ isEmptying case = false := by
  unfold validCase
  refine Draw.always_bind (Draw.always_choose _) fun chosen hchosen => Draw.always_pure ?_
  cases chosen with
  | none => exact ⟨rfl, rfl⟩
  | some case =>
    obtain ⟨hmem, hfilled⟩ := List.mem_filter.1 (hchosen case rfl)
    exact ⟨of_decide_eq_true (List.mem_filter.1 hmem).2, by simpa using hfilled⟩

end Constraints

/-! ## Values -/

namespace Generator

variable {g : Generator} {c : Constraints} {e : Element} {b : Boundary} {case : DataCase}

/-- A value of the type of the element. -/
def TypedValue (c : Constraints) (x : Except DataError Value) : Prop :=
  ∃ v, x = .ok v ∧ v.IsOf c.dataType

/-- What may come of a case that is compatible with the constraints. -/
inductive Outcome (g : Generator) (c : Constraints) : DataCase → Except DataError Value → Prop
  | value {case : DataCase} {v : Value} (h : v.IsOf c.dataType) : Outcome g c case (.ok v)
  | empty : Outcome g c .notFilled (.ok (.text ""))
  | noMismatch : Outcome g c .formatInvalid (.error (.noInvalidValue .formatInvalid g.tries))
  | noOutsider : Outcome g c .setOther (.error (.noInvalidValue .setOther g.tries))
  | noComputed (h : c.value = none) : Outcome g c .computed (.error (.missingValue .computed))

theorem Outcome.of_typedValue {x : Except DataError Value} (h : TypedValue c x) :
    g.Outcome c case x := by
  obtain ⟨v, rfl, hv⟩ := h
  exact .value hv

theorem always_anyOf_isOf (g : Generator) (t : DataType) :
    Draw.Always (g.anyOf t) fun v => v.IsOf t := by
  unfold anyOf
  split
  · rename_i r hr
    have hdraw := r.always_drawAt_isOf .randomBetweenMinMax
    rw [ValueRange.dataType_whole hr] at hdraw
    exact hdraw
  · rename_i hr
    cases t with
    | boolean | string => exact Draw.always_of_forall fun x => Draw.always_pure trivial
    | integer | real | date | time | dateTime => cases hr

theorem always_outsider_isOf (g : Generator) (c : Constraints) (tries : Nat) :
    Draw.Always (g.outsider c tries) fun x => ∀ v ∈ x, v.IsOf c.dataType := by
  induction tries with
  | zero => exact Draw.always_pure nofun
  | succ tries ih =>
    refine Draw.always_bind (g.always_anyOf_isOf c.dataType) fun v hv => ?_
    split
    · exact ih
    · refine Draw.always_pure ?_
      intro w hw
      cases hw
      exact hv

theorem always_matching {pattern : String} {f : Pattern.Format}
    (hf : Pattern.Format.of? pattern = some f) (ht : c.dataType = .string) :
    Draw.Always (matching pattern) (TypedValue c) := by
  simp only [matching, hf]
  refine Draw.always_of_forall fun s => Draw.always_pure ⟨.text s, rfl, ?_⟩
  rw [ht]
  trivial

theorem always_text (ht : c.dataType = .string) (d : Draw String) :
    Draw.Always (do return .ok (.text (← d))) (TypedValue c) := by
  refine Draw.always_of_forall fun s => Draw.always_pure ⟨.text s, rfl, ?_⟩
  rw [ht]
  trivial

theorem always_atRange {r : ValueRange} (ht : r.dataType = c.dataType) (b : Boundary) :
    Draw.Always (do return .ok (← r.drawAt b)) (TypedValue c) := by
  have hdraw := r.always_drawAt_isOf b
  rw [ht] at hdraw
  exact Draw.always_bind hdraw fun v hv => Draw.always_pure ⟨v, rfl, hv⟩

/-- Without a declared value there is always something to fill in, whatever the type. -/
theorem always_plain (g : Generator) (hc : c.check = .ok ()) :
    Draw.Always (g.plain c) (TypedValue c) := by
  obtain ⟨-, hlengths, x, hx⟩ := Constraints.check_eq_ok hc
  obtain ⟨y, hy, -⟩ := ValueRange.exists_of_delta hx g.realDelta
  have hrange : c.valueRange g.realDelta = .ok y := hy
  unfold plain
  rw [hrange]
  rcases ValueRange.of_eq_ok hy with ⟨r, rfl, ht⟩ | ⟨rfl, ht⟩
  · exact always_atRange ht _
  · simp only
    split
    · rename_i hboolean
      refine Draw.always_of_forall fun x => Draw.always_pure ⟨.bool x, rfl, ?_⟩
      rw [hboolean]
      trivial
    · rename_i hboolean
      have hstring := ht.resolve_right hboolean
      split
      · obtain ⟨r, hr⟩ := Constraints.exists_lengthRange hlengths
        rw [hr]
        exact always_text hstring _
      · exact always_text hstring _

theorem always_filled_isOf (g : Generator) (h : c.ReadFrom e) (hc : c.check = .ok ()) :
    Draw.Always (g.filled c) (TypedValue c) := by
  obtain ⟨hformat, -, -⟩ := Constraints.check_eq_ok hc
  unfold filled
  split
  · rename_i v hv
    exact Draw.always_pure ⟨v, rfl, Constraints.isOf_of_typed? h.value hv⟩
  · refine Draw.always_bind (Draw.always_choose c.accepted) fun x hx => ?_
    split
    · rename_i v
      exact Draw.always_pure ⟨v, rfl, Constraints.isOf_of_typedAll h.accepted v (hx v rfl)⟩
    · split
      · rename_i pattern hpattern
        obtain ⟨ht, f, hf⟩ := Constraints.exists_format hformat hpattern
        exact always_matching hf ht
      · exact g.always_plain hc

theorem always_atValue (g : Generator) (hv : c.verdict (.value b) ≠ .incompatible) :
    Draw.Always (g.atValue b c) (TypedValue c) := by
  simp only [Constraints.verdict, Constraints.valueExtent?] at hv
  split at hv
  · rename_i r hr
    obtain ⟨y, hy, hsome⟩ := ValueRange.exists_of_delta hr g.realDelta
    have hrange : c.valueRange g.realDelta = .ok y := hy
    unfold atValue
    rw [hrange]
    rcases ValueRange.of_eq_ok hy with ⟨r', rfl, ht⟩ | ⟨rfl, -⟩
    · exact always_atRange ht b
    · cases hsome
  · exact absurd rfl hv

theorem always_atLength_isOf (hv : c.verdict (.length b) ≠ .incompatible) :
    Draw.Always (atLength b c) (TypedValue c) := by
  simp only [Constraints.verdict, Constraints.lengthExtent?] at hv
  split at hv
  · exact absurd rfl hv
  · rename_i ht
    split at hv
    · rename_i r hr
      unfold atLength
      rw [hr]
      exact Draw.always_of_forall fun n => always_text (Decidable.not_not.1 ht) _
    · exact absurd rfl hv

theorem always_mismatching (g : Generator) (hc : c.check = .ok ())
    (hv : c.verdict .formatInvalid ≠ .incompatible) :
    Draw.Always (g.mismatching c) (g.Outcome c .formatInvalid) := by
  obtain ⟨hformat, -, -⟩ := Constraints.check_eq_ok hc
  have hdeclared := Constraints.verdictIf_ne_incompatible hv
  obtain ⟨pattern, hpattern⟩ := Option.isSome_iff_exists.1 hdeclared
  obtain ⟨ht, f, hf⟩ := Constraints.exists_format hformat hpattern
  simp only [mismatching, hpattern, hf]
  refine Draw.always_of_forall fun x => ?_
  cases x with
  | some s =>
    refine Draw.always_pure (.value ?_)
    rw [ht]
    trivial
  | none => exact Draw.always_pure .noMismatch

theorem always_setOther (g : Generator) (c : Constraints) :
    Draw.Always (g.compatible .setOther c) (g.Outcome c .setOther) := by
  refine Draw.always_bind (g.always_outsider_isOf c g.tries) fun x hx => ?_
  cases x with
  | some v => exact Draw.always_pure (.value (hx v rfl))
  | none => exact Draw.always_pure .noOutsider

/-- The outcomes of compatible cases, one case after the other. -/
theorem always_compatible (g : Generator) (h : c.ReadFrom e) (hc : c.check = .ok ())
    (hv : c.verdict case ≠ .incompatible) :
    Draw.Always (g.compatible case c) (g.Outcome c case) := by
  have hset (hv : Constraints.verdictIf c.hasAccepted .valid ≠ .incompatible) :
      c.accepted ≠ [] := by
    have hdeclared := Constraints.verdictIf_ne_incompatible hv
    intro hnil
    simp [Constraints.hasAccepted, hnil] at hdeclared
  cases case with
  | value b => exact (g.always_atValue hv).mono fun _ => .of_typedValue
  | length b => exact (always_atLength_isOf hv).mono fun _ => .of_typedValue
  | formatValid =>
    obtain ⟨hformat, -, -⟩ := Constraints.check_eq_ok hc
    have hdeclared := Constraints.verdictIf_ne_incompatible hv
    obtain ⟨pattern, hpattern⟩ := Option.isSome_iff_exists.1 hdeclared
    obtain ⟨ht, f, hf⟩ := Constraints.exists_format hformat hpattern
    simp only [compatible, hpattern]
    exact (always_matching hf ht).mono fun _ => .of_typedValue
  | formatInvalid => exact g.always_mismatching hc hv
  | setFirst =>
    obtain ⟨v, vs, hvs⟩ := List.exists_cons_of_ne_nil (hset hv)
    have hmem : v ∈ c.accepted := by simp [hvs]
    simp only [compatible, hvs, List.head?_cons, orIncompatible]
    exact Draw.always_pure (.value (Constraints.isOf_of_typedAll h.accepted v hmem))
  | setRandom =>
    refine Draw.always_bind (Draw.always_choose_some (hset hv)) ?_
    rintro x ⟨v, hmem, rfl⟩
    exact Draw.always_pure (.value (Constraints.isOf_of_typedAll h.accepted v hmem))
  | setLast =>
    have hlast := List.getLast?_eq_some_getLast (hset hv)
    have hmem := List.getLast_mem (hset hv)
    simp only [compatible, hlast, orIncompatible]
    exact Draw.always_pure (.value (Constraints.isOf_of_typedAll h.accepted _ hmem))
  | setOther => exact g.always_setOther c
  | filled => exact (g.always_filled_isOf h hc).mono fun _ => .of_typedValue
  | notFilled => exact Draw.always_pure .empty
  | computed =>
    simp only [compatible]
    split
    · rename_i v hvalue
      exact Draw.always_pure (.value (Constraints.isOf_of_typed? h.value hvalue))
    · rename_i hvalue
      exact Draw.always_pure (.noComputed hvalue)

theorem always_generate (g : Generator) (h : c.ReadFrom e) (hc : c.check = .ok ())
    (case : DataCase) :
    Draw.Always (g.generate case c) fun x =>
      if c.verdict case = .incompatible then x = .error (.incompatible case c.dataType)
      else g.Outcome c case x := by
  unfold generate
  split
  · exact Draw.always_pure rfl
  · rename_i hv
    exact g.always_compatible h hc hv

theorem Outcome.not_configuration {fault : DataError} (h : g.Outcome c case (.error fault)) :
    fault.isConfiguration = false := by
  cases h with
  | noMismatch | noOutsider | noComputed => rfl

theorem Outcome.not_incompatible {case' : DataCase} {t : DataType} :
    ¬ g.Outcome c case (.error (.incompatible case' t)) := nofun

/-- A case has no value because it is incompatible exactly when its verdict says so. Any other case
gives a value of the type of the element, or the empty text for an element that is not filled, or
fails in the way of its own; the properties of the element are never at fault. -/
theorem case_gives_value_or_own_failure (h : Constraints.ofElement e = .ok c) (g : Generator)
    (case : DataCase) :
    Draw.Always (g.generate case c) fun x =>
      ((∃ case' t, x = .error (.incompatible case' t)) ↔ c.verdict case = .incompatible) ∧
      (c.verdict case ≠ .incompatible → g.Outcome c case x) ∧
      ∀ fault, x = .error fault → fault.isConfiguration = false := by
  obtain ⟨hread, hcheck⟩ := Constraints.ofElement_eq_ok h
  refine (g.always_generate hread hcheck case).mono ?_
  intro x hx
  split at hx
  · rename_i hv
    refine ⟨⟨fun _ => hv, fun _ => ⟨case, c.dataType, hx⟩⟩, fun hne => absurd hv hne, ?_⟩
    intro fault hfault
    rw [hx] at hfault
    cases hfault
    rfl
  · rename_i hv
    refine ⟨⟨?_, fun heq => absurd heq hv⟩, fun _ => hx, ?_⟩
    · rintro ⟨case', t, rfl⟩
      exact absurd hx Outcome.not_incompatible
    · rintro fault rfl
      exact hx.not_configuration

/-- An element with a value that is computed elsewhere, where it is not written down. -/
def total : Element where
  name := "Total"
  properties := [
    { kind := .computed, value := .bool true },
    { kind := .minValue, value := .int 0 }]

def totalConstraints : Constraints where
  dataType := .integer
  minValue := some (.int 0)
  isComputed := true

/-- The computed total is a valid case that may lack its value; a format is not for integers. -/
theorem total_gives_value_or_own_failure :
    Constraints.ofElement total = .ok totalConstraints ∧
      totalConstraints.verdict .computed = .valid ∧
      ∀ g : Generator,
        Draw.Always (g.generate .computed totalConstraints)
          (g.Outcome totalConstraints .computed) ∧
        Draw.Always (g.generate .formatValid totalConstraints) fun x =>
          ∃ case' t, x = .error (.incompatible case' t) := by
  have h : Constraints.ofElement total = .ok totalConstraints := rfl
  refine ⟨h, rfl, ?_⟩
  intro g
  refine ⟨?_, ?_⟩
  · exact (case_gives_value_or_own_failure h g .computed).mono fun x hx => hx.2.1 (by decide)
  · exact (case_gives_value_or_own_failure h g .formatValid).mono fun x hx => hx.1.2 rfl

end Generator

end TestDesign
