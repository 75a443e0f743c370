import Mathlib.Data.List.Forall2
import TestDesign.Proofs.CalendarTexts
import TestDesign.Proofs.CaseOutcomes

/-!
# TestDesign.Proofs.SpelledValues

Values that their texts give back. The text of a truth value, an integer, a text, a date or a time
without a fraction of a second is converted to the same value (`Value.convert?_text`), so an element
with a declared type may spell its values, accepted values and bounds as texts (`Element.Spells`)
and has the same constraints as with the values themselves.
-/

namespace TestDesign

open Calendar

namespace Value

/-- The text of the value says all of it: the value is no real, has no fraction of a second, and its
year is one that dates may have. -/
def KeptByText : Value → Prop
  | bool _ | int _ | text _ => True
  | date d => d.InRange
  | time t => t.nano = 0
  | dateTime m => m.date.InRange ∧ m.time.nano = 0
  | real _ | list _ => False

variable {v : Value} {t : DataType}

theorem legible_text (s : String) : legible (text s) = Text.trim s := rfl

/-- A value is converted to its own type as it is. -/
theorem convert?_self (h : v.KeptByText) : v.convert? v.dataType = some v := by
  cases v with
  | bool | int | text | date | time | dateTime => rfl
  | real | list => cases h

/-- The text of a value is converted to the type of the value, and is the value again. -/
theorem convert?_text (h : v.KeptByText) : (text v.typed).convert? v.dataType = some v := by
  cases v with
  | real | list => cases h
  | text s => rfl
  | bool b =>
    have hsolid : Text.Solid (typed (bool b)) := solid_of_visible (by cases b <;> rfl)
    have hread : boolOfText? (legible (text (typed (bool b)))) = some b := by
      rw [legible, typed, hsolid.trim_eq]
      cases b <;> rfl
    simp only [dataType, convert?, asBool, hread, Option.none_or, Option.map_some]
  | int n =>
    have hread : Decimal.integerWithin? minInt maxInt (legible (text (typed (int n)))) =
        some n.toInt := by
      have htrim : legible (text (typed (int n))) = toString n.toInt :=
        Text.Solid.trim_eq (Decimal.not_isBlank_of_mem_toString n.toInt)
      rw [htrim, integerWithin?_toString]
    simp only [dataType, convert?, asInt, hread, Option.map_some, Int64.ofInt_toInt]
  | date d =>
    have hread : Date.ofText? (legible (text (typed (date d)))) = some d := by
      rw [legible_text]
      exact (congrArg _ (solid_dateText d).trim_eq).trans (Date.ofText?_text d h)
    simp only [dataType, convert?, asDate, hread, Option.none_or, Option.map_some]
  | time t =>
    have hread : Time.ofText? (legible (text (typed (time t)))) = some t := by
      rw [legible_text]
      exact (congrArg _ (solid_timeText t).trim_eq).trans (Time.ofText?_text t h)
    simp only [dataType, convert?, asTime, hread, Option.none_or, Option.map_some]
  | dateTime m =>
    have hread : Moment.ofText? (legible (text (typed (dateTime m)))) = some m := by
      rw [legible_text]
      exact (congrArg _ (trim_momentText m)).trans (Moment.ofText?_text m h.1 h.2)
    simp only [dataType, convert?, asDateTime, hread, Option.none_or, Option.map_some]

end Value

/-! ## Elements that spell their values -/

/-- A declared value, and how it is declared instead: as it is, or by its text if it has the type of
the element. -/
inductive Spelled (t : DataType) : Value → Value → Prop
  | same (v : Value) : Spelled t v v
  | text {v : Value} (hkept : v.KeptByText) (htype : v.dataType = t) : Spelled t v (.text v.typed)

/-- The same for the value of an element, which may be a list of accepted values. -/
inductive SpelledValue (t : DataType) : Value → Value → Prop
  | single {v w : Value} (h : Spelled t v w) : SpelledValue t v w
  | items {vs ws : List Value} (h : List.Forall₂ (Spelled t) vs ws) :
    SpelledValue t (.list vs) (.list ws)

/-- An element with a declared type, and one that declares the same, but may spell the value and the
bounds as texts. -/
structure Element.Spells (t : DataType) (e e' : Element) : Prop where
  dataType : ∃ v, e.declared? .dataType = some v ∧ DataType.ofText? v.typed = some t
  value : Option.Rel (SpelledValue t) (e.declared? .value) (e'.declared? .value)
  minValue : Option.Rel (Spelled t) (e.declared? .minValue) (e'.declared? .minValue)
  maxValue : Option.Rel (Spelled t) (e.declared? .maxValue) (e'.declared? .maxValue)
  others : ∀ kind, kind ≠ .value → kind ≠ .minValue → kind ≠ .maxValue →
    e'.declared? kind = e.declared? kind

namespace Constraints

variable {t : DataType} {e e' : Element} {kind : PropertyKind}

theorem typed_of_spelled {v w : Value} (h : Spelled t v w) : typed t kind w = typed t kind v := by
  cases h with
  | same => rfl
  | text hkept htype =>
    subst htype
    rw [typed, typed, Value.convert?_text hkept, Value.convert?_self hkept]

theorem typed?_of_spelled {x y : Option Value} (h : Option.Rel (Spelled t) x y) :
    typed? t kind y = typed? t kind x := by
  cases h with
  | none => rfl
  | some h => rw [typed?, typed?, typed_of_spelled h]

theorem typedAll_of_spelled {vs ws : List Value} (h : List.Forall₂ (Spelled t) vs ws) :
    typedAll t kind ws = typedAll t kind vs := by
  induction h with
  | nil => rfl
  | cons h _ ih => rw [typedAll, typedAll, typed_of_spelled h, ih]

/-- The value that is no list, and the items of the list, are spelled as the value is. -/
theorem spelled_value (h : Option.Rel (SpelledValue t) (e.declared? .value) (e'.declared? .value)) :
    Option.Rel (Spelled t) (singleOf e) (singleOf e') ∧
      List.Forall₂ (Spelled t) (itemsOf e) (itemsOf e') := by
  unfold singleOf itemsOf
  generalize e.declared? .value = x, e'.declared? .value = y at h
  cases h with
  | none => exact ⟨.none, .nil⟩
  | @some v w h =>
    cases h with
    | items h => exact ⟨.none, h⟩
    | single h =>
      cases v with
      | list vs =>
        cases h with
        | same => exact ⟨.none, List.forall₂_same.2 fun v _ => .same v⟩
        | text hkept => cases hkept
      | bool | int | real | text | date | time | dateTime =>
        cases h with
        | same => exact ⟨.some (.same _), .nil⟩
        | text hkept htype => exact ⟨.some (.text hkept htype), .nil⟩

theorem read_of_spells (h : Element.Spells t e e') : read e' = read e := by
  obtain ⟨v, hv, htype⟩ := h.dataType
  obtain ⟨hsingle, hitems⟩ := spelled_value h.value
  have hv' : e'.declared? .dataType = some v := by
    rw [h.others .dataType (by decide) (by decide) (by decide), hv]
  have htypeOf {x : Element} (hx : x.declared? .dataType = some v) (declared : List Value) :
      typeOf x declared = pure t := by
    simp only [typeOf, hx, htype]
    rfl
  simp (disch := decide) only [read, htypeOf hv, htypeOf hv', pure_bind,
    typed?_of_spelled hsingle, typedAll_of_spelled hitems, typed?_of_spelled h.minValue,
    typed?_of_spelled h.maxValue, h.others]

/-- The element with spelled values has the same constraints, or fails in the same way. -/
theorem ofElement_of_spells (h : Element.Spells t e e') : ofElement e' = ofElement e := by
  rw [ofElement, ofElement, read_of_spells h]

end Constraints

/-- The text of a value is converted to the value again. So an element with a declared type that
spells its value, its accepted values or its bounds as texts has the same constraints as one that
declares them as values of the type, or is refused for the same fault. -/
theorem texts_keep_values :
    (∀ v : Value, v.KeptByText → (Value.text v.typed).convert? v.dataType = some v) ∧
      ∀ (t : DataType) (e e' : Element), e.Spells t e' →
        Constraints.ofElement e' = Constraints.ofElement e :=
  ⟨fun _ => Value.convert?_text, fun _ _ _ => Constraints.ofElement_of_spells⟩

/-- A day before the year 0, and a leap day after the year 9999. -/
def ides : Date := ⟨-43, 3, 15, by decide⟩

def lateLeapDay : Date := ⟨12000, 2, 29, by decide⟩

theorem ides_inRange : ides.InRange := by decide

theorem lateLeapDay_inRange : lateLeapDay.InRange := by decide

/-- An era with both ends declared as dates, and one that spells them. -/
def era : Element where
  name := "Era"
  properties := [
    { kind := .dataType, value := .text "date" },
    { kind := .minValue, value := .date ides },
    { kind := .maxValue, value := .date lateLeapDay }]

def spelledEra : Element where
  name := "Era"
  properties := [
    { kind := .dataType, value := .text "date" },
    { kind := .minValue, value := .text "-0043-03-15" },
    { kind := .maxValue, value := .text "+12000-02-29" }]

theorem era_spells : era.Spells .date spelledEra where
  dataType := ⟨.text "date", rfl, by decide +kernel⟩
  value := .none
  minValue := by
    have htext : (Value.date ides).typed = "-0043-03-15" := rfl
    exact .some (htext ▸ .text (v := .date ides) ides_inRange rfl)
  maxValue := by
    have htext : (Value.date lateLeapDay).typed = "+12000-02-29" := rfl
    exact .some (htext ▸ .text (v := .date lateLeapDay) lateLeapDay_inRange rfl)
  others kind hvalue hmin hmax := by
    cases kind with
    | value | minValue | maxValue => contradiction
    | id | minLength | maxLength | format | required | dataType | computed => rfl

/-- The era is the same, with dates outside the years of four digits. -/
theorem era_keeps_values :
    Value.KeptByText (.date ides) ∧
      (Value.text "-0043-03-15").convert? .date = some (.date ides) ∧
      era.Spells .date spelledEra ∧
      Constraints.ofElement spelledEra = Constraints.ofElement era := by
  have hkept : Value.KeptByText (.date ides) := ides_inRange
  have htext : (Value.date ides).typed = "-0043-03-15" := rfl
  exact ⟨hkept, htext ▸ texts_keep_values.1 _ hkept, era_spells,
    texts_keep_values.2 _ _ _ era_spells⟩

end TestDesign
