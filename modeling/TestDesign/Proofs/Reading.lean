import TestDesign.Proofs.SteppedValues

/-!
# TestDesign.Proofs.Reading

What is known of the constraints of an element once they have been read and checked: every demand
comes from a property of the element (`ReadFrom`), and declared values have the type of the
element (`isOf_of_convert?`).
-/

namespace TestDesign

theorem exists_of_isOk {ε α : Type} {r : Except ε α} (h : r.isOk = true) : ∃ x, r = .ok x := by
  cases r with
  | error e => cases h
  | ok x => exact ⟨x, rfl⟩

theorem bind_eq_ok {ε α β : Type} {x : Except ε α} {f : α → Except ε β} {b : β} :
    x >>= f = .ok b ↔ ∃ a, x = .ok a ∧ f a = .ok b := by
  cases x with
  | error e => simp [bind, Except.bind]
  | ok a => simp [bind, Except.bind]

theorem map_eq_ok {ε α β : Type} {x : Except ε α} {f : α → β} {b : β} :
    x.map f = .ok b ↔ ∃ a, x = .ok a ∧ f a = b := by
  cases x with
  | error e => simp [Except.map]
  | ok a => simp [Except.map]

theorem Value.isOf_of_convert? {v w : Value} {t : DataType} (h : v.convert? t = some w) :
    w.IsOf t := by
  cases t with
  | string =>
    cases h
    trivial
  | integer =>
    simp only [convert?] at h
    split at h
    · cases h
      trivial
    · obtain ⟨n, -, rfl⟩ := Option.map_eq_some_iff.1 h
      trivial
  | real | boolean | date | time | dateTime =>
    obtain ⟨x, -, rfl⟩ := Option.map_eq_some_iff.1 h
    trivial

/-- A length that is read is one that a signed word holds. -/
theorem Value.length?_le {v : Value} {n : UInt64} (h : v.length? = some n) :
    n.toNat ≤ maxInt := by
  unfold length? at h
  unfold maxInt
  split at h
  · rename_i m _
    have hm := m.toInt_lt
    split at h
    · cases h
      rw [UInt64.toNat_ofNat_of_lt' (by unfold UInt64.size; omega)]
      omega
    · cases h
  · cases h

namespace Element

variable {e : Element} {kind : PropertyKind}

theorem kind_of_property? {p : Property} (h : e.property? kind = some p) : p.kind = kind := by
  have hkind := List.find?_some h
  exact of_decide_eq_true hkind

theorem exists_property {v : Value} (h : e.declared? kind = some v) :
    ∃ p, e.property? kind = some p ∧ p.value = v :=
  Option.map_eq_some_iff.1 h

end Element

namespace Constraints

theorem check_eq_ok {c : Constraints} (h : c.check = .ok ()) :
    c.checkFormat = .ok () ∧ c.checkLengths = .ok () ∧ ∃ r, c.valueRange none = .ok r := by
  simp only [check, bind_eq_ok] at h
  obtain ⟨_, hformat, _, hlengths, r, hr, -⟩ := h
  exact ⟨hformat, hlengths, r, hr⟩

theorem check_of_valueRange {c : Constraints} {r : Option ValueRange}
    (hformat : c.checkFormat = .ok ()) (hlengths : c.checkLengths = .ok ())
    (hr : c.valueRange none = .ok r) : c.check = .ok () := by
  simp only [check, bind_eq_ok]
  exact ⟨(), hformat, (), hlengths, r, hr, rfl⟩

/-- Only strings have a format. -/
theorem format_eq_none {c : Constraints} (h : c.checkFormat = .ok ()) (ht : c.dataType ≠ .string) :
    c.format = none := by
  unfold checkFormat at h
  split at h
  · assumption
  · simp [ht] at h

/-- The demands are those that the properties of an element declare, in the type of the element. -/
structure ReadFrom (c : Constraints) (e : Element) : Prop where
  dataType : typeOf e ([singleOf e, (itemsOf e).head?, e.declared? .minValue,
    e.declared? .maxValue].filterMap id) = .ok c.dataType
  value : typed? c.dataType .value (singleOf e) = .ok c.value
  accepted : typedAll c.dataType .value (itemsOf e) = .ok c.accepted
  minValue : typed? c.dataType .minValue (e.declared? .minValue) = .ok c.minValue
  maxValue : typed? c.dataType .maxValue (e.declared? .maxValue) = .ok c.maxValue
  minLength : lengthOf? .minLength (e.declared? .minLength) = .ok c.minLength
  maxLength : lengthOf? .maxLength (e.declared? .maxLength) = .ok c.maxLength
  format : c.format = (e.declared? .format).map Value.typed
  isRequired : c.isRequired = flag (e.declared? .required)
  isComputed : c.isComputed = flag (e.declared? .computed)

variable {e : Element} {c : Constraints}

theorem readFrom_of_read (h : read e = .ok c) : c.ReadFrom e := by
  simp only [read, bind_eq_ok] at h
  obtain ⟨type, htype, value, hvalue, accepted, haccepted, min, hmin, max, hmax, minLength,
    hminLength, maxLength, hmaxLength, hc⟩ := h
  cases hc
  exact {
    dataType := htype, value := hvalue, accepted := haccepted, minValue := hmin, maxValue := hmax
    minLength := hminLength, maxLength := hmaxLength, format := rfl, isRequired := rfl
    isComputed := rfl }

theorem read_of_readFrom (h : c.ReadFrom e) : read e = .ok c := by
  simp only [read, bind_eq_ok]
  refine ⟨_, h.dataType, _, h.value, _, h.accepted, _, h.minValue, _, h.maxValue, _, h.minLength, _,
    h.maxLength, ?_⟩
  rw [← h.format, ← h.isRequired, ← h.isComputed]
  rfl

theorem ofElement_eq_ok (h : ofElement e = .ok c) : c.ReadFrom e ∧ c.check = .ok () := by
  simp only [ofElement, bind_eq_ok] at h
  obtain ⟨c', hread, _, hcheck, hc⟩ := h
  cases hc
  exact ⟨readFrom_of_read hread, hcheck⟩

theorem ofElement_of_readFrom (h : c.ReadFrom e) (hc : c.check = .ok ()) : ofElement e = .ok c := by
  simp only [ofElement, bind_eq_ok]
  exact ⟨c, read_of_readFrom h, (), hc, rfl⟩

theorem convert?_of_typed? {t : DataType} {kind : PropertyKind} {x : Option Value} {w : Value}
    (h : typed? t kind x = .ok (some w)) : ∃ v, x = some v ∧ v.convert? t = some w := by
  cases x with
  | none => cases h
  | some v =>
    refine ⟨v, rfl, ?_⟩
    simp only [typed?, typed] at h
    cases hv : v.convert? t with
    | none =>
      rw [hv] at h
      cases h
    | some w' =>
      rw [hv] at h
      cases h
      rfl

theorem isOf_of_typed? {t : DataType} {kind : PropertyKind} {x y : Option Value} {v : Value}
    (h : typed? t kind x = .ok y) (hv : y = some v) : v.IsOf t := by
  subst hv
  obtain ⟨w, -, hw⟩ := convert?_of_typed? h
  exact Value.isOf_of_convert? hw

/-- A value that is read is declared by the property of its kind. -/
theorem property_of_typed? {t : DataType} {kind : PropertyKind} {y : Option Value} {v : Value}
    (h : typed? t kind (e.declared? kind) = .ok y) (hv : y = some v) :
    ∃ p, e.property? kind = some p ∧ p.value.convert? t = some v := by
  subst hv
  obtain ⟨w, hw, hconv⟩ := convert?_of_typed? h
  obtain ⟨p, hp, rfl⟩ := Element.exists_property hw
  exact ⟨p, hp, hconv⟩

/-- A length that is read is declared by the property of its kind. -/
theorem property_of_lengthOf? {kind : PropertyKind} {y : Option UInt64} {n : UInt64}
    (h : lengthOf? kind (e.declared? kind) = .ok y) (hn : y = some n) :
    ∃ p, e.property? kind = some p ∧ p.value.length? = some n := by
  subst hn
  cases hv : e.declared? kind with
  | none =>
    rw [hv] at h
    cases h
  | some v =>
    obtain ⟨p, hp, rfl⟩ := Element.exists_property hv
    rw [hv] at h
    simp only [lengthOf?] at h
    split at h
    · rename_i hlength
      cases h
      exact ⟨p, hp, hlength⟩
    · cases h

theorem typedAll_eq_ok {t : DataType} {kind : PropertyKind} {xs ws : List Value}
    (h : typedAll t kind xs = .ok ws) : ∀ x ∈ xs, ∃ w ∈ ws, x.convert? t = some w := by
  induction xs generalizing ws with
  | nil => nofun
  | cons x xs ih =>
    simp only [typedAll, bind_eq_ok] at h
    obtain ⟨w, hw, ws', hws', hws⟩ := h
    cases hws
    intro y hy
    rcases List.mem_cons.1 hy with rfl | hy
    · obtain ⟨v, hv, hconv⟩ := convert?_of_typed? (x := some y) (by rw [typed?, hw]; rfl)
      cases hv
      exact ⟨w, List.mem_cons_self, hconv⟩
    · obtain ⟨v, hv, hconv⟩ := ih hws' y hy
      exact ⟨v, List.mem_cons_of_mem _ hv, hconv⟩

/-! ## Demands and the properties that they come from -/

namespace ReadFrom

variable (h : c.ReadFrom e) {n : UInt64}
include h

theorem maxLength_le (hn : c.maxLength = some n) : n.toNat ≤ Value.maxInt := by
  obtain ⟨p, -, hlength⟩ := property_of_lengthOf? h.maxLength hn
  exact Value.length?_le hlength

/-- Accepted values are listed by the property for the value. -/
theorem property_of_accepted (ha : c.accepted ≠ []) :
    ∃ p items, e.property? .value = some p ∧ p.value = .list items ∧ items ≠ [] ∧
      ∀ item ∈ items, ∃ v ∈ c.accepted, item.convert? c.dataType = some v := by
  have hitems := h.accepted
  cases hv : e.declared? .value with
  | none =>
    simp only [itemsOf, hv, typedAll, Except.ok.injEq] at hitems
    exact absurd hitems.symm ha
  | some x =>
    obtain ⟨p, hp, rfl⟩ := Element.exists_property hv
    cases hx : p.value with
    | list items =>
      simp only [itemsOf, hv, hx] at hitems
      refine ⟨p, items, hp, hx, ?_, typedAll_eq_ok hitems⟩
      rintro rfl
      simp only [typedAll, Except.ok.injEq] at hitems
      exact ha hitems.symm
    | bool | int | real | text | date | time | dateTime =>
      simp only [itemsOf, hv, hx, typedAll, Except.ok.injEq] at hitems
      exact absurd hitems.symm ha

theorem property_of_format {pattern : String} (hf : c.format = some pattern) :
    ∃ p, e.property? .format = some p ∧ p.value.typed = pattern := by
  obtain ⟨x, hv, rfl⟩ := Option.map_eq_some_iff.1 (h.format ▸ hf)
  obtain ⟨p, hp, rfl⟩ := Element.exists_property hv
  exact ⟨p, hp, rfl⟩

theorem property_of_isRequired (hq : c.isRequired = true) :
    ∃ p, e.property? .required = some p ∧ flag (some p.value) = true := by
  rw [h.isRequired] at hq
  cases hv : e.declared? .required with
  | none =>
    rw [hv] at hq
    cases hq
  | some v =>
    rw [hv] at hq
    obtain ⟨p, hp, rfl⟩ := Element.exists_property hv
    exact ⟨p, hp, hq⟩

end ReadFrom

end Constraints

namespace Stepped

variable {t : DataType} {α : Type} {d : StepDomain α} (S : Stepped t d) {c : Constraints}
  {lo hi : Option α}

theorem exists_range (hb : S.Bounds c lo hi) (hc : c.check = .ok ()) :
    ∃ r, StepRange.of d lo hi = .ok r := by
  obtain ⟨-, -, x, hx⟩ := Constraints.check_eq_ok hc
  rw [S.valueRange_eq hb] at hx
  cases hr : StepRange.of d lo hi with
  | error e => simp [hr, Except.map] at hx
  | ok r => exact ⟨r, rfl⟩

/-- The bounds that are read for an element of the type are values of the type. -/
theorem exists_bounds {e : Element} (h : c.ReadFrom e) (ht : c.dataType = t) :
    ∃ lo hi, S.Bounds c lo hi := by
  have hlo : ∃ lo : Option α, c.minValue = lo.map S.value := by
    cases hv : c.minValue with
    | none => exact ⟨none, rfl⟩
    | some v =>
      obtain ⟨x, rfl⟩ := S.exists_value (ht ▸ Constraints.isOf_of_typed? h.minValue hv)
      exact ⟨some x, rfl⟩
  have hhi : ∃ hi : Option α, c.maxValue = hi.map S.value := by
    cases hv : c.maxValue with
    | none => exact ⟨none, rfl⟩
    | some v =>
      obtain ⟨x, rfl⟩ := S.exists_value (ht ▸ Constraints.isOf_of_typed? h.maxValue hv)
      exact ⟨some x, rfl⟩
  obtain ⟨lo, hlo⟩ := hlo
  obtain ⟨hi, hhi⟩ := hhi
  exact ⟨lo, hi, ht, hlo, hhi⟩

end Stepped

end TestDesign
