import TestDesign.Proofs.CaseOutcomes

/-!
# TestDesign.Proofs.NumberSets

Elements that declare nothing but a list of numbers. Their type is that of the first number, so it
depends on the order of the list as soon as both integers and reals are listed. Whether such a list
is accepted depends on its order as well, as soon as a real that is no integer is listed with an
integer: behind the integer it has no form in the type of the element, for its text is not read as
an integer either (`Decimal.integer?_trim_text`).
-/

namespace TestDesign

/-! ## Texts of fractions -/

namespace Text

/-- What stands between two texts stays when the blanks at the ends go. -/
theorem mem_trimChars {c : Char} {cs : List Char} (hc : c ∈ cs) (hblank : isBlank c = false) :
    c ∈ trimChars cs := by
  have hkeep : ∀ ds : List Char, c ∈ ds → c ∈ ds.dropWhile isBlank := by
    intro ds hds
    rw [← List.takeWhile_append_dropWhile (p := isBlank) (l := ds)] at hds
    rcases List.mem_append.1 hds with hds | hds
    · have hall := List.all_eq_true.1 (List.all_takeWhile (p := isBlank) (l := ds)) c hds
      exact absurd hall (by simp [hblank])
    · exact hds
  exact List.mem_reverse.2 (hkeep _ (List.mem_reverse.2 (hkeep _ hc)))

end Text

namespace Decimal

variable {m : Nat} {q : Int} {x : Float} {negative : Bool}

theorem significand_lt (h : Parts.of x = .finite negative m q) : m < twoTo 53 := by
  have hfraction : x.toBits.toNat % twoTo 52 < twoTo 52 := Nat.mod_lt _ (twoTo_pos 52)
  have htwice : twoTo 53 = twoTo 52 * 2 := twoTo_succ 52
  unfold Parts.of at h
  simp only at h
  split at h
  · split at h <;> cases h
  · split at h
    · cases h
      omega
    · cases h
      omega

theorem Interval.le_of_holds {i : Interval} {c : Nat} (h : i.holds c = true) :
    i.low ≤ c * i.den ∧ c * i.den ≤ i.high := by
  unfold holds at h
  split at h
  · simpa using h
  · simp only [Bool.and_eq_true, decide_eq_true_eq] at h
    exact ⟨Nat.le_of_lt h.1, Nat.le_of_lt h.2⟩

/-- Nothing that rounds to a fraction is a multiple of a power of ten that is an integer. -/
theorem integer?_inSteps_fraction {p : Int} (hq : q < 0) (hm : m % twoTo (-q).toNat ≠ 0)
    (hp : 0 ≤ p) : ((Interval.of m q).inSteps p).integer? = none := by
  have hholds : ∀ c, ((Interval.of m q).inSteps p).holds c = false := by
    intro c
    refine Bool.eq_false_iff.2 fun hc => hm ?_
    obtain ⟨hlow, hhigh⟩ := Interval.le_of_holds hc
    obtain ⟨k, hk⟩ : ∃ k, k = (-q).toNat := ⟨_, rfl⟩
    have hscale : (q - 2).toNat = 0 := by omega
    have hup : (-p).toNat = 0 := by omega
    have hden : (2 - q).toNat = k + 2 := by omega
    have hvalue : c * (twoTo (k + 2) * tenTo p.toNat) = 4 * (twoTo k * (c * tenTo p.toNat)) := by
      rw [twoTo_succ, twoTo_succ]
      grind
    simp only [Interval.inSteps, Interval.of, hscale, hup, hden, hvalue, twoTo_zero, tenTo_zero,
      Nat.mul_one] at hlow hhigh
    have hexact : m = twoTo k * (c * tenTo p.toNat) := by
      split at hlow <;> omega
    rw [← hk, hexact]
    exact Nat.mul_mod_right _ _
  simp [Interval.integer?, hholds]

theorem exponent_coarsest_neg {i : Interval} {n : Nat} {p : Int} (hp : p < n)
    (h : ∀ p : Int, 0 ≤ p → (i.inSteps p).integer? = none) : (coarsest i n p).exponent < 0 := by
  induction n generalizing p with
  | zero => exact hp
  | succ n ih =>
    unfold coarsest
    split
    · rename_i c hc
      refine Int.not_le.1 fun hneg => ?_
      rw [h p hneg] at hc
      cases hc
    · exact ih (by omega)

/-- The text of a fraction has decimal places. -/
theorem exponent_shortest_neg (hm : m < twoTo 53) (hq : q < 0)
    (hfraction : m % twoTo (-q).toNat ≠ 0) : (shortest m q).exponent < 0 := by
  refine exponent_coarsest_neg ?_ fun p => integer?_inSteps_fraction hq hfraction
  have hlog : m.log2 < 53 := by
    have hne : m ≠ 0 := by
      rintro rfl
      exact hfraction (Nat.zero_mod _)
    exact (Nat.log2_lt hne).2 hm
  rw [Int.fdiv_eq_ediv_of_nonneg _ (by decide)]
  omega

theorem mem_text_of_exponent_neg {d : Scaled} (h : d.exponent < 0) : '.' ∈ d.text.toList := by
  unfold Scaled.text
  simp only
  rw [if_neg (by omega), String.toList_ofList]
  simp

theorem mem_splitSign {cs : List Char} (h : '.' ∈ cs) : '.' ∈ (splitSign cs).2 := by
  unfold splitSign
  split <;> simp_all

theorem integer?_of_point {s : String} (h : '.' ∈ s.toList) : integer? (Text.trim s) = none := by
  have hmem : '.' ∈ (splitSign (Text.trim s).toList).2 := by
    rw [Text.trim, String.toList_ofList]
    exact mem_splitSign (Text.mem_trimChars h
      (Text.not_isBlank_of_visible (by decide) (by decide)))
  have hnot : (splitSign (Text.trim s).toList).2.all isDigit = false :=
    List.all_eq_false.2 ⟨'.', hmem, by decide⟩
  simp [integer?, natural?, hnot]

/-- A real that is no integer is not read as one. -/
theorem integer?_trim_text (h : integral? x = none) : integer? (Text.trim (text x)) = none := by
  unfold integral? at h
  unfold text
  cases hx : Parts.of x with
  | nan =>
    decide +kernel
  | infinite negative =>
    cases negative
    all_goals decide +kernel
  | finite negative m q =>
    simp only [hx] at h ⊢
    split at h
    · cases h
    · rename_i hfraction
      have hq : q < 0 := by
        refine Int.not_le.1 fun hq => hfraction ?_
        have hzero : (-q).toNat = 0 := by omega
        rw [hzero]
        exact Nat.mod_one m
      have hne : m ≠ 0 := by
        rintro rfl
        exact hfraction (Nat.zero_mod _)
      have hpoint := mem_text_of_exponent_neg
        (exponent_shortest_neg (significand_lt hx) hq hfraction)
      rw [if_neg hne]
      cases negative with
      | false => exact integer?_of_point hpoint
      | true =>
        refine integer?_of_point ?_
        simp [hpoint]

end Decimal

/-! ## Lists of values -/

/-- The element declares nothing but the list, and whether it is required or computed. -/
structure Element.DeclaresOnly (e : Element) (items : List Value) : Prop where
  value : e.declared? .value = some (.list items)
  dataType : e.declared? .dataType = none
  minValue : e.declared? .minValue = none
  maxValue : e.declared? .maxValue = none
  minLength : e.declared? .minLength = none
  maxLength : e.declared? .maxLength = none
  format : e.declared? .format = none

/-- An element with a list of accepted values. -/
def Element.listing (items : List Value) : Element where
  name := "Choice"
  properties := [{ kind := .value, value := .list items }]

theorem Element.declaresOnly_listing (items : List Value) :
    (listing items).DeclaresOnly items := by
  constructor <;> rfl

namespace Constraints

variable {e : Element} {c : Constraints} {items xs : List Value} {t : DataType}

/-- The type of an element, whether its declared values have a form in it or not. -/
def typeOfElement (e : Element) : Except DataError DataType :=
  typeOf e ([singleOf e, (itemsOf e).head?, e.declared? .minValue,
    e.declared? .maxValue].filterMap id)

/-- Whether the properties of an element are accepted. -/
def accepts (e : Element) : Bool := (ofElement e).isOk

/-- The type of the first value. -/
def firstType (items : List Value) : DataType := (items.head?.map Value.dataType).getD .string

theorem ReadFrom.typeOfElement (h : c.ReadFrom e) : typeOfElement e = .ok c.dataType := h.dataType

theorem inferType_head? (items : List Value) : inferType items.head?.toList = firstType items := by
  cases items with
  | nil => rfl
  | cons v items =>
    simp only [inferType, firstType, List.head?_cons, Option.toList_some, Option.map_some,
      Option.getD_some, List.any_cons, List.any_nil, Bool.or_false]
    cases v with
    | bool | int | real | text | date | time | dateTime => rfl
    | list xs => cases (Value.list xs).dataType <;> rfl

theorem typeOfElement_of_declaresOnly (h : e.DeclaresOnly items) :
    typeOfElement e = .ok (firstType items) := by
  have hdeclared : [none, items.head?, none, none].filterMap id = items.head?.toList := by
    cases items.head? <;> rfl
  simp only [typeOfElement, typeOf, singleOf, itemsOf, h.value, h.dataType, h.minValue, h.maxValue,
    hdeclared, inferType_head?]

theorem exists_typedAll (kind : PropertyKind) (h : ∀ x ∈ xs, (x.convert? t).isSome) :
    ∃ ws, typedAll t kind xs = .ok ws := by
  induction xs with
  | nil => exact ⟨[], rfl⟩
  | cons x xs ih =>
    obtain ⟨w, hw⟩ := Option.isSome_iff_exists.1 (h x List.mem_cons_self)
    obtain ⟨ws, hws⟩ := ih fun y hy => h y (List.mem_cons_of_mem x hy)
    refine ⟨w :: ws, ?_⟩
    simp only [typedAll, typed, hw, hws]
    rfl

/-- Without bounds there is a range, or no order that could have one. -/
theorem exists_valueRange (t : DataType) : ∃ r, ValueRange.of t none none none = .ok r := by
  cases t <;> exact ⟨_, rfl⟩

/-- The list is accepted when all its values have a form in the type of the first one. -/
theorem accepts_of_declaresOnly (h : e.DeclaresOnly items) :
    accepts e = items.all fun v => (v.convert? (firstType items)).isSome := by
  rw [accepts, Bool.eq_iff_iff, List.all_eq_true]
  constructor
  · intro hok v hv
    obtain ⟨c, hc⟩ := exists_of_isOk hok
    have hread := (ofElement_eq_ok hc).1
    have htype : c.dataType = firstType items :=
      Except.ok.inj (hread.typeOfElement.symm.trans (typeOfElement_of_declaresOnly h))
    have hall := hread.accepted
    simp only [itemsOf, h.value, htype] at hall
    obtain ⟨w, -, hw⟩ := typedAll_eq_ok hall v hv
    rw [hw]
    rfl
  · intro hall
    obtain ⟨ws, hws⟩ := exists_typedAll .value hall
    obtain ⟨r, hr⟩ := exists_valueRange (firstType items)
    let c : Constraints := {
      dataType := firstType items, accepted := ws
      isRequired := flag (e.declared? .required), isComputed := flag (e.declared? .computed) }
    have hread : c.ReadFrom e := {
      dataType := typeOfElement_of_declaresOnly h
      value := by rw [singleOf, h.value]; rfl
      accepted := by rw [itemsOf, h.value]; exact hws
      minValue := by rw [h.minValue]; rfl
      maxValue := by rw [h.maxValue]; rfl
      minLength := by rw [h.minLength]; rfl
      maxLength := by rw [h.maxLength]; rfl
      format := by rw [h.format]; rfl
      isRequired := rfl
      isComputed := rfl }
    rw [ofElement_of_readFrom hread (check_of_valueRange rfl rfl hr)]
    rfl

/-! ## Orders of a list -/

/-- What is read from an element that declares nothing but a list does not depend on the order of
the list. -/
def IgnoresOrder {α : Type} (items : List Value) (f : Element → α) : Prop :=
  ∀ e e' xs ys, e.DeclaresOnly xs → e'.DeclaresOnly ys → xs.Perm items → ys.Perm items →
    f e = f e'

variable {α : Type} {f : Element → α} {g : List Value → α} {a b : Value}

theorem eq_of_ignoresOrder (hf : ∀ e xs, e.DeclaresOnly xs → f e = g xs)
    (h : IgnoresOrder items f) {ys : List Value} (hx : xs.Perm items) (hy : ys.Perm items) :
    g xs = g ys := by
  have hxs := Element.declaresOnly_listing xs
  have hys := Element.declaresOnly_listing ys
  rw [← hf _ xs hxs, ← hf _ ys hys]
  exact h _ _ xs ys hxs hys hx hy

theorem ignoresOrder_of_eq (hf : ∀ e xs, e.DeclaresOnly xs → f e = g xs) (y : α)
    (h : ∀ xs, xs.Perm items → g xs = y) : IgnoresOrder items f := by
  intro e e' xs ys he he' hx hy
  rw [hf e xs he, hf e' ys he', h xs hx, h ys hy]

/-- Every value of a list is the first one in some order. -/
theorem exists_perm_cons (ha : a ∈ items) : ∃ xs, (a :: xs).Perm items := by
  obtain ⟨before, after, rfl⟩ := List.append_of_mem ha
  exact ⟨before ++ after, List.perm_middle.symm⟩

theorem firstType_of_forall (h : ∀ v ∈ items, v.dataType = t) (hx : xs.Perm items) :
    firstType xs = if items = [] then .string else t := by
  cases xs with
  | nil =>
    rw [if_pos hx.symm.eq_nil]
    rfl
  | cons x xs =>
    have hmem : x ∈ items := hx.subset List.mem_cons_self
    rw [if_neg (List.ne_nil_of_mem hmem)]
    exact h x hmem

end Constraints

/-! ## Lists of numbers -/

namespace Value

/-- An integer, or a real that is equal to one. -/
def isWhole (v : Value) : Bool := v.asInt.isSome

variable {v : Value}

theorem eq_int_or_real (h : v.isNumber = true) : (∃ n, v = int n) ∨ ∃ x, v = real x := by
  cases v with
  | int n => exact .inl ⟨n, rfl⟩
  | real x => exact .inr ⟨x, rfl⟩
  | bool | text | date | time | dateTime | list => cases h

theorem isSome_convert?_real (h : v.isNumber = true) : (v.convert? .real).isSome = true := by
  obtain ⟨n, rfl⟩ | ⟨x, rfl⟩ := eq_int_or_real h <;> rfl

theorem isSome_convert?_integer (h : v.isNumber = true) :
    (v.convert? .integer).isSome = v.isWhole := by
  obtain ⟨n, rfl⟩ | ⟨x, rfl⟩ := eq_int_or_real h
  · rfl
  · cases hx : Decimal.integral? x with
    | some n => simp [convert?, isWhole, asInt, hx]
    | none =>
      have htext : Decimal.integerWithin? minInt maxInt (legible (real x)) = none := by
        have hlegible : legible (real x) = Text.trim (Decimal.text x) := rfl
        rw [Decimal.integerWithin?, hlegible, Decimal.integer?_trim_text hx]
      simp [convert?, isWhole, asInt, hx, htext]

end Value

namespace Constraints

variable {items xs : List Value}

/-- A list is accepted if its first number is a real. -/
theorem all_convert?_of_real (hnum : ∀ v ∈ xs, v.isNumber = true) (h : firstType xs = .real) :
    (xs.all fun v => (v.convert? (firstType xs)).isSome) = true := by
  rw [h]
  exact List.all_eq_true.2 fun v hv => Value.isSome_convert?_real (hnum v hv)

/-- The type of a list of numbers that are equal to integers does not matter. -/
theorem all_convert?_of_whole (hnum : ∀ v ∈ xs, v.isNumber = true)
    (h : ∀ v ∈ xs, v.isWhole = true) :
    (xs.all fun v => (v.convert? (firstType xs)).isSome) = true := by
  cases xs with
  | nil => rfl
  | cons x xs =>
    obtain ⟨n, rfl⟩ | ⟨r, rfl⟩ := Value.eq_int_or_real (hnum x List.mem_cons_self)
    · refine List.all_eq_true.2 fun v hv => ?_
      exact (Value.isSome_convert?_integer (hnum v hv)).trans (h v hv)
    · exact all_convert?_of_real hnum rfl

theorem dataType_eq_of_ignoresOrder {a b : Value} (h : IgnoresOrder items typeOfElement)
    (ha : a ∈ items) (hb : b ∈ items) : a.dataType = b.dataType := by
  obtain ⟨xs, hxs⟩ := exists_perm_cons ha
  obtain ⟨ys, hys⟩ := exists_perm_cons hb
  exact Except.ok.inj (eq_of_ignoresOrder (fun _ _ => typeOfElement_of_declaresOnly) h hxs hys)

theorem ignoresOrder_typeOfElement_iff (hnum : ∀ v ∈ items, v.isNumber = true) :
    IgnoresOrder items typeOfElement ↔
      (∀ v ∈ items, v.dataType = .integer) ∨ ∀ v ∈ items, v.dataType = .real := by
  constructor
  · intro h
    cases items with
    | nil => exact .inl (List.forall_mem_nil _)
    | cons x xs =>
      have hsame : ∀ v ∈ x :: xs, v.dataType = x.dataType :=
        fun v hv => dataType_eq_of_ignoresOrder h hv List.mem_cons_self
      obtain ⟨n, rfl⟩ | ⟨r, rfl⟩ := Value.eq_int_or_real (hnum x List.mem_cons_self)
      · exact .inl hsame
      · exact .inr hsame
  · rintro (hall | hall)
    all_goals
      exact ignoresOrder_of_eq (fun _ _ => typeOfElement_of_declaresOnly) _
        fun xs hx => congrArg Except.ok (firstType_of_forall hall hx)

/-- With a number that is no integer in the list, no integer may come first. -/
theorem dataType_of_ignoresOrder_accepts {a b : Value} (hnum : ∀ v ∈ items, v.isNumber = true)
    (h : IgnoresOrder items accepts) (ha : a ∈ items) (hb : b ∈ items)
    (hwhole : b.isWhole = false) : a.dataType = .real := by
  obtain ⟨n, rfl⟩ | ⟨x, rfl⟩ := Value.eq_int_or_real (hnum a ha)
  · obtain ⟨m, rfl⟩ | ⟨y, rfl⟩ := Value.eq_int_or_real (hnum b hb)
    · cases hwhole
    · obtain ⟨xs, hxs⟩ := exists_perm_cons ha
      obtain ⟨ys, hys⟩ := exists_perm_cons hb
      have haccepted := eq_of_ignoresOrder (fun _ _ => accepts_of_declaresOnly) h hxs hys
      rw [all_convert?_of_real (fun v hv => hnum v (hys.subset hv)) rfl] at haccepted
      have hconvert := List.all_eq_true.1 haccepted (.real y) (hxs.symm.subset hb)
      have hconvert := (Value.isSome_convert?_integer rfl).symm.trans hconvert
      rw [hwhole] at hconvert
      cases hconvert
  · rfl

theorem ignoresOrder_accepts_iff (hnum : ∀ v ∈ items, v.isNumber = true) :
    IgnoresOrder items accepts ↔
      (∀ v ∈ items, v.dataType = .real) ∨ ∀ v ∈ items, v.isWhole = true := by
  constructor
  · intro h
    by_cases hwhole : ∀ v ∈ items, v.isWhole = true
    · exact .inr hwhole
    · obtain ⟨b, hb, hb'⟩ : ∃ b ∈ items, b.isWhole = false := by simpa using hwhole
      exact .inl fun a ha => dataType_of_ignoresOrder_accepts hnum h ha hb hb'
  · intro h
    refine ignoresOrder_of_eq (fun _ _ => accepts_of_declaresOnly) true fun xs hx => ?_
    have hnumber : ∀ v ∈ xs, v.isNumber = true := fun v hv => hnum v (hx.subset hv)
    obtain hreal | hwhole := h
    · cases xs with
      | nil => rfl
      | cons x xs => exact all_convert?_of_real hnumber (hreal x (hx.subset List.mem_cons_self))
    · exact all_convert?_of_whole hnumber fun v hv => hwhole v (hx.subset hv)

/-- The order of a list of numbers has no say in the type of its element just if all of them are
integers or all are reals, and no say in whether the element is accepted just if all are reals or
all are equal to integers. -/
theorem ignoresOrder_numbers_iff (hnum : ∀ v ∈ items, v.isNumber = true) :
    (IgnoresOrder items typeOfElement ↔
        (∀ v ∈ items, v.dataType = .integer) ∨ ∀ v ∈ items, v.dataType = .real) ∧
      (IgnoresOrder items accepts ↔
        (∀ v ∈ items, v.dataType = .real) ∨ ∀ v ∈ items, v.isWhole = true) :=
  ⟨ignoresOrder_typeOfElement_iff hnum, ignoresOrder_accepts_iff hnum⟩

/-- Sizes in steps of one, the second of which is a real. -/
def sizes : List Value := [.int 1, .real 2, .int 3]

/-- The sizes are accepted in every order, but not with the same type. -/
theorem sizes_ignore_order :
    (∀ v ∈ sizes, v.isNumber = true) ∧ IgnoresOrder sizes accepts ∧
      ¬ IgnoresOrder sizes typeOfElement := by
  have hnum : ∀ v ∈ sizes, v.isNumber = true := by decide
  have h := ignoresOrder_numbers_iff hnum
  refine ⟨hnum, h.2.2 (.inr (by decide)), fun htype => ?_⟩
  obtain hall | hall := h.1.1 htype
  · exact absurd (hall (.real 2) (by simp [sizes])) (by decide)
  · exact absurd (hall (.int 1) (by simp [sizes])) (by decide)

/-- A rate is 1 or 1.5. With 1 in front the element is one of integers and refuses 1.5; with 1.5 in
front it is one of reals and accepts both. -/
theorem rate_order_matters :
    (Element.listing [.int 1, .real 1.5]).DeclaresOnly [.int 1, .real 1.5] ∧
      (Element.listing [.real 1.5, .int 1]).DeclaresOnly [.real 1.5, .int 1] ∧
      [Value.real 1.5, .int 1].Perm [.int 1, .real 1.5] ∧
      typeOfElement (.listing [.int 1, .real 1.5]) = .ok .integer ∧
      accepts (.listing [.int 1, .real 1.5]) = false ∧
      typeOfElement (.listing [.real 1.5, .int 1]) = .ok .real ∧
      accepts (.listing [.real 1.5, .int 1]) = true := by
  refine ⟨Element.declaresOnly_listing _, Element.declaresOnly_listing _, List.Perm.swap _ _ _,
    rfl, ?_, rfl, ?_⟩
  all_goals decide +kernel

end Constraints

end TestDesign
