import TestDesign.Proofs.CalendarNumbers
import TestDesign.Proofs.Scanning

/-!
# TestDesign.Proofs.CalendarTexts

Dates, times and moments are read back from their texts. Each reader of a field takes what is
written of it off the front of a text, whatever follows (`dateField_text`, `timeField_text`), so the
fields can be put together. Blanks at the ends of a text are cut off before it is read, but these
texts have none there.
-/

namespace TestDesign

/-! ## Texts without blanks -/

namespace Text

/-- The text has no blanks. -/
def Solid (s : String) : Prop := ∀ c ∈ s.toList, isBlank c = false

variable {s t : String}

theorem Solid.append (hs : Solid s) (ht : Solid t) : Solid (s ++ t) := by
  intro c hc
  rw [String.toList_append] at hc
  rcases List.mem_append.1 hc with hc | hc
  · exact hs c hc
  · exact ht c hc

/-- Nothing is cut off a text that starts and ends without blanks. -/
theorem trim_eq_self (hhead : ∀ c ∈ s.toList.head?, isBlank c = false)
    (hlast : ∀ c ∈ s.toList.getLast?, isBlank c = false) : trim s = s := by
  rw [trim, trimChars_eq_self hhead hlast, String.ofList_toList]

theorem Solid.trim_eq (h : Solid s) : trim s = s :=
  trim_eq_self (fun c hc => h c (List.mem_of_mem_head? hc))
    (fun c hc => h c (List.mem_of_getLast? hc))

theorem Solid.trim_append_eq {mid : String} (hs : Solid s) (ht : Solid t) (hs' : s.toList ≠ [])
    (ht' : t.toList ≠ []) : trim (s ++ mid ++ t) = s ++ mid ++ t := by
  have hhead : (s ++ mid ++ t).toList.head? = s.toList.head? := by
    obtain ⟨c, cs, hcs⟩ := List.exists_cons_of_ne_nil hs'
    simp [hcs]
  have hlast : (s ++ mid ++ t).toList.getLast? = t.toList.getLast? := by
    rw [String.toList_append, List.getLast?_append, List.getLast?_eq_some_getLast ht',
      Option.some_or]
  refine trim_eq_self (fun c hc => ?_) (fun c hc => ?_)
  · exact hs c (List.mem_of_mem_head? (hhead ▸ hc))
  · exact ht c (List.mem_of_getLast? (hlast ▸ hc))

end Text

namespace Calendar

open Decimal Text

/-- The year is one that dates may have. -/
def Date.InRange (d : Date) : Prop := minYear ≤ d.year ∧ d.year ≤ maxYear

instance (d : Date) : Decidable d.InRange := inferInstanceAs (Decidable (_ ∧ _))

/-! ## Digits -/

section Digits

variable {c : Char} {cs ds rest : List Char} {width n : Nat}

theorem trimStart_of_isDigit (h : isDigit c = true) : trimStart (c :: cs) = c :: cs :=
  List.dropWhile_cons_of_neg (by simp [not_isBlank_of_isDigit h])

theorem trimStart_digits (hne : ds ≠ []) (hdigits : ∀ c ∈ ds, isDigit c = true) :
    trimStart (ds ++ rest) = ds ++ rest := by
  cases ds with
  | nil => contradiction
  | cons d ds => exact trimStart_of_isDigit (hdigits d List.mem_cons_self)

/-- Digits are read up to the width, or up to the first character that is none. -/
theorem digits_append (hne : ds ≠ []) (hdigits : ∀ c ∈ ds, isDigit c = true)
    (hwidth : ds.length ≤ width)
    (hrest : ds.length = width ∨ ∀ c ∈ rest.head?, isDigit c = false) :
    digits width (ds ++ rest) = some (ofDigits ds, rest) := by
  have hnone : (rest.take (width - ds.length)).takeWhile isDigit = [] := by
    obtain rfl | hrest := hrest
    · rw [Nat.sub_self]
      rfl
    · cases rest with
      | nil => simp
      | cons d rest =>
        cases width - ds.length with
        | zero => rfl
        | succ k => exact List.takeWhile_cons_of_neg (by simpa using hrest)
  have htake : ((ds ++ rest).take width).takeWhile isDigit = ds := by
    rw [List.take_append, List.take_of_length_le hwidth, List.takeWhile_append_of_pos hdigits,
      hnone, List.append_nil]
  simp [digits, htake, hne]

theorem toList_padded (width n : Nat) :
    (padded width n).toList = List.replicate (width - n.repr.length) '0' ++ n.repr.toList := by
  rw [padded, String.toList_append, String.toList_ofList]
  rfl

theorem isDigit_of_mem_padded : ∀ c ∈ (padded width n).toList, isDigit c = true := by
  intro c hc
  rw [toList_padded] at hc
  rcases List.mem_append.1 hc with hc | hc
  · rw [List.eq_of_mem_replicate hc]
    decide
  · exact isDigit_of_mem_repr n c hc

theorem padded_ne_nil : (padded width n).toList ≠ [] := by
  rw [toList_padded]
  exact List.append_ne_nil_of_right_ne_nil _ (repr_ne_nil n)

/-- Zeros in front do not count. -/
theorem ofDigits_padded (width n : Nat) : ofDigits (padded width n).toList = n := by
  have hzeros : ofDigits (padded width n).toList = ofDigits n.repr.toList := by
    rw [toList_padded]
    refine (Nat.ofDigitChars_append 0).trans ?_
    rw [Nat.ofDigitChars_replicate_zero, Nat.mul_zero]
    rfl
  rw [hzeros, Nat.toList_repr]
  exact Nat.ofDigitChars_toDigits (by decide) (by decide)

theorem length_padded (hwidth : 0 < width) (h : n < tenTo width) :
    (padded width n).toList.length = width := by
  have hlength := (Nat.length_repr_le_iff hwidth).2 h
  rw [toList_padded, List.length_append, List.length_replicate, String.length_toList]
  omega

theorem digits_padded (hwidth : 0 < width) (h : n < tenTo width) :
    digits width ((padded width n).toList ++ rest) = some (n, rest) := by
  have hlength := length_padded hwidth h
  rw [digits_append padded_ne_nil isDigit_of_mem_padded (Nat.le_of_eq hlength) (.inl hlength),
    ofDigits_padded]

theorem number_padded {lo hi : Nat} (hlo : lo ≤ n) (hhi : n ≤ hi) (h : n < 100) :
    number 2 lo hi ((padded 2 n).toList ++ rest) = some (n, rest) := by
  simp only [number, trimStart_digits padded_ne_nil isDigit_of_mem_padded,
    digits_padded (Nat.succ_pos 1) h]
  exact if_pos ⟨hlo, hhi⟩

end Digits

/-! ## Fields -/

section Fields

variable {c : Char} {cs rest : List Char}

theorem year_of_isDigit (h : isDigit c = true) :
    year (c :: cs) = (digits 4 (c :: cs)).map fun (n, rest) => ((n : Int), rest) := by
  unfold year
  rw [trimStart_of_isDigit h]
  split
  · rename_i heq
    cases heq
    exact absurd h (by decide)
  · rename_i heq
    cases heq
    exact absurd h (by decide)
  · rfl

theorem year_minus (cs : List Char) :
    year ('-' :: cs) = (digits cs.length cs).map fun (n, rest) => (-(n : Int), rest) := by
  have hsign : trimStart ('-' :: cs) = '-' :: cs :=
    List.dropWhile_cons_of_neg (by simp [not_isBlank_of_visible])
  unfold year
  rw [hsign]
  rfl

theorem year_plus (cs : List Char) :
    year ('+' :: cs) = (digits cs.length cs).map fun (n, rest) => ((n : Int), rest) := by
  have hsign : trimStart ('+' :: cs) = '+' :: cs :=
    List.dropWhile_cons_of_neg (by simp [not_isBlank_of_visible])
  unfold year
  rw [hsign]
  rfl

theorem year_padded {n : Nat} (h : n ≤ 9999) :
    year ((padded 4 n).toList ++ rest) = some ((n : Int), rest) := by
  have hread : year ((padded 4 n).toList ++ rest) =
      (digits 4 ((padded 4 n).toList ++ rest)).map fun (n, rest) => ((n : Int), rest) := by
    cases hcs : (padded 4 n).toList with
    | nil => exact absurd hcs padded_ne_nil
    | cons c cs => exact year_of_isDigit (isDigit_of_mem_padded c (hcs ▸ List.mem_cons_self))
  rw [hread, digits_padded (Nat.succ_pos 3) (Nat.lt_succ_of_le h)]
  rfl

/-- A year without a sign has four digits; one with a sign ends where its digits do. -/
theorem year_text (y : Int) (hrest : ∀ c ∈ rest.head?, isDigit c = false) :
    year ((yearText y).toList ++ rest) = some (y, rest) := by
  have hsigned (n : Nat) :
      digits ((padded 4 n).toList ++ rest).length ((padded 4 n).toList ++ rest) =
        some (n, rest) := by
    rw [digits_append padded_ne_nil isDigit_of_mem_padded (by simp) (.inr hrest), ofDigits_padded]
  unfold yearText
  by_cases hfour : 0 ≤ y ∧ y ≤ 9999
  · rw [if_pos hfour, year_padded (by omega), Int.toNat_of_nonneg hfour.1]
  · rw [if_neg hfour, String.toList_append]
    by_cases hneg : y < 0
    · have hvalue : -(y.natAbs : Int) = y := by omega
      have hminus : "-".toList = ['-'] := rfl
      rw [if_pos hneg, hminus, List.singleton_append, List.cons_append, year_minus, hsigned,
        Option.map_some]
      exact congrArg (fun y => some (y, rest)) hvalue
    · have hvalue : (y.natAbs : Int) = y := by omega
      have hplus : "+".toList = ['+'] := rfl
      rw [if_neg hneg, hplus, List.singleton_append, List.cons_append, year_plus, hsigned,
        Option.map_some]
      exact congrArg (fun y => some (y, rest)) hvalue

theorem mark_cons (c : Char) (cs : List Char) : mark c (c :: cs) = some ((), cs) := if_pos rfl

theorem of?_of_date (d : Date) (h : d.InRange) : Date.of? d.year d.month d.day = some d :=
  (dif_pos d.valid).trans (if_pos h)

/-- What is written of a date is read, whatever follows it. -/
theorem dateField_text (d : Date) (h : d.InRange) :
    dateField false (d.text.toList ++ rest) = some (d, rest) := by
  have hday := d.valid
  have hmonth := d.month_mem
  have hlast := monthLength_lt (isLeap d.year) d.month
  have hday' : d.day ≤ 31 := by omega
  have htext : d.text.toList ++ rest =
      (yearText d.year).toList ++ '-' :: ((padded 2 d.month).toList ++ '-' ::
        ((padded 2 d.day).toList ++ rest)) := by
    simp [Date.text]
  have hyear : ∀ c ∈ ('-' :: ((padded 2 d.month).toList ++ '-' ::
      ((padded 2 d.day).toList ++ rest))).head?, isDigit c = false := by
    rintro c ⟨⟩
    decide
  rw [htext]
  simp only [dateField, year_text d.year hyear, mark_cons,
    number_padded hmonth.1 hmonth.2 (by omega), number_padded hday.1 hday' (by omega),
    of?_of_date d h, Option.bind_eq_bind, Option.bind_some, Bool.false_eq_true, if_false,
    Option.pure_def]

theorem timeOf_of_time (t : Time) (h : t.nano = 0) :
    timeOf t.hour t.minute t.second 0 = some t := by
  have hvalid := t.valid
  have hsecond : t.second ≠ 60 := by omega
  rw [timeOf, if_neg hsecond, ← h, Time.of?, dif_pos hvalid]

/-- What is written of a whole second is read, whatever follows it. -/
theorem timeField_text (t : Time) (h : t.nano = 0) :
    timeField true (t.text.toList ++ rest) = some (t, rest) := by
  have hvalid := t.valid
  have htext : t.text.toList ++ rest =
      (padded 2 t.hour).toList ++ ':' :: ((padded 2 t.minute).toList ++ ':' ::
        ((padded 2 t.second).toList ++ rest)) := by
    simp [Time.text, h]
  have hhour : t.hour ≤ 23 := by omega
  have hminute : t.minute ≤ 59 := by omega
  have hsecond : t.second ≤ 60 := by omega
  rw [htext]
  simp only [timeField, number_padded (Nat.zero_le _) hhour (by omega), mark_cons,
    number_padded (Nat.zero_le _) hminute (by omega), if_true,
    number_padded (Nat.zero_le _) hsecond (by omega), timeOf_of_time t h, Option.bind_eq_bind,
    Option.bind_some, Option.pure_def]

theorem trimStart_timeText (t : Time) : trimStart (' ' :: (t.text.toList ++ rest)) =
    t.text.toList ++ rest := by
  have htext : t.text.toList ++ rest = (padded 2 t.hour).toList ++
      (':' :: (padded 2 t.minute).toList ++ ':' ::
        (padded 2 (t.second + t.nano / 1000000000)).toList ++ rest) := by
    simp [Time.text]
  have hblank : trimStart (' ' :: (t.text.toList ++ rest)) = trimStart (t.text.toList ++ rest) :=
    List.dropWhile_cons_of_pos isBlank_space
  rw [hblank, htext, trimStart_digits padded_ne_nil isDigit_of_mem_padded]

/-- What is written of a whole second of a day is read, whatever follows it. -/
theorem momentField_text (m : Moment) (h : m.date.InRange) (hnano : m.time.nano = 0) :
    momentField blanks (m.text.toList ++ rest) = some (m, rest) := by
  have htext : m.text.toList ++ rest =
      m.date.text.toList ++ ' ' :: (m.time.text.toList ++ rest) := by
    simp [Moment.text]
  rw [htext]
  simp only [momentField, dateField_text m.date h, blanks, trimStart_timeText,
    timeField_text m.time hnano, Option.bind_eq_bind, Option.bind_some, Option.pure_def]

end Fields

/-! ## Texts -/

theorem wholly_eq_some {α : Type} {field : Field α} {s : String} {x : α}
    (h : field (s.toList ++ []) = some (x, [])) : wholly field s = some x := by
  rw [List.append_nil] at h
  rw [wholly, h]

theorem Date.ofText?_text (d : Date) (h : d.InRange) :
    ofText? d.text = some d := wholly_eq_some (dateField_text d h)

theorem Time.ofText?_text (t : Time) (h : t.nano = 0) : ofText? t.text = some t := by
  rw [ofText?, wholly_eq_some (timeField_text t h)]

theorem Moment.ofText?_text (m : Moment) (h : m.date.InRange) (hnano : m.time.nano = 0) :
    ofText? m.text = some m := by
  rw [ofText?, wholly_eq_some (momentField_text m h hnano)]

/-! ## Blanks -/

theorem solid_of_visible (h : s.toList.all (fun c => 32 < c.toNat && c.toNat < 127) = true) :
    Solid s := by
  intro c hc
  have hvisible := List.all_eq_true.1 h c hc
  rw [Bool.and_eq_true, decide_eq_true_eq, decide_eq_true_eq] at hvisible
  exact not_isBlank_of_visible hvisible.1 hvisible.2

theorem solid_minus : Solid "-" := solid_of_visible rfl

theorem solid_plus : Solid "+" := solid_of_visible rfl

theorem solid_colon : Solid ":" := solid_of_visible rfl

theorem solid_padded (width n : Nat) : Solid (padded width n) :=
  fun c hc => not_isBlank_of_isDigit (isDigit_of_mem_padded c hc)

theorem solid_yearText (y : Int) : Solid (yearText y) := by
  unfold yearText
  split
  · exact solid_padded _ _
  · refine Solid.append ?_ (solid_padded _ _)
    split
    · exact solid_minus
    · exact solid_plus

theorem solid_dateText (d : Date) : Solid d.text :=
  ((((solid_yearText _).append solid_minus).append (solid_padded _ _)).append solid_minus).append
    (solid_padded _ _)

theorem solid_timeText (t : Time) : Solid t.text :=
  ((((solid_padded _ _).append solid_colon).append (solid_padded _ _)).append solid_colon).append
    (solid_padded _ _)

theorem Date.text_ne_nil (d : Date) : d.text.toList ≠ [] := by
  simp [Date.text]

theorem Time.text_ne_nil (t : Time) : t.text.toList ≠ [] := by
  simp [Time.text]

theorem trim_momentText (m : Moment) : trim m.text = m.text :=
  (solid_dateText m.date).trim_append_eq (solid_timeText m.time) m.date.text_ne_nil
    m.time.text_ne_nil

end Calendar

end TestDesign
