import TestDesign.Proofs.Reading
import TestDesign.Proofs.Scanning
import TestDesign.Proofs.Transcript

/-!
# TestDesign.Proofs.FillSentences

Fill sentences in English, written and then read. Up to its value such a sentence is read as it was
meant (`recognize_fillOpening`), so what is left is the value.
-/

namespace TestDesign

open Text Sentence

/-- The words in front of the verb of a sentence. -/
def leadingWords : StepKind → List String
  | .givenStep => ["Given", "that", "I"]
  | .whenStep => ["When", "I"]
  | .thenStep => ["Then", "I"]
  | .andStep => ["And", "I"]
  | .otherwiseStep => ["Otherwise", "I"]

/-- A fill sentence up to its value. -/
def fillOpening (kind : StepKind) (verb literal : String) : String :=
  Dictionary.english.keyword kind ++ " I " ++ verb ++ " " ++ literalReference literal ++ " with "

/-- The name of an element in the user interface that a sentence can refer to. -/
structure IsReferable (literal : String) : Prop where
  notBlank : literal.toList.all isBlank = false
  trimmed : trim literal = literal
  unclosed : '>' ∉ literal.toList

theorem reads_leadingWords (kind : StepKind) (k : Cursor) :
    Reads .english k (((leadingWords kind).map String.toList).flatMap (· ++ [' '])) [] :=
  reads_plain_words (by cases kind <;> decide)

theorem reads_with (k : Cursor) : Reads .english k ("with".toList ++ [' ']) [] := by
  have hword : Reads .english k ('w' :: "ith".toList ++ [' ']) [] :=
    reads_plain_word (by decide) (by decide) (by decide)
  exact hword

theorem toList_fillOpening (kind : StepKind) (verb literal : String) :
    (fillOpening kind verb literal).toList =
      ((leadingWords kind).map String.toList).flatMap (· ++ [' ']) ++ (verb.toList ++ [' ']) ++
        ('<' :: (literal.toList ++ ['>'])) ++ [' '] ++ ("with".toList ++ [' ']) := by
  have hlead : (Dictionary.english.keyword kind).toList ++ " I ".toList =
      ((leadingWords kind).map String.toList).flatMap (· ++ [' ']) := by
    cases kind <;> decide
  simp only [fillOpening, literalReference, String.toList_append, hlead, List.append_assoc,
    List.cons_append]
  rfl

theorem IsReferable.ne_nil {literal : String} (h : IsReferable literal) : literal.toList ≠ [] := by
  intro hnil
  have hblank := h.notBlank
  rw [hnil] at hblank
  cases hblank

/-- The verb and the element are found where they were written. -/
theorem exists_reads_fillOpening (kind : StepKind) {verb literal : String}
    (hverb : IsVerb .english verb) (hliteral : IsReferable literal) :
    ∃ p q, Reads .english {} (fillOpening kind verb literal).toList
      [⟨.action, Step.fillName, verb, p, none⟩,
        ⟨.literal, literal, literalReference literal, q, none⟩] := by
  obtain ⟨c, cs, rfl, hc, hcs, hfill⟩ := hverb
  have htrim : trimChars literal.toList = literal.toList :=
    (String.toList_ofList.symm.trans (congrArg String.toList hliteral.trimmed) :)
  have hname : literalReference literal = String.ofList ('<' :: (literal.toList ++ ['>'])) := by
    apply String.toList_inj.1
    simp [literalReference]
  rw [toList_fillOpening, String.toList_ofList, hname]
  have hread := ((((reads_leadingWords kind {}).append (reads_verb hc hcs hfill)).append
    (reads_literal hliteral.unclosed htrim hliteral.ne_nil)).append reads_blank).append
    (reads_with _)
  simp only [String.ofList_toList] at hread
  exact ⟨_, _, hread⟩

/-- The keyword is the first word of a fill sentence. -/
theorem fillOpening_append_eq (kind : StepKind) (verb literal value : String) :
    fillOpening kind verb literal ++ value =
      String.ofList ((Dictionary.english.keyword kind).toList ++ ' ' ::
        ("I " ++ verb ++ " " ++ literalReference literal ++ " with " ++ value).toList) := by
  apply String.toList_inj.1
  simp [fillOpening]

theorem trim_fillOpening_append (kind : StepKind) (verb literal : String) {value : String}
    (hne : value ≠ "") (hlast : ∀ c ∈ value.toList.getLast?, isBlank c = false) :
    trim (fillOpening kind verb literal ++ value) = fillOpening kind verb literal ++ value := by
  obtain ⟨first, hfirst, hblank⟩ : ∃ c,
      (Dictionary.english.keyword kind).toList.head? = some c ∧ isBlank c = false := by
    cases kind <;> exact ⟨_, rfl, not_isBlank_of_visible (by decide) (by decide)⟩
  have hhead : ∀ c ∈ (fillOpening kind verb literal ++ value).toList.head?, isBlank c = false := by
    rw [fillOpening_append_eq, String.toList_ofList, List.head?_append, hfirst]
    rintro c ⟨⟩
    exact hblank
  have hvalue : value.toList ≠ [] := fun hnil => hne (String.toList_inj.1 hnil)
  have hend : ∀ c ∈ (fillOpening kind verb literal ++ value).toList.getLast?,
      isBlank c = false := by
    intro c hc
    rw [String.toList_append, List.getLast?_append] at hc
    refine hlast c ?_
    rw [List.getLast?_eq_some_getLast hvalue] at hc ⊢
    exact hc
  rw [trim, trimChars_eq_self hhead hend, String.ofList_toList]

/-- A fill sentence is read as it was meant, up to its value. -/
theorem recognize_fillOpening (kind : StepKind) {verb literal : String}
    (hverb : IsVerb .english verb) (hliteral : IsReferable literal) :
    ∃ p q, ∀ (value : String) (location : Location),
      value ≠ "" → (∀ c ∈ value.toList.getLast?, isBlank c = false) →
      recognize .english (fillOpening kind verb literal ++ value) location =
        (entitiesFrom .english location
          (Cursor.advance {} (fillOpening kind verb literal).toList) value.toList).map fun es =>
            { content := fillOpening kind verb literal ++ value, kind, location
              entities := ⟨.action, Step.fillName, verb, p, none⟩ ::
                ⟨.literal, literal, literalReference literal, q, none⟩ :: es } := by
  obtain ⟨p, q, hread⟩ := exists_reads_fillOpening kind hverb hliteral
  refine ⟨p, q, fun value location hne hlast => ?_⟩
  have hkind : kindOf .english (fillOpening kind verb literal ++ value) = some kind := by
    rw [fillOpening_append_eq, kindOf_keyword]
  rw [recognize_eq_map (trim_fillOpening_append kind verb literal hne hlast) hkind,
    String.toList_append, hread]
  cases entitiesFrom .english location (Cursor.advance {} (fillOpening kind verb literal).toList)
    value.toList <;> rfl

/-! ## Quoted values -/

theorem inSentence_ne_empty (s : String) : (Value.text s).inSentence ≠ "" := by
  intro h
  have hcs := congrArg String.toList h
  rw [toList_inSentence] at hcs
  cases hcs

/-- A quoted value is no blank at its end. -/
theorem getLast?_inSentence (s : String) :
    ∀ c ∈ (Value.text s).inSentence.toList.getLast?, isBlank c = false := by
  rw [toList_inSentence, ← List.cons_append, List.getLast?_concat]
  rintro c ⟨⟩
  exact not_isBlank_of_visible (by decide) (by decide)

/-- A name of visible characters can be referred to. -/
theorem isReferable_of_visible {literal : String} (hne : literal.toList ≠ [])
    (hvisible : literal.toList.all (fun c => 32 < c.toNat && c.toNat < 127 && c != '>') = true) :
    IsReferable literal := by
  have hblank : ∀ c ∈ literal.toList, isBlank c = false ∧ c ≠ '>' := by
    intro c hc
    have hchar := List.all_eq_true.1 hvisible c hc
    simp only [Bool.and_eq_true, decide_eq_true_eq, bne_iff_ne] at hchar
    exact ⟨not_isBlank_of_visible hchar.1.1 hchar.1.2, hchar.2⟩
  refine ⟨?_, ?_, fun hmem => (hblank _ hmem).2 rfl⟩
  · have hhead := List.head_mem hne
    exact List.all_eq_false.2 ⟨_, hhead, by simp [(hblank _ hhead).1]⟩
  · rw [trim, trimChars_eq_self (fun c hc => (hblank c (List.mem_of_mem_head? hc)).1)
      (fun c hc => (hblank c (List.mem_of_getLast? hc)).1), String.ofList_toList]

theorem isReferable_a : IsReferable "a" := isReferable_of_visible (by decide) rfl

theorem isVerb_fill : IsVerb .english "fill" :=
  ⟨'f', "ill".toList, rfl, by decide, by decide, by decide⟩

/-- A text that is written as the value of a fill step is read back, as its only value, exactly when
the backslashes in front of its quotes and at its end come in pairs: the writer does not hide
backslashes, but the reader takes each as hiding the character after it. -/
theorem written_text_read_back_iff (s : String) (location : Location) :
    (∃ step, recognize .english ("When I fill <a> with " ++ (Value.text s).inSentence) location =
        .ok step ∧ (step.entitiesOf .value).map (·.value) = [s]) ↔
      BackslashesPaired s.toList := by
  obtain ⟨p, q, hread⟩ := recognize_fillOpening .whenStep isVerb_fill isReferable_a
  have hopening : fillOpening .whenStep "fill" "a" = "When I fill <a> with " := by decide
  rw [hopening] at hread
  rw [hread _ location (inSentence_ne_empty s) (getLast?_inSentence s), toList_inSentence,
    ← fitsQuotes_escapeQuotes_iff]
  constructor
  · rintro ⟨step, hstep, hvalues⟩
    obtain ⟨es, hes, rfl⟩ := map_eq_ok.1 hstep
    obtain ⟨inner, rest, e, fs, hcs, hinner, rfl, hkind, hvalue⟩ := exists_value_of_quote hes
    have hs : String.ofList (unescape inner) = s := by
      simp [Step.entitiesOf, hkind, hvalue] at hvalues
      exact hvalues.1
    rw [← hs, String.toList_ofList, hinner.escapeQuotes_unescape]
    exact hinner
  · intro hfits
    refine ⟨_, by rw [entitiesFrom_quoted hfits]; rfl, ?_⟩
    simp [Step.entitiesOf, unescape_escapeQuotes]

/-- A backslash hides the closing quote. -/
theorem written_backslash_not_read_back :
    ¬ ∃ step, recognize .english ("When I fill <a> with " ++ (Value.text "\\").inSentence) {} =
        .ok step ∧ (step.entitiesOf .value).map (·.value) = ["\\"] := by
  have hrefused : (recognize .english
      ("When I fill <a> with " ++ (Value.text "\\").inSentence) {}).toOption = none := by
    decide +kernel
  rintro ⟨step, hstep, -⟩
  rw [hstep] at hrefused
  cases hrefused

end TestDesign
