import TestDesign.Proofs.Numerals
import TestDesign.Proofs.QuotedTexts

/-!
# TestDesign.Proofs.Scanning

Sentences read piece by piece. A piece that the scanner reads in one way whatever follows it
(`Reads`) can be put in front of another one (`Reads.append`): a word with the blank after it, the
name of an element between its delimiters, a quoted text. A number is read up to the end of the
sentence.

* `kindOf_keyword`: an English sentence that starts with the keyword of a kind has this kind.
* `fits_of_recognize`: how the texts of the entities of a recognized step give their values.
-/

namespace TestDesign

open Text

namespace Sentence

variable {d : Dictionary} {k : Cursor} {c : Char} {cs ds body rest : List Char}
  {es fs : List Entity} {start : Location}

@[simp] theorem Cursor.advance_nil : k.advance [] = k := rfl

theorem Cursor.advance_append : k.advance (cs ++ ds) = (k.advance cs).advance ds := by
  simp [advance, List.getLast?_append, Nat.add_assoc, Option.or_assoc]

/-- Reading goes on after a lexeme. -/
theorem entitiesFrom_lexeme (start : Location) {x : Lexeme}
    (hx : lexeme d k.last c (body ++ rest) = .ok x) (htext : x.text = c :: body) :
    entitiesFrom d start k (c :: (body ++ rest)) =
      (entitiesFrom d start (k.advance x.text) rest).map ((x.entity? k.bytes).toList ++ ·) := by
  have hdrop : (body ++ rest).drop (x.text.length - 1) = rest := by
    rw [htext, List.length_cons, Nat.add_sub_cancel, List.drop_left]
  rw [entitiesFrom, hx]
  simp only [hdrop]
  cases entitiesFrom d start (k.advance x.text) rest <;> rfl

/-- The scanner reads the characters as the entities, whatever comes after them. -/
def Reads (d : Dictionary) (k : Cursor) (cs : List Char) (es : List Entity) : Prop :=
  ∀ start rest, entitiesFrom d start k (cs ++ rest) =
    (entitiesFrom d start (k.advance cs) rest).map (es ++ ·)

theorem Reads.append (h : Reads d k cs es) (h' : Reads d (k.advance cs) ds fs) :
    Reads d k (cs ++ ds) (es ++ fs) := by
  intro start rest
  rw [List.append_assoc, h, h', Cursor.advance_append]
  cases entitiesFrom d start ((k.advance cs).advance ds) rest with
  | error e => rfl
  | ok gs => simp [Except.map]

theorem reads_lexeme {x : Lexeme} (hx : ∀ rest, lexeme d k.last c (body ++ rest) = .ok x)
    (htext : x.text = c :: body) : Reads d k (c :: body) (x.entity? k.bytes).toList := by
  intro start rest
  rw [List.cons_append, entitiesFrom_lexeme start (hx rest) htext, htext]

/-! ## Words -/

theorem not_isDigit_of_isAlphabetic (h : isAlphabetic c = true) : Decimal.isDigit c = false := by
  refine Bool.eq_false_iff.2 fun hdigit => ?_
  obtain ⟨hlo, hhi⟩ := Decimal.isDigit_iff.1 hdigit
  rw [isAlphabetic, if_pos (by omega)] at h
  have hletter : (decide (65 ≤ c.val ∧ c.val ≤ 90) || (97 ≤ c.val && c.val ≤ 122)) = true := h
  simp only [Bool.or_eq_true, Bool.and_eq_true, decide_eq_true_eq, UInt32.le_iff_toNat_le]
    at hletter
  change (65 ≤ c.toNat ∧ c.toNat ≤ 90) ∨ (97 ≤ c.toNat ∧ c.toNat ≤ 122) at hletter
  omega

/-- No word starts with a delimiter, a digit or a sign. -/
theorem lexeme_of_isAlphabetic {before : Option Char} (h : isAlphabetic c = true) :
    lexeme d before c cs = .ok (wordLexeme d c cs) := by
  have hne : ∀ {x : Char}, isAlphabetic x = false → c ≠ x := by
    rintro x hx rfl
    rw [h] at hx
    cases hx
  unfold lexeme
  split
  case h_6 => simp [not_isDigit_of_isAlphabetic h, hne (x := '-') (by decide), h]
  all_goals exact absurd rfl (hne (by decide))

theorem takeWhile_append_blank (h : cs.all isAlphanumeric = true) :
    (cs ++ ' ' :: rest).takeWhile isAlphanumeric = cs := by
  rw [List.takeWhile_append_of_pos (List.all_eq_true.1 h), List.takeWhile_cons_of_neg (by decide),
    List.append_nil]

theorem takeWhile_isAlphanumeric (h : cs.all isAlphanumeric = true) :
    cs.takeWhile isAlphanumeric = cs := by
  have happend : (cs ++ []).takeWhile isAlphanumeric = cs ++ [].takeWhile isAlphanumeric :=
    List.takeWhile_append_of_pos (List.all_eq_true.1 h)
  simpa using happend

theorem text_wordLexeme (h : cs.all isAlphanumeric = true) :
    (wordLexeme d c cs).text = c :: cs := by
  simp only [wordLexeme, takeWhile_isAlphanumeric h]
  split <;> rfl

theorem reads_blank : Reads d k [' '] [] :=
  reads_lexeme (x := ⟨[' '], none⟩) (fun _ => rfl) rfl

/-- A word ends at a blank. -/
theorem reads_word (hc : isAlphabetic c = true) (hcs : cs.all isAlphanumeric = true) :
    Reads d k (c :: cs ++ [' ']) ((wordLexeme d c cs).entity? k.bytes).toList := by
  intro start rest
  have hlexeme : lexeme d k.last c (cs ++ ' ' :: rest) = .ok (wordLexeme d c cs) := by
    rw [lexeme_of_isAlphabetic hc]
    simp only [wordLexeme, takeWhile_append_blank hcs, takeWhile_isAlphanumeric hcs]
  have hword := entitiesFrom_lexeme start hlexeme (text_wordLexeme hcs)
  rw [text_wordLexeme hcs] at hword
  have hblank : entitiesFrom d start (k.advance (c :: cs)) (' ' :: rest) =
      (entitiesFrom d start ((k.advance (c :: cs)).advance [' ']) rest).map ([] ++ ·) :=
    reads_blank start rest
  rw [hblank, ← Cursor.advance_append] at hword
  simp only [List.append_assoc, List.cons_append, List.nil_append] at hword ⊢
  rw [hword]
  cases entitiesFrom d start (k.advance (c :: (cs ++ [' ']))) rest <;> rfl

theorem reads_verb (hc : isAlphabetic c = true) (hcs : cs.all isAlphanumeric = true)
    (hverb : d.isFillVerb (String.ofList (c :: cs)) = true) :
    Reads d k (c :: cs ++ [' '])
      [⟨.action, Step.fillName, String.ofList (c :: cs), k.bytes, none⟩] := by
  have hlexeme : wordLexeme d c cs =
      ⟨c :: cs, some { kind := .action, value := Step.fillName.toList }⟩ := by
    simp only [wordLexeme, takeWhile_isAlphanumeric hcs, if_pos hverb]
  have h := reads_word (d := d) (k := k) hc hcs
  rw [hlexeme] at h
  exact h

theorem reads_plain_word (hc : isAlphabetic c = true) (hcs : cs.all isAlphanumeric = true)
    (hverb : d.isFillVerb (String.ofList (c :: cs)) = false) : Reads d k (c :: cs ++ [' ']) [] := by
  have hlexeme : wordLexeme d c cs = ⟨c :: cs, none⟩ := by
    simp only [wordLexeme, takeWhile_isAlphanumeric hcs, hverb, Bool.false_eq_true, if_false]
  have h := reads_word (d := d) (k := k) hc hcs
  rw [hlexeme] at h
  exact h

/-- A word that is no verb. -/
def isPlainWord (d : Dictionary) : List Char → Bool
  | [] => false
  | c :: cs =>
    isAlphabetic c && cs.all isAlphanumeric && !d.isFillVerb (String.ofList (c :: cs))

theorem reads_plain_words {ws : List (List Char)} (h : ∀ w ∈ ws, isPlainWord d w = true) :
    Reads d k (ws.flatMap (· ++ [' '])) [] := by
  induction ws generalizing k with
  | nil =>
    intro start rest
    simp only [List.flatMap_nil, List.nil_append, Cursor.advance_nil]
    cases entitiesFrom d start k rest <;> rfl
  | cons w ws ih =>
    obtain ⟨hw, hws⟩ := List.forall_mem_cons.1 h
    cases w with
    | nil => cases hw
    | cons c cs =>
      simp only [isPlainWord, Bool.and_eq_true, Bool.not_eq_true'] at hw
      exact (reads_plain_word hw.1.1 hw.1.2 hw.2).append (ih hws)

/-! ## Delimited texts -/

theorem upTo_of_not_mem {closing : Char} (h : closing ∉ cs) :
    upTo closing false (cs ++ closing :: rest) = some (cs ++ [closing]) := by
  induction cs with
  | nil => simp [upTo.eq_def closing false (closing :: rest)]
  | cons c cs ih =>
    obtain ⟨hc, hcs⟩ := not_or.1 (List.mem_cons.not.1 h)
    simp [upTo.eq_def closing false (c :: _), Ne.symm hc, ih hcs]

theorem reads_literal (hclosing : '>' ∉ cs) (htrim : trimChars cs = cs) (hne : cs ≠ []) :
    Reads d k ('<' :: (cs ++ ['>']))
      [⟨.literal, String.ofList cs, String.ofList ('<' :: (cs ++ ['>'])), k.bytes, none⟩] := by
  refine reads_lexeme (x := ⟨'<' :: (cs ++ ['>']), some { kind := .literal, value := cs }⟩)
    (fun rest => ?_) rfl
  have hreference : reference .literal '<' '>' (cs ++ ['>'] ++ rest) =
      .ok ⟨'<' :: (cs ++ ['>']), some { kind := .literal, value := cs }⟩ := by
    rw [List.append_assoc, List.singleton_append]
    simp [reference, upTo_of_not_mem hclosing, htrim, hne]
  exact hreference

theorem reads_quoted (h : FitsQuotes cs) :
    Reads d k ('"' :: (cs ++ ['"'])) [⟨.value, String.ofList (unescape cs),
      String.ofList ('"' :: (cs ++ ['"'])), k.bytes, none⟩] := by
  refine reads_lexeme (x := ⟨'"' :: (cs ++ ['"']), some { kind := .value, value := unescape cs }⟩)
    (fun rest => ?_) rfl
  have hquoted : quotedValue (cs ++ ['"'] ++ rest) =
      .ok ⟨'"' :: (cs ++ ['"']), some { kind := .value, value := unescape cs }⟩ := by
    rw [List.append_assoc, List.singleton_append]
    simp [quotedValue, upTo_of_fitsQuotes h]
  exact hquoted

/-- A quoted text that is read whole ends the sentence. -/
theorem entitiesFrom_quoted (h : FitsQuotes cs) :
    entitiesFrom d start k ('"' :: (cs ++ ['"'])) = .ok [⟨.value, String.ofList (unescape cs),
      String.ofList ('"' :: (cs ++ ['"'])), k.bytes, none⟩] := by
  have hread := reads_quoted (d := d) (k := k) h start []
  rw [List.append_nil, entitiesFrom] at hread
  exact hread

/-- What is read after a quote starts with the text up to the first quote that is not hidden. -/
theorem exists_value_of_quote (h : entitiesFrom d start k ('"' :: cs) = .ok es) :
    ∃ inner rest e fs, cs = inner ++ '"' :: rest ∧ FitsQuotes inner ∧ es = e :: fs ∧
      e.kind = .value ∧ e.value = String.ofList (unescape inner) := by
  cases hbody : upTo '"' true cs with
  | none =>
    have hlexeme : lexeme d k.last '"' cs = .error (.unclosed '"' '"') := by
      simp [lexeme, quotedValue, hbody]
    rw [entitiesFrom, hlexeme] at h
    cases h
  | some body =>
    obtain ⟨inner, rest, rfl, -, hinner⟩ := exists_fitsQuotes_of_upTo hbody
    have hread := reads_quoted (d := d) (k := k) hinner start rest
    rw [List.cons_append, List.append_assoc, List.singleton_append, h] at hread
    cases hrest : entitiesFrom d start (k.advance ('"' :: (inner ++ ['"']))) rest with
    | error e =>
      rw [hrest] at hread
      cases hread
    | ok fs =>
      rw [hrest] at hread
      cases hread
      exact ⟨inner, rest, _, fs, rfl, hinner, rfl, rfl, rfl⟩

/-! ## Numbers -/

theorem numberTail_of_digits (h : ∀ c ∈ cs, Decimal.isDigit c = true) : numberTail cs = cs := by
  induction cs with
  | nil => rfl
  | cons c cs ih =>
    obtain ⟨hc, hcs⟩ := List.forall_mem_cons.1 h
    rw [numberTail, if_pos hc, ih hcs]

/-- Digits, perhaps with a minus in front of them. -/
def IsInteger (cs : List Char) : Prop :=
  ∃ c ds, cs = c :: ds ∧ (∀ x ∈ ds, Decimal.isDigit x = true) ∧
    (Decimal.isDigit c = true ∨ c = '-' ∧ ds ≠ [])

theorem IsInteger.ne_nil (h : IsInteger cs) : cs ≠ [] := by
  obtain ⟨c, ds, rfl, -⟩ := h
  exact List.cons_ne_nil c ds

theorem IsInteger.isDigit_getLast (h : IsInteger cs) :
    ∀ x ∈ cs.getLast?, Decimal.isDigit x = true := by
  obtain ⟨c, ds, rfl, hds, hc⟩ := h
  intro x hx
  cases ds with
  | nil =>
    cases hx
    rcases hc with hdigit | ⟨-, hne⟩
    · exact hdigit
    · exact absurd rfl hne
  | cons y ys =>
    rw [List.getLast?_cons_cons] at hx
    exact hds x (List.mem_of_getLast? hx)

/-- A digit is no delimiter. -/
theorem lexeme_of_digit {before : Option Char}
    (h : (Decimal.isDigit c || (c = '-' && cs.head?.any Decimal.isDigit)) = true)
    (hbefore : startsWord before = true) :
    lexeme d before c cs = .ok (numberLexeme c cs) := by
  have hne : ∀ {x : Char}, Decimal.isDigit x = false ∧ x ≠ '-' → c ≠ x := by
    rintro x ⟨hdigit, hminus⟩ rfl
    simp [hdigit, hminus] at h
  unfold lexeme
  split
  case h_6 => rw [if_pos h, if_pos hbefore]
  all_goals exact absurd rfl (hne (by decide))

/-- A number is read up to the end of the sentence. -/
theorem entitiesFrom_integer (h : IsInteger cs) (hk : startsWord k.last = true) :
    entitiesFrom d start k cs =
      .ok [⟨.number, String.ofList cs, String.ofList cs, k.bytes, none⟩] := by
  obtain ⟨c, ds, rfl, hds, hc⟩ := h
  have hstart : (Decimal.isDigit c || (c = '-' && ds.head?.any Decimal.isDigit)) = true := by
    rcases hc with hdigit | ⟨rfl, hne⟩
    · rw [hdigit, Bool.true_or]
    · obtain ⟨x, xs, rfl⟩ := List.exists_cons_of_ne_nil hne
      simp [hds x List.mem_cons_self]
  have hlexeme : lexeme d k.last c (ds ++ []) =
      .ok ⟨c :: ds, some { kind := .number, value := c :: ds }⟩ := by
    rw [List.append_nil, lexeme_of_digit hstart hk]
    simp only [numberLexeme, numberTail_of_digits hds]
  have hread := entitiesFrom_lexeme start hlexeme rfl
  rw [List.append_nil, entitiesFrom] at hread
  exact hread

theorem isInteger_toString (n : Int) : IsInteger (toString n).toList := by
  cases n with
  | ofNat m =>
    obtain ⟨c, cs, hcs⟩ := List.exists_cons_of_ne_nil (Decimal.repr_ne_nil m)
    have hdigits := Decimal.isDigit_of_mem_repr m
    rw [hcs] at hdigits
    obtain ⟨hc, hrest⟩ := List.forall_mem_cons.1 hdigits
    exact ⟨c, cs, hcs, hrest, .inl hc⟩
  | negSucc m =>
    refine ⟨'-', (m + 1).repr.toList, ?_, Decimal.isDigit_of_mem_repr _, .inr ⟨rfl, ?_⟩⟩
    · change ("-" ++ (m + 1).repr).toList = _
      rw [String.toList_append]
      rfl
    · exact Decimal.repr_ne_nil _

/-! ## What entities are -/

/-- A word that the dictionary has for filling. -/
def IsVerb (d : Dictionary) (verb : String) : Prop :=
  ∃ c cs, verb = String.ofList (c :: cs) ∧ isAlphabetic c = true ∧ cs.all isAlphanumeric = true ∧
    d.isFillVerb verb = true

/-- How the text of an entity gives its value: quoted values are written as they are read, numbers
stand for themselves, and actions are verbs. -/
structure Fits (d : Dictionary) (e : Entity) : Prop where
  value : e.kind = .value → (Value.text e.value).inSentence = e.text
  number : e.kind = .number → e.value = e.text
  action : e.kind = .action → IsVerb d e.text ∧ e.value = Step.fillName

theorem fits_of_kind {e : Entity} (hvalue : e.kind ≠ .value) (hnumber : e.kind ≠ .number)
    (haction : e.kind ≠ .action) : Fits d e :=
  ⟨fun h => absurd h hvalue, fun h => absurd h hnumber, fun h => absurd h haction⟩

theorem toList_inSentence (s : String) :
    (Value.text s).inSentence.toList = '"' :: (escapeQuotes s.toList ++ ['"']) := by
  simp [Value.inSentence, Value.quoted]

variable {x : Lexeme} {n : Nat} {e : Entity}

theorem fits_of_quotedValue (h : quotedValue cs = .ok x) (he : x.entity? n = some e) :
    Fits d e := by
  unfold quotedValue at h
  split at h
  · rename_i body hbody
    obtain ⟨inner, rest, -, rfl, hinner⟩ := exists_fitsQuotes_of_upTo hbody
    cases h
    cases he
    refine ⟨fun _ => String.toList_inj.1 ?_, nofun, nofun⟩
    rw [toList_inSentence]
    simp [hinner.escapeQuotes_unescape]
  · cases h

theorem fits_of_reference {kind : EntityKind} {opening closing : Char}
    (h : reference kind opening closing cs = .ok x) (he : x.entity? n = some e)
    (hkind : kind ≠ .value ∧ kind ≠ .number ∧ kind ≠ .action) : Fits d e := by
  unfold reference at h
  split at h
  · simp only at h
    split at h
    · cases h
    · cases h
      cases he
      exact fits_of_kind hkind.1 hkind.2.1 hkind.2.2
  · cases h

theorem fits_of_elementReference (h : elementReference cs = .ok x) (he : x.entity? n = some e) :
    Fits d e := by
  unfold elementReference at h
  split at h
  · cases h
  · rename_i y hy
    split at h
    · cases h
      exact fits_of_reference hy he (by decide)
    · simp only at h
      split at h
      · cases h
      · cases h
        cases he
        exact fits_of_kind (by simp) (by simp) (by simp)

theorem fits_of_wordLexeme (hc : isAlphabetic c = true)
    (he : (wordLexeme d c cs).entity? n = some e) : Fits d e := by
  unfold wordLexeme at he
  simp only at he
  split at he
  · rename_i hverb
    cases he
    exact ⟨nofun, nofun, fun _ => ⟨⟨c, _, rfl, hc, List.all_takeWhile, hverb⟩, rfl⟩⟩
  · cases he

theorem fits_of_lexeme {before : Option Char} (h : lexeme d before c cs = .ok x)
    (he : x.entity? n = some e) : Fits d e := by
  unfold lexeme at h
  split at h
  · exact fits_of_quotedValue h he
  · exact fits_of_reference h he (by decide)
  · exact fits_of_reference h he (by decide)
  · exact fits_of_elementReference h he
  · exact fits_of_reference h he (by decide)
  · split at h
    · cases h
      split at he
      · cases he
        exact ⟨nofun, fun _ => rfl, nofun⟩
      · cases he
    · split at h
      · rename_i hc
        cases h
        exact fits_of_wordLexeme hc he
      · cases h
        cases he

theorem fits_of_entitiesFrom (h : entitiesFrom d start k cs = .ok es) : ∀ e ∈ es, Fits d e := by
  fun_induction entitiesFrom d start k cs generalizing es with
  | case1 =>
    cases h
    exact List.forall_mem_nil _
  | case2 | case3 => cases h
  | case4 k c cs x hx es' hes ih =>
    cases h
    intro e he
    rcases List.mem_append.1 he with he | he
    · exact fits_of_lexeme hx (Option.mem_toList.1 he)
    · exact ih hes e he

end Sentence

/-! ## Whole sentences -/

theorem Text.trimChars_eq_self {cs : List Char} (hhead : ∀ c ∈ cs.head?, isBlank c = false)
    (hlast : ∀ c ∈ cs.getLast?, isBlank c = false) : trimChars cs = cs := by
  have hstart : trimStart cs = cs := by
    cases cs with
    | nil => rfl
    | cons c cs =>
      exact List.dropWhile_cons_of_neg (by simpa using hhead)
  have hend : (cs.reverse.dropWhile isBlank) = cs.reverse := by
    cases hcs : cs.reverse with
    | nil => rfl
    | cons c ds =>
      refine List.dropWhile_cons_of_neg ?_
      have hc : cs.getLast? = some c := by
        rw [List.getLast?_eq_head?_reverse, hcs]
        rfl
      simp [hlast c hc]
  rw [trimChars, hstart, trimEnd, hend, List.reverse_reverse]

theorem Text.lowerFrom_ascii {cs : List Char} (before rest : List Char)
    (h : cs.all (·.toNat < 128) = true) :
    lowerFrom before (cs ++ rest) =
      cs.map Char.toLower ++ lowerFrom (cs.reverse ++ before) rest := by
  induction cs generalizing before with
  | nil => rfl
  | cons c cs ih =>
    simp only [List.all_cons, Bool.and_eq_true, decide_eq_true_eq] at h
    rw [List.cons_append, lowerFrom, ih _ h.2]
    simp [lowerChar, h.1, show c.toNat ≠ 0x3a3 by omega]

theorem Sentence.kindOf_keyword (kind : StepKind) (rest : List Char) :
    kindOf .english (String.ofList ((Dictionary.english.keyword kind).toList ++ ' ' :: rest)) =
      some kind := by
  have hascii : ((Dictionary.english.keyword kind).toList ++ [' ']).all (·.toNat < 128) = true := by
    cases kind <;> decide +kernel
  have hlower := lowerFrom_ascii [] rest hascii
  rw [List.append_assoc, List.singleton_append] at hlower
  unfold kindOf
  simp only [String.toList_ofList, lowerChars, hlower]
  -- What follows the keyword and its blank does not matter.
  generalize lowerFrom _ rest = tail
  cases kind <;> rfl

/-- A sentence without blanks at its ends, and with a keyword, has what the scanner finds. -/
theorem recognize_eq_map {d : Dictionary} {sentence : String} {location : Location}
    {kind : StepKind} (htrim : trim sentence = sentence)
    (hkind : Sentence.kindOf d sentence = some kind) :
    recognize d sentence location =
      (Sentence.entitiesFrom d location {} sentence.toList).map fun entities =>
        { content := sentence, kind, location, entities } := by
  unfold recognize
  simp only [htrim, hkind]
  cases Sentence.entitiesFrom d location {} sentence.toList <;> rfl

theorem fits_of_recognize {d : Dictionary} {sentence : String} {location : Location} {step : Step}
    (h : recognize d sentence location = .ok step) : ∀ e ∈ step.entities, Sentence.Fits d e := by
  unfold recognize at h
  simp only at h
  split at h
  · cases h
  · split at h
    · cases h
    · rename_i entities hentities
      cases h
      exact Sentence.fits_of_entitiesFrom hentities

end TestDesign
