import Mathlib.Data.List.Induction
import TestDesign.Proofs.EntityPlaces
import TestDesign.Sentence.Rendering

/-!
# TestDesign.Proofs.QuotedTexts

Quoted texts are written with a backslash in front of each quote, and read up to the first quote
that no backslash hides. The writer leaves backslashes as they are, but to the reader each of them
hides the character after it.

* `upTo_eq_some_iff`: what is read between two quotes are the characters that fit there.
* `unescape_escapeQuotes`: taking the backslashes in front of quotes away undoes the writer, and on
  what fits between quotes the writer undoes that (`FitsQuotes.escapeQuotes_unescape`).
* `fitsQuotes_escapeQuotes_iff`: what the writer writes fits between quotes when the backslashes in
  front of a quote, and those at the end, come in pairs.
-/

namespace TestDesign

/-- The characters can stand between two quotes: each quote among them is hidden, and the closing
one is not. -/
inductive FitsQuotes : List Char → Prop
  | nil : FitsQuotes []
  | hidden (d : Char) {cs : List Char} (h : FitsQuotes cs) : FitsQuotes ('\\' :: d :: cs)
  | plain {c : Char} {cs : List Char} (hbackslash : c ≠ '\\') (hquote : c ≠ '"')
    (h : FitsQuotes cs) : FitsQuotes (c :: cs)

variable {c d : Char} {cs inner rest body : List Char}

theorem fitsQuotes_hidden_iff : FitsQuotes ('\\' :: d :: cs) ↔ FitsQuotes cs := by
  constructor
  · intro h
    cases h with
    | hidden _ h => exact h
    | plain hbackslash => exact absurd rfl hbackslash
  · exact .hidden d

theorem fitsQuotes_plain_iff (h : c ≠ '\\') : FitsQuotes (c :: cs) ↔ c ≠ '"' ∧ FitsQuotes cs := by
  constructor
  · intro hcs
    cases hcs with
    | hidden => exact absurd rfl h
    | plain _ hquote hcs => exact ⟨hquote, hcs⟩
  · exact fun hcs => .plain h hcs.1 hcs.2

theorem not_fitsQuotes_backslash : ¬ FitsQuotes ['\\'] := by
  intro h
  cases h with
  | plain hbackslash => exact hbackslash rfl

/-- Nothing is hidden where there is neither a quote nor a backslash. -/
theorem fitsQuotes_of_plain (h : ∀ c ∈ cs, c ≠ '\\' ∧ c ≠ '"') : FitsQuotes cs := by
  induction cs with
  | nil => exact .nil
  | cons c cs ih =>
    obtain ⟨⟨hbackslash, hquote⟩, hcs⟩ := List.forall_mem_cons.1 h
    exact .plain hbackslash hquote (ih hcs)

/-- A quote at the front would not be hidden. -/
theorem FitsQuotes.head?_ne (h : FitsQuotes cs) : cs.head? ≠ some '"' := by
  cases h with
  | nil => nofun
  | hidden => simp
  | plain _ hquote => simpa using hquote

namespace Sentence

variable {closing : Char} {escapes : Bool}

theorem upTo_closing (h : closing ≠ '\\') :
    upTo closing escapes (closing :: cs) = some [closing] := by
  simp [upTo.eq_def closing escapes (closing :: cs), h]

theorem upTo_plain (hbackslash : c ≠ '\\') (hclosing : c ≠ closing) :
    upTo closing escapes (c :: cs) = (upTo closing escapes cs).map (c :: ·) := by
  simp [upTo.eq_def closing escapes (c :: cs), hbackslash, hclosing]

theorem upTo_hidden : upTo closing true ('\\' :: d :: cs) =
    (upTo closing true cs).map fun r => '\\' :: d :: r := by
  simp [upTo]

theorem upTo_of_fitsQuotes (h : FitsQuotes inner) :
    upTo '"' true (inner ++ '"' :: rest) = some (inner ++ ['"']) := by
  induction h with
  | nil => exact upTo_closing (by decide)
  | hidden d h ih =>
    rw [List.cons_append, List.cons_append, upTo_hidden, ih]
    rfl
  | plain hbackslash hquote h ih =>
    rw [List.cons_append, upTo_plain hbackslash hquote, ih]
    rfl

theorem exists_fitsQuotes_of_upTo (h : upTo '"' true cs = some body) :
    ∃ inner rest, cs = inner ++ '"' :: rest ∧ body = inner ++ ['"'] ∧ FitsQuotes inner := by
  fun_induction upTo '"' true cs generalizing body with
  | case1 | case2 => cases h
  | case3 c hc d ds ih =>
    obtain ⟨r, hr, rfl⟩ := Option.map_eq_some_iff.1 h
    obtain ⟨inner, rest, rfl, rfl, hinner⟩ := ih hr
    obtain rfl : c = '\\' := by simpa using hc
    exact ⟨'\\' :: d :: inner, rest, rfl, rfl, .hidden d hinner⟩
  | case4 ds =>
    cases h
    exact ⟨[], ds, rfl, rfl, .nil⟩
  | case5 c ds hbackslash hquote ih =>
    obtain ⟨r, hr, rfl⟩ := Option.map_eq_some_iff.1 h
    obtain ⟨inner, rest, rfl, rfl, hinner⟩ := ih hr
    exact ⟨c :: inner, rest, rfl, rfl, .plain (by simpa using hbackslash) hquote hinner⟩

/-- The text that ends at the first quote which is not hidden. -/
theorem upTo_eq_some_iff : upTo '"' true cs = some body ↔
    ∃ inner rest, cs = inner ++ '"' :: rest ∧ body = inner ++ ['"'] ∧ FitsQuotes inner := by
  constructor
  · exact exists_fitsQuotes_of_upTo
  · rintro ⟨inner, rest, rfl, rfl, hinner⟩
    exact upTo_of_fitsQuotes hinner

/-! ## Writing and reading -/

theorem unescape_cons (h : c = '\\' → cs.head? ≠ some '"') :
    unescape (c :: cs) = c :: unescape cs := by
  rw [unescape]
  rintro _ hc rfl
  exact h hc rfl

theorem head?_escapeQuotes (cs : List Char) : (escapeQuotes cs).head? ≠ some '"' := by
  cases cs with
  | nil => nofun
  | cons c cs =>
    unfold escapeQuotes
    split
    · simp
    · rename_i hquote
      simpa using hquote

theorem unescape_escapeQuotes (cs : List Char) : unescape (escapeQuotes cs) = cs := by
  induction cs with
  | nil => rfl
  | cons c cs ih =>
    unfold escapeQuotes
    split
    · rename_i hquote
      rw [unescape, ih, hquote]
    · rw [unescape_cons fun _ => head?_escapeQuotes cs, ih]

theorem escapeQuotes_of_plain (h : ∀ c ∈ cs, c ≠ '\\' ∧ c ≠ '"') : escapeQuotes cs = cs := by
  induction cs with
  | nil => rfl
  | cons c cs ih =>
    obtain ⟨hc, hcs⟩ := List.forall_mem_cons.1 h
    rw [escapeQuotes, if_neg hc.2, ih hcs]

theorem unescape_of_plain (h : ∀ c ∈ cs, c ≠ '\\' ∧ c ≠ '"') : unescape cs = cs := by
  have hread := unescape_escapeQuotes cs
  rwa [escapeQuotes_of_plain h] at hread

end Sentence

theorem FitsQuotes.escapeQuotes_unescape (h : FitsQuotes cs) :
    escapeQuotes (Sentence.unescape cs) = cs := by
  induction h with
  | nil => rfl
  | hidden d h ih =>
    by_cases hquote : d = '"'
    · subst hquote
      simp [Sentence.unescape, escapeQuotes, ih]
    · rw [Sentence.unescape_cons fun _ => by simpa using hquote,
        Sentence.unescape_cons fun _ => h.head?_ne]
      simp [escapeQuotes, hquote, ih]
  | plain hbackslash hquote h ih =>
    rw [Sentence.unescape_cons fun heq => absurd heq hbackslash]
    simp [escapeQuotes, hquote, ih]

/-! ## Runs of backslashes -/

def backslashesAtEnd (cs : List Char) : Nat := (cs.reverse.takeWhile (· = '\\')).length

/-- In front of each quote, and at the end, there is an even number of backslashes. -/
def BackslashesPaired (cs : List Char) : Prop :=
  ∀ before after, cs = before ++ after → (after = [] ∨ after.head? = some '"') →
    backslashesAtEnd before % 2 = 0

/-- Whether the character after `c` is hidden, where `hidden` says so of `c`. -/
def hidesNext (hidden : Bool) (c : Char) : Bool := c = '\\' && !hidden

theorem foldl_hidesNext (cs : List Char) :
    cs.foldl hidesNext false = (backslashesAtEnd cs % 2 == 1) := by
  induction cs using List.reverseRecOn with
  | nil => rfl
  | append_singleton cs c ih =>
    rw [List.foldl_append, ih]
    by_cases hc : c = '\\'
    · subst hc
      have hcount : backslashesAtEnd (cs ++ ['\\']) = backslashesAtEnd cs + 1 := by
        simp [backslashesAtEnd]
      rw [hcount, Bool.eq_iff_iff]
      simp only [List.foldl_cons, List.foldl_nil, hidesNext, decide_true, Bool.true_and,
        Bool.not_eq_true', beq_eq_false_iff_ne, beq_iff_eq]
      omega
    · simp [backslashesAtEnd, hidesNext, hc]

/-- What stands in front of a character to say whether it is hidden. -/
def hider (hidden : Bool) : List Char := if hidden then ['\\'] else []

/-- No quote and not the end is hidden by a backslash of the characters themselves. -/
def ShowsQuotes (hidden : Bool) (cs : List Char) : Prop :=
  ∀ before after, cs = before ++ after → (after = [] ∨ after.head? = some '"') →
    before.foldl hidesNext hidden = false

theorem showsQuotes_cons {hidden : Bool} : ShowsQuotes hidden (c :: cs) ↔
    (c = '"' → hidden = false) ∧ ShowsQuotes (hidesNext hidden c) cs := by
  constructor
  · refine fun h => ⟨?_, ?_⟩
    · rintro rfl
      exact h [] _ rfl (.inr rfl)
    · rintro before after rfl hafter
      exact h (c :: before) after rfl hafter
  · rintro ⟨hfirst, hrest⟩ before after hsplit hafter
    rcases List.cons_eq_append_iff.1 hsplit with ⟨rfl, rfl⟩ | ⟨before', rfl, rfl⟩
    · exact hfirst (by simpa using hafter)
    · exact hrest before' after rfl hafter

theorem fitsQuotes_hider_iff (hidden : Bool) :
    FitsQuotes (hider hidden ++ escapeQuotes cs) ↔ ShowsQuotes hidden cs := by
  induction cs generalizing hidden with
  | nil =>
    cases hidden with
    | false => simp [hider, escapeQuotes, ShowsQuotes, FitsQuotes.nil]
    | true => simp [hider, escapeQuotes, ShowsQuotes, not_fitsQuotes_backslash]
  | cons c cs ih =>
    rw [showsQuotes_cons, ← ih]
    by_cases hquote : c = '"'
    · subst hquote
      cases hidden with
      | false => simp [hider, escapeQuotes, hidesNext, fitsQuotes_hidden_iff]
      | true =>
        simp [hider, escapeQuotes, fitsQuotes_hidden_iff,
          fitsQuotes_plain_iff (c := '"') (by decide)]
    · by_cases hbackslash : c = '\\'
      · subst hbackslash
        cases hidden with
        | false => simp [hider, escapeQuotes, hidesNext]
        | true => simp [hider, escapeQuotes, hidesNext, fitsQuotes_hidden_iff]
      · cases hidden with
        | false =>
          simp [hider, escapeQuotes, hidesNext, hquote, hbackslash, fitsQuotes_plain_iff hbackslash]
        | true =>
          simp [hider, escapeQuotes, hidesNext, hquote, hbackslash, fitsQuotes_hidden_iff]

/-- What is written for a text fits between quotes when the backslashes of the text that are in
front of a quote or at the end hide one another. -/
theorem fitsQuotes_escapeQuotes_iff :
    FitsQuotes (escapeQuotes cs) ↔ BackslashesPaired cs := by
  have hshows : FitsQuotes (escapeQuotes cs) ↔ ShowsQuotes false cs := fitsQuotes_hider_iff false
  rw [hshows]
  simp only [ShowsQuotes, BackslashesPaired, foldl_hidesNext, beq_eq_false_iff_ne]
  refine forall₄_congr fun before after _ _ => ?_
  omega

end TestDesign
