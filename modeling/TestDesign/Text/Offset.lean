/-!
# TestDesign.Text.Offset

Positions in a text counted in bytes of its UTF-8 form. A position lies on a character boundary
when some characters of the text, taken from its start, have that many bytes together; a cut at
any other position has no result.

`splitAtByte` and `byteLength` are inverse to one another: a cut after the characters `cs` is the
cut at `byteLength cs` (`splitAtByte_append`), and whatever a cut returns has these lengths
(`splitAtByte_eq_some`). What is read of a text that is put together is read of its parts.
-/

namespace TestDesign.Text

/-- Bytes of the UTF-8 form. -/
def byteLength : List Char → Nat
  | [] => 0
  | c :: cs => c.utf8Size + byteLength cs

@[simp] theorem byteLength_nil : byteLength [] = 0 := rfl

@[simp] theorem byteLength_cons (c : Char) (cs : List Char) :
    byteLength (c :: cs) = c.utf8Size + byteLength cs := rfl

@[simp] theorem byteLength_append (xs ys : List Char) :
    byteLength (xs ++ ys) = byteLength xs + byteLength ys := by
  induction xs with
  | nil => simp
  | cons c cs ih => simp [ih, Nat.add_assoc]

/-- Cuts a text at a byte position on a character boundary. -/
def splitAtByte : List Char → Nat → Option (List Char × List Char)
  | cs, 0 => some ([], cs)
  | [], _ + 1 => none
  | c :: cs, n + 1 =>
    if c.utf8Size ≤ n + 1 then
      (splitAtByte cs (n + 1 - c.utf8Size)).map fun p => (c :: p.1, p.2)
    else
      none

theorem splitAtByte_append (xs ys : List Char) :
    splitAtByte (xs ++ ys) (byteLength xs) = some (xs, ys) := by
  induction xs with
  | nil => cases ys <;> rfl
  | cons c cs ih =>
    have h := c.utf8Size_pos
    obtain ⟨k, hk⟩ : ∃ k, c.utf8Size = k + 1 := ⟨c.utf8Size - 1, by omega⟩
    simp only [byteLength_cons, List.cons_append]
    rw [show c.utf8Size + byteLength cs = (k + byteLength cs) + 1 by omega, splitAtByte]
    rw [if_pos (by omega), show k + byteLength cs + 1 - c.utf8Size = byteLength cs by omega, ih]
    rfl

theorem splitAtByte_eq_some {cs xs ys : List Char} {n : Nat}
    (h : splitAtByte cs n = some (xs, ys)) : cs = xs ++ ys ∧ byteLength xs = n := by
  fun_induction splitAtByte cs n generalizing xs ys with
  | case1 => simp_all
  | case2 => simp at h
  | case3 c cs n hle ih =>
    obtain ⟨p, hp, he⟩ := Option.map_eq_some_iff.1 h
    obtain ⟨rfl, rfl⟩ := Prod.mk.inj he
    obtain ⟨h1, h2⟩ := ih hp
    exact ⟨by simp [h1], by simp only [byteLength_cons]; omega⟩
  | case4 => simp at h

/-- The characters of `length` bytes from a byte position on, if they begin and end on character
boundaries. -/
def slice? (cs : List Char) (start length : Nat) : Option (List Char) :=
  match splitAtByte cs start with
  | some (_, rest) => (splitAtByte rest length).map (·.1)
  | none => none

/-- The characters between two byte positions. -/
def between? (cs : List Char) (start stop : Nat) : Option (List Char) :=
  if stop < start then none else slice? cs start (stop - start)

/-- The characters from a byte position on. -/
def dropBytes? (cs : List Char) (start : Nat) : Option (List Char) :=
  (splitAtByte cs start).map (·.2)

/-! ## Texts put together -/

theorem utf8ByteSize_ofList (cs : List Char) : (String.ofList cs).utf8ByteSize = byteLength cs := by
  induction cs with
  | nil => rfl
  | cons c cs ih =>
    rw [String.ofList_cons, String.utf8ByteSize_append, String.utf8ByteSize_singleton, ih,
      byteLength_cons]

theorem byteLength_toList (s : String) : byteLength s.toList = s.utf8ByteSize := by
  rw [← utf8ByteSize_ofList, String.ofList_toList]

theorem splitAtByte_append_add (xs ys : List Char) (n : Nat) :
    splitAtByte (xs ++ ys) (byteLength xs + n) =
      (splitAtByte ys n).map fun p => (xs ++ p.1, p.2) := by
  induction xs with
  | nil => simp
  | cons c cs ih =>
    have h := c.utf8Size_pos
    obtain ⟨k, hk⟩ : ∃ k, c.utf8Size = k + 1 := ⟨c.utf8Size - 1, by omega⟩
    simp only [byteLength_cons, List.cons_append]
    rw [show c.utf8Size + byteLength cs + n = (k + byteLength cs + n) + 1 by omega, splitAtByte,
      if_pos (by omega), show k + byteLength cs + n + 1 - c.utf8Size = byteLength cs + n by omega, ih,
      Option.map_map]
    rfl

theorem slice?_append_add (xs ys : List Char) (n length : Nat) :
    slice? (xs ++ ys) (byteLength xs + n) length = slice? ys n length := by
  unfold slice?
  rw [splitAtByte_append_add]
  cases splitAtByte ys n <;> rfl

/-- A slice as long as a text is this text exactly when the text begins there. -/
theorem slice?_eq_some_iff {cs gap rest : List Char} {n : Nat}
    (h : splitAtByte cs n = some (gap, rest)) (text : List Char) :
    slice? cs n (byteLength text) = some text ↔ text <+: rest := by
  simp only [slice?, h]
  constructor
  · intro htext
    obtain ⟨⟨found, tail⟩, hsplit, rfl⟩ := Option.map_eq_some_iff.1 htext
    exact ⟨tail, (splitAtByte_eq_some hsplit).1.symm⟩
  · rintro ⟨tail, rfl⟩
    rw [splitAtByte_append]
    rfl

theorem between?_append (xs ys zs : List Char) :
    between? (xs ++ ys ++ zs) (byteLength xs) (byteLength (xs ++ ys)) = some ys := by
  have hslice := slice?_append_add xs (ys ++ zs) 0 (byteLength ys)
  have hstart : splitAtByte (ys ++ zs) 0 = some ([], ys ++ zs) := splitAtByte_append [] (ys ++ zs)
  rw [(slice?_eq_some_iff hstart ys).2 (List.prefix_append ys zs)] at hslice
  rw [between?, byteLength_append, if_neg (by omega), Nat.add_sub_cancel_left, List.append_assoc]
  exact hslice

theorem dropBytes?_append (xs ys : List Char) :
    dropBytes? (xs ++ ys) (byteLength xs) = some ys := by
  rw [dropBytes?, splitAtByte_append]
  rfl

end TestDesign.Text
