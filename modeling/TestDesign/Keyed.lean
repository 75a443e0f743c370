/-!
# TestDesign.Keyed

Finite maps from names, kept in the order of their keys, so that listing one is deterministic and
two maps with the same entries are equal. Keys are ordered character by character.

Laws: `get?_eq_some_iff` says that look-ups find the entries, `get?_insert_self` and
`get?_insert_ne` what an insertion does to them, `get?_union` what a union does. `get?_filterMap`
and `exists_get?_traverse` say where the values of a map that was made from another one come from.
-/

namespace TestDesign

/-- The keys of a list of entries, in order. -/
def keysOf {α : Type} (entries : List (String × α)) : List String := entries.map (·.1)

/-- Entries with strictly increasing keys. -/
structure Keyed (α : Type) where
  entries : List (String × α)
  sorted : (keysOf entries).Pairwise (· < ·)
deriving DecidableEq

namespace Keyed

variable {α β : Type}

def empty : Keyed α := ⟨[], .nil⟩

instance : Inhabited (Keyed α) := ⟨empty⟩

def keys (m : Keyed α) : List String := keysOf m.entries

def isEmpty (m : Keyed α) : Bool := m.entries.isEmpty

def size (m : Keyed α) : Nat := m.entries.length

/-- The value of a key in a list of entries. -/
def find? (k : String) : List (String × α) → Option α
  | [] => none
  | (k', v) :: rest => if k = k' then some v else find? k rest

def get? (m : Keyed α) (k : String) : Option α := find? k m.entries

def contains (m : Keyed α) (k : String) : Bool := (m.get? k).isSome

/-- Puts an entry in its place, instead of the one that has the same key. -/
def place (k : String) (v : α) : List (String × α) → List (String × α)
  | [] => [(k, v)]
  | (k', v') :: rest =>
    if k = k' then (k, v) :: rest
    else if k < k' then (k, v) :: (k', v') :: rest
    else (k', v') :: place k v rest

theorem lt_of_not_lt {a b : String} (h : ¬ a < b) (hne : a ≠ b) : b < a := by
  by_cases h' : b < a
  · exact h'
  · exact absurd (String.le_antisymm (String.not_lt.1 h') (String.not_lt.1 h)) hne

theorem mem_keys_place {k x : String} {v : α} {es : List (String × α)}
    (h : x ∈ keysOf (place k v es)) : x = k ∨ x ∈ keysOf es := by
  induction es with
  | nil => simpa [place, keysOf] using h
  | cons e rest ih =>
    obtain ⟨k', v'⟩ := e
    unfold place at h
    split at h
    · simp_all [keysOf]
    · split at h
      · simpa [keysOf] using h
      · simp only [keysOf, List.map_cons, List.mem_cons] at h ⊢
        rcases h with h | h
        · exact .inr (.inl h)
        · rcases ih h with h | h
          · exact .inl h
          · exact .inr (.inr h)

theorem place_sorted (k : String) (v : α) {es : List (String × α)}
    (h : (keysOf es).Pairwise (· < ·)) : (keysOf (place k v es)).Pairwise (· < ·) := by
  induction es with
  | nil => simp [place, keysOf]
  | cons e rest ih =>
    obtain ⟨k', v'⟩ := e
    have hp := List.pairwise_cons.1 h
    unfold place
    split
    · rename_i hk
      subst hk
      exact h
    · rename_i hne
      split
      · rename_i hlt
        refine List.pairwise_cons.2 ⟨fun x hx => ?_, h⟩
        rcases List.mem_cons.1 hx with rfl | hx
        · exact hlt
        · exact String.lt_trans hlt (hp.1 x hx)
      · rename_i hnlt
        refine List.pairwise_cons.2 ⟨fun x hx => ?_, ih hp.2⟩
        rcases mem_keys_place hx with rfl | hx
        · exact lt_of_not_lt hnlt hne
        · exact hp.1 x hx

def insert (m : Keyed α) (k : String) (v : α) : Keyed α :=
  ⟨place k v m.entries, place_sorted k v m.sorted⟩

/-- The later of two entries with the same key stays. -/
def ofList (es : List (String × α)) : Keyed α :=
  es.foldl (fun m e => m.insert e.1 e.2) empty

/-- All entries of both maps; where both have a key, the second map's value. -/
def union (m n : Keyed α) : Keyed α := n.entries.foldl (fun m e => m.insert e.1 e.2) m

theorem keysOf_filterMap_sublist (f : String → α → Option β) (es : List (String × α)) :
    (keysOf (es.filterMap fun e => (f e.1 e.2).map fun v => (e.1, v))).Sublist (keysOf es) := by
  induction es with
  | nil => simp [keysOf]
  | cons e rest ih =>
    simp only [List.filterMap_cons]
    cases h : f e.1 e.2 with
    | none => exact ih.cons _
    | some v => exact ih.cons_cons _

/-- Keeps the keys for which there is a new value. -/
def filterMap (f : String → α → Option β) (m : Keyed α) : Keyed β :=
  ⟨m.entries.filterMap fun e => (f e.1 e.2).map fun v => (e.1, v),
    m.sorted.sublist (keysOf_filterMap_sublist f m.entries)⟩

/-- As `filterMap`, with a state that goes through the entries in the order of their keys. -/
def traverseEntries {σ : Type} (f : String → α → StateM σ (Option β)) :
    List (String × α) → StateM σ (List (String × β))
  | [], s => ([], s)
  | (k, v) :: rest, s =>
    match f k v s with
    | (some w, s) =>
      let (es, s) := traverseEntries f rest s
      ((k, w) :: es, s)
    | (none, s) => traverseEntries f rest s

theorem keysOf_traverseEntries_sublist {σ : Type} (f : String → α → StateM σ (Option β))
    (es : List (String × α)) (s : σ) :
    (keysOf (traverseEntries f es s).1).Sublist (keysOf es) := by
  induction es generalizing s with
  | nil => simp [traverseEntries, keysOf]
  | cons e rest ih =>
    obtain ⟨k, v⟩ := e
    unfold traverseEntries
    split
    · rename_i s' _
      exact (ih s').cons_cons _
    · rename_i s' _
      exact (ih s').cons _

/-- As `filterMap`, with a state that goes through the keys in order. -/
def traverse {σ : Type} (f : String → α → StateM σ (Option β)) (m : Keyed α) :
    StateM σ (Keyed β) := fun s =>
  (⟨(traverseEntries f m.entries s).1,
      m.sorted.sublist (keysOf_traverseEntries_sublist f m.entries s)⟩,
    (traverseEntries f m.entries s).2)

def map (f : String → α → β) (m : Keyed α) : Keyed β := m.filterMap fun k v => some (f k v)

theorem find?_place_self (k : String) (v : α) (es : List (String × α)) :
    find? k (place k v es) = some v := by
  induction es with
  | nil => simp [place, find?]
  | cons e rest ih =>
    obtain ⟨k', v'⟩ := e
    unfold place
    split
    · simp [find?]
    · rename_i hne
      split
      · simp [find?]
      · simp [find?, hne, ih]

theorem find?_place_ne {k k' : String} (v : α) (es : List (String × α)) (h : k' ≠ k) :
    find? k' (place k v es) = find? k' es := by
  induction es with
  | nil => simp [place, find?, h]
  | cons e rest ih =>
    obtain ⟨k₁, v₁⟩ := e
    unfold place
    split
    · rename_i hk
      subst hk
      simp [find?, h]
    · split
      · simp [find?, h]
      · simp [find?, ih]

@[simp] theorem get?_insert_self (m : Keyed α) (k : String) (v : α) :
    (m.insert k v).get? k = some v := find?_place_self k v m.entries

theorem get?_insert_ne (m : Keyed α) {k k' : String} (v : α) (h : k' ≠ k) :
    (m.insert k v).get? k' = m.get? k' := find?_place_ne v m.entries h

@[simp] theorem get?_empty (k : String) : (empty : Keyed α).get? k = none := rfl

theorem find?_eq_none {k : String} {es : List (String × α)} (h : k ∉ keysOf es) :
    find? k es = none := by
  induction es with
  | nil => rfl
  | cons e rest ih =>
    obtain ⟨k', v'⟩ := e
    have hne : k ≠ k' := fun heq => h (heq ▸ List.mem_cons_self)
    rw [find?, if_neg hne]
    exact ih fun hk => h (List.mem_cons_of_mem _ hk)

/-- Where the keys increase, the key at the front does not come again. -/
theorem notMem_keysOf_tail {k : String} {v : α} {rest : List (String × α)}
    (h : (keysOf ((k, v) :: rest)).Pairwise (· < ·)) : k ∉ keysOf rest :=
  fun hk => String.lt_irrefl k ((List.pairwise_cons.1 h).1 k hk)

theorem find?_eq_some_iff {es : List (String × α)} (h : (keysOf es).Pairwise (· < ·)) (k : String)
    (v : α) : find? k es = some v ↔ (k, v) ∈ es := by
  induction es with
  | nil => simp [find?]
  | cons e rest ih =>
    obtain ⟨k', v'⟩ := e
    have hrest := ih (List.pairwise_cons.1 h).2
    rw [List.mem_cons, Prod.mk.injEq, find?]
    by_cases hk : k = k'
    · subst hk
      have hnew : (k, v) ∉ rest := fun hmem => notMem_keysOf_tail h (List.mem_map_of_mem hmem)
      simp [hnew, eq_comm]
    · simp [hk, hrest]

/-- The entries of a map are its keys with their values. -/
theorem get?_eq_some_iff {m : Keyed α} {k : String} {v : α} :
    m.get? k = some v ↔ (k, v) ∈ m.entries := find?_eq_some_iff m.sorted k v

theorem find?_foldl_insert {es : List (String × α)} (h : (keysOf es).Pairwise (· < ·))
    (m : Keyed α) (k : String) :
    (es.foldl (fun m e => m.insert e.1 e.2) m).get? k = (find? k es).or (m.get? k) := by
  induction es generalizing m with
  | nil => rfl
  | cons e rest ih =>
    obtain ⟨k', v'⟩ := e
    rw [List.foldl_cons, ih (List.pairwise_cons.1 h).2, find?]
    by_cases hk : k = k'
    · subst hk
      rw [find?_eq_none (notMem_keysOf_tail h), get?_insert_self, if_pos rfl]
      rfl
    · rw [get?_insert_ne m v' hk, if_neg hk]

theorem get?_union (m n : Keyed α) (k : String) :
    (m.union n).get? k = (n.get? k).or (m.get? k) := find?_foldl_insert n.sorted m k

theorem find?_filterMap (f : String → α → Option β) {es : List (String × α)}
    (h : (keysOf es).Pairwise (· < ·)) (k : String) :
    find? k (es.filterMap fun e => (f e.1 e.2).map fun v => (e.1, v)) =
      (find? k es).bind (f k) := by
  induction es with
  | nil => rfl
  | cons e rest ih =>
    obtain ⟨k', v'⟩ := e
    have hrest := ih (List.pairwise_cons.1 h).2
    by_cases hk : k = k'
    · subst hk
      cases hf : f k v' with
      | none =>
        simp only [List.filterMap_cons, hf, Option.map_none, find?, if_true, Option.bind_some]
        rw [hrest, find?_eq_none (notMem_keysOf_tail h)]
        rfl
      | some w => simp [hf, find?]
    · cases hf : f k' v' with
      | none => simp only [List.filterMap_cons, hf, Option.map_none, find?, if_neg hk, hrest]
      | some w => simp only [List.filterMap_cons, hf, Option.map_some, find?, if_neg hk, hrest]

theorem get?_filterMap (f : String → α → Option β) (m : Keyed α) (k : String) :
    (m.filterMap f).get? k = (m.get? k).bind (f k) := find?_filterMap f m.sorted k

theorem traverseEntries_cons_some {σ : Type} {f : String → α → StateM σ (Option β)} {k : String}
    {v : α} {w : β} {s s' : σ} (rest : List (String × α)) (h : f k v s = (some w, s')) :
    (traverseEntries f ((k, v) :: rest) s).1 = (k, w) :: (traverseEntries f rest s').1 := by
  simp only [traverseEntries, h]
  rfl

theorem traverseEntries_cons_none {σ : Type} {f : String → α → StateM σ (Option β)} {k : String}
    {v : α} {s s' : σ} (rest : List (String × α)) (h : f k v s = (none, s')) :
    (traverseEntries f ((k, v) :: rest) s).1 = (traverseEntries f rest s').1 := by
  simp only [traverseEntries, h]

theorem exists_find?_traverseEntries {σ : Type} (f : String → α → StateM σ (Option β))
    {es : List (String × α)} (h : (keysOf es).Pairwise (· < ·)) (k : String) (s : σ) :
    ∃ s₁, find? k (traverseEntries f es s).1 = (find? k es).bind fun v => (f k v s₁).1 := by
  induction es generalizing s with
  | nil => exact ⟨s, rfl⟩
  | cons e rest ih =>
    obtain ⟨k', v'⟩ := e
    cases hf : f k' v' s with
    | mk w s' =>
      obtain ⟨s₁, hrest⟩ := ih (List.pairwise_cons.1 h).2 s'
      by_cases hk : k = k'
      · subst hk
        refine ⟨s, ?_⟩
        rw [find?_eq_none (notMem_keysOf_tail h), Option.bind_none] at hrest
        cases w with
        | some w => simp [traverseEntries_cons_some rest hf, find?, hf]
        | none => simp [traverseEntries_cons_none rest hf, find?, hf, hrest]
      · refine ⟨s₁, ?_⟩
        cases w with
        | some w => simp [traverseEntries_cons_some rest hf, find?, hk, hrest]
        | none => simp [traverseEntries_cons_none rest hf, find?, hk, hrest]

/-- Under each key the new map has what some state gives for the value of the old one. -/
theorem exists_get?_traverse {σ : Type} (f : String → α → StateM σ (Option β)) (m : Keyed α)
    (k : String) (s : σ) :
    ∃ s₁, (m.traverse f s).1.get? k = (m.get? k).bind fun v => (f k v s₁).1 :=
  exists_find?_traverseEntries f m.sorted k s

theorem exists_of_get?_traverse {σ : Type} {f : String → α → StateM σ (Option β)} {m : Keyed α}
    {k : String} {w : β} {s : σ} (h : (m.traverse f s).1.get? k = some w) :
    ∃ v s₁, m.get? k = some v ∧ (f k v s₁).1 = some w := by
  obtain ⟨s₁, heq⟩ := exists_get?_traverse f m k s
  rw [heq] at h
  obtain ⟨v, hv, hw⟩ := Option.bind_eq_some_iff.1 h
  exact ⟨v, s₁, hv, hw⟩

end Keyed

end TestDesign
