import KnowledgeBase.Proofs.Embedding.Transparency

/-!
# The room of a cache

A cache never holds more entries than it has room for, whatever is looked up, kept and removed, and
what is found in it has not outlived its time.

## Main definitions

* `EmbeddingCache.Within` — a cache that keeps to its room, with a property of its entries.

## Main results

* `EmbeddingCache.Within.put` — keeping a vector keeps to the room.
* `EmbeddingCache.Within.lookupAll_fresh` — what is found was put in not too long ago.
-/

namespace KnowledgeBase

namespace EmbeddingCache

variable {ttl capacity : Nat} {P Q : EmbeddingCache.Entry → Prop} {c : EmbeddingCache}

/-! ### Removing entries -/

/-- A cache with a life and a room keeps to its room, holds nothing when it is off, and all of its
entries have a property. -/
structure Within (ttl capacity : Nat) (P : Entry → Prop) (c : EmbeddingCache) : Prop where
  ttl_eq : c.ttl = ttl
  capacity_eq : c.capacity = capacity
  length_le : c.entries.length ≤ capacity
  eq_nil_of_off : c.isOn = false → c.entries = []
  entries : ∀ e ∈ c.entries, P e

/-- The oldest entry is one of the entries. -/
theorem oldest?_mem : ∀ {entries : List Entry} {e : Entry}, oldest? entries = some e → e ∈ entries
  | [], e, h => by cases h
  | first :: rest, e, h => by
    unfold oldest? at h
    cases hrest : oldest? rest with
    | none =>
      rw [hrest] at h
      cases h
      exact List.mem_cons_self
    | some o =>
      have hmem : o ∈ rest := oldest?_mem hrest
      simp only [hrest] at h
      split at h
      · cases h
        exact List.mem_cons_self
      · cases h
        exact List.mem_cons_of_mem _ hmem

/-- There is an oldest entry where there is any. -/
theorem oldest?_ne_none : ∀ {entries : List Entry}, entries ≠ [] → oldest? entries ≠ none
  | [], h => absurd rfl h
  | first :: rest, _ => by
    unfold oldest?
    cases oldest? rest with
    | none => simp
    | some o =>
      simp only
      split <;> simp

/-- Removing the key of an entry makes room. -/
theorem length_erase_lt {e : Entry} (he : e ∈ c.entries) :
    (c.erase e.key).entries.length < c.entries.length := by
  unfold erase
  have hlt := List.length_filter_lt_length_iff_exists (l := c.entries)
    (p := fun x : Entry => decide (x.key ≠ e.key))
  exact hlt.2 ⟨e, he, by simp⟩

/-- Removing the oldest entry makes room. -/
theorem length_evictOldest_lt (h : c.entries ≠ []) :
    c.evictOldest.entries.length < c.entries.length := by
  unfold evictOldest
  cases holdest : oldest? c.entries with
  | none => exact absurd holdest (oldest?_ne_none h)
  | some e => exact length_erase_lt (oldest?_mem holdest)

namespace Within

theorem empty (ttl capacity : Nat) : Within ttl capacity P (.empty ttl capacity) where
  ttl_eq := rfl
  capacity_eq := rfl
  length_le := Nat.zero_le _
  eq_nil_of_off _ := rfl
  entries := nofun

theorem mono (h : Within ttl capacity P c) (hPQ : ∀ e, P e → Q e) : Within ttl capacity Q c :=
  { h with entries := fun e he => hPQ e (h.entries e he) }

theorem filter (h : Within ttl capacity P c) (keep : Entry → Bool) :
    Within ttl capacity P { c with entries := c.entries.filter keep } where
  ttl_eq := h.ttl_eq
  capacity_eq := h.capacity_eq
  length_le := Nat.le_trans (List.length_filter_le _ _) h.length_le
  eq_nil_of_off hoff := by
    have hnil : c.entries = [] := h.eq_nil_of_off hoff
    simp [hnil]
  entries e he := h.entries e (List.mem_filter.1 he).1

theorem erase (h : Within ttl capacity P c) (key : String) :
    Within ttl capacity P (c.erase key) := h.filter _

theorem evictExpired (h : Within ttl capacity P c) (now : Nat) :
    Within ttl capacity P (c.evictExpired now) := h.filter _

theorem evictOldest (h : Within ttl capacity P c) : Within ttl capacity P c.evictOldest := by
  unfold EmbeddingCache.evictOldest
  split
  · exact h
  · exact h.erase _

theorem makeRoom (h : Within ttl capacity P c) (now : Nat) :
    Within ttl capacity P (c.makeRoom now) := by
  unfold EmbeddingCache.makeRoom
  simp only
  split
  · exact (h.evictExpired now).evictOldest
  · exact h.evictExpired now

/-- After room was made there is room. -/
theorem length_makeRoom_lt (h : Within ttl capacity P c) (hpos : 0 < capacity) (now : Nat) :
    (c.makeRoom now).entries.length < capacity := by
  have hevicted := h.evictExpired now
  unfold EmbeddingCache.makeRoom
  simp only
  split
  · next hfull =>
    have hle : capacity ≤ (c.evictExpired now).entries.length := by
      simpa [isFull, hevicted.capacity_eq] using hfull
    have hne : (c.evictExpired now).entries ≠ [] := by
      intro hnil
      rw [hnil] at hle
      simp at hle
      omega
    have hlt := length_evictOldest_lt hne
    have hbound := hevicted.length_le
    omega
  · next hroom => simpa [isFull, hevicted.capacity_eq] using hroom

/-- A lookup keeps to the room. -/
theorem lookup (h : Within ttl capacity P c) (now : Nat) (key : String) :
    Within ttl capacity P (c.lookup now key).2 := by
  unfold EmbeddingCache.lookup
  split
  · exact h
  · split
    · exact h
    · split
      · exact h.erase key
      · exact h

/-- A new entry keeps to the room when there is room once the old entry of its key is gone. -/
theorem replace (h : Within ttl capacity P c) (hon : c.isOn = true) {now : Nat} {key : String}
    {v : Embedding} (hnew : P ⟨key, v, now⟩) (hlt : (c.erase key).entries.length < capacity) :
    Within ttl capacity P
      { c.erase key with entries := (c.erase key).entries ++ [⟨key, v, now⟩] } where
  ttl_eq := h.ttl_eq
  capacity_eq := h.capacity_eq
  length_le := by
    simp only [List.length_append, List.length_singleton]
    omega
  eq_nil_of_off hoff := by
    have hcontra : c.isOn = false := hoff
    rw [hon] at hcontra
    cases hcontra
  entries e he := by
    rcases List.mem_append.1 he with he | he
    · exact (h.erase key).entries e he
    · rw [List.mem_singleton.1 he]
      exact hnew

/-- A full cache has room for a key once the entry of that key is gone. -/
theorem length_erase_lt_of_found (h : Within ttl capacity P c) {key : String}
    (hfound : c.isFull = true → (c.find? key).isSome = true) :
    (c.erase key).entries.length < capacity := by
  have hle : (c.erase key).entries.length ≤ c.entries.length := List.length_filter_le _ _
  by_cases hfull : c.isFull = true
  · obtain ⟨e, hfind⟩ := Option.isSome_iff_exists.1 (hfound hfull)
    obtain ⟨hmem, rfl⟩ := mem_of_find?_eq_some hfind
    have hlt := length_erase_lt hmem
    have hbound := h.length_le
    omega
  · have hlt : c.entries.length < capacity := by
      simpa [isFull, h.capacity_eq] using hfull
    omega

/-- **Keeping a vector keeps to the room**: a new key takes the place of another when the cache is
full, and a key that is there already takes its own. -/
theorem put (h : Within ttl capacity P c) {now : Nat} {key : String} {v : Embedding}
    (hnew : P ⟨key, v, now⟩) : Within ttl capacity P (c.put now key v) := by
  unfold EmbeddingCache.put
  split
  · exact h
  · next hon =>
    have hon : c.isOn = true := by simpa using hon
    by_cases hmake : (c.isFull && (c.find? key).isNone) = true
    · simp only [hmake, if_true]
      have hmade := h.makeRoom now
      have hon' : (c.makeRoom now).isOn = true := by
        rw [isOn, hmade.ttl_eq, hmade.capacity_eq, ← h.ttl_eq, ← h.capacity_eq]
        exact hon
      have hpos : 0 < capacity := by
        simp only [isOn, Bool.and_eq_true, decide_eq_true_eq] at hon
        exact h.capacity_eq ▸ hon.2
      have hlt := h.length_makeRoom_lt hpos now
      have hle : ((c.makeRoom now).erase key).entries.length ≤ (c.makeRoom now).entries.length :=
        List.length_filter_le _ _
      exact hmade.replace hon' hnew (by omega)
    · simp only [hmake]
      refine h.replace hon hnew (h.length_erase_lt_of_found ?_)
      intro hfull
      rw [hfull, Bool.true_and, Option.isNone_iff_eq_none] at hmake
      exact Option.isSome_iff_ne_none.2 hmake

theorem lookupAll (h : Within ttl capacity P c) (clock : Nat → Nat) (texts : List String) :
    Within ttl capacity P (c.lookupAll clock texts).2 := by
  induction texts generalizing clock c with
  | nil => exact h
  | cons text rest ih => exact ih (h.lookup (clock 0) (keyOf text)) fun i => clock (i + 1)

/-- Vectors are kept one after the other, each at a reading of its own. -/
theorem putAll (h : Within ttl capacity P c) {clock : Nat → Nat}
    {pairs : List (String × Embedding)}
    (hnew : ∀ i text v, pairs[i]? = some (text, v) → P ⟨keyOf text, v, clock i⟩) :
    Within ttl capacity P (c.putAll clock pairs) := by
  induction pairs generalizing clock c with
  | nil => exact h
  | cons pair rest ih =>
    obtain ⟨text, v⟩ := pair
    have hfirst : P ⟨keyOf text, v, clock 0⟩ := hnew 0 text v rfl
    refine ih (h.put hfirst) ?_
    intro i text' v' hpair
    exact hnew (i + 1) text' v' hpair

/-! ### The age of what is found -/

/-- What is found under a key is a vector of the key that has not outlived its time. -/
theorem lookup_fresh (h : Within ttl capacity P c) {now : Nat} {key : String} {v : Embedding}
    (hfound : (c.lookup now key).1 = some v) :
    ∃ e, P e ∧ e.key = key ∧ e.vector = v ∧ now ≤ e.insertedAt + ttl := by
  unfold EmbeddingCache.lookup at hfound
  split at hfound
  · cases hfound
  · split at hfound
    · cases hfound
    · next e hfind =>
      obtain ⟨hmem, hkey⟩ := mem_of_find?_eq_some hfind
      split at hfound
      · cases hfound
      · next halive =>
        have hage : ¬ ttl < now - e.insertedAt := by
          simpa [isExpired, h.ttl_eq] using halive
        exact ⟨e, h.entries e hmem, hkey, Option.some.inj hfound, by omega⟩

/-- **What is found was put in not too long ago**, and is a vector of the key of its text. -/
theorem lookupAll_fresh (h : Within ttl capacity P c) {clock : Nat → Nat} {texts : List String}
    {i : Nat} {v : Embedding} (hfound : (c.lookupAll clock texts).1[i]? = some (some v)) :
    ∃ text e, texts[i]? = some text ∧ P e ∧ e.key = keyOf text ∧ e.vector = v ∧
      clock i ≤ e.insertedAt + ttl := by
  induction texts generalizing clock c i with
  | nil => cases hfound
  | cons text rest ih =>
    have hrest := h.lookup (clock 0) (keyOf text)
    cases i with
    | zero =>
      obtain ⟨e, he⟩ := h.lookup_fresh (Option.some.inj hfound)
      exact ⟨text, e, rfl, he⟩
    | succ i => exact ih hrest hfound

end Within

/-! ### What is filled in -/

theorem eq_cons_of_map {x : Except EmbeddingError (List Embedding)} {first : Embedding}
    {vectors : List Embedding} (h : x.map (first :: ·) = .ok vectors) :
    ∃ others, x = .ok others ∧ vectors = first :: others := by
  cases x with
  | error e => cases h
  | ok others => exact ⟨others, rfl, (Except.ok.inj h).symm⟩

/-- In each place of a filled list nothing was found before, or just what is there. -/
theorem getElem?_fill {found : List (Option Embedding)} {answers vectors : List Embedding}
    (h : fill found answers = .ok vectors) {i : Nat} {v : Embedding}
    (hv : vectors[i]? = some v) : found[i]? = some none ∨ found[i]? = some (some v) := by
  induction found generalizing answers vectors i with
  | nil =>
    cases h
    cases hv
  | cons first rest ih =>
    cases first with
    | none =>
      cases answers with
      | nil => cases h
      | cons answer answers =>
        obtain ⟨others, hothers, rfl⟩ := eq_cons_of_map h
        cases i with
        | zero => exact .inl rfl
        | succ i => exact ih hothers hv
    | some vector =>
      obtain ⟨others, hothers, rfl⟩ := eq_cons_of_map h
      cases i with
      | zero => exact .inr (congrArg some hv)
      | succ i => exact ih hothers hv

end EmbeddingCache

end KnowledgeBase
