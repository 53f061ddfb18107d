import Mathlib.Data.List.Nodup
import KnowledgeBase.Proofs.Embedding.Batch

/-!
# What a cache gives up

An entry leaves a cache for one of three reasons: another vector of its key takes its place, it has
expired, or the cache is full of entries that have not and it is the oldest.  So a vector drives out
another one only when there is no other way, and a call that fails adds nothing and drives out
nothing.

## Main definitions

* `EmbeddingCache.Reached` — a cache that can come about by an instant, by lookups, by vectors that
  are kept and by removals of what has expired, in any order.
* `EmbeddingCache.Tidy` — a cache that keeps to its room, with one entry for each key.

## Main results

* `EmbeddingCache.Reached.tidy` — every cache that can come about is tidy.
* `CachedEmbedder.Session.Reachable.reached` — the cache of every session can come about.
* `EmbeddingCache.Tidy.mem_lookupAll` — lookups remove what has expired under their keys.
* `EmbeddingCache.Reached.gives_up_least` — **what a vector drives out, and what is left when a call
  fails.**
-/

namespace KnowledgeBase

namespace EmbeddingCache

open CachedEmbedder.Session (Readings)

variable {ttl capacity now : Nat} {c : EmbeddingCache} {key : String} {clock : Nat → Nat}

/-- A cache that can come about by an instant. -/
inductive Reached (ttl capacity : Nat) : Nat → EmbeddingCache → Prop where
  | empty (now : Nat) : Reached ttl capacity now (.empty ttl capacity)
  | wait {now later : Nat} {c : EmbeddingCache} (h : Reached ttl capacity now c)
    (hle : now ≤ later) : Reached ttl capacity later c
  | lookup {now : Nat} {c : EmbeddingCache} (h : Reached ttl capacity now c) (key : String) :
    Reached ttl capacity now (c.lookup now key).2
  | put {now : Nat} {c : EmbeddingCache} (h : Reached ttl capacity now c) (key : String)
    (vector : Embedding) : Reached ttl capacity now (c.put now key vector)
  | evictExpired {now : Nat} {c : EmbeddingCache} (h : Reached ttl capacity now c) :
    Reached ttl capacity now (c.evictExpired now)

/-- A cache that keeps to its room and holds nothing when it is off, with one entry for each key,
put in by an instant. -/
structure Tidy (ttl capacity now : Nat) (c : EmbeddingCache) : Prop where
  within : Within ttl capacity (fun e => e.insertedAt ≤ now) c
  nodup : (c.entries.map Entry.key).Nodup

/-! ### One entry for each key -/

theorem find?_eq_none_iff : c.find? key = none ↔ ∀ e ∈ c.entries, e.key ≠ key := by
  rw [find?, List.find?_eq_none]
  simp

/-- Without an entry of the key there is nothing to erase. -/
theorem erase_of_absent (h : ∀ e ∈ c.entries, e.key ≠ key) : c.erase key = c := by
  have hsame : (c.entries.filter fun e => decide (e.key ≠ key)) = c.entries :=
    List.filter_eq_self.2 fun e he => decide_eq_true (h e he)
  rw [erase, hsame]

theorem lookup_sublist (now : Nat) (key : String) (c : EmbeddingCache) :
    (c.lookup now key).2.entries.Sublist c.entries := by
  unfold lookup
  split
  · exact List.Sublist.refl _
  · split
    · exact List.Sublist.refl _
    · split
      · exact List.filter_sublist
      · exact List.Sublist.refl _

theorem evictOldest_sublist (c : EmbeddingCache) : c.evictOldest.entries.Sublist c.entries := by
  unfold evictOldest
  split
  · exact List.Sublist.refl _
  · exact List.filter_sublist

theorem makeRoom_sublist (now : Nat) (c : EmbeddingCache) :
    (c.makeRoom now).entries.Sublist c.entries := by
  have hevicted : (c.evictExpired now).entries.Sublist c.entries := List.filter_sublist
  unfold makeRoom
  simp only
  split
  · exact (evictOldest_sublist _).trans hevicted
  · exact hevicted

/-- What is kept of the other entries when a vector is put in. -/
def others (now : Nat) (key : String) (c : EmbeddingCache) : List Entry :=
  ((if c.isFull && (c.find? key).isNone then c.makeRoom now else c).erase key).entries

theorem entries_put (hon : c.isOn = true) (now : Nat) (key : String) (v : Embedding) :
    (c.put now key v).entries = c.others now key ++ [⟨key, v, now⟩] := by
  unfold put
  rw [hon]
  rfl

theorem others_sublist (now : Nat) (key : String) (c : EmbeddingCache) :
    (c.others now key).Sublist c.entries := by
  unfold others
  split
  · exact List.filter_sublist.trans (makeRoom_sublist now c)
  · exact List.filter_sublist

theorem ne_of_mem_others {e : Entry} (h : e ∈ c.others now key) : e.key ≠ key := by
  unfold others at h
  simpa [erase] using (List.mem_filter.1 h).2

namespace Tidy

theorem mono {later : Nat} (h : Tidy ttl capacity now c) (hle : now ≤ later) :
    Tidy ttl capacity later c :=
  ⟨h.within.mono fun _ he => Nat.le_trans he hle, h.nodup⟩

/-- There is one entry of each key. -/
theorem eq_of_key_eq (h : Tidy ttl capacity now c) {e e' : Entry} (he : e ∈ c.entries)
    (he' : e' ∈ c.entries) (hkey : e.key = e'.key) : e = e' :=
  List.inj_on_of_nodup_map h.nodup he he' hkey

theorem lookup (h : Tidy ttl capacity now c) (now' : Nat) (key : String) :
    Tidy ttl capacity now (c.lookup now' key).2 :=
  ⟨h.within.lookup now' key, h.nodup.sublist ((lookup_sublist now' key c).map _)⟩

theorem put (h : Tidy ttl capacity now c) (key : String) (v : Embedding) :
    Tidy ttl capacity now (c.put now key v) := by
  refine ⟨h.within.put (Nat.le_refl now), ?_⟩
  cases hon : c.isOn with
  | false =>
    rw [EmbeddingCache.put, hon]
    exact h.nodup
  | true =>
    rw [entries_put hon, List.map_append, List.nodup_append]
    refine ⟨h.nodup.sublist ((others_sublist now key c).map _), List.nodup_singleton _, ?_⟩
    intro k hk k' hk'
    obtain ⟨e, he, rfl⟩ := List.mem_map.1 hk
    rw [List.map_singleton, List.mem_singleton] at hk'
    rw [hk']
    exact ne_of_mem_others he

end Tidy

/-- **Every cache that can come about is tidy.** -/
theorem Reached.tidy (h : Reached ttl capacity now c) : Tidy ttl capacity now c := by
  induction h with
  | empty now => exact ⟨.empty ttl capacity, List.nodup_nil⟩
  | wait _ hle ih => exact ih.mono hle
  | lookup _ key ih => exact ih.lookup _ key
  | put _ key v ih => exact ih.put key v
  | evictExpired _ ih =>
    exact ⟨ih.within.evictExpired _, ih.nodup.sublist (List.filter_sublist.map _)⟩

theorem Reached.lookupAll (h : Reached ttl capacity now c) (hclock : Readings now clock)
    (texts : List String) :
    Reached ttl capacity (clock texts.length) (c.lookupAll clock texts).2 := by
  induction texts generalizing now c clock with
  | nil => exact h.wait hclock.1
  | cons text rest ih => exact ih ((h.wait hclock.1).lookup (keyOf text)) hclock.shift

theorem Reached.putAll (h : Reached ttl capacity now c) (hclock : Readings now clock)
    (pairs : List (String × Embedding)) :
    Reached ttl capacity (clock pairs.length) (c.putAll clock pairs) := by
  induction pairs generalizing now c clock with
  | nil => exact h.wait hclock.1
  | cons pair rest ih => exact ih ((h.wait hclock.1).put (keyOf pair.1) pair.2) hclock.shift

/-! ### What lookups remove -/

/-- A lookup removes the entry of its key if that has expired, and no other. -/
theorem Tidy.mem_lookup (h : Tidy ttl capacity now c) {later : Nat} {e : Entry} :
    e ∈ (c.lookup later key).2.entries ↔
      e ∈ c.entries ∧ ¬ (e.key = key ∧ c.isExpired later e = true) := by
  unfold EmbeddingCache.lookup
  split
  · next hoff =>
    rw [h.within.eq_nil_of_off (by simpa using hoff)]
    simp
  · split
    · next hfind =>
      have habsent := find?_eq_none_iff.1 hfind
      exact ⟨fun he => ⟨he, fun hkey => habsent e he hkey.1⟩, And.left⟩
    · next o hfind =>
      obtain ⟨ho, hkey⟩ := mem_of_find?_eq_some hfind
      -- the entry that was found is the only one of the key
      have honly : ∀ e ∈ c.entries, e.key = key → e = o :=
        fun e he hk => h.eq_of_key_eq he ho (hk.trans hkey.symm)
      split
      · next hexpired =>
        constructor
        · intro he
          have hne : e.key ≠ key := by simpa [erase] using (List.mem_filter.1 he).2
          exact ⟨mem_of_mem_erase he, fun hboth => hne hboth.1⟩
        · rintro ⟨he, hnot⟩
          have hne : e.key ≠ key := by
            intro hk
            rw [honly e he hk] at hnot
            exact hnot ⟨hkey, hexpired⟩
          exact List.mem_filter.2 ⟨he, decide_eq_true hne⟩
      · next halive =>
        constructor
        · intro he
          refine ⟨he, ?_⟩
          rintro ⟨hk, hexpired⟩
          rw [honly e he hk] at hexpired
          exact halive hexpired
        · exact And.left

/-- **Lookups remove what has expired under their keys**, and nothing else. -/
theorem Tidy.mem_lookupAll (h : Tidy ttl capacity now c) (clock : Nat → Nat) (texts : List String)
    {e : Entry} :
    e ∈ (c.lookupAll clock texts).2.entries ↔ e ∈ c.entries ∧
      ¬ ∃ i text, texts[i]? = some text ∧ keyOf text = e.key ∧
        c.isExpired (clock i) e = true := by
  induction texts generalizing c clock with
  | nil =>
    refine ⟨fun he => ⟨he, ?_⟩, And.left⟩
    rintro ⟨i, text, htext, -⟩
    cases htext
  | cons text rest ih =>
    have hlooked := h.lookup (clock 0) (keyOf text)
    have hexpired : ∀ i, (c.lookup (clock 0) (keyOf text)).2.isExpired i e = c.isExpired i e := by
      intro i
      rw [isExpired, isExpired, hlooked.within.ttl_eq, h.within.ttl_eq]
    have hrest := ih hlooked fun i => clock (i + 1)
    simp only [hexpired] at hrest
    refine hrest.trans ?_
    rw [h.mem_lookup, and_assoc]
    refine and_congr_right fun _ => ?_
    rw [← not_or]
    refine not_congr ?_
    constructor
    · rintro (⟨hkey, hold⟩ | ⟨i, text', htext', hboth⟩)
      · exact ⟨0, text, rfl, hkey.symm, hold⟩
      · exact ⟨i + 1, text', htext', hboth⟩
    · rintro ⟨i, text', htext', hkey, hold⟩
      cases i with
      | zero =>
        cases htext'
        exact .inl ⟨hkey.symm, hold⟩
      | succ i => exact .inr ⟨i, text', htext', hkey, hold⟩

/-! ### What a vector drives out -/

/-- The oldest entry is at most as young as any other. -/
theorem oldest?_le : ∀ {entries : List Entry} {o e : Entry},
    oldest? entries = some o → e ∈ entries → o.insertedAt ≤ e.insertedAt
  | [], o, e, h, he => by cases h
  | first :: rest, o, e, h, he => by
    unfold oldest? at h
    cases hrest : oldest? rest with
    | none =>
      rw [hrest] at h
      cases h
      cases rest with
      | nil => exact Nat.le_of_eq (congrArg Entry.insertedAt (List.mem_singleton.1 he).symm)
      | cons second rest => exact absurd hrest (oldest?_ne_none (List.cons_ne_nil _ _))
    | some o' =>
      have hle : ∀ e ∈ rest, o'.insertedAt ≤ e.insertedAt := fun e he => oldest?_le hrest he
      simp only [hrest] at h
      split at h
      · next hfirst =>
        cases h
        rcases List.mem_cons.1 he with rfl | he
        · exact Nat.le_refl _
        · exact Nat.le_trans hfirst (hle e he)
      · next hfirst =>
        cases h
        rcases List.mem_cons.1 he with rfl | he
        · exact Nat.le_of_not_le hfirst
        · exact hle e he

/-- Erasing the key of an entry removes that entry and no other. -/
theorem Tidy.entries_erase (h : Tidy ttl capacity now c) {before after : List Entry} {o : Entry}
    (hsplit : c.entries = before ++ o :: after) : (c.erase o.key).entries = before ++ after := by
  have hnodup := h.nodup
  rw [hsplit, List.map_append, List.map_cons, List.nodup_middle, List.nodup_cons,
    ← List.map_append] at hnodup
  have hne : ∀ e ∈ before ++ after, e.key ≠ o.key := by
    intro e he hkey
    exact hnodup.1 (hkey ▸ List.mem_map_of_mem he)
  have hfilter : (before ++ after).filter (fun e => decide (e.key ≠ o.key)) = before ++ after :=
    List.filter_eq_self.2 fun e he => decide_eq_true (hne e he)
  rw [erase, hsplit, List.filter_append, List.filter_cons_of_neg (by simp), ← List.filter_append,
    hfilter]

/-- A key that is there, or for which there is room, drives out nothing but its own entry. -/
theorem others_of_room (h : (∃ e ∈ c.entries, e.key = key) ∨ c.entries.length < c.capacity) :
    c.others now key = c.entries.filter fun e => e.key ≠ key := by
  have hroom : (c.isFull && (c.find? key).isNone) = false := by
    rw [Bool.and_eq_false_iff]
    rcases h with ⟨e, he, hkey⟩ | hlt
    · right
      cases hfind : c.find? key with
      | none => exact absurd hkey (find?_eq_none_iff.1 hfind e he)
      | some o => rfl
    · left
      simpa [isFull] using hlt
  rw [others, hroom]
  rfl

/-- A full cache makes room for a key that is not there. -/
theorem others_of_full (habsent : ∀ e ∈ c.entries, e.key ≠ key)
    (hfull : c.capacity ≤ c.entries.length) :
    c.others now key = (c.makeRoom now).entries := by
  have hmake : (c.isFull && (c.find? key).isNone) = true := by
    rw [find?_eq_none_iff.2 habsent, isFull, decide_eq_true hfull]
    rfl
  rw [others, hmake, if_pos rfl, erase_of_absent]
  exact fun e he => habsent e (mem_of_mem_makeRoom he)

/-- Where some entries have expired, room is made by removing them. -/
theorem Tidy.entries_makeRoom_of_expired (h : Tidy ttl capacity now c) {later : Nat}
    (hexpired : ∃ e ∈ c.entries, c.isExpired later e = true) :
    (c.makeRoom later).entries = c.entries.filter fun e => !c.isExpired later e := by
  have hlt : (c.evictExpired later).entries.length < c.entries.length := by
    refine List.length_filter_lt_length_iff_exists.2 ?_
    obtain ⟨e, he, hold⟩ := hexpired
    exact ⟨e, he, by simp [hold]⟩
  have hroom : (c.evictExpired later).isFull = false := by
    have hle := h.within.length_le
    rw [isFull, (h.within.evictExpired later).capacity_eq, decide_eq_false_iff_not]
    omega
  unfold EmbeddingCache.makeRoom
  simp only [hroom]
  rfl

/-- Where none have expired, room is made by removing the oldest. -/
theorem Tidy.entries_makeRoom_of_live (h : Tidy ttl capacity now c) {later : Nat}
    (hcapacity : 0 < capacity) (hfull : capacity ≤ c.entries.length)
    (hlive : ∀ e ∈ c.entries, c.isExpired later e = false) :
    ∃ before o after, c.entries = before ++ o :: after ∧
      (c.makeRoom later).entries = before ++ after ∧
      ∀ e ∈ before ++ after, o.insertedAt ≤ e.insertedAt := by
  have hsame : c.evictExpired later = c := by
    have hkept : (c.entries.filter fun e => !c.isExpired later e) = c.entries :=
      List.filter_eq_self.2 fun e he => by simp [hlive e he]
    rw [EmbeddingCache.evictExpired, hkept]
  have hne : c.entries ≠ [] := by
    intro hnil
    rw [hnil, List.length_nil] at hfull
    omega
  obtain ⟨o, ho⟩ := Option.ne_none_iff_exists'.1 (oldest?_ne_none hne)
  obtain ⟨before, after, hsplit⟩ := List.append_of_mem (oldest?_mem ho)
  refine ⟨before, o, after, hsplit, ?_, ?_⟩
  · have hfull' : c.isFull = true := by
      rw [isFull, h.within.capacity_eq]
      exact decide_eq_true hfull
    unfold EmbeddingCache.makeRoom
    simp only [hsame, hfull', if_true, EmbeddingCache.evictOldest, ho]
    exact h.entries_erase hsplit
  · intro e he
    refine oldest?_le ho ?_
    rw [hsplit]
    rcases List.mem_append.1 he with he | he
    · exact List.mem_append_left _ he
    · exact List.mem_append_right _ (List.mem_cons_of_mem _ he)

end EmbeddingCache

namespace CachedEmbedder

open EmbeddingCache Session

variable {ε : Type} [Embedder ε] {ttl capacity : Nat}

/-- **The cache of every session can come about** by its own operations. -/
theorem Session.Reachable.reached {inner : ε} {s : Session ε}
    (h : Reachable inner ttl capacity s) : Reached ttl capacity s.now s.embedder.cache := by
  induction h with
  | start now => exact .empty now
  | step _ hstep ih =>
    cases hstep with
    | ask r hclock =>
      simp only [(ask_spec _ _ r.texts).2.2.1]
      exact ih.lookupAll hclock r.texts
    | @receive c now before after answered r p clock hclock =>
      rcases (receive_spec c clock p).2 with hsame | ⟨vectors, -, -, hput⟩
      · simp only [hsame]
        exact ih.wait (hclock.le _)
      · have hle : (p.batch.zip vectors).length ≤ p.texts.length := by
          have hbatch : p.batch.length ≤ p.texts.length := length_missing_le _ _
          rw [List.length_zip]
          omega
        simp only [hput]
        exact (ih.putAll hclock _).wait (hclock.mono hle)
    | evict hnow => exact (ih.wait hnow).evictExpired

omit [Embedder ε] in
/-- A call that fails adds nothing. -/
theorem cache_receive_of_error {c : CachedEmbedder ε} {clock : Nat → Nat} {p : Pending}
    (hfound : p.found.length = p.texts.length) {error : EmbeddingError}
    (h : (c.receive clock p).1 = .error error) : (c.receive clock p).2.cache = c.cache := by
  rcases (receive_spec c clock p).2 with hsame | ⟨vectors, hanswer, hlength, -⟩
  · exact hsame
  · obtain ⟨filled, hok, -⟩ := c.receive_merges clock hfound (.inr hanswer) hlength
    rw [hok] at h
    cases h

end CachedEmbedder

namespace EmbeddingCache

namespace Reached

variable {ttl capacity now : Nat} {c : EmbeddingCache}

theorem isOn_iff (h : Reached ttl capacity now c) : c.isOn = true ↔ 0 < ttl ∧ 0 < capacity := by
  rw [isOn, h.tidy.within.ttl_eq, h.tidy.within.capacity_eq, Bool.and_eq_true, decide_eq_true_iff,
    decide_eq_true_iff]

/-- A cache that is off keeps nothing. -/
theorem put_of_zero (h : Reached ttl capacity now c) (hzero : ttl = 0 ∨ capacity = 0)
    (key : String) (v : Embedding) : c.entries = [] ∧ c.put now key v = c := by
  have hoff : c.isOn = false := by
    rw [← Bool.not_eq_true, h.isOn_iff]
    omega
  refine ⟨h.tidy.within.eq_nil_of_off hoff, ?_⟩
  rw [EmbeddingCache.put, hoff]
  rfl

/-- A vector drives one entry out of a full cache of live entries, and none of the rest is older. -/
theorem put_of_full (h : Reached ttl capacity now c) (hpos : 0 < capacity) (hon : c.isOn = true)
    {key : String} {v : Embedding} (habsent : ∀ e ∈ c.entries, e.key ≠ key)
    (hfull : capacity ≤ c.entries.length) (hlive : ∀ e ∈ c.entries, c.isExpired now e = false) :
    ∃ before o after, c.entries = before ++ o :: after ∧ c.others now key = before ++ after ∧
      ∀ e ∈ (c.put now key v).entries, o.insertedAt ≤ e.insertedAt := by
  have hmade : c.others now key = (c.makeRoom now).entries :=
    others_of_full habsent (h.tidy.within.capacity_eq ▸ hfull)
  obtain ⟨before, o, after, hsplit, hrest, hold⟩ :=
    h.tidy.entries_makeRoom_of_live hpos hfull hlive
  refine ⟨before, o, after, hsplit, hmade.trans hrest, ?_⟩
  intro e he
  rw [entries_put hon, hmade, hrest] at he
  rcases List.mem_append.1 he with he | he
  · exact hold e he
  · rw [List.mem_singleton.1 he]
    exact h.tidy.within.entries o (hsplit ▸ List.mem_append_right _ List.mem_cons_self)

end Reached

/-- **What a vector drives out, and what is left when a call fails.**  A cache that is off keeps
nothing.  Otherwise a vector whose key is there, or for which there is room, drives out nothing but
the entry of its key; if the cache is full and some entries have expired, those and no others; and
if none have, exactly one entry, than which none of the rest is older.  A call removes what has
expired under the keys of its texts; if it fails, nothing else happens to the cache, whatever other
calls did to it while the backend was asked. -/
theorem Reached.gives_up_least {ttl capacity now : Nat} {c : EmbeddingCache}
    (h : Reached ttl capacity now c) :
    (∀ key v,
      (ttl = 0 ∨ capacity = 0 → c.entries = [] ∧ c.put now key v = c) ∧
      (0 < ttl → 0 < capacity →
        ∃ others, (c.put now key v).entries = others ++ [⟨key, v, now⟩] ∧
          ((∃ e ∈ c.entries, e.key = key) ∨ c.entries.length < capacity →
            others = c.entries.filter fun e => e.key ≠ key) ∧
          ((∀ e ∈ c.entries, e.key ≠ key) → capacity ≤ c.entries.length →
            ((∃ e ∈ c.entries, c.isExpired now e = true) →
              others = c.entries.filter fun e => !c.isExpired now e) ∧
            ((∀ e ∈ c.entries, c.isExpired now e = false) →
              ∃ before o after, c.entries = before ++ o :: after ∧ others = before ++ after ∧
                ∀ e ∈ (c.put now key v).entries, o.insertedAt ≤ e.insertedAt)))) ∧
    ∀ {ε : Type} [Embedder ε] (inner : ε) (clock : Nat → Nat) (texts : List String),
      CachedEmbedder.Session.Readings now clock →
      let call := (⟨inner, c⟩ : CachedEmbedder ε).ask clock texts
      (∀ e, e ∈ call.2.cache.entries ↔ e ∈ c.entries ∧
        ¬ ∃ i text, texts[i]? = some text ∧ keyOf text = e.key ∧
          c.isExpired (clock i) e = true) ∧
      ∀ (c' : CachedEmbedder ε) (clock' : Nat → Nat) (error : EmbeddingError),
        (c'.receive clock' call.1).1 = .error error →
        (c'.receive clock' call.1).2.cache = c'.cache := by
  have htidy := h.tidy
  have hcapacity : c.capacity = capacity := htidy.within.capacity_eq
  refine ⟨?_, ?_⟩
  · intro key v
    refine ⟨fun hzero => h.put_of_zero hzero key v, ?_⟩
    intro httl hpos
    have hon : c.isOn = true := h.isOn_iff.2 ⟨httl, hpos⟩
    refine ⟨c.others now key, entries_put hon now key v, ?_, ?_⟩
    · rw [← hcapacity]
      exact others_of_room
    · intro habsent hfull
      refine ⟨?_, h.put_of_full hpos hon habsent hfull⟩
      rw [others_of_full habsent (hcapacity ▸ hfull)]
      exact htidy.entries_makeRoom_of_expired
  · intro ε _ inner clock texts hclock call
    obtain ⟨htexts, hfound, hcache, -⟩ := CachedEmbedder.Session.ask_spec ⟨inner, c⟩ clock texts
    refine ⟨?_, ?_⟩
    · intro e
      rw [hcache]
      exact htidy.mem_lookupAll clock texts
    · intro c' clock' error herror
      refine CachedEmbedder.cache_receive_of_error ?_ herror
      rw [hfound, htexts, lookupAll_fst hclock, length_live]

/-- A third key drives out one of two entries.  Later the backend fails when it is asked for a key
that is not there. -/
theorem gives_up_least_oldest :
    let c := ((EmbeddingCache.empty 1000 2).put 0 (keyOf "a") [1]).put 5 (keyOf "b") [2]
    let call := (⟨⟨3, 3, .failing, []⟩, c⟩ : CachedEmbedder ByteEmbedder).ask
      (fun _ => 1003) ["a", "c"]
    (∃ before o after, c.entries = before ++ o :: after ∧
      (c.put 10 (keyOf "c") [3]).entries = before ++ after ++ [⟨keyOf "c", [3], 10⟩] ∧
      ∀ e ∈ (c.put 10 (keyOf "c") [3]).entries, o.insertedAt ≤ e.insertedAt) ∧
      (call.2.receive (fun _ => 1003) call.1).1 = .error (.backend "backend down") ∧
      (call.2.receive (fun _ => 1003) call.1).2.cache = call.2.cache := by
  intro c call
  have hc : Reached 1000 2 10 c :=
    ((((Reached.empty 0).put (keyOf "a") [1]).wait (Nat.zero_le 5)).put (keyOf "b") [2]).wait
      (by decide)
  have habsent : ∀ e ∈ c.entries, e.key ≠ keyOf "c" := by decide +kernel
  have hlive : ∀ e ∈ c.entries, c.isExpired 10 e = false := by decide +kernel
  have hfull : 2 ≤ c.entries.length := by decide +kernel
  have hasked : (missing ["a", "c"] (c.live (fun _ => 1003) ["a", "c"])) ≠ [] := by decide +kernel
  obtain ⟨hput, hcall⟩ := hc.gives_up_least
  refine ⟨?_, ?_⟩
  · obtain ⟨others, hentries, -, hmade⟩ := (hput (keyOf "c") [3]).2 (by decide) (by decide)
    obtain ⟨before, o, after, hsplit, rfl, hold⟩ := (hmade habsent hfull).2 hlive
    exact ⟨before, o, after, hsplit, hentries, hold⟩
  · have hstands : CachedEmbedder.Session.Readings 10 fun _ => 1003 := .standing (by decide)
    have hfailed : (call.2.receive (fun _ => 1003) call.1).1 =
        .error (.backend "backend down") := by
      apply CachedEmbedder.receive_of_error
      have hask := CachedEmbedder.ask_of_missing
        (⟨⟨3, 3, .failing, []⟩, c⟩ : CachedEmbedder ByteEmbedder) hstands hasked
      simp only [call, hask]
      rfl
    have hrest := (hcall (⟨3, 3, .failing, []⟩ : ByteEmbedder) _ ["a", "c"] hstands).2
    exact ⟨hfailed, hrest _ _ _ hfailed⟩

end EmbeddingCache

end KnowledgeBase
