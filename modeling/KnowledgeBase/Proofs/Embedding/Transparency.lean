import KnowledgeBase.Embedding.Session

/-!
# A cache that cannot be noticed

An embedder with a cache in front answers as the backend would, however its calls overlap and
whatever the cache has room for: what is kept under the key of a text is the vector of that text.
Texts of the session are taken to have keys of their own.

## Main definitions

* `EmbeddingCache.Holds` — every vector that is kept is the vector of a text of its key.
* `EmbeddingCache.Aligned` — every vector that was found is the vector of the text at its place.
* `CachedEmbedder.Pending.Sound` — a call that waits can be answered right.

## Main results

* `EmbeddingCache.Holds.putAll`, `EmbeddingCache.Holds.lookupAll` — what the halves of a call keep
  and find.
* `CachedEmbedder.Session.Step.sound` — whatever happens next keeps a session sound.
* `CachedEmbedder.Session.Reachable.transparent` — every call of every session is answered right.
-/

namespace KnowledgeBase

open Embedder (Serves)

/-- A faithful byte embedder computes its vectors. -/
theorem ByteEmbedder.serves (width : Nat) :
    Serves (vector width) fun e : ByteEmbedder => e.mode = .faithful ∧ e.width = width where
  answers now texts e h := by
    obtain ⟨dimension, w, mode, asked⟩ := e
    obtain ⟨rfl, rfl⟩ := h
    rfl
  stays now texts e h := h

variable {f : String → Embedding} {used used' : List String}

namespace EmbeddingCache

/-- Every vector that is kept is the vector that a function gives to a text of its key. -/
def Holds (f : String → Embedding) (used : List String) (c : EmbeddingCache) : Prop :=
  ∀ e ∈ c.entries, ∃ text ∈ used, e.key = keyOf text ∧ e.vector = f text

/-- Texts with the same key are the same. -/
def Distinguishes (used : List String) : Prop :=
  ∀ text ∈ used, ∀ text' ∈ used, keyOf text = keyOf text' → text = text'

theorem Distinguishes.mono (h : Distinguishes used') (hsub : used ⊆ used') : Distinguishes used :=
  fun text ht text' ht' => h text (hsub ht) text' (hsub ht')

/-! ### Entries -/

theorem mem_of_find?_eq_some {c : EmbeddingCache} {key : String} {e : Entry}
    (h : c.find? key = some e) : e ∈ c.entries ∧ e.key = key :=
  ⟨List.mem_of_find?_eq_some h, by simpa using List.find?_some h⟩

theorem mem_of_mem_evictExpired {now : Nat} {c : EmbeddingCache} {e : Entry}
    (h : e ∈ (c.evictExpired now).entries) : e ∈ c.entries := (List.mem_filter.1 h).1

theorem mem_of_mem_erase {key : String} {c : EmbeddingCache} {e : Entry}
    (h : e ∈ (c.erase key).entries) : e ∈ c.entries := (List.mem_filter.1 h).1

theorem mem_of_mem_evictOldest {c : EmbeddingCache} {e : Entry} (h : e ∈ c.evictOldest.entries) :
    e ∈ c.entries := by
  unfold evictOldest at h
  split at h
  · exact h
  · exact mem_of_mem_erase h

theorem mem_of_mem_makeRoom {now : Nat} {c : EmbeddingCache} {e : Entry}
    (h : e ∈ (c.makeRoom now).entries) : e ∈ c.entries := by
  unfold makeRoom at h
  simp only at h
  split at h
  · exact mem_of_mem_evictExpired (mem_of_mem_evictOldest h)
  · exact mem_of_mem_evictExpired h

/-- Looking up adds nothing. -/
theorem mem_of_mem_lookup {now : Nat} {key : String} {c : EmbeddingCache} {e : Entry}
    (h : e ∈ (c.lookup now key).2.entries) : e ∈ c.entries := by
  unfold lookup at h
  split at h
  · exact h
  · split at h
    · exact h
    · split at h
      · exact mem_of_mem_erase h
      · exact h

/-- What is found is an entry of the key. -/
theorem exists_entry_of_lookup {now : Nat} {key : String} {c : EmbeddingCache} {v : Embedding}
    (h : (c.lookup now key).1 = some v) : ∃ e ∈ c.entries, e.key = key ∧ e.vector = v := by
  unfold lookup at h
  split at h
  · cases h
  · split at h
    · cases h
    · next e hfind =>
      obtain ⟨hmem, hkey⟩ := mem_of_find?_eq_some hfind
      split at h
      · cases h
      · exact ⟨e, hmem, hkey, Option.some.inj h⟩

/-- Keeping a vector adds an entry for it, and no other. -/
theorem mem_put {now : Nat} {key : String} {v : Embedding} {c : EmbeddingCache} {e : Entry}
    (h : e ∈ (c.put now key v).entries) : e ∈ c.entries ∨ e = ⟨key, v, now⟩ := by
  unfold put at h
  split at h
  · exact .inl h
  · rcases List.mem_append.1 h with h | h
    · left
      have hold := mem_of_mem_erase h
      split at hold
      · exact mem_of_mem_makeRoom hold
      · exact hold
    · exact .inr (List.mem_singleton.1 h)

/-! ### The invariant -/

namespace Holds

variable {c : EmbeddingCache}

theorem of_subset {c' : EmbeddingCache} (h : c.Holds f used)
    (hsub : ∀ e ∈ c'.entries, e ∈ c.entries) : c'.Holds f used := fun e he => h e (hsub e he)

theorem mono (h : c.Holds f used) (hsub : used ⊆ used') : c.Holds f used' := by
  intro e he
  obtain ⟨text, htext, hentry⟩ := h e he
  exact ⟨text, hsub htext, hentry⟩

theorem put (h : c.Holds f used) {text : String} (htext : text ∈ used) (now : Nat) :
    (c.put now (keyOf text) (f text)).Holds f used := by
  intro e he
  rcases mem_put he with he | rfl
  · exact h e he
  · exact ⟨text, htext, rfl, rfl⟩

/-- What is found under the key of a text is the vector of the text. -/
theorem lookup_eq (h : c.Holds f used) (hkeys : Distinguishes used) {text : String}
    (htext : text ∈ used) {now : Nat} {v : Embedding}
    (hfound : (c.lookup now (keyOf text)).1 = some v) : v = f text := by
  obtain ⟨e, he, hkey, rfl⟩ := exists_entry_of_lookup hfound
  obtain ⟨text', htext', hkey', hvector⟩ := h e he
  rw [hvector, hkeys text htext text' htext' (hkey.symm.trans hkey')]

end Holds

/-- Every vector that was found is the vector of the text at its place. -/
inductive Aligned (f : String → Embedding) : List String → List (Option Embedding) → Prop where
  | nil : Aligned f [] []
  | found {text : String} {texts : List String} {others : List (Option Embedding)}
    (rest : Aligned f texts others) : Aligned f (text :: texts) (some (f text) :: others)
  | missing {text : String} {texts : List String} {others : List (Option Embedding)}
    (rest : Aligned f texts others) : Aligned f (text :: texts) (none :: others)

/-- Filled with the vectors of the texts that were missing, what was found is complete. -/
theorem Aligned.fill_missing {texts : List String} {found : List (Option Embedding)}
    (h : Aligned f texts found) :
    fill found ((EmbeddingCache.missing texts found).map f) = .ok (texts.map f) := by
  induction h with
  | nil => rfl
  | found _ ih => rw [EmbeddingCache.missing, fill, ih]; rfl
  | missing _ ih => rw [EmbeddingCache.missing, List.map_cons, fill, ih]; rfl

theorem missing_subset (texts : List String) (found : List (Option Embedding)) :
    missing texts found ⊆ texts := by
  induction texts generalizing found with
  | nil => cases found <;> exact List.Subset.refl _
  | cons text texts ih =>
    rcases found with _ | ⟨_ | v, found⟩
    · exact List.nil_subset _
    · exact List.cons_subset_cons _ (ih found)
    · exact List.subset_cons_of_subset _ (ih found)

/-- A lookup of texts keeps the cache as it has to be and finds nothing wrong. -/
theorem Holds.lookupAll {c : EmbeddingCache} (h : c.Holds f used) (hkeys : Distinguishes used)
    {texts : List String} (htexts : texts ⊆ used) (clock : Nat → Nat) :
    (c.lookupAll clock texts).2.Holds f used ∧ Aligned f texts (c.lookupAll clock texts).1 := by
  induction texts generalizing clock c with
  | nil => exact ⟨h, .nil⟩
  | cons text texts ih =>
    obtain ⟨htext, hrest⟩ := List.cons_subset.1 htexts
    have hkept : (c.lookup (clock 0) (keyOf text)).2.Holds f used :=
      h.of_subset fun e => mem_of_mem_lookup
    have hright : ∀ v, (c.lookup (clock 0) (keyOf text)).1 = some v → v = f text :=
      fun v => h.lookup_eq hkeys htext
    rw [EmbeddingCache.lookupAll]
    generalize c.lookup (clock 0) (keyOf text) = looked at *
    obtain ⟨found, c'⟩ := looked
    obtain ⟨hholds, haligned⟩ := ih hkept hrest fun i => clock (i + 1)
    refine ⟨hholds, ?_⟩
    cases found with
    | none => exact .missing haligned
    | some v =>
      rw [hright v rfl]
      exact .found haligned

/-- Keeping the vectors of texts keeps the cache as it has to be. -/
theorem Holds.putAll {c : EmbeddingCache} (h : c.Holds f used) {texts : List String}
    (htexts : texts ⊆ used) (clock : Nat → Nat) :
    (c.putAll clock (texts.zip (texts.map f))).Holds f used := by
  induction texts generalizing clock c with
  | nil => exact h
  | cons text texts ih =>
    obtain ⟨htext, hrest⟩ := List.cons_subset.1 htexts
    exact ih (h.put htext (clock 0)) hrest _

end EmbeddingCache

/-! ### Calls -/

namespace CachedEmbedder

open EmbeddingCache

variable {ε : Type} {good : ε → Prop}

/-- A call that waits knows nothing wrong, and the backend answers it right. -/
structure Pending.Sound (f : String → Embedding) (p : Pending) : Prop where
  found : Aligned f p.texts p.found
  answer : match p.answer with
    | none => missing p.texts p.found = []
    | some answer => answer = .ok ((missing p.texts p.found).map f)

/-- A sound call is answered right, and keeps only what is right. -/
theorem Pending.Sound.receive {p : Pending} (h : p.Sound f) {c : CachedEmbedder ε}
    (hc : c.cache.Holds f used) (htexts : p.texts ⊆ used) (clock : Nat → Nat) :
    (c.receive clock p).1 = .ok (p.texts.map f) ∧ (c.receive clock p).2.cache.Holds f used ∧
      (c.receive clock p).2.inner = c.inner := by
  obtain ⟨texts, found, answer⟩ := p
  have hfill := h.found.fill_missing
  have hanswer := h.answer
  cases answer with
  | none =>
    simp only at hanswer hfill
    rw [hanswer] at hfill
    exact ⟨hfill, hc, rfl⟩
  | some answer =>
    simp only at hanswer
    subst hanswer
    have hlength : ((missing texts found).map f).length = (missing texts found).length :=
      List.length_map ..
    have hkept := hc.putAll (List.Subset.trans (missing_subset texts found) htexts) clock
    rw [CachedEmbedder.receive]
    simp only [complete, hlength, if_true]
    exact ⟨hfill, hkept, trivial⟩

variable [Embedder ε]

/-- A call that has looked its texts up is sound. -/
theorem ask_sound (hserves : Serves f good) {c : CachedEmbedder ε} (hc : c.cache.Holds f used)
    (hgood : good c.inner) (hkeys : Distinguishes used) {texts : List String}
    (htexts : texts ⊆ used) (clock : Nat → Nat) :
    (c.ask clock texts).1.Sound f ∧ (c.ask clock texts).1.texts = texts ∧
      (c.ask clock texts).2.cache.Holds f used ∧ good (c.ask clock texts).2.inner := by
  obtain ⟨hholds, haligned⟩ := hc.lookupAll hkeys htexts clock
  rw [ask]
  generalize c.cache.lookupAll clock texts = looked at *
  obtain ⟨found, cache⟩ := looked
  simp only at hholds haligned ⊢
  split
  · next hnone => exact ⟨⟨haligned, List.isEmpty_iff.1 hnone⟩, rfl, hholds, hgood⟩
  · have hanswers := hserves.answers (clock texts.length) (missing texts found) c.inner hgood
    have hstays := hserves.stays (clock texts.length) (missing texts found) c.inner hgood
    exact ⟨⟨haligned, hanswers⟩, rfl, hholds, hstays⟩

/-! ### Sessions -/

namespace Session

/-- Nothing wrong is kept, known to a call that waits, or answered. -/
structure Sound (f : String → Embedding) (good : ε → Prop) (used : List String) (s : Session ε) :
    Prop where
  cache : s.embedder.cache.Holds f used
  backend : good s.embedder.inner
  waiting : ∀ call ∈ s.waiting, call.2.Sound f ∧ call.2.texts = call.1.texts
  answered : ∀ call ∈ s.answered, call.2 = .ok (call.1.expected f)

omit [Embedder ε] in
theorem Sound.mono {s : Session ε} (h : s.Sound f good used) (hsub : used ⊆ used') :
    s.Sound f good used' := { h with cache := h.cache.mono hsub }

theorem flatMap_subset_iff {α β : Type} {g : α → List β} {as : List α} {bs : List β} :
    as.flatMap g ⊆ bs ↔ ∀ a ∈ as, g a ⊆ bs := by
  constructor
  · exact fun h a ha b hb => h (List.mem_flatMap.2 ⟨a, ha, hb⟩)
  · intro h b hb
    obtain ⟨a, ha, hb⟩ := List.mem_flatMap.1 hb
    exact h a ha hb

omit [Embedder ε] in
theorem texts_subset {s : Session ε} {used : List String} :
    s.texts ⊆ used ↔ (∀ call ∈ s.waiting, call.1.texts ⊆ used) ∧
      ∀ call ∈ s.answered, call.1.texts ⊆ used := by
  rw [texts, List.append_subset, flatMap_subset_iff, flatMap_subset_iff]

/-- Texts are never forgotten. -/
theorem Step.texts_subset {s s' : Session ε} (h : Step s s') : s.texts ⊆ s'.texts := by
  obtain ⟨hwaiting, hanswered⟩ := Session.texts_subset.1 (List.Subset.refl s'.texts)
  rw [Session.texts_subset]
  cases h with
  | ask r _ =>
    exact ⟨fun call hcall => hwaiting call (List.mem_append_left _ hcall), hanswered⟩
  | @receive c now before after answered r p clock _ =>
    refine ⟨?_, fun call hcall => hanswered call (List.mem_append_left _ hcall)⟩
    intro call hcall
    rcases List.mem_append.1 hcall with hcall | hcall
    · exact hwaiting call (List.mem_append_left _ hcall)
    · rcases List.mem_cons.1 hcall with rfl | hcall
      · exact hanswered ⟨r, _⟩ (List.mem_append_right _ (List.mem_singleton_self _))
      · exact hwaiting call (List.mem_append_right _ hcall)
  | evict _ => exact ⟨hwaiting, hanswered⟩

omit [Embedder ε] in
/-- The answer to the texts of a request is the answer to the request. -/
theorem answer_ok (r : Embedder.Request) : r.answer (.ok (r.texts.map f)) = .ok (r.expected f) := by
  cases r with
  | many texts => rfl
  | one text => rfl

/-- **Whatever happens next keeps a session sound.** -/
theorem Step.sound (hserves : Serves f good) {s s' : Session ε} (h : Step s s')
    (hs : s.Sound f good used) (hkeys : Distinguishes used) (hused : s'.texts ⊆ used) :
    s'.Sound f good used := by
  obtain ⟨hwaiting, hanswered⟩ := Session.texts_subset.1 hused
  cases h with
  | @ask s r clock _ =>
    have hr : r.texts ⊆ used :=
      hwaiting (r, _) (List.mem_append_right _ (List.mem_singleton_self _))
    obtain ⟨hsound, htexts, hcache, hgood⟩ := ask_sound hserves hs.cache hs.backend hkeys hr clock
    refine ⟨hcache, hgood, ?_, hs.answered⟩
    intro call hcall
    rcases List.mem_append.1 hcall with hcall | hcall
    · exact hs.waiting call hcall
    · rw [List.mem_singleton.1 hcall]
      exact ⟨hsound, htexts⟩
  | @receive c now before after answered r p clock _ =>
    obtain ⟨hsound, htexts⟩ :=
      hs.waiting (r, p) (List.mem_append_right _ List.mem_cons_self)
    have hr : r.texts ⊆ used :=
      hanswered ⟨r, _⟩ (List.mem_append_right _ (List.mem_singleton_self _))
    obtain ⟨hresult, hcache, hinner⟩ := hsound.receive hs.cache (htexts ▸ hr) clock
    refine ⟨hcache, hinner ▸ hs.backend, ?_, ?_⟩
    · intro call hcall
      rcases List.mem_append.1 hcall with hcall | hcall
      · exact hs.waiting call (List.mem_append_left _ hcall)
      · exact hs.waiting call (List.mem_append_right _ (List.mem_cons_of_mem _ hcall))
    · intro call hcall
      rcases List.mem_append.1 hcall with hcall | hcall
      · exact hs.answered call hcall
      · rw [List.mem_singleton.1 hcall, hresult, htexts]
        exact answer_ok r
  | evict _ =>
    exact { hs with cache := hs.cache.of_subset fun e => mem_of_mem_evictExpired }

theorem Reachable.sound (hserves : Serves f good) {inner : ε} (hgood : good inner)
    {ttl capacity : Nat} {s : Session ε} (h : Reachable inner ttl capacity s)
    (hkeys : Distinguishes s.texts) : s.Sound f good s.texts := by
  induction h with
  | start now => exact ⟨nofun, hgood, nofun, nofun⟩
  | @step s s' _ hstep ih =>
    -- the texts known before are among those known now, so they have keys of their own as well
    have hsub := hstep.texts_subset
    exact hstep.sound hserves ((ih (hkeys.mono hsub)).mono hsub) hkeys (List.Subset.refl _)

/-- **The cache cannot be noticed.**  Whatever its life and its room, whichever calls are made and
however they overlap, every call that was answered was answered as the backend would have answered
it, with the vectors that it gives to the texts, and every call that waits will be. -/
theorem Reachable.transparent (hserves : Serves f good) {inner : ε} (hgood : good inner)
    {ttl capacity : Nat} {s : Session ε} (h : Reachable inner ttl capacity s)
    (hkeys : Distinguishes s.texts) :
    (∀ call ∈ s.answered, call.2 = .ok (call.1.expected f) ∧
      ∀ now, call.1.answer (Embedder.embed now call.1.texts inner).1 = call.2) ∧
    ∀ call ∈ s.waiting, ∀ clock,
      call.1.answer (s.embedder.receive clock call.2).1 = .ok (call.1.expected f) := by
  have hsound := h.sound hserves hgood hkeys
  constructor
  · intro call hcall
    have hcached := hsound.answered call hcall
    refine ⟨hcached, fun now => ?_⟩
    rw [hserves.answers now call.1.texts inner hgood, hcached]
    exact answer_ok call.1
  · intro call hcall clock
    obtain ⟨hpending, htexts⟩ := hsound.waiting call hcall
    have hused : call.1.texts ⊆ s.texts :=
      (Session.texts_subset.1 (List.Subset.refl s.texts)).1 call hcall
    rw [(hpending.receive hsound.cache (htexts ▸ hused) clock).1, htexts]
    exact answer_ok call.1

/-- A clock that stands still does not go back. -/
theorem Readings.standing {now t : Nat} (h : now ≤ t) : Readings now fun _ => t :=
  ⟨h, fun _ => Nat.le_refl _⟩

/-- Two calls overlap: the second begins later, is answered first, and asks for a text that the
first still waits for; when the first is answered, what the second kept has expired. -/
theorem transparent_overlapping :
    ∃ s : Session ByteEmbedder, Reachable ⟨3, 3, .faithful, []⟩ 1000 1 s ∧
      s.answered.map Sigma.fst = [.one "ab", .many ["ab", "c"]] ∧
      ∀ call ∈ s.answered, call.2 = .ok (call.1.expected (ByteEmbedder.vector 3)) := by
  have hasked :=
    (Reachable.start 0 : Reachable (⟨3, 3, .faithful, []⟩ : ByteEmbedder) 1000 1 _).step
    (.ask (.many ["ab", "c"]) (.standing (show 0 ≤ 5 by decide)))
  have hboth := hasked.step (.ask (.one "ab") (.standing (show 5 ≤ 6 by decide)))
  have hsecond := hboth.step
    (@Step.receive _ _ _ _ [_] [] _ _ _ _ (.standing (show 6 ≤ 7 by decide)))
  have hfirst := hsecond.step
    (@Step.receive _ _ _ _ [] [] _ _ _ _ (.standing (show 7 ≤ 2000 by decide)))
  have hkeys : Distinguishes ["ab", "ab", "c"] := by
    unfold Distinguishes
    decide +kernel
  have htransparent := hfirst.transparent (ByteEmbedder.serves 3) ⟨rfl, rfl⟩ hkeys
  exact ⟨_, hfirst, rfl, fun call hcall => (htransparent.1 call hcall).1⟩

end Session

end CachedEmbedder

end KnowledgeBase
