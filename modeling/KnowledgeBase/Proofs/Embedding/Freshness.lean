import KnowledgeBase.Proofs.Embedding.Room

/-!
# Where the vectors of a cache come from

What a cache answers in place of the backend is never older than the life of an entry.  Nothing is
assumed of the backend here: it may fail, give too few vectors or too many, and answer the same text
differently each time.  A session is followed together with the list of what has happened in it, so
that each vector can be traced back to the call in which the backend gave it.

## Main definitions

* `CachedEmbedder.Session.Event`, `CachedEmbedder.Session.History` — what happens in a session, and
  a session with all that has happened in it.
* `CachedEmbedder.Session.Kept` — a call has kept a vector of the backend at an instant.
* `CachedEmbedder.Session.FoundFresh` — a vector that was found had been kept not too long before.

## Main results

* `CachedEmbedder.Session.Happens.traced` — whatever happens next, everything can be traced back.
* `CachedEmbedder.Session.Reachable.bounded_fresh` — the room and the age, for every session.
-/

namespace KnowledgeBase

/-! ### What has happened in a session -/

/-- The vectors of an answer, in the order of the texts. -/
def Embedder.Request.vectors : (r : Request) → r.Answer → List Embedding
  | many _, vectors => vectors
  | one _, vector => [vector]

namespace CachedEmbedder

open EmbeddingCache

/-- The texts that a call asks the backend for. -/
def Pending.batch (p : Pending) : List String := missing p.texts p.found

/-- The text at a place is among those that a call asks the backend for. -/
def Pending.Asks (p : Pending) (i : Nat) : Prop := p.found[i]? = some none

namespace Session

/-- What happens in a session. -/
inductive Event where
  /-- A call looks its texts up at the readings of a clock, and asks the backend for the others. -/
  | began (r : Embedder.Request) (p : Pending) (clock : Nat → Nat)
  /-- A call keeps what the backend gave at the readings of a clock, and is answered. -/
  | ended (r : Embedder.Request) (p : Pending) (clock : Nat → Nat)
    (answer : Except EmbeddingError r.Answer)
  /-- The expired entries are removed. -/
  | evicted

variable {ε : Type} [Embedder ε]

/-- What happens next, and what comes of it. -/
inductive Happens : Session ε → Event → Session ε → Prop where
  | began {s : Session ε} (r : Embedder.Request) {clock : Nat → Nat}
    (hclock : Readings s.now clock) :
    Happens s (.began r (s.embedder.ask clock r.texts).1 clock)
      ⟨(s.embedder.ask clock r.texts).2, clock r.texts.length,
        s.waiting ++ [(r, (s.embedder.ask clock r.texts).1)], s.answered⟩
  | ended {c : CachedEmbedder ε} {now : Nat} {before after : List (Embedder.Request × Pending)}
    {answered : List ((r : Embedder.Request) × Except EmbeddingError r.Answer)}
    (r : Embedder.Request) (p : Pending) {clock : Nat → Nat} (hclock : Readings now clock) :
    Happens ⟨c, now, before ++ (r, p) :: after, answered⟩
      (.ended r p clock (r.answer (c.receive clock p).1))
      ⟨(c.receive clock p).2, clock p.texts.length, before ++ after,
        answered ++ [⟨r, r.answer (c.receive clock p).1⟩]⟩
  | evicted {s : Session ε} {now : Nat} (hnow : s.now ≤ now) :
    Happens s .evicted { s with embedder.cache := s.embedder.cache.evictExpired now, now }

/-- A step is something that happens. -/
theorem step_iff {s s' : Session ε} : Step s s' ↔ ∃ event, Happens s event s' := by
  constructor
  · intro h
    cases h with
    | ask r hclock => exact ⟨_, .began r hclock⟩
    | receive r p hclock => exact ⟨_, .ended r p hclock⟩
    | evict hnow => exact ⟨_, .evicted hnow⟩
  · rintro ⟨event, h⟩
    cases h with
    | began r hclock => exact .ask r hclock
    | ended r p hclock => exact .receive r p hclock
    | evicted hnow => exact .evict hnow

/-- A session with all that has happened in it, oldest first. -/
inductive History (inner : ε) (ttl capacity : Nat) : List Event → Session ε → Prop where
  | start (now : Nat) : History inner ttl capacity [] (.start inner ttl capacity now)
  | step {events : List Event} {s s' : Session ε} {event : Event}
    (h : History inner ttl capacity events s) (hhappens : Happens s event s') :
    History inner ttl capacity (events ++ [event]) s'

/-- Whatever can come of a session has a history. -/
theorem reachable_iff {inner : ε} {ttl capacity : Nat} {s : Session ε} :
    Reachable inner ttl capacity s ↔ ∃ events, History inner ttl capacity events s := by
  constructor
  · intro h
    induction h with
    | start now => exact ⟨[], .start now⟩
    | step _ hstep ih =>
      obtain ⟨events, hevents⟩ := ih
      obtain ⟨event, hhappens⟩ := step_iff.1 hstep
      exact ⟨_, hevents.step hhappens⟩
  · rintro ⟨events, h⟩
    induction h with
    | start now => exact .start now
    | step _ hhappens ih => exact ih.step (step_iff.2 ⟨_, hhappens⟩)

theorem History.of_split {inner : ε} {ttl capacity : Nat} {events before after : List Event}
    {event : Event} {s : Session ε} (h : History inner ttl capacity events s)
    (hsplit : events = before ++ event :: after) :
    ∃ s₁ s₂, History inner ttl capacity before s₁ ∧ Happens s₁ event s₂ := by
  induction h generalizing after with
  | start now => simp at hsplit
  | @step events s s' last h hhappens ih =>
    rcases List.eq_nil_or_concat after with rfl | ⟨rest, x, rfl⟩
    · obtain ⟨rfl, hlast⟩ := List.append_inj' hsplit rfl
      cases hlast
      exact ⟨s, s', h, hhappens⟩
    · rw [List.concat_eq_append, ← List.cons_append, ← List.append_assoc] at hsplit
      exact ih (List.append_inj' hsplit rfl).1

/-- The readings of a clock that never goes back. -/
theorem Readings.mono {now i j : Nat} {clock : Nat → Nat} (h : Readings now clock) (hij : i ≤ j) :
    clock i ≤ clock j := by
  induction hij with
  | refl => exact Nat.le_refl _
  | step _ ih => exact Nat.le_trans ih (h.2 _)

theorem Readings.le {now : Nat} {clock : Nat → Nat} (h : Readings now clock) (i : Nat) :
    now ≤ clock i := Nat.le_trans h.1 (h.mono (Nat.zero_le i))

/-- The readings after the first one. -/
theorem Readings.shift {now : Nat} {clock : Nat → Nat} (h : Readings now clock) :
    Readings (clock 0) fun i => clock (i + 1) := ⟨h.2 0, fun i => h.2 (i + 1)⟩

/-! ### Where vectors come from -/

/-- The backend gave a call an answer to its batch. -/
def Consulted (ε : Type) [Embedder ε] (p : Pending)
    (answer : Except EmbeddingError (List Embedding)) : Prop :=
  p.answer = some answer ∧ ∃ now, ∃ backend : ε, answer = (Embedder.embed now p.batch backend).1

/-- A vector of the backend was kept at an instant: in some call the backend gave a vector for each
text of the batch, and that of one of them was put in then. -/
def Kept (ε : Type) [Embedder ε] (events : List Event) (text : String) (v : Embedding)
    (instant : Nat) : Prop :=
  ∃ r p clock answer, Event.ended r p clock answer ∈ events ∧
    ∃ vectors, Consulted ε p (.ok vectors) ∧ vectors.length = p.batch.length ∧
      ∃ i, p.batch[i]? = some text ∧ vectors[i]? = some v ∧ clock i = instant

/-- A vector was found for a text at an instant: it had been kept for a text of the same key, no
longer ago than the life of an entry. -/
def FoundFresh (ε : Type) [Embedder ε] (ttl : Nat) (events : List Event) (text : String)
    (v : Embedding) (instant : Nat) : Prop :=
  ∃ text' inserted, keyOf text' = keyOf text ∧ Kept ε events text' v inserted ∧
    inserted ≤ instant ∧ instant ≤ inserted + ttl

theorem Kept.mono {events events' : List Event} {text : String} {v : Embedding} {instant : Nat}
    (h : Kept ε events text v instant) (hsub : events ⊆ events') :
    Kept ε events' text v instant := by
  obtain ⟨r, p, clock, answer, hmem, hcall⟩ := h
  exact ⟨r, p, clock, answer, hsub hmem, hcall⟩

/-- An entry was given by the backend and put in by now. -/
def Origin (ε : Type) [Embedder ε] (events : List Event) (now : Nat) (e : Entry) : Prop :=
  e.insertedAt ≤ now ∧ ∃ text, keyOf text = e.key ∧ Kept ε events text e.vector e.insertedAt

theorem Origin.mono {events events' : List Event} {now now' : Nat} {e : Entry}
    (h : Origin ε events now e) (hsub : events ⊆ events') (hnow : now ≤ now') :
    Origin ε events' now' e := by
  obtain ⟨hle, text, hkey, hkept⟩ := h
  exact ⟨Nat.le_trans hle hnow, text, hkey, hkept.mono hsub⟩

/-- A call that waits has begun: the backend was consulted about what it did not find, and what it
found was fresh. -/
def Begun (ε : Type) [Embedder ε] (ttl : Nat) (events : List Event) (r : Embedder.Request)
    (p : Pending) : Prop :=
  ∃ earlier clock later, events = earlier ++ .began r p clock :: later ∧
    (∀ answer, p.answer = some answer → Consulted ε p answer) ∧
    p.texts = r.texts ∧
    ∀ i v, p.found[i]? = some (some v) →
      ∃ text, r.texts[i]? = some text ∧ FoundFresh ε ttl earlier text v (clock i)

theorem Begun.concat {ttl : Nat} {events : List Event} {r : Embedder.Request} {p : Pending}
    (h : Begun ε ttl events r p) (event : Event) : Begun ε ttl (events ++ [event]) r p := by
  obtain ⟨earlier, clock, later, rfl, hbegun⟩ := h
  refine ⟨earlier, clock, later ++ [event], ?_, hbegun⟩
  rw [List.append_assoc, List.cons_append]

/-- A session in which everything can be traced back. -/
structure Traced (ttl capacity : Nat) (events : List Event) (s : Session ε) : Prop where
  cache : Within ttl capacity (Origin ε events s.now) s.embedder.cache
  waiting : ∀ call ∈ s.waiting, Begun ε ttl events call.1 call.2

omit [Embedder ε] in
theorem length_missing_le (texts : List String) (found : List (Option Embedding)) :
    (missing texts found).length ≤ texts.length := by
  induction texts generalizing found with
  | nil => cases found <;> simp [missing]
  | cons text rest ih =>
    rcases found with _ | ⟨_ | v, found⟩
    · simp [missing]
    · simp only [missing, List.length_cons]
      have hle := ih found
      omega
    · simp only [missing, List.length_cons]
      have hle := ih found
      omega

/-- What a call that begins has found, and what becomes of the cache. -/
theorem ask_spec (c : CachedEmbedder ε) (clock : Nat → Nat) (texts : List String) :
    (c.ask clock texts).1.texts = texts ∧
      (c.ask clock texts).1.found = (c.cache.lookupAll clock texts).1 ∧
      (c.ask clock texts).2.cache = (c.cache.lookupAll clock texts).2 ∧
      ∀ answer, (c.ask clock texts).1.answer = some answer →
        Consulted ε (c.ask clock texts).1 answer := by
  unfold ask
  simp only
  split
  · refine ⟨rfl, rfl, rfl, ?_⟩
    intro answer hanswer
    cases hanswer
  · refine ⟨rfl, rfl, rfl, ?_⟩
    intro answer hanswer
    cases hanswer
    exact ⟨rfl, _, _, rfl⟩

omit [Embedder ε] in
/-- What a call that is answered has filled in, and what becomes of the cache. -/
theorem receive_spec (c : CachedEmbedder ε) (clock : Nat → Nat) (p : Pending) :
    (∀ vectors, (c.receive clock p).1 = .ok vectors →
        ∃ answers, fill p.found answers = .ok vectors) ∧
      ((c.receive clock p).2.cache = c.cache ∨
        ∃ vectors, p.answer = some (.ok vectors) ∧ vectors.length = p.batch.length ∧
          (c.receive clock p).2.cache = c.cache.putAll clock (p.batch.zip vectors)) := by
  obtain ⟨texts, found, answer⟩ := p
  unfold receive
  cases answer with
  | none => exact ⟨fun vectors h => ⟨[], h⟩, .inl rfl⟩
  | some answer =>
    cases answer with
    | error e =>
      refine ⟨?_, .inl rfl⟩
      intro vectors h
      cases h
    | ok vectors =>
      simp only [complete]
      by_cases hlength : vectors.length = (missing texts found).length
      · rw [if_pos hlength]
        exact ⟨fun _ h => ⟨vectors, h⟩, .inr ⟨vectors, rfl, hlength, rfl⟩⟩
      · rw [if_neg hlength]
        refine ⟨?_, .inl rfl⟩
        intro _ h
        cases h

/-- **Whatever happens next can be traced back as well.** -/
theorem Happens.traced {ttl capacity : Nat} {events : List Event} {s s' : Session ε} {event : Event}
    (h : Happens s event s') (hs : Traced ttl capacity events s) :
    Traced ttl capacity (events ++ [event]) s' := by
  have hsub : events ⊆ events ++ [event] := List.subset_append_left _ _
  cases h with
  | @began s r clock hclock =>
    obtain ⟨htexts, hfound, hcache, hconsulted⟩ := ask_spec s.embedder clock r.texts
    constructor
    · simp only [hcache]
      have hkept := hs.cache.lookupAll clock r.texts
      exact hkept.mono fun e he => he.mono hsub (hclock.le _)
    · intro call hcall
      rcases List.mem_append.1 hcall with hcall | hcall
      · exact (hs.waiting call hcall).concat _
      · rw [List.mem_singleton.1 hcall]
        refine ⟨events, clock, [], rfl, hconsulted, htexts, ?_⟩
        intro i v hv
        rw [hfound] at hv
        obtain ⟨text, e, htext, ⟨hle, text', hkey', hkept⟩, hkey, rfl, hage⟩ :=
          hs.cache.lookupAll_fresh hv
        refine ⟨text, htext, text', e.insertedAt, hkey'.trans hkey, hkept, ?_, hage⟩
        exact Nat.le_trans hle (hclock.le i)
  | @ended c now before after answered r p clock hclock =>
    have hbegun : Begun ε ttl events r p :=
      hs.waiting (r, p) (List.mem_append_right _ List.mem_cons_self)
    obtain ⟨-, hcache⟩ := receive_spec c clock p
    have hold : Within ttl capacity
        (Origin ε (events ++ [.ended r p clock (r.answer (c.receive clock p).1)])
          (clock p.texts.length)) c.cache :=
      hs.cache.mono fun e he => he.mono hsub (hclock.le _)
    constructor
    · simp only
      rcases hcache with hsame | ⟨vectors, hanswer, hlength, hput⟩
      · rw [hsame]
        exact hold
      · rw [hput]
        refine hold.putAll ?_
        intro i text v hpair
        obtain ⟨htext, hv⟩ := List.getElem?_zip_eq_some.1 hpair
        obtain ⟨-, -, -, -, hconsulted, -, -⟩ := hbegun
        have hi : i < p.batch.length := (List.getElem?_eq_some_iff.1 htext).1
        have hle : p.batch.length ≤ p.texts.length := length_missing_le _ _
        have hlast := List.mem_append_right events (List.mem_singleton_self
          (Event.ended r p clock (r.answer (c.receive clock p).1)))
        exact ⟨hclock.mono (by omega), text, rfl, r, p, clock, _, hlast, vectors,
          hconsulted _ hanswer, hlength, i, htext, hv, rfl⟩
    · intro call hcall
      have hcall' : call ∈ before ++ (r, p) :: after := by
        rcases List.mem_append.1 hcall with hcall | hcall
        · exact List.mem_append_left _ hcall
        · exact List.mem_append_right _ (List.mem_cons_of_mem _ hcall)
      exact (hs.waiting call hcall').concat _
  | @evicted s now hnow =>
    constructor
    · exact (hs.cache.evictExpired now).mono fun e he => he.mono hsub hnow
    · intro call hcall
      exact (hs.waiting call hcall).concat _

theorem History.traced {inner : ε} {ttl capacity : Nat} {events : List Event} {s : Session ε}
    (h : History inner ttl capacity events s) : Traced ttl capacity events s := by
  induction h with
  | start now => exact ⟨.empty ttl capacity, nofun⟩
  | step _ hhappens ih => exact hhappens.traced ih

omit [Embedder ε] in
/-- The vectors of an answer are those that were filled in. -/
theorem getElem?_vectors {r : Embedder.Request} {filled : Except EmbeddingError (List Embedding)}
    {out : r.Answer} (h : r.answer filled = .ok out) {i : Nat} {v : Embedding}
    (hv : (r.vectors out)[i]? = some v) :
    ∃ vectors, filled = .ok vectors ∧ vectors[i]? = some v := by
  cases r with
  | many texts => exact ⟨out, h, hv⟩
  | one text =>
    cases filled with
    | error e => cases h
    | ok vectors =>
      cases vectors with
      | nil => cases h
      | cons first rest =>
        cases h
        cases i with
        | zero => exact ⟨_, rfl, hv⟩
        | succ i => cases hv

/-- **The room and the age.**  Whichever calls are made, however they overlap, and whatever the
backend answers, a cache never holds more entries than it has room for, and none when its life or
its room is zero.  Every vector that a call returns without having asked the backend for it was
given by the backend for a text of the same key, and put in no longer before the lookup than the
life of an entry. -/
theorem Reachable.bounded_fresh {inner : ε} {ttl capacity : Nat} {s : Session ε}
    (h : Reachable inner ttl capacity s) :
    s.embedder.cache.entries.length ≤ capacity ∧
    (ttl = 0 ∨ capacity = 0 → s.embedder.cache.entries = []) ∧
    (∃ events, History inner ttl capacity events s) ∧
    ∀ events, History inner ttl capacity events s →
      ∀ before r p clock answer after, events = before ++ Event.ended r p clock answer :: after →
        ∃ earlier lookups later, before = earlier ++ .began r p lookups :: later ∧
          ∀ out, answer = .ok out → ∀ i v, (r.vectors out)[i]? = some v → ¬ p.Asks i →
            ∃ text, r.texts[i]? = some text ∧ FoundFresh ε ttl earlier text v (lookups i) := by
  obtain ⟨events, hhistory⟩ := reachable_iff.1 h
  have hcache := hhistory.traced.cache
  refine ⟨hcache.length_le, ?_, ⟨events, hhistory⟩, ?_⟩
  · intro hzero
    apply hcache.eq_nil_of_off
    simp only [isOn, hcache.ttl_eq, hcache.capacity_eq]
    rcases hzero with rfl | rfl
    · rfl
    · simp
  · intro events hhistory before r p clock answer after hsplit
    obtain ⟨s₁, s₂, hbefore, hhappens⟩ := hhistory.of_split hsplit
    have htraced := hbefore.traced
    cases hhappens with
    | @ended c now others others' answered _ _ _ hclock =>
      obtain ⟨earlier, lookups, later, rfl, -, -, hfresh⟩ :=
        htraced.waiting (r, p) (List.mem_append_right _ List.mem_cons_self)
      refine ⟨earlier, lookups, later, rfl, ?_⟩
      intro out hout i v hv hasks
      obtain ⟨vectors, hreceived, hv⟩ := getElem?_vectors hout hv
      obtain ⟨answers, hfill⟩ := (receive_spec c clock p).1 vectors hreceived
      rcases getElem?_fill hfill hv with hnone | hfound
      · exact absurd hnone hasks
      · exact hfresh i v hfound

/-- A text is asked for again at the last moment of the life of its entry, together with another
one, for which there is no room but its own. -/
theorem bounded_fresh_lastMoment :
    ∃ s : Session ByteEmbedder, Reachable ⟨3, 3, .faithful, []⟩ 1000 1 s ∧
      s.answered.map Sigma.fst = [.one "ab", .many ["ab", "c"]] ∧
      s.embedder.cache.entries.length ≤ 1 ∧
      ∃ earlier, ∃ lookups : Nat → Nat, FoundFresh ByteEmbedder 1000 earlier "ab"
        (ByteEmbedder.vector 3 "ab") (lookups 0) := by
  have hasked := (History.start 0 : History (⟨3, 3, .faithful, []⟩ : ByteEmbedder) 1000 1 _ _).step
    (.began (.one "ab") (.standing (show 0 ≤ 5 by decide)))
  have hkept := hasked.step
    (@Happens.ended _ _ _ _ [] [] _ _ _ _ (.standing (show 5 ≤ 6 by decide)))
  have hagain := hkept.step (.began (.many ["ab", "c"]) (.standing (show 6 ≤ 1006 by decide)))
  have hended := hagain.step
    (@Happens.ended _ _ _ _ [] [] _ _ _ _ (.standing (show 1006 ≤ 1007 by decide)))
  have hreachable := reachable_iff.2 ⟨_, hended⟩
  have hkeys : Distinguishes ["ab", "ab", "c"] := by
    unfold Distinguishes
    decide +kernel
  have hanswered := (hreachable.sound (ByteEmbedder.serves 3) ⟨rfl, rfl⟩ hkeys).answered
  obtain ⟨hroom, -, -, hfresh⟩ := hreachable.bounded_fresh
  obtain ⟨earlier, lookups, -, -, hvectors⟩ := hfresh _ hended _ _ _ _ _ [] rfl
  have hanswer := hanswered _ (List.mem_append_right _ (List.mem_singleton_self _))
  obtain ⟨text, htext, hfound⟩ := hvectors _ hanswer 0 _ rfl (by
    unfold Pending.Asks; decide +kernel)
  cases htext
  exact ⟨_, hreachable, rfl, hroom, earlier, lookups, hfound⟩

end Session

end CachedEmbedder

end KnowledgeBase
