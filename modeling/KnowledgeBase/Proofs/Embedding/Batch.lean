import KnowledgeBase.Proofs.Embedding.Freshness

/-!
# What the backend is asked for, and where its vectors go

A call of an embedder with a cache has two kinds of places: those of its texts, and those of the
batch that the backend is asked for.  A text goes into the batch when nothing is alive for it at its
lookup, and its place there is the number of such texts before it.  When the backend gives as many
vectors as it was asked for, each of them comes back to the text it was computed from.

## Main definitions

* `Embedder.Recorder` — a backend with a record of what it was asked for.
* `EmbeddingCache.live?`, `EmbeddingCache.live` — the vectors that are alive at the lookups.
* `EmbeddingCache.gap` — the place in the batch of a text that was not found.
* `EmbeddingCache.Merges` — what was found and what was given, each in its places.

## Main results

* `EmbeddingCache.lookupAll_fst` — the lookups of a call find what is alive before any of them.
* `EmbeddingCache.merges_of_fill` — the vectors of the backend go to the places they are meant for.
* `CachedEmbedder.answers_in_order` — **what a call asks for and what it answers**, for any backend.
-/

namespace KnowledgeBase

/-- A backend with a record of the batches it was asked for, oldest first. -/
structure Embedder.Recorder (ε : Type) where
  backend : ε
  asked : List (List String)

instance {ε : Type} [Embedder ε] : Embedder (Embedder.Recorder ε) where
  dimension r := Embedder.dimension r.backend
  embed now texts r :=
    let (answer, backend) := Embedder.embed now texts r.backend
    (answer, ⟨backend, r.asked ++ [texts]⟩)

namespace EmbeddingCache

variable {c : EmbeddingCache} {now later : Nat} {key key' : String}

/-! ### What is alive -/

/-- The vector of a key that is alive at an instant. -/
def live? (c : EmbeddingCache) (now : Nat) (key : String) : Option Embedding :=
  if c.isOn then ((c.find? key).filter fun e => !c.isExpired now e).map Entry.vector else none

/-- The vectors of texts that are alive, each at a reading of its own. -/
def live (c : EmbeddingCache) (clock : Nat → Nat) (texts : List String) : List (Option Embedding) :=
  texts.mapIdx fun i text => c.live? (clock i) (keyOf text)

theorem live?_of_off (h : c.isOn = false) : c.live? now key = none := by
  rw [live?, h]
  rfl

theorem live?_of_expired {e : Entry} (hfind : c.find? key = some e)
    (hexpired : c.isExpired now e = true) : c.live? now key = none := by
  rw [live?, hfind, Option.filter_some, hexpired]
  split <;> rfl

theorem find?_erase_self (key : String) (c : EmbeddingCache) : (c.erase key).find? key = none := by
  rw [find?, erase, List.find?_eq_none]
  intro e he
  simpa using (List.mem_filter.1 he).2

theorem find?_erase_of_ne (h : key' ≠ key) : (c.erase key).find? key' = c.find? key' := by
  rw [find?, erase, List.find?_filter, find?]
  congr 1
  funext e
  by_cases hkey : e.key = key'
  · simp [hkey, h]
  · simp [hkey]

/-- What has expired stays expired. -/
theorem isExpired_mono {e : Entry} (hle : now ≤ later) (h : c.isExpired now e = true) :
    c.isExpired later e = true := by
  rw [isExpired, decide_eq_true_eq] at h ⊢
  omega

theorem lookup_fst (c : EmbeddingCache) (now : Nat) (key : String) :
    (c.lookup now key).1 = c.live? now key := by
  unfold lookup live?
  cases c.isOn with
  | false => rfl
  | true =>
    cases c.find? key with
    | none => rfl
    | some e =>
      simp only [Bool.not_true, Bool.false_eq_true, if_false, if_true, Option.filter_some]
      cases c.isExpired now e <;> rfl

/-- A lookup changes nothing for those that come after it: what it removes had expired. -/
theorem live?_lookup (hle : now ≤ later) :
    (c.lookup now key).2.live? later key' = c.live? later key' := by
  unfold lookup
  split
  · rfl
  · split
    · rfl
    · next e hfind =>
      split
      · next hexpired =>
        by_cases hkey : key' = key
        · subst hkey
          rw [live?_of_expired hfind (isExpired_mono hle hexpired), live?, find?_erase_self]
          split <;> rfl
        · rw [live?, find?_erase_of_ne hkey]
          rfl
      · rfl

theorem length_live (c : EmbeddingCache) (clock : Nat → Nat) (texts : List String) :
    (c.live clock texts).length = texts.length := List.length_mapIdx

/-- **The lookups of a call find what is alive at each of them** in the cache as it was before. -/
theorem lookupAll_fst {clock : Nat → Nat} (hclock : CachedEmbedder.Session.Readings now clock)
    (c : EmbeddingCache) (texts : List String) :
    (c.lookupAll clock texts).1 = c.live clock texts := by
  induction texts generalizing clock now c with
  | nil => rfl
  | cons text rest ih =>
    have hrest := ih hclock.shift (c.lookup (clock 0) (keyOf text)).2
    have hsame : (c.lookup (clock 0) (keyOf text)).2.live (fun i => clock (i + 1)) rest =
        c.live (fun i => clock (i + 1)) rest := by
      refine List.ext_getElem (by simp [length_live]) ?_
      intro i hi hi'
      simp only [live, List.getElem_mapIdx]
      exact live?_lookup (hclock.mono (Nat.zero_le (i + 1)))
    calc (c.lookupAll clock (text :: rest)).1
        = (c.lookup (clock 0) (keyOf text)).1 ::
          ((c.lookup (clock 0) (keyOf text)).2.lookupAll (fun i => clock (i + 1)) rest).1 := rfl
      _ = c.live? (clock 0) (keyOf text) :: c.live (fun i => clock (i + 1)) rest := by
          rw [lookup_fst, hrest, hsame]
      _ = c.live clock (text :: rest) := by
          rw [live, live, List.mapIdx_cons]

/-! ### The places of the batch -/

/-- The place in the batch of a text that was not found: the number of such texts before it. -/
def gap (found : List (Option Embedding)) (i : Nat) : Nat := (found.take i).countP Option.isNone

theorem gap_succ (first : Option Embedding) (rest : List (Option Embedding)) (i : Nat) :
    gap (first :: rest) (i + 1) = gap rest i + if first.isNone then 1 else 0 := by
  rw [gap, List.take_succ_cons, List.countP_cons, gap]

/-- The batch in order and with repetitions: the texts for which nothing was found. -/
theorem missing_eq (texts : List String) (found : List (Option Embedding)) :
    missing texts found =
      ((texts.zip found).filter fun place => place.2.isNone).map Prod.fst := by
  induction texts generalizing found with
  | nil => cases found <;> rfl
  | cons text texts ih =>
    rcases found with _ | ⟨_ | v, found⟩
    · rfl
    · rw [missing, ih]
      rfl
    · rw [missing, ih]
      rfl

/-- A text that was not found stands in the batch at its place there. -/
theorem getElem?_missing {texts : List String} {found : List (Option Embedding)} {i : Nat}
    (hlength : found.length = texts.length) (hnone : found[i]? = some none) :
    (missing texts found)[gap found i]? = texts[i]? := by
  induction texts generalizing found i with
  | nil =>
    rw [List.eq_nil_of_length_eq_zero hlength] at hnone
    cases hnone
  | cons text texts ih =>
    cases found with
    | nil => cases hlength
    | cons first found =>
      have hlength' : found.length = texts.length := Nat.succ.inj hlength
      cases i with
      | zero =>
        cases hnone
        rfl
      | succ i =>
        rw [gap_succ]
        cases first with
        | none => exact ih hlength' hnone
        | some v => exact ih hlength' hnone

/-- Vectors for all places: what was found where something was, and in the other places what was
given, in order. -/
structure Merges (found : List (Option Embedding)) (given vectors : List Embedding) : Prop where
  length_eq : vectors.length = found.length
  of_found : ∀ (i : Nat) (v : Embedding), found[i]? = some (some v) → vectors[i]? = some v
  of_none : ∀ i : Nat, found[i]? = some none → vectors[i]? = given[gap found i]?

/-- **The vectors of the backend go to the places they are meant for.** -/
theorem merges_of_fill {found : List (Option Embedding)} {given vectors : List Embedding}
    (h : fill found given = .ok vectors) : Merges found given vectors := by
  induction found generalizing given vectors with
  | nil =>
    cases h
    exact ⟨rfl, nofun, nofun⟩
  | cons first rest ih =>
    cases first with
    | some vector =>
      obtain ⟨others, hothers, rfl⟩ := eq_cons_of_map h
      have hrest := ih hothers
      refine ⟨congrArg (· + 1) hrest.length_eq, ?_, ?_⟩
      · intro i v hv
        cases i with
        | zero => exact Option.some.inj hv
        | succ i => exact hrest.of_found i v hv
      · intro i hnone
        cases i with
        | zero => cases hnone
        | succ i =>
          rw [gap_succ]
          exact hrest.of_none i hnone
    | none =>
      cases given with
      | nil => cases h
      | cons vector given =>
        obtain ⟨others, hothers, rfl⟩ := eq_cons_of_map h
        have hrest := ih hothers
        refine ⟨congrArg (· + 1) hrest.length_eq, ?_, ?_⟩
        · intro i v hv
          cases i with
          | zero => cases hv
          | succ i => exact hrest.of_found i v hv
        · intro i hnone
          cases i with
          | zero => rfl
          | succ i =>
            rw [gap_succ]
            exact hrest.of_none i hnone

/-- Each text has the vector that was found for it, or the one at its place in the batch. -/
theorem Merges.place {found : List (Option Embedding)} {given vectors : List Embedding}
    (h : Merges found given vectors) {texts : List String} (hlength : found.length = texts.length)
    {i : Nat} {text : String} (htext : texts[i]? = some text) :
    (∃ v, found[i]? = some (some v) ∧ vectors[i]? = some v) ∨
      ∃ v, found[i]? = some none ∧ (missing texts found)[gap found i]? = some text ∧
        given[gap found i]? = some v ∧ vectors[i]? = some v := by
  have hi : i < found.length := hlength ▸ (List.getElem?_eq_some_iff.1 htext).1
  obtain ⟨first, hfirst⟩ : ∃ first, found[i]? = some first := ⟨_, List.getElem?_eq_getElem hi⟩
  cases first with
  | some v => exact .inl ⟨v, hfirst, h.of_found i v hfirst⟩
  | none =>
    obtain ⟨v, hv⟩ : ∃ v, vectors[i]? = some v := ⟨_, List.getElem?_eq_getElem (h.length_eq ▸ hi)⟩
    have hasked : (missing texts found)[gap found i]? = some text :=
      (getElem?_missing hlength hfirst).trans htext
    exact .inr ⟨v, hfirst, hasked, (h.of_none i hfirst).symm.trans hv, hv⟩

end EmbeddingCache

namespace CachedEmbedder

open EmbeddingCache Session

variable {ε : Type} [Embedder ε] {now : Nat} {clock : Nat → Nat}

/-! ### The halves of a call -/

/-- A call for texts that are all alive does not ask the backend. -/
theorem ask_of_found (c : CachedEmbedder ε) (hclock : Readings now clock) {texts : List String}
    (hbatch : missing texts (c.cache.live clock texts) = []) :
    c.ask clock texts =
      (⟨texts, c.cache.live clock texts, none⟩, ⟨c.inner, (c.cache.lookupAll clock texts).2⟩) := by
  rw [← lookupAll_fst hclock] at hbatch ⊢
  simp only [ask, hbatch, List.isEmpty_nil, if_true]

/-- A call for other texts asks the backend for those that are not alive. -/
theorem ask_of_missing (c : CachedEmbedder ε) (hclock : Readings now clock) {texts : List String}
    (hbatch : missing texts (c.cache.live clock texts) ≠ []) :
    c.ask clock texts =
      (⟨texts, c.cache.live clock texts, some (Embedder.embed (clock texts.length)
          (missing texts (c.cache.live clock texts)) c.inner).1⟩,
        ⟨(Embedder.embed (clock texts.length)
          (missing texts (c.cache.live clock texts)) c.inner).2,
          (c.cache.lookupAll clock texts).2⟩) := by
  rw [← lookupAll_fst hclock] at hbatch ⊢
  have hasked : (missing texts (c.cache.lookupAll clock texts).1).isEmpty = false := by
    simpa using hbatch
  simp only [ask, hasked, Bool.false_eq_true, if_false]

omit [Embedder ε] in
/-- The backend is not asked again when a call is answered. -/
theorem receive_inner (c : CachedEmbedder ε) (clock : Nat → Nat) (p : Pending) :
    (c.receive clock p).2.inner = c.inner := by
  unfold receive
  cases p.answer <;> rfl

omit [Embedder ε] in
/-- A call that waits for as many vectors as texts gets one vector for each of its texts. -/
theorem receive_merges (c : CachedEmbedder ε) (clock : Nat → Nat) {p : Pending}
    {given : List Embedding} (hfound : p.found.length = p.texts.length)
    (hanswer : p.answer = none ∧ given = [] ∨ p.answer = some (.ok given))
    (hgiven : given.length = p.batch.length) :
    ∃ vectors, (c.receive clock p).1 = .ok vectors ∧ Merges p.found given vectors := by
  obtain ⟨vectors, hfill, -⟩ := fill_ok hfound hgiven
  refine ⟨vectors, ?_, merges_of_fill hfill⟩
  obtain ⟨texts, found, answer⟩ := p
  rcases hanswer with ⟨rfl, rfl⟩ | rfl
  · exact hfill
  · have hlength : given.length = (missing texts found).length := hgiven
    rw [receive]
    simp only [complete, hlength, if_true]
    exact hfill

omit [Embedder ε] in
/-- A call that waits for another number of vectors is refused. -/
theorem receive_of_length_ne (c : CachedEmbedder ε) (clock : Nat → Nat) {p : Pending}
    {given : List Embedding} (hanswer : p.answer = some (.ok given))
    (hgiven : given.length ≠ p.batch.length) :
    (c.receive clock p).1 = .error (.parse ("expected " ++ toString p.batch.length
      ++ " embeddings, got " ++ toString given.length)) := by
  obtain ⟨texts, found, answer⟩ := p
  subst hanswer
  have hlength : ¬ given.length = (missing texts found).length := hgiven
  rw [receive]
  simp only [complete, hlength, if_false]
  rfl

omit [Embedder ε] in
/-- An error of the backend is passed on. -/
theorem receive_of_error (c : CachedEmbedder ε) (clock : Nat → Nat) {p : Pending}
    {e : EmbeddingError} (hanswer : p.answer = some (.error e)) :
    (c.receive clock p).1 = .error e := by
  rw [receive, hanswer]
  rfl

theorem expected_ne_missing (n m : Nat) :
    "expected " ++ toString n ++ " embeddings, got " ++ toString m ≠ "missing embedding" := by
  intro h
  have hfirst := congrArg (fun s : String => s.toList.head?) h
  simp [String.toList_append] at hfirst

omit [Embedder ε] in
/-- No place stays empty: only the backend itself can miss an embedding. -/
theorem answer_of_missing {c : CachedEmbedder ε} {clock : Nat → Nat} {p : Pending}
    (hfound : p.found.length = p.texts.length) (hnone : p.answer = none → p.batch = [])
    (h : (c.receive clock p).1 = .error (.parse "missing embedding")) :
    p.answer = some (.error (.parse "missing embedding")) := by
  cases hanswer : p.answer with
  | none =>
    have hlength : ([] : List Embedding).length = p.batch.length :=
      (congrArg List.length (hnone hanswer)).symm
    obtain ⟨vectors, hok, -⟩ := c.receive_merges clock hfound (.inl ⟨hanswer, rfl⟩) hlength
    rw [hok] at h
    cases h
  | some answer =>
    cases answer with
    | error e =>
      rw [receive_of_error c clock hanswer] at h
      cases h
      rfl
    | ok given =>
      by_cases hgiven : given.length = p.batch.length
      · obtain ⟨vectors, hok, -⟩ := c.receive_merges clock hfound (.inr hanswer) hgiven
        rw [hok] at h
        cases h
      · rw [receive_of_length_ne c clock hanswer hgiven] at h
        exact absurd (EmbeddingError.parse.inj (Except.error.inj h)) (expected_ne_missing _ _)

/-- What a call knows while it waits: what was alive at its lookups, and the answer of the backend,
which was asked for the others if there are any. -/
theorem ask_recorded (c : CachedEmbedder (Embedder.Recorder ε)) (hclock : Readings now clock)
    (texts : List String) :
    let live := c.cache.live clock texts
    let batch := missing texts live
    (c.ask clock texts).1.texts = texts ∧ (c.ask clock texts).1.found = live ∧
      (c.ask clock texts).2.inner.asked = c.inner.asked ++ (if batch = [] then [] else [batch]) ∧
      (batch = [] → (c.ask clock texts).1.answer = none) ∧
      (batch ≠ [] → (c.ask clock texts).1.answer =
        some (Embedder.embed (clock texts.length) batch c.inner.backend).1) := by
  intro live batch
  by_cases hbatch : batch = []
  · rw [c.ask_of_found hclock hbatch, if_pos hbatch, List.append_nil]
    exact ⟨rfl, rfl, rfl, fun _ => rfl, fun h => absurd hbatch h⟩
  · rw [c.ask_of_missing hclock hbatch, if_neg hbatch]
    exact ⟨rfl, rfl, rfl, fun h => absurd h hbatch, fun _ => rfl⟩

/-- **What a call asks for and what it answers**, whatever the cache holds and whatever the backend
does.  The backend is asked at most once, for exactly the texts for which nothing is alive at their
lookups, in order and with repetitions, and not at all when there are none; other calls may come and
go before it has answered.  When it gives as many vectors as it was asked for, each text has one:
the one that was alive, or the one at the place of the text in the batch.  An error of the backend
is passed on, another number of vectors is refused, and no place stays empty. -/
theorem answers_in_order (c : CachedEmbedder (Embedder.Recorder ε)) (hclock : Readings now clock)
    (texts : List String) :
    let live := c.cache.live clock texts
    let batch := ((texts.zip live).filter fun place => place.2.isNone).map Prod.fst
    let reply := (Embedder.embed (clock texts.length) batch c.inner.backend).1
    (c.ask clock texts).2.inner.asked = c.inner.asked ++ (if batch = [] then [] else [batch]) ∧
    ∀ (c' : CachedEmbedder (Embedder.Recorder ε)) (clock' : Nat → Nat),
      let result := (c'.receive clock' (c.ask clock texts).1).1
      (c'.receive clock' (c.ask clock texts).1).2.inner = c'.inner ∧
      (∀ given, (batch = [] ∧ given = [] ∨ batch ≠ [] ∧ reply = .ok given) →
        given.length = batch.length →
        ∃ vectors, result = .ok vectors ∧ vectors.length = texts.length ∧
          ∀ (i : Nat) (text : String), texts[i]? = some text →
            (∃ v, live[i]? = some (some v) ∧ vectors[i]? = some v) ∨
            (∃ v, live[i]? = some none ∧ batch[gap live i]? = some text ∧
              given[gap live i]? = some v ∧ vectors[i]? = some v)) ∧
      (batch ≠ [] → ∀ e, reply = .error e → result = .error e) ∧
      (batch ≠ [] → ∀ given, reply = .ok given → given.length ≠ batch.length →
        result = .error (.parse ("expected " ++ toString batch.length ++ " embeddings, got "
          ++ toString given.length))) ∧
      (result = .error (.parse "missing embedding") →
        batch ≠ [] ∧ reply = .error (.parse "missing embedding")) := by
  intro live batch reply
  have hmissing : missing texts live = batch := missing_eq texts live
  have hlive : live.length = texts.length := c.cache.length_live clock texts
  have hpending := c.ask_recorded hclock texts
  simp only [show c.cache.live clock texts = live from rfl, hmissing] at hpending
  obtain ⟨htexts, hfound, hasked, hnone, hsome⟩ := hpending
  refine ⟨hasked, ?_⟩
  generalize (c.ask clock texts).1 = p at htexts hfound hnone hsome ⊢
  have hbatch : p.batch = batch := by rw [Pending.batch, htexts, hfound, hmissing]
  have hlength : p.found.length = p.texts.length := by rw [hfound, htexts, hlive]
  intro c' clock' result
  refine ⟨c'.receive_inner clock' p, ?_, ?_, ?_, ?_⟩
  · intro given hgiven hcount
    have hreceived : p.answer = none ∧ given = [] ∨ p.answer = some (.ok given) := by
      rcases hgiven with ⟨hnil, rfl⟩ | ⟨hne, hreply⟩
      · exact .inl ⟨hnone hnil, rfl⟩
      · exact .inr ((hsome hne).trans (congrArg some hreply))
    obtain ⟨vectors, hresult, hmerges⟩ :=
      c'.receive_merges clock' hlength hreceived (hcount.trans (congrArg List.length hbatch.symm))
    rw [hfound] at hmerges
    refine ⟨vectors, hresult, hmerges.length_eq.trans hlive, ?_⟩
    intro i text htext
    rw [← hmissing]
    exact hmerges.place hlive htext
  · intro hne e hreply
    exact c'.receive_of_error clock' ((hsome hne).trans (congrArg some hreply))
  · intro hne given hreply hcount
    rw [← hbatch] at hcount ⊢
    exact c'.receive_of_length_ne clock' ((hsome hne).trans (congrArg some hreply)) hcount
  · intro hresult
    have hempty : p.answer = none → p.batch = [] := by
      intro h
      by_cases hne : batch = []
      · exact hbatch.trans hne
      · rw [hsome hne] at h
        cases h
    have hanswer := answer_of_missing hlength hempty hresult
    have hne : batch ≠ [] := by
      intro hnil
      rw [hnone hnil] at hanswer
      cases hanswer
    exact ⟨hne, Option.some.inj ((hsome hne).symm.trans hanswer)⟩

/-- One text of four is alive, and another one stands twice among the rest. -/
theorem answers_in_order_repeated :
    let c : CachedEmbedder (Embedder.Recorder ByteEmbedder) :=
      ⟨⟨⟨3, 3, .faithful, []⟩, []⟩, ⟨1000, 8, [⟨keyOf "bb", ByteEmbedder.vector 3 "bb", 5⟩]⟩⟩
    (c.ask (fun _ => 10) ["a", "bb", "cccc", "a"]).2.inner.asked = [["a", "cccc", "a"]] ∧
      ∃ vectors, (c.embed 10 ["a", "bb", "cccc", "a"]).1 = .ok vectors ∧ vectors.length = 4 ∧
        ∃ v, vectors[3]? = some v ∧
          (["a", "cccc", "a"].map (ByteEmbedder.vector 3))[2]? = some v := by
  intro c
  have hbatch : ((["a", "bb", "cccc", "a"].zip
      (c.cache.live (fun _ => 10) ["a", "bb", "cccc", "a"])).filter fun place =>
        place.2.isNone).map Prod.fst = ["a", "cccc", "a"] := by decide +kernel
  have hcall := c.answers_in_order (.standing (Nat.le_refl 10)) ["a", "bb", "cccc", "a"]
  simp only [hbatch] at hcall
  obtain ⟨hasked, hanswer⟩ := hcall
  refine ⟨hasked, ?_⟩
  obtain ⟨vectors, hok, hlength, hplaces⟩ := (hanswer _ (fun _ => 10)).2.1
    (["a", "cccc", "a"].map (ByteEmbedder.vector 3)) (.inr ⟨by decide, rfl⟩) rfl
  refine ⟨vectors, hok, hlength, ?_⟩
  have hgap : gap (c.cache.live (fun _ => 10) ["a", "bb", "cccc", "a"]) 3 = 2 := by decide +kernel
  rcases hplaces 3 "a" rfl with ⟨v, hfound, hv⟩ | ⟨v, -, -, hgiven, hv⟩
  · have hnone : ((c.cache.live (fun _ => 10) ["a", "bb", "cccc", "a"])[3]?.map Option.isNone) =
        some true := by decide +kernel
    rw [hfound] at hnone
    cases hnone
  · rw [hgap] at hgiven
    exact ⟨v, hv, hgiven⟩

end CachedEmbedder

end KnowledgeBase
