import KnowledgeBase.Proofs.Embedding.Eviction
import KnowledgeBase.Proofs.Service.Vectors

/-!
# Vectors of another width in the cache

The width of a vector is checked by the service, behind the cache.  So a vector of another width has
been kept by the time it is refused, and until it expires every call for its text is refused without
the backend being asked, even if the backend would now give a vector of the right width.  Nothing
remains of such a call when the cache is off, or when the refusal comes from the backend itself.

## Main definitions

* `CachedEmbedder.OneText` — all that can come of a single text.
* `TextRequest`, `TextRequest.run` — the calls of the service that embed a text.
* `TextRequest.Misfits` — a call fails because of the width.
* `TextRequest.Unkept` — nothing is kept of the vector of a text.

## Main results

* `CachedEmbedder.oneText` — a single text is found, refused, miscounted or given a vector.
* `TextRequest.hasWidth_run_iff` — when all vectors that are kept still have the right width.
* `TextRequest.forgets_iff` — **when a call that fails because of the width leaves no trace.**
-/

namespace KnowledgeBase

open Sql

namespace EmbeddingCache

variable {c : EmbeddingCache} {now later dim : Nat} {key : String} {v w : Embedding}

/-- Every vector that is kept has a width. -/
def HasWidth (dim : Nat) (c : EmbeddingCache) : Prop := ∀ e ∈ c.entries, e.vector.length = dim

theorem HasWidth.lookup (h : c.HasWidth dim) (now : Nat) (key : String) :
    (c.lookup now key).2.HasWidth dim := fun e he => h e (mem_of_mem_lookup he)

theorem HasWidth.put (h : c.HasWidth dim) (hv : v.length = dim) (now : Nat) (key : String) :
    (c.put now key v).HasWidth dim := by
  intro e he
  rcases mem_put he with he | rfl
  · exact h e he
  · exact hv

/-! ### What stays alive -/

theorem find?_of_live (h : c.live? now key = some v) :
    c.isOn = true ∧ ∃ e, c.find? key = some e ∧ e.vector = v := by
  cases hon : c.isOn with
  | false =>
    rw [live?_of_off hon] at h
    cases h
  | true =>
    rw [live?, hon, if_pos rfl, Option.map_eq_some_iff] at h
    obtain ⟨e, he, hv⟩ := h
    exact ⟨rfl, e, (Option.filter_eq_some_iff.1 he).1, hv⟩

/-- At whatever time something is alive, it is the same vector. -/
theorem live?_unique (h : c.live? now key = some v) (h' : c.live? later key = some w) : v = w := by
  obtain ⟨-, e, hfind, rfl⟩ := find?_of_live h
  obtain ⟨-, e', hfind', rfl⟩ := find?_of_live h'
  cases hfind.symm.trans hfind'
  rfl

/-- What is not alive does not come back. -/
theorem live?_eq_none_of_le (h : c.live? now key = none) (hle : now ≤ later) :
    c.live? later key = none := by
  cases hlater : c.live? later key with
  | none => rfl
  | some v =>
    obtain ⟨hon, e, hfind, -⟩ := find?_of_live hlater
    have hexpired : c.isExpired now e = true := by
      cases hnow : c.isExpired now e with
      | true => rfl
      | false =>
        rw [live?, hon, hfind, Option.filter_some, hnow] at h
        cases h
    rw [live?_of_expired hfind (isExpired_mono hle hexpired)] at hlater
    cases hlater

/-- Looking up what is alive changes nothing. -/
theorem lookup_of_live (h : c.live? now key = some v) : (c.lookup now key).2 = c := by
  obtain ⟨hon, e, hfind, -⟩ := find?_of_live h
  have hlive : c.isExpired now e = false := by
    cases hnow : c.isExpired now e with
    | true =>
      rw [live?_of_expired hfind hnow] at h
      cases h
    | false => rfl
  unfold lookup
  simp only [hon, hfind, hlive]
  rfl

theorem isOn_lookup (c : EmbeddingCache) (now : Nat) (key : String) :
    (c.lookup now key).2.isOn = c.isOn := by
  unfold lookup
  split
  · rfl
  · split
    · rfl
    · split <;> rfl

theorem ttl_makeRoom (c : EmbeddingCache) (now : Nat) :
    (c.makeRoom now).ttl = c.ttl ∧ (c.makeRoom now).capacity = c.capacity := by
  unfold makeRoom evictOldest
  simp only
  split
  · split <;> exact ⟨rfl, rfl⟩
  · exact ⟨rfl, rfl⟩

theorem put_of_on (hon : c.isOn = true) :
    c.put now key v = ⟨c.ttl, c.capacity, c.others now key ++ [⟨key, v, now⟩]⟩ := by
  obtain ⟨httl, hcapacity⟩ := c.ttl_makeRoom now
  unfold put others
  rw [hon]
  simp only [Bool.not_true, Bool.false_eq_true, if_false]
  split
  · rw [erase, httl, hcapacity]
  · rfl

theorem put_of_off (hoff : c.isOn = false) : c.put now key v = c := by
  unfold put
  rw [hoff]
  rfl

/-- What was put in is alive at once. -/
theorem live?_put (hon : c.isOn = true) : (c.put now key v).live? now key = some v := by
  have hothers : (c.others now key).find? (fun e => decide (e.key = key)) = none := by
    rw [List.find?_eq_none]
    intro e he
    simpa using ne_of_mem_others he
  have hfind : (c.put now key v).find? key = some ⟨key, v, now⟩ := by
    rw [put_of_on hon, find?, List.find?_append, hothers]
    simp
  have hon' : (c.put now key v).isOn = true := by
    rw [put_of_on hon]
    exact hon
  have hlive : (c.put now key v).isExpired now ⟨key, v, now⟩ = false := by
    simp [isExpired]
  rw [live?, hon', hfind, Option.filter_some, hlive]
  rfl

end EmbeddingCache

namespace CachedEmbedder

open EmbeddingCache Session

variable {ε : Type} [Embedder ε]

/-! ### A single text -/

/-- All that can come of a single text: its vector is found, or the backend is asked for it and
refuses, answers with another number of vectors, or gives one, which is kept. -/
inductive OneText (now : Nat) (text : String) (c : CachedEmbedder ε) :
    Except EmbeddingError Embedding → CachedEmbedder ε → Prop where
  | found {v : Embedding} (hlive : c.cache.live? now (keyOf text) = some v) :
    OneText now text c (.ok v) c
  | refused {e : EmbeddingError} (hlive : c.cache.live? now (keyOf text) = none)
    (hreply : (Embedder.embed now [text] c.inner).1 = .error e) :
    OneText now text c (.error e)
      ⟨(Embedder.embed now [text] c.inner).2, (c.cache.lookup now (keyOf text)).2⟩
  | miscounted {detail : String} {vectors : List Embedding}
    (hlive : c.cache.live? now (keyOf text) = none)
    (hreply : (Embedder.embed now [text] c.inner).1 = .ok vectors) (hlength : vectors.length ≠ 1) :
    OneText now text c (.error (.parse detail))
      ⟨(Embedder.embed now [text] c.inner).2, (c.cache.lookup now (keyOf text)).2⟩
  | given {v : Embedding} (hlive : c.cache.live? now (keyOf text) = none)
    (hreply : (Embedder.embed now [text] c.inner).1 = .ok [v]) :
    OneText now text c (.ok v)
      ⟨(Embedder.embed now [text] c.inner).2,
        (c.cache.lookup now (keyOf text)).2.put now (keyOf text) v⟩

/-- **What comes of a single text.** -/
theorem oneText (now : Nat) (text : String) (c : CachedEmbedder ε) :
    OneText now text c (Embedder.embedOne now text c).1 (Embedder.embedOne now text c).2 := by
  have hstands : Readings now fun _ => now := .standing (Nat.le_refl now)
  have hcall : Embedder.embedOne now text c =
      (Embedder.first ((c.ask (fun _ => now) [text]).2.receive (fun _ => now)
        (c.ask (fun _ => now) [text]).1).1,
      ((c.ask (fun _ => now) [text]).2.receive (fun _ => now)
        (c.ask (fun _ => now) [text]).1).2) := rfl
  rw [hcall]
  cases hlive : c.cache.live? now (keyOf text) with
  | some v =>
    have hfound : c.cache.live (fun _ => now) [text] = [some v] := congrArg (fun x => [x]) hlive
    have hbatch : missing [text] (c.cache.live (fun _ => now) [text]) = [] := by rw [hfound]; rfl
    have hcache : (c.cache.lookupAll (fun _ => now) [text]).2 = c.cache := lookup_of_live hlive
    rw [c.ask_of_found hstands hbatch, hcache, hfound]
    exact .found hlive
  | none =>
    have hfound : c.cache.live (fun _ => now) [text] = [none] := congrArg (fun x => [x]) hlive
    have hbatch : missing [text] (c.cache.live (fun _ => now) [text]) = [text] := by
      rw [hfound]
      rfl
    have hasks : missing [text] (c.cache.live (fun _ => now) [text]) ≠ [] := by
      rw [hbatch]
      exact List.cons_ne_nil _ _
    rw [c.ask_of_missing hstands hasks, hbatch, hfound]
    change OneText now text c
      (Embedder.first (complete (fun _ => now) [text] [none]
        (Embedder.embed now [text] c.inner).1 (c.cache.lookup now (keyOf text)).2).1)
      ⟨(Embedder.embed now [text] c.inner).2, (complete (fun _ => now) [text] [none]
        (Embedder.embed now [text] c.inner).1 (c.cache.lookup now (keyOf text)).2).2⟩
    cases hreply : (Embedder.embed now [text] c.inner).1 with
    | error e => exact .refused hlive hreply
    | ok vectors =>
      by_cases hlength : vectors.length = 1
      · obtain ⟨v, rfl⟩ := List.length_eq_one_iff.1 hlength
        exact .given hlive hreply
      · have hother : ¬ vectors.length = [text].length := hlength
        simp only [complete, if_neg hother]
        exact .miscounted hlive hreply hlength

end CachedEmbedder

/-! ### Calls of the service -/

namespace Service

variable {σ ε : Type} [Embedder ε] {now : Nat} {text : String} {v : Service σ ε}

theorem embedder_embed (now : Nat) (text : String) (v : Service σ ε) :
    (v.embed now text).2.embedder = (Embedder.embedOne now text v.embedder).2 := by
  rw [embed]
  generalize Embedder.embedOne now text v.embedder = embedded
  obtain ⟨e | vector, embedder⟩ := embedded
  · rfl
  · simp only
    split <;> rfl

/-- An error of the embedder is passed on. -/
theorem embed_of_error {e : EmbeddingError}
    (h : (Embedder.embedOne now text v.embedder).1 = .error e) :
    (v.embed now text).1 = .error (.embedding e) := by
  rw [embed]
  generalize Embedder.embedOne now text v.embedder = embedded at *
  obtain ⟨e | vector, embedder⟩ := embedded
  · cases h
    rfl
  · cases h

/-- A vector of the width of the store is passed on. -/
theorem embed_of_fitting {vector : Embedding}
    (h : (Embedder.embedOne now text v.embedder).1 = .ok vector)
    (hfits : vector.length = v.settings.store.dimension) : (v.embed now text).1 = .ok vector := by
  rw [embed]
  generalize Embedder.embedOne now text v.embedder = embedded at *
  obtain ⟨e | vector, embedder⟩ := embedded
  · cases h
  · cases h
    simp only [if_pos hfits]

end Service

/-- A call that embeds a text: a search for it, or a turn of a conversation with it. -/
inductive TextCall where
  | search (tenant : String) (options : SearchOptions)
  | record (id : Uuid) (tenant user : String) (session : Option String)

/-- A call about a text at an instant. -/
structure TextRequest where
  call : TextCall
  now : Nat
  text : String

namespace TextRequest

open EmbeddingCache CachedEmbedder

variable {σ ε : Type} [Server σ] [Embedder ε] {r : TextRequest}

/-- Makes a call, whose answer is only whether it succeeded. -/
def run (r : TextRequest) (v : Service σ ε) : Except ServiceError Unit × Service σ ε :=
  match r.call with
  | .search tenant options =>
    let (answer, v) := v.searchText r.now tenant r.text options
    (answer.map fun _ => (), v)
  | .record id tenant user session =>
    let (answer, v) := v.recordTurn r.now id tenant user session r.text
    (answer.map fun _ => (), v)

/-- A call fails because a vector has another width than the store. -/
def Misfits (r : TextRequest) (v : Service σ ε) : Prop :=
  ∃ expected actual, (r.run v).1 = .error (.embedding (.dimension expected actual))

omit [Embedder ε] in
/-- An operation of the store does not fail to embed. -/
theorem perform_ne_embedding {α : Type} (o : Operation α) (v : Service σ ε) (e : EmbeddingError) :
    (v.perform o).1.map (fun _ => ()) ≠ .error (.embedding e) := by
  intro h
  unfold Service.perform at h
  generalize o.run v.pool = result at h
  obtain ⟨_ | _, _⟩ := result
  · cases h
  · cases h

/-- What a call makes of the vector of its text: an error is its own, and a vector goes into an
operation of the store. -/
inductive GoesOn : Except ServiceError Embedding × Service σ ε →
    Except ServiceError Unit × Service σ ε → Prop where
  | failed (e : ServiceError) (v : Service σ ε) : GoesOn (.error e, v) (.error e, v)
  | performed {α : Type} (vector : Embedding) (v : Service σ ε) (o : Operation α) :
    GoesOn (.ok vector, v) ((v.perform o).1.map fun _ => (), (v.perform o).2)

namespace GoesOn

variable {embedded : Except ServiceError Embedding × Service σ ε}
  {result : Except ServiceError Unit × Service σ ε}

omit [Embedder ε]

/-- The store leaves the embedder and the settings as they are. -/
theorem unchanged (h : GoesOn embedded result) :
    result.2.embedder = embedded.2.embedder ∧ result.2.settings = embedded.2.settings := by
  cases h with
  | failed e v => exact ⟨rfl, rfl⟩
  | performed vector v o => exact ⟨rfl, rfl⟩

/-- The call fails to embed just when embedding fails. -/
theorem error_iff (h : GoesOn embedded result) (e : EmbeddingError) :
    result.1 = .error (.embedding e) ↔ embedded.1 = .error (.embedding e) := by
  cases h with
  | failed e' v =>
    constructor
    · intro h
      cases h
      rfl
    · intro h
      cases h
      rfl
  | performed vector v o =>
    constructor
    · intro h
      exact absurd h (perform_ne_embedding o v e)
    · intro h
      cases h

end GoesOn

theorem goesOn_run (htext : Text.isBlank r.text = false) (v : Service σ ε) :
    GoesOn (v.embed r.now r.text) (r.run v) := by
  obtain ⟨call, now, text⟩ := r
  cases call with
  | search tenant options =>
    simp only [run, Service.searchText, htext, Bool.false_eq_true, if_false]
    obtain ⟨e | vector, v'⟩ := v.embed now text
    · exact .failed e v'
    · exact .performed vector v' _
  | record id tenant user session =>
    simp only [run, Service.recordTurn, htext, Bool.false_eq_true, if_false]
    obtain ⟨e | vector, v'⟩ := v.embed now text
    · exact .failed e v'
    · exact .performed vector v' _

/-- A call with a text embeds it, and fails to embed it if that fails. -/
theorem run_of_text (htext : Text.isBlank r.text = false) (v : Service σ ε) :
    (r.run v).2.embedder = (Embedder.embedOne r.now r.text v.embedder).2 ∧
      (r.run v).2.settings = v.settings ∧
      ∀ e, (r.run v).1 = .error (.embedding e) ↔
        (v.embed r.now r.text).1 = .error (.embedding e) := by
  have hgoesOn := goesOn_run htext v
  obtain ⟨hembedder, hsettings⟩ := hgoesOn.unchanged
  rw [← v.embedder_embed]
  exact ⟨hembedder, hsettings.trans (v.pool_embed r.now r.text).2, hgoesOn.error_iff⟩

/-- Without a text nothing is embedded. -/
theorem run_of_blank (hblank : Text.isBlank r.text = true) (v : Service σ ε) :
    (r.run v).2.embedder = v.embedder ∧ (r.run v).2.settings = v.settings ∧ ¬ r.Misfits v := by
  obtain ⟨call, now, text⟩ := r
  cases call with
  | search tenant options =>
    have hrun : run ⟨.search tenant options, now, text⟩ v = (.ok (), v) := by
      simp only [run, Service.searchText, hblank, if_true]
      rfl
    rw [Misfits, hrun]
    refine ⟨rfl, rfl, ?_⟩
    rintro ⟨expected, actual, h⟩
    cases h
  | record id tenant user session =>
    simp only [Misfits, run, Service.recordTurn, hblank, if_true]
    refine ⟨rfl, rfl, ?_⟩
    rintro ⟨expected, actual, h⟩
    exact perform_ne_embedding _ _ _ h

theorem text_of_misfits {v : Service σ ε} (h : r.Misfits v) : Text.isBlank r.text = false := by
  cases hblank : Text.isBlank r.text with
  | true => exact absurd h (run_of_blank hblank v).2.2
  | false => rfl

/-- Nothing is kept of the vector of a text: the cache is off, or the backend is asked and refuses
the text itself. -/
def Unkept (r : TextRequest) (v : Service σ (CachedEmbedder ε)) : Prop :=
  v.embedder.cache.isOn = false ∨
    v.embedder.cache.live? r.now (keyOf r.text) = none ∧
      ∃ e, (Embedder.embed r.now [r.text] v.embedder.inner).1 = .error e

/-- What a call leaves behind that fails because of the width: nothing that is ever alive, or the
vector it was refused for. -/
theorem Misfits.leaves {v : Service σ (CachedEmbedder ε)} (h : r.Misfits v) :
    (r.Unkept v ∧ ∀ later, r.now ≤ later →
        (r.run v).2.embedder.cache.live? later (keyOf r.text) = none) ∨
      (¬ r.Unkept v ∧ ∃ w, (r.run v).2.embedder.cache.live? r.now (keyOf r.text) = some w ∧
        w.length ≠ v.settings.store.dimension ∧
        (r.run v).1 = .error (.embedding (.dimension v.settings.store.dimension w.length))) := by
  have htext := text_of_misfits h
  obtain ⟨expected, actual, hfails⟩ := h
  obtain ⟨hembedder, -, hiff⟩ := run_of_text htext v
  rw [hembedder]
  have hone := oneText r.now r.text v.embedder
  -- what is looked up is not alive afterwards if it was not before
  have hdead : v.embedder.cache.live? r.now (keyOf r.text) = none → ∀ later, r.now ≤ later →
      (v.embedder.cache.lookup r.now (keyOf r.text)).2.live? later (keyOf r.text) = none :=
    fun hnone later hle => (live?_lookup hle).trans (live?_eq_none_of_le hnone hle)
  have hrefused : ∀ w, (Embedder.embedOne r.now r.text v.embedder).1 = .ok w →
      w.length ≠ v.settings.store.dimension ∧
        (r.run v).1 = .error (.embedding (.dimension v.settings.store.dimension w.length)) := by
    intro w hw
    have hne : w.length ≠ v.settings.store.dimension := by
      intro hfits
      have hok := (hiff _).1 hfails
      rw [Service.embed_of_fitting hw hfits] at hok
      cases hok
    exact ⟨hne, (hiff _).2 (Service.embed_of_misfit hw hne)⟩
  generalize hresult : (Embedder.embedOne r.now r.text v.embedder).1 = result at hone hrefused
  generalize (Embedder.embedOne r.now r.text v.embedder).2 = after at hone
  cases hone with
  | @found w hlive =>
    right
    refine ⟨?_, w, hlive, hrefused w rfl⟩
    rintro (hoff | ⟨hnone, -⟩)
    · rw [live?_of_off hoff] at hlive
      cases hlive
    · rw [hnone] at hlive
      cases hlive
  | refused hlive hreply => exact .inl ⟨.inr ⟨hlive, _, hreply⟩, hdead hlive⟩
  | miscounted hlive hreply hlength =>
    have herror := (hiff _).1 hfails
    rw [Service.embed_of_error hresult] at herror
    cases herror
  | @given w hlive hreply =>
    cases hon : v.embedder.cache.isOn with
    | false =>
      refine .inl ⟨.inl hon, ?_⟩
      rw [put_of_off ((isOn_lookup ..).trans hon)]
      exact hdead hlive
    | true =>
      right
      refine ⟨?_, w, live?_put ((isOn_lookup ..).trans hon), hrefused w rfl⟩
      rintro (hoff | ⟨-, e, herror⟩)
      · rw [hon] at hoff
        cases hoff
      · rw [hreply] at herror
        cases herror

/-! ### Runs -/

/-- The service after some calls, one after the other. -/
def runAll (rs : List TextRequest) (v : Service σ ε) : Service σ ε :=
  rs.foldl (fun v r => (r.run v).2) v

theorem settings_run (r : TextRequest) (v : Service σ ε) : (r.run v).2.settings = v.settings := by
  cases hblank : Text.isBlank r.text with
  | true => exact (run_of_blank hblank v).2.1
  | false => exact (run_of_text hblank v).2.1

/-- **A call spoils the cache only by failing because of the width**, and then unless nothing is
kept. -/
theorem hasWidth_run_iff {v : Service σ (CachedEmbedder ε)}
    (hwidth : v.embedder.cache.HasWidth v.settings.store.dimension) :
    (r.run v).2.embedder.cache.HasWidth v.settings.store.dimension ↔
      (r.Misfits v → r.Unkept v) := by
  constructor
  · intro hafter hmisfits
    rcases hmisfits.leaves with ⟨hunkept, -⟩ | ⟨-, w, hlive, hne, -⟩
    · exact hunkept
    · obtain ⟨-, e, hfind, rfl⟩ := find?_of_live hlive
      exact absurd (hafter e (mem_of_find?_eq_some hfind).1) hne
  · intro hunkept
    cases hblank : Text.isBlank r.text with
    | true =>
      rw [(run_of_blank hblank v).1]
      exact hwidth
    | false =>
      obtain ⟨hembedder, -, hiff⟩ := run_of_text hblank v
      rw [hembedder]
      have hlooked := hwidth.lookup r.now (keyOf r.text)
      have hone := oneText r.now r.text v.embedder
      generalize hresult : (Embedder.embedOne r.now r.text v.embedder).1 = result at hone
      generalize (Embedder.embedOne r.now r.text v.embedder).2 = after at hone
      cases hone with
      | found hlive => exact hwidth
      | refused hlive hreply => exact hlooked
      | miscounted hlive hreply hlength => exact hlooked
      | @given w hlive hreply =>
        by_cases hfits : w.length = v.settings.store.dimension
        · exact hlooked.put hfits _ _
        · have hmisfits : r.Misfits v := ⟨_, _, (hiff _).2 (Service.embed_of_misfit hresult hfits)⟩
          rcases hunkept hmisfits with hoff | ⟨-, e, herror⟩
          · rw [put_of_off ((isOn_lookup ..).trans hoff)]
            exact hlooked
          · rw [hreply] at herror
            cases herror

/-- All along a run the vectors that are kept have the width of the store just when nothing is kept
by the calls that fail because of the width. -/
theorem hasWidth_runAll_iff {v : Service σ (CachedEmbedder ε)}
    (hwidth : v.embedder.cache.HasWidth v.settings.store.dimension) (rs : List TextRequest) :
    (∀ before after, rs = before ++ after →
        (runAll before v).embedder.cache.HasWidth v.settings.store.dimension) ↔
      ∀ before r after, rs = before ++ r :: after → r.Misfits (runAll before v) →
        r.Unkept (runAll before v) := by
  induction rs generalizing v with
  | nil =>
    constructor
    · intro _ before r after hsplit
      simp at hsplit
    · intro _ before after hsplit
      rw [(List.append_eq_nil_iff.1 hsplit.symm).1]
      exact hwidth
  | cons first rs ih =>
    have hsettings := settings_run first v
    constructor
    · intro hall before r after hsplit
      cases before with
      | nil =>
        cases hsplit
        exact (hasWidth_run_iff hwidth).1 (hall [first] rs rfl)
      | cons second before =>
        obtain ⟨rfl, hrest⟩ := List.cons.inj hsplit
        have hnext := (hasWidth_run_iff hwidth).1 (hall [first] rs rfl)
        have hwidth' := (hasWidth_run_iff hwidth).2 hnext
        rw [← hsettings] at hwidth' hall
        exact (ih hwidth').1
          (fun before' after' h => hall (first :: before') after' (congrArg (first :: ·) h))
          before r after hrest
    · intro hall before after hsplit
      cases before with
      | nil => exact hwidth
      | cons second before =>
        obtain ⟨rfl, hrest⟩ := List.cons.inj hsplit
        have hwidth' := (hasWidth_run_iff hwidth).2 (hall [] first rs rfl)
        rw [← hsettings] at hwidth' ⊢
        exact (ih hwidth').2
          (fun before' r after' h => hall (first :: before') r after' (congrArg (first :: ·) h))
          before after hrest

/-! ### The next call for a text -/

section Recorded

variable {s : Service σ (CachedEmbedder (Embedder.Recorder ε))}

/-- A text whose vector is alive is not asked for, and a call that the vector misfits fails. -/
theorem run_of_live (htext : Text.isBlank r.text = false) {w : Embedding}
    (hlive : s.embedder.cache.live? r.now (keyOf r.text) = some w)
    (hmisfit : w.length ≠ s.settings.store.dimension) :
    (r.run s).2.embedder.inner.asked = s.embedder.inner.asked ∧
      (r.run s).1 = .error (.embedding (.dimension s.settings.store.dimension w.length)) := by
  obtain ⟨hembedder, -, hiff⟩ := run_of_text htext s
  have hone := oneText r.now r.text s.embedder
  rw [hembedder]
  generalize hresult : (Embedder.embedOne r.now r.text s.embedder).1 = result at hone
  generalize (Embedder.embedOne r.now r.text s.embedder).2 = after at hone
  cases hone with
  | found hfound =>
    cases hfound.symm.trans hlive
    exact ⟨rfl, (hiff _).2 (Service.embed_of_misfit hresult hmisfit)⟩
  | refused hnone => cases hnone.symm.trans hlive
  | miscounted hnone => cases hnone.symm.trans hlive
  | given hnone => cases hnone.symm.trans hlive

/-- A text whose vector is not alive is asked for, and embedded if the backend gives a vector of the
width of the store. -/
theorem run_of_dead (htext : Text.isBlank r.text = false)
    (hnone : s.embedder.cache.live? r.now (keyOf r.text) = none) :
    (r.run s).2.embedder.inner.asked = s.embedder.inner.asked ++ [[r.text]] ∧
      ∀ w, (Embedder.embed r.now [r.text] s.embedder.inner.backend).1 = .ok [w] →
        w.length = s.settings.store.dimension → (s.embed r.now r.text).1 = .ok w := by
  have hone := oneText r.now r.text s.embedder
  rw [(run_of_text htext s).1]
  generalize hresult : (Embedder.embedOne r.now r.text s.embedder).1 = result at hone
  generalize (Embedder.embedOne r.now r.text s.embedder).2 = after at hone
  cases hone with
  | found hfound => cases hfound.symm.trans hnone
  | refused _ hreply =>
    refine ⟨rfl, ?_⟩
    intro w hw
    cases hreply.symm.trans hw
  | miscounted _ hreply hlength =>
    refine ⟨rfl, ?_⟩
    intro w hw
    cases hreply.symm.trans hw
    exact absurd rfl hlength
  | given _ hreply =>
    refine ⟨rfl, ?_⟩
    intro w hw hfits
    cases hreply.symm.trans hw
    exact Service.embed_of_fitting hresult hfits

/-- **When a call that fails because of the width leaves no trace.**  The vectors that are kept have
the width of the store all along a run just when each call that fails because of the width found the
cache off, or was refused by the backend itself.  Just these calls are followed by calls for their
texts that ask the backend again, whenever they come.  Any later call for the text either fails in
the same way, and the backend is not asked, or the backend is asked, and the text is embedded as
soon as it gives a vector of the right width. -/
theorem forgets_iff {v : Service σ (CachedEmbedder (Embedder.Recorder ε))}
    (hwidth : v.embedder.cache.HasWidth v.settings.store.dimension) (rs : List TextRequest) :
    ((∀ before after, rs = before ++ after →
        (runAll before v).embedder.cache.HasWidth v.settings.store.dimension) ↔
      ∀ before r after, rs = before ++ r :: after → r.Misfits (runAll before v) →
        r.Unkept (runAll before v)) ∧
    ∀ before r after, rs = before ++ r :: after → r.Misfits (runAll before v) →
      let s := (r.run (runAll before v)).2
      ((∀ next : TextRequest, next.text = r.text → r.now ≤ next.now →
          (next.run s).2.embedder.inner.asked = s.embedder.inner.asked ++ [[r.text]]) ↔
        r.Unkept (runAll before v)) ∧
      ∀ next : TextRequest, next.text = r.text → r.now ≤ next.now →
        ((next.run s).2.embedder.inner.asked = s.embedder.inner.asked ∧
          (next.run s).1 = (r.run (runAll before v)).1) ∨
        ((next.run s).2.embedder.inner.asked = s.embedder.inner.asked ++ [[r.text]] ∧
          ∀ w, (Embedder.embed next.now [r.text] s.embedder.inner.backend).1 = .ok [w] →
            w.length = s.settings.store.dimension → (s.embed next.now r.text).1 = .ok w) := by
  refine ⟨hasWidth_runAll_iff hwidth rs, ?_⟩
  intro before r after _ hmisfits s
  have htext := text_of_misfits hmisfits
  have hsettings : s.settings = (runAll before v).settings := settings_run r _
  rcases hmisfits.leaves with ⟨hunkept, hnone⟩ | ⟨hkept, w, hlive, hne, hfails⟩
  · have hasks : ∀ next : TextRequest, next.text = r.text → r.now ≤ next.now →
        (next.run s).2.embedder.inner.asked = s.embedder.inner.asked ++ [[r.text]] ∧
          ∀ w, (Embedder.embed next.now [r.text] s.embedder.inner.backend).1 = .ok [w] →
            w.length = s.settings.store.dimension → (s.embed next.now r.text).1 = .ok w := by
      intro next hsame hle
      rw [← hsame] at htext hnone ⊢
      exact run_of_dead htext (hnone next.now hle)
    exact ⟨⟨fun _ => hunkept, fun _ next hsame hle => (hasks next hsame hle).1⟩,
      fun next hsame hle => .inr (hasks next hsame hle)⟩
  · rw [← hsettings] at hne hfails
    refine ⟨⟨?_, fun h => absurd h hkept⟩, ?_⟩
    · intro hasks
      -- the same call at the same instant does not ask
      have hagain := hasks r rfl (Nat.le_refl _)
      rw [(run_of_live htext hlive hne).1, List.self_eq_append_right] at hagain
      cases hagain
    · intro next hsame hle
      rw [← hsame] at htext hlive ⊢
      cases hnext : s.embedder.cache.live? next.now (keyOf next.text) with
      | none => exact .inr (run_of_dead htext hnext)
      | some w' =>
        cases live?_unique hlive hnext
        obtain ⟨hasked, hrun⟩ := run_of_live htext hnext hne
        exact .inl ⟨hasked, hrun.trans hfails.symm⟩

/-- A service whose backend makes vectors of five numbers, though it promises three. -/
def broad : Service Replies (CachedEmbedder (Embedder.Recorder ByteEmbedder)) :=
  ⟨{ ServiceSettings.default with store := { StoreSettings.default with vectorDim := 3 } },
    Pool.ofSettings ⟨[]⟩ { StoreSettings.default with vectorDim := 3 },
    .ofEmbedder ⟨⟨3, 5, .faithful, []⟩, []⟩ 3600000 10000⟩

/-- A turn of a conversation at an instant. -/
def hello (now : Nat) : TextRequest := ⟨.record ⟨0⟩ "acme" "u1" none, now, "hello"⟩

/-- The vector of the first of two turns is kept, and the second, which comes later, is refused for
it without the backend being asked. -/
theorem forgets_iff_hello :
    ¬ (hello 0).Unkept broad ∧
      ¬ ∀ next : TextRequest, next.text = "hello" → 0 ≤ next.now →
        (next.run ((hello 0).run broad).2).2.embedder.inner.asked = [["hello"], ["hello"]] := by
  have hmisfits : (hello 0).Misfits broad := ⟨3, 5, by decide +kernel⟩
  have hwidth : broad.embedder.cache.HasWidth broad.settings.store.dimension := nofun
  have hkept : ¬ (hello 0).Unkept broad := by
    rintro (hoff | ⟨-, e, herror⟩)
    · exact absurd hoff (by decide)
    · cases herror
  have hforgets := (forgets_iff hwidth [hello 0]).2 [] (hello 0) [] rfl hmisfits
  exact ⟨hkept, fun hasks => hkept (hforgets.1.1 hasks)⟩

/-- **A vector of another width is kept**: two turns with the same content fail one after the other,
and only the first asks the backend. -/
theorem not_forgotten_hello :
    ((hello 0).run broad).1 = .error (.embedding (.dimension 3 5)) ∧
      (((hello 0).run broad).2.embedder.cache.entries.map fun e => e.vector.length) = [5] ∧
      Embedder.dimension broad.embedder = 3 ∧
      ((hello 0).run broad).2.embedder.inner.asked = [["hello"]] ∧
      ((hello 5).run ((hello 0).run broad).2).1 = .error (.embedding (.dimension 3 5)) ∧
      ((hello 5).run ((hello 0).run broad).2).2.embedder.inner.asked = [["hello"]] := by
  decide +kernel

end Recorded

end TextRequest

end KnowledgeBase
