import KnowledgeBase.Embedding.Embedder
import KnowledgeBase.Digest

/-!
# The cache of embeddings

Vectors are kept under the digests of their texts for a limited time.  An expired entry is removed
when it is looked up.  When the cache is full, a new entry first drives out the expired ones, and if
there are none the oldest.  A life of zero, or room for none, turns the cache off.

An instant is a number of milliseconds.  A call looks its texts up and keeps the answers of the
backend in two separate steps, so that calls may overlap while they wait for the backend.  Each look
at the clock within a step is a reading of its own; a clock is the sequence of its readings.

## Main definitions

* `EmbeddingCache`, `EmbeddingCache.lookup`, `EmbeddingCache.put` — the entries.
* `EmbeddingCache.lookupAll`, `EmbeddingCache.putAll` — what both halves of a call do to it.
* `CachedEmbedder` — an embedder with a cache in front; `CachedEmbedder.ask` and
  `CachedEmbedder.receive` are the halves of a call.

## Main results

* `EmbeddingCache.fill_ok` — when the backend answers as many vectors as it was asked for, every
  text gets one.
-/

namespace KnowledgeBase

/-- A vector that is kept. -/
structure EmbeddingCache.Entry where
  key : String
  vector : Embedding
  insertedAt : Nat

/-- The vectors that are kept, in the order in which they were put in. -/
structure EmbeddingCache where
  /-- The life of an entry in milliseconds. -/
  ttl : Nat
  capacity : Nat
  entries : List EmbeddingCache.Entry

namespace EmbeddingCache

/-- The key of a text. -/
def keyOf (text : String) : String := Digest.sha256Hex text

/-- A cache without entries. -/
def empty (ttl capacity : Nat) : EmbeddingCache := ⟨ttl, capacity, []⟩

/-- Whether anything is ever kept. -/
def isOn (c : EmbeddingCache) : Bool := 0 < c.ttl && 0 < c.capacity

/-- Whether an entry has outlived its time. -/
def isExpired (c : EmbeddingCache) (now : Nat) (e : Entry) : Bool := c.ttl < now - e.insertedAt

/-- The entry of a key. -/
def find? (c : EmbeddingCache) (key : String) : Option Entry :=
  c.entries.find? fun e => e.key = key

/-- Removes the entry of a key. -/
def erase (key : String) (c : EmbeddingCache) : EmbeddingCache :=
  { c with entries := c.entries.filter fun e => e.key ≠ key }

/-- Removes every expired entry. -/
def evictExpired (now : Nat) (c : EmbeddingCache) : EmbeddingCache :=
  { c with entries := c.entries.filter fun e => !c.isExpired now e }

/-- The entry put in earliest. -/
def oldest? : List Entry → Option Entry
  | [] => none
  | e :: rest =>
    match oldest? rest with
    | none => some e
    | some o => if e.insertedAt ≤ o.insertedAt then some e else some o

/-- Removes the entry put in earliest. -/
def evictOldest (c : EmbeddingCache) : EmbeddingCache :=
  match oldest? c.entries with
  | none => c
  | some e => c.erase e.key

/-- The vector of a key that is still alive.  An expired entry is removed. -/
def lookup (now : Nat) (key : String) (c : EmbeddingCache) : Option Embedding × EmbeddingCache :=
  if !c.isOn then (none, c)
  else
    match c.find? key with
    | none => (none, c)
    | some e => if c.isExpired now e then (none, c.erase key) else (some e.vector, c)

/-- Whether there is no room for another key. -/
def isFull (c : EmbeddingCache) : Bool := c.capacity ≤ c.entries.length

/-- Makes room for a key that is not there. -/
def makeRoom (now : Nat) (c : EmbeddingCache) : EmbeddingCache :=
  let c := c.evictExpired now
  if c.isFull then c.evictOldest else c

/-- Keeps a vector, replacing the one of the same key. -/
def put (now : Nat) (key : String) (vector : Embedding) (c : EmbeddingCache) : EmbeddingCache :=
  if !c.isOn then c
  else
    let c := if c.isFull && (c.find? key).isNone then c.makeRoom now else c
    -- a replaced entry moves to the end, so that the entries stay in the order of their instants
    let c := c.erase key
    { c with entries := c.entries ++ [⟨key, vector, now⟩] }

/-- Looks texts up in order. -/
def lookupAll : (Nat → Nat) → List String → EmbeddingCache →
    List (Option Embedding) × EmbeddingCache
  | _, [], c => ([], c)
  | clock, text :: rest, c =>
    let (found, c) := c.lookup (clock 0) (keyOf text)
    let (others, c) := lookupAll (fun i => clock (i + 1)) rest c
    (found :: others, c)

/-- Keeps the vectors of texts in order. -/
def putAll : (Nat → Nat) → List (String × Embedding) → EmbeddingCache → EmbeddingCache
  | _, [], c => c
  | clock, (text, vector) :: rest, c =>
    putAll (fun i => clock (i + 1)) rest (c.put (clock 0) (keyOf text) vector)

/-- The texts for which nothing was found. -/
def missing : List String → List (Option Embedding) → List String
  | text :: texts, none :: found => text :: missing texts found
  | _ :: texts, some _ :: found => missing texts found
  | _, _ => []

/-- Fills the gaps of what was found with vectors in order. -/
def fill : List (Option Embedding) → List Embedding → Except EmbeddingError (List Embedding)
  | [], _ => .ok []
  | some vector :: found, answers => (fill found answers).map (vector :: ·)
  | none :: found, vector :: answers => (fill found answers).map (vector :: ·)
  | none :: _, [] => .error (.parse "missing embedding")

theorem fill_ok {texts : List String} {found : List (Option Embedding)} {answers : List Embedding}
    (hf : found.length = texts.length) (ha : answers.length = (missing texts found).length) :
    ∃ vectors, fill found answers = .ok vectors ∧ vectors.length = texts.length := by
  induction texts generalizing found answers with
  | nil =>
    cases found with
    | nil => exact ⟨[], rfl, rfl⟩
    | cons x found => simp at hf
  | cons text texts ih =>
    cases found with
    | nil => simp at hf
    | cons x found =>
      have hf' : found.length = texts.length := by simpa using hf
      cases x with
      | some vector =>
        obtain ⟨vectors, hv, hl⟩ := ih hf' ha
        exact ⟨vector :: vectors, by simp [fill, hv, Except.map], by simp [hl]⟩
      | none =>
        cases answers with
        | nil => simp [missing] at ha
        | cons vector answers =>
          have ha' : answers.length = (missing texts found).length := by simpa [missing] using ha
          obtain ⟨vectors, hv, hl⟩ := ih hf' ha'
          exact ⟨vector :: vectors, by simp [fill, hv, Except.map], by simp [hl]⟩

end EmbeddingCache

/-- A call that has looked its texts up. -/
structure CachedEmbedder.Pending where
  texts : List String
  /-- What was found of each text. -/
  found : List (Option Embedding)
  /-- What the backend answers about the others.  It is not asked when there are none. -/
  answer : Option (Except EmbeddingError (List Embedding))

/-- An embedder with a cache in front. -/
structure CachedEmbedder (ε : Type) where
  inner : ε
  cache : EmbeddingCache

namespace CachedEmbedder

variable {ε : Type} [Embedder ε]

/-- An embedder with an empty cache in front. -/
def ofEmbedder (inner : ε) (ttl capacity : Nat) : CachedEmbedder ε := ⟨inner, .empty ttl capacity⟩

/-- What a call answers when the backend has answered: as many vectors as texts, which are kept, or
an error, and then nothing is. -/
def complete (clock : Nat → Nat) (batch : List String) (found : List (Option Embedding))
    (answer : Except EmbeddingError (List Embedding)) (cache : EmbeddingCache) :
    Except EmbeddingError (List Embedding) × EmbeddingCache :=
  match answer with
  | .error e => (.error e, cache)
  | .ok vectors =>
    if vectors.length = batch.length then
      (EmbeddingCache.fill found vectors, cache.putAll clock (batch.zip vectors))
    else
      (.error (.parse ("expected " ++ toString batch.length ++ " embeddings, got "
        ++ toString vectors.length)), cache)

/-- The first half of a call: the texts are looked up, and the backend is asked, at most once, for
those that are not kept. -/
def ask (clock : Nat → Nat) (texts : List String) (c : CachedEmbedder ε) :
    Pending × CachedEmbedder ε :=
  let (found, cache) := c.cache.lookupAll clock texts
  let batch := EmbeddingCache.missing texts found
  if batch.isEmpty then (⟨texts, found, none⟩, ⟨c.inner, cache⟩)
  else
    let (answer, inner) := Embedder.embed (clock texts.length) batch c.inner
    (⟨texts, found, some answer⟩, ⟨inner, cache⟩)

/-- The second half of a call, when the backend has answered. -/
def receive (clock : Nat → Nat) (p : Pending) (c : CachedEmbedder ε) :
    Except EmbeddingError (List Embedding) × CachedEmbedder ε :=
  match p.answer with
  | none => (EmbeddingCache.fill p.found [], c)
  | some answer =>
    let (result, cache) :=
      complete clock (EmbeddingCache.missing p.texts p.found) p.found answer c.cache
    (result, { c with cache })

/-- Embeds texts at an instant. -/
def embed (now : Nat) (texts : List String) (c : CachedEmbedder ε) :
    Except EmbeddingError (List Embedding) × CachedEmbedder ε :=
  let (pending, c) := c.ask (fun _ => now) texts
  c.receive (fun _ => now) pending

instance : Embedder (CachedEmbedder ε) where
  dimension c := Embedder.dimension c.inner
  embed := embed

end CachedEmbedder

end KnowledgeBase
