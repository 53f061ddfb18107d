import KnowledgeBase.Embedding.Cache

/-!
# Calls that overlap

Several callers may share one embedder with a cache.  A call looks its texts up and asks the backend
in one go, then waits, and keeps what the backend answered in one go.  Other calls may begin and end
while it waits.

## Main definitions

* `Embedder.Request` — what a caller asks for.
* `CachedEmbedder.Session` — an embedder together with the calls that wait and those that are
  answered.
* `CachedEmbedder.Session.Step`, `CachedEmbedder.Session.Reachable` — what may happen next, and all
  that can have happened.
* `Embedder.Serves` — a backend that computes a function.
-/

namespace KnowledgeBase

/-- What a caller asks for: the vectors of a batch, or the vector of a single text. -/
inductive Embedder.Request where
  | many (texts : List String)
  | one (text : String)

namespace Embedder.Request

/-- The texts of a request. -/
def texts : Request → List String
  | many texts => texts
  | one text => [text]

/-- What a request is answered with. -/
def Answer : Request → Type
  | many _ => List Embedding
  | one _ => Embedding

/-- The answer to a request, from the answer to its texts. -/
def answer : (r : Request) → Except EmbeddingError (List Embedding) → Except EmbeddingError r.Answer
  | many _ => id
  | one _ => Embedder.first

/-- The answer to a request when each text has the vector that a function gives it. -/
def expected (f : String → Embedding) : (r : Request) → r.Answer
  | many texts => texts.map f
  | one text => f text

end Embedder.Request

/-- A backend that gives every text of a batch the vector of a function, in order, as long as it is
in a state of a certain kind, in which it stays. -/
structure Embedder.Serves {ε : Type} [Embedder ε] (f : String → Embedding) (good : ε → Prop) :
    Prop where
  answers : ∀ now texts e, good e → (Embedder.embed now texts e).1 = .ok (texts.map f)
  stays : ∀ now texts e, good e → good (Embedder.embed now texts e).2

namespace CachedEmbedder

/-- An embedder with a cache, the last reading of the clock, the calls that wait for the backend,
and the calls that are answered, in the order of their answers. -/
structure Session (ε : Type) where
  embedder : CachedEmbedder ε
  now : Nat
  waiting : List (Embedder.Request × Pending)
  answered : List ((r : Embedder.Request) × Except EmbeddingError r.Answer)

namespace Session

variable {ε : Type}

/-- A session in which nothing has happened yet. -/
def start (inner : ε) (ttl capacity now : Nat) : Session ε :=
  ⟨ofEmbedder inner ttl capacity, now, [], []⟩

/-- Every text that some call is about. -/
def texts (s : Session ε) : List String :=
  s.waiting.flatMap (fun call => call.1.texts) ++ s.answered.flatMap fun call => call.1.texts

/-- The readings of a clock that never goes back, from an instant on. -/
def Readings (now : Nat) (clock : Nat → Nat) : Prop :=
  now ≤ clock 0 ∧ ∀ i, clock i ≤ clock (i + 1)

variable [Embedder ε]

/-- What may happen next. -/
inductive Step : Session ε → Session ε → Prop where
  /-- A call looks its texts up and asks the backend for the others. -/
  | ask {s : Session ε} (r : Embedder.Request) {clock : Nat → Nat} (hclock : Readings s.now clock) :
    Step s ⟨(s.embedder.ask clock r.texts).2, clock r.texts.length,
      s.waiting ++ [(r, (s.embedder.ask clock r.texts).1)], s.answered⟩
  /-- One of the calls that wait keeps what the backend answered and is answered itself. -/
  | receive {c : CachedEmbedder ε} {now : Nat} {before after : List (Embedder.Request × Pending)}
    {answered : List ((r : Embedder.Request) × Except EmbeddingError r.Answer)}
    (r : Embedder.Request) (p : Pending) {clock : Nat → Nat} (hclock : Readings now clock) :
    Step ⟨c, now, before ++ (r, p) :: after, answered⟩
      ⟨(c.receive clock p).2, clock p.texts.length, before ++ after,
        answered ++ [⟨r, r.answer (c.receive clock p).1⟩]⟩
  /-- The expired entries are removed. -/
  | evict {s : Session ε} {now : Nat} (hnow : s.now ≤ now) :
    Step s { s with embedder.cache := s.embedder.cache.evictExpired now, now }

/-- All that can come of a session, whichever calls are made and however they overlap. -/
inductive Reachable (inner : ε) (ttl capacity : Nat) : Session ε → Prop where
  | start (now : Nat) : Reachable inner ttl capacity (.start inner ttl capacity now)
  | step {s s' : Session ε} (h : Reachable inner ttl capacity s) (hstep : Step s s') :
    Reachable inner ttl capacity s'

end Session

end CachedEmbedder

end KnowledgeBase
