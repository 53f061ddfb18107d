import KnowledgeBase.Embedding.Error
import KnowledgeBase.Number.Double

/-!
# Embedders

An embedder turns texts into vectors.  It is a state machine, since it may keep a cache or a record
of what it was asked.

## Main definitions

* `Embedder` — the interface; `Embedder.embedOne` embeds a single text.
* `ByteEmbedder` — an embedder that needs no model, for trying things out.
-/

namespace KnowledgeBase

/-- The vector of a text. -/
abbrev Embedding := List Float32

/-- What turns texts into vectors. -/
class Embedder (ε : Type) where
  /-- The length of the vectors that are promised. -/
  dimension : ε → Nat
  /-- Embeds texts, in order, at an instant in milliseconds. -/
  embed : Nat → List String → ε → Except EmbeddingError (List Embedding) × ε

/-- The vector of a single text, from the answer to a batch of it alone. -/
def Embedder.first (result : Except EmbeddingError (List Embedding)) :
    Except EmbeddingError Embedding :=
  result.bind fun vectors =>
    vectors.head?.elim (.error (.parse "Empty embedding response")) Except.ok

/-- Embeds a single text at an instant. -/
def Embedder.embedOne {ε : Type} [Embedder ε] (now : Nat) (text : String) (e : ε) :
    Except EmbeddingError Embedding × ε :=
  let (result, e) := Embedder.embed now [text] e
  (Embedder.first result, e)

/-- How a byte embedder answers. -/
inductive ByteEmbedder.Mode where
  /-- One vector for each text. -/
  | faithful
  /-- An error of the backend. -/
  | failing
  /-- An answer that cannot be understood. -/
  | garbled
  /-- One vector too few. -/
  | short
  /-- One vector too many, of zeros. -/
  | long
  /-- No vector. -/
  | silent
deriving DecidableEq

/-- An embedder of plain rules: the vector of a text begins with its length in bytes, followed by
its bytes from the second on.  It records what it is asked. -/
structure ByteEmbedder where
  dimension : Nat
  /-- The length of the vectors that are made. -/
  width : Nat
  mode : ByteEmbedder.Mode
  /-- The batches asked for, oldest first. -/
  asked : List (List String)

namespace ByteEmbedder

/-- The vector of a text. -/
def vector (width : Nat) (text : String) : Embedding :=
  let bytes := text.toUTF8.data.toList
  (List.range width).map fun i =>
    Single.ofInt (if i = 0 then bytes.length else (bytes.getD i 0).toNat)

/-- The answer to a batch. -/
def answer (e : ByteEmbedder) (texts : List String) : Except EmbeddingError (List Embedding) :=
  let vectors := texts.map (vector e.width)
  match e.mode with
  | .faithful => .ok vectors
  | .failing => .error (.backend "backend down")
  | .garbled => .error (.parse "bad payload")
  | .short => .ok vectors.dropLast
  | .long => .ok (vectors ++ [List.replicate e.width 0])
  | .silent => .ok []

instance : Embedder ByteEmbedder where
  dimension := ByteEmbedder.dimension
  embed _ texts e := (e.answer texts, { e with asked := e.asked ++ [texts] })

end ByteEmbedder

end KnowledgeBase
