import KnowledgeBase.LabelPath
import KnowledgeBase.Digest
import KnowledgeBase.Text.Boundary

/-!
# Nodes of the knowledge graph

A node is a chunk of ingested content or an extracted concept, owned by a tenant and perhaps by one
of its users.

## Main definitions

* `NodeKind`, `Node` — the data; `Node.ofContent` — a node with the required fields only.
* `Node.preview` — content cut to a number of characters; `Node.previewEnd` — the byte where it is
  cut.
* `Node.validate` — the checks before a node is written.

## Main results

* `Node.isBoundary_previewEnd` — content is cut where a character begins.
* `Node.preview_eq` — a preview is the first characters of the content.
* `Node.preview_preview` — cutting twice is cutting once, to the smaller number.
-/

namespace KnowledgeBase

/-- What a node holds. -/
inductive NodeKind where
  /-- A retrievable piece of ingested content. -/
  | chunk
  /-- An extracted concept or entity. -/
  | concept
deriving DecidableEq

namespace NodeKind

/-- The written form, also in the database. -/
def name : NodeKind → String
  | chunk => "chunk"
  | concept => "concept"

/-- The kind of exactly this name. -/
def ofName? (s : String) : Option NodeKind :=
  if s = "chunk" then some .chunk else if s = "concept" then some .concept else none

/-- The kind of a stored name. -/
def parse (s : String) : Except StoreError NodeKind :=
  (ofName? s).elim (.error (.serialization ("unknown node kind '" ++ s ++ "'"))) .ok

@[simp] theorem parse_name (k : NodeKind) : parse k.name = .ok k := by
  cases k <;> rfl

end NodeKind

instance NodeKind.codec : Codec NodeKind where
  encode k := .str k.name
  decode := Json.readConstant .strict NodeKind.ofName?

/-- A unit of knowledge. -/
structure Node where
  /-- Stable; writes are keyed on it. -/
  id : String
  /-- The owning tenant, which on a write has to be that of the call. -/
  tenant : Option String
  /-- The owner within the tenant. -/
  user : Option String
  kind : NodeKind
  sourceType : Option String
  sourceId : Option String
  title : Option String
  content : String
  metadata : Metadata
  /-- Lexical terms indexed beside the content. -/
  keywords : Option String
  contentHash : Option String
  path : Option LabelPath
  /-- Written only; reads leave it out. -/
  embedding : Option (List Float32)
  /-- Set by the database; ignored on a write. -/
  createdAt : Option Timestamp

namespace Node

/-- A node with the required fields only. -/
def ofContent (id : String) (kind : NodeKind) (content : String) : Node :=
  ⟨id, none, none, kind, none, none, none, content, .empty, none, none, none, none, none⟩

/-- Fills the content hash with the digest of the content. -/
def withContentHash (n : Node) : Node := { n with contentHash := some (Digest.sha256Hex n.content) }

/-- The names of the fields in order. -/
def fieldNames : List String :=
  ["id", "tenant_id", "user_id", "kind", "source_type", "source_id", "title", "content", "metadata",
    "keywords_text", "content_hash", "taxonomy_path", "embedding", "created_at"]

instance codec : Codec Node where
  encode n := .obj [("id", encode n.id), ("tenant_id", encode n.tenant), ("user_id", encode n.user),
    ("kind", encode n.kind), ("source_type", encode n.sourceType),
    ("source_id", encode n.sourceId), ("title", encode n.title), ("content", encode n.content),
    ("metadata", encode n.metadata), ("keywords_text", encode n.keywords),
    ("content_hash", encode n.contentHash), ("taxonomy_path", encode n.path),
    ("embedding", encode n.embedding), ("created_at", encode n.createdAt)]
  decode := Json.readRecord .strict fieldNames fun r =>
    Node.mk <$> r.required "id" decode <*> r.optional "tenant_id" decode
      <*> r.optional "user_id" decode <*> r.required "kind" decode
      <*> r.optional "source_type" decode <*> r.optional "source_id" decode
      <*> r.optional "title" decode <*> r.required "content" decode
      <*> r.required "metadata" decode <*> r.optional "keywords_text" decode
      <*> r.optional "content_hash" decode <*> r.optional "taxonomy_path" decode
      <*> r.optional "embedding" decode <*> r.optional "created_at" decode

/-- The number of bytes before the first character that is left out of a preview, if there is
one. -/
def previewEnd (content : String) (limit : Nat) : Option Nat :=
  (Text.charOffsets content)[limit]?.map Prod.fst

theorem previewEnd_eq (content : String) (limit : Nat) :
    previewEnd content limit = content.toList[limit]?.map fun _ =>
      (String.ofList (content.toList.take limit)).utf8ByteSize := by
  rw [previewEnd, Text.getElem?_charOffsets, Option.map_map]
  rfl

/-- A preview ends where a character begins. -/
theorem isBoundary_previewEnd {content : String} {limit n : Nat}
    (h : previewEnd content limit = some n) : Text.IsBoundary content n := by
  rw [previewEnd_eq] at h
  obtain ⟨_, -, rfl⟩ := Option.map_eq_some_iff.1 h
  exact Text.isBoundary_of_append (Text.ofList_take_append_drop content limit)

/-- Content cut to at most `limit` characters. -/
def preview (content : String) (limit : Nat) : String :=
  match h : previewEnd content limit with
  | some n => Text.firstBytes content n (isBoundary_previewEnd h)
  | none => content

theorem preview_of_previewEnd {content : String} {limit n : Nat}
    (h : previewEnd content limit = some n) :
    preview content limit = Text.firstBytes content n (isBoundary_previewEnd h) := by
  rw [preview]
  split
  next n' h' =>
    cases h.symm.trans h'
    rfl
  next h' => cases h.symm.trans h'

/-- Content without a character to be left out is kept whole. -/
theorem preview_of_previewEnd_none {content : String} {limit : Nat}
    (h : previewEnd content limit = none) : preview content limit = content := by
  rw [preview]
  split
  next n h' => cases h.symm.trans h'
  next => rfl

/-- A preview is the first characters of the content. -/
theorem preview_eq (content : String) (limit : Nat) :
    preview content limit = String.ofList (content.toList.take limit) := by
  cases h : previewEnd content limit with
  | some n =>
    rw [preview_of_previewEnd h]
    rw [previewEnd_eq] at h
    obtain ⟨_, -, rfl⟩ := Option.map_eq_some_iff.1 h
    exact Text.firstBytes_of_append (Text.ofList_take_append_drop content limit) _
  | none =>
    rw [preview_of_previewEnd_none h]
    rw [previewEnd_eq, Option.map_eq_none_iff, List.getElem?_eq_none_iff] at h
    rw [List.take_of_length_le h, String.ofList_toList]

@[simp] theorem toList_preview (content : String) (limit : Nat) :
    (preview content limit).toList = content.toList.take limit := by
  rw [preview_eq, String.toList_ofList]

theorem preview_preview (content : String) (m n : Nat) :
    preview (preview content m) n = preview content (min m n) := by
  simp [preview_eq, List.take_take, Nat.min_comm]

/-- The checks before a node is written for a tenant: id and content are there, the node is not
another tenant's, its source type is known and its embedding has the dimension of the deployment. -/
def validate (dimension : Nat) (tenant : String) (n : Node) : Except StoreError Unit := do
  requireText "node id" n.id
  requireText "node content" n.content
  match n.tenant with
  | some owner =>
    if owner ≠ tenant then throw (Refusal.foreignNode n.id owner tenant).toError
  | none => pure ()
  match n.sourceType with
  | some name =>
    if !sourceTypes.contains name then throw (Refusal.unknownSource name).toError
  | none => pure ()
  requireEmbedding "node embedding" n.embedding dimension

end Node

end KnowledgeBase
