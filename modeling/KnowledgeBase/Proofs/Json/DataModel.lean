import KnowledgeBase.Proofs.Json.Lawful
import KnowledgeBase.Search.Request
import KnowledgeBase.Settings.Service
import KnowledgeBase.Graph.Edge
import KnowledgeBase.News.Item
import KnowledgeBase.Catalog.Entry
import KnowledgeBase.Memory.Episode
import KnowledgeBase.Trace.Record

/-!
# The data model in JSON

Every record and enumeration of the data model is read back from the document that it is written as,
provided that its numbers are finite and its instants plain.

## Main definitions

* `DataType`, `DataType.type` — the types of the data model, each with a lawful codec.

## Main results

* `DataType.decode_encode_value` — their values are read back.
-/

namespace KnowledgeBase

open Json

/-! ### Enumerations -/

instance : LawfulCodec NodeKind where
  Portable _ := True
  decode_encode {k} _ := by cases k <;> rfl

instance : Total NodeKind := ⟨fun _ => trivial⟩

instance : LawfulCodec Catalog.Domain where
  Portable _ := True
  decode_encode {d} _ := by cases d <;> rfl

instance : Total Catalog.Domain := ⟨fun _ => trivial⟩

instance : LawfulCodec FusionMode where
  Portable _ := True
  decode_encode {m} _ := by cases m <;> rfl

instance : Total FusionMode := ⟨fun _ => trivial⟩

@[simp] theorem FusionMode.readConstant_strict :
    readConstant .strict ofName? = decode := rfl

/-! ### The graph -/

instance : LawfulCodec Node where
  Portable n := Portable n.embedding ∧ Portable n.createdAt
  decode_encode h := by
    apply readRecord_obj
    simp [h]

instance : LawfulCodec Edge where
  Portable e := Portable e.weight
  decode_encode h := by
    apply readRecord_obj
    simp [h]

instance : LawfulCodec ReachedEdge where
  Portable e := Portable e.edge
  decode_encode h := by
    apply readRecord_obj
    simp [h]

instance : LawfulCodec Walk where
  Portable _ := True
  decode_encode _ := by
    apply readRecord_obj
    simp

instance : LawfulCodec Neighbourhood where
  Portable g := Portable g.nodes ∧ Portable g.edges
  decode_encode h := by
    apply readRecord_obj
    simp [h]

instance : LawfulCodec Triple where
  Portable _ := True
  decode_encode _ := by
    apply readRecord_obj
    simp

instance : LawfulCodec Alias where
  Portable _ := True
  decode_encode _ := by
    apply readRecord_obj
    simp

/-! ### The archive and the catalog -/

instance : LawfulCodec News.RawItem where
  Portable _ := True
  decode_encode _ := by
    apply readRecord_obj
    simp

instance : LawfulCodec News.Fact where
  Portable f := Portable f.significance ∧ Portable f.embedding ∧ Portable f.createdAt
  decode_encode h := by
    apply readRecord_obj
    simp [h]

instance : LawfulCodec News.ScoredFact where
  Portable f := Portable f.score
  decode_encode h := by
    apply readRecord_obj
    simp [h]

instance : LawfulCodec News.Post where
  Portable p := Portable p.embedding ∧ Portable p.scheduledAt
  decode_encode h := by
    apply readRecord_obj
    simp [h]

instance : LawfulCodec News.ScoredPost where
  Portable p := Portable p.score
  decode_encode h := by
    apply readRecord_obj
    simp [h]

instance : LawfulCodec Catalog.Entry where
  Portable e := Portable e.embedding ∧ Portable e.updatedAt
  decode_encode h := by
    apply readRecord_obj
    simp [h]

/-! ### Memory and traces -/

instance : LawfulCodec Episode where
  Portable e := Portable e.createdAt
  decode_encode h := by
    apply readRecord_obj
    simp [h]

instance : LawfulCodec Episode.Draft where
  Portable e := Portable e.embedding
  decode_encode h := by
    apply readRecord_obj
    simp [h]

instance : LawfulCodec Episode.Stats where
  Portable s := Portable s.oldest ∧ Portable s.newest
  decode_encode h := by
    apply readRecord_obj
    simp [h]

instance : LawfulCodec Belief where
  Portable b := Portable b.confidence ∧ Portable b.updatedAt
  decode_encode h := by
    apply readRecord_obj
    simp [h]

instance : LawfulCodec Trace where
  Portable t := Portable t.createdAt
  decode_encode h := by
    apply readRecord_obj
    simp [h]

instance : LawfulCodec Trace.Draft where
  Portable _ := True
  decode_encode _ := by
    apply readRecord_obj
    simp

instance : LawfulCodec Trace.Query where
  Portable q := Portable q.since
  decode_encode h := by
    apply readRecord_obj
    simp [h]

/-! ### Settings and searches -/

instance : LawfulCodec (FusionParams Float) where
  Portable p := Portable p.vectorWeight ∧ Portable p.textWeight
  decode_encode h := by
    apply readRecord_obj
    simp [h]

@[simp] theorem SearchSettings.read_strict : read .strict = decode := rfl

instance : LawfulCodec SearchSettings where
  Portable s := Portable s.vectorWeight ∧ Portable s.textWeight
  decode_encode h := by
    change SearchSettings.read .strict (.obj _) = _
    unfold SearchSettings.read
    apply readRecord_obj
    simp [h]

@[simp] theorem GraphSettings.read_strict : read .strict = decode := rfl

instance : LawfulCodec GraphSettings where
  Portable _ := True
  decode_encode _ := by
    change GraphSettings.read .strict (.obj _) = _
    unfold GraphSettings.read
    apply readRecord_obj
    simp

instance : Total GraphSettings := ⟨fun _ => trivial⟩

@[simp] theorem StoreSettings.read_strict : read .strict = decode := rfl

instance : LawfulCodec StoreSettings where
  Portable s := Portable s.search
  decode_encode h := by
    change StoreSettings.read .strict (.obj _) = _
    unfold StoreSettings.read
    apply readRecord_obj
    simp [h]

@[simp] theorem CacheSettings.read_strict : read .strict = decode := rfl

instance : LawfulCodec CacheSettings where
  Portable _ := True
  decode_encode _ := by
    change CacheSettings.read .strict (.obj _) = _
    unfold CacheSettings.read
    apply readRecord_obj
    simp

instance : Total CacheSettings := ⟨fun _ => trivial⟩

instance : LawfulCodec ServiceSettings where
  Portable s := Portable s.store
  decode_encode h := by
    change ServiceSettings.read .strict (.obj _) = _
    unfold ServiceSettings.read
    apply readRecord_obj
    simp [h]

instance : LawfulCodec Scope where
  Portable _ := True
  decode_encode _ := by
    apply readRecord_obj
    simp

instance : Total Scope := ⟨fun _ => trivial⟩

instance : LawfulCodec Search.Request where
  Portable r := Portable r.vector ∧ Portable r.params
  decode_encode h := by
    apply readRecord_obj
    simp [h]

instance : LawfulCodec Search.Result where
  Portable r := Portable r.node ∧ Portable r.score ∧ Portable r.vectorScore ∧ Portable r.textScore
  decode_encode h := by
    apply readRecord_obj
    simp [h]

/-! ### All types -/

/-- The types of the data model. -/
inductive DataType where
  | nodeKind | node | edge | reachedEdge | walk | neighbourhood | triple | otherName | labelPath
  | rawItem | fact | scoredFact | post | scoredPost | catalogDomain | catalogEntry | episode
  | episodeDraft | episodeStats | belief | trace | traceDraft | traceQuery | fusionMode
  | fusionParams | searchSettings | graphSettings | storeSettings | cacheSettings
  | serviceSettings | scope | searchRequest | searchResult

/-- A type with a lawful codec. -/
structure LawfulType where
  Value : Type
  [codec : Codec Value]
  [lawful : LawfulCodec Value]

namespace DataType

/-- The type itself, with its codec. -/
def type : DataType → LawfulType
  | .nodeKind => ⟨NodeKind⟩
  | .node => ⟨Node⟩
  | .edge => ⟨Edge⟩
  | .reachedEdge => ⟨ReachedEdge⟩
  | .walk => ⟨Walk⟩
  | .neighbourhood => ⟨Neighbourhood⟩
  | .triple => ⟨Triple⟩
  | .otherName => ⟨Alias⟩
  | .labelPath => ⟨LabelPath⟩
  | .rawItem => ⟨News.RawItem⟩
  | .fact => ⟨News.Fact⟩
  | .scoredFact => ⟨News.ScoredFact⟩
  | .post => ⟨News.Post⟩
  | .scoredPost => ⟨News.ScoredPost⟩
  | .catalogDomain => ⟨Catalog.Domain⟩
  | .catalogEntry => ⟨Catalog.Entry⟩
  | .episode => ⟨Episode⟩
  | .episodeDraft => ⟨Episode.Draft⟩
  | .episodeStats => ⟨Episode.Stats⟩
  | .belief => ⟨Belief⟩
  | .trace => ⟨Trace⟩
  | .traceDraft => ⟨Trace.Draft⟩
  | .traceQuery => ⟨Trace.Query⟩
  | .fusionMode => ⟨FusionMode⟩
  | .fusionParams => ⟨FusionParams Float⟩
  | .searchSettings => ⟨SearchSettings⟩
  | .graphSettings => ⟨GraphSettings⟩
  | .storeSettings => ⟨StoreSettings⟩
  | .cacheSettings => ⟨CacheSettings⟩
  | .serviceSettings => ⟨ServiceSettings⟩
  | .scope => ⟨Scope⟩
  | .searchRequest => ⟨Search.Request⟩
  | .searchResult => ⟨Search.Result⟩

/-- The values of a type. -/
abbrev Value (t : DataType) : Type := t.type.Value

instance (t : DataType) : Codec t.Value := t.type.codec

instance (t : DataType) : LawfulCodec t.Value := t.type.lawful

/-- **Every portable value of the data model is read back** from the document that it is written
as. -/
theorem decode_encode_value (t : DataType) (v : t.Value) (h : Portable v) :
    decode (encode v) = .ok v :=
  decode_encode h

/-- A belief of the last second of a leap day, with a nested document for its value. -/
def leapDayBelief : Value .belief :=
  (⟨"acme", "ann", "pets", .obj [("cats", .arr [.int 2, .null])], Double.ofMagnitude false 1,
    some .nil, ⟨951868799, 999999999⟩⟩ : Belief)

theorem decode_encode_leapDayBelief :
    Portable leapDayBelief ∧ decode (encode leapDayBelief) = .ok leapDayBelief := by
  have hconfidence : Double.isFinite (Double.ofMagnitude false 1) := by
    rw [Double.isFinite, Double.magnitude_ofMagnitude (by decide)]
    decide
  have hinstant : Timestamp.Plain ⟨951868799, 999999999⟩ := by decide
  have h : Portable leapDayBelief := ⟨hconfidence, hinstant⟩
  exact ⟨h, decode_encode_value .belief leapDayBelief h⟩

end DataType

end KnowledgeBase
