import KnowledgeBase.LabelPath

/-!
# The catalog of a shop

Catalog entries are unique for a tenant, a domain and a path.  A domain is spelled in the singular
or in the plural; entries are written in the singular.

## Main definitions

* `Catalog.Domain`, with both spellings; `Catalog.Domain.parse` reads either.
* `Catalog.Entry` — a catalog node.

## Main results

* `Catalog.Domain.parse_singular`, `Catalog.Domain.parse_plural` — both spellings are read.
-/

namespace KnowledgeBase.Catalog

/-- What a catalog entry classifies. -/
inductive Domain where
  | category
  | color
  | size
  | gender
deriving DecidableEq

namespace Domain

/-- The written form. -/
def singular : Domain → String
  | category => "category"
  | color => "color"
  | size => "size"
  | gender => "gender"

/-- The other spelling that may be stored. -/
def plural : Domain → String
  | category => "categories"
  | color => "colors"
  | size => "sizes"
  | gender => "genders"

/-- Every domain. -/
def all : List Domain := [category, color, size, gender]

/-- Every spelling that may be stored. -/
def spellings : List String := all.flatMap fun d => [d.singular, d.plural]

/-- The domain of exactly this singular. -/
def ofSingular? (s : String) : Option Domain := all.find? fun d => d.singular = s

/-- The domain of a spelling in any case, with white space around it or not. -/
def parse (s : String) : Except Refusal Domain :=
  let s := Text.lower (Text.trim s)
  (all.find? fun d => d.singular = s || d.plural = s).elim (.error (.unknownDomain s)) .ok

theorem parse_eq_ok {s : String} {d : Domain} (hspelled : Text.lower (Text.trim s) = s)
    (hfound : (all.find? fun e => e.singular = s || e.plural = s) = some d) : parse s = .ok d := by
  rw [parse, hspelled]
  simp only [hfound, Option.elim_some]

@[simp] theorem parse_singular (d : Domain) : parse d.singular = .ok d := by
  cases d <;> exact parse_eq_ok (by decide +kernel) (by decide)

@[simp] theorem parse_plural (d : Domain) : parse d.plural = .ok d := by
  cases d <;> exact parse_eq_ok (by decide +kernel) (by decide)

end Domain

instance Domain.codec : Codec Domain where
  encode d := .str d.singular
  decode := Json.readConstant .strict Domain.ofSingular?

/-- A catalog node. -/
structure Entry where
  tenant : String
  domain : Domain
  name : String
  path : LabelPath
  keywords : List String
  embedding : Option (List Float32)
  metadata : Metadata
  /-- Set by the database; ignored on a write. -/
  updatedAt : Option Timestamp

/-- An entry with the required fields only. -/
def Entry.named (tenant : String) (domain : Domain) (name : String) (path : LabelPath) : Entry :=
  ⟨tenant, domain, name, path, [], none, .empty, none⟩

instance Entry.codec : Codec Entry where
  encode e := .obj [("tenant_id", encode e.tenant), ("domain", encode e.domain),
    ("name", encode e.name), ("path", encode e.path), ("keywords", encode e.keywords),
    ("embedding", encode e.embedding), ("metadata", encode e.metadata),
    ("updated_at", encode e.updatedAt)]
  decode := Json.readRecord .strict
      ["tenant_id", "domain", "name", "path", "keywords", "embedding", "metadata", "updated_at"]
      fun r =>
    Entry.mk <$> r.required "tenant_id" decode <*> r.required "domain" decode
      <*> r.required "name" decode <*> r.required "path" decode <*> r.required "keywords" decode
      <*> r.optional "embedding" decode <*> r.required "metadata" decode
      <*> r.optional "updated_at" decode

end KnowledgeBase.Catalog
