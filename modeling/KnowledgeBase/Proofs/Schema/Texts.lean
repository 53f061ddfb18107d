import KnowledgeBase.Proofs.Schema.Plan

/-!
# Telling statements of the schema apart

The statements of a plan are told apart by the words that they open with.  Some texts depend on the
name of the schema or on the dimension of embeddings, but the words that tell them apart do not, so
that it is enough to compare fixed lists of openings.

## Main definitions

* `Schema.Opens`, `Schema.Clash` — a text opens with some words; two openings may belong to one
  text.
* `Schema.frameOpenings`, `Schema.changeOpenings` — the openings of the statements outside
  migrations, and of those of each migration.
* `Schema.IsFrame`, `Schema.IsChange` — a statement outside migrations, or of a migration.

## Main results

* `Schema.clash_of_opens` — openings of one text clash.
* `Schema.isFrame_of_mem_groundwork`, `Schema.isFrame_policies` — the statements outside migrations.
* `Schema.IsChange.not_isFrame`, `Schema.IsChange.version_unique` — a statement of a migration is
  neither one of these nor one of another migration.
-/

namespace KnowledgeBase.Schema

open Sql

/-- The bytes of a text. -/
def bytes (text : String) : List UInt8 := text.toUTF8.data.toList

theorem bytes_append (text text' : String) : bytes (text ++ text') = bytes text ++ bytes text' := by
  simp [bytes]

/-- A text opens with some words. -/
def Opens (words sql : String) : Prop := bytes words <+: bytes sql

instance (words sql : String) : Decidable (Opens words sql) :=
  inferInstanceAs (Decidable (bytes words <+: bytes sql))

namespace Opens

theorem refl (sql : String) : Opens sql sql := List.prefix_rfl

theorem append_right (words rest : String) : Opens words (words ++ rest) := by
  rw [Opens, bytes_append]
  exact List.prefix_append _ _

theorem append {words sql : String} (h : Opens words sql) (rest : String) :
    Opens words (sql ++ rest) :=
  h.trans (append_right sql rest)

end Opens

/-- One of two openings is the beginning of the other. -/
def Clash (words words' : String) : Prop := Opens words words' ∨ Opens words' words

instance (words words' : String) : Decidable (Clash words words') :=
  inferInstanceAs (Decidable (_ ∨ _))

/-- Openings of one text clash. -/
theorem clash_of_opens {words words' sql : String} (h : Opens words sql) (h' : Opens words' sql) :
    Clash words words' :=
  List.prefix_or_prefix_of_prefix h h'

/-! ### Tables and indexes -/

/-- The statements that create tables, and some others. -/
inductive Creates (others : List String) : String → Prop where
  | table (t : Table) : Creates others t.create
  | index {sql : String} (h : sql ∈ others) : Creates others sql

theorem Creates.mono {others others' : List String} (h : others ⊆ others') {sql : String}
    (hsql : Creates others sql) : Creates others' sql := by
  cases hsql with
  | table t => exact .table t
  | index hindex => exact .index (h hindex)

/-- A similarity index, if there is one, does not depend on the dimension. -/
theorem embeddingIndex_subset (c : EmbeddingColumn) (dim : Nat) :
    (embeddingIndex c dim).toList ⊆ (embeddingIndex c 0).toList := by
  unfold embeddingIndex
  split
  · exact List.Subset.refl _
  · exact List.nil_subset _

theorem creates_core (dim : Nat) : ∀ sql ∈ coreLayout dim, Creates (coreLayout 0) sql := by
  have hnodes := embeddingIndex_subset (embeddingOf "knowledge_nodes") dim
  have hepisodes := embeddingIndex_subset (embeddingOf "episodic_events") dim
  simp only [coreLayout, List.forall_mem_append, List.forall_mem_cons]
  refine ⟨⟨?_, fun sql h => .index ?_⟩, fun sql h => .index ?_⟩
  · and_intros
    all_goals first
      | with_reducible exact .table _
      | exact .index (by simp only [List.mem_append, List.mem_cons, true_or, or_true])
      | exact nofun
  · exact List.mem_append_left _ (List.mem_append_right _ (hnodes h))
  · exact List.mem_append_right _ (hepisodes h)

theorem creates_commerce (dim : Nat) :
    ∀ sql ∈ commerceLayout dim, Creates (commerceLayout 0) sql := by
  simp only [commerceLayout, List.forall_mem_cons]
  and_intros
  all_goals first
    | with_reducible exact .table _
    | exact .index (by simp only [List.mem_cons, true_or, or_true])
    | exact nofun

theorem creates_news (dim : Nat) : ∀ sql ∈ newsLayout dim, Creates (newsLayout 0) sql := by
  have hfacts := embeddingIndex_subset (embeddingOf "news_facts") dim
  have hposts := embeddingIndex_subset (embeddingOf "news_posts") dim
  simp only [newsLayout, List.forall_mem_append, List.forall_mem_cons]
  refine ⟨⟨?_, fun sql h => .index ?_⟩, fun sql h => .index ?_⟩
  · and_intros
    all_goals first
      | with_reducible exact .table _
      | exact .index (by simp only [List.mem_append, List.mem_cons, true_or, or_true])
      | exact nofun
  · exact List.mem_append_left _ (List.mem_append_right _ (hfacts h))
  · exact List.mem_append_right _ (hposts h)

/-- Only the tables depend on the dimension. -/
theorem creates_layout (dim : Nat) (m : Modules) :
    ∀ sql ∈ layout dim m, Creates (layout 0 ⟨true, true⟩) sql := by
  have hcore : coreLayout 0 ⊆ layout 0 ⟨true, true⟩ := by simp [layout]
  have hcommerce : commerceLayout 0 ⊆ layout 0 ⟨true, true⟩ := by simp [layout]
  have hnews : newsLayout 0 ⊆ layout 0 ⟨true, true⟩ := by simp [layout]
  obtain ⟨commerce, news⟩ := m
  simp only [layout, List.forall_mem_append]
  refine ⟨⟨fun sql h => (creates_core dim sql h).mono hcore, ?_⟩, ?_⟩
  · cases commerce with
    | true => exact fun sql h => (creates_commerce dim sql h).mono hcommerce
    | false => exact nofun
  · cases news with
    | true => exact fun sql h => (creates_news dim sql h).mono hnews
    | false => exact nofun

/-! ### Statements outside migrations -/

/-- The openings of the statements outside migrations.  Those that depend on nothing are listed in
full. -/
def frameOpenings : List String :=
  ["CREATE SCHEMA IF NOT EXISTS ", "SET search_path TO ", "CREATE TABLE IF NOT EXISTS ",
    createRoles, "GRANT USAGE ON SCHEMA ", "ALTER TABLE IF EXISTS ", "DROP POLICY IF EXISTS ",
    "CREATE POLICY ", "GRANT SELECT, INSERT, UPDATE, DELETE ON ", "GRANT ALL ON "]
    ++ extensions ++ layout 0 ⟨true, true⟩

/-- A text of a statement outside migrations. -/
def IsFrame (sql : String) : Prop := ∃ words ∈ frameOpenings, Opens words sql

theorem isFrame_of_opens {words sql : String} (h : Opens words sql)
    (hwords : words ∈ frameOpenings.take 10) : IsFrame sql :=
  ⟨words, List.mem_of_mem_take hwords, h⟩

theorem isFrame_createSchema (schema : String) : IsFrame (createSchema schema) :=
  isFrame_of_opens (.append_right _ _) (by simp [frameOpenings])

theorem isFrame_searchPath (schema : String) : IsFrame (searchPath schema) :=
  isFrame_of_opens ((Opens.append_right _ _).append _) (by simp [frameOpenings])

theorem isFrame_create (t : Table) : IsFrame t.create :=
  isFrame_of_opens ((((Opens.append_right _ _).append _).append _).append _)
    (by simp [frameOpenings])

theorem isFrame_extensions : ∀ sql ∈ extensions, IsFrame sql := fun sql h =>
  ⟨sql, List.mem_append_left _ (List.mem_append_right _ h), .refl sql⟩

theorem isFrame_layout (dim : Nat) (m : Modules) : ∀ sql ∈ layout dim m, IsFrame sql := by
  intro sql h
  cases creates_layout dim m sql h with
  | table t => exact isFrame_create t
  | index h => exact ⟨sql, List.mem_append_right _ h, .refl sql⟩

theorem isFrame_tablePolicies (table : String) : ∀ sql ∈ tablePolicies table, IsFrame sql := by
  simp only [tablePolicies, List.forall_mem_cons]
  refine ⟨?_, ?_, ?_, ?_, ?_, ?_, nofun⟩
  · exact isFrame_of_opens ((Opens.append_right _ _).append _) (by simp [frameOpenings])
  · exact isFrame_of_opens ((Opens.append_right _ _).append _) (by simp [frameOpenings])
  · exact isFrame_of_opens (((Opens.append_right _ _).append _).append _) (by simp [frameOpenings])
  · exact isFrame_of_opens ((((((((Opens.append_right _ _).append _).append _).append _).append
      _).append _).append _).append _) (by simp [frameOpenings])
  · exact isFrame_of_opens ((Opens.append_right _ _).append _) (by simp [frameOpenings])
  · exact isFrame_of_opens ((Opens.append_right _ _).append _) (by simp [frameOpenings])

theorem isFrame_policies (schema : String) (tables : List String) :
    ∀ sql ∈ policies schema tables, IsFrame sql := by
  simp only [policies, List.forall_mem_append, List.forall_mem_cons]
  refine ⟨⟨?_, ?_, nofun⟩, ?_⟩
  · exact isFrame_of_opens (.refl _) (by simp [frameOpenings])
  · exact isFrame_of_opens ((Opens.append_right _ _).append _) (by simp [frameOpenings])
  · intro sql h
    obtain ⟨table, -, hsql⟩ := List.mem_flatMap.1 h
    exact isFrame_tablePolicies table sql hsql

/-! ### Statements of migrations -/

/-- The openings of the statements of migrations, each with its version.  The dimension matters to
one of them only, which is listed without its end. -/
def changeOpenings : List (Int32 × String) :=
  (5, "ALTER TABLE catalog_taxonomy ADD COLUMN IF NOT EXISTS embedding ")
    :: Migration.all.flatMap fun x => (x.statements 0).map fun sql => (x.version, sql)

/-- A text of a statement of the migration of a version. -/
def IsChange (version : Int32) (sql : String) : Prop :=
  ∃ words, (version, words) ∈ changeOpenings ∧ Opens words sql

/-- The dimension matters to one statement only. -/
theorem opens_or_mem_statements : ∀ x ∈ Migration.all, ∀ dim, ∀ sql ∈ x.statements dim,
    (x.version = 5 ∧ Opens "ALTER TABLE catalog_taxonomy ADD COLUMN IF NOT EXISTS embedding " sql) ∨
      sql ∈ x.statements 0 := by
  intro x hx dim sql h
  simp only [Migration.all, List.mem_cons, List.not_mem_nil, or_false] at hx
  rcases hx with rfl | rfl | rfl | rfl | rfl | rfl | rfl | rfl | rfl | rfl
  case inr.inr.inr.inr.inl =>
    rcases List.mem_cons.1 h with rfl | h
    · exact .inl ⟨rfl, (Opens.append_right _ _).append _⟩
    · exact .inr (List.mem_cons_of_mem _ (embeddingIndex_subset _ dim h))
  all_goals exact .inr h

theorem isChange_of_mem {x : Migration} (hx : x ∈ Migration.all) {dim : Nat} {sql : String}
    (h : sql ∈ x.statements dim) : IsChange x.version sql := by
  rcases opens_or_mem_statements x hx dim sql h with ⟨hversion, hopens⟩ | hfixed
  · exact ⟨_, hversion ▸ List.mem_cons_self, hopens⟩
  · exact ⟨sql, List.mem_cons_of_mem _ (List.mem_flatMap.2 ⟨x, hx, List.mem_map_of_mem hfixed⟩),
      .refl sql⟩

/-- No opening of one migration clashes with one of another. -/
theorem changeOpenings_apart : ∀ a ∈ changeOpenings, ∀ b ∈ changeOpenings,
    Clash a.2 b.2 → a.1 = b.1 := by decide +kernel

/-- No opening of a migration clashes with one outside migrations. -/
theorem changeOpenings_apart_frame : ∀ a ∈ changeOpenings, ∀ words ∈ frameOpenings,
    ¬ Clash a.2 words := by decide +kernel

/-- A statement of a migration is not one outside migrations. -/
theorem IsChange.not_isFrame {version : Int32} {sql : String} (h : IsChange version sql) :
    ¬ IsFrame sql := by
  rintro ⟨words, hwords, hopens⟩
  obtain ⟨words', hwords', hopens'⟩ := h
  exact changeOpenings_apart_frame _ hwords' _ hwords (clash_of_opens hopens' hopens)

/-- A statement belongs to one migration only. -/
theorem IsChange.version_unique {version version' : Int32} {sql : String}
    (h : IsChange version sql) (h' : IsChange version' sql) : version = version' := by
  obtain ⟨words, hwords, hopens⟩ := h
  obtain ⟨words', hwords', hopens'⟩ := h'
  exact changeOpenings_apart _ hwords _ hwords' (clash_of_opens hopens hopens')

end KnowledgeBase.Schema
