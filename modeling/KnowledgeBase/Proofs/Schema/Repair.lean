import KnowledgeBase.Proofs.Schema.Version
import KnowledgeBase.Proofs.Store.Vocabulary

/-!
# What repairs an interrupted change of dimension

Giving the embedding columns another dimension drops the similarity index of each column and creates
it again, and each statement stands on its own, so a change that stops in between leaves an index
missing.  The next run of the schema creates every index that the layout names.  The index of the
catalog is not among them: it is made by a migration, which is not repeated once it is recorded.

## Main definitions

* `Schema.Drops`, `Schema.Makes` — a statement has taken a similarity index away, or created it.
* `Schema.indexAfter` — whether an index is there after some statements.
* `Schema.retrofitted` — the embedding column whose index a migration makes.

## Main results

* `Schema.indexAfter_iff` — the last statement about an index decides.
* `Schema.Launch.Course.makes` — a run that succeeds creates the indexes of the layout.
* `Schema.indexAfter_changeDimension` — a change that succeeds leaves every index there.
* `Schema.History.repairs_iff` — which indexes are there after an interrupted change and a run that
  succeeds.
* `Schema.History.not_repaired` — the index of the catalog may stay missing.
-/

namespace KnowledgeBase.Schema

open Sql

/-! ### One index -/

/-- The text that takes the similarity index of a column away. -/
def dropText (c : EmbeddingColumn) : String := "DROP INDEX IF EXISTS " ++ c.index

/-- A statement has taken the similarity index of a column away. -/
def Drops (c : EmbeddingColumn) (e : Sent) : Prop :=
  e.reply.failure? = none ∧ Opens (dropText c) e.statement.sql

/-- A statement has created the similarity index of a column, unless it was there already. -/
def Makes (c : EmbeddingColumn) (e : Sent) : Prop :=
  e.reply.failure? = none ∧ Opens (createIndex c.index "") e.statement.sql

instance (c : EmbeddingColumn) (e : Sent) : Decidable (Drops c e) :=
  inferInstanceAs (Decidable (_ ∧ _))

instance (c : EmbeddingColumn) (e : Sent) : Decidable (Makes c e) :=
  inferInstanceAs (Decidable (_ ∧ _))

/-- Whether the index is there after a statement. -/
def indexNext (c : EmbeddingColumn) (there : Bool) (e : Sent) : Bool :=
  if Drops c e then false else there || decide (Makes c e)

/-- Whether the index is there after some statements. -/
def indexAfter (c : EmbeddingColumn) (there : Bool) (sent : List Sent) : Bool :=
  sent.foldl (indexNext c) there

variable {c : EmbeddingColumn} {there : Bool}

theorem opens_createIndex (name target : String) :
    Opens (createIndex name "") (createIndex name target) := by
  have hwords : createIndex name "" = "CREATE INDEX IF NOT EXISTS " ++ name ++ " ON " :=
    String.append_empty
  rw [hwords]
  exact Opens.append_right _ _

theorem Makes.not_drops {e : Sent} (h : Makes c e) : ¬ Drops c e := by
  rintro ⟨-, hdrop⟩
  have hcreate : Opens "CREATE INDEX IF NOT EXISTS " (createIndex c.index "") :=
    ((Opens.append_right _ _).append _).append _
  have hapart : ¬ Clash "CREATE INDEX IF NOT EXISTS " "DROP INDEX IF EXISTS " := by decide
  exact hapart (clash_of_opens (hcreate.trans h.2) ((Opens.append_right _ _).trans hdrop))

theorem indexAfter_append (sent sent' : List Sent) :
    indexAfter c there (sent ++ sent') = indexAfter c (indexAfter c there sent) sent' := by
  rw [indexAfter, List.foldl_append]
  rfl

/-- A place in a list is the first, or one after it. -/
theorem exists_place_cons {α : Type} {P : α → List α → Prop} {a : α} {l : List α} :
    (∃ before b after, a :: l = before ++ b :: after ∧ P b after) ↔
      P a l ∨ ∃ before b after, l = before ++ b :: after ∧ P b after := by
  constructor
  · rintro ⟨before, b, after, hsplit, hP⟩
    cases before with
    | nil =>
      obtain ⟨rfl, rfl⟩ := List.cons.inj hsplit
      exact .inl hP
    | cons first before =>
      obtain ⟨-, hrest⟩ := List.cons.inj hsplit
      exact .inr ⟨before, b, after, hrest, hP⟩
  · rintro (hP | ⟨before, b, after, rfl, hP⟩)
    · exact ⟨[], a, l, rfl, hP⟩
    · exact ⟨a :: before, b, after, rfl, hP⟩

/-- **The last statement about an index decides.**  The index is there when it was created and not
dropped since, or when it was there at first and has not been dropped at all. -/
theorem indexAfter_iff {sent : List Sent} :
    indexAfter c there sent = true ↔
      (there = true ∧ ∀ e ∈ sent, ¬ Drops c e) ∨
        ∃ before e after, sent = before ++ e :: after ∧ Makes c e ∧ ∀ e' ∈ after, ¬ Drops c e' := by
  induction sent generalizing there with
  | nil => simp [indexAfter]
  | cons e rest ih =>
    have hnext : indexAfter c there (e :: rest) = indexAfter c (indexNext c there e) rest := rfl
    rw [hnext, ih, exists_place_cons, List.forall_mem_cons, indexNext]
    by_cases hdrops : Drops c e
    · have hmakes : ¬ Makes c e := fun hmakes => hmakes.not_drops hdrops
      simp [hdrops, hmakes]
    · simp only [hdrops, if_false, Bool.or_eq_true, decide_eq_true_eq, not_false_eq_true, true_and,
        or_and_right, or_assoc]

/-- Where an index is not dropped, it is there when it was there before or is created. -/
theorem indexAfter_of_kept {sent : List Sent} (h : ∀ e ∈ sent, ¬ Drops c e) :
    indexAfter c there sent = true ↔ there = true ∨ ∃ e ∈ sent, Makes c e := by
  rw [indexAfter_iff]
  constructor
  · rintro (⟨hthere, -⟩ | ⟨before, e, after, rfl, hmakes, -⟩)
    · exact .inl hthere
    · exact .inr ⟨e, List.mem_append_right _ List.mem_cons_self, hmakes⟩
  · rintro (hthere | ⟨e, he, hmakes⟩)
    · exact .inl ⟨hthere, h⟩
    · obtain ⟨before, after, rfl⟩ := List.append_of_mem he
      refine .inr ⟨before, e, after, rfl, hmakes, ?_⟩
      intro e' he'
      exact h e' (List.mem_append_right _ (List.mem_cons_of_mem _ he'))

/-! ### Where an index is made -/

/-- The embedding column whose index a migration makes. -/
def retrofitted : EmbeddingColumn := embeddingOf "catalog_taxonomy"

/-- The text that creates the similarity index of a column. -/
def similarityIndex (c : EmbeddingColumn) : String :=
  createIndex c.index (c.table ++ " USING hnsw (embedding vector_cosine_ops)")

theorem similarityIndex_mem {dim : Nat} (hdim : dim ≤ maxIndexDimension) :
    similarityIndex c ∈ (embeddingIndex c dim).toList := by
  rw [embeddingIndex, if_pos hdim]
  exact List.mem_singleton_self _

/-- The layout has the index of every column but one. -/
theorem similarityIndex_mem_layout {m : Modules} (hc : c ∈ m.embeddingColumns)
    (hother : c ≠ retrofitted) {dim : Nat} (hdim : dim ≤ maxIndexDimension) :
    similarityIndex c ∈ layout dim m := by
  have hindex := similarityIndex_mem (c := c) hdim
  rw [layout]
  rcases List.mem_append.1 hc with hc | hnews
  · apply List.mem_append_left
    rcases List.mem_append.1 hc with hcore | hcommerce
    · apply List.mem_append_left
      rw [coreLayout]
      rcases List.mem_cons.1 hcore with rfl | hcore
      · exact List.mem_append_left _ (List.mem_append_right _ hindex)
      · cases List.mem_singleton.1 hcore
        exact List.mem_append_right _ hindex
    · rcases m with ⟨_ | _, _⟩
      · cases hcommerce
      · exact absurd (List.mem_singleton.1 hcommerce) hother
  · apply List.mem_append_right
    rcases m with ⟨_, _ | _⟩
    · cases hnews
    · rw [if_pos rfl, newsLayout]
      rcases List.mem_cons.1 hnews with rfl | hnews
      · exact List.mem_append_left _ (List.mem_append_right _ hindex)
      · cases List.mem_singleton.1 hnews
        exact List.mem_append_right _ hindex

/-- The index of the other is made by the fifth migration. -/
theorem exists_retrofit : ∃ x ∈ Migration.all, x.version = 5 ∧ x.group = .commerce ∧
    ∀ dim ≤ maxIndexDimension, similarityIndex retrofitted ∈ x.statements dim := by
  refine ⟨_, List.getElem_mem (n := 4) (by decide), rfl, rfl, ?_⟩
  intro dim hdim
  exact List.mem_cons_of_mem _ (similarityIndex_mem hdim)

/-- Where the catalog has an embedding column, its group is enabled. -/
theorem commerce_of_retrofitted {m : Modules} (h : retrofitted ∈ m.embeddingColumns) :
    m.commerce = true := by
  rcases m with ⟨_ | _, _ | _⟩
  · revert h
    decide
  · revert h
    decide
  · rfl
  · rfl

theorem embeddingColumns_nodup (m : Modules) : m.embeddingColumns.Nodup := by
  rcases m with ⟨_ | _, _ | _⟩ <;> decide

theorem embeddingColumns_subset (m : Modules) :
    m.embeddingColumns ⊆ (⟨true, true⟩ : Modules).embeddingColumns := by
  rcases m with ⟨_ | _, _ | _⟩ <;> decide

/-- No opening of a planned text drops the index of a column. -/
theorem drops_apart : ∀ c ∈ (⟨true, true⟩ : Modules).embeddingColumns,
    OnlyChanges (dropText c) ∧
      ∀ a ∈ changeOpenings, ¬ Clash (dropText c) a.2 := by decide +kernel

/-- Only an opening of the fifth migration creates the index of the catalog. -/
theorem makes_apart : OnlyChanges (createIndex retrofitted.index "") ∧
    ∀ a ∈ changeOpenings, Clash (createIndex retrofitted.index "") a.2 → a.1 = 5 := by
  decide +kernel

/-! ### One run -/

variable {σ : Type} [Server σ]

namespace Launch

variable {l : Launch σ} {recorded : List Int32}

/-- A run drops no similarity index. -/
theorem Course.not_drops (h : l.Course recorded) {m : Modules} (hc : c ∈ m.embeddingColumns) :
    ∀ e ∈ l.sent, ¬ Drops c e := by
  rintro e he ⟨-, hopens⟩
  obtain ⟨honly, hapart⟩ := drops_apart c (embeddingColumns_subset m hc)
  obtain ⟨x, -, words, hwords, hclash⟩ :=
    (h.planned e he).change_of_opens (fun _ => mem_all_of_mem_due) honly hopens
  exact hapart _ hwords hclash

/-- A run that succeeds creates the indexes of the layout. -/
theorem Course.makes (h : l.Course recorded) {report : Report} (hok : l.answer = .ok report)
    (hdim : l.settings.dimension ≤ maxIndexDimension)
    (hc : c ∈ l.settings.modules.embeddingColumns) (hother : c ≠ retrofitted) :
    ∃ e ∈ l.sent, Makes c e := by
  have hlayout := similarityIndex_mem_layout hc hother hdim
  have hstep : Step.hard (.simple (similarityIndex c)) ∈ plan l.settings recorded := by
    apply List.mem_append_left
    apply List.mem_append_right
    apply List.mem_map_of_mem (f := fun sql => Step.hard (.simple sql))
    exact List.mem_append_left _ (List.mem_append_right _ hlayout)
  obtain ⟨e, he, hstatement, hreply⟩ := h.sent_of_hard hok hstep rfl
  refine ⟨e, he, hreply, ?_⟩
  rw [hstatement]
  exact opens_createIndex _ _

/-- Once the fifth migration is recorded, no run creates the index of the catalog. -/
theorem Course.not_makes (h : l.Course recorded) (hrecorded : 5 ∈ recorded) :
    ∀ e ∈ l.sent, ¬ Makes retrofitted e := by
  rintro e he ⟨-, hopens⟩
  obtain ⟨x, hx, words, hwords, hclash⟩ :=
    (h.planned e he).change_of_opens (fun _ => mem_all_of_mem_due) makes_apart.1 hopens
  have hversion : x.version = 5 := makes_apart.2 _ hwords hclash
  exact (mem_due.1 hx).2.2 (hversion ▸ hrecorded)

/-- A run that executes a migration with an index among its statements creates the index. -/
theorem Executes.makes {x : Migration} (h : l.Executes x)
    (hx : similarityIndex c ∈ x.statements l.settings.dimension) : ∃ e ∈ l.sent, Makes c e := by
  obtain ⟨before, changes, after, hsent, hstatements, hsucceeded⟩ := h
  have hmem : Statement.simple (similarityIndex c) ∈ changes.map Sent.statement := by
    rw [hstatements]
    exact List.mem_map_of_mem hx
  obtain ⟨e, he, hstatement⟩ := List.mem_map.1 hmem
  refine ⟨e, ?_, hsucceeded e he, ?_⟩
  · rw [hsent]
    exact List.mem_append_left _ (List.mem_append_right _ he)
  · rw [hstatement]
    exact opens_createIndex _ _

end Launch

/-! ### A change of dimension -/

/-- The openings of the texts that are sent when embeddings are given another dimension. -/
def resizeOpenings : List String :=
  ["DROP INDEX IF EXISTS ", "ALTER TABLE ", "CREATE INDEX IF NOT EXISTS ", "SET search_path TO "]
    ++ Link.controls

/-- A change of dimension neither takes tables away nor records a version. -/
theorem resizeOpenings_apart : ∀ words ∈ resizeOpenings,
    (∀ words' ∈ erasingWords, ¬ Clash words' words) ∧ ¬ Clash words recordText := by decide +kernel

/-- The texts for a column are told apart by their openings. -/
theorem opens_of_mem_resize {dim : Nat} {sql : String} (h : sql ∈ resize c dim) :
    sql = dropText c ∨ Opens "ALTER TABLE " sql ∨
      Opens "CREATE INDEX IF NOT EXISTS " sql := by
  rcases List.mem_cons.1 h with rfl | h
  · exact .inl rfl
  rcases List.mem_cons.1 h with rfl | h
  · exact .inr (.inl ((((Opens.append_right _ _).append _).append _).append _))
  · have hsome : embeddingIndex c dim = some sql := Option.mem_toList.1 h
    rw [embeddingIndex] at hsome
    split at hsome
    · cases hsome
      exact .inr (.inr (((Opens.append_right _ _).append _).append _))
    · cases hsome

theorem opens_resize {dim : Nat} :
    ∀ sql ∈ resize c dim, ∃ words ∈ resizeOpenings, Opens words sql := by
  intro sql hsql
  rcases opens_of_mem_resize hsql with rfl | halter | hcreate
  · exact ⟨_, List.mem_cons_self, .append_right _ _⟩
  · exact ⟨_, List.mem_cons_of_mem _ List.mem_cons_self, halter⟩
  · exact ⟨_, List.mem_cons_of_mem _ (List.mem_cons_of_mem _ List.mem_cons_self), hcreate⟩

/-- The indexes of two columns are dropped by different texts. -/
theorem dropTexts_apart : ∀ c ∈ (⟨true, true⟩ : Modules).embeddingColumns,
    (∀ c' ∈ (⟨true, true⟩ : Modules).embeddingColumns, c ≠ c' →
      ¬ Clash (dropText c) (dropText c')) ∧
      ¬ Clash (dropText c) "ALTER TABLE " ∧
      ¬ Clash (dropText c) "CREATE INDEX IF NOT EXISTS " := by
  decide +kernel

/-- Only the texts for a column drop its index. -/
theorem not_drops_resize {m : Modules} (hc : c ∈ m.embeddingColumns) {c' : EmbeddingColumn}
    (hc' : c' ∈ m.embeddingColumns) (hne : c ≠ c') {dim : Nat} :
    ∀ sql ∈ resize c' dim, ¬ Opens (dropText c) sql := by
  intro sql hsql hopens
  obtain ⟨hdrop, halter, hcreate⟩ := dropTexts_apart c (embeddingColumns_subset m hc)
  rcases opens_of_mem_resize hsql with rfl | hopens' | hopens'
  · exact hdrop c' (embeddingColumns_subset m hc') hne (clash_of_opens hopens (.refl _))
  · exact halter (clash_of_opens hopens hopens')
  · exact hcreate (clash_of_opens hopens hopens')

theorem sql_of_recordedBy? {st : Statement} {v : Int32} (h : recordedBy? st = some v) :
    st.sql = recordText := by
  unfold recordedBy? at h
  split at h
  · split at h
    · assumption
    · cases h
  · cases h

section Change

variable {s : StoreSettings} {dim : Nat} {p : Pool σ}

theorem opens_changeDimension (hp : p.Reachable s) :
    ∀ e ∈ (changeDimension s dim).sent p,
      ∃ words ∈ resizeOpenings, Opens words e.statement.sql := by
  have hsends : (changeDimension s dim).Sends (· = .bare) fun st =>
      ∃ words ∈ resizeOpenings, Opens words st.sql := by
    refine changeDimension_sends ?_
    intro sql hsql
    obtain ⟨c, -, hsql⟩ := List.mem_flatMap.1 hsql
    exact opens_resize _ hsql
  apply hsends.all_sent hp.atRest
  · intro sql hsql
    exact ⟨sql, List.mem_append_right _ hsql, .refl sql⟩
  · exact ⟨"SET search_path TO ", by decide, (Opens.append_right _ _).append _⟩
  · intro id user ending hframe
    cases hframe

/-- A change of dimension leaves the recorded versions as they are. -/
theorem recordedAfter_changeDimension (hp : p.Reachable s) (recorded : List Int32) :
    recordedAfter recorded ((changeDimension s dim).sent p) = recorded := by
  have hnext : ∀ e ∈ (changeDimension s dim).sent p, ∀ versions,
      recordedNext versions e = versions := by
    intro e he versions
    obtain ⟨words, hwords, hopens⟩ := opens_changeDimension hp e he
    obtain ⟨herasing, hrecord⟩ := resizeOpenings_apart words hwords
    have herases : erases e.statement = false := by
      rw [erases, List.any_eq_false]
      intro words' hwords' hopens'
      exact herasing words' hwords' (clash_of_opens (of_decide_eq_true hopens') hopens)
    have hnone : recordedBy? e.statement = none := by
      cases hrecords : recordedBy? e.statement with
      | none => rfl
      | some v =>
        rw [sql_of_recordedBy? hrecords] at hopens
        exact absurd (clash_of_opens hopens (.refl _)) hrecord
    rw [recordedNext, herases, hnone]
    split <;> simp
  generalize (changeDimension s dim).sent p = sent at hnext
  induction sent with
  | nil => rfl
  | cons e rest ih =>
    obtain ⟨hfirst, hrest⟩ := List.forall_mem_cons.1 hnext
    rw [recordedAfter, List.foldl_cons, hfirst]
    exact ih hrest

/-- A change that succeeds has sent all its statements, and none of them has failed. -/
theorem changeDimension_sent (hp : p.Reachable s)
    (hok : ((changeDimension s dim).run p).1 = .ok ()) :
    ∃ opening sent, (changeDimension s dim).sent p = opening ++ sent ∧
      sent.map Sent.statement = (resizeTexts s.modules dim).map .simple ∧
        ∀ e ∈ sent, e.reply.failure? = none := by
  have hwork : changeDimension s dim = .onConnection (runAll (resizeTexts s.modules dim)) := by
    unfold changeDimension at hok ⊢
    split at hok
    · cases hok
    · next hpositive => exact if_neg hpositive
  rw [hwork] at hok ⊢
  rcases Operation.sent_onConnection (w := runAll (resizeTexts s.modules dim)) (P := fun _ => True)
    hp trivial with ⟨e, hanswer, -⟩ | ⟨c, p', opening, sent, hacquire, hsplit, -, hcarried⟩
  · cases hanswer.symm.trans hok
  · rw [Operation.run_onConnection hacquire] at hok
    rw [Operation.attempts_onConnection hacquire] at hcarried
    have hplays := runAll_plays (R := fun _ => True) (resizeTexts s.modules dim)
    have htries := (runAll (resizeTexts s.modules dim)).tries c
    obtain ⟨hfollows, -⟩ := hplays.follows htries fun _ _ => trivial
    rw [hok] at hfollows
    have hall := hfollows.all_succeeded (List.forall_mem_map.2 fun _ _ => rfl)
    have hsame := hcarried.map_attempt hall
    refine ⟨opening, sent, hsplit, ?_, ?_⟩
    · have hstatements := hfollows.map_statement
      rw [← hsame, List.map_map, List.map_map] at hstatements
      exact hstatements
    · intro e he
      obtain ⟨r, hr⟩ := hall e.attempt (hsame ▸ List.mem_map_of_mem he)
      exact (Reply.outcome_eq_ok hr).2

/-- **A change that succeeds leaves every index there.** -/
theorem indexAfter_changeDimension (hp : p.Reachable s) (hdim : dim ≤ maxIndexDimension)
    (hok : ((changeDimension s dim).run p).1 = .ok ()) (hc : c ∈ s.modules.embeddingColumns) :
    indexAfter c there ((changeDimension s dim).sent p) = true := by
  obtain ⟨opening, sent, hsplit, hstatements, hsucceeded⟩ := changeDimension_sent hp hok
  rw [hsplit, indexAfter_append, indexAfter_iff]
  right
  -- the statements fall into those up to the creation of the index, and those for later columns
  obtain ⟨columns, columns', hcolumns⟩ := List.append_of_mem hc
  have htexts : resizeTexts s.modules dim = (columns.flatMap (resize · dim) ++
      (resize c dim).take 2) ++ similarityIndex c :: columns'.flatMap (resize · dim) := by
    rw [resizeTexts, hcolumns, List.flatMap_append, List.flatMap_cons, resize, embeddingIndex,
      if_pos hdim]
    simp [similarityIndex]
  rw [htexts, List.map_append, List.map_cons] at hstatements
  obtain ⟨before, rest, rfl, -, hrest⟩ := List.map_eq_append_iff.1 hstatements
  obtain ⟨e, after, rfl, hstatement, hafter⟩ := List.map_eq_cons_iff.1 hrest
  refine ⟨before, e, after, rfl, ⟨?_, ?_⟩, ?_⟩
  · exact hsucceeded e (List.mem_append_right _ List.mem_cons_self)
  · rw [hstatement]
    exact opens_createIndex _ _
  · rintro e' he' ⟨-, hopens⟩
    have hmem : e'.statement ∈ (columns'.flatMap (resize · dim)).map Statement.simple := by
      rw [← hafter]
      exact List.mem_map_of_mem he'
    obtain ⟨sql, hsql, hsame⟩ := List.mem_map.1 hmem
    obtain ⟨c', hc', hresize⟩ := List.mem_flatMap.1 hsql
    have hnodup := embeddingColumns_nodup s.modules
    rw [hcolumns, List.nodup_append, List.nodup_cons] at hnodup
    have hne : c ≠ c' := by
      rintro rfl
      exact hnodup.2.1.1 hc'
    have hc'' : c' ∈ s.modules.embeddingColumns := by
      rw [hcolumns]
      exact List.mem_append_right _ (List.mem_cons_of_mem _ hc')
    rw [← hsame] at hopens
    exact not_drops_resize hc hc'' hne sql hresize hopens

end Change

/-! ### Runs after a change -/

/-- **What repairs an interrupted change of dimension.**  A change to the dimension of the settings
stops at any statement, and of the runs after it at least one succeeds.  Then the similarity index
of every column but that of the catalog is there.  The index of the catalog is there if the fifth
migration was not recorded when the change was made, and otherwise only if the change itself has
left it there. -/
theorem History.repairs_iff {s : StoreSettings} (hdim : s.dimension ≤ maxIndexDimension)
    {p : Pool σ} (hp : p.Reachable s) {recorded final : List Int32} {runs : List (Launch σ)}
    (h : History (recordedAfter recorded ((changeDimension s s.dimension).sent p)) runs final)
    (hsettings : ∀ l ∈ runs, l.settings = s) (hok : ∃ l ∈ runs, ∃ report, l.answer = .ok report)
    {c : EmbeddingColumn} (hc : c ∈ s.modules.embeddingColumns) (there : Bool) :
    indexAfter c there
        ((changeDimension s s.dimension).sent p ++ runs.flatMap Launch.sent) = true ↔
      c ≠ retrofitted ∨ 5 ∉ recorded ∨
        indexAfter c there ((changeDimension s s.dimension).sent p) = true := by
  rw [recordedAfter_changeDimension hp] at h
  have hcourse := h.course
  have hkept : ∀ e ∈ runs.flatMap Launch.sent, ¬ Drops c e := by
    intro e he
    obtain ⟨l, hl, hsent⟩ := List.mem_flatMap.1 he
    obtain ⟨recorded', -, hcourse⟩ := hcourse l hl
    exact hcourse.not_drops hc e hsent
  rw [indexAfter_append, indexAfter_of_kept hkept]
  generalize indexAfter c there ((changeDimension s s.dimension).sent p) = left
  obtain ⟨l, hl, report, hanswer⟩ := hok
  -- each of the three cases says whether some run creates the index
  by_cases hother : c = retrofitted
  · subst hother
    by_cases hrecorded : 5 ∈ recorded
    · have hnone : ¬ ∃ e ∈ runs.flatMap Launch.sent, Makes retrofitted e := by
        rintro ⟨e, he, hmakes⟩
        obtain ⟨l', hl', hsent⟩ := List.mem_flatMap.1 he
        obtain ⟨recorded', hsubset, hcourse⟩ := hcourse l' hl'
        exact hcourse.not_makes (hsubset hrecorded) e hsent hmakes
      simp only [hnone, or_false, ne_eq, not_true_eq_false, hrecorded, false_or]
    · have hmade : ∃ e ∈ runs.flatMap Launch.sent, Makes retrofitted e := by
        obtain ⟨x, hx, hversion, hgroup, hindex⟩ := exists_retrofit
        have henabled : x.group.isEnabled l.settings.modules = true := by
          rw [hgroup, hsettings l hl]
          exact commerce_of_retrofitted hc
        have hfinal := h.complete hl hanswer (mem_order.2 ⟨hx, henabled⟩)
        obtain ⟨l', hl', hexecutes⟩ := h.executed hx (hversion ▸ hrecorded) hfinal
        have hdim' : l'.settings.dimension ≤ maxIndexDimension := by
          rw [hsettings l' hl']
          exact hdim
        obtain ⟨e, he, hmakes⟩ := hexecutes.makes (hindex _ hdim')
        exact ⟨e, List.mem_flatMap.2 ⟨l', hl', he⟩, hmakes⟩
      exact iff_of_true (.inr hmade) (.inr (.inl hrecorded))
  · have hmade : ∃ e ∈ runs.flatMap Launch.sent, Makes c e := by
      obtain ⟨recorded', -, hcourse⟩ := hcourse l hl
      have hsame := hsettings l hl
      obtain ⟨e, he, hmakes⟩ := hcourse.makes hanswer (by rw [hsame]; exact hdim)
        (by rw [hsame]; exact hc) hother
      exact ⟨e, List.mem_flatMap.2 ⟨l, hl, he⟩, hmakes⟩
    exact iff_of_true (.inr hmade) (.inl hother)

/-! ### A change that stops on the way -/

namespace History

/-- The settings of a deployment with a catalog. -/
def withCatalog : StoreSettings := { StoreSettings.default with commerce := true }

/-- A run in which no statement fails, and which is told that these versions are recorded. -/
def toldRun (versions : List Int32) : Launch Replies :=
  ⟨withCatalog, .ofSettings ⟨.done 0 :: (groundwork withCatalog).map (fun _ => .done 0)
    ++ [.rows (versions.map fun v => ⟨[("version", .int4 v)]⟩)]⟩ withCatalog⟩

/-- A pool whose server cancels the statement after these many, the search path among them. -/
def cancelledAfter (n : Nat) : Pool Replies :=
  .ofSettings ⟨List.replicate n (.done 0)
    ++ [.error "57014" "canceling statement due to user request"]⟩ withCatalog

/-- The versions of a deployment with a catalog, in the order in which they are recorded. -/
def catalogVersions : List Int32 := [1, 2, 3, 4, 5, 10, 7, 8, 9]

/-- A run over an empty database records every version, and the next has nothing to record. -/
theorem toldRun_history : ∀ versions ∈ [[], catalogVersions],
    History versions [toldRun versions] catalogVersions ∧
      ∃ report, (toldRun versions).answer = .ok report := by
  have hruns : ∀ versions ∈ [[], catalogVersions],
      toldVersions ((toldRun versions).sent.map Sent.attempt) = [some versions] ∧
      recordedAfter versions (toldRun versions).sent = catalogVersions ∧
      (toldRun versions).answer.isOk = true := by
    simp only [Launch.sent, Launch.answer, ensure, ensureWork_eq]
    decide +kernel
  intro versions hversions
  obtain ⟨htold, hrecorded, hok⟩ := hruns versions hversions
  constructor
  · refine .cons (.opened _) (Launch.truthful_of_told htold) ?_
    rw [hrecorded]
    exact .nil _
  · cases hanswer : (toldRun versions).answer with
    | ok report => exact ⟨report, rfl⟩
    | error e =>
      rw [hanswer] at hok
      cases hok

/-- A change to the dimension that a deployment with a catalog has, cancelled after these many
statements. -/
def cancelledChange (n : Nat) : List Sent :=
  (changeDimension withCatalog withCatalog.dimension).sent (cancelledAfter n)

/-- What is recorded before a change is recorded when the next run is made. -/
theorem nextRun_history (n : Nat) : History (recordedAfter catalogVersions (cancelledChange n))
    [toldRun catalogVersions] catalogVersions := by
  have hp : (cancelledAfter n).Reachable withCatalog := .opened _
  rw [cancelledChange, recordedAfter_changeDimension hp]
  exact (toldRun_history catalogVersions (by simp)).1

/-- The index of the nodes is dropped by a change that is cancelled then, and is there after the
next run. -/
theorem repairs_iff_nodes :
    (withCatalog.dimension ≤ maxIndexDimension ∧ (cancelledAfter 2).Reachable withCatalog ∧
      History (recordedAfter catalogVersions (cancelledChange 2)) [toldRun catalogVersions]
        catalogVersions ∧
      (∀ l ∈ [toldRun catalogVersions], l.settings = withCatalog) ∧
      (∃ l ∈ [toldRun catalogVersions], ∃ report, l.answer = .ok report) ∧
      embeddingOf "knowledge_nodes" ∈ withCatalog.modules.embeddingColumns) ∧
    indexAfter (embeddingOf "knowledge_nodes") true (cancelledChange 2) = false ∧
    indexAfter (embeddingOf "knowledge_nodes") true
      (cancelledChange 2 ++ [toldRun catalogVersions].flatMap Launch.sent) = true := by
  have hsettings : ∀ l ∈ [toldRun catalogVersions], l.settings = withCatalog :=
    List.forall_mem_singleton.2 rfl
  have hok : ∃ l ∈ [toldRun catalogVersions], ∃ report, l.answer = .ok report :=
    ⟨_, List.mem_singleton_self _, (toldRun_history catalogVersions (by simp)).2⟩
  have hdim : withCatalog.dimension ≤ maxIndexDimension := by decide
  have hc : embeddingOf "knowledge_nodes" ∈ withCatalog.modules.embeddingColumns := by decide
  refine ⟨⟨hdim, .opened _, nextRun_history 2, hsettings, hok, hc⟩, by decide +kernel, ?_⟩
  exact (repairs_iff hdim (.opened _) (nextRun_history 2) hsettings hok hc true).2
    (.inl (by decide))

/-- **The index of the catalog may stay missing.**  A run over an empty database succeeds, a change
is cancelled after the drop of that index, and the next run succeeds without creating it. -/
theorem not_repaired :
    History [] [toldRun []] catalogVersions ∧ (∃ report, (toldRun []).answer = .ok report) ∧
      History (recordedAfter catalogVersions (cancelledChange 8)) [toldRun catalogVersions]
        catalogVersions ∧
      (∃ report, (toldRun catalogVersions).answer = .ok report) ∧
      (∀ versions, (toldRun versions).settings = withCatalog) ∧
      (cancelledAfter 8).Reachable withCatalog ∧ withCatalog.dimension ≤ maxIndexDimension ∧
      retrofitted ∈ withCatalog.modules.embeddingColumns ∧
      indexAfter retrofitted true
        ((toldRun []).sent ++ cancelledChange 8 ++ (toldRun catalogVersions).sent) = false := by
  obtain ⟨hfirst, hfirstOk⟩ := toldRun_history [] (by simp)
  obtain ⟨-, hnextOk⟩ := toldRun_history catalogVersions (by simp)
  refine ⟨hfirst, hfirstOk, nextRun_history 8, hnextOk, fun _ => rfl, .opened _, by decide,
    by decide, ?_⟩
  simp only [Launch.sent, ensure, ensureWork_eq]
  decide +kernel

end History

end KnowledgeBase.Schema
