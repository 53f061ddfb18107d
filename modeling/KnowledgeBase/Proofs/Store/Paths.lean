import KnowledgeBase.Proofs.Graph.Walks
import KnowledgeBase.Proofs.Text.LabelPath

/-!
# Paths in rows

Two kinds of rows have a path: those of nodes and those of catalog entries.  A text in the database
may be anything, so that it is checked again when it is read.  Whatever a database replies, a read
answers paths of the grammar only, and each of them as it stands in the reply; and a row with
another text makes the whole read fail.

## Main definitions

* `Decoding` — a step that fails only because of what it decodes.
* `LabelPath.Guarded` — a decoder of rows that checks the path in one of their columns.
* `Operation.Decodes` — an operation that decodes all the rows of one reply.
* `Operation.ChecksPaths` — a run that answers paths of the grammar only.
* `Call.paths`, `Call.AsksPaths` — the paths in an answer, and the statements for rows with paths.

## Main results

* `Node.ofRow_exchanged`, `Catalog.entryOfRow_exchanged` — what becomes of a row with another path.
* `Node.ofRow_guarded`, `Catalog.entryOfRow_guarded` — both decoders check the path.
* `Graph.search_decodes`, `Search.hybrid_decodes`, `Catalog.entries_decodes` — three operations use
  them, and leave no row out.
* `Operation.Decodes.checksPaths` — so their runs check the paths in the replies.
* `Call.paths_governed` — **paths are accepted exactly by the grammar, wherever they come from.**
-/

namespace KnowledgeBase

open Sql

variable {α β σ : Type}

/-! ### Errors of decoders -/

/-- A step that fails only because of what it decodes. -/
def Decoding (x : Except StoreError α) : Prop :=
  ∀ e, x = .error e → e.code = "SERIALIZATION_ERROR"

namespace Decoding

theorem ok (a : α) : Decoding (.ok a) := nofun

theorem bind {x : Except StoreError α} {f : α → Except StoreError β} (hx : Decoding x)
    (hf : ∀ a, Decoding (f a)) : Decoding (x >>= f) := by
  intro e h
  rcases Except.bind_eq_error.1 h with h | ⟨a, -, h⟩
  · exact hx e h
  · exact hf a e h

/-- What is refused in a row is reported as an error of decoding it. -/
theorem refused {x : Except Refusal α} :
    Decoding (x.mapError fun refusal => .serialization refusal.toError.message) := by
  intro e h
  cases x with
  | ok a => cases h
  | error refusal =>
    cases h
    rfl

end Decoding

/-- A row that has columns of these names. -/
def Sql.Row.Has (row : Row) (names : List String) : Prop := ∀ name ∈ names, row.find? name ≠ none

theorem Sql.Row.column_decoding [Cell α] {row : Row} {names : List String} (h : row.Has names)
    {name : String} (hname : name ∈ names) : Decoding (row.column name : Except StoreError α) := by
  intro e he
  rw [column] at he
  cases hfind : row.find? name with
  | none => exact absurd hfind (h name hname)
  | some v =>
    simp only [hfind, decodeCell] at he
    cases hread : (Cell.read? v : Option α) with
    | none =>
      rw [hread] at he
      cases he
      rfl
    | some a =>
      rw [hread] at he
      cases he

theorem Sql.Row.column_congr [Cell α] {row row' : Row} {name : String}
    (h : row'.find? name = row.find? name) :
    (row'.column name : Except StoreError α) = row.column name := by
  rw [column, column, h]

/-- A column is read by the type of its value. -/
theorem Sql.Row.column_eq_ok_iff [Cell α] {row : Row} {name : String} {a : α} :
    row.column name = .ok a ↔ ∃ v, row.find? name = some v ∧ Cell.read? v = some a := by
  rw [column]
  cases row.find? name with
  | none => simp
  | some v => cases hread : (Cell.read? v : Option α) <;> simp [decodeCell, Except.mapError, hread]

theorem Sql.Row.column_text_iff {row : Row} {name text : String} :
    row.column name = .ok text ↔ row.find? name = some (.text text) := by
  rw [column_eq_ok_iff]
  constructor
  · rintro ⟨v, hfind, hread⟩
    cases v <;> cases hread
    exact hfind
  · exact fun hfind => ⟨_, hfind, rfl⟩

theorem Sql.Row.column_some_text_iff {row : Row} {name text : String} :
    row.column name = .ok (some text) ↔ row.find? name = some (.text text) := by
  rw [column_eq_ok_iff]
  constructor
  · rintro ⟨v, hfind, hread⟩
    cases v <;> cases hread
    exact hfind
  · exact fun hfind => ⟨_, hfind, rfl⟩

/-- Rows are not decoded together because one of them is not. -/
theorem exists_of_decodeAll_eq_error {decode : Row → Except StoreError α} {rows : List Row}
    {e : StoreError} (h : decodeAll decode rows = .error e) :
    ∃ row ∈ rows, decode row = .error e := by
  induction rows with
  | nil => cases h
  | cons row rows ih =>
    rw [decodeAll, Except.bind_eq_error] at h
    rcases h with hrow | ⟨x, -, h⟩
    · exact ⟨row, List.mem_cons_self, hrow⟩
    · rcases Except.bind_eq_error.1 h with hrest | ⟨xs, -, h⟩
      · obtain ⟨bad, hbad, hdecode⟩ := ih hrest
        exact ⟨bad, List.mem_cons_of_mem _ hbad, hdecode⟩
      · cases h

/-- What is decoded together was read off the rows. -/
theorem exists_row_of_decodeAll {decode : Row → Except StoreError α} {rows : List Row} {xs : List α}
    (h : decodeAll decode rows = .ok xs) : ∀ x ∈ xs, ∃ row ∈ rows, decode row = .ok x := by
  replace h := decodeAll_eq_ok_iff.1 h
  induction h with
  | nil => exact List.forall_mem_nil _
  | cons hrow _ ih =>
    refine List.forall_mem_cons.2 ⟨⟨_, List.mem_cons_self, hrow⟩, fun x hx => ?_⟩
    obtain ⟨row, hmem, hread⟩ := ih x hx
    exact ⟨row, List.mem_cons_of_mem _ hmem, hread⟩

/-- No row is passed over. -/
theorem exists_ok_of_decodeAll {decode : Row → Except StoreError α} {rows : List Row} {xs : List α}
    (h : decodeAll decode rows = .ok xs) : ∀ row ∈ rows, ∃ x, decode row = .ok x := by
  replace h := decodeAll_eq_ok_iff.1 h
  induction h with
  | nil => exact List.forall_mem_nil _
  | cons hrow _ ih => exact List.forall_mem_cons.2 ⟨⟨_, hrow⟩, ih⟩

/-! ### Decoders -/

/-- A row that differs from another one in a column only, where it has a text. -/
structure Sql.Row.Exchanged (row row' : Row) (column text : String) : Prop where
  holds : row'.find? column = some (.text text)
  others : ∀ name, name ≠ column → row'.find? name = row.find? name

/-- A decoder of rows that checks the path in a column, and what is selected for it. -/
structure LabelPath.Guarded (decode : Row → Except StoreError α) (path : α → Option LabelPath)
    (column : String) (selected : List String) : Prop where
  /-- A path that is read is of the grammar and stands in the column as it is. -/
  accepted : ∀ row x, decode row = .ok x → ∀ p ∈ path x,
    Grammar p.text ∧ row.find? column = some (.text p.text)
  /-- A row with another text in the column is not decoded. -/
  refused : ∀ row text, row.find? column = some (.text text) → ¬ Grammar text →
    ∃ e, decode row = .error e
  /-- A row with everything that is selected fails only because of what it holds, and under the code
  for that. -/
  fails : ∀ row, row.Has selected → Decoding (decode row)
  /-- Of a row whose other columns can be decoded the check of the path decides. -/
  decides : ∀ row x, decode row = .ok x → ∀ row' text, row.Exchanged row' column text →
    (∀ p, ofText text = .ok p → ∃ x', decode row' = .ok x' ∧ path x' = some p) ∧
    ∀ refusal, ofText text = .error refusal →
      decode row' = .error (.serialization refusal.toError.message)

/-- It is enough to know that the path that is read is the text in the column, and what becomes of
a row with another one. -/
theorem LabelPath.Guarded.of_kept {decode : Row → Except StoreError α} {path : α → Option LabelPath}
    {column : String} {selected : List String}
    (hkept : ∀ row x, decode row = .ok x → ∀ text,
      row.find? column = some (.text text) ↔ ∃ p ∈ path x, p.text = text)
    (hfails : ∀ row, row.Has selected → Decoding (decode row)) (replace : α → LabelPath → α)
    (hreplace : ∀ x p, path (replace x p) = some p)
    (hexchanged : ∀ row x, decode row = .ok x → ∀ row' text, row.Exchanged row' column text →
      decode row' = (ofStored text).map (replace x)) :
    Guarded decode path column selected where
  accepted row x h p hp := ⟨p.grammar_text, (hkept row x h p.text).2 ⟨p, hp, rfl⟩⟩
  refused := by
    intro row text hfind hgrammar
    cases h : decode row with
    | error e => exact ⟨e, rfl⟩
    | ok x =>
      obtain ⟨p, -, rfl⟩ := (hkept row x h text).1 hfind
      exact absurd p.grammar_text hgrammar
  fails := hfails
  decides := by
    intro row x h row' text hrow
    rw [hexchanged row x h row' text hrow, ofStored]
    constructor
    · intro p hp
      exact ⟨replace x p, by rw [hp]; rfl, hreplace x p⟩
    · intro refusal hrefused
      rw [hrefused]
      rfl

theorem LabelPath.ofStored_eq_ok_iff {text : String} {p : LabelPath} :
    ofStored text = .ok p ↔ p.text = text := by
  rw [ofStored, Except.mapError_eq_ok, ofText_eq_ok_iff]

/-- The columns that are selected of a node. -/
def Node.selected : List String :=
  ["id", "tenant_id", "user_id", "node_kind", "source_type", "source_id", "title", "content",
    "struct_data", "keywords_text", "content_hash", "taxonomy_path", "created_at"]

example : ", ".intercalate (Node.selected.map fun name =>
    if name = "taxonomy_path" then "taxonomy_path::text AS taxonomy_path" else name) =
      Node.columns := by decide +kernel

theorem Node.ofRow_decoding {row : Row} (h : row.Has selected) : Decoding (ofRow row) := by
  have hcolumn {γ : Type} [Cell γ] (name : String) (hname : name ∈ selected) :
      Decoding (row.column name : Except StoreError γ) := Row.column_decoding h hname
  have hkind (name : String) : Decoding (NodeKind.parse name) := by
    rw [NodeKind.parse]
    cases NodeKind.ofName? name with
    | some kind => exact .ok kind
    | none => exact fun e he => by cases he; rfl
  have hpath (path : Option String) : Decoding (path.mapM LabelPath.ofStored) := by
    cases path with
    | none => exact .ok none
    | some text => exact .bind .refused fun p => .ok (some p)
  unfold ofRow
  iterate 6 refine .bind (hcolumn _ (by decide)) fun _ => ?_
  refine .bind (hkind _) fun _ => ?_
  iterate 6 refine .bind (hcolumn _ (by decide)) fun _ => ?_
  exact .bind (hpath _) fun _ => .bind (hcolumn _ (by decide)) fun _ => .ok _

/-- The path of a node is the text in its column, or there is none in either. -/
theorem Node.column_path {row : Row} {n : Node} (h : ofRow row = .ok n) :
    row.column "taxonomy_path" = .ok (n.path.map LabelPath.text) := by
  simp only [ofRow, Except.bind_eq_ok] at h
  obtain ⟨_, -, path, hpath, _, -, _, -, _, -, _, -, _, -, _, -, _, -, _, -, _, -, _, -, _, -,
    stored, hstored, _, -, hn⟩ := h
  cases hn
  rw [hpath]
  cases path with
  | none =>
    cases hstored
    rfl
  | some text =>
    obtain ⟨p, hp, hsome⟩ := Except.bind_eq_ok.1 hstored
    cases hsome
    rw [← LabelPath.ofStored_eq_ok_iff.1 hp]
    rfl

/-- Only the path of a node depends on its column. -/
theorem Node.ofRow_exchanged {row row' : Row} {text : String} {n : Node} (h : ofRow row = .ok n)
    (hrow : row.Exchanged row' "taxonomy_path" text) :
    ofRow row' = (LabelPath.ofStored text).map fun p => { n with path := some p } := by
  have hcolumn {γ : Type} [Cell γ] {name : String} {a : γ} (h : row.column name = .ok a)
      (hname : name ≠ "taxonomy_path") : row'.column name = .ok a := by
    rw [Row.column_congr (hrow.others name hname), h]
  simp only [ofRow, Except.bind_eq_ok] at h
  obtain ⟨_, hkind, _, -, _, hmetadata, _, hid, _, htenant, _, huser, _, hparse, _, hsourceType,
    _, hsourceId, _, htitle, _, hcontent, _, hkeywords, _, hhash, _, -, _, hcreated, hn⟩ := h
  cases hn
  have hpath := Row.column_some_text_iff.2 hrow.holds
  simp only [ofRow, hcolumn hkind (by decide), hpath, hcolumn hmetadata (by decide),
    hcolumn hid (by decide), hcolumn htenant (by decide), hcolumn huser (by decide), hparse,
    hcolumn hsourceType (by decide), hcolumn hsourceId (by decide), hcolumn htitle (by decide),
    hcolumn hcontent (by decide), hcolumn hkeywords (by decide), hcolumn hhash (by decide),
    hcolumn hcreated (by decide), bind, Except.bind]
  cases h : LabelPath.ofStored text with
  | ok p =>
    simp only [Option.mapM_some, h, Functor.map, Except.map]
    rfl
  | error e => simp only [Option.mapM_some, h, Functor.map, Except.map]

theorem Node.ofRow_guarded : LabelPath.Guarded ofRow path "taxonomy_path" selected := by
  refine .of_kept ?_ (fun _ => ofRow_decoding) (fun n p => { n with path := some p })
    (fun _ _ => rfl) fun _ _ h _ _ => ofRow_exchanged h
  intro row n h text
  rw [← Row.column_some_text_iff, column_path h]
  simp

/-- A preview has the path of the node. -/
theorem Graph.previewOfRow_guarded (limit : Nat) :
    LabelPath.Guarded (previewOfRow limit) Node.path "taxonomy_path" Node.selected where
  accepted := by
    intro row n h p hp
    obtain ⟨whole, hwhole, rfl⟩ := previewOfRow_eq_ok_iff.1 h
    exact Node.ofRow_guarded.accepted row whole hwhole p hp
  refused := by
    intro row text hfind hgrammar
    obtain ⟨e, he⟩ := Node.ofRow_guarded.refused row text hfind hgrammar
    exact ⟨e, Except.bind_eq_error.2 (.inl he)⟩
  fails row h := .bind (Node.ofRow_decoding h) fun _ => .ok _
  decides := by
    intro row n h row' text hrow
    obtain ⟨whole, hwhole, rfl⟩ := previewOfRow_eq_ok_iff.1 h
    obtain ⟨haccepted, hrefused⟩ :=
      Node.ofRow_guarded.decides row whole hwhole row' text hrow
    constructor
    · intro p hp
      obtain ⟨n, hn, hpath⟩ := haccepted p hp
      exact ⟨_, previewOfRow_eq_ok_iff.2 ⟨n, hn, rfl⟩, hpath⟩
    · intro refusal hp
      exact Except.bind_eq_error.2 (.inl (hrefused refusal hp))

namespace Catalog

/-- The columns that are selected of an entry. -/
def selected : List String :=
  ["tenant_id", "domain", "name", "path", "keywords", "metadata", "updated_at"]

theorem entryOfRow_decoding {row : Row} (h : row.Has selected) : Decoding (entryOfRow row) := by
  have hcolumn {γ : Type} [Cell γ] (name : String) (hname : name ∈ selected) :
      Decoding (row.column name : Except StoreError γ) := Row.column_decoding h hname
  unfold entryOfRow
  iterate 4 refine .bind (hcolumn _ (by decide)) fun _ => ?_
  refine .bind .refused fun _ => .bind (hcolumn _ (by decide)) fun _ => .bind .refused fun _ => ?_
  exact .bind (hcolumn _ (by decide)) fun _ => .bind (hcolumn _ (by decide)) fun _ => .ok _

/-- The path of an entry is the text in its column. -/
theorem column_path {row : Row} {e : Entry} (h : entryOfRow row = .ok e) :
    row.column "path" = .ok e.path.text := by
  simp only [entryOfRow, Except.bind_eq_ok] at h
  obtain ⟨_, -, text, htext, _, -, _, -, _, -, _, -, p, hp, _, -, _, -, he⟩ := h
  cases he
  rw [htext, LabelPath.ofStored_eq_ok_iff.1 hp]

/-- Only the path of an entry depends on its column. -/
theorem entryOfRow_exchanged {row row' : Row} {text : String} {e : Entry}
    (h : entryOfRow row = .ok e) (hrow : row.Exchanged row' "path" text) :
    entryOfRow row' = (LabelPath.ofStored text).map fun p => { e with path := p } := by
  have hcolumn {γ : Type} [Cell γ] {name : String} {a : γ} (h : row.column name = .ok a)
      (hname : name ≠ "path") : row'.column name = .ok a := by
    rw [Row.column_congr (hrow.others name hname), h]
  simp only [entryOfRow, Except.bind_eq_ok] at h
  obtain ⟨_, hdomain, _, -, _, hmetadata, _, htenant, _, hparse, _, hname, _, -, _, hkeywords, _,
    hupdated, he⟩ := h
  cases he
  have hpath := Row.column_text_iff.2 hrow.holds
  simp only [entryOfRow, hcolumn hdomain (by decide), hpath, hcolumn hmetadata (by decide),
    hcolumn htenant (by decide), hparse, hcolumn hname (by decide),
    hcolumn hkeywords (by decide), hcolumn hupdated (by decide), bind, Except.bind]
  cases LabelPath.ofStored text <;> rfl

theorem entryOfRow_guarded :
    LabelPath.Guarded entryOfRow (fun e => some e.path) "path" selected := by
  refine .of_kept ?_ (fun _ => entryOfRow_decoding) (fun e p => { e with path := p })
    (fun _ _ => rfl) fun _ _ h _ _ => entryOfRow_exchanged h
  intro row e h text
  rw [← Row.column_text_iff, column_path h]
  simp

end Catalog

/-! ### Operations -/

/-- An operation that decodes the rows of the reply to a statement of some kind, if it sends one,
and whose answer has some of the items that were decoded. -/
structure Operation.Decodes (o : Operation β) (Asks : Statement → Prop)
    (decode : Row → Except StoreError α) (items : β → List α) : Prop where
  /-- An answer is made of all the rows of the one reply, or there is none and nothing to answer. -/
  answered : ∀ sent b, o.Exchange sent (.ok b) →
    (∀ e ∈ sent, ¬ Asks e.statement) ∧ items b = [] ∨
      ∃ e ∈ sent, Asks e.statement ∧ (∀ e' ∈ sent, Asks e'.statement → e' = e) ∧
        ∃ xs, decodeAll decode e.reply.resultRows = .ok xs ∧ items b ⊆ xs
  /-- When no statement fails, it is a row that makes the operation fail. -/
  fails : ∀ sent failure, o.Served sent (.error failure) → ∀ e ∈ sent, Asks e.statement →
    decodeAll decode e.reply.resultRows = .error failure

/-- A program that does nothing but decode the rows of a reply fails only in that. -/
theorem Work.Served.of_rows_error {γ : Type} {st : Statement} {f : List Row → Except StoreError γ}
    {g : γ → β} {sent : List Sent} {failure : StoreError}
    (h : (Work.rows st >>= fun rows => Work.ofExcept (f rows) >>= fun a =>
      pure (g a)).Served sent (.error failure)) :
    ∃ reply, sent = [⟨st, reply⟩] ∧ f reply.resultRows = .error failure := by
  obtain ⟨reply, rest, rfl, hrest⟩ := of_rows h
  refine ⟨reply, ?_⟩
  cases hdecode : f reply.resultRows with
  | ok a =>
    rw [hdecode] at hrest
    cases hrest
  | error e =>
    rw [hdecode] at hrest
    cases hrest
    exact ⟨rfl, rfl⟩

namespace Catalog

variable {s : StoreSettings} {tenant : String} {domain : Option Domain}

theorem entries_decodes :
    (entries s tenant domain).Decodes (· = entriesStatement tenant domain) entryOfRow id where
  answered := by
    intro sent es h
    rcases h.of_check with ⟨-, e, he⟩ | ⟨_, -, h⟩
    · cases he
    rcases h.of_check with ⟨-, e, he⟩ | ⟨_, -, h⟩
    · cases he
    rcases h.of_bind with ⟨e, he, -⟩ | ⟨rows, sent₁, sent₂, rfl, hrows, hdecode⟩
    · cases he
    obtain ⟨reply, rfl, -, rfl⟩ := hrows.of_forTenant.of_rows
    obtain ⟨rfl, hdecoded⟩ := hdecode.of_liftM
    refine .inr ⟨_, List.mem_cons_self, rfl, ?_, es, hdecoded, List.Subset.refl es⟩
    intro e he _
    exact List.mem_singleton.1 he
  fails := by
    intro sent failure h e he _
    rcases h.of_check with ⟨rfl, -⟩ | ⟨_, -, h⟩
    · cases he
    rcases h.of_check with ⟨rfl, -⟩ | ⟨_, -, h⟩
    · cases he
    rcases h.of_rows with ⟨rfl, -⟩ | ⟨reply, rest, rfl, hdecode⟩
    · cases he
    obtain ⟨rfl, hfailure⟩ := hdecode.of_liftM
    cases List.mem_singleton.1 he
    exact hfailure.symm

end Catalog

namespace Graph

variable {s : StoreSettings} {w : Walk}

theorem Walked.isWalk {sent : List Sent} {edges : List ReachedEdge} (h : Walked w sent edges) :
    ∀ e ∈ sent, e.statement.isWalk = true := by
  cases h with
  | skipped _ => exact List.forall_mem_nil _
  | answered _ _ hst _ _ => exact List.forall_mem_singleton.2 hst.isWalk

/-- A walk is no query for nodes. -/
theorem ne_nodesStatement {st : Statement} (h : st.isWalk = true) (tenant : String)
    (ids : List String) : st ≠ nodesStatement tenant ids := by
  rintro rfl
  rw [isWalk_nodesStatement] at h
  cases h

theorem search_decodes :
    (search s w).Decodes (fun st => ∃ ids, st = nodesStatement w.tenant ids)
      (previewOfRow s.graph.previewChars.toNat) Neighbourhood.nodes where
  answered := by
    intro sent g h
    by_cases hentry : w.entrypoints = []
    · rcases h.of_check with ⟨-, e, he⟩ | ⟨_, -, h⟩
      · cases he
      rw [if_pos (by simpa using hentry)] at h
      cases h
      exact .inl ⟨List.forall_mem_nil _, rfl⟩
    · obtain ⟨walked, reply, rfl, hwalk, -, hnodes⟩ := search_exchange hentry h
      have hwalked := (walked_of_exchange hwalk).isWalk
      refine .inr ⟨_, List.mem_append_right _ List.mem_cons_self, ⟨_, rfl⟩, ?_, g.nodes, hnodes,
        List.Subset.refl _⟩
      rintro e he ⟨ids, hids⟩
      rcases List.mem_append.1 he with he | he
      · exact absurd hids (ne_nodesStatement (hwalked e he) _ _)
      · exact List.mem_singleton.1 he
  fails := by
    rintro sent failure h e he ⟨ids, hids⟩
    rcases h.of_check with ⟨rfl, -⟩ | ⟨_, -, h⟩
    · cases he
    split at h
    · cases h
    rcases h.of_forTenant with ⟨rfl, -⟩ | h
    · cases he
    -- the nodes are asked for last, whether or not there was a walk
    rw [walk] at h
    split at h
    · obtain ⟨reply, rfl, hfailure⟩ := Work.Served.of_rows_error h
      cases List.mem_singleton.1 he
      exact hfailure
    · rw [Work.bind_assoc] at h
      obtain ⟨reply, rest, rfl, hedges⟩ := Work.Served.of_rows h
      have hrest : e ∈ rest := by
        refine (List.mem_cons.1 he).resolve_left ?_
        rintro rfl
        exact ne_nodesStatement (isWalk_walkStatement ..) _ _ hids
      rcases Work.Served.of_ofExcept hedges with ⟨rfl, -⟩ | ⟨edges, -, hnodes⟩
      · cases hrest
      · obtain ⟨reply, rfl, hfailure⟩ := Work.Served.of_rows_error hnodes
        cases List.mem_singleton.1 hrest
        exact hfailure

end Graph

namespace Search

open Fusion

variable {s : StoreSettings} {r : Request}

theorem hybrid_decodes :
    (hybrid s r).Decodes (fun st => ∃ ids, st = fetchStatement r.tenant ids) Node.ofRow
      (fun results => results.map Result.node) where
  answered := by
    intro sent results h
    by_cases hblank : Text.isBlank r.tenant = true
    · rw [hybrid, if_pos hblank] at h
      cases h
      exact .inl ⟨List.forall_mem_nil _, rfl⟩
    have htenant : Text.isBlank r.tenant = false := Bool.eq_false_iff.2 hblank
    cases hlimit : r.effectiveLimit with
    | none =>
      rw [hybrid, if_neg hblank, hlimit] at h
      cases h
      exact .inl ⟨List.forall_mem_nil _, rfl⟩
    | some n =>
      cases Pipeline.of_exchange htenant hlimit h with
      | @answered ranked fetchSent vectorHits textHits _ hranked hfetch =>
        have hrankings : ∀ e ∈ ranked, ¬ ∃ ids, e.statement = fetchStatement r.tenant ids := by
          rintro e he ⟨ids, hids⟩
          exact not_ranking_of_fetch hids (hranked.statement_eq e he)
        generalize fuse vectorHits textHits r.fusion r.params n.toNat = fused at hfetch
        cases hfetch with
        | skipped => exact .inl ⟨by rwa [List.append_nil], rfl⟩
        | @answered _ reply nodes _ hsome hreply hrows hjoined =>
          refine .inr ⟨_, List.mem_append_right _ List.mem_cons_self, ⟨_, rfl⟩, ?_, nodes, hrows,
            List.forall_mem_map.2 hjoined.node_mem⟩
          intro e he hasks
          rcases List.mem_append.1 he with he | he
          · exact absurd hasks (hrankings e he)
          · exact List.mem_singleton.1 he
  fails := by
    rintro sent failure h e he ⟨ids, hids⟩
    obtain ⟨fused, -, -, hanswer⟩ := hybrid_served h he hids
    cases hnodes : decodeAll Node.ofRow e.reply.resultRows with
    | ok nodes =>
      rw [hnodes] at hanswer
      cases hanswer
    | error e' =>
      rw [hnodes] at hanswer
      cases hanswer
      rfl

end Search

/-! ### Runs -/

/-- A run of an operation that answers only paths of the grammar, each of them as it stands in a
reply, and that fails if a reply has another text for a path. -/
structure Operation.ChecksPaths [Server σ] (o : Operation β) (p : Pool σ)
    (Asks : Statement → String → List String → Prop) (paths : β → List LabelPath) : Prop where
  answered : ∀ b, (o.run p).1 = .ok b → ∀ path ∈ paths b, LabelPath.Grammar path.text ∧
    ∃ e ∈ o.sent p, ∃ column selected, Asks e.statement column selected ∧
      ∃ row ∈ e.reply.resultRows, row.find? column = some (.text path.text)
  /-- With everything that was selected in the rows, and with no other failure, the category of the
  error is known. -/
  refused : ∀ e ∈ o.sent p, ∀ column selected, Asks e.statement column selected →
    ∀ row ∈ e.reply.resultRows, ∀ text, row.find? column = some (.text text) →
      ¬ LabelPath.Grammar text → ∃ failure, (o.run p).1 = .error failure ∧
        (p.AtRest → (∀ x ∈ o.sent p, x.Answered) →
          (∀ row ∈ e.reply.resultRows, row.Has selected) → failure.code = "SERIALIZATION_ERROR")

/-- An operation that decodes rows with a guarded decoder checks their paths in every run. -/
theorem Operation.Decodes.checksPaths [Server σ] {o : Operation β} {F : Frame → Prop}
    {P : Statement → Prop} {decode : Row → Except StoreError α} {items : β → List α}
    {path : α → Option LabelPath} {column : String} {selected : List String}
    (ho : o.Decodes P decode items) (hguarded : LabelPath.Guarded decode path column selected)
    (hsends : o.Sends F fun st => st.isData = true) (hdata : ∀ st, P st → st.isData = true)
    {paths : β → List LabelPath} (hpaths : ∀ b, ∀ q ∈ paths b, ∃ x ∈ items b, path x = some q)
    (p : Pool σ) :
    o.ChecksPaths p (fun st c names => P st ∧ c = column ∧ names = selected) paths where
  answered := by
    intro b hrun q hq
    obtain ⟨x, hx, hpath⟩ := hpaths b q hq
    have hexchange := Operation.exchange hsends p
    rw [hrun] at hexchange
    rcases ho.answered _ b hexchange with ⟨-, hnil⟩ | ⟨e, he, hasks, -, xs, hdecode, hitems⟩
    · rw [hnil] at hx
      cases hx
    · obtain ⟨row, hrow, hx⟩ := exists_row_of_decodeAll hdecode x (hitems hx)
      obtain ⟨hgrammar, hfind⟩ := hguarded.accepted row x hx q hpath
      exact ⟨hgrammar, e, List.mem_of_mem_filter he, column, selected, ⟨hasks, rfl, rfl⟩, row, hrow,
        hfind⟩
  refused := by
    rintro e he _ _ ⟨hasks, rfl, rfl⟩ row hrow text hfind hgrammar
    have he : e ∈ data (o.sent p) := List.mem_filter.2 ⟨he, hdata _ hasks⟩
    obtain ⟨badness, hbad⟩ := hguarded.refused row text hfind hgrammar
    cases hrun : (o.run p).1 with
    | ok b =>
      have hexchange := Operation.exchange hsends p
      rw [hrun] at hexchange
      -- the row has been decoded, since the operation has answered
      rcases ho.answered _ b hexchange with ⟨hnone, -⟩ | ⟨e', -, -, honly, xs, hdecode, -⟩
      · exact absurd hasks (hnone e he)
      · obtain rfl := honly e he hasks
        obtain ⟨x, hx⟩ := exists_ok_of_decodeAll hdecode row hrow
        rw [hbad] at hx
        cases hx
    | error failure =>
      refine ⟨failure, rfl, fun hrest hanswered hhas => ?_⟩
      have hserved := Operation.served hsends hrest hanswered
      rw [hrun] at hserved
      obtain ⟨first, hfirst, hfails⟩ :=
        exists_of_decodeAll_eq_error (ho.fails _ failure hserved e he hasks)
      exact hguarded.fails first (hhas first hfirst) failure hfails

namespace Call

/-- The paths in an answer.  Only nodes and entries have any. -/
def paths : (c : Call) → c.Answer → List LabelPath
  | searchGraph _, g => g.nodes.filterMap Node.path
  | searchHybrid _, results => (results.map Search.Result.node).filterMap Node.path
  | entries .., es => es.map Catalog.Entry.path
  | _, _ => []

/-- A statement for rows with paths, with the column of these and everything that it selects. -/
def AsksPaths : Call → Statement → String → List String → Prop
  | searchGraph w, st, column, selected =>
    (∃ ids, st = Graph.nodesStatement w.tenant ids) ∧ column = "taxonomy_path" ∧
      selected = Node.selected
  | searchHybrid r, st, column, selected =>
    (∃ ids, st = Search.fetchStatement r.tenant ids) ∧ column = "taxonomy_path" ∧
      selected = Node.selected
  | entries tenant domain, st, column, selected =>
    st = Catalog.entriesStatement tenant domain ∧ column = "path" ∧ selected = Catalog.selected
  | _, _, _, _ => False

/-- Every operation checks the paths that it reads, whatever a database replies. -/
theorem checksPaths [Server σ] (s : StoreSettings) (c : Call) (p : Pool σ) :
    (c.operation s).ChecksPaths p c.AsksPaths c.paths := by
  cases c with
  | searchGraph w =>
    have hsends := (@Graph.search_sends s 0 w).mono fun _ => Issued.isData
    refine Graph.search_decodes.checksPaths (Graph.previewOfRow_guarded _) hsends ?_ ?_ p
    · rintro _ ⟨ids, rfl⟩
      exact (@Issued.nodes 0 w.tenant ids).isData
    · exact fun g q hq => List.mem_filterMap.1 hq
  | searchHybrid r =>
    have hsends := (Search.hybrid_sends s r).mono fun _ => Issued.isData
    refine Search.hybrid_decodes.checksPaths Node.ofRow_guarded hsends ?_ ?_ p
    · rintro _ ⟨ids, rfl⟩
      exact (@Issued.fetch 0 r.tenant ids).isData
    · exact fun results q hq => List.mem_filterMap.1 hq
  | entries tenant domain =>
    have hsends := (@Catalog.entries_sends s 0 tenant domain).mono fun _ => Issued.isData
    refine Catalog.entries_decodes.checksPaths Catalog.entryOfRow_guarded hsends ?_ ?_ p
    · rintro _ rfl
      exact (@Issued.entries 0 tenant domain).isData
    · intro es q hq
      obtain ⟨e, he, rfl⟩ := List.mem_map.1 hq
      exact ⟨e, he, rfl⟩
  | _ => exact ⟨fun _ _ _ h => (List.not_mem_nil h).elim, nofun⟩

open LabelPath (ofText Grammar FirstFault Guarded) in
/-- **Paths are accepted exactly by their grammar, wherever they come from**: from a caller, from a
document, from a row or from the answer of an operation.  They are written as they were read, and of
a text that is refused the first part is named that is no label.  In a row such a text is an error
of decoding, for the row and for the operation that reads it. -/
theorem paths_governed [Server σ] (s : StoreSettings) (c : Call) (p : Pool σ) :
    (∀ text,
      ((∃ path, ofText text = .ok path) ↔ Grammar text) ∧
      (∀ path, ofText text = .ok path → path.text = text ∧ Codec.encode path = .str text) ∧
      (text ≠ "" → ∀ refusal, ofText text = .error refusal → ∃ bad, FirstFault text bad ∧
        refusal.toError =
          .validation ("invalid taxonomy path '" ++ text ++ "': bad label '" ++ bad ++ "'"))) ∧
    (∀ (j : Json) (path : LabelPath),
      Codec.decode j = .ok path ↔ ∃ text, j = .str text ∧ ofText text = .ok path) ∧
    Guarded Node.ofRow Node.path "taxonomy_path" Node.selected ∧
    Guarded Catalog.entryOfRow (fun e => some e.path) "path" Catalog.selected ∧
    (c.operation s).ChecksPaths p c.AsksPaths c.paths := by
  refine ⟨fun text => ⟨LabelPath.exists_ofText_iff, ?_, ?_⟩,
    fun j path => LabelPath.decode_eq_ok_iff, Node.ofRow_guarded, Catalog.entryOfRow_guarded,
    checksPaths s c p⟩
  · intro path h
    have htext := LabelPath.ofText_eq_ok_iff.1 h
    exact ⟨htext, congrArg Json.str htext⟩
  · intro hsome refusal h
    rcases LabelPath.fault?_eq_some_iff.1 (LabelPath.ofText_eq_error_iff.1 h) with
      ⟨hempty, -⟩ | ⟨-, bad, hbad, rfl⟩
    · exact absurd hempty hsome
    · exact ⟨bad, hbad, rfl⟩

/-- A catalog reply in which a path has a hyphen. -/
example : ((Catalog.entries { StoreSettings.default with commerce := true } "acme" none).run
    (Pool.replying [.done 0, .done 0, .done 0, .done 0, .done 0,
      .rows [⟨[("tenant_id", .text "acme"), ("domain", .text "color"), ("name", .text "Navy"),
        ("path", .text "blue.navy-dark"), ("keywords", .textArray []),
        ("metadata", .jsonb (.obj [])), ("updated_at", .null)]⟩]])).1 =
      .error (.serialization ("Validation error: invalid taxonomy path 'blue.navy-dark': " ++
        "bad label 'navy-dark'")) := rfl

end Call

end KnowledgeBase
