import Mathlib.Data.List.Nodup
import KnowledgeBase.Proofs.Connection.Exchange
import KnowledgeBase.Proofs.Search.Exactness
import KnowledgeBase.Proofs.Store.Writes

/-!
# A search is a pipeline of its replies

A search ranks chunks twice and fetches the nodes of the best candidates, in three transactions.
Rows may come and go between them, and a reply may hold anything.  What is answered is nevertheless
made of the replies in one way: candidates keep their order and their scores, and those without a
node are left out.

## Main definitions

* `Search.Joined` — candidates with their nodes.
* `Search.Ranked`, `Search.Fetched` — what one transaction sends, and what is made of its reply.
* `Search.Pipeline` — what a search sends and answers as a whole.

## Main results

* `Search.joined_iff` — joining is a relation of candidates and results, however it is computed.
* `Search.Joined.perm` — different nodes that are all candidates are all joined.
* `Search.Pipeline.of_exchange` — every run of a search goes through the pipeline.
* `Search.hybrid_pipeline` — what is known of an answer and of the fetch, whatever the replies.
-/

namespace KnowledgeBase.Search

open Sql Fusion

/-! ### Joining -/

/-- The last of some nodes that has an id. -/
def IsLast (id : String) (nodes : List Node) (n : Node) : Prop :=
  n.id = id ∧ ∃ before after, nodes = before ++ n :: after ∧ ∀ m ∈ after, m.id ≠ id

/-- Candidates with the last node of their id and with their scores, in their order.  Those without
a node are left out. -/
inductive Joined (nodes : List Node) : List (Fused Float) → List Result → Prop where
  | nil : Joined nodes [] []
  | found {f : Fused Float} {n : Node} {fused : List (Fused Float)} {results : List Result}
    (hlast : IsLast f.id nodes n) (rest : Joined nodes fused results) :
    Joined nodes (f :: fused) (⟨n, f.score, f.vectorScore, f.textScore⟩ :: results)
  | missing {f : Fused Float} {fused : List (Fused Float)} {results : List Result}
    (hnone : ∀ n ∈ nodes, n.id ≠ f.id) (rest : Joined nodes fused results) :
    Joined nodes (f :: fused) results

theorem find?_eq_some_iff {id : String} {nodes : List Node} {n : Node} :
    (nodes.reverse.find? fun m => m.id = id) = some n ↔ IsLast id nodes n := by
  rw [List.find?_eq_some_iff_append]
  constructor
  · rintro ⟨hid, after, before, hnodes, hafter⟩
    refine ⟨by simpa using hid, before.reverse, after.reverse, ?_, ?_⟩
    · rw [← List.reverse_reverse nodes, hnodes]
      simp
    · intro m hm
      simpa using hafter m (List.mem_reverse.1 hm)
  · rintro ⟨hid, before, after, rfl, hafter⟩
    refine ⟨by simpa using hid, after.reverse, before.reverse, by simp, ?_⟩
    intro m hm
    simpa using hafter m (List.mem_reverse.1 hm)

/-- **Joining is determined** by the nodes and the candidates. -/
theorem joined_iff {nodes : List Node} {fused : List (Fused Float)} {results : List Result} :
    Joined nodes fused results ↔ results = join nodes fused := by
  constructor
  · intro h
    induction h with
    | nil => rfl
    | @found f n fused results hlast _ ih =>
      rw [join, List.filterMap_cons, find?_eq_some_iff.2 hlast, ih]
      rfl
    | @missing f fused results hnone _ ih =>
      have hfind : (nodes.reverse.find? fun m => m.id = f.id) = none := by simpa using hnone
      rw [join, List.filterMap_cons, hfind, ih]
      rfl
  · rintro rfl
    induction fused with
    | nil => exact .nil
    | cons f fused ih =>
      rw [join, List.filterMap_cons]
      cases hfind : nodes.reverse.find? fun m => m.id = f.id with
      | none => exact .missing (by simpa using hfind) ih
      | some n => exact .found (find?_eq_some_iff.1 hfind) ih

/-- What is joined keeps the order of the candidates. -/
theorem Joined.sublist {nodes : List Node} {fused : List (Fused Float)} {results : List Result}
    (h : Joined nodes fused results) :
    (results.map fun x => x.node.id).Sublist (fused.map Fused.id) := by
  induction h with
  | nil => exact .slnil
  | found hlast _ ih =>
    rw [List.map_cons, List.map_cons, hlast.1]
    exact ih.cons_cons _
  | missing _ _ ih => exact ih.cons _

theorem Joined.node_mem {nodes : List Node} {fused : List (Fused Float)} {results : List Result}
    (h : Joined nodes fused results) : ∀ x ∈ results, x.node ∈ nodes := by
  induction h with
  | nil => exact List.forall_mem_nil _
  | found hlast _ ih =>
    obtain ⟨-, before, after, rfl, -⟩ := hlast
    exact List.forall_mem_cons.2 ⟨List.mem_append_right _ List.mem_cons_self, ih⟩
  | missing _ _ ih => exact ih

/-- A candidate with a node is joined with one. -/
theorem Joined.exists_result {nodes : List Node} {fused : List (Fused Float)}
    {results : List Result} (h : Joined nodes fused results) {n : Node} (hn : n ∈ nodes)
    (hcandidate : n.id ∈ fused.map Fused.id) : ∃ x ∈ results, x.node.id = n.id := by
  induction h with
  | nil => cases hcandidate
  | @found f m fused results hlast _ ih =>
    rcases List.mem_cons.1 hcandidate with hid | hrest
    · exact ⟨_, List.mem_cons_self, hlast.1.trans hid.symm⟩
    · obtain ⟨x, hx, hid⟩ := ih hrest
      exact ⟨x, List.mem_cons_of_mem _ hx, hid⟩
  | missing hnone _ ih =>
    rcases List.mem_cons.1 hcandidate with hid | hrest
    · exact absurd hid (hnone n hn)
    · exact ih hrest

/-- Nodes with different ids, each of them a candidate, are all joined, in whatever order. -/
theorem Joined.perm {nodes : List Node} {fused : List (Fused Float)} {results : List Result}
    (h : Joined nodes fused results) (hfused : (fused.map Fused.id).Nodup)
    (hnodes : (nodes.map Node.id).Nodup) (hcandidates : ∀ n ∈ nodes, n.id ∈ fused.map Fused.id) :
    (results.map Result.node).Perm nodes := by
  have hresults : ((results.map Result.node).map Node.id).Nodup := by
    rw [List.map_map]
    exact h.sublist.nodup hfused
  rw [List.perm_ext_iff_of_nodup (hresults.of_map _) (hnodes.of_map _)]
  intro n
  constructor
  · intro hn
    obtain ⟨x, hx, rfl⟩ := List.mem_map.1 hn
    exact h.node_mem x hx
  · intro hn
    obtain ⟨x, hx, hid⟩ := h.exists_result hn (hcandidates n hn)
    rw [← List.inj_on_of_nodup_map hnodes (h.node_mem x hx) hn hid]
    exact List.mem_map_of_mem hx

/-! ### Three transactions -/

/-- What a ranking sends, and the hits in its reply.  A ranking without a use is left out. -/
inductive Ranked (useful : Bool) (s : Statement) : List Sent → List (Hit Float) → Prop where
  | skipped (h : useful = false) : Ranked useful s [] []
  | answered {r : Reply} {hits : List (Hit Float)} (h : useful = true) (hreply : r.failure? = none)
    (hrows : decodeAll hitOfRow r.resultRows = .ok hits) : Ranked useful s [⟨s, r⟩] hits

/-- What both rankings send, one after the other, and their hits. -/
inductive Rankings (r : Request) : List Sent → List (Hit Float) → List (Hit Float) → Prop where
  | intro {vectorSent textSent : List Sent} {vectorHits textHits : List (Hit Float)}
    (hvector : Ranked (!r.vector.isEmpty) (vectorStatement r) vectorSent vectorHits)
    (htext : Ranked (!Text.isBlank r.text) (textStatement r) textSent textHits) :
    Rankings r (vectorSent ++ textSent) vectorHits textHits

/-- What is sent for the nodes of candidates, and the results made of the reply.  Without candidates
nothing is sent. -/
inductive Fetched (tenant : String) : List (Fused Float) → List Sent → List Result → Prop where
  | skipped : Fetched tenant [] [] []
  | answered {fused : List (Fused Float)} {r : Reply} {nodes : List Node} {results : List Result}
    (hsome : fused ≠ []) (hreply : r.failure? = none)
    (hrows : decodeAll Node.ofRow r.resultRows = .ok nodes) (hjoined : Joined nodes fused results) :
    Fetched tenant fused [⟨fetchStatement tenant (fused.map Fused.id), r⟩] results

/-- What a search with at most `limit` results sends and answers.  It may fail in a ranking, or
while it fetches the nodes of the candidates. -/
inductive Pipeline (r : Request) (limit : Nat) :
    List Sent → Except StoreError (List Result) → Prop where
  | unranked {sent : List Sent} (failure : StoreError)
    (hsent : ∀ e ∈ sent, e.statement = vectorStatement r ∨ e.statement = textStatement r) :
    Pipeline r limit sent (.error failure)
  | unfetched {ranked fetchSent : List Sent} {vectorHits textHits : List (Hit Float)}
    (failure : StoreError) (hranked : Rankings r ranked vectorHits textHits)
    (hsome : fuse vectorHits textHits r.fusion r.params limit ≠ [])
    (hsent : ∀ e ∈ fetchSent, e.statement = fetchStatement r.tenant
      ((fuse vectorHits textHits r.fusion r.params limit).map Fused.id)) :
    Pipeline r limit (ranked ++ fetchSent) (.error failure)
  | answered {ranked fetchSent : List Sent} {vectorHits textHits : List (Hit Float)}
    {results : List Result} (hranked : Rankings r ranked vectorHits textHits)
    (hfetch : Fetched r.tenant (fuse vectorHits textHits r.fusion r.params limit) fetchSent
      results) :
    Pipeline r limit (ranked ++ fetchSent) (.ok results)

theorem Ranked.of_exchange {tenant : String} {useful : Bool} {s : Statement} {sent : List Sent}
    {hits : List (Hit Float)} (h : (ranking tenant useful s).Exchange sent (.ok hits)) :
    Ranked useful s sent hits := by
  rw [ranking] at h
  split at h
  · next huseful =>
    rcases h.of_bind with ⟨_, herr, -⟩ | ⟨rows, sent₁, sent₂, rfl, hrows, hdecode⟩
    · cases herr
    · obtain ⟨reply, rfl, hreply, rfl⟩ := hrows.of_forTenant.of_rows
      obtain ⟨rfl, hdecoded⟩ := hdecode.of_liftM
      exact .answered huseful hreply hdecoded
  · next huseless =>
    cases h
    exact .skipped (by simpa using huseless)

/-- **Every run of a search goes through the pipeline.** -/
theorem Pipeline.of_exchange {s : StoreSettings} {r : Request} {n : UInt32} {sent : List Sent}
    {answer : Except StoreError (List Result)} (htenant : Text.isBlank r.tenant = false)
    (hlimit : r.effectiveLimit = some n) (h : (hybrid s r).Exchange sent answer) :
    Pipeline r n.toNat sent answer := by
  have hvectors : (ranking r.tenant (!r.vector.isEmpty) (vectorStatement r)).Sends
      (Frame.IsFor r.tenant none) (· = vectorStatement r) := ranking_sends fun _ => rfl
  have htexts : (ranking r.tenant (!Text.isBlank r.text) (textStatement r)).Sends
      (Frame.IsFor r.tenant none) (· = textStatement r) := ranking_sends fun _ => rfl
  rw [hybrid, htenant, if_neg Bool.false_ne_true, hlimit] at h
  rcases h.of_check with ⟨rfl, e, rfl⟩ | ⟨_, -, h⟩
  · exact .unranked e (List.forall_mem_nil _)
  rcases h.of_bind with ⟨e, rfl, hfailed⟩ | ⟨vectorHits, vectorSent, sent, rfl, hvector, h⟩
  · refine .unranked e ?_
    intro e he
    exact .inl (hfailed.sends hvectors e he)
  rcases h.of_bind with ⟨e, rfl, hfailed⟩ | ⟨textHits, textSent, sent, rfl, htext, h⟩
  · refine .unranked e ?_
    intro e he
    rcases List.mem_append.1 he with he | he
    · exact .inl (hvector.sends hvectors e he)
    · exact .inr (hfailed.sends htexts e he)
  have hranked : Rankings r (vectorSent ++ textSent) vectorHits textHits :=
    .intro (.of_exchange hvector) (.of_exchange htext)
  simp only at h
  rw [← List.append_assoc]
  -- both rankings have answered; what follows depends on whether anything was found
  split at h
  · next hnone =>
    cases h
    refine .answered hranked ?_
    rw [List.isEmpty_iff.1 hnone]
    exact .skipped
  · next hsome =>
    have hsome : fuse vectorHits textHits r.fusion r.params n.toNat ≠ [] := by simpa using hsome
    rcases h.of_bind with ⟨e, rfl, hfailed⟩ | ⟨rows, fetchSent, sent, rfl, hrows, h⟩
    · refine .unfetched e hranked hsome ?_
      exact hfailed.sends (P := (· = fetchStatement r.tenant _))
        (Operation.Sends.forTenant (F := fun _ => True) trivial (.rows rfl))
    · obtain ⟨reply, rfl, hreply, rfl⟩ := hrows.of_forTenant.of_rows
      rcases h.of_check with ⟨rfl, e, rfl⟩ | ⟨nodes, hnodes, h⟩
      · exact .unfetched e hranked hsome (List.forall_mem_singleton.2 rfl)
      · cases h
        exact .answered hranked (.answered hsome hreply hnodes (joined_iff.2 rfl))

/-! ### What a fetch tells -/

/-- A hit was read off a row. -/
theorem Ranked.exists_row {useful : Bool} {s : Statement} {sent : List Sent}
    {hits : List (Hit Float)} (h : Ranked useful s sent hits) {hit : Hit Float}
    (hhit : hit ∈ hits) :
    ∃ e ∈ sent, e.reply.resultRows ≠ [] := by
  cases h with
  | skipped _ => cases hhit
  | @answered r _ _ _ hrows =>
    refine ⟨⟨s, r⟩, List.mem_cons_self, ?_⟩
    intro hnone
    have hlength := length_decodeAll hrows
    rw [hnone, List.length_nil, List.length_eq_zero_iff] at hlength
    rw [hlength] at hhit
    cases hhit

theorem Ranked.statement_eq {useful : Bool} {s : Statement} {sent : List Sent}
    {hits : List (Hit Float)} (h : Ranked useful s sent hits) : ∀ e ∈ sent, e.statement = s := by
  cases h with
  | skipped _ => exact List.forall_mem_nil _
  | answered _ _ _ => exact List.forall_mem_singleton.2 rfl

theorem Rankings.statement_eq {r : Request} {ranked : List Sent}
    {vectorHits textHits : List (Hit Float)} (h : Rankings r ranked vectorHits textHits) :
    ∀ e ∈ ranked, e.statement = vectorStatement r ∨ e.statement = textStatement r := by
  obtain ⟨hvector, htext⟩ := h
  intro e he
  rcases List.mem_append.1 he with he | he
  · exact .inl (hvector.statement_eq e he)
  · exact .inr (htext.statement_eq e he)

/-- Candidates come from rows. -/
theorem Rankings.exists_row {r : Request} {ranked : List Sent} {limit : Nat}
    {vectorHits textHits : List (Hit Float)} (h : Rankings r ranked vectorHits textHits)
    (hsome : fuse vectorHits textHits r.fusion r.params limit ≠ []) :
    ∃ e ∈ ranked, e.reply.resultRows ≠ [] := by
  obtain ⟨f, hf⟩ := List.exists_mem_of_ne_nil _ hsome
  obtain ⟨hit, hhit, -⟩ := exists_hit_of_mem_fuse hf
  obtain ⟨hvector, htext⟩ := h
  rcases List.mem_append.1 hhit with hhit | hhit
  · obtain ⟨e, he, hrow⟩ := hvector.exists_row hhit
    exact ⟨e, List.mem_append_left _ he, hrow⟩
  · obtain ⟨e, he, hrow⟩ := htext.exists_row hhit
    exact ⟨e, List.mem_append_right _ he, hrow⟩

/-- A fetch binds two values, a ranking at least three. -/
theorem not_ranking_of_fetch {r : Request} {tenant : String} {ids : List String} {s : Statement}
    (h : s = fetchStatement tenant ids) : ¬ (s = vectorStatement r ∨ s = textStatement r) := by
  subst h
  rintro (h | h)
  · have hlength := congrArg (fun s => s.binds.length) h
    simp [fetchStatement, vectorStatement, Statement.binds] at hlength
  · have hlength := congrArg (fun s => s.binds.length) h
    simp [fetchStatement, textStatement, Statement.binds] at hlength

theorem Fetched.statement_eq {tenant : String} {fused : List (Fused Float)} {sent : List Sent}
    {results : List Result} (h : Fetched tenant fused sent results) {e : Sent} (he : e ∈ sent) :
    fused ≠ [] ∧ e.statement = fetchStatement tenant (fused.map Fused.id) := by
  cases h with
  | skipped => cases he
  | answered hsome _ _ _ =>
    cases List.mem_singleton.1 he
    exact ⟨hsome, rfl⟩

theorem Fetched.joined {tenant : String} {fused : List (Fused Float)} {sent : List Sent}
    {results : List Result} (h : Fetched tenant fused sent results) :
    ∃ nodes, Joined nodes fused results := by
  cases h with
  | skipped => exact ⟨[], .nil⟩
  | @answered _ _ nodes _ _ _ _ hjoined => exact ⟨nodes, hjoined⟩

theorem fetchStatement_inj {tenant : String} {ids ids' : List String}
    (h : fetchStatement tenant ids = fetchStatement tenant ids') : ids = ids' := by
  injection h with _ hbinds
  injection hbinds with _ hbinds
  injection hbinds with hids _
  injection hids

/-- **Nodes are fetched only for the hits of some ranking**, also when the search fails afterwards,
and exactly the fused ids are asked for, in their order. -/
theorem Pipeline.of_fetch {r : Request} {limit : Nat} {sent : List Sent}
    {answer : Except StoreError (List Result)} (h : Pipeline r limit sent answer) {e : Sent}
    (he : e ∈ sent) {ids : List String} (hfetch : e.statement = fetchStatement r.tenant ids) :
    ∃ ranked vectorHits textHits, ranked ⊆ sent ∧ Rankings r ranked vectorHits textHits ∧
      ids = (fuse vectorHits textHits r.fusion r.params limit).map Fused.id ∧
      ∃ e ∈ ranked, e.reply.resultRows ≠ [] := by
  have hnot := not_ranking_of_fetch (r := r) hfetch
  cases h with
  | unranked _ hsent => exact absurd (hsent e he) hnot
  | @unfetched ranked fetchSent vectorHits textHits _ hranked hsome hsent =>
    rcases List.mem_append.1 he with he | he
    · exact absurd (hranked.statement_eq e he) hnot
    · exact ⟨ranked, vectorHits, textHits, List.subset_append_left _ _, hranked,
        fetchStatement_inj (hfetch.symm.trans (hsent e he)), hranked.exists_row hsome⟩
  | @answered ranked fetchSent vectorHits textHits _ hranked hfetched =>
    rcases List.mem_append.1 he with he | he
    · exact absurd (hranked.statement_eq e he) hnot
    · obtain ⟨hsome, hsent⟩ := hfetched.statement_eq he
      exact ⟨ranked, vectorHits, textHits, List.subset_append_left _ _, hranked,
        fetchStatement_inj (hfetch.symm.trans hsent), hranked.exists_row hsome⟩

/-! ### Searches -/

theorem effectiveLimit_eq {r : Request} (hlimit : r.limit ≠ 0) (hcandidates : r.candidateK ≠ 0) :
    ∃ n, r.effectiveLimit = some n ∧ n.toNat = min r.limit.toNat r.candidateK.toNat := by
  rw [Request.effectiveLimit]
  by_cases hle : r.limit ≤ r.candidateK
  · refine ⟨r.limit, by simp [hlimit, hcandidates, hle], ?_⟩
    exact (Nat.min_eq_left (UInt32.le_iff_toNat_le.1 hle)).symm
  · refine ⟨r.candidateK, by simp [hlimit, hcandidates, hle], ?_⟩
    have hlt := UInt32.lt_iff_toNat_lt.1 (UInt32.not_le.1 hle)
    omega

/-- **A search is a pipeline of its replies**, whatever they are.  Its results are the fused hits of
the two rankings, in their order and with their scores, joined with the nodes of the fetch.  Hence
no id is found twice, none that no ranking has returned, and no more than asked for; and nodes are
only fetched after a ranking has returned a row. -/
theorem hybrid_pipeline {σ : Type} [Server σ] (s : StoreSettings) (r : Request) (p : Pool σ)
    (htenant : Text.isBlank r.tenant = false) (hlimit : r.limit ≠ 0)
    (hcandidates : r.candidateK ≠ 0) :
    (∀ results, ((hybrid s r).run p).1 = .ok results →
      ∃ ranked fetchSent vectorHits textHits fused,
        data ((hybrid s r).sent p) = ranked ++ fetchSent ∧
        Rankings r ranked vectorHits textHits ∧
        fused = fuse vectorHits textHits r.fusion r.params
          (min r.limit.toNat r.candidateK.toNat) ∧
        Fetched r.tenant fused fetchSent results ∧
        (results.map fun x => x.node.id).Nodup ∧
        (results.map fun x => x.node.id).Sublist (fused.map Fused.id) ∧
        (∀ x ∈ results, ∃ hit ∈ vectorHits ++ textHits, hit.id = x.node.id) ∧
        results.length ≤ min r.limit.toNat r.candidateK.toNat) ∧
    ∀ e ∈ (hybrid s r).sent p, ∀ ids, e.statement = fetchStatement r.tenant ids →
      ∃ ranked vectorHits textHits, ranked ⊆ (hybrid s r).sent p ∧
        Rankings r ranked vectorHits textHits ∧
        ids = (fuse vectorHits textHits r.fusion r.params
          (min r.limit.toNat r.candidateK.toNat)).map Fused.id ∧
        ∃ e ∈ ranked, e.reply.resultRows ≠ [] := by
  obtain ⟨n, hn, hmin⟩ := effectiveLimit_eq hlimit hcandidates
  have hsends := (hybrid_sends s r).mono fun _ => Call.Issued.isData
  have hpipeline := Pipeline.of_exchange htenant hn (Operation.exchange hsends p)
  rw [hmin] at hpipeline
  constructor
  · -- a run that answers has gone through the pipeline to its end
    intro results hok
    rw [hok] at hpipeline
    generalize hdata : data ((hybrid s r).sent p) = sent at hpipeline
    cases hpipeline with
    | @answered ranked fetchSent vectorHits textHits _ hranked hfetch =>
      obtain ⟨nodes, hjoined⟩ := hfetch.joined
      have hsublist := hjoined.sublist
      refine ⟨ranked, fetchSent, vectorHits, textHits, _, rfl, hranked, rfl, hfetch,
        hsublist.nodup (nodup_fuse ..), hsublist, ?_, ?_⟩
      · intro x hx
        have hmem : x.node.id ∈ results.map fun x => x.node.id := List.mem_map_of_mem hx
        obtain ⟨f, hf, hid⟩ := List.mem_map.1 (hsublist.subset hmem)
        obtain ⟨hit, hhit, heq⟩ := exists_hit_of_mem_fuse hf
        exact ⟨hit, hhit, heq.trans hid⟩
      · have hlength := hsublist.length_le
        rw [List.length_map, List.length_map] at hlength
        exact Nat.le_trans hlength (length_fuse_le ..)
  · -- a fetch is a data statement, so it is found in the exchange
    intro e he ids hfetch
    have hdata : e.statement.isData = true := by
      rw [hfetch]
      exact (@Call.Issued.fetch s.dimension r.tenant ids).isData
    have hsent : data ((hybrid s r).sent p) ⊆ (hybrid s r).sent p := List.filter_sublist.subset
    obtain ⟨ranked, vectorHits, textHits, hsubset, hrest⟩ :=
      hpipeline.of_fetch (List.mem_filter.2 ⟨he, hdata⟩) hfetch
    exact ⟨ranked, vectorHits, textHits, List.Subset.trans hsubset hsent, hrest⟩

/-- A search by text alone. -/
def byText : Request where
  tenant := "acme"
  text := "rust"
  vector := []
  candidateK := 5
  limit := 3
  scope := .all
  fusion := .reciprocalRank
  params := evenParams

/-- A server that ranks one chunk twice, and then finds its node. -/
def stuttering : Pool Replies :=
  Pool.replying [.done 0, .done 0, .done 0, .done 0, .done 0,
    .rows [⟨[("id", .text "c1"), ("score", .float8 (Double.ofInt 2))]⟩,
      ⟨[("id", .text "c1"), ("score", .float8 (Double.ofInt 1))]⟩],
    .done 0, .done 0, .done 0, .done 0, .done 0,
    .rows [⟨[("id", .text "c1"), ("tenant_id", .text "acme"), ("user_id", .null),
      ("node_kind", .text "chunk"), ("source_type", .null), ("source_id", .null),
      ("title", .null), ("content", .text "Rust"), ("struct_data", .jsonb (.obj [])),
      ("keywords_text", .null), ("content_hash", .null), ("taxonomy_path", .null),
      ("created_at", .null)]⟩]]

theorem hybrid_pipeline_byText :
    (Text.isBlank byText.tenant = false ∧ byText.limit ≠ 0 ∧ byText.candidateK ≠ 0) ∧
    ∃ results, ((hybrid .default byText).run stuttering).1 = .ok results ∧
      (results.map fun x => x.node.id) = ["c1"] ∧
      ∃ ranked fetchSent vectorHits textHits fused,
        data ((hybrid .default byText).sent stuttering) = ranked ++ fetchSent ∧
        Rankings byText ranked vectorHits textHits ∧
        fused = fuse vectorHits textHits .reciprocalRank evenParams 3 ∧
        Fetched "acme" fused fetchSent results := by
  have hblank : Text.isBlank byText.tenant = false := by decide +kernel
  have hids : (((hybrid .default byText).run stuttering).1.toOption.map fun results =>
      results.map fun x => x.node.id) = some ["c1"] := by decide +kernel
  have hpipeline := (hybrid_pipeline .default byText stuttering hblank (by decide) (by decide)).1
  refine ⟨⟨hblank, by decide, by decide⟩, ?_⟩
  cases hrun : ((hybrid .default byText).run stuttering).1 with
  | error e =>
    rw [hrun] at hids
    cases hids
  | ok results =>
    rw [hrun] at hids
    obtain ⟨ranked, fetchSent, vectorHits, textHits, fused, hdata, hranked, hfused, hfetch, -⟩ :=
      hpipeline results hrun
    exact ⟨results, rfl, Option.some_inj.1 hids, ranked, fetchSent, vectorHits, textHits, fused,
      hdata, hranked, hfused, hfetch⟩

end KnowledgeBase.Search
