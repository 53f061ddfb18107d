import Mathlib.Data.List.DropRight
import KnowledgeBase.Proofs.Store.ReadBack

/-!
# Names registered and names resolved

A name of a node is trimmed when it is registered and not when it is asked for.  So it is found
again under the spelling that it was registered with when there is nothing to trim off that, and
only then.

## Main definitions

* `Graph.registeredKey?`, `Graph.askedKey?` — the key that a write of a name binds, and the key that
  is asked for in the place of a name.
* `Alias.Stored`, `Alias.registered` — a row that a tenant has filled with a name, and what is to be
  read off it.

## Main results

* `Text.trim_trim` — trimming twice is trimming once.
* `Graph.resolveAliases_readsBack` — what is resolved from stored rows.
* `Alias.resolves_iff` — a name resolves when there is nothing to trim, and only then.
-/

namespace KnowledgeBase

open Sql

/-! ### Trimming -/

namespace Text

/-- Nothing is trimmed off a text when nothing is dropped at either end. -/
theorem trimChars_eq_self_iff {cs : List Char} :
    trimChars cs = cs ↔ cs.dropWhile isSpace = cs ∧ cs.rdropWhile isSpace = cs := by
  have htrim : trimChars cs = (cs.dropWhile isSpace).rdropWhile isSpace := rfl
  constructor
  · intro h
    have hstart : cs.dropWhile isSpace = cs := by
      refine (List.dropWhile_suffix isSpace).eq_of_length_le ?_
      have hkept := List.rdropWhile_prefix isSpace (cs.dropWhile isSpace)
      rw [← htrim, h] at hkept
      exact hkept.length_le
    rw [htrim, hstart] at h
    exact ⟨hstart, h⟩
  · rintro ⟨hstart, hend⟩
    rw [htrim, hstart, hend]

/-- **Trimming twice is trimming once.** -/
theorem trim_trim (s : String) : trim (trim s) = trim s := by
  have hdropped := s.toList.dropWhile_idempotent isSpace
  generalize hstart : s.toList.dropWhile isSpace = cs at hdropped
  have htrim : (trim s).toList = cs.rdropWhile isSpace := by
    rw [trim, String.toList_ofList, trimChars, hstart]
    rfl
  -- what is dropped at the end leaves the start as it is
  have hkept : (cs.rdropWhile isSpace).dropWhile isSpace = cs.rdropWhile isSpace := by
    rw [List.dropWhile_eq_self_iff] at hdropped ⊢
    intro hlength
    have hkeeps := List.rdropWhile_prefix isSpace cs
    rw [hkeeps.getElem hlength]
    exact hdropped (Nat.lt_of_lt_of_le hlength hkeeps.length_le)
  have hself : trimChars (trim s).toList = (trim s).toList := by
    rw [htrim, trimChars_eq_self_iff]
    exact ⟨hkept, cs.rdropWhile_idempotent isSpace⟩
  rw [trim, hself, String.ofList_toList]

end Text

/-! ### Values under distinct names -/

namespace Assoc

variable {α : Type} {name : String} {members : List (String × α)}

/-- A name that is not set keeps its value. -/
theorem get?_foldl_of_not_mem (h : name ∉ members.map Prod.fst) (found : Assoc α) :
    get? name (members.foldl (fun found (n, v) => set n v found) found) = get? name found := by
  induction members generalizing found with
  | nil => rfl
  | cons member members ih =>
    rw [List.map_cons, List.mem_cons, not_or] at h
    rw [List.foldl_cons, ih h.2, get?_set, if_neg (Ne.symm h.1)]

theorem get?_ofList_of_not_mem (h : name ∉ members.map Prod.fst) :
    get? name (ofList members) = none := get?_foldl_of_not_mem h []

/-- Under distinct names each value is found. -/
theorem get?_ofList_of_mem (h : (members.map Prod.fst).Nodup) {v : α}
    (hmem : (name, v) ∈ members) : get? name (ofList members) = some v := by
  obtain ⟨before, after, rfl⟩ := List.append_of_mem hmem
  rw [List.map_append, List.map_cons] at h
  have hafter : name ∉ after.map Prod.fst := (List.nodup_cons.1 h.of_append_right).1
  rw [ofList, List.foldl_append, List.foldl_cons, get?_foldl_of_not_mem hafter, get?_set,
    if_pos rfl]

end Assoc

namespace Graph

variable {tenant : String} {a : Alias} {names : List String} {row : Row}

/-! ### Rows of names -/

-- the text is read character by character
set_option maxRecDepth 1000 in
theorem aliasStatement_written (tenant : String) (a : Alias) :
    (aliasStatement tenant a).written =
      [("tenant_id", toValue tenant), ("alias", toValue (Text.trim a.name)),
        ("node_id", toValue a.node), ("source", toValue a.source)] := by
  refine Statement.written_eq ?_ rfl
  repeat rw [String.toList_append]
  repeat rw [String.toList_ofList]
  rfl

theorem aliasOfRow_of_holds (h : row.Holds (aliasStatement tenant a)) :
    aliasOfRow row = .ok (Text.trim a.name, a.node) := by
  rw [Row.Holds, aliasStatement_written] at h
  simp only [List.forall_mem_cons] at h
  obtain ⟨-, hname, hnode, -⟩ := h
  simp only [aliasOfRow, Row.column_eq hname, Row.column_eq hnode, bind, Except.bind]
  rfl

theorem upsertAlias_sendsOnce : (upsertAlias tenant a).SendsOnce (aliasStatement tenant a) := by
  refine .check fun _ => .check fun _ => .check fun _ => .forTenant (.bind .affected ?_)
  intro affected
  split
  · exact .fail _
  · exact .done ()

theorem resolveAliases_sends_only :
    (resolveAliases tenant names).Sends (fun _ => True) (· = resolveStatement tenant names) := by
  have hrows : (Work.rows (resolveStatement tenant names)).Sends
      (· = resolveStatement tenant names) := .rows rfl
  refine .check fun _ _ => ?_
  split
  · exact .done _
  · exact (Operation.Sends.forTenant (F := fun _ => True) trivial hrows).bind
      fun _ => .check fun _ _ => .done _

end Graph

/-! ### Names in rows -/

/-- A row that a tenant has filled with a name. -/
def Alias.Stored (tenant : String) (row : Row) (a : Alias) : Prop :=
  row.WrittenBy (Graph.upsertAlias tenant a) 0

/-- What a name is registered as: its key, and the node that it points at. -/
def Alias.registered (a : Alias) : String × String := (Text.trim a.name, a.node)

theorem Alias.Stored.ofRow_eq {tenant : String} {row : Row} {a : Alias}
    (h : Stored tenant row a) : Graph.aliasOfRow row = .ok a.registered :=
  Graph.aliasOfRow_of_holds (h.holds Graph.upsertAlias_sendsOnce.sends)

namespace Graph

variable {σ : Type} [Server σ] {tenant : String} {a : Alias} {names : List String}

theorem resolveAliases_lists :
    (resolveAliases tenant names).Lists fun rows =>
      (decodeAll aliasOfRow rows).map Assoc.ofList := by
  refine .check fun _ => ?_
  split
  · exact .done []
  · intro st rows answer hserved
    rcases hserved.of_rows with ⟨hnil, -⟩ | ⟨r, rest, hsent, hrest⟩
    · cases hnil
    · cases hsent
      simp only [Reply.resultRows] at hrest
      cases hdecode : decodeAll aliasOfRow rows with
      | error e =>
        rw [hdecode] at hrest
        cases hrest
        simp only [hdecode]
        rfl
      | ok found =>
        rw [hdecode] at hrest
        cases hrest
        simp only [hdecode]
        rfl

/-- **What is resolved from stored rows.**  Each name is given under its key, which is not always
the spelling that it was asked for under. -/
theorem resolveAliases_readsBack {s : StoreSettings} {p : Pool σ} (hp : p.Reachable s)
    {st : Statement} {rows : List Row} {aliases : List Alias}
    (hanswered : ∀ e ∈ (resolveAliases tenant names).sent p, e.Answered)
    (hdata : data ((resolveAliases tenant names).sent p) = [⟨st, .rows rows⟩])
    (hrows : List.Forall₂ (Alias.Stored tenant) rows aliases) :
    ((resolveAliases tenant names).run p).1 =
      .ok (Assoc.ofList (aliases.map Alias.registered)) := by
  have hserved : (resolveAliases tenant names).Served
      (data ((resolveAliases tenant names).sent p)) ((resolveAliases tenant names).run p).1 :=
    Call.served (s := s) (c := .resolveAliases tenant names) rfl hp.atRest hanswered
  rw [hdata] at hserved
  have hfound : decodeAll aliasOfRow rows = .ok (aliases.map Alias.registered) := by
    refine decodeAll_eq_ok (List.forall₂_map_right_iff.2 ?_)
    exact hrows.imp fun _ _ h => h.ofRow_eq
  rw [resolveAliases_lists _ _ _ hserved]
  simp only [hfound]
  rfl

/-! ### Keys -/

/-- The key that a write of a name binds. -/
def registeredKey? (st : Statement) : Option Value := Row.find? ⟨st.written⟩ "alias"

/-- The key that is asked for in the place of a name. -/
def askedKey? (st : Statement) (place : Nat) : Option Value :=
  match st.binds with
  | [_, .textArray keys] => (keys[place]?).map toValue
  | _ => none

theorem registeredKey?_aliasStatement :
    registeredKey? (aliasStatement tenant a) = some (toValue (Text.trim a.name)) := by
  rw [registeredKey?, aliasStatement_written]
  rfl

theorem askedKey?_resolveStatement (place : Nat) :
    askedKey? (resolveStatement tenant names) place = (names[place]?).map toValue := rfl

end Graph

/-! ### Resolving -/

namespace Alias

/-- The row of a name that is accepted, as the write fills it. -/
theorem stored_of_accepted {σ : Type} [Server σ] {p : Pool σ} {tenant : String} {a : Alias}
    (h : ((Graph.upsertAlias tenant a).run p).1 = .ok ()) :
    Stored tenant ⟨(Graph.aliasStatement tenant a).written⟩ a := by
  have hcolumns : ((Graph.aliasStatement tenant a).written.map Prod.fst).Nodup := by
    rw [Graph.aliasStatement_written]
    simp
  have hrow : Row.Holds ⟨(Graph.aliasStatement tenant a).written⟩ (Graph.aliasStatement tenant a) :=
    fun _ hcell => Row.find?_eq_of_mem hcolumns hcell
  exact .of_accepted Graph.upsertAlias_sendsOnce (@Graph.upsertAlias_sends 0 tenant a) h hrow

/-- What is found under a name is registered under it. -/
theorem exists_registered_of_get? {aliases : List Alias} {name node : String}
    (h : Assoc.get? name (Assoc.ofList (aliases.map registered)) = some node) :
    ∃ b ∈ aliases, Text.trim b.name = name := by
  by_contra hnone
  rw [Assoc.get?_ofList_of_not_mem] at h
  · cases h
  · simpa [registered] using hnone

/-- **A name resolves under the spelling that it was registered with exactly when there is nothing
to trim off it.**  Then the key that is asked for in its place is the one that was written for it,
and the rows that hold it, each with a key of its own, send it to its node; otherwise neither is
so, whichever runs accept the name and answer the question. -/
theorem resolves_iff {σ τ : Type} [Server σ] [Server τ] {s : StoreSettings} {p : Pool σ}
    {q : Pool τ} {tenant : String} {a : Alias} {names : List String}
    (haccepted : ((Graph.upsertAlias tenant a).run p).1 = .ok ()) (hq : q.Reachable s) :
    ∃ w, data ((Graph.upsertAlias tenant a).sent p) = [w] ∧
      (∀ r ∈ data ((Graph.resolveAliases tenant names).sent q), ∀ i, names[i]? = some a.name →
        (Graph.askedKey? r.statement i = Graph.registeredKey? w.statement ↔
          Text.trim a.name = a.name)) ∧
      ∀ st rows aliases, (∀ e ∈ (Graph.resolveAliases tenant names).sent q, e.Answered) →
        data ((Graph.resolveAliases tenant names).sent q) = [⟨st, .rows rows⟩] →
        List.Forall₂ (Stored tenant) rows aliases →
        (aliases.map fun b => b.registered.1).Nodup → a ∈ aliases →
          ∃ found, ((Graph.resolveAliases tenant names).run q).1 = .ok found ∧
            (Assoc.get? a.name found = some a.node ↔ Text.trim a.name = a.name) := by
  have hsends := (@Graph.upsertAlias_sends 0 tenant a).mono fun _ => Call.Issued.isData
  obtain ⟨reply, hwritten⟩ := Graph.upsertAlias_sendsOnce.data_eq hsends haccepted
  refine ⟨_, hwritten, ?_, ?_⟩
  · intro r hr i hname
    rw [Graph.resolveAliases_sends_only.statement_eq q hr, Graph.askedKey?_resolveStatement,
      Graph.registeredKey?_aliasStatement, hname]
    constructor
    · intro hkeys
      injection hkeys with hvalue
      injection hvalue with hkey
      exact hkey.symm
    · intro htrim
      rw [htrim]
      rfl
  · intro st rows aliases hanswered hdata hrows hkeys hmem
    refine ⟨_, Graph.resolveAliases_readsBack hq hanswered hdata hrows, ?_⟩
    constructor
    · intro hfound
      -- every key is trimmed already, and the name is one of them
      obtain ⟨b, -, hkey⟩ := exists_registered_of_get? hfound
      rw [← hkey]
      exact Text.trim_trim b.name
    · intro htrim
      have hregistered : a.registered = (a.name, a.node) := by rw [registered, htrim]
      refine Assoc.get?_ofList_of_mem ?_ (hregistered ▸ List.mem_map_of_mem hmem)
      rw [List.map_map]
      exact hkeys

/-- A name, and the same with white space at its ends. -/
def rusty : Alias := ⟨"rusty", "c:rust", "manual"⟩

def spaced : Alias := { rusty with name := " rusty " }

/-- The row of the name. -/
def rustyRow : Row := ⟨(Graph.aliasStatement "acme" rusty).written⟩

/-- A pool that answers a read with that row. -/
def answeringRusty : Pool Replies :=
  Pool.replying [.done 0, .done 0, .done 0, .done 0, .done 0, .rows [rustyRow]]

theorem rustyRow_eq : rustyRow = ⟨[("tenant_id", .text "acme"), ("alias", .text "rusty"),
    ("node_id", .text "c:rust"), ("source", .text "manual")]⟩ := by
  rw [rustyRow, Graph.aliasStatement_written]
  rfl

theorem sent_answeringRusty (name : String) :
    (Graph.resolveAliases "acme" [name]).sent answeringRusty = transcript "acme" none (.done 0)
      [⟨Graph.resolveStatement "acme" [name], .rows [rustyRow]⟩] := by
  rw [answeringRusty, rustyRow_eq]
  rfl

theorem data_answeringRusty (name : String) :
    data ((Graph.resolveAliases "acme" [name]).sent answeringRusty) =
      [⟨Graph.resolveStatement "acme" [name], .rows [rustyRow]⟩] := by
  rw [sent_answeringRusty]
  refine data_transcript (List.forall_mem_singleton.2 ?_)
  exact (@Call.Issued.resolve 0 "acme" [name]).isData

/-- The name is registered and asked for under one key, and is sent to its node. -/
theorem resolves_iff_rusty :
    ((Graph.upsertAlias "acme" rusty).run (Pool.replying [])).1 = .ok () ∧
      answeringRusty.Reachable .default ∧
      ∃ found, ((Graph.resolveAliases "acme" ["rusty"]).run answeringRusty).1 = .ok found ∧
        Assoc.get? "rusty" found = some "c:rust" := by
  have haccepted : ((Graph.upsertAlias "acme" rusty).run (Pool.replying [])).1 = .ok () := rfl
  have hopened : answeringRusty.Reachable .default := .opened _
  obtain ⟨w, hwrite, -, hresolved⟩ :=
    @resolves_iff _ _ _ _ _ _ _ _ _ ["rusty"] haccepted hopened
  have hanswered : ∀ e ∈ (Graph.resolveAliases "acme" ["rusty"]).sent answeringRusty,
      e.Answered := by
    rw [sent_answeringRusty]
    exact answered_transcript rfl (List.forall_mem_singleton.2 rfl)
  have hstored : Stored "acme" rustyRow rusty := stored_of_accepted haccepted
  obtain ⟨found, hfound, hnode⟩ := hresolved _ _ [rusty] hanswered (data_answeringRusty "rusty")
    (.cons hstored .nil) (List.nodup_singleton _) (List.mem_singleton_self _)
  exact ⟨haccepted, hopened, found, hfound, hnode.2 (by decide +kernel)⟩

/-- With white space at its ends the name is accepted and registered without it, but it is asked for
with it, and its row sends the other spelling to the node. -/
theorem not_resolves_spaced :
    ((Graph.upsertAlias "acme" spaced).run (Pool.replying [])).1 = .ok () ∧
      Stored "acme" rustyRow spaced ∧
      Graph.registeredKey? (Graph.aliasStatement "acme" spaced) = some (.text "rusty") ∧
      data ((Graph.resolveAliases "acme" [" rusty "]).sent answeringRusty) =
        [⟨Graph.resolveStatement "acme" [" rusty "], .rows [rustyRow]⟩] ∧
      Graph.askedKey? (Graph.resolveStatement "acme" [" rusty "]) 0 = some (.text " rusty ") ∧
      ((Graph.resolveAliases "acme" [" rusty "]).run answeringRusty).1 =
        .ok [("rusty", "c:rust")] ∧
      Assoc.get? " rusty " [("rusty", "c:rust")] = none := by
  have haccepted : ((Graph.upsertAlias "acme" spaced).run (Pool.replying [])).1 = .ok () := rfl
  have htrim : Text.trim spaced.name = "rusty" := by decide +kernel
  have hrow : rustyRow = ⟨(Graph.aliasStatement "acme" spaced).written⟩ := by
    rw [rustyRow_eq, Graph.aliasStatement_written, htrim]
    rfl
  refine ⟨haccepted, ?_, ?_, data_answeringRusty _, rfl, ?_, by decide +kernel⟩
  · rw [hrow]
    exact stored_of_accepted haccepted
  · rw [Graph.registeredKey?_aliasStatement, htrim]
    rfl
  · rw [answeringRusty, rustyRow_eq]
    rfl

end Alias

end KnowledgeBase
