import KnowledgeBase.Connection.Operation

/-!
# What programs and operations send

A program sends one statement after the other, and which one may depend on the replies before.  What
can be said of every statement that it may send is said here of the program itself, without a
connection; that the record of a connection grows by such statements only is then proved once, for
all programs and all frames.

## Main definitions

* `Work.Sends`, `Operation.Sends` — every statement that may be sent satisfies a predicate.
* `Wire.Adds`, `Wire.Grows` — the record has grown by entries, or by statements, that satisfy a
  predicate.
* `Operation.sent` — the part of the record that a run of an operation adds.
* `Replies` — a server that gives its replies in order.

## Main results

* `Operation.Sends.grows` — a run adds control statements, contexts of the frames and statements
  that satisfy the predicate, and nothing else.
* `Operation.log_run` — a run only adds to the record.
-/

namespace KnowledgeBase

open Sql

variable {σ α β : Type} {P Q : Statement → Prop} {F : Frame → Prop}

/-! ### Programs -/

/-- Every statement that a program may send satisfies a predicate, whatever the replies. -/
inductive Work.Sends (P : Statement → Prop) : Work α → Prop where
  | done (a : α) : Sends P (.done a)
  | fail (e : StoreError) : Sends P (.fail e)
  | step {s : Statement} {next : Except Failure Reply → Work α} (head : P s)
      (tail : ∀ r, Sends P (next r)) : Sends P (.step s next)

namespace Work.Sends

theorem bind {w : Work α} {f : α → Work β} (hw : w.Sends P) (hf : ∀ a, (f a).Sends P) :
    (w >>= f).Sends P := by
  induction hw with
  | done a => exact hf a
  | fail e => exact .fail e
  | step head _ ih => exact .step head ih

theorem ofExcept (r : Except StoreError α) : (Work.ofExcept r).Sends P := by
  cases r with
  | ok a => exact .done a
  | error e => exact .fail e

theorem send {s : Statement} (h : P s) : (Work.send s).Sends P := by
  refine .step h ?_
  intro r
  cases r with
  | ok reply => exact .done reply
  | error failure => exact .fail _

theorem affected {s : Statement} (h : P s) : (Work.affected s).Sends P :=
  (send h).bind fun _ => .done _

theorem rows {s : Statement} (h : P s) : (Work.rows s).Sends P :=
  (send h).bind fun _ => .done _

theorem first? {s : Statement} (h : P s) : (Work.first? s).Sends P :=
  (rows h).bind fun _ => .done _

theorem single {s : Statement} (h : P s) : (Work.single s).Sends P := by
  refine (first? h).bind ?_
  intro found
  cases found with
  | none => exact .fail _
  | some row => exact .done row

theorem scalar [Cell α] {s : Statement} (h : P s) : (Work.scalar s : Work α).Sends P :=
  (single h).bind fun _ => .ofExcept _

theorem scalar? [Cell α] {s : Statement} (h : P s) :
    (Work.scalar? s : Work (Option α)).Sends P := by
  refine (first? h).bind ?_
  intro found
  cases found with
  | none => exact .done none
  | some row => exact .ofExcept _

theorem attempt {s : Statement} (h : P s) : (Work.attempt s).Sends P := by
  refine .step h ?_
  intro r
  cases r with
  | ok reply => exact .done true
  | error failure => exact .done false

theorem mono {w : Work α} (hw : w.Sends P) (h : ∀ s, P s → Q s) : w.Sends Q := by
  induction hw with
  | done a => exact .done a
  | fail e => exact .fail e
  | step head _ ih => exact .step (h _ head) ih

end Work.Sends

/-! ### Operations -/

/-- Every frame that an operation may use and every statement that it may send in one satisfy their
predicates. -/
inductive Operation.Sends (F : Frame → Prop) (P : Statement → Prop) : Operation α → Prop where
  | done (a : α) : Sends F P (.done a)
  | fail (e : StoreError) : Sends F P (.fail e)
  | within {β : Type} {frame : Frame} {work : Work β} {next : β → Operation α} (hframe : F frame)
      (hwork : work.Sends P) (tail : ∀ b, Sends F P (next b)) : Sends F P (.within frame work next)

namespace Operation.Sends

theorem bind {o : Operation α} {f : α → Operation β} (ho : o.Sends F P)
    (hf : ∀ a, (f a).Sends F P) : (o >>= f).Sends F P := by
  induction ho with
  | done a => exact hf a
  | fail e => exact .fail e
  | within hframe hwork _ ih => exact .within hframe hwork ih

theorem ofExcept (r : Except StoreError α) : (Operation.ofExcept r).Sends F P := by
  cases r with
  | ok a => exact .done a
  | error e => exact .fail e

/-- After a check, an operation goes on only where the check has passed. -/
theorem check {r : Except StoreError α} {f : α → Operation β}
    (h : ∀ a, r = .ok a → (f a).Sends F P) : ((liftM r : Operation α) >>= f).Sends F P := by
  cases r with
  | ok a => exact h a rfl
  | error e => exact .fail e

theorem forTenant {tenant : String} {user : Option String} {w : Work α}
    (hframe : F (.tenant tenant user .commit)) (hw : w.Sends P) :
    (Operation.forTenant tenant user w).Sends F P :=
  .within hframe hw .done

theorem onConnection {w : Work α} (hframe : F .bare) (hw : w.Sends P) :
    (Operation.onConnection w).Sends F P :=
  .within hframe hw .done

theorem mono {o : Operation α} (ho : o.Sends F P) (h : ∀ s, P s → Q s) : o.Sends F Q := by
  induction ho with
  | done a => exact .done a
  | fail e => exact .fail e
  | within hframe hwork _ ih => exact .within hframe (hwork.mono h) ih

end Operation.Sends

/-! ### The record of a connection -/

/-- The record has grown by entries that satisfy a predicate. -/
def Wire.Adds (R : Sent → Prop) (w w' : Wire σ) : Prop :=
  ∃ sent, w'.log = w.log ++ sent ∧ ∀ e ∈ sent, R e

namespace Wire.Adds

variable {R R' : Sent → Prop}

theorem refl (w : Wire σ) : w.Adds R w := ⟨[], by simp, by simp⟩

theorem trans {w₁ w₂ w₃ : Wire σ} (h : w₁.Adds R w₂) (h' : w₂.Adds R w₃) : w₁.Adds R w₃ := by
  obtain ⟨sent, hlog, hsent⟩ := h
  obtain ⟨sent', hlog', hsent'⟩ := h'
  refine ⟨sent ++ sent', by rw [hlog', hlog, List.append_assoc], ?_⟩
  intro e he
  rcases List.mem_append.1 he with he | he
  · exact hsent e he
  · exact hsent' e he

theorem mono {w w' : Wire σ} (h : w.Adds R w') (hRR' : ∀ e, R e → R' e) : w.Adds R' w' := by
  obtain ⟨sent, hlog, hsent⟩ := h
  exact ⟨sent, hlog, fun e he => hRR' _ (hsent e he)⟩

end Wire.Adds

/-- The record has grown by statements that satisfy a predicate, whatever the replies. -/
abbrev Wire.Grows (P : Statement → Prop) (w w' : Wire σ) : Prop :=
  w.Adds (fun e => P e.statement) w'

/-- Abandoning a level sends nothing by itself. -/
theorem Channel.settle_grows {w : Wire σ} {x : Option Failure × Channel σ}
    (h : w.Grows P x.2.wire) : w.Grows P (settle x).wire := by
  obtain ⟨failure, c⟩ := x
  cases failure with
  | none => exact h
  | some failure => exact h

variable [Server σ]

namespace Channel

theorem send_grows {s : Statement} (h : P s) (c : Channel σ) :
    c.wire.Grows P (c.send s).2.wire := by
  unfold send
  split
  · exact ⟨[⟨s, _⟩], rfl, by simpa using h⟩
  · exact .refl _

theorem sendAll_grows {texts : List String} (h : ∀ sql ∈ texts, P (.simple sql)) (c : Channel σ) :
    c.wire.Grows P (sendAll texts c).2.wire := by
  induction texts generalizing c with
  | nil => exact .refl _
  | cons sql rest ih =>
    have hhead := send_grows (h sql List.mem_cons_self) c
    have hrest := ih (fun q hq => h q (List.mem_cons_of_mem _ hq)) (c.send (.simple sql)).2
    exact hhead.trans hrest

theorem flush_grows {c : Channel σ} (h : ∀ sql ∈ c.link.queue, P (.simple sql)) :
    c.wire.Grows P c.flush.2.wire :=
  sendAll_grows h _

theorem execute_grows {c : Channel σ} {s : Statement} (hq : ∀ sql ∈ c.link.queue, P (.simple sql))
    (hs : P s) : c.wire.Grows P (c.execute s).2.wire := by
  have hflush := flush_grows hq
  unfold execute
  split
  · next heq => rwa [heq] at hflush
  · next heq =>
    rw [heq] at hflush
    exact hflush.trans (send_grows hs _)

@[simp] theorem depth_send (s : Statement) (c : Channel σ) :
    (c.send s).2.link.depth = c.link.depth := by
  unfold send
  split <;> rfl

@[simp] theorem queue_send (s : Statement) (c : Channel σ) :
    (c.send s).2.link.queue = c.link.queue := by
  unfold send
  split <;> rfl

@[simp] theorem depth_sendAll (texts : List String) (c : Channel σ) :
    (sendAll texts c).2.link.depth = c.link.depth := by
  induction texts generalizing c with
  | nil => rfl
  | cons sql rest ih =>
    rw [← depth_send (.simple sql) c]
    exact ih _

@[simp] theorem queue_sendAll (texts : List String) (c : Channel σ) :
    (sendAll texts c).2.link.queue = c.link.queue := by
  induction texts generalizing c with
  | nil => rfl
  | cons sql rest ih =>
    rw [← queue_send (.simple sql) c]
    exact ih _

@[simp] theorem depth_flush (c : Channel σ) : c.flush.2.link.depth = c.link.depth :=
  depth_sendAll _ _

@[simp] theorem queue_flush (c : Channel σ) : c.flush.2.link.queue = [] :=
  queue_sendAll _ _

/-- Sending a statement never opens or closes a level; only the answer to it does. -/
@[simp] theorem depth_execute (s : Statement) (c : Channel σ) :
    (c.execute s).2.link.depth = c.link.depth := by
  have h := depth_flush c
  unfold execute
  split
  · next heq => rwa [heq] at h
  · next heq =>
    rw [heq] at h
    simpa using h

/-- Whatever waited has been sent, or has failed, once a statement is answered. -/
@[simp] theorem queue_execute (s : Statement) (c : Channel σ) :
    (c.execute s).2.link.queue = [] := by
  have h := queue_flush c
  unfold execute
  split
  · next heq => rwa [heq] at h
  · next heq =>
    rw [heq] at h
    simpa using h

end Channel

/-- A program run over a connection adds what waited there and statements of its own. -/
theorem Work.Sends.grows {w : Work α} (hw : w.Sends P) (c : Channel σ)
    (hq : ∀ sql ∈ c.link.queue, P (.simple sql)) : c.wire.Grows P (w.run c).2.wire := by
  induction hw generalizing c with
  | done a => exact .refl _
  | fail e => exact .refl _
  | @step s next head _ ih =>
    have hstep := Channel.execute_grows hq head
    -- nothing waits any more when the rest of the program runs
    exact hstep.trans (ih _ _ (by simp))

/-- A program leaves the levels of transaction as they are. -/
@[simp] theorem Work.depth_run (w : Work α) (c : Channel σ) :
    (w.run c).2.link.depth = c.link.depth := by
  induction w generalizing c with
  | done a => rfl
  | fail e => rfl
  | step s next ih =>
    rw [← Channel.depth_execute s c]
    exact ih _ _

/-- A program adds nothing to what waits. -/
theorem Work.mem_queue_run {w : Work α} {c : Channel σ} {sql : String}
    (h : sql ∈ (w.run c).2.link.queue) : sql ∈ c.link.queue := by
  induction w generalizing c with
  | done a => exact h
  | fail e => exact h
  | step s next ih =>
    have hnone : sql ∈ (c.execute s).2.link.queue := ih _ h
    rw [Channel.queue_execute] at hnone
    cases hnone

/-! ### Frames

A frame sends control statements, which have no values, and the context of its tenant. -/

section Frames

variable (hcontrol : ∀ sql, P (.simple sql))

namespace Channel

include hcontrol

theorem enter_grows (c : Channel σ) : c.wire.Grows P c.enter.2.wire := by
  have h := execute_grows (c := c) (fun q _ => hcontrol q) (hcontrol (Link.beginText c.link.depth))
  unfold enter
  split
  · next heq => rw [heq] at h; exact h
  · next heq => rw [heq] at h; exact h

theorem leave_grows (text : Nat → String) (c : Channel σ) :
    c.wire.Grows P (c.leave text).2.wire := by
  unfold leave
  split
  · exact .refl _
  · next depth hdepth =>
    have h := execute_grows (c := c) (fun q _ => hcontrol q) (hcontrol (text depth))
    split
    · next heq => rw [heq] at h; exact h
    · next heq => rw [heq] at h; exact h

theorem setContext_grows {tenant : String} {user : Option String}
    (hcontext : P (contextStatement tenant user)) (c : Channel σ) :
    c.wire.Grows P (c.setContext tenant user).wire := by
  have henter := enter_grows hcontrol c
  unfold setContext
  split
  · next heq => rw [heq] at henter; exact henter
  · next heq =>
    rw [heq] at henter
    refine henter.trans ?_
    have hset := execute_grows (c := ‹Channel σ›) (fun q _ => hcontrol q) hcontext
    split
    · next heq =>
      rw [heq] at hset
      exact hset.trans (settle_grows (leave_grows hcontrol _ _))
    · next heq =>
      rw [heq] at hset
      exact hset.trans (settle_grows (leave_grows hcontrol _ _))

theorem finish_grows (ending : Ending) (c : Channel σ) :
    c.wire.Grows P (c.finish ending).2.wire := by
  cases ending with
  | commit => exact leave_grows hcontrol _ _
  | rollback => exact leave_grows hcontrol _ _
  | abandon => exact .refl _

/-- Framed work adds control statements, the context of the frame and the statements of the work. -/
theorem perform_grows {frame : Frame} {w : Work α} (hw : w.Sends P)
    (hcontext : ∀ id user ending, frame = .tenant id user ending → P (contextStatement id user))
    (c : Channel σ) : c.wire.Grows P (c.perform w frame).2.wire := by
  cases frame with
  | bare => exact hw.grows c fun q _ => hcontrol q
  | tenant id user ending =>
    have henter := enter_grows hcontrol c
    rw [perform]
    split
    · next heq => rw [heq] at henter; exact henter
    · next opened heq =>
      rw [heq] at henter
      have hset := setContext_grows hcontrol (hcontext id user ending rfl) opened
      have hrun := hw.grows (opened.setContext id user) fun q _ => hcontrol q
      refine henter.trans (hset.trans ?_)
      split
      · next heq => rw [heq] at hrun; exact hrun
      · next worked heq =>
        rw [heq] at hrun
        have hfinish := finish_grows hcontrol ending worked
        refine hrun.trans ?_
        split
        · next heq => rw [heq] at hfinish; exact hfinish
        · next heq => rw [heq] at hfinish; exact hfinish

end Channel

/-- Opening a connection sends the search path of the deployment, once for each attempt. -/
theorem Wire.connect_grows {schema : String} (h : P (.simple (Schema.searchPath schema)))
    (attempts : Nat) (w : Wire σ) : w.Grows P (w.connect schema attempts).2 := by
  induction attempts generalizing w with
  | zero => exact .refl _
  | succ n ih =>
    unfold connect
    split
    · split
      · exact ih w
      · exact .refl _
    · have hsend : w.Grows P (w.send (.simple (Schema.searchPath schema))).2 :=
        ⟨[⟨_, _⟩], rfl, by simpa using h⟩
      simp only
      split
      · exact hsend
      · exact hsend.trans (ih _)

namespace Pool

include hcontrol

theorem acquire_grows (p : Pool σ) :
    (∃ f, p.acquire.1 = .error f ∧ p.wire.Grows P p.acquire.2.wire) ∨
      ∃ c, p.acquire.1 = .ok c ∧ p.wire.Grows P c.wire := by
  have hconnect := Wire.connect_grows (hcontrol (Schema.searchPath p.schema)) p.attempts p.wire
  unfold acquire
  split
  · exact .inl ⟨_, rfl, .refl _⟩
  · split
    · exact .inr ⟨_, rfl, .refl _⟩
    · split
      · next heq => rw [heq] at hconnect; exact .inr ⟨_, rfl, hconnect⟩
      · next heq => rw [heq] at hconnect; exact .inl ⟨_, rfl, hconnect⟩

theorem release_grows (c : Channel σ) (p : Pool σ) : c.wire.Grows P (p.release c).wire :=
  Channel.flush_grows fun q _ => hcontrol q

theorem perform_grows {frame : Frame} {w : Work α} (hw : w.Sends P)
    (hcontext : ∀ id user ending, frame = .tenant id user ending → P (contextStatement id user))
    (p : Pool σ) : p.wire.Grows P (p.perform frame w).2.wire := by
  rcases acquire_grows hcontrol p with ⟨f, hf, hgrows⟩ | ⟨c, hc, hgrows⟩
  · unfold perform
    split
    · next heq => rw [heq] at hgrows; exact hgrows
    · next heq => rw [heq] at hf; cases hf
  · unfold perform
    split
    · next heq => rw [heq] at hc; cases hc
    · next heq =>
      rw [heq] at hc
      cases hc
      have hperform := Channel.perform_grows hcontrol hw hcontext c
      exact hgrows.trans (hperform.trans (release_grows hcontrol _ _))

end Pool

include hcontrol in
/-- **What a run of an operation sends.**  Besides control statements there are only the contexts of
frames that the operation may use, and statements that it may send. -/
theorem Operation.Sends.grows {o : Operation α} (ho : o.Sends F P)
    (hcontext : ∀ id user ending, F (.tenant id user ending) → P (contextStatement id user))
    (p : Pool σ) : p.wire.Grows P (o.run p).2.wire := by
  induction ho generalizing p with
  | done a => exact .refl _
  | fail e => exact .refl _
  | @within γ frame work next hframe hwork _ ih =>
    have hperform := Pool.perform_grows hcontrol hwork
      (fun id user ending heq => hcontext id user ending (heq ▸ hframe)) p
    unfold run
    split
    · next heq =>
      rw [heq] at hperform
      exact hperform.trans (ih _ _)
    · next heq =>
      rw [heq] at hperform
      exact hperform

end Frames

/-! ### What a run adds -/

theorem Work.sends_any (w : Work α) : w.Sends fun _ => True := by
  induction w with
  | done a => exact .done a
  | fail e => exact .fail e
  | step s next ih => exact .step trivial ih

theorem Operation.sends_any (o : Operation α) : o.Sends (fun _ => True) fun _ => True := by
  induction o with
  | done a => exact .done a
  | fail e => exact .fail e
  | within frame work next ih => exact .within trivial work.sends_any ih

/-- The statements sent by a run of an operation, with their replies, oldest first: what the record
holds afterwards beyond what it held before. -/
def Operation.sent (o : Operation α) (p : Pool σ) : List Sent :=
  (o.run p).2.wire.log.drop p.wire.log.length

/-- A run only adds to the record. -/
theorem Operation.log_run (o : Operation α) (p : Pool σ) :
    (o.run p).2.wire.log = p.wire.log ++ o.sent p := by
  obtain ⟨added, hlog, -⟩ :=
    o.sends_any.grows (fun _ => trivial) (fun _ _ _ _ => trivial) p
  rw [sent, hlog, List.drop_left]

theorem Operation.sent_eq {o : Operation α} {p : Pool σ} {sent : List Sent}
    (h : (o.run p).2.wire.log = p.wire.log ++ sent) : o.sent p = sent :=
  List.append_cancel_left ((o.log_run p).symm.trans h)

theorem Operation.Sends.sent {o : Operation α} (ho : o.Sends F P)
    (hcontrol : ∀ sql, P (.simple sql))
    (hcontext : ∀ id user ending, F (.tenant id user ending) → P (contextStatement id user))
    (p : Pool σ) : ∀ e ∈ o.sent p, P e.statement := by
  obtain ⟨sent, hlog, hsent⟩ := ho.grows hcontrol hcontext p
  rw [Operation.sent_eq hlog]
  exact hsent

/-! ### Replies in order -/

/-- A server that gives its replies in order, whatever the statements, and then success. -/
structure Replies where
  left : List Reply

instance : Server Replies where
  refusal? _ := none
  answer _ server :=
    match server.left with
    | [] => (.done 1, server)
    | reply :: left => (reply, ⟨left⟩)

end KnowledgeBase
