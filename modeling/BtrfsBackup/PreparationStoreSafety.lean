/-
What the store of device preparations guarantees, whatever its clients do.

A client holds copies of records that it has read.  It edits a copy and saves
it, or hands a transition to `update`; it may scan and prune the store, and it
may stop at any point.  Of a record all contents are remembered: each one was
computed from the one before it.

* `Lawful` — the contents of a record follow each other, and a record is removed
  only when it is terminal; `Lawful.eq_of_revision` — a revision names a content;
* `client` — the clients;
* `store_history` — the histories of the records in every interleaving.
-/
import BtrfsBackup.PreparationRules

open Interaction Interaction.Prog

namespace BtrfsBackup

open List

namespace Preparation

open PreparationSystem

/-! ### Lawful stores -/

/-- The contents of each record follow each other by steps of `C`, the stored one
is the last, and if there is none the last one is terminal. -/
structure Lawful (C : DevicePreparationTransaction → DevicePreparationTransaction → Prop)
    (system : PreparationSystem) : Prop where
  chain : ∀ op, (system.history op).IsChain fun newer older =>
    Succeeds older newer ∧ C older newer
  named : ∀ op, ∀ r ∈ system.history op, r.operationId = op
  stored : ∀ op r, system.transactions op = some r →
    (system.history op).head? = some r
  pruned : ∀ op, system.transactions op = none →
    ∀ r, (system.history op).head? = some r → terminal r = true

section lawful

variable {C : DevicePreparationTransaction → DevicePreparationTransaction → Prop}
  {system : PreparationSystem} {op : OperationId} {r w : DevicePreparationTransaction}

/-- In a chain every element but the first has a predecessor. -/
theorem forall_tail_of_isChain {α : Type} {R} {P : α → Prop}
    (hP : ∀ a b, R a b → P b) {l : List α} (h : l.IsChain R) : ∀ b ∈ l.tail, P b := by
  induction h with
  | nil => nofun
  | singleton a => nofun
  | cons_cons hab _ ih =>
    intro c hc
    rcases mem_cons.mp hc with rfl | hc
    · exact hP _ _ hab
    · exact ih c hc

variable (h : Lawful C system)

include h

section stored

variable (hget : system.transactions op = some r)

include hget

theorem Lawful.mem_history : r ∈ system.history op :=
  mem_of_mem_head? (h.stored op r hget)

theorem Lawful.operationId_eq : r.operationId = op :=
  h.named op r (h.mem_history hget)

/-- The stored content is related to the earlier ones as each content is to the one before it. -/
theorem Lawful.earlier {R : DevicePreparationTransaction → DevicePreparationTransaction → Prop}
    (htrans : ∀ a b c, R a b → R b c → R a c)
    (hR : ∀ older newer, Succeeds older newer → R newer older)
    (hw : w ∈ system.history op) : w = r ∨ R r w := by
  obtain ⟨rest, hrest⟩ := head?_eq_some_iff.mp (h.stored op r hget)
  have hchain := (h.chain op).imp fun newer older hnext => hR older newer hnext.1
  have : IsTrans DevicePreparationTransaction R := ⟨htrans⟩
  rw [isChain_iff_pairwise, hrest, pairwise_cons] at hchain
  rw [hrest] at hw
  exact (mem_cons.mp hw).imp_right (hchain.1 w)

/-- A revision names a content. -/
theorem Lawful.eq_of_revision (hw : w ∈ system.history op)
    (hrev : r.revision = w.revision) : w = r := by
  refine (h.earlier (R := fun newer older => older.revision < newer.revision) hget
    (fun _ _ _ hab hbc => hbc.trans hab) (fun older newer hnext => ?_) hw).resolve_right
      fun hlt => hlt.ne hrev.symm
  rw [hnext.revision]
  exact Nat.lt_succ_self _

/-- A record that asks for no cancellation has never done so. -/
theorem Lawful.not_cancelled (hr : r.cancelRequested = false)
    (hw : w ∈ system.history op) : w.cancelRequested = false := by
  rcases h.earlier hget (fun _ _ _ hab hbc hc => hab (hbc hc))
    (fun _ _ hnext => hnext.cancelRequested) hw with rfl | hcancel
  · exact hr
  · rw [← Bool.not_eq_true] at hr ⊢
    exact fun hw => hr (hcancel hw)

end stored

/-- A record whose id was never used is not there. -/
theorem Lawful.not_stored (hnew : system.history op = []) : system.transactions op = none := by
  cases hget : system.transactions op with
  | none => rfl
  | some r =>
    have := h.stored op r hget
    rw [hnew] at this
    cases this

/-- A write that goes on with the history of its record. -/
theorem Lawful.push (proc : Process) (hid : w.operationId = op)
    (hchain : (w :: system.history op).IsChain fun newer older =>
      Succeeds older newer ∧ C older newer) : Lawful C (system.store proc op w) := by
  refine ⟨fun other => ?_, fun other => ?_, fun other => ?_, fun other => ?_⟩
  all_goals by_cases hother : other = op
  all_goals first
    | subst hother
      simp only [history_store_self, transactions_store_self]
    | simp only [history_store_of_ne hother, transactions_store_of_ne hother]
  · exact hchain
  · exact h.chain other
  · exact forall_mem_cons.mpr ⟨hid, h.named other⟩
  · exact h.named other
  · rintro u ⟨⟩
    rfl
  · exact h.stored other
  · nofun
  · exact h.pruned other

/-- A write that follows the stored content. -/
theorem Lawful.store (proc : Process) (hget : system.transactions op = some r)
    (hnext : Succeeds r w) (hC : C r w) : Lawful C (system.store proc op w) := by
  obtain ⟨rest, hrest⟩ := head?_eq_some_iff.mp (h.stored op r hget)
  refine h.push proc (hnext.operationId.trans (h.operationId_eq hget)) ?_
  have hchain := h.chain op
  rw [hrest] at hchain ⊢
  exact .cons_cons ⟨hnext, hC⟩ hchain

/-- The first write of a record. -/
theorem Lawful.create (proc : Process) (hnew : system.history op = [])
    (hid : w.operationId = op) : Lawful C (system.store proc op w) :=
  h.push proc hid (hnew ▸ .singleton w)

/-- A terminal content is the last one. -/
theorem Lawful.head_of_terminal (hw : w ∈ system.history op)
    (hterm : terminal w = true) : (system.history op).head? = some w := by
  have htail := forall_tail_of_isChain
    (fun _ _ hnext => hnext.1.notTerminal) (h.chain op)
  cases hhist : system.history op with
  | nil =>
    rw [hhist] at hw
    cases hw
  | cons u rest =>
    rw [hhist] at hw htail
    rcases mem_cons.mp hw with rfl | hw
    · rfl
    · exact absurd hterm (by rw [htail w hw]; exact Bool.false_ne_true)

/-- The removal of a record of which a terminal content is known. -/
theorem Lawful.prune (hw : w ∈ system.history op)
    (hterm : terminal w = true) : Lawful C (system.prune op) := by
  refine ⟨h.chain, h.named, fun other u hu => ?_, fun other hnone u hu => ?_⟩
  · by_cases hother : other = op
    · subst hother
      rw [transactions_prune_self] at hu
      cases hu
    · rw [transactions_prune_of_ne hother] at hu
      exact h.stored other u hu
  · by_cases hother : other = op
    · subst hother
      rw [history_prune, h.head_of_terminal hw hterm] at hu
      cases hu
      exact hterm
    · rw [transactions_prune_of_ne hother] at hnone
      exact h.pruned other hnone u hu

end lawful

/-- What the clients rely on: histories only grow, and the store stays lawful. -/
structure Growth (C : DevicePreparationTransaction → DevicePreparationTransaction → Prop)
    (s t : PreparationSystem) : Prop where
  history : ∀ op, s.history op <:+ t.history op
  lawful : Lawful C s → Lawful C t

section growth

variable {C : DevicePreparationTransaction → DevicePreparationTransaction → Prop}
  {s t u : PreparationSystem} {proc : Process} {op : OperationId}
  {w : DevicePreparationTransaction}

theorem growth_refl (s : PreparationSystem) : Growth C s s :=
  ⟨fun _ => suffix_refl _, fun h => h⟩

theorem Growth.trans (h : Growth C s t) (h' : Growth C t u) : Growth C s u :=
  ⟨fun op => (h.history op).trans (h'.history op),
    fun hs => h'.lawful (h.lawful hs)⟩

instance isRely_growth : IsRely (Growth C) := ⟨growth_refl, Growth.trans⟩

theorem growth_store (h : Lawful C (s.store proc op w)) : Growth C s (s.store proc op w) := by
  refine ⟨fun other => ?_, fun _ => h⟩
  by_cases hother : other = op
  · subst hother
    rw [history_store_self]
    exact suffix_cons _ _
  · rw [history_store_of_ne hother]

theorem growth_prune (h : Lawful C (s.prune op)) : Growth C s (s.prune op) :=
  ⟨fun _ => suffix_refl _, fun _ => h⟩

theorem stable_lawful : Stable (Growth C) (Lawful C) := fun _ _ h => h.lawful

theorem stable_mem_history (r : DevicePreparationTransaction) :
    Stable (Growth C) fun t => r ∈ t.history r.operationId :=
  fun _ _ h hr => (h.history _).mem hr

end growth

/-! ### Saving copies -/

/-- Stores of which nothing but the order of the contents is known. -/
abbrev Orderly : PreparationSystem → Prop := Lawful fun _ _ => True

/-- The operation that a call creates. -/
def Action.creates : Action → Option OperationId
  | .save transaction => if transaction.revision = 0 then some transaction.operationId else none
  | _ => none

/-- New operations have new ids. -/
def FreshIds (call : PreparationCall) (_ : PreparationAnswer) (system : PreparationSystem) : Prop :=
  ∀ op ∈ call.action.creates, system.history op = []

instance (call : PreparationCall) (answer : PreparationAnswer) (system : PreparationSystem) :
    Decidable (FreshIds call answer system) :=
  inferInstanceAs (Decidable (∀ op ∈ _, _))

variable {proc : Process}

theorem FreshIds.history_eq {tx answer system} (h : FreshIds ⟨proc, .save tx⟩ answer system)
    (hrev : tx.revision = 0) : system.history tx.operationId = [] :=
  h _ (by rw [Action.creates, if_pos hrev]; rfl)

/-- The content of an update that also sets the time. -/
def stamped (now : Int) (r : DevicePreparationTransaction) : DevicePreparationTransaction :=
  { r with updatedAt := now }.next

variable {r : DevicePreparationTransaction}

/-- A copy that was read is saved only if the record is still what was read. -/
theorem guarded_saveNow_copy {A R G I s} {u} (hG : ∀ t, G t t) (hI : Stable R I)
    (hknown : ∀ w, Stable R fun t => w ∈ t.history u.operationId) (hord : ∀ t, I t → Orderly t)
    (hfresh : ∀ i t, A ⟨proc, .save u⟩ i t → FreshIds ⟨proc, .save u⟩ i t)
    (hs : I s) (hr : r ∈ s.history u.operationId) (hrev : u.revision = r.revision)
    (hwrite : ∀ i t, I t → A ⟨proc, .save u⟩ i t → t.transactions u.operationId = some r →
      Succeeds r (stamped i.now u) → G t (t.store proc u.operationId (stamped i.now u)) ∧
        I (t.store proc u.operationId (stamped i.now u))) :
    Guarded A R G (saveNow proc u)
      (fun w t => (I t ∧ w ∈ t.history u.operationId) ∧ ∃ now, w = stamped now u)
      (fun _ => I) s := by
  refine (guarded_writeLocked hG (hI.and (hknown r))
    (fun w => (hI.and (hknown w)).and fun _ _ _ hw => hw) ⟨hs, hr⟩
    fun i t w ht hA hcont => ?_).mono_error fun _ t ht => ?_
  · cases hget : t.transactions u.operationId with
    | none =>
      -- the id is in use, so that this is not a new operation
      rw [hget] at hcont
      have hnew := (hfresh i t hA).history_eq (saved_none hcont).2
      exact absurd ht.2 (by rw [hnew]; exact not_mem_nil)
    | some current =>
      rw [hget] at hcont
      obtain ⟨rfl, hcur, hnext⟩ := saved_some hcont
      obtain rfl : r = current :=
        (hord t ht.1).eq_of_revision hget ht.2 (hcur.trans hrev)
      obtain ⟨hstep, hafter⟩ := hwrite i t ht.1 hA hget hnext
      refine ⟨hstep, ⟨hafter, ?_⟩, i.now, rfl⟩
      exact history_store_self ▸ mem_cons_self
  · exact ht.elim And.left fun ⟨_, _, hw⟩ => hw.1.1

/-! ### Clients -/

/-- What a client does to its copy of a record before it saves it. -/
structure Edit where
  apply : DevicePreparationTransaction → DevicePreparationTransaction
  revision : ∀ r, (apply r).revision = r.revision
  operationId : ∀ r, (apply r).operationId = r.operationId

/-- What a client may do; a copy is named by its place in the list of the copies. -/
inductive Command where
  | load (operationId : OperationId)
  | loadAndPrune (retention : Retention)
  | create (transaction : DevicePreparationTransaction)
  | save (place : Nat) (edit : Edit)
  | updateAt (place : Nat) (transition : Transition)
  | update (operationId : OperationId) (transition : Transition)

/-- Do what a command says; the copies the client has afterwards.  A copy that
could not be saved stays edited. -/
def obey (process : Process) (copies : List DevicePreparationTransaction) :
    Command → PreparationProg (List DevicePreparationTransaction)
  | .load operationId =>
    ((load process operationId).bind fun r => .ret (r :: copies)).handleError fun _ => .ret copies
  | .loadAndPrune retention =>
    ((loadAndPrune process retention).bind fun scan =>
      .ret (scan.transactions ++ copies)).handleError fun _ => .ret copies
  | .create transaction =>
    ((save process { transaction with revision := 0 }).bind fun r =>
      .ret (r :: copies)).handleError fun _ => .ret copies
  | .save place edit =>
    match copies[place]? with
    | none => .ret copies
    | some copy =>
      ((save process (edit.apply copy)).bind fun r => .ret (r :: copies)).handleError fun _ =>
        .ret (edit.apply copy :: copies)
  | .updateAt place transition =>
    match copies[place]? with
    | none => .ret copies
    | some copy =>
      ((updateAt process copy.operationId copy.revision transition).bind fun r =>
        .ret (r :: copies)).handleError fun _ => .ret copies
  | .update operationId transition =>
    ((update process operationId transition).bind fun r =>
      .ret (r :: copies)).handleError fun _ => .ret copies

/-- A client with its copies. -/
def client (process : Process) :
    List Command → List DevicePreparationTransaction → PreparationProg Unit
  | [], _ => .ret ()
  | command :: rest, copies => do
    let copies ← obey process copies command
    client process rest copies

/-- The clients of a store. -/
abbrev Clients := Nat → Process × List Command

/-- A client edits like this. -/
def EditedBy (clients : Clients) (before after : DevicePreparationTransaction) : Prop :=
  ∃ number place edit, Command.save place edit ∈ (clients number).2 ∧ after = edit.apply before

/-- The content was computed from the one before it: by the edits of a client, or
by a transition. -/
def Computed (clients : Clients) (older newer : DevicePreparationTransaction) : Prop :=
  (∃ r, Relation.ReflTransGen (EditedBy clients) older r ∧ newer = r.next) ∨
    ∃ number transition now r,
      ((∃ place, Command.updateAt place transition ∈ (clients number).2) ∨
        ∃ operationId, Command.update operationId transition ∈ (clients number).2) ∧
      transition now older = .ok r ∧ newer = r.next

/-- A store without records. -/
def emptyStore : PreparationSystem where
  transactions := fun _ => none
  reservations := fun _ => none
  mappings := []
  mapper := fun _ => ""
  trace := fun _ => []

/-- The clients at work on a store that was empty. -/
def storePool (clients : Clients) :
    Pool Nat PreparationCall PreparationAnswer PreparationSystem Raised Unit where
  state := emptyStore
  thread number := client (clients number).1 (clients number).2 []

/-! ### What the clients guarantee -/

section clients

variable {clients : Clients} {s : PreparationSystem} {proc : Process}

/-- The copies of a client come from contents of the store with their revision. -/
def Known (clients : Clients) (copies : List DevicePreparationTransaction)
    (system : PreparationSystem) : Prop :=
  Lawful (Computed clients) system ∧ ∀ r ∈ copies, ∃ base ∈ system.history r.operationId,
    base.revision = r.revision ∧ Relation.ReflTransGen (EditedBy clients) base r

theorem stable_known (copies : List DevicePreparationTransaction) :
    Stable (Growth (Computed clients)) (Known clients copies) := by
  rintro s t h ⟨hlawful, hcopies⟩
  refine ⟨h.lawful hlawful, fun r hr => ?_⟩
  obtain ⟨base, hbase, hrev, hedited⟩ := hcopies r hr
  exact ⟨base, (h.history _).mem hbase, hrev, hedited⟩

variable {copies : List DevicePreparationTransaction} {num place : Nat}

theorem Known.cons (h : Known clients copies s)
    (hr : r ∈ s.history r.operationId) : Known clients (r :: copies) s := by
  refine ⟨h.1, fun u hu => ?_⟩
  rcases mem_cons.mp hu with rfl | hu
  · exact ⟨u, hr, rfl, .refl⟩
  · exact h.2 u hu

theorem Known.tail (h : Known clients (r :: copies) s) : Known clients copies s :=
  ⟨h.1, (forall_mem_cons.mp h.2).2⟩

/-- A program of a client, on its own or among the others. -/
abbrev Serves {α : Type} (clients : Clients) (p : PreparationProg α)
    (Q : α → PreparationSystem → Prop) (E : Raised → PreparationSystem → Prop) :
    PreparationSystem → Prop :=
  Guarded FreshIds (Growth (Computed clients)) (Growth (Computed clients)) p Q E

/-- A content that was just stored is known. -/
theorem Known.stored {w} (h : Known clients copies s)
    (hlawful : Lawful (Computed clients) (s.store proc w.operationId w)) :
    Growth (Computed clients) s (s.store proc w.operationId w) ∧
      Known clients (w :: copies) (s.store proc w.operationId w) := by
  have hgrowth := growth_store hlawful
  refine ⟨hgrowth, (stable_known copies s _ hgrowth h).cons ?_⟩
  rw [history_store_self]
  exact mem_cons_self

/-- A write that was computed from the stored content. -/
theorem known_update {op w} (h : Known clients copies s)
    (hget : s.transactions op = some r) (hcomputed : Computed clients r w)
    (hnext : Succeeds r w) : Growth (Computed clients) s (s.store proc op w) ∧
      Known clients (w :: copies) (s.store proc op w) := by
  obtain rfl : op = w.operationId :=
    (h.1.operationId_eq hget).symm.trans hnext.operationId.symm
  exact h.stored (h.1.store proc hget hnext hcomputed)

/-- A command that keeps the copies if it throws. -/
theorem guarded_keeping {p} {f : α → List DevicePreparationTransaction} {M rest}
    (h : Serves clients p M (fun _ => Known clients rest) s)
    (hM : ∀ a t, M a t → Known clients (f a) t) :
    Serves clients ((p.bind fun a => .ret (f a)).handleError fun _ => .ret rest)
      (fun copies => Known clients copies) (fun _ _ => False) s := by
  refine (guarded_handleError _ _).mpr ?_
  refine (guarded_bind _ _).mpr ?_
  refine h.mono (fun _ _ hu => hu) (fun a t ht => ?_) fun _ t ht => ?_
  · exact guarded_ret (stable_known (f a)) (hM a t ht) fun _ hu => hu
  · exact guarded_ret (stable_known rest) ht fun _ hu => hu

/-- Saving a copy. -/
theorem guarded_save_copy {copy} {edit : Edit} (hedit : Command.save place edit ∈ (clients num).2)
    (hcopy : copy ∈ copies) (hs : Known clients copies s) :
    Serves clients (save proc (edit.apply copy)) (fun r => Known clients (r :: copies))
    (fun _ => Known clients (edit.apply copy :: copies)) s := by
  have hedited : ∀ t, Known clients copies t → Known clients (edit.apply copy :: copies) t := by
    intro t ht
    obtain ⟨base, hbase, hrev, hsteps⟩ := ht.2 copy hcopy
    refine ⟨ht.1, fun r hr => ?_⟩
    rcases mem_cons.mp hr with rfl | hr
    · rw [edit.operationId, edit.revision]
      exact ⟨base, hbase, hrev, hsteps.tail ⟨num, place, edit, hedit, rfl⟩⟩
    · exact ht.2 r hr
  refine (guarded_writeLocked growth_refl (stable_known copies)
    (fun r => stable_known _) hs fun i t r ht hA hcont => ?_).mono_error fun e t ht => ?_
  · obtain ⟨base, hbase, hrev, hsteps⟩ := (hedited t ht).2 _ mem_cons_self
    cases hget : t.transactions (edit.apply copy).operationId with
    | none =>
      -- a copy of revision 0 would be a new operation, but its id is in use
      rw [hget] at hcont
      have hnew := hA.history_eq (saved_none hcont).2
      rw [hnew] at hbase
      cases hbase
    | some current =>
      rw [hget] at hcont
      obtain ⟨rfl, hcur, hnext⟩ := saved_some hcont
      obtain rfl : base = current :=
        ht.1.eq_of_revision hget hbase (hcur.trans hrev.symm)
      exact known_update ht hget (.inl ⟨_, hsteps, rfl⟩) hnext
  · rcases ht with ht | ⟨-, r, ht⟩
    · exact hedited t ht
    · exact hedited t ht.tail

/-- Saving a new transaction. -/
theorem guarded_create {tx}
    (hrev : tx.revision = 0) (hs : Known clients copies s) : Serves clients (save proc tx)
    (fun r => Known clients (r :: copies)) (fun _ => Known clients copies) s := by
  refine (guarded_writeLocked growth_refl (stable_known copies)
    (fun r => stable_known _) hs fun i t r ht hA hcont => ?_).mono_error fun e t ht => ?_
  · have hnew := hA.history_eq hrev
    rw [ht.1.not_stored hnew] at hcont
    obtain ⟨rfl, -⟩ := saved_none hcont
    exact ht.stored (w := { tx with revision := 1 }) (ht.1.create proc hnew rfl)
  · rcases ht with ht | ⟨-, r, ht⟩
    · exact ht
    · exact ht.tail

theorem guarded_updateAt_copy {op} {revision : Nat}
    {transition} (hcommand : Command.updateAt place transition ∈ (clients num).2)
    (hs : Known clients copies s) : Serves clients (updateAt proc op revision transition)
    (fun r => Known clients (r :: copies)) (fun _ => Known clients copies) s := by
  refine (guarded_updateAt growth_refl (stable_known copies) (fun r => stable_known _) hs
    fun i t current changed ht _ hget _ hchg hnext => ?_).mono_error fun e t ht => ?_
  · exact known_update ht hget
      (.inr ⟨num, transition, i.now, changed, .inl ⟨place, hcommand⟩, hchg, rfl⟩) hnext
  · rcases ht with ht | ⟨-, r, ht⟩
    · exact ht
    · exact ht.tail

theorem guarded_update_client {op} {transition}
    (hcommand : Command.update op transition ∈ (clients num).2) (hs : Known clients copies s) :
    Serves clients (update proc op transition) (fun r => Known clients (r :: copies))
      (fun _ => Known clients copies) s := by
  refine (guarded_update growth_refl (stable_known copies) (fun r => stable_known _) hs
    fun i t current changed ht _ hget hchg hnext => ?_).mono_error fun e t ht => ?_
  · exact known_update ht hget
      (.inr ⟨num, transition, i.now, changed, .inr ⟨op, hcommand⟩, hchg, rfl⟩) hnext
  · rcases ht with ht | ⟨r, ht⟩
    · exact ht
    · exact ht.tail

/-- One command keeps the store lawful and the copies known. -/
theorem guarded_obey
    {cmd : Command} (hcommand : cmd ∈ (clients num).2) (hs : Known clients copies s) :
    Serves clients (obey proc copies cmd) (fun copies => Known clients copies)
      (fun _ _ => False) s := by
  have hmem : ∀ place : Nat, ∀ copy, copies[place]? = some copy → copy ∈ copies :=
    fun place copy h => mem_of_getElem? h
  cases cmd with
  | load op =>
    refine guarded_keeping (guarded_load growth_refl (stable_known copies)
      stable_mem_history hs ?_) fun r t ht => ht.1.cons ht.2
    rintro t r ht hget rfl
    exact ht.1.mem_history hget
  | loadAndPrune retention =>
    refine guarded_keeping (guarded_loadAndPrune growth_refl (stable_known copies)
      stable_mem_history hs (fun t r ht => ht.1.mem_history)
      (fun i t r ht _ hr hterm => ?_) fun _ _ _ hr => hr) fun scan t ht => ?_
    · have hlawful := ht.1.prune hr hterm
      exact ⟨growth_prune hlawful, stable_known copies t _ (growth_prune hlawful) ht⟩
    · refine ⟨ht.1.1, fun r hr => ?_⟩
      rcases mem_append.mp hr with hr | hr
      · exact ⟨r, ht.2 r hr, rfl, .refl⟩
      · exact ht.1.2 r hr
  | create tx =>
    exact guarded_keeping (guarded_create rfl hs) fun _ _ ht => ht
  | save place edit =>
    rw [obey]
    split
    · exact guarded_ret (stable_known copies) hs fun _ ht => ht
    · next copy hcopy =>
      exact guarded_keeping (guarded_save_copy hcommand (hmem place copy hcopy) hs) fun _ _ ht => ht
  | updateAt place transition =>
    rw [obey]
    split
    · exact guarded_ret (stable_known copies) hs fun _ ht => ht
    · exact guarded_keeping (guarded_updateAt_copy hcommand hs) fun _ _ ht => ht
  | update op transition =>
    exact guarded_keeping (guarded_update_client hcommand hs) fun _ _ ht => ht

/-- A client keeps the store lawful: the induction is on its commands. -/
theorem guarded_client (num : Nat) (commands : List Command)
    (hcommands : ∀ cmd ∈ commands, cmd ∈ (clients num).2)
    (copies : List DevicePreparationTransaction) (hs : Known clients copies s) :
    Serves clients (client proc commands copies) (fun _ _ => True) (fun _ _ => False) s := by
  induction commands generalizing copies s with
  | nil => exact fun _ _ => trivial
  | cons cmd rest ih =>
    refine guarded_seq (guarded_obey (hcommands cmd mem_cons_self) hs) fun more t ht => ?_
    exact ih (fun c hc => hcommands c (mem_cons_of_mem cmd hc)) more ht

end clients

/-! ### Every interleaving -/

/-- How the state of a preparation may change. -/
inductive Moves : PreparationState → PreparationState → Prop
  | stay {state : PreparationState} : Moves state state
  | start : Moves .queued .running
  | finish {before after : PreparationState} (hbefore : before = .queued ∨ before = .running)
      (hafter : after.ended = true) : Moves before after

theorem moves_of_allowed {pre after}
    (h : stateTransitionAllowed pre after = true) : Moves pre after := by
  by_cases heq : pre = after
  · exact heq ▸ .stay
  simp only [stateTransitionAllowed, heq, if_false] at h
  cases pre with
  | queued =>
    cases after with
    | running => exact .start
    | queued => exact absurd rfl heq
    | succeeded => cases h
    | failed => exact .finish (.inl rfl) rfl
    | cancelled => exact .finish (.inl rfl) rfl
    | interrupted => exact .finish (.inl rfl) rfl
  | running =>
    refine .finish (.inr rfl) ?_
    cases after with
    | queued => cases h
    | running => exact absurd rfl heq
    | succeeded => rfl
    | failed => rfl
    | cancelled => rfl
    | interrupted => rfl
  | succeeded => cases h
  | failed => cases h
  | cancelled => cases h
  | interrupted => cases h

theorem lawful_empty (C : DevicePreparationTransaction → DevicePreparationTransaction → Prop) :
    Lawful C emptyStore where
  chain _ := .nil
  named _ _ hr := by cases hr
  stored _ _ hr := by cases hr
  pruned _ _ _ hr := by cases hr

/-- The store is lawful after every schedule. -/
theorem lawful_run {clients : Clients} {schedule}
    (hfresh : Pool.Permitted FreshIds schedule (storePool clients)) :
    Lawful (Computed clients) (Pool.run schedule (storePool clients)).state := by
  have hcompat : Pool.Compatible (fun _ : Nat => Growth (Computed clients))
      fun _ => Growth (Computed clients) :=
    ⟨fun _ => isRely_growth, fun _ => growth_refl, fun _ _ _ _ _ h => h⟩
  have hguarded : Pool.AllGuarded FreshIds (fun _ => Growth (Computed clients))
      (fun _ => Growth (Computed clients)) (fun _ _ _ => True) (fun _ _ _ => False)
      (storePool clients) := fun num =>
    guarded_client num _ (fun _ h => h) [] ⟨lawful_empty _, fun _ h => by cases h⟩
  exact Pool.invariant_run hcompat (fun _ _ _ h => h.lawful) hguarded hfresh (lawful_empty _)

/-- **The history of a record.**  Each content was computed from the one before it,
which was not terminal; the revision went up by one, the state moved forward, and a
request to cancel stayed.  The stored content is the last one, and if there is none
the last one was terminal. -/
theorem store_history {clients : Clients} {schedule : List (Nat × PreparationAnswer)}
    (hfresh : Pool.Permitted FreshIds schedule (storePool clients)) (operationId : OperationId) :
    let system := (Pool.run schedule (storePool clients)).state
    ((system.history operationId).IsChain fun newer older =>
      newer.revision = older.revision + 1 ∧ Computed clients older newer ∧
        terminal older = false ∧ Moves older.state newer.state ∧
          (older.cancelRequested = true → newer.cancelRequested = true)) ∧
    (∀ r, system.transactions operationId = some r →
      (system.history operationId).head? = some r) ∧
    (system.transactions operationId = none →
      ∀ r, (system.history operationId).head? = some r → terminal r = true) := by
  intro system
  have hlawful := lawful_run hfresh
  refine ⟨(hlawful.chain operationId).imp fun newer older hnext => ?_, hlawful.stored operationId,
    hlawful.pruned operationId⟩
  exact ⟨hnext.1.revision, hnext.2, hnext.1.notTerminal, moves_of_allowed hnext.1.transition,
    hnext.1.cancelRequested⟩

namespace Sample

theorem identifierOk_laptop : identifierOk "laptop" = true := by decide

def operation : OperationId := ⟨"prepare-1", by decide⟩

/-- A transaction as it is created for the reformatting of a partition. -/
def created : DevicePreparationTransaction where
  revision := 0
  operationId := operation
  profileId := ⟨"laptop", identifierOk_laptop⟩
  state := .queued
  phase := .inspect
  errorCode := ""
  recoveryAction := ""
  canCancel := true
  device := ⟨"/dev/sdb", "8:16"⟩
  target := {
    mode := .reformatExistingPartition
    partitionTableType := .gpt
    partitionTableIdentifier := "table"
    logicalSectorSize := 512
    partition := some {
      displayPath := "/dev/sdb1"
      majorMinor := "8:17"
      filesystemType := "ext4"
      filesystemVersion := "1.0"
      filesystemLabel := "data"
      filesystemUuid := "uuid"
      partitionUuid := some "part"
      suitableForAdoption := false
      mountPoints := []
      holders := []
      activeSwap := false
      blockers := [] }
    freeRegion := none
    plannedPartitionGeometry := none
    expectedInspection := none }
  profileName := "Laptop"
  sources := []
  passphraseLabel := "Passphrase"
  createAutomaticKey := false
  updatedAt := 0
  lastCompletedPhase := none
  partitionTableBackup := ""
  partition := "/dev/sdb1"
  partitionDeviceNumber := "8:17"
  partitionUuid := ""
  luksUuid := ""
  btrfsUuid := ""
  mapper := ""
  mapperDeviceNumber := ""
  inspectionMountPoint := ""
  configurationState := .notStarted
  credentialsState := .notStarted
  profileReservationState := .held
  cleanupResult := .notRequired
  cancelRequested := false
  requestedDeviceAccess := ["8:16"]
  requestedMapperControl := false
  accessGeneration := 1
  authorizedAccessGeneration := 1

/-- A call that succeeds. -/
def success : PreparationAnswer where
  error := none
  took := false
  now := 0
  flag := true
  count := 1
  text := "text"
  lines := []
  operations := []
  source := ⟨"", "", ""⟩
  summary := ⟨.compatibleRepository, "", "luks", "btrfs", "part", "repository", 1, 1⟩

/-- A request to cancel, as an edit. -/
def cancelling : Edit where
  apply := fun r => { r with cancelRequested := true }
  revision := fun _ => rfl
  operationId := fun _ => rfl

/-- One client creates an operation and requests to cancel it, another one starts it. -/
def twoClients : Clients
  | 0 => (.manager, [.create created, .save 0 cancelling])
  | 1 => (.helper, [.update operation fun _ r => .ok { r with state := .running }])
  | _ => (.manager, [])

/-- The second client writes between the two writes of the first one. -/
def interleaved : List (Nat × PreparationAnswer) :=
  [(0, success), (1, success), (1, success), (0, success)]

theorem conflicting_clients : Pool.Permitted FreshIds interleaved (storePool twoClients) ∧
    ((Pool.run interleaved (storePool twoClients)).state.history operation).length = 2 ∧
    ((Pool.run interleaved (storePool twoClients)).state.history operation).IsChain
      fun newer older => newer.revision = older.revision + 1 ∧ Computed twoClients older newer ∧
          terminal older = false ∧ Moves older.state newer.state ∧
            (older.cancelRequested = true → newer.cancelRequested = true) := by
  have hfresh : Pool.Permitted FreshIds interleaved (storePool twoClients) := by decide +kernel
  exact ⟨hfresh, by decide +kernel, (store_history hfresh operation).1⟩

end Sample

end Preparation

end BtrfsBackup
