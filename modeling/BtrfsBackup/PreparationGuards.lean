/-
What an execution has made sure of before it destroys anything.

The helper takes the device lock and inspects the safety of the device; it leaves
the stage in which it can be cancelled by a write that checks that nobody has
asked for it.  From then on the record is not cancellable, so that the manager
cannot persist a request any more.  The modes that change the partition table
save it first.

* `Warranted` — what has happened before a call that destroys something;
* `Started`, `Locked`, `Inspected`, `Committed`, `Prepared` — the stages;
* `destruction_warranted` — every such call is warranted.
-/
import BtrfsBackup.PreparationStages

open Interaction Interaction.Prog

namespace BtrfsBackup

namespace Preparation

open PreparationSystem

section underway

variable {op : OperationId} {mode : ProvisioningMode} {s t : PreparationSystem}
  {K K' : PreparationSystem → Prop} {V : Event → Prop} {r w init : DevicePreparationTransaction}
  {pre : List Event} {ev : Event} {α : Type}

/-- What has happened before a call that destroys something: `earlier` in the same
execution, and `before` it.  The newest event is the first one. -/
structure Warranted (mode : ProvisioningMode) (before earlier : List Event) : Prop where
  inspected : [Event.safetyInspected [], .lockAcquired].Sublist earlier
  backup : mode = .eraseWholeDevice ∨ mode = .createPartitionInUnallocatedSpace →
    ∃ w, .wrote .helper w ∈ earlier ∧ w.partitionTableBackup ≠ ""
  mode : mode ≠ .adoptExistingTarget
  notCancelled : ∀ process w, .wrote process w ∈ earlier ++ before → w.cancelRequested = false

/-- Only the calls that destroy something are judged. -/
def warrants (mode : ProvisioningMode) (before : List Event) (event : Event)
    (earlier : List Event) : Prop :=
  ∀ call, event = .destroying call → Warranted mode before earlier

theorem verdict_warrants : Verdict (warrants mode pre) := by
  rintro ev earlier hquiet call rfl
  cases hquiet

/-- An event that destroys nothing. -/
def Harmless (event : Event) : Prop :=
  event.content = none ∧ ∀ call, event ≠ .destroying call

theorem Harmless.warranted (h : Harmless ev) (hs : Begun op pre s) :
    Since pre (warrants mode pre ev) (s.trace op) := by
  obtain ⟨added, hadded, -⟩ := hs
  exact ⟨added, hadded, fun call hcall => absurd hcall (h.2 call)⟩

/-- The guarantee of an execution whose calls are warranted. -/
abbrev Warrants (op : OperationId) (mode : ProvisioningMode) (before : List Event) :
    PreparationSystem → PreparationSystem → Prop :=
  Keeping (Careful op (warrants mode before) before)

theorem Underway.note (h : Underway op mode K s) (hbegun : Begun op pre s)
    (hevent : Harmless ev) (hK : K' (s.record op ev)) :
    Warrants op mode pre s (s.record op ev) ∧ Underway op mode K' (s.record op ev) :=
  ⟨keeping_record hevent.1 (hevent.warranted hbegun),
    h.extend (extends_record op hevent.1) hK⟩

/-! ### What lasts -/

/-- The writes of the helper, as far as they concern the cancellation. -/
structure Steady (before after : DevicePreparationTransaction) : Prop where
  target : after.target = before.target
  cancelRequested : after.cancelRequested = before.cancelRequested
  canCancel : after.canCancel = true → before.canCancel = true

theorem Loose.steady (h : Loose r w) : Steady r w := ⟨h.target, h.cancelRequested, h.canCancel⟩

theorem lasting_settled : Lasting op Steady V (Settled op) where
  aside s t hst hs h := hst.settled hs h
  store s r w hs hr hw h := by
    have hcancel := hw.cancelRequested.trans (h.1 r (hs.mem_history hr))
    refine ⟨fun r' hr' => ?_, fun r' hr' => ?_⟩
    · rw [history_store_self, List.mem_cons] at hr'
      rcases hr' with rfl | hr'
      · exact hcancel
      · exact h.1 r' hr'
    · rw [transactions_store_self, Option.some.injEq] at hr'
      subst hr'
      rw [← Bool.not_eq_true]
      intro hcan
      have hpre := hw.canCancel hcan
      rw [h.2 r hr] at hpre
      cases hpre
  extend s t added hst _ h := ⟨hst.history op ▸ h.1, hst.transactions ▸ h.2⟩

/-! ### The stages of an execution -/

section

variable (op mode before)

/-- The execution has begun. -/
abbrev Started : PreparationSystem → Prop :=
  Underway op mode (Begun op before)

/-- The lock was taken. -/
abbrev Locked : PreparationSystem → Prop :=
  Underway op mode fun s =>
    Since before [Event.lockAcquired].Sublist (s.trace op)

/-- The lock was taken and the device was found to be safe. -/
def Safe (s : PreparationSystem) : Prop :=
  Since before [Event.safetyInspected [], .lockAcquired].Sublist (s.trace op)

/-- A partition table that will be changed was saved. -/
def BackedUp (s : PreparationSystem) : Prop :=
  mode = .eraseWholeDevice ∨ mode = .createPartitionInUnallocatedSpace →
    Since before (fun added => ∃ w, .wrote .helper w ∈ added ∧ w.partitionTableBackup ≠ "")
      (s.trace op)

/-- The device is safe. -/
abbrev Inspected : PreparationSystem → Prop :=
  Underway op mode (Safe op before)

/-- In addition, the operation cannot be cancelled any more. -/
abbrev Committed : PreparationSystem → Prop :=
  Underway op mode fun s => Safe op before s ∧ Settled op s

/-- Everything is ready for calls that destroy something. -/
abbrev Prepared : PreparationSystem → Prop :=
  Underway op mode fun s =>
    (Safe op before s ∧ Settled op s) ∧ BackedUp op mode before s

end

theorem lasting_sublist (events : List Event) :
    Lasting op Steady V fun s => Since pre events.Sublist (s.trace op) :=
  lasting_since fun added _ h => h.trans (List.sublist_append_right added _)

theorem lasting_committed : Lasting op Steady V fun s => Safe op pre s ∧ Settled op s :=
  (lasting_sublist _).and lasting_settled

theorem lasting_backedUp : Lasting op Steady V (BackedUp op mode pre) := by
  have hwritten : Lasting op Steady V fun s =>
      Since pre (fun added => ∃ w, .wrote .helper w ∈ added ∧ w.partitionTableBackup ≠ "")
        (s.trace op) :=
    lasting_since fun added _ ⟨w, hw, hbackup⟩ => ⟨w, List.mem_append_right added hw, hbackup⟩
  exact ⟨fun s t hst hs h hmode => hwritten.aside s t hst hs (h hmode),
    fun s r w hs hr hw h hmode => hwritten.store s r w hs hr hw (h hmode),
    fun s t added hst hV h hmode => hwritten.extend s t added hst hV (h hmode)⟩

theorem warranted_of_prepared (hmode : mode ≠ .adoptExistingTarget)
    (h : Prepared op mode pre s) : Since pre (Warranted mode pre) (s.trace op) := by
  obtain ⟨⟨⟨earlier, htrace, hinspected⟩, hset⟩, hbacked⟩ := h.achieved
  refine ⟨earlier, htrace, hinspected, fun hchg => ?_, hmode, fun process w hw => ?_⟩
  · have hsince := hbacked hchg
    rw [htrace] at hsince
    exact since_append.mp hsince
  · rw [← htrace] at hw
    exact hset.1 w (List.mem_filterMap.mpr ⟨.wrote process w, hw, rfl⟩)

/-- The operations before anything is destroyed. -/
theorem ops_harmless (hK : Lasting op Steady Harmless K) (hbegun : ∀ s, K s → Begun op pre s) :
    HelperOps op FreshIds (Aside op) (Warrants op mode pre) (Underway op mode K) Steady Harmless :=
  helperOps_underway (upholds_careful verdict_warrants hK (fun _ _ h => h.loose.steady)
    (fun _ _ h => h.target) (fun _ h => h.1)
    fun s _ hs hevent => hevent.warranted (hbegun s hs.achieved))

theorem ops_begun : HelperOps op FreshIds (Aside op) (Warrants op mode pre)
      (Started op mode pre) Steady Harmless :=
  ops_harmless lasting_begun fun _ h => h

theorem ops_started : FreeOps op FreshIds (Aside op) (Warrants op mode pre)
      (Started op mode pre) Harmless :=
  freeOps_underway (upholds_careful verdict_warrants lasting_begun (fun _ _ h => h.loose)
    (fun _ _ h => h.target) (fun _ h => h.1) fun _ _ hs hevent => hevent.warranted hs.achieved)
    (fun _ _ _ h => h) fun _ => ⟨⟨rfl, nofun⟩, ⟨rfl, nofun⟩⟩

theorem ops_committed : HelperOps op FreshIds (Aside op) (Warrants op mode pre)
      (Committed op mode pre) Steady Harmless :=
  ops_harmless lasting_committed fun _ h => h.1.begun

/-- The operations when everything is ready. -/
theorem ops_prepared (hmode : mode ≠ .adoptExistingTarget) : FreeOps op FreshIds (Aside op)
    (Warrants op mode pre) (Prepared op mode pre) fun ev => ev.content = none := by
  refine freeOps_underway (upholds_careful verdict_warrants
    ((lasting_committed.and lasting_backedUp).restrict (fun _ _ h => h.steady) fun _ h => h)
    (fun _ _ h => h.loose) (fun _ _ h => h.target) (fun _ h => h) fun s ev hs _ => ?_)
    (fun _ _ _ h => h) fun _ => ⟨rfl, rfl⟩
  obtain ⟨earlier, htrace, hwarranted⟩ := warranted_of_prepared hmode hs
  exact ⟨earlier, htrace, fun _ _ => hwarranted⟩

/-! ### The stages one after the other -/

/-- A program of the helper. -/
abbrev Executes (op : OperationId) (mode : ProvisioningMode) (before : List Event)
    (p : PreparationProg α) (Q : α → PreparationSystem → Prop) (s : PreparationSystem) : Prop :=
  Guarded FreshIds (Aside op) (Warrants op mode before) p Q
    (fun _ => Started op mode before) s

/-- A part that keeps what was achieved; if it throws, the execution has begun. -/
theorem executes_of_within {p : PreparationProg α} (hbegun : ∀ s, K s → Begun op pre s)
    (h : Within FreshIds (Aside op) (Warrants op mode pre) (Underway op mode K) p)
    (hs : Underway op mode K s) : Executes op mode pre p (fun _ => Underway op mode K) s :=
  (h s hs).mono_error fun _ t hu => hu.mono (hbegun t)

theorem stable_started :
    Stable (Aside op) (Started op mode pre) := ops_started.stable

theorem stable_inspected : Stable (Aside op) (Inspected op mode pre) :=
  stable_underway (V := Harmless) (lasting_sublist _)

theorem stable_committed : Stable (Aside op) (Committed op mode pre) :=
  stable_underway (V := Harmless) lasting_committed

theorem stable_prepared : Stable (Aside op) (Prepared op mode pre) :=
  stable_underway (V := Harmless) (lasting_committed.and lasting_backedUp)

theorem executes_acquireDeviceLock (hs : Started op mode pre s) :
    Executes op mode pre (acquireDeviceLock op) (fun _ => Locked op mode pre) s := by
  refine guarded_effect stable_started hs fun i t ht _ => ?_
  have hsince : Since pre [Event.lockAcquired].Sublist
      ((t.record op .lockAcquired).trace op) := by
    rw [trace_record_self]
    exact ht.achieved.cons _ fun _ _ => by simp
  have hharmless : Harmless .lockAcquired := ⟨rfl, nofun⟩
  have hlocked : _ ∧ Locked op mode pre (t.record op .lockAcquired) :=
    ht.note ht.achieved hharmless hsince
  cases i.error with
  | some e =>
    simp only [Option.isNone_some, Bool.false_and]
    exact ⟨keeping_refl t, guarded_fail stable_started ht fun _ hu => hu⟩
  | none =>
    cases i.flag with
    | false =>
      simp only [Bool.and_false]
      exact ⟨keeping_refl t, guarded_fail stable_started ht fun _ hu => hu⟩
    | true =>
      simp only [Option.isNone_none, Bool.and_self, if_true]
      exact ⟨hlocked.1,
        guarded_ret (stable_underway (V := Harmless) (lasting_sublist _)) hlocked.2 fun _ hu => hu⟩

theorem executes_inspectSafety (hs : Locked op mode pre s) :
    Executes op mode pre (inspectSafety op) (fun _ => Inspected op mode pre) s := by
  refine guarded_effect (stable_underway (V := Harmless) (lasting_sublist _)) hs fun i t ht _ => ?_
  have hbegun : Begun op pre t := ht.achieved.begun
  cases i.error with
  | some e =>
    simp only [Option.isNone_some]
    refine ⟨keeping_refl t, guarded_fail stable_started ?_ fun _ hu => hu⟩
    exact ht.mono fun _ => hbegun
  | none =>
    simp only [Option.isNone_none, if_true]
    cases i.lines with
    | cons reason rest =>
      have hharmless : Harmless (.safetyInspected (reason :: rest)) := ⟨rfl, nofun⟩
      have hlater : Begun op pre
          (t.record op (.safetyInspected (reason :: rest))) := by
        rw [Begun, trace_record_self]
        exact hbegun.cons _ fun _ h => h
      have hfailed := ht.note hbegun hharmless hlater
      exact ⟨hfailed.1, guarded_fail stable_started hfailed.2 fun _ hu => hu⟩
    | nil =>
      have hsince : Safe op pre (t.record op (.safetyInspected [])) := by
        rw [Safe, trace_record_self]
        exact ht.achieved.cons _ fun _ h => h.cons_cons _
      have hharmless : Harmless (.safetyInspected []) := ⟨rfl, nofun⟩
      have hsafe := ht.note hbegun hharmless hsince
      exact ⟨hsafe.1, guarded_ret stable_inspected hsafe.2 fun _ hu => hu⟩

/-- The first phase that cannot be cancelled: the write checks that nobody has asked
for it, and then nobody can. -/
theorem executes_phase_commits {value : Phase} (hs : Inspected op mode pre s) :
    Executes op mode pre (phase op value false) (fun _ => Committed op mode pre) s := by
  refine (guarded_phase keeping_refl stable_inspected stable_committed hs
    fun i t r now ht _ hget hcancel hnext => ?_).mono_error
      fun _ _ hu => hu.elim (Underway.mono · Since.begun) (Underway.mono · fun h => h.1.begun)
  refine ht.store verdict_warrants pre hget hnext rfl ⟨?_, fun w hw => ?_, fun w hw => ?_⟩
  · rw [Safe, trace_store_self]
    exact ht.achieved.cons _ fun _ hsafe => hsafe.cons _
  · rw [history_store_self, List.mem_cons] at hw
    rcases hw with rfl | hw
    · exact hcancel
    · exact ht.orderly.not_cancelled hget hcancel hw
  · rw [transactions_store_self, Option.some.injEq] at hw
    rw [← hw]
    rfl

/-- The copy of the partition table is in the record before the table is changed. -/
theorem executes_backupPartitionTable (hid : init.operationId = op) (hs : Inspected op mode pre s) :
    Executes op mode pre (backupPartitionTable init) (fun _ => Prepared op mode pre) s := by
  subst hid
  have hbegun : ∀ s, Safe init.operationId pre s ∧ Settled init.operationId s →
      Begun init.operationId pre s := fun _ h => h.1.begun
  refine guarded_do (executes_phase_commits hs) fun _ t ht => ?_
  refine guarded_do (executes_of_within hbegun ops_committed.within_ensure ht) fun _ t ht => ?_
  refine guarded_do (executes_of_within hbegun ops_committed.within_ask ht) fun backup t ht => ?_
  by_cases hbackup : backup = ""
  · subst hbackup
    refine guarded_do ?_ fun _ _ => False.elim
    exact guarded_fail stable_committed ht fun t hu => hu.mono (hbegun t)
  · refine guarded_do (executes_of_within hbegun ops_committed.within_ensure ht) fun _ t ht => ?_
    refine (guarded_amend keeping_refl stable_committed stable_prepared ht
      fun i t r now ht _ hget hnext => ?_).mono_error
        fun _ t hu => hu.elim (Underway.mono · (hbegun t)) (Underway.mono · fun h => hbegun t h.1)
    refine ht.store verdict_warrants pre hget hnext rfl ⟨?_, fun _ => ?_⟩
    · exact (lasting_committed (V := Harmless)).store t r _ ht.orderly hget ⟨rfl, rfl, id⟩
        ht.achieved
    · rw [trace_store_self]
      exact ht.achieved.1.cons _ fun _ _ => ⟨_, List.mem_cons_self, hbackup⟩

/-- Once everything is ready, the rest may destroy what it has to. -/
theorem executes_of_prepared {p : PreparationProg α}
    (h : Within FreshIds (Aside op) (Warrants op mode pre) (Prepared op mode pre) p)
    (hs : Prepared op mode pre s) : Executes op mode pre p (fun _ => Prepared op mode pre) s :=
  executes_of_within (fun _ hK => hK.1.1.begun) h hs

/-- The part after the safety inspection. -/
theorem executes_carryOut {setup}
    {plan : Plan} (hid : init.operationId = op) (hmode : init.target.mode = mode)
    (hplan : planOf init.target = .ok plan) (hs : Inspected op mode pre s) :
    Executes op mode pre (carryOut setup init plan) (fun _ => Started op mode pre) s := by
  subst hid hmode
  refine guarded_carryOut hplan
    (fun _ _ => ops_started.within_adoptTarget rfl s (hs.mono Since.begun))
    (executes_backupPartitionTable rfl hs)
    (fun herase _ _ _ => executes_of_prepared
      ((ops_prepared (by rw [herase]; decide)).within_wipeSignatures rfl))
    (fun hadopt _ _ ht => executes_of_prepared
      ((ops_prepared hadopt).within_makePartition rfl) (ht.elim id id))
    (fun hreformat _ _ => ?_) stable_prepared fun hadopt _ t ht => ?_
  · refine guarded_do (executes_phase_commits hs) fun _ t ht => ?_
    have hadopt : init.target.mode ≠ .adoptExistingTarget := by rw [hreformat]; decide
    -- the partition table is not changed in this mode
    have hready : Prepared init.operationId init.target.mode pre t :=
      ht.mono fun h => ⟨h, fun hchg => by rw [hreformat] at hchg; simp at hchg⟩
    refine guarded_do (executes_of_prepared
      ((ops_prepared hadopt).within_destroy rfl) hready) fun _ t ht => ?_
    exact executes_of_prepared ((ops_prepared hadopt).within_completed rfl) ht
  · exact (executes_of_prepared ((ops_prepared hadopt).within_fillPartition rfl fun _ => rfl)
      ht).mono_result fun _ _ hu => hu.mono fun h => h.1.1.begun

theorem executes_execute {setup} (hs : Started op mode pre s) :
    Executes op mode pre (execute setup op) (fun _ => Started op mode pre) s := by
  refine guarded_execute ops_begun (fun t r ht hget _ => ht.mode r hget) (fun _ ht => ht)
    ops_started.within_setMapper (fun init t hid hmode ht => ?_)
    (fun init e hid _ => ?_) hs
  · refine guarded_executeBody ops_begun
      (ops_harmless (lasting_sublist _) fun _ h => h.begun) hid ?_
      (ops_begun.within_amend fun _ _ => by exact ⟨rfl, rfl, id⟩) (fun _ ht => ht)
      (fun _ ht => ht.mono Since.begun) (fun _ => executes_acquireDeviceLock)
      (fun _ => executes_inspectSafety)
      (fun plan t => executes_carryOut hid hmode) ht
    -- this phase can be cancelled, so that nothing is known of the cancellation yet
    intro s hs
    refine (guarded_phase keeping_refl stable_started stable_started hs
      fun i t r now ht _ hget _ hnext => ?_).mono_error fun _ _ hu => hu.elim id id
    refine ht.store verdict_warrants pre hget hnext rfl ?_
    rw [Begun, trace_store_self]
    exact ht.achieved.cons _ fun _ h => h
  · exact ops_started.within_handleFailure hid (fun _ _ _ _ => loose_markFailed)
      (ops_started.within_releaseAfterSafeFailure fun _ => ⟨rfl, nofun⟩)

end underway

variable {setup : ExecutorSetup} {operationId : OperationId} {requests : Nat → List ManagerRequest}
  {system : PreparationSystem} {r : DevicePreparationTransaction}
  {schedule : List (Party × PreparationAnswer)}

/-- In every run of a helper and the manager, each call that destroys something comes
after the lock and an empty safety inspection, after the copy of a partition table
that is changed, and not after a request to cancel; there is none in the adopt mode. -/
theorem destruction_warranted (horderly : Orderly system)
    (hstored : system.transactions operationId = some r)
    (hfresh : Pool.Permitted FreshIds schedule (preparationPool setup operationId requests system))
    {later earlier : List Event} {call : DestructiveCall}
    (htrace : (Pool.run schedule (preparationPool setup operationId requests system)).state.trace
      operationId = later ++ .destroying call :: (earlier ++ system.trace operationId)) :
    Warranted r.target.mode (system.trace operationId) earlier := by
  have hstarted : Started operationId r.target.mode (system.trace operationId) system :=
    underway_of_stored horderly hstored ⟨[], rfl, trivial⟩
  have heach := each_run verdict_warrants (fun _ _ _ h => h) horderly hstarted.begun
    (executes_execute hstarted) hfresh
  rw [Careful, htrace] at heach
  exact each_since heach call rfl

/-- However a helper and the manager take turns, the contents of every record follow each
other by the rules of the store, and none of its history is lost. -/
theorem preparation_history (horderly : Orderly system)
    (hstored : system.transactions operationId = some r)
    (hfresh :
      Pool.Permitted FreshIds schedule (preparationPool setup operationId requests system)) :
    let reached := (Pool.run schedule (preparationPool setup operationId requests system)).state
    Orderly reached ∧ ∀ op, system.history op <:+ reached.history op := by
  have hstarted : Started operationId r.target.mode (system.trace operationId) system :=
    underway_of_stored horderly hstored ⟨[], rfl, trivial⟩
  have hgrowth := Pool.invariant_run (compatible_parties keeping_refl fun _ _ h => h.growth)
    (I := Growth (fun _ _ => True) system) (fun who _ _ hstep hs => hs.trans <| match who with
      | .helper => hstep.growth
      | .manager _ => (hstep operationId).growth)
    (allGuarded_parties (fun _ _ _ h => h) horderly (executes_execute hstarted)) hfresh
    (growth_refl system)
  exact ⟨hgrowth.lawful horderly, hgrowth.history⟩

namespace Sample

/-- The store after the operation was registered with a transaction. -/
def registered (transaction : DevicePreparationTransaction) : PreparationSystem :=
  (emptyStore.store .manager transaction.operationId transaction.next).setReservation
    transaction.profileId (some (.owner transaction.operationId))

theorem orderly_registered (tx : DevicePreparationTransaction) : Orderly (registered tx) := by
  have hcreated : Orderly
      (emptyStore.store .manager tx.operationId tx.next) :=
    (lawful_empty _).create .manager rfl rfl
  exact (beside_setReservation hcreated _ _).2

/-- A transaction for a whole device. -/
def wholeDevice : DevicePreparationTransaction :=
  { created with
    target := { created.target with
      mode := .eraseWholeDevice
      partition := none
      plannedPartitionGeometry := some ⟨2048, 4096, 1⟩ } }

/-- The answer that the device is not mounted. -/
def unmounted : PreparationAnswer := { success with flag := false }

/-- The helper gets to its first call that destroys something. -/
def untilWiping : List (Party × PreparationAnswer) :=
  (List.replicate 5 success ++ [unmounted] ++ List.replicate 4 success ++ [unmounted] ++
    List.replicate 9 success).map fun answer => (.helper, answer)

/-- The execution of the transaction for a whole device. -/
def wiping : Pool Party PreparationCall PreparationAnswer PreparationSystem Raised Unit :=
  preparationPool ⟨true, "/run"⟩ operation (fun _ => []) (registered wholeDevice)

theorem wiping_warranted : Warranted .eraseWholeDevice [.wrote .manager wholeDevice.next]
      (((Pool.run untilWiping wiping).state.trace operation).tail.take 7) := by
  have hfresh : Pool.Permitted FreshIds untilWiping wiping := by decide +kernel
  have htrace : (Pool.run untilWiping wiping).state.trace operation =
      [] ++ .destroying (.wipeAll "/dev/sdb" "8:16") ::
        (((Pool.run untilWiping wiping).state.trace operation).tail.take 7 ++
          [.wrote .manager wholeDevice.next]) := by decide +kernel
  exact destruction_warranted (orderly_registered wholeDevice) rfl hfresh htrace

theorem preparation_history_wiping : Orderly (Pool.run untilWiping wiping).state :=
  (preparation_history (orderly_registered wholeDevice) rfl (by decide +kernel)).1

end Sample

end Preparation

end BtrfsBackup
