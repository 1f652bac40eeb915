/-
Which interrupted executions are recovered.

The manager marks a record as interrupted when it finds that its helper is gone, in
`load_current` and in `restore_transactions`.  Both start the recovery if the record
names a device mapping.  The recovery itself also handles a partition table that may
have been changed, but no mapping is named before the new partition is recorded.

* `PartitionRecorded` — the helper has recorded the new partition;
* `MapsLater` — until then no mapping is named and the recovery is not called for, as
  an invariant of all processes;
* `recovery_not_requested` — whatever the manager does, the recovery is not called for
  before the partition is recorded.
-/
import BtrfsBackup.PreparationMappings

open Interaction Interaction.Prog

namespace BtrfsBackup

open List

namespace Preparation

open PreparationSystem

/-- A write of the helper that records the partition it has made. -/
def Event.recordsPartition : Event → Bool
  | .wrote .helper w => w.lastCompletedPhase == some .partition
  | _ => false

/-- The helper has recorded the partition. -/
abbrev PartitionRecorded (added : List Event) : Prop :=
  ∃ event ∈ added, event.recordsPartition = true

/-- Until the partition is recorded, the record names no mapping and nobody has called
for the recovery. -/
def MapsLater (op : OperationId) (before : List Event) (s : PreparationSystem) : Prop :=
  Since before (fun added => PartitionRecorded added ∨
    s.Unmapped op ∧ s.asked op = before.count .recoveryRequested) (s.trace op)

/-- The partition is recorded. -/
def Partitioned (op : OperationId) (before : List Event) (s : PreparationSystem) : Prop :=
  Since before PartitionRecorded (s.trace op)

section underway

variable {op : OperationId} {mode : ProvisioningMode} {s t : PreparationSystem}
  {r w : DevicePreparationTransaction} {pre added later : List Event}
  {setup : ExecutorSetup} {init : DevicePreparationTransaction}

theorem PartitionRecorded.append (h : PartitionRecorded added) :
    PartitionRecorded (later ++ added) := by
  obtain ⟨event, hevent, hrecords⟩ := h
  exact ⟨event, mem_append_right later hevent, hrecords⟩

theorem Partitioned.mapsLater (h : Partitioned op pre s) : MapsLater op pre s := by
  obtain ⟨added, hadded, hrecorded⟩ := h
  exact ⟨added, hadded, .inl hrecorded⟩

/-- Writes that name no mapping. -/
def KeepsUnmapped (r w : DevicePreparationTransaction) : Prop :=
  w.target = r.target ∧ (r.mapper = "" → w.mapper = "")

/-- The events of the helper other than its writes. -/
def Event.unwritten (event : Event) : Prop :=
  event.content = none ∧ event ≠ .recoveryRequested

theorem lasting_mapsLater : Lasting op KeepsUnmapped Event.unwritten (MapsLater op pre) where
  aside s t hst hbegun hs := by
    obtain ⟨earlier, hearlier, h⟩ := hs
    obtain ⟨added, hadded, -⟩ := hst.trace
    refine ⟨added ++ earlier, by rw [hadded, hearlier, append_assoc], ?_⟩
    rcases h with h | ⟨hnone, hasked⟩
    · exact .inl h.append
    · exact .inr ((hst.unmapped hbegun hnone).imp_right hasked.subst)
  store s r w hs hr hw h := by
    rw [MapsLater, trace_store_self, asked_store]
    refine h.cons _ fun added h => h.imp ?_ ?_
    · exact fun h => show PartitionRecorded ([_] ++ added) from h.append
    rintro ⟨hnone, hasked⟩
    refine ⟨fun r' hr' => ?_, hasked⟩
    rw [history_store_self, mem_cons] at hr'
    rcases hr' with rfl | hr'
    · exact hw.2 (hnone r (hs.mem_history hr))
    · exact hnone r' hr'
  extend s t added hst hadded h := by
    obtain ⟨earlier, hearlier, h⟩ := h
    refine ⟨added ++ earlier, by rw [hst.trace, hearlier, append_assoc], ?_⟩
    refine h.imp PartitionRecorded.append fun ⟨hnone, hasked⟩ => ?_
    rw [Unmapped, hst.history, asked, hst.trace, count_append,
      count_eq_zero.mpr fun hmem => (hadded _ hmem).2 rfl, Nat.zero_add]
    exact ⟨hnone, hasked⟩

/-! ### The operations -/

theorem ops_mapsLater : MappingOps op FreshIds (Aside op) (Keeping (MapsLater op pre))
    (Underway op mode (MapsLater op pre)) KeepsUnmapped Event.unwritten :=
  mappingOps_underway (upholds_achieved lasting_mapsLater (fun _ h => h)
    (fun _ _ h => ⟨h.loose.target, fun hnone => h.keepsMapper.2.trans hnone⟩) (fun _ _ h => h.1)
    fun _ h => h.1) (fun _ _ _ h => h) (fun _ _ _ => ⟨rfl, id⟩)
    fun _ => ⟨⟨rfl, nofun⟩, ⟨rfl, nofun⟩⟩

theorem ops_partitioned : FreeOps op FreshIds (Aside op) (Keeping (MapsLater op pre))
    (Underway op mode (Partitioned op pre)) Event.unwritten :=
  freeOps_underway (upholds_achieved (lasting_since fun _ _ h => h.append)
    (fun _ h => h.mapsLater) (fun _ _ h => h.loose) (fun _ _ h => h.target) fun _ h => h.1)
    (fun _ _ _ h => h) fun _ => ⟨⟨rfl, nofun⟩, ⟨rfl, nofun⟩⟩

/-- A program of the helper; if it throws, it can be in either stage. -/
abbrev Maps {α : Type} (op : OperationId) (mode : ProvisioningMode) (before : List Event)
    (p : PreparationProg α) (Q : α → PreparationSystem → Prop) (s : PreparationSystem) : Prop :=
  Guarded FreshIds (Aside op) (Keeping (MapsLater op before)) p Q
    (fun _ => Underway op mode (MapsLater op before)) s

/-- The write after the partition table was changed. -/
theorem maps_makePartition {call} (hs : Underway op mode (MapsLater op pre) s) :
    Maps op mode pre (makePartition op call)
      (fun _ => Underway op mode (Partitioned op pre)) s := by
  refine guarded_do (ops_mapsLater.within_phase s hs) fun _ t ht => ?_
  refine guarded_do (ops_mapsLater.within_destroy ⟨rfl, nofun⟩ t ht) fun partition t ht => ?_
  refine guarded_do ((guarded_amend keeping_refl ops_mapsLater.stable ops_partitioned.stable ht
    fun i t r now ht _ hget hnext => ?_).mono_error
      fun _ _ hu => hu.elim id (Underway.mono · Partitioned.mapsLater)) fun _ t ht => ?_
  · obtain ⟨hgrowth, hlater⟩ : _ ∧ Underway op mode (Partitioned op pre) _ :=
      ht.write hget hnext rfl (by
        rw [Partitioned, trace_store_self]
        exact ht.achieved.cons _ fun _ _ => ⟨_, mem_cons_self, rfl⟩)
    exact ⟨⟨hgrowth, fun _ => hlater.achieved.mapsLater⟩, hlater⟩
  · exact guarded_ret ops_partitioned.stable ht fun _ hu => hu

theorem maps_carryOut {plan : Plan} (hid : init.operationId = op) (hmode : init.target.mode = mode)
    (hchanges : mode = .eraseWholeDevice ∨ mode = .createPartitionInUnallocatedSpace)
    (hplan : planOf init.target = .ok plan) (hs : Underway op mode (MapsLater op pre) s) :
    Maps op mode pre (carryOut setup init plan)
      (fun _ => Underway op mode (MapsLater op pre)) s := by
  subst hid hmode
  refine guarded_carryOut hplan (fun hadopt => ?_)
    (ops_mapsLater.within_backupPartitionTable rfl (fun _ _ _ => ⟨rfl, id⟩) s hs)
    (fun _ _ _ => ops_mapsLater.within_wipeSignatures ⟨rfl, nofun⟩)
    (fun _ _ _ ht => maps_makePartition (ht.elim id id)) (fun hreformat => ?_)
    ops_partitioned.stable fun _ _ t ht => ?_
  · rw [hadopt] at hchanges
    simp at hchanges
  · rw [hreformat] at hchanges
    simp at hchanges
  · exact (ops_partitioned.within_fillPartition rfl (fun _ => ⟨rfl, nofun⟩) t ht).mono
      (fun _ _ hG => hG) (fun _ _ hu => hu.mono Partitioned.mapsLater)
      fun _ _ hu => hu.mono Partitioned.mapsLater

theorem maps_execute
    (hchanges : mode = .eraseWholeDevice ∨ mode = .createPartitionInUnallocatedSpace)
    (hs : Underway op mode (MapsLater op pre) s) :
    Maps op mode pre (execute setup op) (fun _ => Underway op mode (MapsLater op pre)) s := by
  refine guarded_execute ops_mapsLater.toHelperOps (fun t r ht hget _ => ht.mode r hget)
    (fun _ ht => ht) (fun t ht => ops_mapsLater.within_setMapper t ht)
    (fun init t hid hmode ht => ?_) (fun init e hid _ => ?_) hs
  · exact guarded_executeBody ops_mapsLater.toHelperOps ops_mapsLater.toHelperOps hid
      (ops_mapsLater.within_phase_of fun _ _ => ⟨rfl, id⟩)
      (ops_mapsLater.within_amend fun _ _ => by exact ⟨rfl, id⟩) (fun _ ht => ht) (fun _ ht => ht)
      (ops_mapsLater.within_acquireDeviceLock ⟨rfl, nofun⟩)
      (ops_mapsLater.within_inspectSafety fun _ => ⟨rfl, nofun⟩)
      (fun _ _ => maps_carryOut hid hmode hchanges) ht
  · refine ops_mapsLater.within_handleFailure hid (fun r now required ok => ⟨rfl, fun hnone => ?_⟩)
      (ops_mapsLater.within_releaseAfterSafeFailure fun _ => ⟨rfl, nofun⟩)
    simp [stamped, DevicePreparationTransaction.next, markFailed, hnone]

end underway

/-! ### The helper and the manager -/

/-- An operation that changes the partition table, whose record has never named a mapping:
wherever the helper stops before the new partition is recorded, and whatever the manager
does, also when it reads the record or restores all records afterwards, the recovery of
the operation is not called for. -/
theorem recovery_not_requested {setup : ExecutorSetup} {operationId : OperationId}
    {requests : Nat → List ManagerRequest} {system : PreparationSystem}
    {r : DevicePreparationTransaction} {schedule : List (Party × PreparationAnswer)}
    {added : List Event} (horderly : Orderly system)
    (hstored : system.transactions operationId = some r) (hunmapped : system.Unmapped operationId)
    (hmode : r.target.mode = .eraseWholeDevice ∨
      r.target.mode = .createPartitionInUnallocatedSpace)
    (hfresh : Pool.Permitted FreshIds schedule (preparationPool setup operationId requests system))
    (htrace : (Pool.run schedule (preparationPool setup operationId requests system)).state.trace
      operationId = added ++ system.trace operationId)
    (hwindow : ¬PartitionRecorded added) :
    (Pool.run schedule (preparationPool setup operationId requests system)).state.asked
      operationId = system.asked operationId := by
  have hbegin : Underway operationId r.target.mode
      (MapsLater operationId (system.trace operationId)) system :=
    underway_of_stored horderly hstored ⟨[], rfl, .inr ⟨hunmapped, rfl⟩⟩
  have hlater : MapsLater operationId (system.trace operationId) _ :=
    kept_run (fun _ _ _ h => h) horderly (maps_execute hmode hbegin) hfresh
      (fun s t => lasting_mapsLater.aside s t) hbegin.begun hbegin.achieved
  rw [MapsLater, htrace, since_append] at hlater
  exact (hlater.resolve_left hwindow).2

namespace Sample

/-- A transaction for a whole device, which has no partition yet. -/
def erasing : DevicePreparationTransaction :=
  { wholeDevice with
    partition := ""
    partitionDeviceNumber := "" }

/-- The execution of that transaction, with a thread of the manager that is asked for the
state of the operation and one that restores all records. -/
def deserted : Pool Party PreparationCall PreparationAnswer PreparationSystem Raised Unit :=
  preparationPool ⟨true, "/run"⟩ operation
    (fun | 0 => [.status operation] | 1 => [.restore ⟨100, 1000⟩ true] | _ => [])
    (registered erasing)

/-- The helper stops while it replaces the partition table. -/
def untilReplacing : List (Party × PreparationAnswer) := untilWiping ++ helping 6 success

/-- A thread of the manager then finds that the helper is gone. -/
def marking (number : Nat) : List (Party × PreparationAnswer) :=
  untilReplacing ++
    List.replicate 12 (.manager number, { unmounted with operations := [operation] })

/-- The helper stops while the partition table is replaced, a state the recovery is
written for.  Both ways to mark the operation do not start the recovery. -/
theorem replacing_not_recovered :
    ((Pool.run untilReplacing deserted).state.trace operation).head? =
      some (.destroying (.replaceWithSingleGptPartition "/dev/sdb" "8:16" ⟨2048, 4096, 1⟩)) ∧
    ((Pool.run untilReplacing deserted).state.transactions operation).any
      replacedPartitionUnknown = true ∧
    ∀ number ∈ [0, 1],
      Pool.Permitted FreshIds (marking number) deserted ∧
      ((Pool.run (marking number) deserted).state.transactions operation).any
        (·.state == .interrupted) = true ∧
      (Pool.run (marking number) deserted).state.asked operation = 0 := by
  decide +kernel

/-- What happens to the operation until its record is read, after it was registered. -/
def replaced : List Event := ((Pool.run (marking 0) deserted).state.trace operation).dropLast

theorem replacing_recovery : (Pool.run (marking 0) deserted).state.asked operation =
    (registered erasing).asked operation := by
  have htrace : (Pool.run (marking 0) deserted).state.trace operation =
      replaced ++ (registered erasing).trace operation := by decide +kernel
  refine recovery_not_requested (orderly_registered erasing) rfl ?_ (.inl rfl) (by decide +kernel)
    htrace (by decide +kernel)
  unfold PreparationSystem.Unmapped
  decide +kernel

end Sample

end Preparation

end BtrfsBackup
