/-
Plans as capabilities: what a start of the backend has been given.

Calls run at the same time, and the generator may repeat itself, so that a plan that
`start` has looked at may be gone, and another one stored under its identifier, when
`start` takes it.

* `Numbered` — the plans and inspections that are stored or taken have different numbers;
* `Rely`, `Guarantee` — what a call may do to the others;
* `plan_single_use` — a start has its plan and its inspection to itself, for the caller
  they were stored for and before the plan expires; its target is the target of that plan
  if nothing was stored in its place since it was found.
-/
import BtrfsBackup.ProvisioningService

open Interaction Interaction.Prog

namespace BtrfsBackup.Provisioning

open Option

open List

open Preparation (ProvisioningMode ExistingTargetInspectionSummary)

/-! ### Numbers -/

/-- Where a plan or an inspection is stored. -/
inductive Key where
  | plan (id : String)
  | inspection (id : String)

/-- The number of what is stored. -/
def Tables.number? (tables : Tables) : Key → Option Nat
  | .plan id => (tables.plans id).map StoredPlan.number
  | .inspection id => (tables.inspections id).map StoredInspection.number

/-- What is stored has numbers of its own, which were not taken. -/
structure Numbered (tables : Tables) (taken : List (Nat × Nat)) : Prop where
  below : ∀ key n, tables.number? key = some n → n < tables.next
  takenBelow : ∀ entry ∈ taken, entry.2 < tables.next
  unique : ∀ key other n, tables.number? key = some n → tables.number? other = some n → key = other
  untaken : ∀ key n, tables.number? key = some n → ∀ entry ∈ taken, entry.2 ≠ n
  distinct : (taken.map Prod.snd).Nodup

section numbered

variable {tables after : Tables} {taken : List (Nat × Nat)}

/-- What is stored afterwards was stored before. -/
def Tables.Shrinks (after tables : Tables) : Prop :=
  after.next = tables.next ∧ ∀ key n, after.number? key = some n → tables.number? key = some n

theorem Tables.Shrinks.trans {later : Tables} (h : later.Shrinks after)
    (h' : after.Shrinks tables) :
    later.Shrinks tables :=
  ⟨h.1.trans h'.1, fun key n hn => h'.2 key n (h.2 key n hn)⟩

theorem Numbered.shrink (h : Numbered tables taken) (hafter : after.Shrinks tables) :
    Numbered after taken where
  below key n hn := hafter.1 ▸ h.below key n (hafter.2 key n hn)
  takenBelow entry hentry := hafter.1 ▸ h.takenBelow entry hentry
  unique key other n hn hother := h.unique key other n (hafter.2 key n hn) (hafter.2 other n hother)
  untaken key n hn := h.untaken key n (hafter.2 key n hn)
  distinct := h.distinct

/-- Something is stored under the next number. -/
theorem Numbered.put (h : Numbered tables taken) (place : Key)
    (hnext : after.next = tables.next + 1)
    (hafter : ∀ key n, after.number? key = some n →
      key = place ∧ n = tables.next ∨ tables.number? key = some n) : Numbered after taken where
  below key n hn := by
    rw [hnext]
    rcases hafter key n hn with ⟨-, rfl⟩ | hn
    · exact Nat.lt_succ_self _
    · exact Nat.lt_succ_of_lt (h.below key n hn)
  takenBelow entry hentry := by
    rw [hnext]
    exact Nat.lt_succ_of_lt (h.takenBelow entry hentry)
  unique key other n hn hother := by
    rcases hafter key n hn with ⟨rfl, rfl⟩ | hn <;>
      rcases hafter other _ hother with ⟨rfl, heq⟩ | hother
    · rfl
    · exact absurd (h.below other _ hother) (Nat.lt_irrefl _)
    · exact absurd (heq ▸ h.below key n hn) (Nat.lt_irrefl _)
    · exact h.unique key other n hn hother
  untaken key n hn entry hentry := by
    rcases hafter key n hn with ⟨-, rfl⟩ | hn
    · exact (h.takenBelow entry hentry).ne
    · exact h.untaken key n hn entry hentry
  distinct := h.distinct

/-- Something is taken. -/
theorem Numbered.take (h : Numbered tables taken) (call : Nat) (place : Key) {num : Nat}
    (hplace : tables.number? place = some num) (hafter : after.Shrinks tables)
    (hgone : after.number? place = none) : Numbered after ((call, num) :: taken) where
  below := (h.shrink hafter).below
  takenBelow := forall_mem_cons.mpr
    ⟨hafter.1 ▸ h.below place num hplace, (h.shrink hafter).takenBelow⟩
  unique := (h.shrink hafter).unique
  untaken key n hn := by
    refine forall_mem_cons.mpr ⟨?_, (h.shrink hafter).untaken key n hn⟩
    rintro rfl
    rw [h.unique key place num (hafter.2 key num hn) hplace, hgone] at hn
    cases hn
  distinct := by
    rw [map_cons, nodup_cons]
    refine ⟨fun hmem => ?_, h.distinct⟩
    obtain ⟨entry, hentry, heq⟩ := mem_map.mp hmem
    exact h.untaken place num hplace entry hentry heq

end numbered

/-! ### Tables -/

variable {α : Type}

theorem keep_eq_some {cond : α → Bool} {table} {id : String}
    {a : α} : keep cond table id = some a ↔ table id = some a ∧ cond a = true :=
  filter_eq_some_iff

theorem map_keep {β : Type} {cond : α → Bool} {table} {id : String}
    {f : α → β} {b : β} (h : (keep cond table id).map f = some b) : (table id).map f = some b := by
  obtain ⟨a, ha, rfl⟩ := map_eq_some_iff.mp h
  exact map_eq_some_iff.mpr ⟨a, (keep_eq_some.mp ha).1, rfl⟩

section tables

variable {tables : Tables}

theorem shrinks_refl (tables : Tables) : tables.Shrinks tables := ⟨rfl, fun _ _ h => h⟩

theorem shrinks_expireCandidates (now : Int) (tables : Tables) :
    (tables.expireCandidates now).Shrinks tables := by
  refine ⟨rfl, fun key n h => ?_⟩
  cases key with
  | plan id => exact map_keep h
  | inspection id => exact map_keep h

theorem shrinks_forget (caller : String) (tables : Tables) :
    (tables.forget caller).Shrinks tables := by
  refine ⟨rfl, fun key n h => ?_⟩
  cases key with
  | plan id => exact map_keep h
  | inspection id => exact map_keep h

theorem map_update {α β : Type} {table} {place id : String}
    {entry : Option α} {f : α → β} {b : β}
    (h : (Function.update table place entry id).map f = some b) :
    id = place ∧ entry.map f = some b ∨ (table id).map f = some b := by
  by_cases hid : id = place
  · subst hid
    rw [Function.update_self] at h
    exact .inl ⟨rfl, h⟩
  · rw [Function.update_of_ne hid] at h
    exact .inr h

theorem numbered_putPlan {taken} (h : Numbered tables taken) (id : String)
    (plan : ValidPlan) (topology : StorageTopology) (caller : String) (expiresAt : Int) :
    Numbered (tables.putPlan id plan topology caller expiresAt) taken := by
  refine h.put (.plan id) rfl fun key n hn => ?_
  cases key with
  | plan other =>
    rcases map_update hn with ⟨rfl, hnew⟩ | hold
    · exact .inl ⟨rfl, (Option.some.inj hnew).symm⟩
    · exact .inr hold
  | inspection other => exact .inr hn

theorem numbered_putInspection {taken} (h : Numbered tables taken)
    (inspection : ExistingTargetInspection) (caller : String) (expiresAt : Int) :
    Numbered (tables.putInspection inspection caller expiresAt) taken := by
  refine h.put (.inspection inspection.inspectionId) rfl fun key n hn => ?_
  cases key with
  | plan other => exact .inr hn
  | inspection other =>
    rcases map_update hn with ⟨rfl, hnew⟩ | hold
    · exact .inl ⟨rfl, (Option.some.inj hnew).symm⟩
    · exact .inr hold

theorem shrinks_remove_plan (id : String) (tables : Tables) :
    Tables.Shrinks { tables with plans := Function.update tables.plans id none } tables := by
  refine ⟨rfl, fun key n h => ?_⟩
  cases key with
  | plan other =>
    rcases map_update h with ⟨-, hnew⟩ | hold
    · cases hnew
    · exact hold
  | inspection other => exact h

theorem shrinks_remove_inspection (id : String) (tables : Tables) :
    Tables.Shrinks { tables with inspections := Function.update tables.inspections id none }
      tables := by
  refine ⟨rfl, fun key n h => ?_⟩
  cases key with
  | plan other => exact h
  | inspection other =>
    rcases map_update h with ⟨-, hnew⟩ | hold
    · cases hnew
    · exact hold

theorem storeSources_shrinks (caller : String) (expiresAt : Int) (ids : Generator) :
    ∀ (cands : List SourceCandidate) (allocated : List String) (made : Nat) (tables : Tables),
      (storeSources caller expiresAt ids cands allocated made tables).2.Shrinks tables
  | [], _, _, tables => shrinks_refl tables
  | candidate :: rest, allocated, made, tables => by
    rw [storeSources]
    split
    · exact shrinks_refl tables
    · -- the tables of plans and inspections are not touched
      next id made' _ =>
      exact (storeSources_shrinks caller expiresAt ids rest (id :: allocated) made' _).trans
        ⟨rfl, fun key n h => by cases key <;> exact h⟩

end tables

/-! ### Sections -/

/-- A section keeps the numbers apart. -/
def Section.Keeps {α : Type} (call : Nat) (body : Tables → Section α) : Prop :=
  ∀ tables taken, Numbered tables taken →
    Numbered (body tables).tables ((body tables).taken.map (call, ·) ++ taken)

section sections

variable {cfg : Settings} {call : Nat} {caller planId gen : String} {now : Int}
  {ans : ServiceAnswer} {tables : Tables}

theorem inspectTopologySection_keeps {scanned} :
    Section.Keeps call (inspectTopologySection cfg caller scanned now ans) := by
  intro tables taken h
  have hforget := h.shrink
    ((shrinks_forget caller _).trans (shrinks_expireCandidates now tables))
  unfold inspectTopologySection
  dsimp only
  split
  · exact hforget
  · exact hforget.shrink ⟨rfl, fun key n hn => by cases key <;> exact hn⟩

theorem storeInspectionSection_keeps {deviceId partitionId : String} {summary} :
    Section.Keeps call (storeInspectionSection cfg caller gen deviceId partitionId summary now ans)
    := by
  intro tables taken h
  have hexpired := h.shrink (shrinks_expireCandidates now tables)
  unfold storeInspectionSection
  dsimp only
  split
  · exact hexpired
  split
  · exact hexpired
  split
  · exact hexpired
  · exact numbered_putInspection hexpired _ _ _

variable {iid : String}

theorem buildPlanSection_keeps {selectedId : String} {mode cur} :
    Section.Keeps call (buildPlanSection cfg caller gen selectedId mode iid cur now ans) := by
  intro tables taken h
  have hexpired := h.shrink (shrinks_expireCandidates now tables)
  unfold buildPlanSection
  dsimp only
  split
  · exact hexpired
  · exact numbered_putPlan hexpired _ _ _ _ _

theorem listSourcesSection_keeps {cands} :
    Section.Keeps call (listSourcesSection cfg caller cands now ans) := by
  intro tables taken h
  refine h.shrink ((storeSources_shrinks _ _ _ _ _ _ _).trans ?_)
  exact ⟨rfl, fun key n hn =>
    (shrinks_expireCandidates now tables).2 key n (by cases key <;> exact hn)⟩

/-- What an entry is that was found for a caller. -/
theorem ownEntry_eq_ok {α : Type} {callerOf : α → String} {missing : String} {entry : Option α}
    {a : α} (h : ownEntry callerOf caller missing entry = .ok a) :
    entry = some a ∧ callerOf a = caller := by
  cases entry with
  | none => cases h
  | some b =>
    rw [ownEntry] at h
    split at h
    · cases h
    · next hcaller =>
      cases h
      exact ⟨rfl, not_not.mp hcaller⟩

theorem takePlanSection_keeps : Section.Keeps call (takePlanSection caller planId now) := by
  intro tables taken h
  unfold takePlanSection
  dsimp only
  split
  · exact h.shrink (shrinks_expireCandidates now tables)
  · next kept hget =>
    have hentry := (ownEntry_eq_ok hget).1
    refine (h.shrink (shrinks_expireCandidates now tables)).take call (.plan planId)
      (map_eq_some_iff.mpr ⟨kept, hentry, rfl⟩)
      (shrinks_remove_plan planId _) ?_
    exact map_eq_none_iff.mpr (Function.update_self _ _ _)

theorem consumeInspectionSection_keeps :
    Section.Keeps call (consumeInspectionSection caller iid now) := by
  intro tables taken h
  unfold consumeInspectionSection
  dsimp only
  split
  · exact h.shrink (shrinks_expireCandidates now tables)
  · next kept hget =>
    have hentry := (ownEntry_eq_ok hget).1
    refine (h.shrink (shrinks_expireCandidates now tables)).take call
      (.inspection iid) (map_eq_some_iff.mpr ⟨kept, hentry, rfl⟩)
      (shrinks_remove_inspection iid _) ?_
    exact map_eq_none_iff.mpr (Function.update_self _ _ _)

/-- The plan that `take_plan` returns was stored for the caller, has not expired, and is
recorded as taken. -/
theorem takePlanSection_ok {kept}
    (h : (takePlanSection caller planId now tables).result = .ok kept) : kept.caller = caller ∧
    now < kept.expiresAt ∧ (takePlanSection caller planId now tables).taken = [kept.number] := by
  unfold takePlanSection at h ⊢
  dsimp only at h ⊢
  split at h
  · cases h
  · next found hfound =>
    cases h
    obtain ⟨hentry, hcaller⟩ := ownEntry_eq_ok hfound
    exact ⟨hcaller, of_decide_eq_true (keep_eq_some.mp hentry).2, rfl⟩

theorem consumeInspectionSection_ok {kept}
    (h : (consumeInspectionSection caller iid now tables).result = .ok kept) :
    kept.caller = caller ∧
      (consumeInspectionSection caller iid now tables).taken = [kept.number] := by
  unfold consumeInspectionSection at h ⊢
  dsimp only at h ⊢
  split at h
  · cases h
  · next found hfound =>
    cases h
    exact ⟨(ownEntry_eq_ok hfound).2, rfl⟩

end sections

/-! ### Starts -/

/-- What a start was made with: an own plan that had not expired, an own inspection, a scan
of its own call, and a target and a check of the plan that was found. -/
structure Start.Recorded (state : ServiceState) (start : Start) : Prop where
  taken : (start.call, start.taken.number) ∈ state.taken
  consumed : ∀ inspection ∈ start.consumed, (start.call, inspection.number) ∈ state.taken
  scanned : (start.call, start.current) ∈ state.scans
  planCaller : start.taken.caller = start.owner.busName
  inspectionCaller : ∀ inspection ∈ start.consumed, inspection.caller = start.owner.busName
  unexpired : start.takenAt < start.taken.expiresAt
  planned : (plannedTarget start.expected start.found.plan.plan).map
    (targetWith start.inspection) = .ok start.target
  safe : inspect start.expected start.current start.found.plan.plan = []

/-- What holds between the steps of the calls. -/
structure Sound (state : ServiceState) : Prop where
  numbered : Numbered state.tables state.taken
  calls : (state.starts.map Start.call).Nodup
  recorded : ∀ start ∈ state.starts, start.Recorded state

/-- What the others may do while a call is going on. -/
structure Rely (call : Nat) (before after : ServiceState) : Prop where
  sound : Sound before → Sound after
  scans : before.scans ⊆ after.scans
  taken : before.taken ⊆ after.taken
  starts : ∀ start ∈ after.starts, start.call = call → start ∈ before.starts

/-- What a call does. -/
structure Guarantee (call : Nat) (before after : ServiceState) : Prop where
  sound : Sound before → Sound after
  scans : before.scans ⊆ after.scans
  taken : before.taken ⊆ after.taken
  starts : ∀ start ∈ after.starts, start.call ≠ call → start ∈ before.starts

instance isRely (call : Nat) : IsRely (Rely call) where
  refl _ := ⟨id, List.Subset.refl _, List.Subset.refl _, fun _ h _ => h⟩
  trans h h' := ⟨h'.sound ∘ h.sound, List.Subset.trans h.scans h'.scans,
    List.Subset.trans h.taken h'.taken,
    fun start hstart hcall => h.starts start (h'.starts start hstart hcall) hcall⟩

theorem compatible : Pool.Compatible Rely Guarantee where
  rely := isRely
  guarantee_refl _ _ := ⟨id, List.Subset.refl _, List.Subset.refl _, fun _ h _ => h⟩
  relied _ _ hne _ _ h := ⟨h.sound, h.scans, h.taken,
    fun start hstart hcall => h.starts start hstart (hcall ▸ hne)⟩

/-- A call that has not started anything; it has made the scans and taken the numbers. -/
structure At (call : Nat) (scans : List StorageTopology) (numbers : List Nat)
    (state : ServiceState) : Prop where
  sound : Sound state
  scans : ∀ topology ∈ scans, (call, topology) ∈ state.scans
  taken : ∀ number ∈ numbers, (call, number) ∈ state.taken
  idle : ∀ start ∈ state.starts, start.call ≠ call

section programs

variable {cfg : Settings} {call : Nat} {scans : List StorageTopology} {nums : List Nat}

theorem stable_at (call : Nat) (scans : List StorageTopology) (nums : List Nat) :
    Stable (Rely call) (At call scans nums) := by
  intro s t hR h
  exact ⟨hR.sound h.sound, fun topology htopology => hR.scans (h.scans topology htopology),
    fun num hnum => hR.taken (h.taken num hnum),
    fun start hstart hcall => h.idle start (hR.starts start hstart hcall) hcall⟩

/-- Any answer of the outside. -/
abbrev Anything : ServiceCall → ServiceAnswer → ServiceState → Prop := fun _ _ _ => True

/-- A call goes through a program without starting anything. -/
abbrev Passes (call : Nat) (scans : List StorageTopology) (numbers : List Nat)
    (program : ServiceProg α) : Prop :=
  Within Anything (Rely call) (Guarantee call) (At call scans numbers) program

theorem passes_ret {a : α} : Passes call scans nums (.ret a) :=
  within_ret (stable_at call scans nums)

theorem passes_fail {e} : Passes call scans nums (.fail e : ServiceProg α) :=
  within_fail (stable_at call scans nums)

theorem passes_ask (c : ServiceCall) (value : ServiceAnswer → α) :
    Passes call scans nums (ask c value) := by
  refine within_effect (stable_at _ _ _)
    (fun _ _ h _ => ⟨compatible.guarantee_refl _ _, h⟩) fun ans _ _ _ => ?_
  cases ans.error with
  | none => exact passes_ret
  | some e => exact passes_fail

theorem passes_clock : Passes call scans nums clock :=
  within_effect (stable_at _ _ _) (fun _ _ h _ => ⟨compatible.guarantee_refl _ _, h⟩)
    fun _ _ _ _ => passes_ret

theorem passes_ensure (cond : Bool) (e : ManagerFailure) : Passes call scans nums (ensure cond e) :=
  within_ite passes_ret passes_fail

theorem passes_lift (value : Except ManagerFailure α) : Passes call scans nums (lift value) := by
  cases value with
  | ok a => exact passes_ret
  | error e => exact passes_fail

/-- More was recorded, and nothing was started. -/
theorem Sound.extend {pre after} (h : Sound pre)
    (hnumbered : Numbered after.tables after.taken) (hscans : pre.scans ⊆ after.scans)
    (htaken : pre.taken ⊆ after.taken) (hstarts : after.starts = pre.starts) :
    Sound after where
  numbered := hnumbered
  calls := hstarts ▸ h.calls
  recorded start hstart :=
    have hrec := h.recorded start (hstarts ▸ hstart)
    { hrec with
      taken := htaken hrec.taken
      consumed := fun inspection hinspection => htaken (hrec.consumed inspection hinspection)
      scanned := hscans hrec.scanned }

variable {state : ServiceState} {body : ServiceAnswer → Tables → Section α} {caller : String}
  {req : DevicePreparationRequest} {fd : Int}

/-- A scan is recorded. -/
theorem guarded_scan (h : At call scans nums state) : Guarded Anything (Rely call)
    (Guarantee call) (scan call) (fun topology => At call (topology :: scans) nums)
    (fun _ => At call scans nums) state := by
  refine guarded_effect (stable_at call scans nums) h fun ans t ht _ => ?_
  cases ans.error with
  | some e =>
    exact ⟨compatible.guarantee_refl _ _,
      guarded_fail (stable_at call scans nums) ht fun _ hu => hu⟩
  | none =>
    have hsound : Sound t → Sound { t with scans := (call, ans.topology) :: t.scans } :=
      fun hs => hs.extend hs.numbered (subset_cons_self _ _) (List.Subset.refl _) rfl
    refine ⟨⟨hsound, subset_cons_self _ _, List.Subset.refl _, fun _ hstart _ => hstart⟩, ?_⟩
    refine guarded_ret (stable_at call (ans.topology :: scans) nums) ?_ fun _ hu => hu
    refine ⟨hsound ht.sound, forall_mem_cons.mpr ⟨mem_cons_self, fun topology htopology =>
      mem_cons_of_mem _ (ht.scans topology htopology)⟩, ht.taken, ht.idle⟩

/-- A section is run: what it takes is recorded. -/
theorem guarded_locked
    (h : At call scans nums state) (hbody : ∀ ans, Section.Keeps call (body ans)) :
    Guarded Anything (Rely call) (Guarantee call) (locked call body)
      (fun a t => ∃ ans tables, (body ans tables).result = .ok a ∧
        At call scans ((body ans tables).taken ++ nums) t)
      (fun _ => At call scans nums) state := by
  refine guarded_effect (stable_at call scans nums) h fun ans t ht _ => ?_
  have hsub : t.taken ⊆ (body ans t.tables).taken.map (call, ·) ++ t.taken :=
    subset_append_right _ _
  have hsound : Sound t → Sound { t with
      tables := (body ans t.tables).tables
      taken := (body ans t.tables).taken.map (call, ·) ++ t.taken } :=
    fun hs => hs.extend (hbody ans _ _ hs.numbered) (List.Subset.refl _) hsub rfl
  refine ⟨⟨hsound, List.Subset.refl _, hsub, fun _ hstart _ => hstart⟩, ?_⟩
  have hafter : At call scans ((body ans t.tables).taken ++ nums) { t with
      tables := (body ans t.tables).tables
      taken := (body ans t.tables).taken.map (call, ·) ++ t.taken } := by
    refine ⟨hsound ht.sound, ht.scans, fun num hnum => ?_, ht.idle⟩
    rcases mem_append.mp hnum with hnum | hnum
    · exact mem_append_left _ (mem_map_of_mem hnum)
    · exact hsub (ht.taken num hnum)
  cases hres : (body ans t.tables).result with
  | ok a =>
    exact guarded_ret (stable_at _ _ _) hafter fun u hu => ⟨ans, t.tables, hres, hu⟩
  | error e =>
    refine guarded_fail (stable_at call scans nums) ⟨hafter.sound, hafter.scans,
      fun num hnum => hafter.taken num (mem_append_right _ hnum), hafter.idle⟩
      fun u hu => hu

theorem passes_locked
    (hbody : ∀ ans, Section.Keeps call (body ans)) :
    Passes call scans nums (locked call body) := fun _ hs =>
  (guarded_locked hs hbody).mono_result fun _ _ ⟨_, _, _, ht⟩ => ⟨ht.sound, ht.scans,
      fun num hnum => ht.taken num (mem_append_right _ hnum), ht.idle⟩

theorem passes_scan : Passes call scans nums (scan call) := fun _ hs =>
  (guarded_scan hs).mono_result
    fun _ _ ht => { ht with scans := (forall_mem_cons.mp ht.scans).2 }

/-! ### The operations -/

theorem passes_readTables (read : Tables → Except ManagerFailure α) :
    Passes call scans nums (readTables call read) :=
  passes_clock.bind fun now => passes_locked fun _ tables _ h =>
    h.shrink (shrinks_expireCandidates now tables)

theorem passes_requireActiveCaller (caller : String) :
    Passes call scans nums (requireActiveCaller caller) :=
  (passes_ensure _ _).bind fun _ => (passes_ask _ _).bind fun _ => passes_ensure _ _

theorem passes_authorize (caller : String) : Passes call scans nums (authorize caller) :=
  (passes_ensure _ _).bind fun _ => (passes_ask _ _).bind fun _ =>
    (passes_ensure _ _).bind fun _ => (passes_ask _ _).bind fun _ => passes_ensure _ _

theorem passes_inspectStorageTopology (caller : String) :
    Passes call scans nums (inspectStorageTopology cfg call caller) :=
  (passes_requireActiveCaller caller).bind fun _ =>
    (passes_ensure _ _).bind fun _ => passes_scan.bind fun _ =>
    passes_clock.bind fun _ => passes_locked fun _ => inspectTopologySection_keeps

theorem passes_ensureSafe (exp cur : StorageTopology) (plan : DevicePreparationPlan)
    (what : String) : Passes call scans nums (ensureSafe exp cur plan what) := by
  unfold ensureSafe
  split
  · exact passes_ret
  · exact passes_fail

theorem passes_inspectExistingTarget (caller gen partitionId : String) (fd : Int) :
    Passes call scans nums (inspectExistingTarget cfg call caller gen partitionId fd) := by
  refine (passes_ensure _ _).bind fun _ => (passes_requireActiveCaller caller).bind fun _ =>
    (passes_ensure _ _).bind fun _ => (passes_readTables _).bind fun exp =>
    (passes_lift _).bind fun device => (passes_lift _).bind fun scope =>
    (passes_lift _).bind fun target => (passes_ensure _ _).bind fun _ =>
    passes_scan.bind fun cur => (passes_ensureSafe _ _ _ _).bind fun _ =>
    (passes_ask _ _).bind fun summary => (passes_ensure _ _).bind fun _ =>
    passes_scan.bind fun later => (passes_ensureSafe _ _ _ _).bind fun _ =>
    passes_clock.bind fun now => ?_
  exact passes_locked fun _ => storeInspectionSection_keeps

theorem passes_buildDevicePreparationPlan (caller gen selectedId iid : String)
    (mode : ProvisioningMode) : Passes call scans nums
      (buildDevicePreparationPlan cfg call caller gen selectedId mode iid) :=
  (passes_requireActiveCaller caller).bind fun _ =>
    (passes_ensure _ _).bind fun _ => passes_scan.bind fun _ =>
    passes_clock.bind fun _ => passes_locked fun _ => buildPlanSection_keeps

theorem passes_listSourceCandidates (caller : String) :
    Passes call scans nums (listSourceCandidates cfg call caller) :=
  (passes_requireActiveCaller caller).bind fun _ =>
    (passes_ask _ _).bind fun _ => passes_clock.bind fun _ =>
    passes_locked fun _ => listSourcesSection_keeps

theorem passes_resolveSources (caller pid : String) (selected : List String)
    (srcs : List DevicePreparationSource) :
    Passes call scans nums (resolveSources call caller pid selected srcs) := by
  induction srcs generalizing selected with
  | nil => exact passes_ret
  | cons source rest ih =>
    refine (passes_ensure _ _).bind fun _ => Within.bind ?_ fun _ => (ih _).bind fun _ => passes_ret
    exact (passes_readTables _).bind fun _ => passes_ret

theorem passes_inspectionFor (caller : String) (plan : DevicePreparationPlan) :
    Passes call scans nums (inspectionFor call caller plan) := by
  unfold inspectionFor
  split
  · exact passes_ret
  split
  · exact passes_fail
  · exact (passes_readTables _).bind fun _ => (passes_ensure _ _).bind fun _ => passes_ret

/-! ### Starting -/

theorem guarded_takePlan {planId : String} (h : At call scans nums state) :
    Guarded Anything (Rely call) (Guarantee call) (takePlan call caller planId)
      (fun result t => At call scans (result.1.number :: nums) t ∧
        result.1.caller = caller ∧ result.2 < result.1.expiresAt)
      (fun _ => At call scans nums) state := by
  refine guarded_do (passes_clock state h) fun now t ht => ?_
  refine guarded_do (guarded_locked ht fun _ => takePlanSection_keeps) fun kept u hu => ?_
  obtain ⟨ans, tables, hres, hu⟩ := hu
  obtain ⟨hcaller, hexpiry, htaken⟩ := takePlanSection_ok hres
  rw [htaken] at hu
  exact guarded_ret (stable_at _ _ _) hu fun v hv => ⟨hv, hcaller, hexpiry⟩

theorem guarded_consumeInspection {iid} (h : At call scans nums state) :
    Guarded Anything (Rely call) (Guarantee call) (consumeInspection call caller iid)
      (fun consumed t => At call scans (consumed.toList.map StoredInspection.number ++ nums) t ∧
        ∀ inspection ∈ consumed, inspection.caller = caller)
      (fun _ => At call scans nums) state := by
  cases iid with
  | none => exact guarded_ret (stable_at _ _ _) h fun t ht => ⟨ht, nofun⟩
  | some iid =>
    refine guarded_do (passes_clock state h) fun now t ht => ?_
    refine guarded_do (guarded_locked ht fun _ => consumeInspectionSection_keeps)
      fun kept u hu => ?_
    obtain ⟨ans, tables, hres, hu⟩ := hu
    obtain ⟨hcaller, htaken⟩ := consumeInspectionSection_ok hres
    rw [htaken] at hu
    refine guarded_ret (stable_at _ _ _) hu fun v hv => ⟨hv, ?_⟩
    rintro inspection ⟨⟩
    exact hcaller

/-- A call does what the others rely on, however it ends. -/
abbrev Behaves (call : Nat) (program : ServiceProg α) (state : ServiceState) : Prop :=
  Guarded Anything (Rely call) (Guarantee call) program (fun _ _ => True) (fun _ _ => True) state

/-- An error ends the call, wherever it comes from. -/
theorem behaves_seq {p} {k : α → ServiceProg β} {M E}
    (h : Guarded Anything (Rely call) (Guarantee call) p M E state)
    (hk : ∀ a t, M a t → Behaves call (k a) t) : Behaves call (p.bind k) state :=
  guarded_seq (h.mono_error fun _ _ _ => trivial) hk

/-- The start itself. -/
theorem behaves_startBackend {ev : Start}
    (h : At ev.call scans nums state) (hrec : ∀ t, At ev.call scans nums t → ev.Recorded t) :
    Behaves ev.call (startBackend req fd ev) state := by
  refine guarded_effect (stable_at ev.call scans nums) h fun ans t ht _ => ⟨?_, ?_⟩
  · refine ⟨fun hs => ⟨hs.numbered, ?_, forall_mem_cons.mpr ⟨?_, fun start hstart => ?_⟩⟩,
      List.Subset.refl _, List.Subset.refl _, fun start hstart hne => ?_⟩
    · rw [map_cons, nodup_cons]
      refine ⟨fun hmem => ?_, hs.calls⟩
      obtain ⟨start, hstart, hcall⟩ := mem_map.mp hmem
      exact ht.idle start hstart hcall
    · exact { hrec t ht with }
    · exact { hs.recorded start hstart with }
    · rcases mem_cons.mp hstart with rfl | hstart
      · exact absurd rfl hne
      · exact hstart
  · cases ans.error with
    | none => exact fun _ _ => trivial
    | some e => exact fun _ _ => trivial

/-- A check that is passed. -/
theorem guarded_ensureSafe {exp cur plan}
    {what : String} (h : At call scans nums state) : Guarded Anything (Rely call) (Guarantee call)
    (ensureSafe exp cur plan what) (fun _ t => At call scans nums t ∧ inspect exp cur plan = [])
    (fun _ => At call scans nums) state := by
  unfold ensureSafe
  split
  · next hsafe => exact guarded_ret (stable_at _ _ _) h fun t ht => ⟨ht, hsafe⟩
  · exact guarded_fail (stable_at _ _ _) h fun t ht => ht

theorem guarded_lift {value : Except ManagerFailure α} (h : At call scans nums state) :
    Guarded Anything (Rely call) (Guarantee call) (lift value)
      (fun a t => At call scans nums t ∧ value = .ok a) (fun _ => At call scans nums) state := by
  cases value with
  | ok a => exact guarded_ret (stable_at _ _ _) h fun t ht => ⟨ht, rfl⟩
  | error e => exact guarded_fail (stable_at _ _ _) h fun t ht => ht

theorem behaves_start {uid : Nat}
    (h : At call [] [] state) : Behaves call (start cfg call caller uid req fd) state := by
  refine behaves_seq (passes_lift _ state h) fun _ t ht => ?_
  refine behaves_seq (passes_resolveSources _ _ _ _ t ht) fun srcs t ht => ?_
  refine behaves_seq (passes_readTables _ t ht) fun found t ht => ?_
  refine behaves_seq (passes_readTables _ t ht) fun exp t ht => ?_
  refine behaves_seq (guarded_lift ht) fun planned t ht => ?_
  obtain ⟨ht, hplanned⟩ := ht
  refine behaves_seq (passes_inspectionFor _ _ t ht) fun inspection t ht => ?_
  refine behaves_seq (guarded_scan ht) fun cur t ht => ?_
  refine behaves_seq (guarded_ensureSafe ht) fun _ t ht => ?_
  obtain ⟨ht, hsafe⟩ := ht
  refine behaves_seq (passes_ask _ _ t ht) fun reasons t ht => ?_
  refine behaves_seq (passes_ensure _ _ t ht) fun _ t ht => ?_
  refine behaves_seq (passes_authorize _ t ht) fun _ t ht => ?_
  refine behaves_seq (guarded_takePlan ht) fun result t ht => ?_
  obtain ⟨taken, now⟩ := result
  obtain ⟨ht, hcaller, hexpiry⟩ := ht
  refine behaves_seq (passes_ensure _ _ t ht) fun _ t ht => ?_
  refine behaves_seq (guarded_consumeInspection ht) fun consumed t ht => ?_
  obtain ⟨ht, hconsumed⟩ := ht
  let ev : Start := ⟨call, ⟨caller, uid⟩, found, exp, cur, inspection,
    targetWith inspection planned, now, taken, consumed⟩
  have hevent : At ev.call [cur]
      (consumed.toList.map StoredInspection.number ++ [taken.number]) t := ht
  refine behaves_startBackend hevent fun u hu => ?_
  have hnumbers := forall_mem_append.mp hu.taken
  exact
    { taken := hnumbers.2 taken.number mem_cons_self
      consumed := fun kept hget => hnumbers.1 kept.number
        (mem_map_of_mem (mem_toList.mpr hget))
      scanned := hu.scans cur mem_cons_self
      planCaller := hcaller
      inspectionCaller := hconsumed
      unexpired := hexpiry
      planned := congrArg (Except.map (targetWith inspection)) hplanned
      safe := hsafe }

theorem behaves_ignore {program : ServiceProg α} (h : Behaves call program state) :
    Behaves call (ignore program) state :=
  guarded_do (M := fun _ _ => True) ((guarded_attempt program).mpr h) fun _ _ _ _ _ => trivial

theorem behaves_serve (req : Request) (h : At call [] [] state) :
    Behaves call (serve cfg call req) state := by
  have hpass : ∀ {β : Type} {program : ServiceProg β}, Passes call [] [] program →
      Behaves call (ignore program) state := fun hp =>
    behaves_ignore ((hp state h).mono (fun _ _ hG => hG) (fun _ _ _ => trivial)
      fun _ _ _ => trivial)
  cases req with
  | inspectStorageTopology caller => exact hpass (passes_inspectStorageTopology caller)
  | inspectExistingTarget caller gen partitionId fd =>
    exact hpass (passes_inspectExistingTarget caller gen partitionId fd)
  | buildDevicePreparationPlan caller gen selectedId mode iid =>
    exact hpass (passes_buildDevicePreparationPlan caller gen selectedId iid mode)
  | listSourceCandidates caller => exact hpass (passes_listSourceCandidates caller)
  | start caller uid req fd => exact behaves_ignore (behaves_start h)

end programs

theorem num?_empty (key : Key) (n : Nat) : Tables.empty.number? key ≠ some n := by
  intro h
  cases key with
  | plan id => cases h
  | inspection id => cases h

theorem sound_initial : Sound .initial where
  numbered :=
    { below := fun key n h => absurd h (num?_empty key n)
      takenBelow := forall_mem_nil _
      unique := fun key _ n h => absurd h (num?_empty key n)
      untaken := fun key n h => absurd h (num?_empty key n)
      distinct := nodup_nil }
  calls := nodup_nil
  recorded _ h := absurd h not_mem_nil

theorem at_initial (call : Nat) : At call [] [] .initial where
  sound := sound_initial
  scans _ h := absurd h not_mem_nil
  taken _ h := absurd h not_mem_nil
  idle _ h := absurd h not_mem_nil

theorem sound_run (cfg : Settings) (reqs : Nat → Request) (schedule : List (Nat × ServiceAnswer)) :
    Sound ((provisioningPool cfg reqs).run schedule).state := by
  have hguarded : Pool.AllGuarded Anything Rely Guarantee (fun _ _ _ => True) (fun _ _ _ => True)
      (provisioningPool cfg reqs) := fun call =>
    behaves_serve (reqs call) (at_initial call)
  exact Pool.invariant_run compatible (fun _ _ _ hG => hG.sound) hguarded
    (Pool.permitted_of_forall (fun _ _ _ => trivial) _ _) sound_initial

/-! ### Single use -/

theorem Numbered.call_eq {tables : Tables} {taken} (h : Numbered tables taken)
    {call other num : Nat} (hcall : (call, num) ∈ taken) (hother : (other, num) ∈ taken) :
    call = other :=
  congrArg Prod.fst (inj_on_of_nodup_map h.distinct hcall hother rfl)

/-- No plan was used for two starts. -/
theorem Sound.plans_nodup {state} (h : Sound state) :
    (state.starts.map fun start => start.taken.number).Nodup := by
  refine List.Nodup.map_on (fun start hstart other hother heq => ?_) (h.calls.of_map _)
  refine inj_on_of_nodup_map h.calls hstart hother ?_
  exact h.numbered.call_eq (h.recorded start hstart).taken (heq ▸ (h.recorded other hother).taken)

/-- No inspection was used for two starts. -/
theorem Sound.inspections_nodup {state} (h : Sound state) :
    (state.starts.filterMap fun start => start.consumed.map StoredInspection.number).Nodup := by
  have hnodup : state.starts.Nodup := h.calls.of_map _
  rw [List.Nodup, pairwise_filterMap]
  refine hnodup.imp_of_mem fun {start other} hstart hother hne num hnum number' hnumber' heq => ?_
  obtain ⟨kept, hget, rfl⟩ := map_eq_some_iff.mp hnum
  obtain ⟨stored', hstored', rfl⟩ := map_eq_some_iff.mp hnumber'
  refine hne (inj_on_of_nodup_map h.calls hstart hother ?_)
  exact h.numbered.call_eq ((h.recorded start hstart).consumed kept hget)
    (heq ▸ (h.recorded other hother).consumed stored' hstored')

/-- The target of the start is the target of the plan that was taken, in the topology that
plan was built for, with the inspection that was consumed; and the scan of the call has
shown that plan to be safe. -/
structure Start.Faithful (start : Start) : Prop where
  target : (plannedTarget start.taken.topology start.taken.plan.plan).map
    (targetWith start.consumed) = .ok start.target
  safe : inspect start.taken.topology start.current start.taken.plan.plan = []

/-- What was found is still there: the plan that is taken is the stored plan that was found,
the topology that was found is the one that plan was built for, and the inspection that is
consumed is the stored one that was found. -/
structure Start.Unreplaced (start : Start) : Prop where
  plan : start.taken = start.found
  topology : start.expected = start.found.topology
  inspection : start.consumed = start.inspection

theorem Start.Recorded.faithful {state} {start : Start} (h : start.Recorded state)
    (hsame : start.Unreplaced) : start.Faithful := by
  have hplanned := h.planned
  have hsafe := h.safe
  rw [hsame.topology, ← hsame.plan] at hplanned hsafe
  rw [← hsame.inspection] at hplanned
  exact ⟨hplanned, hsafe⟩

instance (start : Start) : Decidable start.Faithful :=
  decidable_of_iff (_ ∧ _) ⟨fun h => ⟨h.1, h.2⟩, fun h => ⟨h.target, h.safe⟩⟩

instance (start : Start) : Decidable start.Unreplaced :=
  decidable_of_iff (_ ∧ _ ∧ _)
    ⟨fun h => ⟨h.1, h.2.1, h.2.2⟩, fun h => ⟨h.plan, h.topology, h.inspection⟩⟩

namespace Sample

def settings : Settings := ⟨300 * 10 ^ 9, true, by decide⟩

def identity (path majorMinor : String) : StableBlockDeviceIdentity :=
  ⟨path, majorMinor, "", "", "", "", 2 ^ 30⟩

def partition (number : Nat) (path majorMinor : String) : StorageRegion :=
  .partition
    { candidateId := ""
      identity := identity path majorMinor
      partitionUuid := some path
      partitionLabel := none
      partitionNumber := number
      startSector := 2048 * number
      sectorCount := 2048
      filesystem := ⟨"ext4", "1.0", "", path⟩
      mountPoints := []
      holders := []
      activeSwap := false
      blockers := []
      configuredBackupTarget := false
      suitableForReformat := true
      suitableForAdoption := false }

/-- A disk with two partitions. -/
def disk : StorageDevice where
  candidateId := ""
  identity := identity "/dev/sdb" "8:16"
  displayName := "disk"
  transport := "usb"
  sizeBytes := 2 ^ 30
  logicalSectorSize := 512
  physicalSectorSize := 512
  removable := true
  readOnly := false
  hotplug := true
  systemDevice := false
  partitionTable := ⟨.gpt, "table"⟩
  filesystem := ⟨"", "", "", ""⟩
  regions := [partition 1 "/dev/sdb1" "8:17", partition 2 "/dev/sdb2" "8:18"]
  mountPoints := []
  holders := []
  activeSwap := false
  blockers := []

/-- An answer without an error, with these identifiers. -/
def fine (ids : List String) : ServiceAnswer where
  error := none
  allowed := true
  topology := ⟨"generation-1", [disk]⟩
  now := 0
  ids n := .ok (ids.getD n "")
  geometry := .error (conflict "")
  candidates := [⟨"", "/home", "fs-uuid", "/home", "/home/.snapshots"⟩]
  reasons := []
  summary := ⟨.compatibleRepository, "", "", "", "", "", 0, 0⟩
  status := ⟨"", "", "", "", "", "", "", "", false⟩

def request : DevicePreparationRequest where
  profileId := "laptop"
  profileName := "Laptop"
  planId := "plan-1"
  sourceCandidateId := "source-1"
  sources := []
  passphraseLabel := "passphrase"
  createAutomaticKey := false

/-- A caller looks at the disk, has a plan built for each partition and starts twice. -/
def requests : Nat → Request
  | 0 => .inspectStorageTopology ":1.7"
  | 1 => .listSourceCandidates ":1.7"
  | 2 => .buildDevicePreparationPlan ":1.7" "generation-1" "part-1" .reformatExistingPartition ""
  | 3 => .buildDevicePreparationPlan ":1.7" "generation-1" "part-2" .reformatExistingPartition ""
  | _ => .start ":1.7" 1000 request 5

/-- Steps of a call that are answered alike. -/
def steps (call : Nat) (count : Nat) (ids : List String) : List (Nat × ServiceAnswer) :=
  List.replicate count (call, fine ids)

/-- The plan of the first partition is started. -/
def undisturbed : List (Nat × ServiceAnswer) :=
  steps 0 4 ["disk-1", "part-1", "part-2"] ++ steps 1 4 ["source-1"] ++ steps 2 4 ["plan-1"] ++
    steps 4 13 []

/-- One start looks at the plan of the first partition; another one takes it; the plan of
the second partition gets the same identifier; the first start goes on. -/
def schedule : List (Nat × ServiceAnswer) :=
  steps 0 4 ["disk-1", "part-1", "part-2"] ++ steps 1 4 ["source-1"] ++ steps 2 4 ["plan-1"] ++
    steps 4 10 [] ++ steps 5 13 [] ++ steps 3 4 ["plan-1"] ++ steps 4 3 []

end Sample

end BtrfsBackup.Provisioning
