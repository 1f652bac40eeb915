/-
The manager's service for preparing devices (`daemon/control/DeviceProvisioningService`).

A caller looks at the storage, inspects a target that may be adopted, has a plan built,
and starts it.  What was shown to a caller is kept for a while in tables under identifiers,
which a generator makes; the tables are changed only under a lock.

* `Tables` — the tables; every plan and every inspection that is stored has a number of
  its own, which the service does not know;
* `inspectStorageTopology`, `inspectExistingTarget`, `buildDevicePreparationPlan`,
  `listSourceCandidates`, `start` — the operations; a section under the lock is one step;
* `Start` — a start of the backend, with what the call has found, taken and consumed;
* `provisioningPool` — any number of calls at the same time.
-/
import BtrfsBackup.Lib.Interleaving
import BtrfsBackup.StorageTopology

open Interaction Interaction.Prog

namespace BtrfsBackup.Provisioning

open Preparation (ProvisioningMode PlannedPartitionGeometry ExistingTargetInspectionSummary)

/-! ### Data -/

structure SourceCandidate where
  id : String
  path : String
  filesystemUuid : String
  mountRoot : String
  localSnapshotRoot : String
  deriving DecidableEq

structure DevicePreparationSource where
  candidateId : String
  name : String
  subvolume : String
  filesystemUuid : String
  mountRoot : String
  localSnapshotDir : String
  localRetention : Nat
  remoteRetention : Nat
  deriving DecidableEq

structure DevicePreparationRequest where
  profileId : String
  profileName : String
  planId : String
  sourceCandidateId : String
  sources : List DevicePreparationSource
  passphraseLabel : String
  createAutomaticKey : Bool
  deriving DecidableEq

structure DevicePreparationOwner where
  busName : String
  uid : Nat
  deriving DecidableEq

structure DevicePreparationStatus where
  operationId : String
  profileId : String
  state : String
  phase : String
  errorCode : String
  recoveryAction : String
  lastCompletedPhase : String
  cleanupResult : String
  canCancel : Bool
  deriving DecidableEq

structure ExistingTargetInspection where
  inspectionId : String
  topologyGeneration : String
  deviceId : String
  partitionId : String
  target : ExistingTargetInspectionSummary
  deriving DecidableEq

/-- `ExistingTargetInspectionSummary::adoptable`. -/
def adoptable (summary : ExistingTargetInspectionSummary) : Bool :=
  summary.classification = .compatibleRepository

structure TopologySnapshot where
  topology : StorageTopology
  caller : String
  expiresAt : Int

/-- `StoredPlan`, with its number and the topology it was built for. -/
structure StoredPlan where
  plan : ValidPlan
  caller : String
  expiresAt : Int
  number : Nat
  topology : StorageTopology
  deriving DecidableEq

/-- `StoredInspection`, with its number. -/
structure StoredInspection where
  inspection : ExistingTargetInspection
  caller : String
  expiresAt : Int
  number : Nat
  deriving DecidableEq

structure StoredSourceCandidate where
  candidate : SourceCandidate
  caller : String
  expiresAt : Int

/-! ### The tables -/

/-- What the service keeps, by identifier; snapshots by caller. -/
structure Tables where
  topologies : String → Option TopologySnapshot
  plans : String → Option StoredPlan
  inspections : String → Option StoredInspection
  sourceCandidates : String → Option StoredSourceCandidate
  /-- The next number of a plan or an inspection. -/
  next : Nat

/-- The entries of a table that satisfy a condition. -/
def keep (condition : α → Bool) (table : String → Option α) : String → Option α :=
  fun id => (table id).filter condition

namespace Tables

/-- The tables of a service that starts. -/
def empty : Tables := ⟨fun _ => none, fun _ => none, fun _ => none, fun _ => none, 0⟩

/-- `expire_candidates`. -/
def expireCandidates (now : Int) (tables : Tables) : Tables :=
  { tables with
    topologies := keep (now < ·.expiresAt) tables.topologies
    plans := keep (now < ·.expiresAt) tables.plans
    inspections := keep (now < ·.expiresAt) tables.inspections
    sourceCandidates := keep (now < ·.expiresAt) tables.sourceCandidates }

/-- What `inspect_storage_topology` removes: all that was made for a caller. -/
def forget (caller : String) (tables : Tables) : Tables :=
  { tables with
    topologies := keep (·.caller ≠ caller) tables.topologies
    plans := keep (·.caller ≠ caller) tables.plans
    inspections := keep (·.caller ≠ caller) tables.inspections }

/-- Store a snapshot. -/
def putTopology (caller : String) (snapshot : TopologySnapshot) (tables : Tables) : Tables :=
  { tables with topologies := Function.update tables.topologies caller (some snapshot) }

def putPlan (id : String) (plan : ValidPlan) (topology : StorageTopology) (caller : String)
    (expiresAt : Int) (tables : Tables) : Tables :=
  { tables with
    plans := Function.update tables.plans id
      (some ⟨plan, caller, expiresAt, tables.next, topology⟩)
    next := tables.next + 1 }

/-- Store an inspection. -/
def putInspection (inspection : ExistingTargetInspection) (caller : String) (expiresAt : Int)
    (tables : Tables) : Tables :=
  { tables with
    inspections := Function.update tables.inspections inspection.inspectionId
      (some ⟨inspection, caller, expiresAt, tables.next⟩)
    next := tables.next + 1 }

/-- Store a source candidate. -/
def putSource (candidate : SourceCandidate) (caller : String) (expiresAt : Int)
    (tables : Tables) : Tables :=
  { tables with
    sourceCandidates := Function.update tables.sourceCandidates candidate.id
      (some ⟨candidate, caller, expiresAt⟩) }

/-- Is an identifier used for a plan or an inspection? -/
def used (tables : Tables) (id : String) : Bool :=
  (tables.plans id).isSome || (tables.inspections id).isSome

end Tables

/-! ### Identifiers -/

/-- The identifiers that the generator makes, or what it throws. -/
abbrev Generator := Nat → Except Thrown String

/-- Try identifiers until one is accepted; the second part says how many were made. -/
def allocate (ids : Generator) (accepted : String → Bool) (failure : ManagerFailure) :
    Nat → Nat → Except ManagerFailure (String × Nat)
  | 0, _ => .error failure
  | attempts + 1, made =>
      match ids made with
      | .error e => .error (.exception e)
      | .ok id =>
          if id ≠ "" && accepted id then .ok (id, made + 1)
          else allocate ids accepted failure attempts (made + 1)

/-- The number of attempts. -/
def maximumAttempts : Nat := 16

/-- The identifiers given out, and how many were made. -/
structure Allocation where
  allocated : List String
  made : Nat

/-- `allocate_id` of `inspect_storage_topology`. -/
def allocateId (tables : Tables) (ids : Generator) (allocation : Allocation) :
    Except ManagerFailure (String × Allocation) := do
  let (id, made) ← allocate ids (fun id => !tables.used id && id ∉ allocation.allocated)
    (conflict "cannot allocate a storage candidate identifier") maximumAttempts allocation.made
  pure (id, ⟨id :: allocation.allocated, made⟩)

/-- Give identifiers to regions. -/
def nameRegions (tables : Tables) (ids : Generator) :
    List StorageRegion → Allocation → Except ManagerFailure (List StorageRegion × Allocation)
  | [], allocation => .ok ([], allocation)
  | region :: rest, allocation => do
      let (id, allocation) ← allocateId tables ids allocation
      let (rest, allocation) ← nameRegions tables ids rest allocation
      let named := match region with
        | .partition value => .partition { value with candidateId := id }
        | .free value => .free { value with id := id }
      pure (named :: rest, allocation)

/-- Give identifiers to devices and their regions. -/
def nameDevices (tables : Tables) (ids : Generator) :
    List StorageDevice → Allocation → Except ManagerFailure (List StorageDevice × Allocation)
  | [], allocation => .ok ([], allocation)
  | device :: rest, allocation => do
      let (id, allocation) ← allocateId tables ids allocation
      let (regions, allocation) ← nameRegions tables ids device.regions allocation
      let (rest, allocation) ← nameDevices tables ids rest allocation
      pure ({ device with candidateId := id, regions := regions } :: rest, allocation)

/-! ### Programs -/

/-- The calls to the outside, and the sections under the lock. -/
inductive ServiceCall where
  | callerIsActive (caller : String)
  | authorize (caller : String)
  | scan
  | clock
  | locked
  | listSourceCandidates
  | inspectSafety (target : DevicePreparationTarget)
  | inspectTarget (target : DevicePreparationTarget) (credentialFd : Int)
  | startBackend (request : DevicePreparationRequest) (target : DevicePreparationTarget)
      (owner : DevicePreparationOwner) (passphraseFd : Int)
  deriving DecidableEq

/-- What a call returns or throws. -/
structure ServiceAnswer where
  error : Option ManagerFailure
  allowed : Bool
  topology : StorageTopology
  now : Int
  ids : Generator
  /-- The answers of the backend to the questions for a partition's place. -/
  geometry : Except ManagerFailure PlannedPartitionGeometry
  candidates : List SourceCandidate
  reasons : List String
  summary : ExistingTargetInspectionSummary
  status : DevicePreparationStatus

/-- A start of the backend: the call, what it has found, and what it has taken. -/
structure Start where
  call : Nat
  owner : DevicePreparationOwner
  /-- The plan that `find_plan` has found. -/
  found : StoredPlan
  /-- The topology of the caller, and the scan of the call. -/
  expected : StorageTopology
  current : StorageTopology
  /-- The inspection that `find_inspection` has found. -/
  inspection : Option StoredInspection
  target : DevicePreparationTarget
  /-- The time read by `take_plan`, and the plan it has removed. -/
  takenAt : Int
  taken : StoredPlan
  /-- The inspection that `consume_inspection` has removed. -/
  consumed : Option StoredInspection

/-- The tables, and what the calls have done. -/
structure ServiceState where
  tables : Tables
  /-- The scans of each call. -/
  scans : List (Nat × StorageTopology)
  /-- The numbers of the plans and inspections that each call has taken. -/
  taken : List (Nat × Nat)
  starts : List Start

/-- The service before any call. -/
def ServiceState.initial : ServiceState := ⟨.empty, [], [], []⟩

abbrev ServiceProg (α : Type) := Prog ServiceCall ServiceAnswer ServiceState ManagerFailure α

/-- The settings of the service. -/
structure Settings where
  candidateLifetime : Int
  topologyReader : Bool
  positive : 0 < candidateLifetime

/-- A call that can throw and changes nothing here. -/
def ask (call : ServiceCall) (value : ServiceAnswer → α) : ServiceProg α :=
  .effect call (fun _ state => state) fun answer _ =>
    match answer.error with
    | some e => .fail e
    | none => .ret (value answer)

/-- `clock_()`. -/
def clock : ServiceProg Int := .effect .clock (fun _ state => state) fun answer _ => .ret answer.now

/-- `topology_reader_->scan()`, made by a call. -/
def scan (call : Nat) : ServiceProg StorageTopology :=
  .effect .scan
    (fun answer state =>
      match answer.error with
      | some _ => state
      | none => { state with scans := (call, answer.topology) :: state.scans })
    fun answer _ =>
      match answer.error with
      | some e => .fail e
      | none => .ret answer.topology

/-- `if (!condition) throw`. -/
def ensure (condition : Bool) (e : ManagerFailure) : ServiceProg Unit :=
  if condition then .ret () else .fail e

/-- A computation that can throw. -/
def lift : Except ManagerFailure α → ServiceProg α
  | .ok a => .ret a
  | .error e => .fail e

/-- A section under the lock: what it returns or throws, what becomes of the tables, and
what it takes out of them. -/
structure Section (α : Type) where
  result : Except ManagerFailure α
  tables : Tables
  taken : List Nat

/-- Run a section for a call. -/
def locked (call : Nat) (body : ServiceAnswer → Tables → Section α) : ServiceProg α :=
  .effect .locked
    (fun answer state =>
      { state with
        tables := (body answer state.tables).tables
        taken := ((body answer state.tables).taken.map (call, ·)) ++ state.taken })
    fun answer state => lift (body answer state.tables).result

/-- A section that only reads, after the expired entries are gone. -/
def readSection (now : Int) (read : Tables → Except ManagerFailure α) (tables : Tables) :
    Section α :=
  ⟨read (tables.expireCandidates now), tables.expireCandidates now, []⟩

/-- Read the clock, and then the tables. -/
def readTables (call : Nat) (read : Tables → Except ManagerFailure α) : ServiceProg α := do
  let now ← clock
  locked call fun _ => readSection now read

/-- An entry that was stored for a caller. -/
def ownEntry (callerOf : α → String) (caller : String) (missing : String) (entry : Option α) :
    Except ManagerFailure α :=
  match entry with
  | none => .error (.operation .notFound missing)
  | some a => if callerOf a ≠ caller then .error (.operation .notFound missing) else .ok a

/-! ### Operations -/

section service

variable (settings : Settings) (call : Nat) (caller generation selectedId : String)
  (mode : ProvisioningMode) (inspectionId planId : String) (now : Int) (tables : Tables)

/-- `require_active_caller`. -/
def requireActiveCaller : ServiceProg Unit := do
  ensure (caller ≠ "") (.operation .notAuthorized "operation is not authorized")
  let active ← ask (.callerIsActive caller) (·.allowed)
  ensure active (.operation .notAuthorized "operation is not authorized")

/-- `authorize`, for a method that has an action. -/
def authorize : ServiceProg Unit := do
  ensure (caller ≠ "") (.operation .notAuthorized "operation is not authorized")
  let authorized ← ask (.authorize caller) (·.allowed)
  ensure authorized (.operation .notAuthorized "operation is not authorized")
  let active ← ask (.callerIsActive caller) (·.allowed)
  ensure active (.operation .notAuthorized "operation is not authorized")

/-- The section of `inspect_storage_topology`. -/
def inspectTopologySection (scanned : StorageTopology) (now : Int) (answer : ServiceAnswer)
    (tables : Tables) : Section StorageTopology :=
  let tables := (tables.expireCandidates now).forget caller
  match nameDevices tables answer.ids scanned.devices ⟨[], 0⟩ with
  | .error e => ⟨.error e, tables, []⟩
  | .ok (devices, _) =>
      let topology := { scanned with devices := devices }
      ⟨.ok topology,
        tables.putTopology caller ⟨topology, caller, now + settings.candidateLifetime⟩, []⟩

/-- `inspect_storage_topology`. -/
def inspectStorageTopology : ServiceProg StorageTopology := do
  requireActiveCaller caller
  ensure settings.topologyReader (.operation .internalError "storage topology is unavailable")
  let scanned ← scan call
  let now ← clock
  locked call (inspectTopologySection settings caller scanned now)

/-- The snapshot of a caller, if it has the generation. -/
def snapshotOf : Except ManagerFailure StorageTopology :=
  match tables.topologies caller with
  | none => .error (.operation .notFound "storage topology is unavailable or expired")
  | some snapshot =>
      if snapshot.topology.generation ≠ generation then
        .error (.operation .notFound "storage topology is unavailable or expired")
      else .ok snapshot.topology

/-- `find_topology`. -/
def findTopology : ServiceProg StorageTopology :=
  readTables call (snapshotOf caller generation)

/-- The plan by which `inspect_existing_target` checks a partition. -/
def validationPlan (deviceId partitionId : String) (scope : DestructiveScope) :
    DevicePreparationPlan where
  id := "existing-target-inspection"
  topologyGeneration := generation
  mode := .adoptExistingTarget
  deviceId := deviceId
  partitionId := some partitionId
  freeRegionId := none
  inspectionId := some "pending-inspection"
  operations := []
  destructiveScope := scope

/-- A plan that has blockers. -/
def ensureSafe (expected current : StorageTopology) (plan : DevicePreparationPlan)
    (what : String) : ServiceProg Unit :=
  match inspect expected current plan with
  | [] => .ret ()
  | blocker :: _ => .fail (conflict (what ++ blocker.code))

/-- Does the summary of an inspection lack a part? -/
def incompleteFingerprint (summary : ExistingTargetInspectionSummary) : Bool :=
  summary.luksUuid = "" || summary.partitionUuid = "" ||
    (adoptable summary && (summary.btrfsUuid = "" || summary.repositoryId = ""))

/-- The section of `inspect_existing_target`. -/
def storeInspectionSection (deviceId partitionId : String)
    (summary : ExistingTargetInspectionSummary) (now : Int) (answer : ServiceAnswer)
    (tables : Tables) : Section ExistingTargetInspection :=
  let tables := tables.expireCandidates now
  let inspection (id : String) : ExistingTargetInspection :=
    ⟨id, generation, deviceId, partitionId, summary⟩
  match snapshotOf caller generation tables with
  | .error e => ⟨.error e, tables, []⟩
  | .ok _ =>
      if !adoptable summary then ⟨.ok (inspection ""), tables, []⟩
      else
        match allocate answer.ids (fun id => !tables.used id)
            (conflict "cannot allocate a target inspection identifier") maximumAttempts 0 with
        | .error e => ⟨.error e, tables, []⟩
        | .ok (id, _) =>
            ⟨.ok (inspection id),
              tables.putInspection (inspection id) caller (now + settings.candidateLifetime), []⟩

/-- `inspect_existing_target`. -/
def inspectExistingTarget (partitionId : String) (credentialFd : Int) :
    ServiceProg ExistingTargetInspection := do
  ensure (generation ≠ "" && partitionId ≠ "" && 0 ≤ credentialFd)
    (.exception (validationError "existing target inspection request is incomplete"))
  requireActiveCaller caller
  ensure settings.topologyReader (.operation .notFound "storage topology is unavailable")
  let expected ← findTopology call caller generation
  let device ← lift
    (match firstDevice (·.partition? partitionId) expected.devices with
    | none => .error (.operation .notFound "storage partition candidate is unavailable")
    | some (device, _) => .ok device)
  let scope ← lift ((DestructiveScope.adoption device.candidateId partitionId).mapError .exception)
  let plan := validationPlan generation device.candidateId partitionId scope
  let target ← lift (plannedTarget expected plan)
  ensure (target.partition.any (·.suitableForAdoption))
    (conflict "storage partition cannot be adopted")
  let current ← scan call
  ensureSafe expected current plan "existing target safety check failed: "
  let summary ← ask (.inspectTarget target credentialFd) (·.summary)
  ensure (!incompleteFingerprint summary)
    (.operation .internalError "existing target inspection returned an incomplete fingerprint")
  let current ← scan call
  ensureSafe expected current plan "existing target safety check failed: "
  let now ← clock
  locked call
    (storeInspectionSection settings caller generation device.candidateId partitionId summary now)

/-- The answer of the backend for the place of a partition; a `ValidationError` becomes a
conflict. -/
def plannedGeometry (what : String) (answer : ServiceAnswer) :
    Except ManagerFailure PlannedPartitionGeometry :=
  match answer.geometry with
  | .error (.exception e) =>
      if Preparation.Raised.isValidationError (.exception e) then .error (conflict (what ++ e.what))
      else .error (.exception e)
  | geometry => geometry

/-- What `build_device_preparation_plan` needs beside the topology: the inspection and the
geometry. -/
def planParts (topology : StorageTopology) (caller generation selectedId : String)
    (mode : ProvisioningMode) (inspectionId : String) (answer : ServiceAnswer) (tables : Tables) :
    Except ManagerFailure (Option String × Option PlannedPartitionGeometry) :=
  match mode with
  | .adoptExistingTarget =>
      match tables.inspections inspectionId with
      | none =>
          .error (.operation .notFound "existing target inspection is unavailable or expired")
      | some stored =>
          if stored.caller ≠ caller || stored.inspection.topologyGeneration ≠ generation ||
              stored.inspection.partitionId ≠ selectedId then
            .error (.operation .notFound "existing target inspection is unavailable or expired")
          else .ok (some inspectionId, none)
  | .createPartitionInUnallocatedSpace =>
      match firstDevice (·.freeRegion? selectedId) topology.devices with
      | none =>
          .error (.operation .notFound "unallocated storage region candidate is unavailable")
      | some _ => do
          let geometry ← plannedGeometry "cannot plan partition in selected free space: " answer
          pure (none, some geometry)
  | .eraseWholeDevice =>
      match topology.device? selectedId with
      | none => .error (.operation .notFound "storage device candidate is unavailable")
      | some _ => do
          let geometry ← plannedGeometry "cannot plan whole-device partition: " answer
          pure (none, some geometry)
  | .reformatExistingPartition => .ok (none, none)

/-- The plan of `build_device_preparation_plan`, its identifier, and the topology it is for. -/
def newPlan (current : StorageTopology) (answer : ServiceAnswer) (tables : Tables) :
    Except ManagerFailure (String × ValidPlan × StorageTopology) := do
  let topology ← snapshotOf caller generation tables
  if current.generation ≠ generation then .error (conflict "storage topology changed")
  else do
    let (inspection, geometry) ←
      planParts topology caller generation selectedId mode inspectionId answer tables
    let (planId, _) ← allocate answer.ids (fun id => !tables.used id)
      (conflict "cannot allocate a preparation plan identifier") maximumAttempts 0
    let plan ← (build topology generation selectedId mode planId inspection geometry).mapError
      .exception
    pure (planId, plan, topology)

/-- The section of `build_device_preparation_plan`. -/
def buildPlanSection (current : StorageTopology) (now : Int) (answer : ServiceAnswer)
    (tables : Tables) : Section DevicePreparationPlan :=
  let tables := tables.expireCandidates now
  match newPlan caller generation selectedId mode inspectionId current answer tables with
  | .error e => ⟨.error e, tables, []⟩
  | .ok (planId, plan, topology) =>
      ⟨.ok plan.plan,
        tables.putPlan planId plan topology caller (now + settings.candidateLifetime), []⟩

/-- `build_device_preparation_plan`. -/
def buildDevicePreparationPlan : ServiceProg DevicePreparationPlan := do
  requireActiveCaller caller
  ensure (settings.topologyReader && generation ≠ "" && selectedId ≠ "")
    (.operation .notFound "storage topology is unavailable or expired")
  let current ← scan call
  let now ← clock
  locked call (buildPlanSection settings caller generation selectedId mode inspectionId current now)

/-- The loop of `list_source_candidates`; the tables are returned also if it throws. -/
def storeSources (caller : String) (expiresAt : Int) (ids : Generator) :
    List SourceCandidate → List String → Nat → Tables →
      Except ManagerFailure (List SourceCandidate) × Tables
  | [], _, _, tables => (.ok [], tables)
  | candidate :: rest, allocated, made, tables =>
      match allocate ids
          (fun id => !tables.used id && (tables.sourceCandidates id).isNone && id ∉ allocated)
          (conflict "cannot allocate a source candidate identifier") maximumAttempts made with
      | .error e => (.error e, tables)
      | .ok (id, made) =>
          let named := { candidate with id := id }
          let (result, tables) := storeSources caller expiresAt ids rest (id :: allocated) made
            (tables.putSource named caller expiresAt)
          (result.map (named :: ·), tables)

/-- The section of `list_source_candidates`. -/
def listSourcesSection (candidates : List SourceCandidate) (now : Int) (answer : ServiceAnswer)
    (tables : Tables) : Section (List SourceCandidate) :=
  let tables := tables.expireCandidates now
  let cleared := { tables with
    sourceCandidates := keep (·.caller ≠ caller) tables.sourceCandidates }
  let (result, tables) := storeSources caller (now + settings.candidateLifetime) answer.ids
    candidates [] 0 cleared
  ⟨result, tables, []⟩

/-- `list_source_candidates`. -/
def listSourceCandidates : ServiceProg (List SourceCandidate) := do
  requireActiveCaller caller
  let candidates ← ask .listSourceCandidates (·.candidates)
  let now ← clock
  locked call (listSourcesSection settings caller candidates now)

/-! ### Starting -/

/-- `find_source_candidate`. -/
def findSourceCandidate (candidateId : String) : ServiceProg SourceCandidate := do
  let stored ← readTables call fun tables =>
    ownEntry StoredSourceCandidate.caller caller "source candidate is unavailable or expired"
      (tables.sourceCandidates candidateId)
  pure stored.candidate

/-- `find_plan`. -/
def findPlan : ServiceProg StoredPlan :=
  readTables call fun tables =>
    ownEntry StoredPlan.caller caller "device preparation plan is unavailable or expired"
      (tables.plans planId)

/-- `find_inspection`. -/
def findInspection : ServiceProg StoredInspection :=
  readTables call fun tables =>
    ownEntry StoredInspection.caller caller "existing target inspection is unavailable or expired"
      (tables.inspections inspectionId)

/-- The section of `take_plan`. -/
def takePlanSection : Section StoredPlan :=
  let tables := tables.expireCandidates now
  match ownEntry StoredPlan.caller caller "device preparation plan is unavailable or expired"
      (tables.plans planId) with
  | .error e => ⟨.error e, tables, []⟩
  | .ok stored =>
      ⟨.ok stored, { tables with plans := Function.update tables.plans planId none },
        [stored.number]⟩

/-- `take_plan`; the time is returned too. -/
def takePlan : ServiceProg (StoredPlan × Int) := do
  let now ← clock
  let stored ← locked call fun _ => takePlanSection caller planId now
  pure (stored, now)

/-- The section of `consume_inspection`. -/
def consumeInspectionSection : Section StoredInspection :=
  let tables := tables.expireCandidates now
  match ownEntry StoredInspection.caller caller
      "existing target inspection is unavailable or expired" (tables.inspections inspectionId) with
  | .error e => ⟨.error e, tables, []⟩
  | .ok stored =>
      ⟨.ok stored,
        { tables with inspections := Function.update tables.inspections inspectionId none },
        [stored.number]⟩

/-- `consume_inspection`, if the plan has one. -/
def consumeInspection : Option String → ServiceProg (Option StoredInspection)
  | none => .ret none
  | some inspectionId => do
      let now ← clock
      let stored ← locked call fun _ => consumeInspectionSection caller inspectionId now
      pure (some stored)

/-- A request without a needed part. -/
def incompleteRequest (request : DevicePreparationRequest) : Bool :=
  request.profileId = "" || request.profileName = "" || request.planId = "" ||
    (request.sources.isEmpty && request.sourceCandidateId = "") || request.passphraseLabel = ""

/-- The sources of a request; a request may name a single candidate instead. -/
def requestedSources (request : DevicePreparationRequest) : List DevicePreparationSource :=
  if request.sources.isEmpty then
    [⟨request.sourceCandidateId, "Source", "", "", "", "", 30, 30⟩]
  else request.sources

/-- May the source be prepared, after those that were selected already? -/
def sourceOk (selected : List String) (source : DevicePreparationSource) : Bool :=
  source.candidateId ≠ "" && source.name ≠ "" && source.name.utf8ByteSize ≤ 160 &&
    source.localRetention ≠ 0 && source.localRetention ≤ 100000 &&
    source.remoteRetention ≤ 100000 && source.candidateId ∉ selected

/-- The loop of `start` over the sources. -/
def resolveSources (caller profileId : String) :
    List String → List DevicePreparationSource → ServiceProg (List DevicePreparationSource)
  | _, [] => .ret []
  | selected, source :: rest => do
      ensure (sourceOk selected source)
        (.exception (validationError "invalid device preparation source"))
      let candidate ← findSourceCandidate call caller source.candidateId
      let resolved ← resolveSources caller profileId (source.candidateId :: selected) rest
      pure ({ source with
        subvolume := candidate.path
        filesystemUuid := candidate.filesystemUuid
        mountRoot := candidate.mountRoot
        localSnapshotDir := (FsPath.ofString candidate.localSnapshotRoot / profileId).string } ::
          resolved)

/-- The checks of `start` before it looks anything up. -/
def checkRequest (request : DevicePreparationRequest) (passphraseFd : Int) :
    Except ManagerFailure Unit := do
  if incompleteRequest request then
    .error (.exception (validationError "device preparation request is incomplete"))
  else
    let _ ← (ProfileId.ofString request.profileId).mapError .exception
    if passphraseFd < 0 then
      .error (.exception
        (validationError "device preparation passphrase descriptor is invalid"))
    else if 120 < request.profileName.utf8ByteSize || 80 < request.passphraseLabel.utf8ByteSize then
      .error (.exception (validationError "device preparation text is too long"))
    else if 64 < request.sources.length then
      .error (.exception (validationError "too many device preparation sources"))
    else if !settings.topologyReader then
      .error (.operation .notFound "storage topology is unavailable")
    else .ok ()

/-- The inspection that `start` finds for a plan. -/
def inspectionFor (plan : DevicePreparationPlan) : ServiceProg (Option StoredInspection) :=
  if plan.mode ≠ .adoptExistingTarget then .ret none
  else
    match plan.inspectionId with
    | none => .fail (conflict "adoption plan has no inspection")
    | some inspectionId => do
        let stored ← findInspection call caller inspectionId
        ensure (stored.inspection.topologyGeneration = plan.topologyGeneration &&
            stored.inspection.deviceId = plan.deviceId &&
            some stored.inspection.partitionId = plan.partitionId)
          (conflict "adoption inspection does not match plan")
        pure (some stored)

/-- The target of a plan, with the result of its inspection. -/
def targetWith (inspection : Option StoredInspection) (planned : DevicePreparationTarget) :
    DevicePreparationTarget :=
  { planned with expectedInspection := inspection.map fun stored => stored.inspection.target }

/-- `backend_.start`. -/
def startBackend (request : DevicePreparationRequest) (passphraseFd : Int) (event : Start) :
    ServiceProg DevicePreparationStatus :=
  .effect (.startBackend request event.target event.owner passphraseFd)
    (fun _ state => { state with starts := event :: state.starts })
    fun answer _ =>
      match answer.error with
      | some e => .fail e
      | none => .ret answer.status

def start (uid : Nat) (request : DevicePreparationRequest) (passphraseFd : Int) :
    ServiceProg DevicePreparationStatus := do
  lift (checkRequest settings request passphraseFd)
  let sources ← resolveSources call caller request.profileId [] (requestedSources request)
  let found ← findPlan call caller request.planId
  let plan := found.plan.plan
  let expected ← findTopology call caller plan.topologyGeneration
  let planned ← lift (plannedTarget expected plan)
  let inspection ← inspectionFor call caller plan
  let target := targetWith inspection planned
  let current ← scan call
  ensureSafe expected current plan "storage safety check failed: "
  let reasons ← ask (.inspectSafety target) (·.reasons)
  ensure reasons.isEmpty (conflict
    ("selected device is not safe for destructive preparation: " ++ reasons.headD ""))
  authorize caller
  let (taken, now) ← takePlan call caller request.planId
  ensure (taken.plan.plan.id = plan.id && taken.plan.plan.deviceId = plan.deviceId)
    (conflict "device preparation plan changed")
  let consumed ← consumeInspection call caller taken.plan.plan.inspectionId
  startBackend { request with sources := sources } passphraseFd
    ⟨call, ⟨caller, uid⟩, found, expected, current, inspection, target, now, taken, consumed⟩

/-! ### Calls -/

/-- A call of the service. -/
inductive Request where
  | inspectStorageTopology (caller : String)
  | inspectExistingTarget (caller generation partitionId : String) (credentialFd : Int)
  | buildDevicePreparationPlan (caller generation selectedId : String) (mode : ProvisioningMode)
      (inspectionId : String)
  | listSourceCandidates (caller : String)
  | start (caller : String) (uid : Nat) (request : DevicePreparationRequest) (passphraseFd : Int)

/-- A call, whatever it returns or throws. -/
def ignore (program : ServiceProg α) : ServiceProg Unit := do
  let _ ← program.attempt
  pure ()

/-- Serve a call. -/
def serve : Request → ServiceProg Unit
  | .inspectStorageTopology caller => ignore (inspectStorageTopology settings call caller)
  | .inspectExistingTarget caller generation partitionId fd =>
      ignore (inspectExistingTarget settings call caller generation partitionId fd)
  | .buildDevicePreparationPlan caller generation selectedId mode inspectionId =>
      ignore (buildDevicePreparationPlan settings call caller generation selectedId mode
        inspectionId)
  | .listSourceCandidates caller => ignore (listSourceCandidates settings call caller)
  | .start caller uid request fd => ignore (start settings call caller uid request fd)

end service

/-- Any number of calls at the same time. -/
def provisioningPool (settings : Settings) (requests : Nat → Request) :
    Pool Nat ServiceCall ServiceAnswer ServiceState ManagerFailure Unit where
  state := .initial
  thread call := serve settings call (requests call)

end BtrfsBackup.Provisioning
