/-
The stores one source of a profile lives in, and what discovery reads of them
(`backup/planning/BackupDiscovery`).

A `World` holds the local snapshots of the source, its remote snapshots, the
data received but not yet committed (a store of its own: incoming data is never
in a snapshot directory), and the pending marker.  A subvolume is
identified by its location, the file names on the way to it from the root; how
a path to it is spelled does not matter.  `knownUuids` and `history` record
what happened so far: no function of the engine reads them.

* `subvolumeInventory` — the inventory of a directory that holds subvolumes
  only, and `mem_subvolumeInventory`;
* `discover` — inventories, marker and pending snapshot, as planning gets them.
-/
import BtrfsBackup.BackupRunPlan
import BtrfsBackup.Lib.Keyed

namespace BtrfsBackup

/-- The file names on the way to a path's target. -/
def FsPath.location (path : FsPath) : List String := path.lexicallyNormal.names

structure Subvolume where
  location : List String
  metadata : SnapshotMetadata
  /-- The local snapshot whose data it holds. -/
  madeFrom : SnapshotUuid
  deriving DecidableEq

/-- Subvolumes at distinct locations. -/
abbrev Subvolumes := Keyed.Store Subvolume.location

/-- What happened to the snapshots of the source. -/
inductive StoreEvent where
  /-- A remote snapshot `uuid` received from `received` came into being. -/
  | remoteCreated (uuid : SnapshotUuid) (received : ReceivedSnapshotUuid)
  /-- The check of a new remote snapshot failed. -/
  | commitCheckFailed (location : List String)
  /-- `CommitReceived` succeeded for the remote snapshot. -/
  | commitSucceeded (uuid : SnapshotUuid)
  /-- An action deleted the remote snapshot. -/
  | remoteDeleted (action : BackupRunActionKind) (uuid : SnapshotUuid)
  /-- `RecoverPending` completed and left the pending local snapshot. -/
  | leftByRecovery (uuid : SnapshotUuid)
  deriving DecidableEq

/-- The state of one source. -/
structure World where
  localSnapshots : Subvolumes
  remoteSnapshots : Subvolumes
  incoming : Subvolumes
  pendingMarker : Option PendingMarker
  /-- All UUIDs seen so far. -/
  knownUuids : List String
  /-- The events so far, the last one first. -/
  history : List StoreEvent

/-- The state before the first run. -/
def World.initial : World := ⟨.empty, .empty, .empty, none, [], []⟩

structure SourceConfig where
  profile : Profile
  source : ProfileSource
  profileStateDir : FsPath

namespace SourceConfig

/-- The local snapshot directory. -/
def localDir (config : SourceConfig) : FsPath := config.source.localSnapshotDir.value

/-- The remote snapshot directory. -/
def remoteDir (config : SourceConfig) : FsPath := remoteDirectory config.profile config.source

/-- `SafeDirectoryRoot` of the target. -/
def targetRoot (config : SourceConfig) : FsPath := config.profile.target.mountPoint.value

end SourceConfig

/-! ### Paths below a root -/

/-- `SafeDirectoryRoot` of the local file systems. -/
def localRoot : FsPath := FsPath.ofString "/"

/-- `SafeDirectoryRoot::relative_path`: a path is only followed below its root. -/
def locate (root path : FsPath) : Except Thrown (List String) :=
  let normalized := path.lexicallyNormal
  if !normalized.absolute || !FsPath.pathIsWithin normalized root then
    .error (validationError
      ("path escapes safe directory root " ++ root.string ++ ": " ++ path.string))
  else .ok normalized.names

theorem locate_eq_ok {root path : FsPath} {loc}
    (h : locate root path = .ok loc) : loc = path.location := by
  rw [locate] at h
  split_ifs at h
  cases h
  rfl

/-! ### Discovery -/

variable (config : SourceConfig) (side : SnapshotSide) (directory : FsPath)
  (parameters : RunParameters)

def entryIn (subvolume : Subvolume) : Option DirectoryEntry :=
  match subvolume.location.getLast? with
  | none => none
  | some filename =>
    if subvolume.location.dropLast = directory.location then some ⟨filename, .directory⟩ else none

/-- The entries of a directory that holds subvolumes. -/
def directoryEntries (store : Subvolumes) : List DirectoryEntry :=
  store.items.filterMap (entryIn directory)

/-- `read_snapshot_metadata`. -/
def readMetadata (store : Subvolumes) (location : List String) : Option SnapshotMetadata :=
  (store.find? location).map Subvolume.metadata

/-- The inventory of a directory of the world; a handle to the directory is
scanned, so that its spelling does not matter. -/
def inventory (store : Subvolumes) : Except Thrown (List SnapshotInfo) :=
  listSnapshotInventoryAt directory directory config.source.id side
    (fun path => readMetadata store path.location) (.directory (directoryEntries directory store))

/-- The inventory entry of a subvolume. -/
def listed (subvolume : Subvolume) : Option SnapshotInfo :=
  match subvolume.location.getLast? with
  | none => none
  | some filename =>
    if subvolume.location.dropLast = directory.location then
      snapshotInfoOf directory config.source.id side filename (some subvolume.metadata)
    else none

/-- The inventory of a directory that holds subvolumes only. -/
def subvolumeInventory (store : Subvolumes) : List SnapshotInfo :=
  sortBy metadataSortKeyLess (store.items.filterMap (listed config side directory))

variable {dir : FsPath} {name : String} {sub : Subvolume}

/-- A name below a directory in normal form. -/
theorem location_div (hdir : dir.IsNormal)
    (hname : IsPlain name) : (dir / name : FsPath).location = dir.names ++ [name] := by
  have hnorm := FsPath.div_name_isNormal hdir hname.1 hname.2.1 hname.2.2
  rw [FsPath.location, FsPath.lexicallyNormal_of_isNormal hnorm]
  exact (FsPath.div_name hname.1).2.1

theorem location_of_isNormal {path : FsPath} (h : path.IsNormal) : path.location = path.names := by
  rw [FsPath.location, FsPath.lexicallyNormal_of_isNormal h]

/-- One of the two is the other or lies below it: the names of one normal form
start those of the other. -/
def Nested (p q : FsPath) : Prop := p.location <+: q.location ∨ q.location <+: p.location

instance (p q : FsPath) : Decidable (Nested p q) := inferInstanceAs (Decidable (_ ∨ _))

/-- What lies below two directories is nested only if the directories are. -/
theorem nested_of_below {p q p' q' : FsPath} (hp : p.location <+: p'.location)
    (hq : q.location <+: q'.location) (h : Nested p' q') : Nested p q := by
  rcases h with h | h
  · exact List.prefix_or_prefix_of_prefix (hp.trans h) hq
  · exact List.prefix_or_prefix_of_prefix hp (hq.trans h)

/-- A name below a normal directory. -/
theorem prefix_div_name (hdirectory : dir.IsNormal) (hname : IsPlain name) :
    (dir / name : FsPath).IsNormal ∧ dir.location <+: (dir / name : FsPath).location := by
  refine ⟨FsPath.div_name_isNormal hdirectory hname.1 hname.2.1 hname.2.2, ?_⟩
  rw [location_div hdirectory hname, location_of_isNormal hdirectory]
  exact List.prefix_append _ _

variable {store : Subvolumes}

/-- A snapshot is listed from the metadata at the path the scan builds. -/
theorem snapshotInfoOf_readMetadata (config : SourceConfig) (side : SnapshotSide)
    {filename : String}
    (hdir : dir.IsNormal) (hmem : sub ∈ store) (hloc : sub.location = dir.names ++ [filename]) :
    snapshotInfoOf dir config.source.id side filename
        (readMetadata store (dir / filename : FsPath).location) =
      snapshotInfoOf dir config.source.id side filename (some sub.metadata) := by
  rcases hparse : parseSnapshotName filename config.source.id with _ | parsed
  · simp [snapshotInfoOf, hparse]
  · have hfind : store.find? (dir / filename : FsPath).location = some sub := by
      rw [location_div hdir (parseSnapshotName_isPlain hparse)]
      exact Keyed.Store.find?_eq_some.mpr ⟨hmem, hloc⟩
    rw [readMetadata, hfind, Option.map_some]

theorem inspectEntries_entryIn (config : SourceConfig) (side : SnapshotSide) (hdir : dir.IsNormal) :
    ∀ (items : List Subvolume), (∀ v ∈ items, v ∈ store) →
      inspectEntries dir dir config.source.id side
          (fun path => readMetadata store path.location) (items.filterMap (entryIn dir)) =
        .ok (items.filterMap (listed config side dir))
  | [], _ => rfl
  | v :: items, hitems => by
    have ih := inspectEntries_entryIn config side hdir items
      fun u hu => hitems u (List.mem_cons_of_mem v hu)
    rcases hlast : v.location.getLast? with _ | filename
    · simpa [List.filterMap_cons, hlast, listed, entryIn] using ih
    by_cases hdrop : v.location.dropLast = dir.location
    · have hloc : v.location = dir.names ++ [filename] := by
        rw [← location_of_isNormal hdir, ← hdrop]
        exact (List.dropLast_append_getLast? filename hlast).symm
      have hinfo := snapshotInfoOf_readMetadata config side hdir
        (hitems v List.mem_cons_self) hloc
      rcases hsome : snapshotInfoOf dir config.source.id side filename (some v.metadata)
        with _ | info
      · simp [entryIn, listed, hlast, hdrop, inspectEntries, ih, hinfo, hsome, bind, Except.bind]
      · simp [entryIn, listed, hlast, hdrop, inspectEntries, ih, hinfo, hsome, bind, Except.bind]
    · simpa [List.filterMap_cons, hlast, hdrop, listed, entryIn] using ih

theorem inventory_eq {config side} (hdir : dir.IsNormal) :
    inventory config side dir store = .ok (subvolumeInventory config side dir store) := by
  have h := inspectEntries_entryIn config side hdir store.items fun _ hv => hv
  simp [inventory, listSnapshotInventoryAt, directoryEntries, h, subvolumeInventory, bind,
    Except.bind]

/-- What an inventory entry says about the subvolume it lists. -/
structure Lists (config : SourceConfig) (side : SnapshotSide) (directory : FsPath)
    (subvolume : Subvolume) (info : SnapshotInfo) : Prop where
  location_eq : subvolume.location = directory.location ++ [info.name]
  isSubvolume : subvolume.metadata.isSubvolume = true
  parsed : parseSnapshotName info.name config.source.id =
    some ⟨config.source.id, info.timestamp, info.sequence, info.name⟩
  side_eq : info.side = side
  sourceId_eq : info.sourceId = config.source.id
  path_eq : info.path = (directory / info.name : FsPath)
  readonly_eq : info.readonly = subvolume.metadata.readonly
  uuid_eq : info.uuid = subvolume.metadata.uuid
  receivedUuid_eq : info.receivedUuid = subvolume.metadata.receivedUuid

theorem listed_eq_some {config side} {info} :
    listed config side dir sub = some info ↔ Lists config side dir sub info := by
  constructor
  · intro h
    rw [listed] at h
    split at h
    · cases h
    · next filename hlast =>
      split_ifs at h with hdrop
      simp only [snapshotInfoOf, Option.bind_eq_bind, Option.bind_eq_some_iff,
        Option.some.injEq] at h
      obtain ⟨parsed, hparsed, metadata, rfl, h⟩ := h
      split_ifs at h with hsub
      cases h
      obtain ⟨hname, hid, -⟩ := parseSnapshotName_eq_some hparsed
      have hloc : sub.location = dir.location ++ [filename] := by
        rw [← hdrop]
        exact (List.dropLast_append_getLast? filename hlast).symm
      obtain ⟨sourceId, timestamp, sequence, name⟩ := parsed
      obtain rfl : name = filename := hname
      obtain rfl : sourceId = config.source.id := hid
      exact ⟨hloc, by simpa using hsub, hparsed, rfl, rfl, rfl, rfl, rfl, rfl⟩
  · intro h
    have hlast : sub.location.getLast? = some info.name := by simp [h.location_eq]
    have hdrop : sub.location.dropLast = dir.location := by simp [h.location_eq]
    obtain ⟨side', sourceId, name, timestamp, sequence, path, readonly, uuid, received⟩ := info
    obtain ⟨-, hsub, hparsed, hside, hid, hpath, hro, huuid, hrecv⟩ := h
    dsimp only at hparsed hside hid hpath hro huuid hrecv
    subst hside hid hpath hro huuid hrecv
    simp [listed, hlast, hdrop, snapshotInfoOf, hparsed, hsub]

/-- The entries of an inventory are the subvolumes of the directory. -/
theorem mem_subvolumeInventory {config side info} :
    info ∈ subvolumeInventory config side dir store ↔
      ∃ sub ∈ store, Lists config side dir sub info := by
  rw [subvolumeInventory, mem_sortBy, List.mem_filterMap]
  exact exists_congr fun v => and_congr_right fun _ => listed_eq_some

/-- What planning knows about the source. -/
structure PlanningSnapshot where
  localInventory : List SnapshotInfo
  remoteInventory : List SnapshotInfo
  pendingMarker : Option PendingMarker
  pendingSnapshot : Option SnapshotMetadata

/-- `BackupDiscovery::discover`, for one source. -/
def discover (world : World) : Except Thrown PlanningSnapshot := do
  let locals ← inventory config .local config.localDir world.localSnapshots
  let remotes ← inventory config .remote config.remoteDir world.remoteSnapshots
  match world.pendingMarker with
  | none => .ok ⟨locals, remotes, none, none⟩
  | some marker => do
    let location ← locate localRoot marker.localSnapshotPath
    .ok ⟨locals, remotes, some marker, readMetadata world.localSnapshots location⟩

/-- What a run is given. -/
structure RunParameters where
  runId : RunId
  timestamp : RuntimeTimePoint

def planContext (snapshot : PlanningSnapshot) : SourcePlanContext where
  profile := config.profile
  localInventory := [(config.source.id, snapshot.localInventory)]
  remoteInventory := [(config.source.id, snapshot.remoteInventory)]
  pendingMarkers := [(config.source.id, snapshot.pendingMarker)]
  pendingSnapshots := [(config.source.id, snapshot.pendingSnapshot)]
  profileStateDir := config.profileStateDir
  runId := parameters.runId
  snapshotTimestamp := parameters.timestamp

/-- The plan of a run that starts in `world`. -/
def planRun (world : World) : Except Thrown BackupSourceRunPlan := do
  let snapshot ← discover config world
  buildSourceRunPlan config.source (planContext config parameters snapshot)

/-! ### Plans of a world -/

theorem remoteDirectory_spec (prof : Profile) (src : ProfileSource) :
    (remoteDirectory prof src).IsNormal ∧ (remoteDirectory prof src).trailing = false ∧
      (remoteDirectory prof src).names =
        prof.paths.remoteRoot.value.names ++ src.remoteSubdir.value.names := by
  obtain ⟨habs, hnames, htrail⟩ := FsPath.append_relative
    src.remoteSubdir.relative src.remoteSubdir.nonempty
  refine ⟨⟨habs.trans prof.paths.remoteRoot.isNormal.1, ?_⟩,
    htrail.trans src.remoteSubdir.untrailed, hnames⟩
  intro name hname
  rw [remoteDirectory, hnames] at hname
  rcases List.mem_append.mp hname with hname | hname
  · exact prof.paths.remoteRoot.isNormal.2 name hname
  · exact src.remoteSubdir.plain name hname

namespace SourceConfig

variable (config : SourceConfig)

theorem localDir_isNormal : config.localDir.IsNormal := config.source.localSnapshotDir.isNormal

theorem remoteDir_isNormal : config.remoteDir.IsNormal :=
  (remoteDirectory_spec config.profile config.source).1

def localInventory (world : World) : List SnapshotInfo :=
  subvolumeInventory config .local config.localDir world.localSnapshots

def remoteInventory (world : World) : List SnapshotInfo :=
  subvolumeInventory config .remote config.remoteDir world.remoteSnapshots

/-- The local snapshot the marker names. -/
def pendingSnapshot (world : World) : Option SnapshotMetadata :=
  world.pendingMarker.bind fun marker =>
    readMetadata world.localSnapshots marker.localSnapshotPath.location

/-- The recovery a run that starts in `world` plans. -/
def recoveryPlan (world : World) : PendingRecoveryPlan :=
  planPendingRecovery config.source.id config.profileStateDir config.localDir config.remoteDir
    world.pendingMarker (pendingSnapshot world) (config.remoteInventory world)
    config.profile.settings.keepFailedLocalSnapshot

/-- The planning context of a run that starts in `world`. -/
def context (parameters : RunParameters) (world : World) : SourcePlanContext :=
  planContext config parameters
    ⟨config.localInventory world, config.remoteInventory world, world.pendingMarker,
      pendingSnapshot world⟩

end SourceConfig

section plan

variable {config : SourceConfig} {params : RunParameters} {world : World}

theorem discover_eq_ok {snap} (h : discover config world = .ok snap) :
    snap = ⟨config.localInventory world, config.remoteInventory world, world.pendingMarker,
      SourceConfig.pendingSnapshot world⟩ := by
  rw [discover, inventory_eq config.localDir_isNormal, inventory_eq config.remoteDir_isNormal] at h
  obtain ⟨_, hlocals, h⟩ := bind_eq_ok.mp h
  obtain ⟨_, hremotes, h⟩ := bind_eq_ok.mp h
  cases hlocals
  cases hremotes
  rcases hmark : world.pendingMarker with _ | marker
  · rw [hmark] at h
    cases h
    simp [SourceConfig.localInventory, SourceConfig.remoteInventory, SourceConfig.pendingSnapshot,
      hmark]
  · rw [hmark] at h
    obtain ⟨loc, hloc, h⟩ := bind_eq_ok.mp h
    cases h
    simp [SourceConfig.localInventory, SourceConfig.remoteInventory, SourceConfig.pendingSnapshot,
      hmark, locate_eq_ok hloc]

/-- A plan is built from the world as `context` describes it. -/
theorem planRun_eq_ok {plan} (h : planRun config params world = .ok plan) :
    buildSourceRunPlan config.source (config.context params world) = .ok plan := by
  obtain ⟨snap, hsnap, h⟩ := bind_eq_ok.mp h
  rwa [discover_eq_ok hsnap] at h

@[simp] theorem snapshotsFor_localInventory :
    snapshotsFor (config.context params world).localInventory config.source.id =
      config.localInventory world := by
  simp [snapshotsFor, SourceConfig.context, planContext]

@[simp] theorem snapshotsFor_remoteInventory :
    snapshotsFor (config.context params world).remoteInventory config.source.id =
      config.remoteInventory world := by
  simp [snapshotsFor, SourceConfig.context, planContext]

@[simp] theorem sourceRecoveryPlan_context :
    sourceRecoveryPlan config.source (config.context params world) = config.recoveryPlan world := by
  simp [sourceRecoveryPlan, SourceConfig.recoveryPlan, SourceConfig.context, planContext,
    pendingMarkerFor, pendingSnapshotFor, snapshotsFor, SourceConfig.localDir,
    SourceConfig.remoteDir]

end plan

end BtrfsBackup
