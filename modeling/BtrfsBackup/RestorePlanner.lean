/-
Planning a restore (`restore/RestorePlan.cpp`).

`build_plan` checks the text of the destination and derives the places of the
transaction with `parent_path`.  A canonical text may end in a separator: it denotes
the same directory, but its `parent_path` is that directory itself.

* `buildPlan` — `build_plan`, as `plan` and `plan_from_pinned_source` call it;
* `Beside` — the places of a plan are beside its destination;
* `buildPlan_beside_iff` — the destinations for which they are.
-/
import BtrfsBackup.World

namespace BtrfsBackup

inductive RestoreKind where
  | files
  | subvolume
  | drill
  deriving DecidableEq, Repr

inductive ExistingDestinationPolicy where
  | fail
  | replace
  deriving DecidableEq, Repr

/-- The start of the names `build_plan` gives to the places of a transaction. -/
def restoreStem (transactionId : String) : String := ".btrfs-backup-restore-" ++ transactionId

namespace RestorePlanner

/-- `RestoreErrorCode`, as far as the planner throws it. -/
inductive PlanErrorCode where
  | pathInvalid
  | destinationUnsafe
  | destinationExists
  | symlinkRejected
  deriving DecidableEq, Repr

/-- `RestoreError`. -/
structure PlanError where
  code : PlanErrorCode
  what : String
  deriving DecidableEq, Repr

/-- The status or the error of `symlink_status`. -/
inductive FileStatus where
  | symlink
  | file
  | noSuchFile
  | error
  deriving DecidableEq, Repr

/-- What the planner asks the file system; `validate_source` looks at the source only. -/
structure Filesystem where
  symlinkStatus : FsPath → FileStatus
  validateSource : FsPath → Except PlanError Unit

/-- `RestoreRequest`, without the path of the source. -/
structure RestoreRequest where
  transactionId : String
  snapshotId : String
  destination : FsPath
  kind : RestoreKind
  existingDestination : ExistingDestinationPolicy

/-- `RestorePlan`, as the planner fills it in. -/
structure Plan where
  transactionId : String
  snapshotId : String
  snapshotUuid : String
  source : FsPath
  destination : FsPath
  staging : FsPath
  previous : FsPath
  kind : RestoreKind
  existingDestination : ExistingDestinationPolicy
  destinationExists : Bool

/-- `valid_transaction_id`. -/
def validTransactionId (value : String) : Bool :=
  value ≠ "" && value.utf8ByteSize ≤ 64 &&
    value.toList.all fun c => isAlnum c || c == '-' || c == '_'

/-- The loop of `validate_destination`. -/
def inspectComponents (fs : Filesystem) : FsPath → List String → Except PlanError Unit
  | _, [] => .ok ()
  | current, component :: rest =>
    let current := current / component
    match fs.symlinkStatus current with
    | .symlink => .error ⟨.symlinkRejected,
        "restore destination traverses a symbolic link: " ++ current.string⟩
    | .error => .error ⟨.destinationUnsafe,
        "restore destination cannot be inspected: " ++ current.string⟩
    | _ => inspectComponents fs current rest

/-- `validate_destination`. -/
def validateDestination (fs : Filesystem) (destination : FsPath) : Except PlanError Unit :=
  if !destination.absolute ∨ destination.lexicallyNormal ≠ destination ∨
      destination = .ofString "/" ∨ destination = .ofString "/home" then
    .error ⟨.destinationUnsafe,
      "restore destination must be a canonical absolute path outside / and /home"⟩
  else inspectComponents fs .empty destination.parentPath.elements

/-- `build_plan`. -/
def buildPlan (fs : Filesystem) (snapshotUuid : String) (request : RestoreRequest)
    (source : FsPath) : Except PlanError Plan := do
  if !validTransactionId request.transactionId then
    .error ⟨.pathInvalid, "restore transaction id is invalid"⟩
  validateDestination fs request.destination
  fs.validateSource source
  let status := fs.symlinkStatus request.destination
  let destinationExists := status = .symlink ∨ status = .file
  if status = .error then
    .error ⟨.destinationUnsafe, "restore destination cannot be inspected"⟩
  if destinationExists ∧ request.existingDestination = .fail then
    .error ⟨.destinationExists,
      "restore destination already exists: " ++ request.destination.string⟩
  let stem := restoreStem request.transactionId
  let parent := request.destination.parentPath
  return {
    transactionId := request.transactionId
    snapshotId := request.snapshotId
    snapshotUuid := snapshotUuid
    source := source
    destination := request.destination
    staging := parent / (stem ++ ".staging")
    previous := parent / (stem ++ ".previous")
    kind := request.kind
    existingDestination := request.existingDestination
    destinationExists := destinationExists }

/-- The destination is neither `/` nor `/home`, and the other places of a plan are two
names in the directory that contains it, not at or below it.  The paths are taken for
the directories they denote. -/
structure Beside (plan : Plan) : Prop where
  outside : plan.destination.location ≠ [] ∧ plan.destination.location ≠ ["home"]
  names : ∃ staging previous, staging ≠ previous ∧
    plan.staging.location = plan.destination.location.dropLast ++ [staging] ∧
    plan.previous.location = plan.destination.location.dropLast ++ [previous]
  notInside : ¬ plan.destination.location <+: plan.staging.location ∧
    ¬ plan.destination.location <+: plan.previous.location

/-! ### What is accepted -/

theorem isPlain_stem {id suf : String} (h : validTransactionId id = true)
    (hsuf : '/' ∉ suf.toList) : IsPlain (restoreStem id ++ suf) := by
  have hid : '/' ∉ id.toList := by
    intro hmem
    simp only [validTransactionId, Bool.and_eq_true, List.all_eq_true] at h
    exact absurd (h.2 _ hmem) (by decide)
  have hstem : (restoreStem id).toList = ".btrfs-backup-restore-".toList ++ id.toList :=
    String.toList_append ..
  have hne : ∀ other : String, other.toList.length < 22 → restoreStem id ++ suf ≠ other := by
    rintro _ hshort rfl
    rw [String.toList_append, hstem, List.append_assoc, List.length_append] at hshort
    exact absurd (Nat.le_add_right 22 _) hshort.not_ge
  refine ⟨⟨hne "" (by decide), ?_⟩, hne "." (by decide), hne ".." (by decide)⟩
  rw [String.toList_append, hstem]
  simp [hid, hsuf]

/-- What the checks of the destination leave. -/
theorem destination_of_valid {fs} {dest : FsPath} (h : validateDestination fs dest = .ok ()) :
    dest.IsNormal ∧ dest ≠ .ofString "/" ∧ dest ≠ .ofString "/home" := by
  unfold validateDestination at h
  split at h
  · cases h
  · next hcheck =>
    simp only [not_or, Bool.not_eq_true', Bool.not_eq_false, ne_eq, not_not] at hcheck
    obtain ⟨habs, hnorm, hroot, hhome⟩ := hcheck
    exact ⟨hnorm ▸ FsPath.lexicallyNormal_isNormal habs, hroot, hhome⟩

theorem parentPath_isNormal {path : FsPath} (h : path.IsNormal) : path.parentPath.IsNormal := by
  unfold FsPath.parentPath
  split
  · exact h
  · exact ⟨h.1, fun name hname => h.2 name (List.mem_of_mem_dropLast hname)⟩

/-- The places of a plan, and what was checked for it. -/
theorem places_of_buildPlan {fs} {uuid : String} {req}
    {source : FsPath} {plan : Plan} (h : buildPlan fs uuid req source = .ok plan) :
    validateDestination fs req.destination = .ok () ∧
      plan.destination.location = req.destination.names ∧
      plan.staging.location = req.destination.parentPath.names ++
        [restoreStem req.transactionId ++ ".staging"] ∧
      plan.previous.location = req.destination.parentPath.names ++
        [restoreStem req.transactionId ++ ".previous"] := by
  unfold buildPlan at h
  split at h
  · cases h
  · next hcheck =>
    obtain ⟨⟨⟩, hdest, h⟩ := bind_eq_ok.mp h
    obtain ⟨⟨⟩, -, h⟩ := bind_eq_ok.mp h
    dsimp only at h
    split at h
    · cases h
    split at h
    · cases h
    cases h
    have hid : validTransactionId req.transactionId = true := by simpa using hcheck
    have hnorm := (destination_of_valid hdest).1
    have hpar := parentPath_isNormal hnorm
    exact ⟨hdest, location_of_isNormal hnorm, location_div hpar (isPlain_stem hid (by decide)),
      location_div hpar (isPlain_stem hid (by decide))⟩

/-- The places are beside the destination unless its text ends in a separator or it has
one of their names. -/
theorem buildPlan_beside_iff (fs : Filesystem) (uuid : String) (request : RestoreRequest)
    (source : FsPath) (plan : Plan) (h : buildPlan fs uuid request source = .ok plan) :
    Beside plan ↔ request.destination.trailing = false ∧
      request.destination.filename ≠ restoreStem request.transactionId ++ ".staging" ∧
      request.destination.filename ≠ restoreStem request.transactionId ++ ".previous" := by
  obtain ⟨hvalid, hlocation, hstaging, hprevious⟩ := places_of_buildPlan h
  obtain ⟨hnormal, hroot, hhome⟩ := destination_of_valid hvalid
  cases htrailing : request.destination.trailing with
  | true =>
    -- the parent of the text is the directory itself
    refine iff_of_false (fun hbeside => hbeside.notInside.1 ?_) (by simp)
    simp only [FsPath.parentPath, htrailing, if_true] at hstaging
    rw [hstaging, hlocation]
    exact List.prefix_append _ _
  | false =>
    have hsome : request.destination.names ≠ [] := fun hnames =>
      hroot (FsPath.ext_fields hnormal.1 hnames htrailing)
    have hother : request.destination.names ≠ ["home"] := fun hnames =>
      hhome (FsPath.ext_fields hnormal.1 hnames htrailing)
    obtain ⟨directory, name, hnames⟩ := (List.eq_nil_or_concat _).resolve_left hsome
    simp only [FsPath.parentPath, FsPath.filename, htrailing, hnames, List.concat_eq_append,
      List.dropLast_concat, List.getLast?_concat, Option.getD_some, Bool.false_eq_true, if_false,
      true_and] at hstaging hprevious hlocation hsome hother ⊢
    constructor
    · intro hbeside
      simpa [hlocation, hstaging, hprevious] using hbeside.notInside
    · intro hnone
      refine ⟨hlocation ▸ ⟨hsome, hother⟩, ⟨restoreStem request.transactionId ++ ".staging",
        restoreStem request.transactionId ++ ".previous", ?_⟩, ?_⟩
      · simp [hlocation, hstaging, hprevious]
      · simpa [hlocation, hstaging, hprevious] using hnone

/-- A file system in which nothing stands in the way. -/
def calm : Filesystem := ⟨fun _ => .noSuchFile, fun _ => .ok ()⟩

def requestFor (destination : String) : RestoreRequest :=
  ⟨"t1", "s1", .ofString destination, .files, .fail⟩

/-- A destination whose text ends in a name. -/
theorem buildPlan_srv : ∃ plan,
    buildPlan calm "" (requestFor "/srv/docs") .empty = .ok plan ∧ Beside plan :=
  ⟨_, rfl, (buildPlan_beside_iff calm "" (requestFor "/srv/docs") .empty _ rfl).mpr (by decide)⟩

/-- `/home/` is accepted, and the places are below it. -/
theorem buildPlan_home : ∃ plan, buildPlan calm "" (requestFor "/home/") .empty = .ok plan ∧
      plan.destination.location = ["home"] ∧
      plan.staging.location = ["home", ".btrfs-backup-restore-t1.staging"] ∧ ¬ Beside plan := by
  refine ⟨_, rfl, by decide, by decide, fun h => h.outside.2 (by decide)⟩

end RestorePlanner

end BtrfsBackup
