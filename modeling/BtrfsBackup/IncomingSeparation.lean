/-
Clean-up of incoming data stays away from the repository.

The clean-up actions of a plan empty or remove directories below the incoming
root; the committed snapshots of a source are below the remote root.  That the
two roots are not nested is checked on their *texts* when the profile is read:
this says nothing about a root that is `/` or that is spelled with a trailing
separator.  The first is excluded by the checks on the mounted target, the
second by the planner's containment checks.

* `prefix_texts` — nested directories have nested texts;
* `roots_apart` — the roots of a profile that passes all three checks are not
  nested;
* `cleared_apart_remoteDirectory` — no directory that a clean-up action clears is
  nested with the remote directory of an enabled source.
-/
import BtrfsBackup.ActionHandlers
import BtrfsBackup.Preflight
import BtrfsBackup.ProfileDocument

namespace BtrfsBackup

open List

namespace FsPath

/-! ### Texts of nested directories -/

theorem intercalate_append {sep : List Char} : ∀ {xs ys : List (List Char)}, xs ≠ [] → ys ≠ [] →
    sep.intercalate (xs ++ ys) = sep.intercalate xs ++ sep ++ sep.intercalate ys
  | [x], y :: ys, _, _ => by
    rw [singleton_append, intercalate_cons_cons, intercalate_singleton]
  | x :: v :: xs, ys, _, hys => by
    rw [cons_append, cons_append, intercalate_cons_cons, ← cons_append,
      intercalate_append (cons_ne_nil v xs) hys, intercalate_cons_cons]
    simp only [append_assoc]

/-- The text of a directory, spelled without a final separator, starts the text of
what lies below it. -/
theorem prefix_texts {p q : FsPath} (hp : p.absolute = true) (hq : q.absolute = true)
    (hpt : p.trailing = false) (hne : p.names ≠ []) (h : p.names <+: q.names) :
    p.string = q.string ∨ startsWith q.string (p.string ++ "/") = true := by
  obtain ⟨rest, hrest⟩ := h
  have hmap : p.names.map String.toList ≠ [] := by simpa using hne
  rw [startsWith, List.isPrefixOf_iff_prefix, String.toList_append, toList_string, toList_string,
    hp, hq, hpt, ← hrest, map_append]
  rcases eq_or_ne rest [] with rfl | hrest_ne
  · rcases htrail : q.trailing
    · left
      rw [append_nil] at hrest
      rw [ext_fields (hp.trans hq.symm) hrest (hpt.trans htrail.symm)]
    · right
      simp
  · right
    have hmapRest : rest.map String.toList ≠ [] := by simpa using hrest_ne
    rw [intercalate_append hmap hmapRest]
    refine ⟨['/'].intercalate (rest.map String.toList) ++ (if q.trailing then ['/'] else []), ?_⟩
    simp

end FsPath

/-! ### Directories below a root -/

/-- A safe relative path below a normal directory. -/
theorem prefix_div_relative {dir : FsPath} (hdirectory : dir.IsNormal)
    (path : SafeRelativePath) : (dir / path.value : FsPath).IsNormal ∧
      dir.location <+: (dir / path.value : FsPath).location := by
  obtain ⟨habs, hnames, -⟩ := FsPath.append_relative path.relative
    path.nonempty
  have hnorm : (dir / path.value : FsPath).IsNormal := by
    refine ⟨habs.trans hdirectory.1, fun name hname => ?_⟩
    rw [hnames] at hname
    rcases mem_append.mp hname with hname | hname
    · exact hdirectory.2 name hname
    · exact path.plain name hname
  refine ⟨hnorm, ?_⟩
  rw [location_of_isNormal hnorm, location_of_isNormal hdirectory, hnames]
  exact prefix_append _ _

/-! ### The roots -/

/-- A root that contains something below it is spelled without a trailing
separator. -/
theorem unslashed_of_pathIsWithin {root cand : FsPath} (hroot : root.IsNormal)
    (hcand : cand.IsNormal) (hne : cand ≠ root)
    (h : FsPath.pathIsWithin cand root = true) : root.trailing = false := by
  by_contra htrail
  exact hne ((FsPath.pathIsWithin_trailing hcand hroot (by simpa using htrail)).mp h)

/-- A root that is not `/` and has no final separator does not contain another one,
if their texts say so. -/
theorem not_prefix_of_texts {p q : FsPath} (hp : p.IsNormal) (hq : q.IsNormal)
    (hpt : p.trailing = false) (hne : p.names ≠ []) (htext : p.string ≠ q.string)
    (hstart : startsWith q.string (p.string ++ "/") = false) : ¬ p.names <+: q.names := by
  intro h
  rcases FsPath.prefix_texts hp.1 hq.1 hpt hne h with heq | hbelow
  · exact htext heq
  · exact Bool.false_ne_true (hstart.symm.trans hbelow)

/-- **Separate texts are separate directories**, for roots that are not `/` and
have no trailing separator. -/
theorem roots_apart {remRoot incRoot : FsPath} (hrem : remRoot.IsNormal) (hinc : incRoot.IsNormal)
    (hremTrail : remRoot.trailing = false) (hincTrail : incRoot.trailing = false)
    (hremoteNames : remRoot.names ≠ []) (hincomingNames : incRoot.names ≠ [])
    (hseparate : SeparateTexts remRoot.string incRoot.string) : ¬ Nested incRoot remRoot := by
  obtain ⟨hne, hbelowIncoming, hbelowRemote⟩ := hseparate
  rw [Nested, location_of_isNormal hrem, location_of_isNormal hinc]
  rintro (h | h)
  · exact not_prefix_of_texts hinc hrem hincTrail hincomingNames hne.symm hbelowIncoming h
  · exact not_prefix_of_texts hrem hinc hremTrail hremoteNames hne hbelowRemote h

/-! ### The directories of a profile -/

/-- The text of an absolute path ends with a separator. -/
def FsPath.EndsWithSeparator (path : FsPath) : Prop := path.trailing = true ∨ path.names = []

/-- The directories a profile uses are separate: the roots are not nested, and no two
sources share their snapshot directory. -/
def Profile.SeparateDirectories (profile : Profile) : Prop :=
  ¬ profile.paths.remoteRoot.value.names <+: profile.paths.incomingRoot.value.names ∧
  ¬ profile.paths.incomingRoot.value.names <+: profile.paths.remoteRoot.value.names ∧
  profile.sources.Pairwise fun a b =>
    a.localSnapshotDir.value.names ≠ b.localSnapshotDir.value.names

/-- No root that ends with a separator contains the other one, and no two snapshot
directories differ in a final separator only. -/
def Profile.SpelledApart (profile : Profile) : Prop :=
  (profile.paths.remoteRoot.value.EndsWithSeparator →
    ¬ profile.paths.remoteRoot.value.names <+: profile.paths.incomingRoot.value.names) ∧
  (profile.paths.incomingRoot.value.EndsWithSeparator →
    ¬ profile.paths.incomingRoot.value.names <+: profile.paths.remoteRoot.value.names) ∧
  profile.sources.Pairwise fun a b =>
    a.localSnapshotDir.value.trailing ≠ b.localSnapshotDir.value.trailing →
      a.localSnapshotDir.value.names ≠ b.localSnapshotDir.value.names

/-- **The directories of an accepted profile are separate exactly if their spelling
does not hide it**: the texts compared differ in a final separator, directories do not. -/
theorem profileFromJson_separate {raw : OrderedJson.Json} {targetMountRoot : String}
    {profile : Profile} (h : profileFromJson raw targetMountRoot = .ok profile) :
    profile.SeparateDirectories ↔ profile.SpelledApart := by
  obtain ⟨⟨hne, hbelowIncoming, hbelowRemote⟩, -, hsources⟩ := profileFromJson_eq_ok h
  have hremote := profile.paths.remoteRoot.isNormal
  have hincoming := profile.paths.incomingRoot.isNormal
  constructor
  · rintro ⟨h1, h2, h3⟩
    refine ⟨fun _ => h1, fun _ => h2, h3.imp ?_⟩
    exact fun hnames _ => hnames
  rintro ⟨h1, h2, h3⟩
  have apart {p q : FsPath} (hp : p.IsNormal) (hq : q.IsNormal) (htext : p.string ≠ q.string)
      (hstart : startsWith q.string (p.string ++ "/") = false)
      (hends : p.EndsWithSeparator → ¬ p.names <+: q.names) : ¬ p.names <+: q.names := by
    by_cases hseparator : p.EndsWithSeparator
    · exact hends hseparator
    · obtain ⟨hpt, hnames⟩ := not_or.mp hseparator
      exact not_prefix_of_texts hp hq (by simpa using hpt) hnames htext hstart
  refine ⟨apart hremote hincoming hne hbelowRemote h1, apart hincoming hremote hne.symm
    hbelowIncoming h2, ?_⟩
  refine h3.imp₂ (fun a b hspelled htext hnames => ?_) hsources
  by_cases htrailing : a.localSnapshotDir.value.trailing = b.localSnapshotDir.value.trailing
  · refine htext (congrArg FsPath.string (FsPath.ext_fields ?_ hnames htrailing))
    exact a.localSnapshotDir.isNormal.1.trans b.localSnapshotDir.isNormal.1.symm
  · exact hspelled htrailing hnames

/-! ### What clean-up clears -/

/-- The directories an action empties or removes below the incoming root:
`CleanupIncomingAction` and `CleanupSourceAction` of `RepositoryActionHandler`. -/
def BackupRunAction.clearedDirectories : BackupRunAction → List FsPath
  | .cleanupIncoming _ incomingDirectory => [incomingDirectory]
  | .cleanupSource action => [action.receivedSnapshot, action.incomingRunDirectory]
  | _ => []

variable {ctx : SourcePlanContext}

theorem clearedDirectories_orderedSourceActions
    {src paths recovery parent localRetention remoteRetention act} {dir : FsPath}
    (hact : act ∈ orderedSourceActions src ctx paths recovery parent localRetention remoteRetention)
    (hdirectory : dir ∈ act.clearedDirectories) : dir = paths.incomingSourceRoot ∨
    dir = paths.receivedSnapshot ∨ dir = paths.incomingRunDirectory := by
  simp only [orderedSourceActions, mem_append, mem_cons, mem_map,
    not_mem_nil, or_false] at hact
  rcases hact with h | rfl | ⟨_, _, rfl⟩ | rfl | ⟨_, _, rfl⟩ | rfl | rfl | rfl | rfl | rfl | rfl
  · split_ifs at h
    · obtain rfl := mem_singleton.mp h
      cases hdirectory
    · cases h
  · exact .inl (mem_singleton.mp hdirectory)
  · cases hdirectory
  · cases hdirectory
  · cases hdirectory
  · cases hdirectory
  · cases hdirectory
  · cases hdirectory
  · cases hdirectory
  · cases hdirectory
  · right
    simpa [BackupRunAction.clearedDirectories, cleanupSourceAction] using hdirectory

/-- The paths of a source whose plan is built: both roots are spelled without a
trailing separator, and what is cleared is below the incoming root. -/
theorem planned_paths {src plan}
    (parts : SourcePlanParts src ctx plan) : ctx.profile.paths.remoteRoot.value.trailing = false ∧
    ctx.profile.paths.incomingRoot.value.trailing = false ∧
    ∀ act ∈ plan.actions, ∀ dir ∈ act.clearedDirectories,
    ctx.profile.paths.incomingRoot.value.location <+: dir.location := by
  obtain ⟨hname, -, hincRoot, hincomingRun, -, hrecv, -⟩ :=
    planSourcePaths_eq_ok parts.paths_ok
  obtain ⟨parsed, hparsed, -⟩ := plannedSnapshotName_parsed hname
  have hinc := ctx.profile.paths.incomingRoot.isNormal
  have hrem := ctx.profile.paths.remoteRoot.isNormal
  obtain ⟨hremoteDirNormal, -⟩ := prefix_div_relative hrem src.remoteSubdir
  obtain ⟨hdirNormal, hdir⟩ := prefix_div_name hinc src.id.isPlain
  obtain ⟨hrunNormal, hrun⟩ := prefix_div_name hdirNormal ctx.runId.isPlain
  obtain ⟨-, hsnap⟩ := prefix_div_name hrunNormal (parseSnapshotName_isPlain hparsed)
  have hchecks := parts.paths_ok
  simp only [planSourcePaths] at hchecks
  split_ifs at hchecks with hremoteWithin hincomingWithin _
  simp only [Bool.not_eq_true', Bool.not_eq_false] at hremoteWithin hincomingWithin
  refine ⟨unslashed_of_pathIsWithin hrem hremoteDirNormal ?_ hremoteWithin,
    unslashed_of_pathIsWithin hinc hdirNormal ?_ hincomingWithin, ?_⟩
  · intro heq
    have hnames := congrArg FsPath.names heq
    rw [(FsPath.append_relative src.remoteSubdir.relative src.remoteSubdir.nonempty).2.1] at hnames
    exact src.remoteSubdir.nonempty (by simpa using hnames)
  · intro heq
    have hnames := congrArg FsPath.names heq
    rw [(FsPath.div_name src.id.isPlain.1).2.1] at hnames
    simp at hnames
  · intro act hact dir hdirectory
    rw [parts.actions_eq] at hact
    rcases clearedDirectories_orderedSourceActions hact hdirectory with rfl | rfl | rfl
    · rw [hincRoot]
      exact hdir
    · rw [hrecv, hincomingRun]
      exact hdir.trans (hrun.trans hsnap)
    · rw [hincomingRun]
      exact hdir.trans hrun

/-- Every plan in a run plan is the plan of an enabled source. -/
theorem mem_buildSources {plan} :
    ∀ {seen : List SourceId} {srcs : List ProfileSource} {plans : List BackupSourceRunPlan},
      buildSources ctx seen srcs = .ok plans → plan ∈ plans →
        ∃ src ∈ srcs, buildSourceRunPlan src ctx = .ok plan
  | _, [], plans, h, hplan => by
    obtain rfl := Except.ok.inj h
    cases hplan
  | seen, src :: srcs, plans, h, hplan => by
    rw [buildSources] at h
    split_ifs at h with henabled hseen
    · obtain ⟨found, hfound, hbuilt⟩ := mem_buildSources h hplan
      exact ⟨found, mem_cons_of_mem src hfound, hbuilt⟩
    · obtain ⟨first, hfirst, h⟩ := bind_eq_ok.mp h
      obtain ⟨rest, hrest, h⟩ := bind_eq_ok.mp h
      obtain rfl := Except.ok.inj h
      rcases mem_cons.mp hplan with rfl | hplan
      · exact ⟨src, mem_cons_self, hfirst⟩
      · obtain ⟨found, hfound, hbuilt⟩ := mem_buildSources hrest hplan
        exact ⟨found, mem_cons_of_mem src hfound, hbuilt⟩

/-- **Clean-up never touches the repository**: whatever a clean-up action of a plan
empties or removes is not nested with the remote directory of any enabled source. -/
theorem cleared_apart_remoteDirectory {weaklyCanonical : FsPath → Option FsPath}
    (hlinks : NoSymbolicLinks weaklyCanonical) {raw : OrderedJson.Json} {targetMountRoot : String}
    {profile : Profile} (hprofile : profileFromJson raw targetMountRoot = .ok profile)
    {mounts : List MountEntry} {access : TargetMountAccess} {mount : MountEntry}
    (hmount : validateBackupTargetMount weaklyCanonical profile mounts access = .ok mount)
    {context : SourcePlanContext} (hcontext : context.profile = profile) {plan : BackupRunPlan}
    (hplan : buildBackupRunPlan context = .ok plan) :
    ∀ sourcePlan ∈ plan.sources, ∀ action ∈ sourcePlan.actions,
      ∀ directory ∈ action.clearedDirectories, ∀ source ∈ profile.sources, source.enabled = true →
        ¬ Nested directory (remoteDirectory profile source) := by
  intro sourcePlan hsourcePlan action haction directory hdirectory source _ _ hnested
  subst hcontext
  obtain ⟨plans, hplans, hplan⟩ := bind_eq_ok.mp hplan
  obtain rfl := Except.ok.inj hplan
  obtain ⟨planned, -, hbuilt⟩ := mem_buildSources hplans hsourcePlan
  obtain ⟨parts⟩ := buildSourceRunPlan_eq_ok hbuilt
  obtain ⟨hremoteTrailing, hincomingTrailing, hbelow⟩ := planned_paths parts
  obtain ⟨hseparate, hid, -⟩ := profileFromJson_eq_ok hprofile
  obtain ⟨hremoteRoot, hincomingRoot⟩ := validateBackupTargetMount_roots hmount hlinks
  -- the mount point has a name, so neither root is the root directory
  have hnames : ∀ {names : List String},
      context.profile.target.mountPoint.value.names <+: names → names ≠ [] := fun h =>
    ne_nil_of_mem (h.subset hid)
  obtain ⟨-, hremoteDir⟩ :=
    prefix_div_relative context.profile.paths.remoteRoot.isNormal source.remoteSubdir
  exact roots_apart context.profile.paths.remoteRoot.isNormal
    context.profile.paths.incomingRoot.isNormal hremoteTrailing hincomingTrailing
    (hnames hremoteRoot) (hnames hincomingRoot) hseparate
    (nested_of_below (hbelow action haction directory hdirectory) hremoteDir hnested)

namespace Sample

theorem runIdOk_first : runIdOk "run-1" = true := by decide

open OrderedJson

/-- A document with two sources and the default roots. -/
def document : Json := .object
  [("schemaVersion", .integer 1), ("profileId", .string "laptop"),
    ("target", .object
      [("device", .string "/dev/sdb1"),
        ("luksUuid", .string "0f1e2d3c-4b5a-6978-8796-a5b4c3d2e1f0"),
        ("btrfsUuid", .string "0f1e2d3c-4b5a-6978-8796-a5b4c3d2e1f0"),
        ("mapperName", .string "backup"),
        ("activation", .object [("mode", .string "askPassword")])]),
    ("sources", .array
      [.object [("id", .string "home"), ("subvolume", .string "/home"),
        ("localSnapshotDir", .string "/snapshots")],
      .object [("id", .string "srv"), ("subvolume", .string "/srv"),
        ("localSnapshotDir", .string "/srv-snapshots")]])]

/-- The target mounted as it should be. -/
def targetMount : MountEntry where
  source := "/dev/mapper/backup"
  target := "/mnt/laptop"
  fstype := "btrfs"
  root := "/"
  options := "rw,nosuid,nodev,noexec,nosymfollow"
  mountId := 40
  deviceId := "0:40"
  filesystemUuid := "0f1e2d3c-4b5a-6978-8796-a5b4c3d2e1f0"

def documentProfile : Profile where
  configurationGeneration := ""
  id := ⟨"laptop", identifierOk_laptop⟩
  name := "laptop"
  enabled := true
  target :=
    { target with mountPoint := directory "/mnt/laptop" (by decide) }
  paths :=
    ⟨directory "/mnt/laptop/snapshots" (by decide), directory "/mnt/laptop/.incoming" (by decide)⟩
  settings :=
    { dailyLimit := true
      incrementalRequired := true
      keepFailedLocalSnapshot := false
      autoEject := true
      remoteRetention := ⟨30, by decide⟩
      localRetention := ⟨30, by decide⟩
      minimumTargetFreeBytes := ⟨5368709120, by decide⟩
      minimumLocalFreeBytes := ⟨1073741824, by decide⟩ }
  hooks := ⟨[], []⟩
  sources :=
    let home : ProfileSource := { config.source with
      name := "home"
      remoteRetention := ⟨30, by decide⟩
      localRetention := ⟨30, by decide⟩ }
    [home, { home with
      id := ⟨"srv", by decide⟩
      name := "srv"
      subvolume := directory "/srv" (by decide)
      localSnapshotDir := directory "/srv-snapshots" (by decide)
      remoteSubdir := ⟨.ofString "srv", by decide, by decide, by decide, by decide⟩ }]

theorem document_accepted : profileFromJson document "/mnt" = .ok documentProfile := by
  decide +kernel

theorem profileFromJson_separate_document : profileFromJson document "/mnt" = .ok documentProfile ∧
      (documentProfile.SeparateDirectories ↔ documentProfile.SpelledApart) :=
  ⟨document_accepted, profileFromJson_separate document_accepted⟩

/-- A document whose incoming root lies in its remote root. -/
def nestedDocument : Json :=
  match document with
  | .object fields => .object (fields ++ [("paths", .object
      [("remoteRoot", .string "/mnt/laptop/"), ("incomingRoot", .string "/mnt/laptop/in")])])
  | other => other

theorem nestedDocument_accepted : ∃ profile, profileFromJson nestedDocument "/mnt" = .ok profile ∧
    ¬ profile.SeparateDirectories := by
  refine ⟨{ documentProfile with
    paths := ⟨directory "/mnt/laptop/" (by decide), directory "/mnt/laptop/in" (by decide)⟩ },
    by decide +kernel, fun h => h.1 (by decide)⟩

/-- The first run of the profile. -/
def documentContext : SourcePlanContext where
  profile := documentProfile
  localInventory := []
  remoteInventory := []
  pendingMarkers := []
  pendingSnapshots := []
  profileStateDir := FsPath.ofString "/var/lib/btrfs-backup/laptop"
  runId := ⟨"run-1", runIdOk_first⟩
  snapshotTimestamp := ⟨0, by decide⟩

theorem document_planned : (buildBackupRunPlan documentContext).toOption.isSome = true := by
  decide +kernel

def documentPlan : BackupRunPlan :=
  (buildBackupRunPlan documentContext).toOption.get document_planned

theorem eq_ok_of_toOption {α : Type} {res : Except Thrown α}
    (h : res.toOption.isSome = true) : res = .ok (res.toOption.get h) := by
  cases res with
  | error e => cases h
  | ok value => rfl

/-- A profile that is accepted, mounted and planned. -/
theorem documentPlan_cleared : documentPlan.sources.length = 2 ∧
      ∀ sourcePlan ∈ documentPlan.sources, ∀ action ∈ sourcePlan.actions,
        ∀ directory ∈ action.clearedDirectories, ∀ source ∈ documentProfile.sources,
          source.enabled = true → ¬ Nested directory (remoteDirectory documentProfile source) := by
  refine ⟨by decide +kernel, ?_⟩
  have hlinks : NoSymbolicLinks some := by
    rintro path _ habsolute ⟨rfl⟩
    exact ⟨habsolute, rfl⟩
  have hmount : validateBackupTargetMount some documentProfile [targetMount] .readWrite =
      .ok targetMount := by decide +kernel
  exact cleared_apart_remoteDirectory hlinks document_accepted hmount
    (rfl : documentContext.profile = documentProfile) (eq_ok_of_toOption document_planned)

end Sample

end BtrfsBackup
