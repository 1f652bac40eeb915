/-
The copy of a tree that is restored (`platform/linux/restore/PosixRestoreOperations`).

A file is written and then gets the attributes, the mode and the owner of its source, in this
order.  The last of the three calls takes back some of what the other two have set: the check
that follows reads the mode and the owner, and not the attributes.  Attributes are only added, so
one that a new file or directory has inherited stays if its source has none of the name.

* `Inheritance` — what a directory gives to what is made in it;
* `chown` — the call as Linux makes it;
* `preserveMetadata`, `copyEntries`, `copyAndVerify` — the copy that root makes, when no call fails;
* `copyAndVerify_eq_iff` — the trees whose copy is equal to them.
-/
import BtrfsBackup.Core
import BtrfsBackup.Lib.Keyed

namespace BtrfsBackup

namespace RestoreCopy

open Keyed

/-! ### Trees -/

abbrev Content := List UInt8

/-- Extended attributes, by name. -/
abbrev Attributes := Store (Prod.fst : String × Content → String)

/-- `st_mode & 07777`. -/
structure Mode where
  setUserId : Bool
  setGroupId : Bool
  sticky : Bool
  permissions : BitVec 9
  deriving DecidableEq

/-- The metadata of an inode that the copy sets, less its times. -/
structure Metadata where
  mode : Mode
  uid : Nat
  gid : Nat
  attributes : Attributes

/-- `RestoreErrorCode`, as far as the copy throws it when no call fails. -/
inductive CopyErrorCode where
  | mountBoundaryRejected
  | symlinkRejected
  | pathInvalid
  | verificationFailed
  deriving DecidableEq, Repr

/-- The entries of a directory, in the order of its iterator. -/
inductive Entries where
  | nil
  | file (name : String) (metadata : Metadata) (content : Content) (rest : Entries)
  | directory (name : String) (metadata : Metadata) (children rest : Entries)
  /-- on another device, a symbolic link or of another type: what `copy_entry` throws -/
  | rejected (name : String) (code : CopyErrorCode) (rest : Entries)

/-- What is restored. -/
inductive Source where
  | file (metadata : Metadata) (content : Content)
  | directory (metadata : Metadata) (children : Entries)

/-! ### The copy -/

/-- The attributes of a new file or directory, from those of the directory it is made in: access
control lists from the default one, `btrfs.compression`. -/
structure Inheritance where
  file : Attributes → Attributes
  directory : Attributes → Attributes
  no_capability : ∀ parent, (file parent).find? "security.capability" = none

/-- What a new file or directory has; what else it inherits is set again. -/
def created (permissions : BitVec 9) (inherited : Attributes) : Metadata :=
  ⟨⟨false, false, false, permissions⟩, 0, 0, inherited⟩

/-- `chown`, of a regular file or of a directory. -/
def chown (regular : Bool) (uid gid : Nat) (metadata : Metadata) : Metadata :=
  if regular then
    { mode := { metadata.mode with setUserId := false, setGroupId := false }
      uid := uid
      gid := gid
      attributes := metadata.attributes.remove "security.capability" }
  else { metadata with uid := uid, gid := gid }

/-- `copy_extended_attributes`: one `setxattr` for each, in the order in which they are listed. -/
def copyExtendedAttributes (source destination : Attributes) : Attributes :=
  source.items.foldr (fun entry attributes => (attributes.remove entry.1).add entry) destination

/-- `preserve_metadata`. -/
def preserveMetadata (regular : Bool) (source destination : Metadata) :
    Except CopyErrorCode Metadata :=
  let restored := chown regular source.uid source.gid
    { destination with
      attributes := copyExtendedAttributes source.attributes destination.attributes
      mode := source.mode }
  if restored.mode ≠ source.mode ∨ restored.uid ≠ source.uid ∨ restored.gid ≠ source.gid then
    .error .verificationFailed
  else .ok restored

/-- The loop of `copy_regular_file`; `write` is called until a buffer is written. -/
def copyContent (content written : Content) : Content :=
  if content = [] then written
  else copyContent (content.drop (64 * 1024)) (written ++ content.take (64 * 1024))
termination_by content.length
decreasing_by
  have := List.length_pos_of_ne_nil ‹_›
  simp only [List.length_drop]
  omega

/-- `copy_regular_file`. -/
def copyRegularFile (inherited : Attributes) (source : Metadata) (content : Content) :
    Except CopyErrorCode (Metadata × Content) := do
  let metadata ← preserveMetadata true source (created 0o600 inherited)
  if copyContent content [] ≠ content then .error .verificationFailed
  else .ok (metadata, copyContent content [])

section copy

variable (inheritance : Inheritance)

/-- `copy_entry`, for the entries of a directory.  They are made in a directory that does not yet
have the attributes of its source. -/
def copyEntries (parent : Attributes) : Entries → Except CopyErrorCode Entries
  | .nil => .ok .nil
  | .file name metadata content rest => do
    let (copied, written) ← copyRegularFile (inheritance.file parent) metadata content
    .ok (.file name copied written (← copyEntries parent rest))
  | .directory name metadata children rest => do
    let entries ← copyEntries (inheritance.directory parent) children
    let copied ← preserveMetadata false metadata (created 0o755 (inheritance.directory parent))
    .ok (.directory name copied entries (← copyEntries parent rest))
  | .rejected _ code _ => .error code

/-- `copy_and_verify`; `place` are the attributes of the root that was made for a directory, and of
the directory that a file is restored to. -/
def copyAndVerify (place : Attributes) : Source → Except CopyErrorCode Source
  | .file metadata content => do
    let (copied, written) ← copyRegularFile (inheritance.file place) metadata content
    .ok (.file copied written)
  | .directory metadata children => do
    let entries ← copyEntries inheritance place children
    .ok (.directory (← preserveMetadata false metadata (created 0o755 place)) entries)

end copy

/-! ### What is preserved -/

/-- What `chown` clears is not there. -/
def Metadata.Plain (metadata : Metadata) : Prop :=
  metadata.mode.setUserId = false ∧ metadata.mode.setGroupId = false ∧
    metadata.attributes.find? "security.capability" = none

/-- What is inherited is replaced. -/
def Metadata.Replaces (metadata : Metadata) (inherited : Attributes) : Prop :=
  ∀ entry ∈ inherited, metadata.attributes.find? entry.1 ≠ none

section plain

variable (inheritance : Inheritance)

/-- There are only regular files and directories on the device, the files are plain, and each
entry has the attributes that its copy inherits. -/
def Entries.Plain (parent : Attributes) : Entries → Prop
  | .nil => True
  | .file _ metadata _ rest =>
    metadata.Plain ∧ metadata.Replaces (inheritance.file parent) ∧ rest.Plain parent
  | .directory _ metadata children rest =>
    metadata.Replaces (inheritance.directory parent) ∧
      children.Plain (inheritance.directory parent) ∧ rest.Plain parent
  | .rejected .. => False

def Source.Plain (place : Attributes) : Source → Prop
  | .file metadata _ => metadata.Plain ∧ metadata.Replaces (inheritance.file place)
  | .directory metadata children => metadata.Replaces place ∧ children.Plain inheritance place

end plain

theorem copyContent_eq (content written : Content) :
    copyContent content written = written ++ content := by
  induction content, written using copyContent.induct with
  | case1 written =>
    rw [copyContent, if_pos rfl, List.append_nil]
  | case2 content written hne ih =>
    rw [copyContent, if_neg hne, ih, List.append_assoc, List.take_append_drop]

/-- Every attribute arrives, and what has another name stays. -/
theorem items_copyExtendedAttributes (src dst : Attributes) :
    (copyExtendedAttributes src dst).items =
      src.items ++ dst.items.filter fun entry => entry.1 ∉ src.items.map Prod.fst := by
  obtain ⟨items, hdist⟩ := src
  induction items with
  | nil => simp [copyExtendedAttributes]
  | cons entry rest ih =>
    obtain ⟨hfresh, hrest⟩ := List.nodup_cons.mp hdist
    have hself : rest.filter (fun other => decide (other.1 ≠ entry.1)) = rest :=
      List.filter_eq_self.mpr fun other hother =>
        decide_eq_true fun hname => hfresh (List.mem_map.mpr ⟨other, hother, hname⟩)
    have hremoved : ((copyExtendedAttributes ⟨rest, hrest⟩ dst).remove entry.1).items = rest ++
        dst.items.filter fun other => other.1 ∉ (entry :: rest).map Prod.fst := by
      show List.filter _ (copyExtendedAttributes ⟨rest, hrest⟩ dst).items = _
      rw [ih hrest, List.filter_append, hself, List.filter_filter]
      simp only [List.map_cons, List.mem_cons, not_or, Bool.decide_and]
    exact (Store.items_add Store.find?_remove_self).trans (congrArg (entry :: ·) hremoved)

theorem copyExtendedAttributes_eq_iff {src : Metadata} {inherited : Attributes} :
    copyExtendedAttributes src.attributes inherited = src.attributes ↔ src.Replaces inherited := by
  have hitems := items_copyExtendedAttributes src.attributes inherited
  constructor
  · intro h entry hentry hnone
    rw [h, List.self_eq_append_right, List.filter_eq_nil_iff] at hitems
    refine hitems entry hentry (decide_eq_true fun hmem => ?_)
    obtain ⟨other, hother, hname⟩ := List.mem_map.mp hmem
    exact Store.find?_eq_none.mp hnone other hother hname
  · intro h
    refine Store.ext_items (hitems.trans (List.append_right_eq_self.mpr
      (List.filter_eq_nil_iff.mpr fun entry hentry => ?_)))
    obtain ⟨other, hother⟩ := Option.ne_none_iff_exists'.mp (h entry hentry)
    obtain ⟨hmem, hname⟩ := Store.find?_eq_some.mp hother
    simpa using ⟨other.2, hname ▸ hmem⟩

theorem preserveMetadata_directory {src : Metadata} {permissions : BitVec 9}
    {inherited : Attributes} :
    preserveMetadata false src (created permissions inherited) = .ok src ↔
      src.Replaces inherited := by
  rw [← copyExtendedAttributes_eq_iff]
  obtain ⟨_, uid, gid, attributes⟩ := src
  simp [preserveMetadata, created, chown]

/-- The metadata of a file arrives if nothing is cleared and all that is inherited is replaced. -/
theorem preserveMetadata_file {src : Metadata} {permissions : BitVec 9} {inherited : Attributes}
    (hinherited : inherited.find? "security.capability" = none) :
    preserveMetadata true src (created permissions inherited) = .ok src ↔
      src.Plain ∧ src.Replaces inherited := by
  rw [← copyExtendedAttributes_eq_iff]
  obtain ⟨⟨setUserId, setGroupId, sticky, _⟩, uid, gid, attributes⟩ := src
  have hkept : attributes.find? "security.capability" = none →
      (copyExtendedAttributes attributes inherited).remove "security.capability" =
        copyExtendedAttributes attributes inherited := by
    intro hnone
    refine Store.remove_of_find?_eq_none (Store.find?_eq_none.mpr fun entry hentry => ?_)
    rw [Store.mem_def, items_copyExtendedAttributes, List.mem_append] at hentry
    rcases hentry with hsource | hrest
    · exact Store.find?_eq_none.mp hnone entry hsource
    · exact Store.find?_eq_none.mp hinherited entry (List.mem_of_mem_filter hrest)
  have hremove : (copyExtendedAttributes attributes inherited).remove "security.capability" =
      attributes ↔ attributes.find? "security.capability" = none ∧
        copyExtendedAttributes attributes inherited = attributes := by
    constructor
    · intro h
      have hnone : attributes.find? "security.capability" = none := h ▸ Store.find?_remove_self
      exact ⟨hnone, (hkept hnone).symm.trans h⟩
    · exact fun h => (hkept h.1).trans h.2
  cases setUserId <;> cases setGroupId <;>
    simp [preserveMetadata, created, chown, Metadata.Plain, hremove]

theorem copyRegularFile_eq_ok {inherited : Attributes} (src : Metadata) (content : Content)
    (hinherited : inherited.find? "security.capability" = none) :
    copyRegularFile inherited src content = .ok (src, content) ↔
      src.Plain ∧ src.Replaces inherited := by
  simp [copyRegularFile, copyContent_eq, bind_eq_ok, preserveMetadata_file hinherited]

theorem copyEntries_eq_ok (inheritance : Inheritance) (parent : Attributes) (entries : Entries) :
    copyEntries inheritance parent entries = .ok entries ↔ entries.Plain inheritance parent := by
  induction entries generalizing parent with
  | nil => simp [copyEntries, Entries.Plain]
  | file name metadata content rest ih =>
    rw [Entries.Plain, ← and_assoc, ← ih,
      ← copyRegularFile_eq_ok metadata content (inheritance.no_capability parent)]
    simp [copyEntries, bind_eq_ok]
  | directory name metadata children rest ihc ih =>
    rw [Entries.Plain, ← ihc, ← ih]
    simp [copyEntries, bind_eq_ok, preserveMetadata_directory, and_left_comm]
  | rejected name code rest => simp [copyEntries, Entries.Plain]

/-- **The copy of a tree** succeeds and is equal to its source if and only if the source is made of
regular files and directories, no file has a set-id bit or a capability, and each entry has the
attributes that its copy inherits. -/
theorem copyAndVerify_eq_iff (inheritance : Inheritance) (place : Attributes) (source : Source) :
    copyAndVerify inheritance place source = .ok source ↔ source.Plain inheritance place := by
  cases source with
  | file metadata content =>
    rw [Source.Plain, ← copyRegularFile_eq_ok metadata content (inheritance.no_capability place)]
    simp [copyAndVerify, bind_eq_ok]
  | directory metadata children =>
    simp [copyAndVerify, bind_eq_ok, preserveMetadata_directory, copyEntries_eq_ok, Source.Plain,
      and_comm]

namespace Sample

/-- A program of mode 0755, of the user and the group 1000. -/
def program (setUserId : Bool) (attributes : Attributes) : Metadata :=
  ⟨⟨setUserId, false, false, 0o755⟩, 1000, 1000, attributes⟩

def single (name : String) : Attributes := ⟨[(name, [1])], List.nodup_singleton _⟩

/-- Compression is inherited. -/
def compression : Inheritance where
  file parent := parent.filter (·.1 = "btrfs.compression")
  directory parent := parent.filter (·.1 = "btrfs.compression")
  no_capability parent := Store.find?_eq_none.mpr fun entry hentry hname => by
    simpa [hname] using (Store.mem_filter.mp hentry).2

/-- A program that sets the user id is not copied, one with a capability loses it, and one that is
restored to a compressed directory gets an attribute. -/
theorem privileges_not_restored :
    copyAndVerify compression .empty (.file (program true .empty) []) = .error .verificationFailed ∧
    copyAndVerify compression .empty (.file (program false (single "security.capability")) []) =
      .ok (.file (program false .empty) []) ∧
    copyAndVerify compression (single "btrfs.compression") (.file (program false .empty) []) =
      .ok (.file (program false (single "btrfs.compression")) []) := by
  simp only [copyAndVerify, copyRegularFile, copyContent_eq]
  exact ⟨rfl, rfl, rfl⟩

end Sample

end RestoreCopy

end BtrfsBackup
