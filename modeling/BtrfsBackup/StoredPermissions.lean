/-
The stored permissions of a browsed object (`daemon/control/StoredPermissionEvaluator`).

The manager reads as root, so it decides itself what the permissions stored with an object
allow a caller.

* `requireAccess` — the evaluator: one pass over the entries of the ACL;
* `posixGrants` — the access check of POSIX.1e, which asks for a single group entry;
* `requireAccess_posix_iff` — the two agree unless several group entries cover the request
  together and none does alone.
-/
import BtrfsBackup.BrowseSessions

namespace BtrfsBackup.StoredPermissions

open List

open BrowseService (BrowseAccessIdentity)

/-- Read, write and execute, as in `rwx`. -/
abbrev Permissions := BitVec 3

/-- `(permissions & required) == required`. -/
def Permissions.grant (permissions required : Permissions) : Bool :=
  permissions &&& required == required

/-- The tag of an ACL entry, with its qualifier. -/
inductive AclTag where
  | userObj
  | user (uid : Nat)
  | groupObj
  | group (gid : Nat)
  | mask
  | other
  deriving DecidableEq

abbrev Acl := List (AclTag × Permissions)

/-- What the descriptor gives: `fstat`, and `acl_get_fd`, which the file system may not
support. -/
structure Stored where
  uid : Nat
  gid : Nat
  mode : BitVec 12
  acl : Option Acl

variable (stored : Stored) (identity : BrowseAccessIdentity) (required : Permissions) (acl : Acl)

/-! ### The evaluator -/

/-- `mode_permissions`. -/
def modePermissions : Permissions :=
  if stored.uid = identity.uid then (stored.mode >>> 6).setWidth 3
  else if stored.gid ∈ identity.groups then (stored.mode >>> 3).setWidth 3
  else stored.mode.setWidth 3

/-- The variables of the loop of `effective_permissions`. -/
structure Found where
  owner : Option Permissions := none
  namedUser : Option Permissions := none
  matchingGroups : Permissions := 0
  groupMatched : Bool := false
  other : Permissions := 0
  mask : Permissions := 7

/-- A group entry that concerns the caller. -/
def groupMatches : AclTag → Bool
  | .groupObj => stored.gid ∈ identity.groups
  | .group gid => gid ∈ identity.groups
  | _ => false

/-- The body of the loop. -/
def readEntry (found : Found) (entry : AclTag × Permissions) : Found :=
  match entry.1 with
  | .userObj => { found with owner := entry.2 }
  | .user uid => if uid = identity.uid then { found with namedUser := entry.2 } else found
  | .groupObj | .group _ =>
    if groupMatches stored identity entry.1 then
      { found with matchingGroups := found.matchingGroups ||| entry.2, groupMatched := true }
    else found
  | .mask => { found with mask := entry.2 }
  | .other => { found with other := entry.2 }

/-- `effective_permissions`. -/
def effectivePermissions : Permissions :=
  match stored.acl with
  | none => modePermissions stored identity
  | some acl =>
    let found := acl.foldl (readEntry stored identity) {}
    if stored.uid = identity.uid then found.owner.getD (modePermissions stored identity)
    else match found.namedUser with
      | some named => named &&& found.mask
      | none => if found.groupMatched then found.matchingGroups &&& found.mask else found.other

/-- `StoredPermissionEvaluator::require_access`, where `fstat` and the calls on the ACL
succeed. -/
def requireAccess (identity : Option BrowseAccessIdentity) (operation : String) :
    Except ManagerFailure Unit :=
  match identity with
  | none => .ok ()
  | some identity =>
    if identity.uid = 0 then .ok ()
    else if (effectivePermissions stored identity).grant required then .ok ()
    else .error (.operation .notAuthorized operation)

/-! ### The access check of POSIX.1e -/

/-- An ACL that `acl_valid` accepts. -/
structure Acl.Valid : Prop where
  nodup : (acl.map (·.1)).Nodup
  required : ∀ tag ∈ [AclTag.userObj, .groupObj, .other], tag ∈ acl.map (·.1)
  masked : (∃ id, .user id ∈ acl.map (·.1) ∨ .group id ∈ acl.map (·.1)) → .mask ∈ acl.map (·.1)

/-- The permissions with a tag.  A valid ACL has one entry of a tag at most; of an invalid
one, this is the last. -/
def Acl.entry (tag : AclTag) : Option Permissions :=
  (acl.filter fun entry => entry.1 = tag).getLast?.map (·.2)

def Acl.mask : Permissions := (acl.entry .mask).getD 7

/-- The permissions of the group entries that concern the caller. -/
def matching : List Permissions :=
  (acl.filter fun entry => groupMatches stored identity entry.1).map (·.2)

/-- The access check: the first class of entries that applies decides, and among the
group entries a single one has to grant the request. -/
def posixGrants : Bool :=
  if stored.uid = identity.uid then (acl.entry .userObj).any (·.grant required)
  else match acl.entry (.user identity.uid) with
    | some named => (named &&& acl.mask).grant required
    | none =>
      if matching stored identity acl = [] then (acl.entry .other).any (·.grant required)
      else (matching stored identity acl).any fun group => (group &&& acl.mask).grant required

/-- Several group entries cover the request together and none does alone. -/
def OnlyTogether : Prop :=
  stored.uid ≠ identity.uid ∧ acl.entry (.user identity.uid) = none ∧
    matching stored identity acl ≠ [] ∧ acl.mask.grant required ∧
    ((matching stored identity acl).foldl (· ||| ·) 0).grant required ∧
    ¬ ∃ group ∈ matching stored identity acl, group.grant required

/-! ### Their difference -/

theorem entry_concat (tag last : AclTag) (permissions : Permissions) :
    Acl.entry (acl ++ [(last, permissions)]) tag =
      if last = tag then some permissions else acl.entry tag := by
  by_cases h : last = tag <;> simp [Acl.entry, filter_append, h]

theorem matching_concat (tag : AclTag) (permissions : Permissions) :
    matching stored identity (acl ++ [(tag, permissions)]) = matching stored identity acl ++
      if groupMatches stored identity tag then [permissions] else [] := by
  by_cases h : groupMatches stored identity tag <;> simp [matching, filter_append, h]

/-- What the loop has found at its end. -/
theorem foldl_readEntry : acl.foldl (readEntry stored identity) {} =
    { owner := acl.entry .userObj
      namedUser := acl.entry (.user identity.uid)
      matchingGroups := (matching stored identity acl).foldl (· ||| ·) 0
      groupMatched := matching stored identity acl ≠ []
      other := (acl.entry .other).getD 0
      mask := acl.mask } := by
  -- from the last entry, since a later entry overwrites an earlier one
  induction acl using List.reverseRecOn with
  | nil => rfl
  | append_singleton acl entry ih =>
    obtain ⟨tag, permissions⟩ := entry
    rw [List.foldl_append, ih, foldl_cons, foldl_nil]
    simp only [Acl.mask, entry_concat, matching_concat]
    cases tag with
    | user uid => by_cases huid : uid = identity.uid <;> simp [readEntry, groupMatches, huid]
    | groupObj =>
      by_cases hgid : stored.gid ∈ identity.groups <;> simp [readEntry, groupMatches, hgid]
    | group gid => by_cases hgid : gid ∈ identity.groups <;> simp [readEntry, groupMatches, hgid]
    | _ => simp [readEntry, groupMatches]

theorem grant_and (a b required : Permissions) :
    (a &&& b).grant required = (a.grant required && b.grant required) := by
  revert a b required
  decide

theorem grant_or (a b required : Permissions) (h : a.grant required ∨ b.grant required) :
    (a ||| b).grant required := by
  revert a b required
  decide

/-- The union grants what one of its members grants. -/
theorem foldl_or_grant (groups : List Permissions) (base required : Permissions)
    (h : base.grant required ∨ ∃ group ∈ groups, group.grant required) :
    (groups.foldl (· ||| ·) base).grant required := by
  induction groups generalizing base with
  | nil => simpa using h
  | cons group rest ih =>
    rw [exists_mem_cons_iff, ← or_assoc] at h
    exact ih _ (h.imp_left (grant_or base group required))

variable {stored identity required acl}

theorem Acl.Valid.exists_entry (h : acl.Valid) (tag : AclTag)
    (htag : tag ∈ [AclTag.userObj, .groupObj, .other]) :
    ∃ permissions, acl.entry tag = some permissions := by
  obtain ⟨entry, hentry, rfl⟩ := mem_map.mp (h.required tag htag)
  have hne : (acl.filter fun other => other.1 = entry.1) ≠ [] :=
    ne_nil_of_mem (mem_filter.mpr ⟨hentry, decide_eq_true rfl⟩)
  rw [Acl.entry, getLast?_eq_some_getLast hne]
  exact ⟨_, rfl⟩

/-- The evaluator grants what the access check grants and what `OnlyTogether` describes. -/
theorem effectivePermissions_grant_iff (hacl : stored.acl = some acl) (hvalid : acl.Valid) :
    (effectivePermissions stored identity).grant required ↔
      posixGrants stored identity required acl ∨ OnlyTogether stored identity required acl := by
  obtain ⟨owner, howner⟩ := hvalid.exists_entry .userObj (by simp)
  obtain ⟨other, hother⟩ := hvalid.exists_entry .other (by simp)
  simp only [effectivePermissions, hacl, foldl_readEntry, posixGrants, OnlyTogether]
  by_cases huid : stored.uid = identity.uid
  · simp [huid, howner]
  cases hnamed : acl.entry (.user identity.uid) with
  | some named => simp [huid]
  | none =>
    by_cases hnone : matching stored identity acl = []
    · simp [huid, hnone, hother]
    have hunion := fun h => foldl_or_grant (matching stored identity acl) 0 required (.inr h)
    simp only [huid, hnone, grant_and, any_eq_true, Bool.and_eq_true, ← and_assoc,
      exists_and_right, if_false, ne_eq, not_false_iff, decide_true, if_true]
    by_cases hsingle : ∃ group ∈ matching stored identity acl, group.grant required
    · simp only [hsingle, hunion hsingle, not_true, and_false, or_false]
    · simp only [hsingle, false_and, false_or, not_false_iff, and_true, true_and, and_comm]

/-- The evaluator accepts exactly what the access check of POSIX.1e grants, unless several
group entries cover the request together and none does alone. -/
theorem requireAccess_posix_iff (stored : Stored) (acl : Acl) (identity : BrowseAccessIdentity)
    (required : Permissions) (operation : String) (hacl : stored.acl = some acl)
    (hvalid : acl.Valid) (huid : identity.uid ≠ 0) :
    (requireAccess stored required identity operation = .ok () ↔
        posixGrants stored identity required acl) ↔
      ¬ OnlyTogether stored identity required acl := by
  have haccess : requireAccess stored required identity operation = .ok () ↔
      (effectivePermissions stored identity).grant required := by
    simp [requireAccess, huid]
  have hapart : OnlyTogether stored identity required acl →
      ¬ posixGrants stored identity required acl := by
    rintro ⟨hother, hnamed, hsome, -, -, hnone⟩
    simp only [posixGrants, hother, hnamed, hsome, grant_and, if_false, any_eq_true]
    rintro ⟨group, hgroup, hgrant⟩
    exact hnone ⟨group, hgroup, (Bool.and_eq_true _ _ ▸ hgrant).1⟩
  rw [haccess, effectivePermissions_grant_iff hacl hvalid]
  tauto

/-- A directory of two groups: one may list it, the other may enter it. -/
def sharedDirectory : Stored :=
  ⟨1000, 10, 0o750, some [(.userObj, 7), (.groupObj, 4), (.group 20, 1), (.mask, 7), (.other, 0)]⟩

theorem sharedDirectory_valid : ∀ acl ∈ sharedDirectory.acl, acl.Valid := by
  rintro _ ⟨⟩
  constructor <;> simp

/-- A member of one of the groups is treated as POSIX.1e says. -/
theorem requireAccess_one_group : ∃ acl, sharedDirectory.acl = some acl ∧
      (requireAccess sharedDirectory 4 (some ⟨1001, [10]⟩) "" = .ok () ↔
        posixGrants sharedDirectory ⟨1001, [10]⟩ 4 acl) := by
  refine ⟨_, rfl, (requireAccess_posix_iff _ _ ⟨1001, [10]⟩ _ _ rfl
    (sharedDirectory_valid _ rfl) (by decide)).mpr ?_⟩
  rintro ⟨-, -, -, -, -, hnone⟩
  exact hnone ⟨4, by decide, by decide⟩

/-- A member of both groups may list and enter it, which POSIX.1e denies. -/
theorem requireAccess_both_groups : ∃ acl, sharedDirectory.acl = some acl ∧ acl.Valid ∧
      requireAccess sharedDirectory 5 (some ⟨1001, [10, 20]⟩) "" = .ok () ∧
      posixGrants sharedDirectory ⟨1001, [10, 20]⟩ 5 acl = false :=
  ⟨_, rfl, sharedDirectory_valid _ rfl, by decide, by decide⟩

end BtrfsBackup.StoredPermissions
