/-
What a rolled back configuration transaction leaves behind.

After a rollback each destination holds what it held before the transaction, or
the rollback is reported as incomplete and the old content is still at the
destination or at the path it was set aside to.  There is one exception: if
syncing the directory fails after a file was put in place, `publish` moves the
old file back, but keeps the artifact marked as published; the rollback then
takes the old file for the new one and removes it.

* `Stands` — the destination, the set-aside file, the flags and the trail of an
  artifact in a state;
* `Phase` — where publishing an artifact can stop;
* `rollback_keeps_iff` — which transactions lose a file.
-/
import BtrfsBackup.ConfigurationTransaction

open Interaction Interaction.Prog Function

namespace BtrfsBackup

open List

namespace Configuration

variable (generation : String) (artifact : ProfileArtifact)

/-- The destination of an artifact holds what it held in `files`, or the rollback
is incomplete and what it held, if anything, is at the destination or set aside. -/
def Kept (files : Files) (result : RollbackResult) (now : Files) : Prop :=
  now artifact.destination = files artifact.destination ∨
    result.complete = false ∧ (files artifact.destination = none ∨
      now artifact.destination = files artifact.destination ∨
      now (previousPath generation artifact) = files artifact.destination)

/-- The new file was put in place, syncing the directory failed, the old file was
moved back, and the rollback removed it. -/
def Loses (trail : List ArtifactEvent) : Prop :=
  [⟨.place, false⟩, ⟨.sync, true⟩, ⟨.undo, false⟩, ⟨.removePublished, false⟩].Sublist trail

instance (trail : List ArtifactEvent) : Decidable (Loses trail) :=
  inferInstanceAs (Decidable (List.Sublist _ _))

/-- Only a removal in the rollback can complete the sequence. -/
theorem loses_append_iff {trail ev}
    (h : ev ≠ ⟨.removePublished, false⟩) : Loses (trail ++ [ev]) ↔ Loses trail := by
  constructor
  · intro hloses
    obtain ⟨front, back, heq, hfront, hback⟩ := sublist_append_iff.mp hloses
    rcases sublist_singleton.mp hback with rfl | rfl
    · rw [append_nil] at heq
      rwa [Loses, heq]
    · have hlast := congrArg List.getLast? heq
      simp only [getLast?_append, getLast?_singleton, Option.some_or] at hlast
      exact absurd (Option.some.inj hlast).symm h
  · exact fun hloses => hloses.trans (sublist_append_left _ _)

/-! ### One artifact and the others -/

/-- The files of two artifacts are different. -/
def Apart (other : ProfileArtifact) : Prop :=
  (artifactPaths generation artifact).Disjoint (artifactPaths generation other)

/-- The files of one artifact are different. -/
structure Distinct : Prop where
  staged : artifact.destination ≠ stagedPath generation artifact
  previous : artifact.destination ≠ previousPath generation artifact
  transaction : stagedPath generation artifact ≠ previousPath generation artifact

theorem Transaction.distinct (tx : Transaction) {a}
    (h : a ∈ tx.artifacts) : Distinct tx.generation a := by
  have hnodup := (nodup_flatMap.mp tx.separate).1 a h
  simp only [artifactPaths, nodup_cons, mem_cons, not_mem_nil, or_false, not_or]
    at hnodup
  exact ⟨hnodup.1.1, hnodup.1.2, hnodup.2.1⟩

theorem Transaction.apart (tx : Transaction) {a other} (h : a ∈ tx.artifacts)
    (hother : other ∈ tx.artifacts) (hne : a ≠ other) : Apart tx.generation a other := by
  have hsymm : Std.Symm (onFun List.Disjoint (artifactPaths tx.generation)) :=
    ⟨fun _ _ hdisjoint _ hb ha => hdisjoint ha hb⟩
  exact (nodup_flatMap.mp tx.separate).2.forall h hother hne

theorem Transaction.nodup (tx : Transaction) : tx.artifacts.Nodup := by
  refine (nodup_flatMap.mp tx.separate).2.imp fun {a other} h heq => ?_
  subst heq
  exact h mem_cons_self mem_cons_self

/-- Nothing of an artifact that matters is different. -/
structure SameFor (s t : ConfigurationState) : Prop where
  destination : t.files artifact.destination = s.files artifact.destination
  previous : t.files (previousPath generation artifact) = s.files (previousPath generation artifact)
  flags : t.flags artifact.destination = s.flags artifact.destination
  trail : t.trail artifact.destination = s.trail artifact.destination

section other

variable {gen : String} {a other : ProfileArtifact}
  {A : ConfigurationCall → ConfigurationAnswer → Prop} {I : ConfigurationState → Prop}

theorem mem_artifactPaths (gen : String) (a : ProfileArtifact) :
    a.destination ∈ artifactPaths gen a ∧ stagedPath gen a ∈ artifactPaths gen a ∧
      previousPath gen a ∈ artifactPaths gen a := by
  simp [artifactPaths]

theorem Apart.destination_ne (h : Apart gen a other) :
    a.destination ≠ other.destination := fun heq =>
  h mem_cons_self (heq ▸ mem_cons_self)

/-- A change of another artifact's files. -/
theorem sameFor_after (h : Apart gen a other) {s ev} {files : Files}
    (hfiles : ∀ path, path ∉ artifactPaths gen other → files path = s.files path) :
    SameFor gen a s (s.after other ev files) where
  destination := hfiles _ fun hmem => h mem_cons_self hmem
  previous := hfiles _ fun hmem => h (by simp [artifactPaths]) hmem
  flags := rfl
  trail := update_of_ne h.destination_ne _ _

variable (h : Apart gen a other)
  (hI : ∀ s t, SameFor gen a s t → I s → I t)

include h hI

variable {step : ArtifactStep}

theorem keeps_fileStep {fault change} (hchange : ∀ files path, path ∉ artifactPaths gen other →
      change files path = files path) : Keeps A I (fileStep other step fault change) := by
  refine keeps_effect (fun answer s hs => ?_) fun answer s => keeps_ret
  split
  · exact hI s _ (sameFor_after h fun _ _ => rfl) hs
  · exact hI s _ (sameFor_after h (hchange s.files)) hs

theorem keeps_renameFile {src target : FsPath} (hsrc : src ∈ artifactPaths gen other)
    (htgt : target ∈ artifactPaths gen other) : Keeps A I (renameFile other step src target) := by
  refine keeps_fileStep h hI fun files path hpath => ?_
  rw [update_of_ne (ne_of_mem_of_not_mem hsrc hpath).symm,
    update_of_ne (ne_of_mem_of_not_mem htgt hpath).symm]

theorem keeps_removeFile {path : FsPath}
    (hpath : path ∈ artifactPaths gen other) : Keeps A I (removeFile other step path) :=
  keeps_fileStep h hI fun _ _ hother =>
    update_of_ne (ne_of_mem_of_not_mem hpath hother).symm _ _

theorem keeps_touch : Keeps A I (touch other step) :=
  keeps_fileStep h hI fun _ _ _ => rfl

theorem keeps_assign {change} : Keeps A I (assign other change) :=
  keeps_note (fun s hs => hI s _ ⟨rfl, rfl, update_of_ne h.destination_ne _ _, rfl⟩ hs)
    keeps_ret

omit h hI in
theorem keeps_checked {error message} : Keeps A I (checked error message) := by
  cases error with
  | none => exact keeps_ret
  | some text => exact keeps_fail

theorem keeps_validateDestination : Keeps A I (validateDestination other) := by
  refine keeps_effect (fun answer s hs => hI s _ (sameFor_after h fun _ _ => rfl) hs) ?_
  intro answer s
  split
  · exact keeps_fail
  · exact keeps_ite keeps_fail keeps_ret

theorem keeps_publish : Keeps A I (publish gen other) := by
  obtain ⟨hdest, hstaged, hprev⟩ := mem_artifactPaths gen other
  have hsync : Keeps A I (syncChecked other) :=
    (keeps_touch h hI).bind fun _ => keeps_checked
  have hremoved : ∀ hadPrevious, Keeps A I (leaveRemoved other hadPrevious) := fun _ =>
    (keeps_assign h hI).bind fun _ => keeps_ite hsync keeps_ret
  have hplaced : ∀ hadPrevious, Keeps A I (placeStaged gen other hadPrevious) := fun _ =>
    (((keeps_renameFile h hI hstaged hdest).bind fun _ => keeps_checked).bind fun _ =>
      (keeps_assign h hI).bind fun _ => hsync).handleError fun _ =>
        (keeps_ite (keeps_renameFile h hI hprev hdest) keeps_ret).bind fun _ =>
          keeps_fail
  have hover : ∀ hadPrevious, Keeps A I (publishOver gen other hadPrevious) := by
    intro hadPrevious
    refine Keeps.bind (keeps_ite ?_ keeps_ret) fun _ => ?_
    · exact (keeps_renameFile h hI hdest hprev).bind fun _ => keeps_checked
    · exact keeps_ite (hremoved hadPrevious) (hplaced hadPrevious)
  refine (keeps_validateDestination h hI).bind fun _ => ?_
  refine (keeps_touch h hI).bind fun error => keeps_look fun s => ?_
  exact (keeps_assign h hI).bind fun _ => keeps_checked.bind fun _ => hover _

theorem keeps_rollbackArtifact {res} : Keeps A I (rollbackArtifact gen other res) := by
  obtain ⟨hdest, hstaged, hprev⟩ := mem_artifactPaths gen other
  refine Keeps.bind (keeps_look fun s => keeps_ite ?_ keeps_ret) fun res => ?_
  · exact (keeps_removeFile h hI hdest).bind fun _ => keeps_ret
  refine Keeps.bind (keeps_look fun s => keeps_ite ?_ keeps_ret) fun outcome => ?_
  · exact (keeps_renameFile h hI hprev hdest).bind fun _ => keeps_ret
  refine (keeps_touch h hI).bind fun error => ?_
  refine (keeps_removeFile h hI hstaged).bind fun error => keeps_look fun s => ?_
  exact keeps_ite ((keeps_removeFile h hI hprev).bind fun _ => keeps_ret) keeps_ret

end other

/-! ### The files of one artifact -/

/-- Where an artifact stands: what its destination holds, what is set aside, its
flags and its trail. -/
structure Stands (destination previous : Option String) (flags : ArtifactFlags)
    (trail : List ArtifactEvent) (s : ConfigurationState) : Prop where
  destination : s.files artifact.destination = destination
  previous : s.files (previousPath generation artifact) = previous
  flags : s.flags artifact.destination = flags
  trail : s.trail artifact.destination = trail

section own

variable {gen content : String} {a : ProfileArtifact} {dest previous : Option String}
  {flags : ArtifactFlags} {trail : List ArtifactEvent} {s : ConfigurationState} {ev : ArtifactEvent}
  {restored : Bool} {files : Files} {target src : FsPath}

theorem after_files : (s.after a ev files).files = files := rfl

section

variable (h : Stands gen a dest previous flags trail s)
include h

theorem Stands.of_sameFor {t}
    (hsame : SameFor gen a s t) : Stands gen a dest previous flags trail t :=
  ⟨hsame.destination.trans h.destination, hsame.previous.trans h.previous,
    hsame.flags.trans h.flags, hsame.trail.trans h.trail⟩

theorem Stands.nextTrail : (s.after a ev files).trail a.destination = trail ++ [ev] := by
  rw [← h.trail]
  exact update_self ..

/-- An operation that changes no file, or fails. -/
theorem Stands.unchanged :
    Stands gen a dest previous flags (trail ++ [ev]) (s.after a ev s.files) :=
  ⟨h.destination, h.previous, h.flags, h.nextTrail⟩

end

section moves

variable (hdist : Distinct gen a)
  (h : Stands gen a dest previous flags trail s)

include hdist h

theorem Stands.setAside : Stands gen a none dest flags (trail ++ [ev])
      (s.after a ev (update (update s.files (previousPath gen a) (s.files a.destination))
        a.destination none)) := by
  refine ⟨update_self .., ?_, h.flags, h.nextTrail⟩
  rw [after_files, update_of_ne hdist.previous.symm, update_self, h.destination]

theorem Stands.place : Stands gen a (s.files (stagedPath gen a)) previous flags (trail ++ [ev])
      (s.after a ev (update (update s.files a.destination (s.files (stagedPath gen a)))
        (stagedPath gen a) none)) := by
  refine ⟨?_, ?_, h.flags, h.nextTrail⟩
  · rw [after_files, update_of_ne hdist.staged, update_self]
  · rw [after_files, update_of_ne hdist.transaction.symm,
      update_of_ne hdist.previous.symm, h.previous]

/-- The old file moved back. -/
theorem Stands.moveBack : Stands gen a previous none flags (trail ++ [ev])
      (s.after a ev (update (update s.files a.destination (s.files (previousPath gen a)))
        (previousPath gen a) none)) := by
  refine ⟨?_, update_self .., h.flags, h.nextTrail⟩
  rw [after_files, update_of_ne hdist.previous, update_self, h.previous]

theorem Stands.removeDestination : Stands gen a none previous flags (trail ++ [ev])
      (s.after a ev (update s.files a.destination none)) := by
  refine ⟨update_self .., ?_, h.flags, h.nextTrail⟩
  rw [after_files, update_of_ne hdist.previous.symm, h.previous]

theorem Stands.removeStaged : Stands gen a dest previous flags (trail ++ [ev])
      (s.after a ev (update s.files (stagedPath gen a) none)) := by
  refine ⟨?_, ?_, h.flags, h.nextTrail⟩
  · rw [after_files, update_of_ne hdist.staged, h.destination]
  · rw [after_files, update_of_ne hdist.transaction.symm, h.previous]

theorem Stands.removePrevious : Stands gen a dest none flags (trail ++ [ev])
      (s.after a ev (update s.files (previousPath gen a) none)) := by
  refine ⟨?_, update_self .., h.flags, h.nextTrail⟩
  rw [after_files, update_of_ne hdist.previous, h.destination]

end moves

theorem Stands.assign (h : Stands gen a dest previous flags trail s)
    (change : ArtifactFlags → ArtifactFlags) :
    Stands gen a dest previous (change flags) trail (s.flagged a change) := by
  refine ⟨h.destination, h.previous, ?_, h.trail⟩
  rw [← h.flags]
  exact update_self ..

variable {A : ConfigurationCall → ConfigurationAnswer → Prop}

/-- However the program ends, it ends in a state with `P`. -/
abbrev Ends (A : ConfigurationCall → ConfigurationAnswer → Prop) (P : ConfigurationState → Prop)
    (program : ConfigurationProg Unit) (s : ConfigurationState) : Prop :=
  wp A (fun _ => True) program (fun _ => P) (fun _ => P) s

variable {E : Thrown → ConfigurationState → Prop} {res : RollbackResult}
  {Q : Unit → ConfigurationState → Prop} {pre : Option String}

theorem wp_fileStep {step fault change Q}
    (hfail : ∀ text, Q (some text) (s.after a ⟨step, true⟩ s.files)) (hdone : fault s.files = none →
      Q none (s.after a ⟨step, false⟩ (change s.files))) :
    wp A (fun _ => True) (fileStep a step fault change) Q E s := by
  refine ⟨trivial, fun answer _ => ?_⟩
  rcases herror : answer.error.or (fault s.files) with _ | text
  · simp only [herror, wp_ret]
    exact hdone (Option.or_eq_none_iff.mp herror).2
  · simp only [herror, wp_ret]
    exact hfail text

/-- A rename: it fails, or there is a file to be moved. -/
theorem wp_renameFile {step} {Q}
    (hfail : ∀ text, Q (some text) (s.after a ⟨step, true⟩ s.files))
    (hdone : s.files src ≠ none → Q none (s.after a ⟨step, false⟩
      (update (update s.files target (s.files src)) src none))) :
    wp A (fun _ => True) (renameFile a step src target) Q E s := by
  refine wp_fileStep hfail fun hfault => hdone fun hnone => ?_
  simp [hnone] at hfault

/-! ### Publishing -/

/-- The old file was not moved back after a new one was put in place. -/
def Unharmed (trail : List ArtifactEvent) : Prop :=
  ¬ (⟨.place, false⟩ ∈ trail ∧ ⟨.undo, false⟩ ∈ trail)

instance (trail : List ArtifactEvent) : Decidable (Unharmed trail) :=
  inferInstanceAs (Decidable (¬ _))

theorem Unharmed.not_loses (h : Unharmed trail) : ¬ Loses trail := fun hloses =>
  h ⟨hloses.subset (by simp), hloses.subset (by simp)⟩

/-- Where publishing an artifact that held `before` can stop. -/
inductive Phase (generation : String) (artifact : ProfileArtifact) (before : Option String)
    (s : ConfigurationState) : Prop
  /-- The destination is as before. -/
  | intact (flags : ArtifactFlags) (trail : List ArtifactEvent)
      (h : Stands generation artifact before none flags trail s)
      (hpublished : flags.published = false) (hunharmed : Unharmed trail)
  /-- The old file is set aside. -/
  | displaced (content : String) (destination : Option String) (flags : ArtifactFlags)
      (trail : List ArtifactEvent) (hbefore : before = some content)
      (h : Stands generation artifact destination (some content) flags trail s)
      (hprevious : flags.hadPrevious = true) (hunharmed : Unharmed trail)
  /-- There was no old file. -/
  | fresh (destination : Option String) (flags : ArtifactFlags) (trail : List ArtifactEvent)
      (hbefore : before = none) (h : Stands generation artifact destination none flags trail s)
      (hprevious : flags.hadPrevious = false)
      (hunpublished : ¬ (flags.published = true ∧ artifact.operation = .write) →
        destination = none) (hunharmed : Unharmed trail)
  /-- The old file was moved back over the new one. -/
  | undone (content : String) (trail : List ArtifactEvent) (hbefore : before = some content)
      (h : Stands generation artifact (some content) none ⟨true, true⟩ trail s)
      (hwrite : artifact.operation = .write)
      (hundone : [⟨.place, false⟩, ⟨.sync, true⟩, ⟨.undo, false⟩].Sublist trail)
      (hkept : ⟨.removePublished, false⟩ ∉ trail)

/-- An artifact that was not published yet. -/
def Initial (generation : String) (artifact : ProfileArtifact) (before : Option String)
    (s : ConfigurationState) : Prop :=
  Stands generation artifact before none ⟨false, false⟩ [] s

theorem Initial.phase (h : Initial gen a pre s) :
    Phase gen a pre s := .intact _ _ h rfl (by decide)

theorem wp_assign {C change} :
    wp A C (assign a change) Q E s ↔ Q () (s.flagged a change) := Iff.rfl

theorem wp_syncChecked (hfail : ∀ e, E e (s.after a ⟨.sync, true⟩ s.files))
    (hdone : Q () (s.after a ⟨.sync, false⟩ s.files)) :
    wp A (fun _ => True) (syncChecked a) Q E s := by
  rw [syncChecked, wp_monadBind]
  exact wp_fileStep (fun text => hfail _) fun _ => hdone

theorem wp_renameChecked {step}
    (hfail : ∀ e, E e (s.after a ⟨step, true⟩ s.files))
    (hdone : s.files src ≠ none → Q () (s.after a ⟨step, false⟩
      (update (update s.files target (s.files src)) src none))) :
    wp A (fun _ => True) (renameChecked a step src target) Q E s := by
  rw [renameChecked, wp_monadBind]
  exact wp_renameFile (fun text => hfail _) hdone

/-- The trail of an artifact whose old file was set aside. -/
def asideTrail : List ArtifactEvent :=
  [⟨.validate, false⟩, ⟨.inspect, false⟩, ⟨.setAside, false⟩]

/-- Publishing a removal of a file that is there. -/
theorem wp_leaveRemoved (h : Stands gen a none (some content) ⟨true, false⟩ asideTrail s) :
    Ends A (Phase gen a (some content)) (leaveRemoved a true) s := by
  rw [Ends, leaveRemoved, wp_monadBind, wp_assign]
  have hflags := h.assign fun flags => { flags with published := true }
  refine wp_syncChecked (fun _ => ?_) ?_
  · exact .displaced content none _ _ rfl hflags.unchanged rfl (by decide)
  · exact .displaced content none _ _ rfl hflags.unchanged rfl (by decide)

variable (hdist : Distinct gen a)

include hdist

/-- The `catch` block of `publish`, with an old file that was set aside. -/
theorem wp_moveBack {e : Thrown} {P} (h : Stands gen a dest previous flags trail s)
    (hfail : ∀ t, Stands gen a dest previous flags (trail ++ [⟨.undo, true⟩]) t → P t)
    (hdone : ∀ t, Stands gen a previous none flags (trail ++ [⟨.undo, false⟩]) t → P t) :
    wp A (fun _ => True) (moveBack gen a true e) Q (fun _ => P) s := by
  rw [moveBack, if_pos rfl, wp_monadBind]
  exact wp_renameFile (fun _ => hfail _ h.unchanged) fun _ => hdone _ (h.moveBack hdist)

/-- Putting a file in place of an old one that was set aside. -/
theorem wp_placeStaged_replacing (hwrite : a.operation = .write)
    (h : Stands gen a none (some content) ⟨true, false⟩ asideTrail s) :
    Ends A (Phase gen a (some content)) (placeStaged gen a true) s := by
  rw [Ends, placeStaged, wp_handleError, wp_monadBind]
  refine wp_renameChecked (fun e => ?_) fun _ => ?_
  · -- the new file is not in place: the old one is moved back, or stays where it is
    refine wp_moveBack hdist h.unchanged (fun t ht => ?_) fun t ht => ?_
    · exact .displaced content none _ _ rfl ht rfl (by decide)
    · exact .intact _ _ ht rfl (by decide)
  · rw [wp_monadBind, wp_assign]
    have hplaced : Stands gen a (s.files (stagedPath gen a))
        (some content) ⟨true, true⟩ (asideTrail ++ [⟨.place, false⟩]) _ :=
      (h.place hdist).assign fun flags => { flags with published := true }
    refine wp_syncChecked (fun e => ?_) ?_
    · -- the new file is in place and marked as published when the old one is moved back
      refine wp_moveBack hdist hplaced.unchanged (fun u hu => ?_) fun u hu => ?_
      · exact .displaced content _ _ _ rfl hu rfl (by decide)
      · exact .undone content _ rfl hu hwrite (by decide) (by decide)
    · exact .displaced content _ _ _ rfl hplaced.unchanged rfl (by decide)

/-- Publishing an artifact that has no old file. -/
theorem wp_placeStaged_fresh (hwrite : a.operation = .write)
    (h : Stands gen a none none ⟨false, false⟩ [⟨.validate, false⟩, ⟨.inspect, false⟩] s) :
    Ends A (Phase gen a none) (placeStaged gen a false) s := by
  rw [Ends, placeStaged, wp_handleError, wp_monadBind]
  refine wp_renameChecked (fun e => ?_) fun _ => ?_
  · exact .fresh none _ _ rfl h.unchanged rfl (fun _ => rfl) (by decide)
  · rw [wp_monadBind, wp_assign]
    have hplaced : Stands gen a (s.files (stagedPath gen a)) none
        ⟨false, true⟩ [⟨.validate, false⟩, ⟨.inspect, false⟩, ⟨.place, false⟩] _ :=
      (h.place hdist).assign fun flags => { flags with published := true }
    refine wp_syncChecked (fun e => ?_) ?_
    · exact .fresh _ _ _ rfl hplaced.unchanged rfl (absurd ⟨rfl, hwrite⟩) (by decide)
    · exact .fresh _ _ _ rfl hplaced.unchanged rfl (absurd ⟨rfl, hwrite⟩) (by decide)

theorem wp_publishOver_fresh (h : Stands gen a none none ⟨false, false⟩
      [⟨.validate, false⟩, ⟨.inspect, false⟩] s) :
    Ends A (Phase gen a none) (publishOver gen a false) s := by
  show wp A _ (if a.operation = .remove then leaveRemoved a false
    else placeStaged gen a false) _ _ s
  cases hop : a.operation with
  | remove =>
    exact .fresh none _ _ rfl (h.assign fun flags => { flags with published := false }) rfl
      (fun _ => rfl) (by decide)
  | write => exact wp_placeStaged_fresh hdist hop h

theorem wp_publishOver_replacing
    (h : Stands gen a (some content) none ⟨true, false⟩ [⟨.validate, false⟩, ⟨.inspect, false⟩] s) :
    Ends A (Phase gen a (some content)) (publishOver gen a true) s := by
  rw [Ends, publishOver, if_pos rfl, wp_monadBind]
  refine wp_renameChecked (fun e => ?_) fun _ => ?_
  · exact .intact _ _ h.unchanged rfl (by decide)
  have haside : Stands gen a none (some content) ⟨true, false⟩ asideTrail _ :=
    h.setAside hdist
  cases hop : a.operation with
  | remove => exact wp_leaveRemoved haside
  | write => exact wp_placeStaged_replacing hdist hop haside

/-- **Publishing an artifact stops in one of the phases**, however it ends. -/
theorem wp_publish (h : Initial gen a pre s) : Ends A (Phase gen a pre) (publish gen a) s := by
  refine wp_seq (R := fun _ => Stands gen a pre none ⟨false, false⟩
    [⟨.validate, false⟩]) ?_ fun _ t ht => ?_
  · refine ⟨trivial, fun answer _ => ?_⟩
    rcases herror : answer.error with _ | text
    · rcases hirregular : answer.irregular with _ | _
      · simpa [herror, hirregular] using h.unchanged
      · simpa [herror, hirregular] using Phase.intact _ _ h.unchanged rfl (by decide)
    · simpa [herror] using Phase.intact _ _ h.unchanged rfl (by decide)
  refine (wp_monadBind _ _).mpr (wp_fileStep (fun text => ?_) ?_)
  · -- the destination cannot be inspected
    have hflags : Stands gen a pre none ⟨false, false⟩
        [⟨.validate, false⟩, ⟨.inspect, true⟩] _ :=
      ht.unchanged.assign fun flags => { flags with hadPrevious := false }
    exact .intact _ _ hflags rfl (by decide)
  intro _
  have hinspected : Stands gen a pre none ⟨false, false⟩
      [⟨.validate, false⟩, ⟨.inspect, false⟩] (t.after a ⟨.inspect, false⟩ t.files) :=
    ht.unchanged
  have hflags : Stands gen a pre none ⟨pre.isSome, false⟩ _ _ :=
    hinspected.assign fun flags => { flags with hadPrevious := pre.isSome }
  have hpresent : (t.files a.destination).isSome = pre.isSome := by
    rw [ht.destination]
  rw [wp_look]
  show wp A _ ((assign a fun flags =>
      { flags with hadPrevious := (t.files a.destination).isSome }).bind fun _ =>
        publishOver gen a (t.files a.destination).isSome) _ _
    (t.after a ⟨.inspect, false⟩ t.files)
  rw [hpresent, wp_bind, wp_assign]
  cases pre with
  | none => exact wp_publishOver_fresh hdist hflags
  | some content => exact wp_publishOver_replacing hdist hflags

omit hdist

/-! ### Rolling back -/

/-- What the rollback of an artifact that held `before` leaves at its destination and
set aside: the old content is accounted for, or it is gone. -/
def Settles (before destination previous : Option String) (complete : Bool) (lost : Prop) : Prop :=
  (¬ lost ∧ (destination = before ∨ complete = false ∧ (before = none ∨ previous = before))) ∨
    (lost ∧ before ≠ none ∧ destination = none ∧ previous = none)

/-- The artifact after its rollback. -/
def Settled (generation : String) (artifact : ProfileArtifact) (before : Option String)
    (result : RollbackResult) (s : ConfigurationState) : Prop :=
  Settles before (s.files artifact.destination) (s.files (previousPath generation artifact))
    result.complete (Loses (s.trail artifact.destination))

theorem recordIf_complete {error} {op : String} {path : FsPath}
    {detail} (h : res.complete = false) : (res.recordIf error op path detail).complete = false := by
  cases error with
  | none => exact h
  | some text => rfl

/-- Nothing is settled less by an incomplete result. -/
theorem Settles.mono {d p} {complete complete' : Bool} {lost : Prop}
    (hcomp : complete = false → complete' = false) (h : Settles pre d p complete lost) :
    Settles pre d p complete' lost := by
  rcases h with ⟨hlost, hkept | ⟨hincomplete, hold⟩⟩ | h
  · exact .inl ⟨hlost, .inl hkept⟩
  · exact .inl ⟨hlost, .inr ⟨hcomp hincomplete, hold⟩⟩
  · exact .inr h

/-- An artifact after the published file was removed. -/
inductive Midway (generation : String) (artifact : ProfileArtifact) (before : Option String)
    (complete : Bool) (s : ConfigurationState) : Prop
  | fresh (destination : Option String) (flags : ArtifactFlags) (trail : List ArtifactEvent)
      (h : Stands generation artifact destination none flags trail s)
      (hprevious : flags.hadPrevious = false) (hkept : ¬ Loses trail)
      (hdestination : destination = before ∨ complete = false ∧ before = none)
  | intact (flags : ArtifactFlags) (trail : List ArtifactEvent)
      (h : Stands generation artifact before none flags trail s)
      (hprevious : flags.hadPrevious = true) (hkept : ¬ Loses trail)
  | displaced (content : String) (destination : Option String) (flags : ArtifactFlags)
      (trail : List ArtifactEvent) (hbefore : before = some content)
      (h : Stands generation artifact destination (some content) flags trail s)
      (hprevious : flags.hadPrevious = true) (hkept : ¬ Loses trail)
  | lost (flags : ArtifactFlags) (trail : List ArtifactEvent) (hbefore : before ≠ none)
      (h : Stands generation artifact none none flags trail s)
      (hprevious : flags.hadPrevious = true) (hlost : Loses trail)

theorem Unharmed.removed {failed : Bool} (h : Unharmed trail) :
    Unharmed (trail ++ [⟨.removePublished, failed⟩]) := by
  simpa [Unharmed] using h

theorem removalResult_complete {error} {present : Bool}
    (h : res.complete = false) : (removalResult a res error present).complete = false := by
  rcases error with _ | text
  · cases present with
    | false => rfl
    | true => exact h
  · rfl

include hdist

/-- The first step of a rollback. -/
theorem wp_removePublishedArtifact (hphase : Phase gen a pre s) : wp A (fun _ => True)
    (removePublishedArtifact a res) (fun r => Midway gen a pre r.complete) E s := by
  rw [removePublishedArtifact, wp_look]
  cases hphase with
  | intact flags trail h hpub hunharmed =>
    rw [if_neg (by simp [h.flags, hpub])]
    rcases hprev : flags.hadPrevious with _ | _
    · exact .fresh pre flags trail h hprev hunharmed.not_loses (.inl rfl)
    · exact .intact flags trail h hprev hunharmed.not_loses
  | displaced content dest flags trail hpre h hprev hunharmed =>
    split_ifs
    · rw [wp_monadBind]
      refine wp_fileStep (fun text => ?_) fun _ => ?_
      · exact .displaced content dest _ _ hpre h.unchanged hprev hunharmed.removed.not_loses
      · exact .displaced content none _ _ hpre (h.removeDestination hdist) hprev
          hunharmed.removed.not_loses
    · exact .displaced content dest flags trail hpre h hprev hunharmed.not_loses
  | fresh dest flags trail hpre h hprev hunpublished hunharmed =>
    split_ifs with hpub
    · rw [wp_monadBind]
      refine wp_fileStep (fun text => ?_) fun _ => ?_
      · exact .fresh dest _ _ h.unchanged hprev hunharmed.removed.not_loses (.inr ⟨rfl, hpre⟩)
      · exact .fresh none _ _ (h.removeDestination hdist) hprev
          hunharmed.removed.not_loses (.inl hpre.symm)
    · have hdest : dest = none := by
        refine hunpublished fun hwritten => hpub ?_
        simp [h.flags, hwritten.1, hwritten.2]
      exact .fresh dest flags trail h hprev hunharmed.not_loses (.inl (hdest.trans hpre.symm))
  | undone content trail hpre h hwrite hundone hkept =>
    rw [if_pos (by simp [h.flags, hwrite]), wp_monadBind]
    refine wp_fileStep (fun text => ?_) fun _ => ?_
    · -- the removal fails: the old file stays at the destination
      have hstays : ¬ Loses (trail ++ [⟨.removePublished, true⟩]) := by
        rw [loses_append_iff (by decide)]
        exact fun hloses => hkept (hloses.subset (by simp))
      exact .intact _ _ (hpre ▸ h.unchanged) rfl hstays
    · -- the old file is taken for the new one
      have hlost : Loses (trail ++ [⟨.removePublished, false⟩]) :=
        hundone.append (List.Sublist.refl ([⟨.removePublished, false⟩] : List ArtifactEvent))
      exact .lost _ _ (by simp [hpre]) (h.removeDestination hdist) rfl hlost

/-- An artifact after its old file was moved back, or not. -/
def Restored (generation : String) (artifact : ProfileArtifact) (before : Option String)
    (restored complete : Bool) (s : ConfigurationState) : Prop :=
  ∃ destination previous flags trail,
    Stands generation artifact destination previous flags trail s ∧
      Settles before destination previous complete (Loses trail) ∧
      (flags.hadPrevious = false ∨ restored = true → previous = none)

theorem wp_restorePreviousArtifact (hmidway : Midway gen a pre res.complete s) :
    wp A (fun _ => True) (restorePreviousArtifact gen a res)
      (fun r => Restored gen a pre r.1 r.2.complete) E s := by
  rw [restorePreviousArtifact, wp_look]
  cases hmidway with
  | fresh dest flags trail h hprev hkept hdest =>
    rw [if_neg (by simp [h.flags, hprev])]
    refine ⟨dest, none, flags, trail, h, .inl ⟨hkept, ?_⟩, fun _ => rfl⟩
    rcases hdest with hdest | ⟨hcomp, hpre⟩
    · exact .inl hdest
    · exact .inr ⟨hcomp, .inl hpre⟩
  | intact flags trail h hprev hkept =>
    rw [if_pos (by rw [h.flags, hprev]), wp_monadBind]
    refine wp_renameFile (fun text => ?_) fun hsome => absurd h.previous hsome
    refine ⟨pre, none, flags, _, h.unchanged, .inl ⟨?_, .inl rfl⟩, fun _ => rfl⟩
    rwa [loses_append_iff (by decide)]
  | displaced content dest flags trail hpre h hprev hkept =>
    rw [if_pos (by rw [h.flags, hprev]), wp_monadBind]
    refine wp_renameFile (fun text => ?_) fun _ => ?_
    · refine ⟨dest, some content, flags, _, h.unchanged, .inl ⟨?_, ?_⟩, ?_⟩
      · rwa [loses_append_iff (by decide)]
      · exact .inr ⟨rfl, .inr hpre.symm⟩
      · rintro (habsurd | habsurd)
        · rw [hprev] at habsurd
          cases habsurd
        · cases habsurd
    · refine ⟨some content, none, flags, _, h.moveBack hdist, .inl ⟨?_, .inl hpre.symm⟩,
        fun _ => rfl⟩
      rwa [loses_append_iff (by decide)]
  | lost flags trail hpre h hprev hlost =>
    rw [if_pos (by rw [h.flags, hprev]), wp_monadBind]
    refine wp_renameFile (fun text => ?_) fun hsome => absurd h.previous hsome
    refine ⟨none, none, flags, _, h.unchanged, .inr ⟨?_, hpre, rfl, rfl⟩, fun _ => rfl⟩
    rwa [loses_append_iff (by decide)]

/-- The last step of a rollback. -/
theorem wp_removeTransactionFiles (hrestored : Restored gen a pre restored res.complete s) :
    wp A (fun _ => True) (removeTransactionFiles gen a restored res) (Settled gen a pre) E s := by
  obtain ⟨dest, previous, flags, trail, h, hsettles, hnone⟩ := hrestored
  have hset : ∀ {r : RollbackResult} {t : ConfigurationState} {trail' : List ArtifactEvent},
      Stands gen a dest previous flags trail' t →
      (Loses trail' ↔ Loses trail) → (res.complete = false → r.complete = false) →
      Settled gen a pre r t := by
    intro r t trail' ht htrail hcomp
    rw [Settled, ht.destination, ht.previous, ht.trail, htrail]
    exact hsettles.mono hcomp
  refine wp_seq (R := fun _ t => ∃ failed, Stands gen a dest previous flags
    (trail ++ [⟨.removeStaged, failed⟩]) t) (wp_fileStep (fun _ => ⟨true, h.unchanged⟩)
      fun _ => ⟨false, h.removeStaged hdist⟩) ?_
  rintro error t ⟨failed, ht⟩
  have htrail : Loses (trail ++ [⟨.removeStaged, failed⟩]) ↔ Loses trail :=
    loses_append_iff (by simp)
  rw [wp_look]
  split_ifs with hclean
  · -- what is set aside is removed only where nothing is
    obtain rfl : previous = none := hnone (by simpa [ht.flags] using hclean)
    rw [wp_monadBind]
    refine wp_fileStep (fun text => ?_) fun _ => ?_
    · exact hset ht.unchanged ((loses_append_iff (by decide)).trans htrail) fun _ => rfl
    · exact hset (ht.removePrevious hdist) ((loses_append_iff (by decide)).trans htrail)
        recordIf_complete
  · exact hset ht htrail recordIf_complete

/-- **The rollback of an artifact settles it.** -/
theorem wp_rollbackArtifact (hphase : Phase gen a pre s) :
    wp A (fun _ => True) (rollbackArtifact gen a res) (Settled gen a pre) E s := by
  refine wp_seq (wp_removePublishedArtifact hdist hphase) fun removed t ht => ?_
  refine wp_seq (wp_restorePreviousArtifact hdist ht) ?_
  rintro ⟨restored, result'⟩ u ⟨dest, previous, flags, trail, hu, hsettles, hnone⟩
  refine wp_seq (R := fun _ v => ∃ failed, Stands gen a dest previous flags
    (trail ++ [⟨.syncRollback, failed⟩]) v) (wp_fileStep (fun _ => ⟨true, hu.unchanged⟩)
      fun _ => ⟨false, hu.unchanged⟩) ?_
  rintro error v ⟨failed, hv⟩
  have htrail : Loses (trail ++ [⟨.syncRollback, failed⟩]) ↔ Loses trail :=
    loses_append_iff (by simp)
  have hnext : Restored gen a pre restored
      (result'.recordIf error "fsync artifact directory" a.destination.parentPath
        id).complete v :=
    ⟨dest, previous, flags, _, hv, propext htrail ▸ hsettles.mono recordIf_complete, hnone⟩
  exact wp_removeTransactionFiles hdist hnext

omit hdist

/-- The result of an operation, whatever its error. -/
theorem wp_fileStep_any {step fault change} {P : Option String → Prop} (h : ∀ error, P error) :
    wp A (fun _ => True) (fileStep a step fault change) (fun error _ => P error) E s :=
  wp_fileStep (fun text => h (some text)) fun _ => h none

theorem wp_removeTransactionFiles_complete :
    wp A (fun _ => True) (removeTransactionFiles gen a restored res)
      (fun r _ => res.complete = false → r.complete = false) E s := by
  refine wp_seq (wp_fileStep_any fun _ => trivial) fun error t _ => ?_
  rw [wp_look]
  split_ifs
  · rw [wp_monadBind]
    exact wp_fileStep_any fun _ h => recordIf_complete (recordIf_complete h)
  · exact recordIf_complete

/-- A rollback that is incomplete stays so. -/
theorem wp_rollbackArtifact_complete : wp A (fun _ => True) (rollbackArtifact gen a res)
      (fun r _ => res.complete = false → r.complete = false) E s := by
  refine wp_seq (R := fun r _ => res.complete = false → r.complete = false) ?_
    fun removed t ht => ?_
  · rw [removePublishedArtifact, wp_look]
    split_ifs
    · rw [wp_monadBind]
      exact wp_fileStep_any fun _ => removalResult_complete
    · exact id
  refine wp_seq (R := fun r _ => removed.complete = false → r.2.complete = false) ?_ ?_
  · rw [restorePreviousArtifact, wp_look]
    split_ifs
    · rw [wp_monadBind]
      exact wp_fileStep_any fun _ => recordIf_complete
    · exact id
  rintro ⟨restored, result'⟩ u hu
  refine wp_seq (wp_fileStep_any fun _ => trivial) fun error v _ => ?_
  exact wp_mono_result wp_removeTransactionFiles_complete
    fun _ _ hw h => hw (recordIf_complete (hu (ht h)))

end own

/-! ### The whole transaction -/

section transaction

variable {tx : Transaction} {a : ProfileArtifact} {pre : Option String}
  {A : ConfigurationCall → ConfigurationAnswer → Prop} {s : ConfigurationState}
  {t : ConfigurationState} {gen : String}

theorem Initial.stable (hsame : SameFor gen a s t) (h : Initial gen a pre s) :
    Initial gen a pre t := Stands.of_sameFor h hsame

theorem Phase.stable (hsame : SameFor gen a s t) (h : Phase gen a pre s) : Phase gen a pre t := by
  cases h with
  | intact flags trail h hpub hunharmed =>
    exact .intact flags trail (h.of_sameFor hsame) hpub hunharmed
  | displaced content dest flags trail hpre h hprev hunharmed =>
    exact .displaced content dest flags trail hpre (h.of_sameFor hsame) hprev hunharmed
  | fresh dest flags trail hpre h hprev hunpublished hunharmed =>
    exact .fresh dest flags trail hpre (h.of_sameFor hsame) hprev hunpublished hunharmed
  | undone content trail hpre h hwrite hundone hkept =>
    exact .undone content trail hpre (h.of_sameFor hsame) hwrite hundone hkept

theorem Settled.stable {res}
    (hsame : SameFor gen a s t) (h : Settled gen a pre res s) : Settled gen a pre res t := by
  rwa [Settled, hsame.destination, hsame.previous, hsame.trail]

section others

variable (hart : a ∈ tx.artifacts)

include hart

/-- A rollback settles an artifact in its turn; the other artifacts leave it alone. -/
theorem wp_rollbackArtifacts :
    ∀ (arts : List ProfileArtifact) {res : RollbackResult} {s : ConfigurationState},
      arts.Nodup → (∀ other ∈ arts, other ∈ tx.artifacts) →
      (a ∈ arts → Phase tx.generation a pre s) → (a ∉ arts → Settled tx.generation a pre res s) →
      wp A (fun _ => True) (rollbackArtifacts tx.generation arts res)
        (Settled tx.generation a pre) (fun _ _ => True) s
  | [], _, _, _, _, _, hset => hset not_mem_nil
  | other :: others, res, s, hall, hsub, hphase, hset => by
    obtain ⟨hnotmem, hnodup⟩ := nodup_cons.mp hall
    obtain ⟨hother, hrest⟩ := forall_mem_cons.mp hsub
    by_cases heq : a = other
    · subst heq
      refine wp_seq (wp_rollbackArtifact (tx.distinct hart)
        (hphase mem_cons_self)) fun next t ht => ?_
      exact wp_rollbackArtifacts others hnodup hrest (absurd · hnotmem) fun _ => ht
    · have hkeeps : Keeps A (fun t =>
          (a ∈ others → Phase tx.generation a pre t) ∧
            (a ∉ others → Settled tx.generation a pre res t))
          (rollbackArtifact tx.generation other res) :=
        keeps_rollbackArtifact (tx.apart hart hother heq) fun _ _ hsame h =>
          ⟨fun hmem => (h.1 hmem).stable hsame, fun hmem => (h.2 hmem).stable hsame⟩
      have hstep := hkeeps s ⟨fun hmem => hphase (mem_cons_of_mem other hmem),
        fun hmem => hset (not_mem_cons_of_ne_of_not_mem heq hmem)⟩
      refine wp_seq (wp_mono (wp_and hstep (wp_rollbackArtifact_complete (E := fun _ _ => True)))
        (fun _ _ => trivial) (fun _ _ ht => ht) fun _ _ _ => trivial) ?_
      rintro next t ⟨ht, hnext⟩
      exact wp_rollbackArtifacts others hnodup hrest ht.1 fun hmem => (ht.2 hmem).mono hnext

/-- An artifact that is still to be published is as it was before. -/
def Due (generation : String) (artifact : ProfileArtifact) (before : Option String) (later : Prop)
    (s : ConfigurationState) : Prop :=
  Phase generation artifact before s ∧ (later → Initial generation artifact before s)

theorem wp_publish_due {other} {later : Prop} (hother : other ∈ tx.artifacts)
    (hlater : a = other → ¬ later) (hs : Due tx.generation a pre (a = other ∨ later) s) :
    wp A (fun _ => True) (publish tx.generation other)
    (fun _ => Due tx.generation a pre later) (fun _ => Phase tx.generation a pre) s := by
  by_cases heq : a = other
  · subst heq
    exact wp_mono_result (wp_publish (tx.distinct hart) (hs.2 (.inl rfl)))
      fun _ _ ht => ⟨ht, (absurd · (hlater rfl))⟩
  · have hkeeps : Keeps A (Due tx.generation a pre later)
        (publish tx.generation other) :=
      keeps_publish (tx.apart hart hother heq) fun _ _ hsame h =>
        ⟨h.1.stable hsame, fun hlater => (h.2 hlater).stable hsame⟩
    exact wp_mono (hkeeps s ⟨hs.1, fun hlater => hs.2 (.inr hlater)⟩) (fun _ _ => trivial)
      (fun _ _ ht => ht) fun _ _ ht => ht.1

end others

theorem keeps_activate {I} : Keeps A I activate := by
  refine keeps_effect (fun _ _ hs => hs) fun answer s => ?_
  split
  · exact keeps_ret
  · exact keeps_fail

/-- Whatever is published, and however it ends, an artifact is in one of its
phases. -/
theorem wp_publishAll (hart : a ∈ tx.artifacts) (hs : Initial tx.generation a pre s) :
    Ends A (Phase tx.generation a pre) (publishAll tx) s := by
  -- the public profile is still to be published when the rest is
  refine wp_seq (R := fun _ => Due tx.generation a pre
    (a.kind = .publicProfile)) ?_ fun _ t ht => ?_
  · refine wp_mono_result (wp_forEach (I := fun rest t => rest.Nodup ∧
      (∀ other ∈ rest, other ∈ tx.artifacts ∧ other.kind ≠ .publicProfile) ∧
      Due tx.generation a pre
        (a ∈ rest ∨ a.kind = .publicProfile) t) ?_ ?_)
      fun _ _ ht => ⟨ht.2.2.1, fun hkind => ht.2.2.2 (.inr hkind)⟩
    · exact ⟨tx.nodup.filter _, by simp, hs.phase, fun _ => hs⟩
    · rintro other rest t ⟨hnodup, hsub, ht⟩
      obtain ⟨hnotmem, hnodup⟩ := nodup_cons.mp hnodup
      obtain ⟨hother, hsub⟩ := forall_mem_cons.mp hsub
      rw [mem_cons, or_assoc] at ht
      refine wp_mono_result (wp_publish_due hart hother.1 ?_ ht) fun _ _ hu => ⟨hnodup, hsub, hu⟩
      rintro rfl (hmem | hkind)
      · exact hnotmem hmem
      · exact hother.2 hkind
  refine wp_seq (wp_mono (keeps_activate t ht) (fun _ _ => trivial) (fun _ _ hu => hu)
    fun _ u hu => hu.1) fun _ u hu => ?_
  rw [publishPublicMarker]
  split
  · exact hu.1
  · next marker hmark =>
    have hkind : marker.kind = .publicProfile := by simpa using find?_some hmark
    refine wp_mono_result (wp_publish_due hart (mem_of_find?_eq_some hmark)
      (fun _ => not_false) ⟨hu.1, ?_⟩) fun _ _ hv => hv.1
    rintro (rfl | hfalse)
    · exact hu.2 hkind
    · exact hfalse.elim

theorem wp_publishAndRollback (hart : a ∈ tx.artifacts)
    (hs : Initial tx.generation a pre s) : wp A (fun _ => True) (publishAndRollback tx)
      (fun outcome t => ∀ cause res, outcome = some (cause, res) →
        Settled tx.generation a pre res t) (fun _ _ => True) s := by
  rw [publishAndRollback, wp_monadBind, wp_attempt]
  refine wp_mono (wp_publishAll hart hs) (fun _ ht => ht) (fun _ t _ => nofun) fun cause t ht => ?_
  refine wp_seq (wp_rollbackArtifacts hart tx.artifacts.reverse
    (nodup_reverse.mpr tx.nodup) (fun _ => mem_reverse.mp) (fun _ => ht)
    (absurd (mem_reverse.mpr hart))) fun res u hu => ?_
  rintro cause' result' houtcome
  obtain ⟨-, rfl⟩ := Prod.mk.injEq .. ▸ Option.some.inj houtcome
  exact hu

/-! ### Staging -/

/-- Staging changes transaction files only. -/
theorem stage_of_notMem {path : FsPath} : ∀ (arts : List ProfileArtifact) (files : Files),
      (∀ other ∈ arts, path ≠ stagedPath gen other ∧ path ≠ previousPath gen other) →
      arts.foldl (stageArtifact gen) files path = files path
  | [], _, _ => rfl
  | other :: others, files, h => by
    obtain ⟨hstaged, hprev⟩ := h other mem_cons_self
    rw [foldl_cons, stage_of_notMem others _ fun o ho => h o (mem_cons_of_mem other ho),
      stageArtifact, update_of_ne hprev, update_of_ne hstaged]

theorem begin_initial (hart : a ∈ tx.artifacts) (files : Files) :
    Initial tx.generation a (files a.destination) (begin tx files) := by
  have hdist := tx.distinct hart
  have hother : ∀ other ∈ tx.artifacts, a ≠ other → ∀ path,
      path ∈ artifactPaths tx.generation a →
      path ≠ stagedPath tx.generation other ∧
        path ≠ previousPath tx.generation other := by
    intro other hmem hne path hpath
    have hapart := tx.apart hart hmem hne
    refine ⟨fun heq => hapart hpath ?_, fun heq => hapart hpath ?_⟩
    · simp [artifactPaths, heq]
    · simp [artifactPaths, heq]
  refine ⟨?_, ?_, rfl, rfl⟩
  · refine stage_of_notMem tx.artifacts files fun other hmem => ?_
    by_cases heq : a = other
    · subst heq
      exact ⟨hdist.staged, hdist.previous⟩
    · exact hother other hmem heq _ mem_cons_self
  · -- the set-aside file is removed when the artifact is staged, and stays so
    obtain ⟨front, back, hsplit⟩ := append_of_mem hart
    have hback : ∀ other ∈ back, a ≠ other := by
      have hnodup := tx.nodup
      rw [hsplit, nodup_append, nodup_cons] at hnodup
      rintro other hmem rfl
      exact hnodup.2.1.1 hmem
    show stage tx files _ = none
    rw [stage, hsplit, List.foldl_append, foldl_cons, stage_of_notMem back]
    · rw [stageArtifact, update_self]
    · intro other hmem
      refine hother other (hsplit ▸ ?_) (hback other hmem) _ (by simp [artifactPaths])
      simp [hmem]

/-- **Which transactions lose a file**: after a rollback, an artifact holds what it
held before staging, or the rollback is incomplete and the old content is at its
destination or set aside, if and only if it did not happen that its new file was put
in place, syncing failed, the old file was moved back and the rollback removed it. -/
theorem rollback_keeps_iff (transaction : Transaction) (files : Files)
    (answers : Nat → ConfigurationAnswer) {cause : Thrown} {result : RollbackResult}
    {final : ConfigurationState}
    (hrun : (publishAndRollback transaction).play answers (begin transaction files) =
      (.ok (some (cause, result)), final)) :
    ∀ artifact ∈ transaction.artifacts,
      Kept transaction.generation artifact files result final.files ↔
        ¬ Loses (final.trail artifact.destination) := by
  intro artifact hartifact
  have hsettled : Settled transaction.generation artifact (files artifact.destination) result
      final :=
    play_ok (wp_publishAndRollback (A := fun _ _ => True) hartifact
      (begin_initial hartifact files)) hrun (fun _ _ => trivial) cause result rfl
  rcases hsettled with ⟨hkept, hcontent⟩ | ⟨hlost, hbefore, hdestination, hprevious⟩
  · refine iff_of_true ?_ hkept
    rcases hcontent with hcontent | ⟨hincomplete, hbefore | hprevious⟩
    · exact .inl hcontent
    · exact .inr ⟨hincomplete, .inl hbefore⟩
    · exact .inr ⟨hincomplete, .inr (.inr hprevious)⟩
  · refine iff_of_false ?_ (not_not.mpr hlost)
    rw [Kept, hdestination, hprevious]
    rintro (h | ⟨-, h | h | h⟩)
    · exact hbefore h.symm
    · exact hbefore h
    · exact hbefore h.symm
    · exact hbefore h.symm

end transaction

/-! ### Two transactions -/

namespace Sample

def privateProfile : ProfileArtifact where
  kind := .privateProfile
  destination := FsPath.ofString "/etc/p.json"
  content := "new"
  operation := .write

def publicProfile : ProfileArtifact where
  kind := .publicProfile
  destination := FsPath.ofString "/var/p.json"
  content := "new"
  operation := .write

/-- The private and the public profile are rewritten. -/
def transaction : Transaction where
  generation := "a1"
  artifacts := [privateProfile, publicProfile]
  separate := by decide +kernel

/-- There is an old private profile. -/
def files : Files := fun path => if path = privateProfile.destination then some "old" else none

/-- Only the call with the given number fails. -/
def answersFailing (number : Nat) : Nat → ConfigurationAnswer := fun k =>
  ⟨if k = number then some "Input/output error" else none, false⟩

/-- The transaction in which that call fails. -/
def outcome (number : Nat) :
    Except Thrown (Option (Thrown × RollbackResult)) × ConfigurationState :=
  (publishAndRollback transaction).play (answersFailing number) (begin transaction files)

/-- The rollback could not move the old file back. -/
def incomplete : RollbackResult where
  complete := false
  errors := [⟨"restore previous artifact", previousPath transaction.generation privateProfile,
    "No such file or directory; destination: /etc/p.json"⟩]

/-- Syncing the directory of the private profile fails after the new file was put in
place: the rollback removes the old file. -/
theorem sync_failure_loses_profile :
    (outcome 4).1 = .ok (some (validationError "Input/output error", incomplete)) ∧
      privateProfile ∈ transaction.artifacts ∧
      ¬ Kept transaction.generation privateProfile files incomplete (outcome 4).2.files := by
  have hdestination : (outcome 4).2.files privateProfile.destination = none := by decide +kernel
  have hprevious : (outcome 4).2.files (previousPath transaction.generation privateProfile) =
      none := by decide +kernel
  have hbefore : files privateProfile.destination = some "old" := by decide
  refine ⟨by decide +kernel, by decide, ?_⟩
  rw [Kept, hdestination, hprevious, hbefore]
  rintro (h | ⟨-, h | h | h⟩)
  · cases h
  · cases h
  · cases h
  · cases h

/-- The new file cannot be put in place: the old one is kept. -/
theorem rename_failure_keeps_profile :
    Kept transaction.generation privateProfile files incomplete (outcome 3).2.files := by
  have hcause : (outcome 3).1 = .ok (some (validationError ("cannot rename " ++
      (stagedPath transaction.generation privateProfile).string ++ " to " ++
      privateProfile.destination.string ++ ": Input/output error"), incomplete)) := by
    decide +kernel
  have htrail : ¬ Loses ((outcome 3).2.trail privateProfile.destination) := by decide +kernel
  exact (rollback_keeps_iff transaction files (answersFailing 3) (Prod.ext hcause rfl)
    privateProfile (by decide)).mpr htrail

end Sample

end Configuration

end BtrfsBackup
