/-
Which device mappings the record names.

Two modes open a device mapping.  When a target is adopted, the record names the
mapping before it is opened and forgets it after the inspection, whether or not the
inspector was able to close it.  In the other modes the record names the mapping
after it was opened.

* `Named` — the record names every mapping that is open;
* `Faithful` — the calls do what the executor takes them to do;
* `Held` — the stages of an execution, with what is open and what is named;
* `mapping_named_iff` — every mapping is named, except between an opening and the
  next write.
-/
import BtrfsBackup.PreparationRelease

open Interaction Interaction.Prog

namespace BtrfsBackup

open List

namespace Preparation

open PreparationSystem

/-! ### Named mappings -/

variable (op : OperationId) (mode : ProvisioningMode)

/-- The content that was persisted last names every mapping that the operation has
open. -/
def Named (s : PreparationSystem) : Prop :=
  ∀ mapper, (op, mapper) ∈ s.mappings →
    ∃ w, s.latest op = some w ∧ w.mapper = mapper

/-- Is it the opening of a mapping? -/
def Event.isOpening : Event → Bool
  | .opened _ => true
  | _ => false

/-- Is the opening of a mapping the last thing the helper did? -/
def openedLast : List Event → Bool
  | [] => false
  | event :: earlier => event.isOpening || (event.aside && openedLast earlier)

/-- The execution has just opened a mapping. -/
def JustOpened (before : List Event) (s : PreparationSystem) : Prop :=
  Since before (fun added => openedLast added = true) (s.trace op)

/-- An execution of the helper: its operation, and what had happened before it. -/
structure Execution where
  op : OperationId
  mode : ProvisioningMode
  before : List Event

/-- The mappings are named when they have to be. -/
def Accounted (x : Execution) (s : PreparationSystem) : Prop :=
  Named x.op s ↔ (x.mode = .adoptExistingTarget ∨ ¬JustOpened x.op x.before s)

/-- The mappings are accounted for in an execution. -/
def Sound (x : Execution) (s : PreparationSystem) : Prop :=
  Accounted x s ∧ (x.mode ≠ .adoptExistingTarget → Begun x.op x.before s)

theorem openedLast_append {added earlier} (hadded : ∀ event ∈ added, event.aside = true) :
    openedLast (added ++ earlier) = openedLast earlier := by
  induction added with
  | nil => rfl
  | cons event added ih =>
    have haside := hadded event mem_cons_self
    have hopening : event.isOpening = false := by
      cases event with
      | opened mapper => cases haside
      | _ => rfl
    rw [cons_append, openedLast, hopening, haside,
      ih fun e he => hadded e (mem_cons_of_mem event he)]
    simp

/-- What a call on a mapping does: a mapping that could not be opened for an adoption is
not open, and a mapping that could not be closed is closed, unless it is named by the
record of an operation that is no adoption. -/
def Action.Faithful (answer : PreparationAnswer) (s : PreparationSystem) : Action → Prop
  | .openMapper _ _ =>
    mode = .adoptExistingTarget → answer.error.isSome = true → answer.effective = false
  | .closeMapper _ mapper =>
    answer.effective = true ∨ (mode ≠ .adoptExistingTarget ∧
      ∀ w ∈ s.latest op, w.mapper = mapper)
  | _ => True

instance (answer : PreparationAnswer) (s : PreparationSystem) (action : Action) :
    Decidable (action.Faithful op mode answer s) := by
  unfold Action.Faithful
  split <;> infer_instance

/-- The calls on mappings do what the executor takes them to do. -/
def Faithful (call : PreparationCall) (answer : PreparationAnswer) (s : PreparationSystem) : Prop :=
  FreshIds call answer s ∧ call.action.Faithful op mode answer s

instance (call : PreparationCall) (answer : PreparationAnswer) (s : PreparationSystem) :
    Decidable (Faithful op mode call answer s) :=
  inferInstanceAs (Decidable (_ ∧ _))

section stages

variable (x : Execution)

/-- What the helper guarantees. -/
abbrev Accounts : PreparationSystem → PreparationSystem → Prop :=
  Keeping (Sound x)

/-! ### The stages of an execution -/

/-- The open mappings are in `O`, the name in the record is in `N`, and the variable of
the execution is `v`. -/
structure Held (O N : String → Prop) (v : String) (s : PreparationSystem) : Prop where
  openings : ∀ mapper, (x.op, mapper) ∈ s.mappings → O mapper
  named : ∀ w, s.latest x.op = some w → N w.mapper
  mapper : s.mapper x.op = v
  calm : x.mode ≠ .adoptExistingTarget →
    Since x.before (fun added => openedLast added = false) (s.trace x.op)

/-- An execution at such a stage. -/
abbrev Holding (O N : String → Prop) (v : String) : PreparationSystem → Prop :=
  Underway x.op x.mode (Held x O N v)

/-- Between the opening of a mapping and the write that names it. -/
structure Unrecorded (mapper : String) (s : PreparationSystem) : Prop where
  openings : ∀ other, (x.op, other) ∈ s.mappings → other = mapper
  opened : (x.op, mapper) ∈ s.mappings
  named : ∀ w, s.latest x.op = some w → w.mapper = ""
  mapper : s.mapper x.op = mapper
  justOpened : JustOpened x.op x.before s

variable {op : OperationId} {before : List Event} {x : Execution} {s t : PreparationSystem}
  {r w : DevicePreparationTransaction} {O N : String → Prop} {v mapper num : String} {α : Type}
  {e : Raised} {required ok : Bool}

theorem latest_ne_none (hs : s.history op ≠ []) : ∃ w, s.latest op = some w := by
  rw [latest]
  cases hhist : s.history op with
  | nil => exact absurd hhist hs
  | cons w rest => exact ⟨w, rfl⟩

theorem Holding.sound (hON : ∀ m n, O m → N n → n = m) (hs : Holding x O N v s) : Sound x s := by
  obtain ⟨w, hw⟩ := latest_ne_none hs.begun
  have hnamed : Named x.op s := fun m hm =>
    ⟨w, hw, hON m _ (hs.achieved.openings m hm) (hs.achieved.named w hw)⟩
  refine ⟨iff_of_true hnamed ?_, fun hmode => (hs.achieved.calm hmode).begun⟩
  by_cases hmode : x.mode = .adoptExistingTarget
  · exact .inl hmode
  · refine .inr fun ⟨added, hadded, hopened⟩ => ?_
    have hcalm := hs.achieved.calm hmode
    rw [hadded] at hcalm
    exact Bool.false_ne_true ((since_append.mp hcalm).symm.trans hopened)

theorem Unrecorded.sound (hmode : x.mode ≠ .adoptExistingTarget) (hmap : mapper ≠ "")
    (hs : Unrecorded x mapper s) : Sound x s := by
  refine ⟨iff_of_false (fun hnamed => ?_) (by simp [hmode, hs.justOpened]),
    fun _ => hs.justOpened.begun⟩
  obtain ⟨w, hw, hname⟩ := hnamed mapper hs.opened
  exact hmap (hname ▸ hs.named w hw)

/-! ### What the manager leaves alone -/

/-- The manager does not change what the record names. -/
theorem named_of_aside (hst : Aside op s t) (hs : s.history op ≠ [])
    (h : ∀ w, s.latest op = some w → N w.mapper) : ∀ w, t.latest op = some w → N w.mapper := by
  intro w hw
  obtain ⟨r, hr, hhandled⟩ := hst.latest hs w hw
  rw [hhandled.mapper]
  exact h r hr

theorem since_openedLast_of_aside {b : Bool} (hst : Aside op s t)
    (h : Since before (fun added => openedLast added = b) (s.trace op)) :
    Since before (fun added => openedLast added = b) (t.trace op) := by
  obtain ⟨earlier, hearlier, hlast⟩ := h
  obtain ⟨added, hadded, haside⟩ := hst.trace
  exact ⟨added ++ earlier, by rw [hadded, hearlier, append_assoc],
    (openedLast_append haside).trans hlast⟩

theorem stable_holding : Stable (Aside x.op) (Holding x O N v) := fun _ _ hst hs =>
  hs.aside hst ⟨hst.mappings ▸ hs.achieved.openings,
    named_of_aside hst hs.begun hs.achieved.named, hst.mapper ▸ hs.achieved.mapper,
    fun hmode => since_openedLast_of_aside hst (hs.achieved.calm hmode)⟩

theorem stable_unrecorded : Stable (Aside x.op)
      (Underway x.op x.mode (Unrecorded x mapper)) := fun _ _ hst hs =>
  hs.aside hst ⟨hst.mappings ▸ hs.achieved.openings, hst.mappings ▸ hs.achieved.opened,
    named_of_aside (N := (· = "")) hst hs.begun hs.achieved.named,
    hst.mapper ▸ hs.achieved.mapper, since_openedLast_of_aside hst hs.achieved.justOpened⟩

/-! ### Steps of the helper -/

/-- A step into a stage in which the mappings are accounted for. -/
theorem accounts_of (hgrowth : Growth (fun _ _ => True) s t) (ht : Sound x t) : Accounts x s t :=
  ⟨hgrowth, fun _ => ht⟩

/-- A write of the helper, from any stage into one that is named rightly. -/
theorem Underway.nowHeld {K} (hON : ∀ m n, O m → N n → n = m)
    (hs : Underway x.op x.mode K s) (hget : s.transactions x.op = some r) (hnext : Succeeds r w)
    (htgt : w.target = r.target) (hopenings : ∀ m, (x.op, m) ∈ s.mappings → O m)
    (hnamed : N w.mapper)
    (hmap : s.mapper x.op = v) (hbegun : x.mode ≠ .adoptExistingTarget → Begun x.op x.before s) :
    Accounts x s (s.store .helper x.op w) ∧ Holding x O N v (s.store .helper x.op w) := by
  have hheld : Held x O N v (s.store .helper x.op w) := by
    refine ⟨hopenings, fun w' hw' => ?_, hmap, fun hmode => ?_⟩
    · rw [latest, history_store_self, head?_cons, Option.some.injEq] at hw'
      exact hw' ▸ hnamed
    · rw [trace_store_self]
      exact (hbegun hmode).cons _ fun _ _ => rfl
  obtain ⟨hgrowth, hunderway⟩ := hs.write hget hnext htgt hheld
  exact ⟨accounts_of hgrowth (Holding.sound hON hunderway), hunderway⟩

/-- The events of the helper other than those of mappings. -/
def Event.neutral (event : Event) : Prop := event.content = none ∧ event.isOpening = false

/-- Operations of a faithful helper that account for every mapping. -/
abbrev AccountingOps (x : Execution) (I : PreparationSystem → Prop)
    (W : DevicePreparationTransaction → DevicePreparationTransaction → Prop) : Prop :=
  ReservingOps x.op (Faithful x.op x.mode) (Aside x.op) (Accounts x) I W Event.neutral

/-- A program of a faithful helper that accounts for every mapping and keeps `I`. -/
abbrev AccountedWithin {α : Type} (x : Execution) (I : PreparationSystem → Prop)
    (p : PreparationProg α) : Prop :=
  Within (Faithful x.op x.mode) (Aside x.op) (Accounts x) I p

/-- The operations at a stage; the writes in `W` keep the name in `N`. -/
theorem ops_holding {W} (hON : ∀ m n, O m → N n → n = m) (hplain : ∀ r w, Plain r w → W r w)
    (hreserve : ∀ r now state, W r (stamped now { r with profileReservationState := state }))
    (htgt : ∀ r w, W r w → w.target = r.target)
    (hname : ∀ r w, W r w → N r.mapper → N w.mapper) :
    AccountingOps x (Holding x O N v) W where
  rely := isRely_aside
  refl := keeping_refl
  stable := stable_holding
  plain := hplain
  write i t r w action ht _ hget hnext hw := by
    have hlatest : t.latest x.op = some r := ht.orderly.stored _ r hget
    exact ht.nowHeld hON hget hnext (htgt r w hw) ht.achieved.openings
      (hname r w hw (ht.achieved.named r hlatest)) ht.achieved.mapper
      fun hmode => (ht.achieved.calm hmode).begun
  event t event ht hevent := by
    have hext := extends_record (s := t) x.op hevent.1
    have hlater : Holding x O N v (t.record x.op event) := by
      refine ht.extend hext ⟨ht.achieved.openings, ?_, ht.achieved.mapper, fun hmode => ?_⟩
      · rw [latest, hext.history]
        exact ht.achieved.named
      · rw [trace_record_self]
        refine (ht.achieved.calm hmode).cons _ fun added hlast => ?_
        rw [openedLast, hevent.2, hlast, Bool.and_false, Bool.or_false]
    exact ⟨accounts_of hext.growth (Holding.sound hON hlater), hlater⟩
  fresh _ _ _ h := h.1
  orderly _ h := h.orderly
  known r _ _ hst hr := (hst.growth.history _).mem hr
  kept r _ _ hst hr := (hst.growth.history _).mem hr
  reserve := hreserve
  setReservation t profileId file ht := by
    have hext : Extends x.op [] t (t.setReservation profileId file) :=
      ⟨rfl, rfl, fun _ => rfl⟩
    have hlater : Holding x O N v (t.setReservation profileId file) :=
      ht.extend hext ⟨ht.achieved.openings, ht.achieved.named, ht.achieved.mapper,
        ht.achieved.calm⟩
    exact ⟨accounts_of hext.growth (Holding.sound hON hlater), hlater⟩

/-- Writes that keep the name of the mapping. -/
def KeepsMapper (r w : DevicePreparationTransaction) : Prop :=
  w.target = r.target ∧ w.mapper = r.mapper

theorem Plain.keepsMapper (h : Plain r w) : KeepsMapper r w := by
  have hessence := h.essence
  simp only [DevicePreparationTransaction.essence, Prod.mk.injEq] at hessence
  exact ⟨hessence.1, hessence.2.2.2.2.1⟩

/-! ### The stages by name -/

section

variable (x)

/-- Nothing is open, and the record names nothing. -/
abbrev Unopened (v : String) : PreparationSystem → Prop :=
  Holding x (fun _ => False) (· = "") v

/-- Nothing is open. -/
abbrev AllClosed (v : String) : PreparationSystem → Prop :=
  Holding x (fun _ => False) (fun _ => True) v

/-- Nothing is open, and the record names a mapping. -/
abbrev Announced (mapper v : String) : PreparationSystem → Prop :=
  Holding x (fun _ => False) (· = mapper) v

/-- A mapping may be open, and the record names it. -/
abbrev Opened (mapper v : String) : PreparationSystem → Prop :=
  Holding x (· = mapper) (· = mapper) v

end

/-- The operations at a stage with one name in the record. -/
theorem ops_named {n : String} (hON : ∀ m, O m → n = m) :
    AccountingOps x (Holding x O (· = n) v) KeepsMapper :=
  ops_holding (fun m _ hm hn => hn.trans (hON m hm)) (fun _ _ h => h.keepsMapper)
    (fun _ _ _ => ⟨rfl, rfl⟩) (fun _ _ h => h.1) fun _ _ h => h.2.trans

theorem ops_unopened : AccountingOps x (Unopened x v) KeepsMapper :=
  ops_named fun _ h => h.elim

theorem ops_announced : AccountingOps x (Announced x mapper v) KeepsMapper :=
  ops_named fun _ h => h.elim

theorem ops_opened : AccountingOps x (Opened x mapper v) KeepsMapper :=
  ops_named fun _ h => h.symm

theorem ops_allClosed : AccountingOps x (AllClosed x v) (fun r w => w.target = r.target) :=
  ops_holding (fun _ _ h => h.elim) (fun _ _ h => h.loose.target) (fun _ _ _ => rfl)
    (fun _ _ h => h) fun _ _ _ _ => trivial

theorem Holding.allClosed (hs : Holding x (fun _ => False) N v s) : AllClosed x v s :=
  hs.mono fun h => ⟨h.openings, fun _ _ => trivial, h.mapper, h.calm⟩

/-! ### Opening and closing -/

theorem extends_openMapping : Extends op [.opened mapper] s (s.openMapping op mapper) :=
  ⟨rfl, (extends_record op rfl).trace, (extends_record op rfl).history⟩

theorem extends_closeMapping : Extends op [.closed mapper] s (s.closeMapping op mapper) :=
  ⟨rfl, (extends_record op rfl).trace, (extends_record op rfl).history⟩

/-- A mapping is opened that the record does not name yet. -/
theorem opens_unrecorded (hmode : x.mode ≠ .adoptExistingTarget) (hmap : mapper ≠ "")
    (hs : Unopened x mapper s) : Accounts x s (s.openMapping x.op mapper) ∧
      Underway x.op x.mode (Unrecorded x mapper) (s.openMapping x.op mapper) := by
  have hlater : Unrecorded x mapper (s.openMapping x.op mapper) := by
    refine ⟨fun other hother => ?_, mem_cons_self, ?_, hs.achieved.mapper, ?_⟩
    · rcases mem_cons.mp hother with hsame | hother
      · exact (Prod.mk.inj hsame).2
      · exact (hs.achieved.openings other hother).elim
    · rw [latest, extends_openMapping.history]
      exact hs.achieved.named
    · rw [JustOpened, extends_openMapping.trace]
      exact (hs.achieved.calm hmode).cons _ fun _ _ => rfl
  exact ⟨accounts_of extends_openMapping.growth (hlater.sound hmode hmap),
    hs.extend extends_openMapping hlater⟩

/-- A mapping is opened that the record of an adoption names. -/
theorem opens_announced (hmode : x.mode = .adoptExistingTarget) (hs : Announced x mapper v s) :
    Accounts x s (s.openMapping x.op mapper) ∧ Opened x mapper v (s.openMapping x.op mapper) := by
  have hlater : Opened x mapper v (s.openMapping x.op mapper) := by
    refine hs.extend extends_openMapping ⟨fun other hother => ?_, ?_, hs.achieved.mapper,
      (absurd hmode)⟩
    · rcases mem_cons.mp hother with hsame | hother
      · exact (Prod.mk.inj hsame).2
      · exact (hs.achieved.openings other hother).elim
    · rw [latest, extends_openMapping.history]
      exact hs.achieved.named
  refine ⟨accounts_of extends_openMapping.growth (Holding.sound ?_ hlater), hlater⟩
  intro m n hm hn
  exact hn.trans hm.symm

/-- Closing the only mapping there may be. -/
theorem closes {K} (hs : Underway x.op x.mode K s)
    (hopenings : ∀ other, (x.op, other) ∈ s.mappings → other = mapper)
    (hnamed : ∀ w, s.latest x.op = some w → N w.mapper) (hmap : s.mapper x.op = v)
    (hbegun : x.mode ≠ .adoptExistingTarget → Begun x.op x.before s) :
    Accounts x s (s.closeMapping x.op mapper) ∧
      Holding x (fun _ => False) N v (s.closeMapping x.op mapper) := by
  have hlater : Holding x (fun _ => False) N v (s.closeMapping x.op mapper) := by
    refine hs.extend extends_closeMapping ⟨fun other hother => ?_, ?_, hmap, fun hmode => ?_⟩
    · obtain ⟨hmem, hne⟩ := mem_filter.mp hother
      simp [hopenings other hmem] at hne
    · rw [latest, extends_closeMapping.history]
      exact hnamed
    · rw [extends_closeMapping.trace]
      exact (hbegun hmode).cons _ fun _ _ => rfl
  exact ⟨accounts_of extends_closeMapping.growth (Holding.sound (fun _ _ h => h.elim) hlater),
    hlater⟩

/-- The variable of the execution is set. -/
theorem guarded_setMapper_holding {F} {name : String}
    (hON : ∀ m n, O m → N n → n = m) (hs : Holding x O N v s) :
    Guarded (Faithful x.op x.mode) (Aside x.op) (Accounts x)
      (setMapper x.op name) (fun _ => Holding x O N name) (fun _ => F) s := by
  refine guarded_note stable_holding hs fun t ht => ?_
  have hext : Extends x.op [] t (t.setMapper x.op name) :=
    ⟨rfl, rfl, fun _ => rfl⟩
  have hlater : Holding x O N name (t.setMapper x.op name) :=
    ht.extend hext ⟨ht.achieved.openings, ht.achieved.named,
      by simp [PreparationSystem.setMapper], ht.achieved.calm⟩
  exact ⟨accounts_of hext.growth (Holding.sound hON hlater),
    guarded_ret stable_holding hlater fun _ hu => hu⟩

/-! ### Failures -/

/-- What an execution that fails may leave: nothing open, a mapping that is named, or one
that was just opened. -/
def Left (x : Execution) (s : PreparationSystem) : Prop :=
  (∃ v, AllClosed x v s) ∨
    ∃ mapper, (mapper ≠ "" ∧ x.mode ≠ .adoptExistingTarget) ∧
      (Opened x mapper mapper s ∨ Underway x.op x.mode (Unrecorded x mapper) s)

theorem stable_left : Stable (Aside x.op) (Left x) := by
  rintro s t hst (⟨v, hs⟩ | ⟨mapper, hmap, hs | hs⟩)
  · exact .inl ⟨v, stable_holding s t hst hs⟩
  · exact .inr ⟨mapper, hmap, .inl (stable_holding s t hst hs)⟩
  · exact .inr ⟨mapper, hmap, .inr (stable_unrecorded s t hst hs)⟩

/-- A program of the helper that may leave a mapping if it throws. -/
abbrev Leaves (x : Execution) (p : PreparationProg α) (Q : α → PreparationSystem → Prop)
    (s : PreparationSystem) : Prop :=
  Guarded (Faithful x.op x.mode) (Aside x.op) (Accounts x) p Q (fun _ => Left x) s

theorem leaves_of_allClosed {p : PreparationProg α}
    (h : AccountedWithin x (Holding x (fun _ => False) N v) p)
    (hs : Holding x (fun _ => False) N v s) :
    Leaves x p (fun _ => Holding x (fun _ => False) N v) s :=
  (h s hs).mono_error fun _ _ hu => .inl ⟨v, hu.allClosed⟩

theorem leaves_of_opened {p : PreparationProg α}
    (hmap : mapper ≠ "" ∧ x.mode ≠ .adoptExistingTarget)
    (h : AccountedWithin x (Opened x mapper mapper) p) (hs : Opened x mapper mapper s) :
    Leaves x p (fun _ => Opened x mapper mapper) s :=
  (h s hs).mono_error fun _ _ hu => .inr ⟨mapper, hmap, .inl hu⟩

/-! ### Adopting a target -/

/-- Within the inspection of a target, errors leave the mapping closed and announced. -/
abbrev Inspects (x : Execution) (mapper : String) (p : PreparationProg α)
    (Q : α → PreparationSystem → Prop)
    (s : PreparationSystem) : Prop :=
  Guarded (Faithful x.op x.mode) (Aside x.op) (Accounts x) p Q
    (fun _ => Announced x mapper "") s

theorem inspects_openMapper (hmode : x.mode = .adoptExistingTarget) (hs : Announced x mapper "" s) :
    Inspects x mapper (openMapper x.op mapper) (fun _ => Opened x mapper "") s := by
  refine guarded_perform_cases keeping_refl stable_holding stable_holding stable_holding hs
    (fun i t ht _ _ => opens_announced hmode ht) (fun i t e ht hA herror heff => ?_)
    fun i t e ht _ _ _ => ht
  -- a mapping that was not opened is not open
  have := hA.2 hmode (by rw [herror]; rfl)
  rw [heff] at this
  cases this

/-- The end of the inspection closes the mapping, whatever happened before. -/
theorem inspects_finishSession {mounted : Bool} {pending}
    (hmode : x.mode = .adoptExistingTarget) (hs : Opened x mapper "" s) :
    Inspects x mapper (finishSession x.op mapper mounted true pending)
      (fun _ => Announced x mapper "") s := by
  refine guarded_do (M := fun _ => Opened x mapper "")
    ((guarded_attempt _).mpr (within_ite ops_opened.within_ask (within_ret ops_opened.stable) s hs))
    fun unmounted t ht => ?_
  refine guarded_do (M := fun _ => Announced x mapper "")
    ((guarded_attempt _).mpr ?_) fun closed t ht => ?_
  · refine guarded_perform_cases keeping_refl stable_holding stable_holding stable_holding ht
      (fun i u hu _ _ => ?_) (fun i u e hu _ _ _ => ?_) fun i u e hu hA _ heff => ?_
    · exact closes hu hu.achieved.openings hu.achieved.named hu.achieved.mapper (absurd hmode)
    · exact closes hu hu.achieved.openings hu.achieved.named hu.achieved.mapper (absurd hmode)
    · -- the mapping of an adoption is closed even if the call throws
      rcases hA.2 with hclosed | ⟨hother, -⟩
      · rw [heff] at hclosed
        cases hclosed
      · exact absurd hmode hother
  · split
    · exact guarded_ret stable_holding ht fun _ hu => hu
    · exact guarded_fail stable_holding ht fun _ hu => hu

variable {partition : ExistingPartition}

theorem inspects_inspectExistingTarget {ready} (hmode : x.mode = .adoptExistingTarget)
    (hready : AccountedWithin x (Opened x mapper "") ready)
    (hs : Announced x mapper "" s) :
    Inspects x mapper (inspectExistingTarget x.op partition mapper ready)
      (fun _ => Announced x mapper "") s := by
  refine guarded_do (ops_announced.within_ensure s hs) fun _ t ht => ?_
  refine guarded_do (ops_announced.within_ask t ht) fun luksUuid t ht => ?_
  refine guarded_do (ops_announced.within_ensure t ht) fun _ t ht => ?_
  refine guarded_do
    (M := fun
      | .ok _ => Opened x mapper ""
      | .error _ => Announced x mapper "")
    ((guarded_attempt _).mpr (inspects_openMapper hmode ht)) ?_
  rintro (e | ⟨⟩) t ht
  · -- nothing was mounted and nothing is taken to be open
    have hses : AccountedWithin x (Announced x mapper "")
        (finishSession x.op mapper false false (some e)) := by
      refine (within_ret ops_announced.stable).attempt.seq fun _ => ?_
      refine (within_ret ops_announced.stable).attempt.seq fun _ => ?_
      split
      · exact within_ret ops_announced.stable
      · exact within_fail ops_announced.stable
    exact hses.seq (fun _ => within_fail ops_announced.stable) t ht
  · refine guarded_do (M := fun _ => Opened x mapper "") ?_ ?_
    · -- the errors of this part are values
      exact ops_opened.guarded_inspectMapping hready ht
    · rintro ⟨mounted, e | summary⟩ t ht
      · exact guarded_do (inspects_finishSession hmode ht) fun _ t ht =>
          guarded_fail stable_holding ht fun _ hu => hu
      · exact guarded_do (inspects_finishSession hmode ht) fun _ t ht =>
          guarded_ret stable_holding ht fun _ hu => hu

/-- The call that closes the only mapping there may be. -/
theorem guarded_closeMapper (hO : ∀ m, O m → m = mapper) (hs : Holding x O N v s) :
    Guarded (Faithful x.op x.mode) (Aside x.op) (Accounts x)
      (closeMapper x.op mapper) (fun _ => AllClosed x v)
      (fun _ t => Holding x O N v t ∨ AllClosed x v t) s :=
  guarded_perform keeping_refl stable_holding stable_holding hs fun _ _ ht _ =>
    closes ht (fun m hm => hO m (ht.achieved.openings m hm)) (fun _ _ => trivial)
      ht.achieved.mapper fun hmode => (ht.achieved.calm hmode).begun

theorem leaves_closeMapper (hmap : mapper ≠ "" ∧ x.mode ≠ .adoptExistingTarget)
    (hs : Opened x mapper mapper s) :
    Leaves x (closeMapper x.op mapper) (fun _ => AllClosed x mapper) s := by
  refine (guarded_closeMapper (fun _ h => h) hs).mono_error fun _ _ hu => ?_
  rcases hu with hu | hu
  · exact .inr ⟨mapper, hmap, .inl hu⟩
  · exact .inl ⟨mapper, hu⟩

/-- The end of the handler at a stage whose writes include its own. -/
theorem within_reportFailure {W} (h : AccountingOps x (Holding x O N v) W)
    (hW : ∀ r now, W r (stamped now (markFailed x.mode e required ok r))) :
    AccountedWithin x (Holding x O N v) (do
        let _ ← (amend x.op (markFailed x.mode e required ok)).attempt
        releaseProfileReservationAfterSafeFailure x.op) :=
  (h.within_amend hW).attempt.seq fun _ =>
    h.within_releaseAfterSafeFailure fun _ => ⟨rfl, rfl⟩

theorem leaves_reportFailure (hs : AllClosed x v s) : Leaves x (do
        let _ ← (amend x.op (markFailed x.mode e required ok)).attempt
        releaseProfileReservationAfterSafeFailure x.op) (fun _ => Left x) s :=
  (leaves_of_allClosed (within_reportFailure ops_allClosed fun _ _ => rfl) hs).mono_result
    fun _ _ hu => .inl ⟨v, hu⟩

variable {init : DevicePreparationTransaction} (hid : init.operationId = x.op)

include hid

variable {setup : ExecutorSetup}

/-- The inspection of the adopt mode leaves nothing open, whether it throws or not. -/
theorem within_verifyTarget_allClosed (hmode : x.mode = .adoptExistingTarget) :
    AccountedWithin x (AllClosed x "") (verifyTarget setup init partition) := by
  rw [verifyTarget, hid]
  have hweaken : ∀ {α : Type} {p : PreparationProg α} {Q : α → PreparationSystem → Prop} {t},
      Inspects x x.op.value p Q t →
      Guarded (Faithful x.op x.mode) (Aside x.op) (Accounts x) p Q
        (fun _ => AllClosed x "") t := fun hp =>
    hp.mono_error fun _ _ hu => hu.allClosed
  have hforget : ∀ cleanup, AccountedWithin x (AllClosed x "")
      (amend x.op (forgetMapper cleanup)) := fun cleanup =>
    ops_allClosed.within_amend fun _ _ => rfl
  intro s hs
  refine guarded_do (ops_allClosed.within_phase s hs) fun _ t ht => ?_
  refine guarded_do (ops_allClosed.within_ask t ht) fun _ t ht => ?_
  refine guarded_do (ops_allClosed.within_ask t ht) fun _ t ht => ?_
  -- the record names the mapping before it is opened
  refine guarded_do (M := fun _ => Announced x x.op.value "")
    ((guarded_amend keeping_refl stable_holding stable_holding ht
      fun i t r now ht _ hget hnext => ?_).mono_error
        fun _ _ hu => hu.elim id Holding.allClosed) fun _ t ht => ?_
  · exact ht.nowHeld (fun _ _ h => h.elim) hget hnext rfl ht.achieved.openings rfl
      ht.achieved.mapper (absurd hmode)
  · refine (guarded_handleError _ _).mpr ?_
    refine Guarded.mono (E := fun _ => AllClosed x "") ?_ (fun _ _ hG => hG)
      (fun _ _ hu => hu) fun e u hu => ?_
    · refine guarded_do (hweaken (ops_announced.within_requestAccess t ht)) fun _ t ht => ?_
      refine guarded_do (hweaken (ops_announced.within_ask t ht)) fun _ t ht => ?_
      refine guarded_do (hweaken (inspects_inspectExistingTarget hmode
        (ops_opened.within_mapperReady hid) ht)) fun inspected t ht => ?_
      refine guarded_do (hweaken (ops_announced.within_ask t ht)) fun _ t ht => ?_
      refine guarded_do (hweaken (ops_announced.within_ensure t ht)) fun _ t ht => ?_
      refine guarded_do (hforget _ t ht.allClosed) fun _ t ht => ?_
      exact guarded_ret stable_holding ht fun _ hu => hu
    · refine guarded_do (ops_allClosed.within_ask.attempt u hu) fun _ t ht => ?_
      refine guarded_do (hforget _ t ht) fun _ t ht => ?_
      exact guarded_fail stable_holding ht fun _ hu => hu

theorem within_adoptTarget_allClosed (hmode : x.mode = .adoptExistingTarget) :
    AccountedWithin x (AllClosed x "") (adoptTarget setup init partition) := by
  have hverify : AccountedWithin x (AllClosed x "")
      (verifyTarget setup init partition) := within_verifyTarget_allClosed hid hmode
  cases x
  subst hid
  refine ops_allClosed.within_ensure.seq fun _ => hverify.seq fun _ => ?_
  refine ops_allClosed.within_requestAccess.seq fun _ =>
    ops_allClosed.within_ensure.seq fun _ => ?_
  refine (ops_allClosed.within_amend fun _ _ => by exact rfl).seq fun _ => ?_
  refine (ops_allClosed.within_writeProfile fun _ _ => by exact ⟨rfl, id, .inr rfl⟩).seq
    fun _ => ?_
  exact ops_allClosed.within_succeed ops_allClosed.within_releaseProfileReservation

/-! ### The other modes -/

/-- The mapping is opened, and then the record names it. -/
theorem leaves_openNewMapper (hmap : mapper ≠ "" ∧ x.mode ≠ .adoptExistingTarget)
    (hs : Unopened x "" s) :
    Leaves x (openNewMapper init num mapper) (fun _ => Opened x mapper mapper) s := by
  obtain ⟨op, mode, before⟩ := x
  subst hid
  refine guarded_do (leaves_of_allClosed ops_unopened.within_phase hs) fun _ t ht => ?_
  refine guarded_do (leaves_of_allClosed ops_unopened.within_requestAccess ht) fun _ t ht => ?_
  refine guarded_do (leaves_of_allClosed ops_unopened.within_ask ht) fun _ t ht => ?_
  refine guarded_do (guarded_setMapper_holding (fun _ _ h => h.elim) ht) fun _ t ht => ?_
  refine guarded_do (M := fun _ => Underway init.operationId mode
    (Unrecorded ⟨init.operationId, mode, before⟩ mapper)) ?_ fun _ t ht => ?_
  · refine (guarded_perform keeping_refl stable_holding stable_unrecorded ht fun i t ht _ =>
      opens_unrecorded hmap.2 hmap.1 ht).mono_error fun _ _ hu => ?_
    rcases hu with hu | hu
    · exact .inl ⟨mapper, hu.allClosed⟩
    · exact .inr ⟨mapper, hmap, .inr hu⟩
  refine guarded_do ((guarded_amend keeping_refl stable_unrecorded stable_holding ht
      fun i t r now ht _ hget hnext => ?_).mono_error
        fun _ _ hu => .inr ⟨mapper, hmap, hu.symm⟩) fun _ t ht => ?_
  · exact ht.nowHeld (fun m n hm hn => hn.trans hm.symm) hget hnext rfl ht.achieved.openings rfl
      ht.achieved.mapper fun _ => ht.achieved.justOpened.begun
  refine guarded_do (leaves_of_opened hmap ops_opened.within_ask ht) fun _ t ht => ?_
  refine guarded_do (leaves_of_opened hmap
    (ops_opened.within_amend fun _ _ => by exact ⟨rfl, rfl⟩) ht) fun _ t ht => ?_
  exact leaves_of_opened hmap ops_opened.within_requestAccess ht

theorem leaves_closeNewMapper (hmap : mapper ≠ "" ∧ x.mode ≠ .adoptExistingTarget)
    (hs : Opened x mapper mapper s) :
    Leaves x (closeNewMapper init num mapper) (fun _ => AllClosed x "") s := by
  cases x
  subst hid
  refine guarded_do (leaves_of_opened hmap ops_opened.within_phase hs) fun _ t ht => ?_
  refine guarded_do (leaves_closeMapper hmap ht) fun _ t ht => ?_
  refine guarded_do (guarded_setMapper_holding (fun _ _ h => h.elim) ht) fun _ t ht => ?_
  refine guarded_do (leaves_of_allClosed
    (ops_allClosed.within_amend fun _ _ => by exact rfl) ht) fun _ t ht => ?_
  exact leaves_of_allClosed ops_allClosed.within_requestAccess ht

/-- All that follows once there is a partition. -/
theorem leaves_fillPartition {partition : String} (hmode : x.mode ≠ .adoptExistingTarget)
    (hs : Unopened x "" s) : Leaves x (fillPartition init partition) (fun _ => Left x) s := by
  obtain ⟨op, mode, before⟩ := x
  subst hid
  have hmap : "btrfs-backup-" ++ init.profileId.value ≠ "" ∧ mode ≠ .adoptExistingTarget :=
    ⟨by simp, hmode⟩
  refine guarded_do (leaves_of_allClosed (ops_unopened.within_partitionNumber rfl) hs)
    fun num t ht => ?_
  refine guarded_do (leaves_of_allClosed (ops_unopened.within_formatLuks ⟨rfl, rfl⟩) ht)
    fun _ t ht => ?_
  refine guarded_do (leaves_openNewMapper rfl hmap ht) fun _ t ht => ?_
  refine guarded_do (leaves_of_opened hmap
    (ops_opened.within_makeFilesystem rfl fun _ => ⟨rfl, rfl⟩) ht) fun _ t ht => ?_
  refine guarded_do (leaves_closeNewMapper rfl hmap ht) fun _ t ht => ?_
  exact (leaves_of_allClosed (ops_allClosed.within_installProfile rfl
    ops_allClosed.within_releaseProfileReservation) ht).mono_result fun _ _ hu => .inl ⟨"", hu⟩

/-! ### The handler -/

theorem within_handleFailure_left (hmode : init.target.mode = x.mode) :
    AccountedWithin x (Left x) (handleFailure init e) := by
  rw [handleFailure, hid, hmode]
  intro s hs t hst
  rcases stable_left s t hst hs with ⟨v, ht⟩ | ⟨mapper, hmap, ht | ht⟩
  · -- nothing is open: closing is harmless
    have hclose : AccountedWithin x (AllClosed x v) (closeMapper x.op v) := fun _ hs =>
      (guarded_closeMapper (fun _ h => h.elim) hs).mono_error fun _ _ hu => hu.elim id id
    dsimp only
    rw [ht.achieved.mapper]
    refine guarded_do ((guarded_attempt _).mpr (within_ite (within_ret stable_holding) hclose t ht))
      fun _ u => leaves_reportFailure
  · -- the mapping is named: if it cannot be closed, the record goes on to name it
    dsimp only
    rw [ht.achieved.mapper, if_neg hmap.1]
    refine guarded_do
      (M := fun closing u => AllClosed x mapper u ∨
        (closing.isOk = false ∧ Opened x mapper mapper u))
      ((guarded_attempt _).mpr ?_) fun closing u hu => ?_
    · exact (guarded_closeMapper (fun _ h => h) ht).mono (fun _ _ hG => hG)
        (fun _ _ => .inl) fun _ _ hu => hu.elim (fun hu => .inr ⟨rfl, hu⟩) .inl
    · rcases hu with hu | ⟨hfailed, hu⟩
      · exact leaves_reportFailure hu
      · rw [hfailed]
        exact (leaves_of_opened hmap (within_reportFailure ops_opened fun _ _ => ⟨rfl, rfl⟩)
          hu).mono_result fun _ _ hu => .inr ⟨mapper, hmap, .inl hu⟩
  · -- the record does not name the mapping yet, but the variable of the execution does
    dsimp only
    rw [ht.achieved.mapper, if_neg hmap.1]
    have hcloses : ∀ u, Underway x.op x.mode (Unrecorded x mapper) u →
        Accounts x u (u.closeMapping x.op mapper) ∧
          AllClosed x mapper (u.closeMapping x.op mapper) := fun u hu =>
      closes hu hu.achieved.openings (fun _ _ => trivial) hu.achieved.mapper
        fun _ => hu.achieved.justOpened.begun
    refine guarded_do
      ((guarded_attempt _).mpr (guarded_perform_cases keeping_refl stable_unrecorded
        stable_holding stable_holding ht (fun i u hu _ _ => hcloses u hu)
        (fun i u e hu _ _ _ => hcloses u hu) fun i u e hu hA _ heff => ?_))
      fun _ u hu => leaves_reportFailure hu
    rcases hA.2 with hclosed | ⟨-, hnamed⟩
    · rw [heff] at hclosed
      cases hclosed
    · obtain ⟨w, hw⟩ := latest_ne_none hu.begun
      exact absurd ((hnamed w hw).symm.trans (hu.achieved.named w hw)) hmap.1

/-! ### The execution -/

/-- The part after the safety inspection. -/
theorem leaves_carryOut {plan : Plan} (hmode : init.target.mode = x.mode)
    (hplan : planOf init.target = .ok plan) (hs : Unopened x "" s) :
    Leaves x (carryOut setup init plan) (fun _ => Left x) s := by
  cases x
  subst hid hmode
  refine guarded_carryOut hplan (fun hadopt partition => ?_)
    (leaves_of_allClosed (ops_unopened.within_backupPartitionTable rfl fun _ _ _ => ⟨rfl, rfl⟩) hs)
    (fun _ _ _ _ => leaves_of_allClosed (ops_unopened.within_wipeSignatures ⟨rfl, rfl⟩))
    (fun _ _ _ ht =>
      leaves_of_allClosed (ops_unopened.within_makePartition ⟨rfl, rfl⟩) (ht.elim id id))
    (fun _ _ _ => leaves_of_allClosed (ops_unopened.within_wipeSignatures ⟨rfl, rfl⟩) hs)
    stable_holding fun hadopt _ _ => leaves_fillPartition rfl hadopt
  exact (leaves_of_allClosed (within_adoptTarget_allClosed rfl hadopt) hs.allClosed).mono_result
    fun _ _ hu => .inl ⟨"", hu⟩

omit hid

theorem leaves_execute (hs : Unopened x v s) :
    Leaves x (execute setup x.op) (fun _ => Left x) s := by
  have hleft : ∀ v t, Unopened x v t → Left x t := fun v _ ht => .inl ⟨v, ht.allClosed⟩
  refine guarded_execute ops_unopened.toHelperOps (fun t r ht hget _ => ht.mode r hget) (hleft v)
    (fun t ht => guarded_setMapper_holding (fun _ _ h => h.elim) ht)
    (fun init t hid hmode ht => ?_)
    (fun init e hid hmode => within_handleFailure_left hid hmode) hs
  exact guarded_executeBody ops_unopened.toHelperOps ops_unopened.toHelperOps hid
    (ops_unopened.within_phase_of fun _ _ => ⟨rfl, rfl⟩)
    (ops_unopened.within_amend fun _ _ => by exact ⟨rfl, rfl⟩) (hleft "") (hleft "")
    (fun t ht => leaves_of_allClosed (ops_unopened.within_acquireDeviceLock ⟨rfl, rfl⟩) ht)
    (fun t ht => leaves_of_allClosed (ops_unopened.within_inspectSafety fun _ => ⟨rfl, rfl⟩) ht)
    (fun plan t => leaves_carryOut hid hmode) ht

/-! ### The helper and the manager -/

/-- The manager leaves the mappings and their names as they are. -/
theorem sound_of_aside (hst : Aside x.op s t) (hbegun : s.history x.op ≠ [])
    (hs : Sound x s) : Sound x t := by
  have hnamed : Named x.op t ↔ Named x.op s := by
    rw [Named, Named, hst.mappings]
    refine forall₂_congr fun mapper _ => ?_
    obtain ⟨w, hw⟩ := latest_ne_none (hst.growth.history_ne_nil hbegun)
    obtain ⟨r, hr, hhandled⟩ := hst.latest hbegun w hw
    simp [hw, hr, hhandled.mapper]
  refine ⟨?_, fun hmode => ?_⟩
  · have haccounted : Named x.op s ↔ _ := hs.1
    rw [Accounted, hnamed, haccounted]
    by_cases hmode : x.mode = .adoptExistingTarget
    · simp [hmode]
    · obtain ⟨earlier, hearlier, -⟩ := hs.2 hmode
      obtain ⟨added, hadded, haside⟩ := hst.trace
      rw [JustOpened, JustOpened, hadded, hearlier, ← append_assoc, since_append,
        since_append, openedLast_append haside]
  · obtain ⟨earlier, hearlier, -⟩ := hs.2 hmode
    obtain ⟨added, hadded, -⟩ := hst.trace
    exact ⟨added ++ earlier, by rw [hadded, hearlier, append_assoc], trivial⟩

end stages

variable {setup : ExecutorSetup} {operationId : OperationId} {requests : Nat → List ManagerRequest}
  {system : PreparationSystem} {r : DevicePreparationTransaction}
  {schedule : List (Party × PreparationAnswer)}

/-- In every run in which the calls on mappings do what the executor takes them to do,
and at each of its points, the persisted record names every mapping the operation has
open, except if a mapping was opened, for a target that is not adopted, and the helper
has not written since. -/
theorem mapping_named_iff (horderly : Orderly system)
    (hstored : system.transactions operationId = some r) (hmapper : r.mapper = "")
    (hclosed : ∀ mapper, (operationId, mapper) ∉ system.mappings)
    (hfaithful : Pool.Permitted (Faithful operationId r.target.mode) schedule
      (preparationPool setup operationId requests system)) :
    Named operationId
      (Pool.run schedule (preparationPool setup operationId requests system)).state ↔
      (r.target.mode = .adoptExistingTarget ∨ ¬JustOpened operationId (system.trace operationId)
        (Pool.run schedule (preparationPool setup operationId requests system)).state) := by
  have hunopened : Unopened ⟨operationId, r.target.mode, system.trace operationId⟩
      (system.mapper operationId) system := by
    refine underway_of_stored horderly hstored
      ⟨hclosed, fun w hw => ?_, rfl, fun _ => ⟨[], rfl, rfl⟩⟩
    rw [latest, horderly.stored operationId r hstored, Option.some.injEq] at hw
    rw [← hw]
    exact hmapper
  have hsound := kept_run (fun _ _ _ h => h.1) horderly (leaves_execute hunopened) hfaithful
    (fun _ _ => sound_of_aside) hunopened.begun (Holding.sound (fun _ _ h => h.elim) hunopened)
  exact hsound.1

theorem not_named {s} (mapper name : String) (hmem : (operationId, mapper) ∈ s.mappings)
    (hlatest : (s.latest operationId).map (·.mapper) = some name) (hne : name ≠ mapper) :
    ¬Named operationId s := by
  intro hnamed
  obtain ⟨w, hw, hmap⟩ := hnamed mapper hmem
  rw [hw, Option.map_some, Option.some.injEq] at hlatest
  exact hne (hlatest.symm.trans hmap)

namespace Sample

/-- A helper, and a thread of the manager that grants access to devices. -/
def supervised (transaction : DevicePreparationTransaction) :
    Pool Party PreparationCall PreparationAnswer PreparationSystem Raised Unit :=
  preparationPool ⟨true, "/run"⟩ operation
    (fun | 0 => [.reconcile ⟨100, 1000⟩] | _ => []) (registered transaction)

/-- The manager sees the operation and grants what it asks for. -/
def granting : List (Party × PreparationAnswer) :=
  List.replicate 6 (.manager 0, { success with operations := [operation] })

/-- The helper gets `n` answers. -/
def helping (n : Nat) (answer : PreparationAnswer) : List (Party × PreparationAnswer) :=
  List.replicate n (.helper, answer)

/-- The helper stops right after it has opened the mapping. -/
def untilOpening : List (Party × PreparationAnswer) :=
  helping 24 success ++ granting ++ helping 5 success

/-- The helper stops after it has named the mapping. -/
def untilNaming : List (Party × PreparationAnswer) := untilOpening ++ helping 2 success

theorem naming_named : Named operation (Pool.run untilNaming (supervised created)).state ↔
      (created.target.mode = .adoptExistingTarget ∨
        ¬JustOpened operation [.wrote .manager created.next]
          (Pool.run untilNaming (supervised created)).state) := by
  have hfaithful : Pool.Permitted (Faithful operation created.target.mode) untilNaming
      (supervised created) := by decide +kernel
  exact mapping_named_iff (r := created.next) (orderly_registered created) rfl rfl
    (fun _ => not_mem_nil) hfaithful

/-- A transaction that adopts a target. -/
def adopting : DevicePreparationTransaction :=
  { created with
    target := { created.target with
      mode := .adoptExistingTarget
      partition := some {
        displayPath := "/dev/sdb1"
        majorMinor := "8:17"
        filesystemType := "crypto_LUKS"
        filesystemVersion := "2"
        filesystemLabel := ""
        filesystemUuid := "text"
        partitionUuid := some "part"
        suitableForAdoption := true
        mountPoints := []
        holders := []
        activeSwap := false
        blockers := [] }
      expectedInspection := some success.summary } }

/-- The mapping of an adoption cannot be used and cannot be closed. -/
def closingFails : List (Party × PreparationAnswer) :=
  helping 18 success ++ granting ++ helping 5 success ++ helping 2 failure ++ helping 14 success

/-- A helper that stops after opening a mapping, and an adoption whose failure was
handled: in both cases a mapping is open that the record does not name. -/
theorem unnamed_mappings : (Pool.Permitted FreshIds untilOpening (supervised created) ∧
      ¬Named operation (Pool.run untilOpening (supervised created)).state) ∧
    (Pool.Permitted FreshIds closingFails (supervised adopting) ∧
      ((Pool.run closingFails (supervised adopting)).state.transactions operation).map (·.state) =
        some .failed ∧
      ¬Named operation (Pool.run closingFails (supervised adopting)).state) := by
  refine ⟨⟨by decide +kernel, ?_⟩, by decide +kernel, by decide +kernel, ?_⟩
  · exact not_named "btrfs-backup-laptop" "" (by decide +kernel) (by decide +kernel) (by decide)
  · exact not_named "prepare-1" "" (by decide +kernel) (by decide +kernel) (by decide)

end Sample

end Preparation

end BtrfsBackup
