/-
What an execution has achieved, seen by all processes.

A run is judged by its trace: `Each P` says that every event is right, given what
happened before it.  The helper keeps its trace right, because of what it has
achieved so far; and that lasts, whatever the manager does in between.

* `Since`, `Each` — statements on traces;
* `Underway` — what an execution has achieved, as an invariant of all processes;
* `Lasting` — what is not undone;
* `mappingOps_underway` — the operations of the helper;
* `kept_run` — what the execution and the manager keep holds in every run;
* `each_run` — every event of every run is right.
-/
import BtrfsBackup.PreparationInterference

open Interaction Interaction.Prog

namespace BtrfsBackup

namespace Preparation

open PreparationSystem

/-! ### Traces -/

/-- Something that happened since the trace was `before`. -/
def Since (before : List Event) (P : List Event → Prop) (trace : List Event) : Prop :=
  ∃ added, trace = added ++ before ∧ P added

section since

variable {pre added later earlier trace : List Event} {P Q : List Event → Prop} {event : Event}

theorem since_append : Since pre P (added ++ pre) ↔ P added := by
  refine ⟨fun ⟨added', hadded', hP⟩ => ?_, fun hP => ⟨added, rfl, hP⟩⟩
  rwa [List.append_cancel_right hadded']

/-- One more event. -/
theorem Since.cons (h : Since pre P trace) (event : Event)
    (hQ : ∀ added, P added → Q (event :: added)) : Since pre Q (event :: trace) := by
  obtain ⟨added, rfl, hP⟩ := h
  exact ⟨event :: added, rfl, hQ added hP⟩

/-- Every event is right, given what happened before it; the newest event is the
first one. -/
def Each (P : Event → List Event → Prop) : List Event → Prop
  | [] => True
  | event :: earlier => P event earlier ∧ Each P earlier

variable {P : Event → List Event → Prop}

theorem Each.of_append (h : Each P (later ++ event :: earlier)) : P event earlier := by
  induction later with
  | nil => exact h.1
  | cons newer later ih => exact ih h.2

theorem each_since
    (h : Since pre (Each P) (later ++ event :: (earlier ++ pre))) : P event earlier := by
  rw [← List.cons_append, ← List.append_assoc] at h
  exact (since_append.mp h).of_append

/-- An event that is right. -/
theorem each_cons (h : Since pre (Each P) trace)
    (hevent : Since pre (P event) trace) : Since pre (Each P) (event :: trace) := by
  obtain ⟨added, rfl, heach⟩ := h
  exact ⟨event :: added, rfl, since_append.mp hevent, heach⟩

theorem each_append (h : Since pre (Each P) trace)
    (added : List Event) (hadded : ∀ event ∈ added, ∀ earlier, P event earlier) :
    Since pre (Each P) (added ++ trace) := by
  induction added with
  | nil => exact h
  | cons event added ih =>
    obtain ⟨earlier, hearlier, heach⟩ := ih fun e he => hadded e (List.mem_cons_of_mem event he)
    refine ⟨event :: earlier, by rw [List.cons_append, hearlier, List.cons_append], ?_, heach⟩
    exact hadded event List.mem_cons_self earlier

end since

/-- An event that is not judged: neither a call that destroys something nor a release
after a failure. -/
def Event.quiet : Event → Bool
  | .destroying _ => false
  | .releasedAfterFailure _ => false
  | _ => true

theorem Event.quiet_of_aside {event : Event} (h : event.aside = true) : event.quiet = true := by
  cases event with
  | destroying call => cases h
  | releasedAfterFailure seen => cases h
  | _ => rfl

/-- A way to judge the events of an execution. -/
def Verdict (P : Event → List Event → Prop) : Prop :=
  ∀ event earlier, event.quiet = true → P event earlier

/-! ### The execution as seen by all processes -/

section underway

variable {op : OperationId} {mode : ProvisioningMode} {s t : PreparationSystem}
  {P : Event → List Event → Prop} {J K K' : PreparationSystem → Prop}
  {A : PreparationCall → PreparationAnswer → PreparationSystem → Prop}
  {W : DevicePreparationTransaction → DevicePreparationTransaction → Prop}
  {V : Event → Prop} {r w : DevicePreparationTransaction} {pre : List Event} {event : Event}

/-- What the helper guarantees: the records grow, and `J` is kept. -/
structure Keeping (J : PreparationSystem → Prop) (s t : PreparationSystem) : Prop where
  growth : Growth (fun _ _ => True) s t
  kept : J s → J t

theorem keeping_refl (s : PreparationSystem) : Keeping J s s :=
  ⟨growth_refl s, id⟩

/-- Every event since the trace was `before` is right. -/
abbrev Careful (op : OperationId) (P : Event → List Event → Prop) (before : List Event)
    (s : PreparationSystem) : Prop :=
  Since before (Each P) (s.trace op)

/-- The record exists with its mode, and `K` was achieved. -/
structure Underway (op : OperationId) (mode : ProvisioningMode)
    (K : PreparationSystem → Prop) (system : PreparationSystem) : Prop where
  orderly : Orderly system
  begun : system.history op ≠ []
  mode : ∀ r, system.transactions op = some r → r.target.mode = mode
  achieved : K system

/-- Where an execution begins. -/
theorem underway_of_stored (hord : Orderly s) (hget : s.transactions op = some r) (hK : K s) :
    Underway op r.target.mode K s :=
  ⟨hord, List.ne_nil_of_mem (hord.mem_history hget),
    fun r' hr' => by rw [hget, Option.some.injEq] at hr'; rw [hr'], hK⟩

/-- Less was achieved. -/
theorem Underway.mono (h : Underway op mode K s) (hK : K s → K' s) : Underway op mode K' s :=
  ⟨h.orderly, h.begun, h.mode, hK h.achieved⟩

/-- A write of the helper that keeps the target. -/
theorem Underway.write (h : Underway op mode K s) (hget : s.transactions op = some r)
    (hnext : Succeeds r w) (htgt : w.target = r.target) (hK : K' (s.store .helper op w)) :
    Growth (fun _ _ => True) s (s.store .helper op w) ∧
    Underway op mode K' (s.store .helper op w) := by
  have hord := h.orderly.store .helper hget hnext trivial
  refine ⟨growth_store hord, hord, ?_, fun r' hr' => ?_, hK⟩
  · simp
  · rw [transactions_store_self, Option.some.injEq] at hr'
    rw [← hr', htgt]
    exact h.mode r hget

/-- Writes are not judged. -/
theorem careful_store (hP : Verdict P) (h : Careful op P pre s) :
    Careful op P pre (s.store .helper op w) := by
  rw [Careful, trace_store_self]
  exact each_append h [_] fun e he earlier => hP e earlier (by simp_all [Event.quiet])

theorem Underway.store (h : Underway op mode K s) (hP : Verdict P) (pre : List Event)
    (hget : s.transactions op = some r) (hnext : Succeeds r w)
    (htgt : w.target = r.target) (hK : K' (s.store .helper op w)) :
    Keeping (Careful op P pre) s (s.store .helper op w) ∧
      Underway op mode K' (s.store .helper op w) := by
  obtain ⟨hgrowth, hunderway⟩ := h.write hget hnext htgt hK
  exact ⟨⟨hgrowth, careful_store hP⟩, hunderway⟩

/-- A step that does not touch the records. -/
structure Extends (op : OperationId) (added : List Event) (s t : PreparationSystem) :
    Prop where
  transactions : t.transactions = s.transactions
  trace : t.trace op = added ++ s.trace op
  history : ∀ other, t.history other = s.history other

theorem extends_record (op : OperationId) (hcont : event.content = none) :
    Extends op [event] s (s.record op event) where
  transactions := rfl
  trace := trace_record_self
  history other := by
    by_cases hother : other = op
    · subst hother
      simp [history, record, hcont]
    · simp [history, record, hother]

variable {added : List Event}

theorem Extends.orderly (h : Extends op added s t) (hs : Orderly s) : Orderly t :=
  ⟨fun other => h.history other ▸ hs.chain other, fun other => h.history other ▸ hs.named other,
    fun other => h.history other ▸ h.transactions ▸ hs.stored other,
    fun other => h.history other ▸ h.transactions ▸ hs.pruned other⟩

theorem Extends.growth (h : Extends op added s t) : Growth (fun _ _ => True) s t :=
  ⟨fun other => h.history other ▸ List.suffix_refl _, h.orderly⟩

theorem Underway.extend (h : Underway op mode K s)
    (hext : Extends op added s t) (hK : K' t) : Underway op mode K' t :=
  ⟨hext.orderly h.orderly, hext.history op ▸ h.begun,
    hext.transactions ▸ h.mode, hK⟩

/-- An event that is right. -/
theorem careful_extend (hst : Extends op [event] s t) (hevent : Since pre (P event) (s.trace op))
    (h : Careful op P pre s) : Careful op P pre t := by
  rw [Careful, hst.trace]
  exact each_cons h hevent

theorem keeping_record (hcont : event.content = none)
    (hevent : Since pre (P event) (s.trace op)) :
    Keeping (Careful op P pre) s (s.record op event) :=
  have hext := extends_record op hcont
  ⟨hext.growth, careful_extend hext hevent⟩

/-! ### What lasts -/

/-- What was achieved is not undone, neither by the manager nor by the writes `W` and
the events `V` of the helper. -/
structure Lasting (op : OperationId)
    (W : DevicePreparationTransaction → DevicePreparationTransaction → Prop) (V : Event → Prop)
    (K : PreparationSystem → Prop) : Prop where
  aside : ∀ s t, Aside op s t → s.history op ≠ [] → K s → K t
  store : ∀ s r w, Orderly s → s.transactions op = some r → W r w → K s →
    K (s.store .helper op w)
  extend : ∀ s t added, Extends op added s t → (∀ event ∈ added, V event) → K s → K t

theorem Lasting.and (h : Lasting op W V K) (h' : Lasting op W V K') :
    Lasting op W V fun s => K s ∧ K' s where
  aside s t hst hs hK := ⟨h.aside s t hst hs hK.1, h'.aside s t hst hs hK.2⟩
  store s r w hs hr hw hK := ⟨h.store s r w hs hr hw hK.1, h'.store s r w hs hr hw hK.2⟩
  extend s t added hst hV hK := ⟨h.extend s t added hst hV hK.1, h'.extend s t added hst hV hK.2⟩

/-- Fewer writes and events. -/
theorem Lasting.restrict {W' V'} (h : Lasting op W V K) (hW : ∀ r w, W' r w → W r w)
    (hV : ∀ event, V' event → V event) : Lasting op W' V' K :=
  ⟨h.aside, fun s r w hs hr hw => h.store s r w hs hr (hW r w hw),
    fun s t added hst hadded => h.extend s t added hst fun e he => hV e (hadded e he)⟩

/-- What has happened has happened. -/
theorem lasting_since {Q} (hQ : ∀ added trace, Q trace → Q (added ++ trace)) :
    Lasting op W V fun s => Since pre Q (s.trace op) := by
  have happend : ∀ added trace, Since pre Q trace → Since pre Q (added ++ trace) := by
    rintro added trace ⟨earlier, rfl, h⟩
    exact ⟨added ++ earlier, (List.append_assoc ..).symm, hQ added earlier h⟩
  refine ⟨fun s t hst _ hs => ?_, fun s r w _ _ _ hs => ?_, fun s t added hst _ hs => ?_⟩
  · obtain ⟨added, hadded, -⟩ := hst.trace
    rw [hadded]
    exact happend added _ hs
  · rw [trace_store_self]
    exact happend [_] _ hs
  · rw [hst.trace]
    exact happend added _ hs

/-- A step of the manager. -/
theorem Underway.aside (hs : Underway op mode K s) (hst : Aside op s t)
    (hK : K' t) : Underway op mode K' t := by
  refine ⟨hst.growth.lawful hs.orderly, hst.growth.history_ne_nil hs.begun, fun r hr => ?_, hK⟩
  obtain ⟨r₀, hr₀, hhandled⟩ := hst.transaction hs.begun r hr
  rw [hhandled.target]
  exact hs.mode r₀ hr₀

theorem stable_underway (hK : Lasting op W V K) : Stable (Aside op) (Underway op mode K) :=
  fun s t hst hs => hs.aside hst (hK.aside s t hst hs.begun hs.achieved)

/-- The execution began when the trace was `before`. -/
def Begun (op : OperationId) (before : List Event) (s : PreparationSystem) : Prop :=
  Since before (fun _ => True) (s.trace op)

theorem Since.begun {Q} (h : Since pre Q (s.trace op)) : Begun op pre s := by
  obtain ⟨added, hadded, -⟩ := h
  exact ⟨added, hadded, trivial⟩

theorem lasting_begun : Lasting op W V (Begun op pre) :=
  lasting_since fun _ _ _ => trivial

/-! ### The operations of the helper -/

/-- At a stage, the writes `W` and the events `V` undo nothing and keep `J`. -/
structure Upholds (op : OperationId) (mode : ProvisioningMode)
    (W : DevicePreparationTransaction → DevicePreparationTransaction → Prop) (V : Event → Prop)
    (K J : PreparationSystem → Prop) : Prop where
  lasting : Lasting op W V K
  plain : ∀ r w, Plain r w → W r w
  target : ∀ r w, W r w → w.target = r.target
  content : ∀ event, V event → event.content = none
  store : ∀ s r w, Underway op mode K s → s.transactions op = some r → W r w → J s →
    J (s.store .helper op w)
  event : ∀ s t event, Underway op mode K s → Extends op [event] s t → V event → J s → J t
  silent : ∀ s t, Underway op mode K s → Extends op [] s t → J s → J t

/-- Events that are right at a stage; the others are not judged. -/
theorem upholds_careful (hP : Verdict P) (hK : Lasting op W V K)
    (hplain : ∀ r w, Plain r w → W r w) (htgt : ∀ r w, W r w → w.target = r.target)
    (hcont : ∀ event, V event → event.content = none)
    (hV : ∀ s event, Underway op mode K s → V event → Since pre (P event) (s.trace op)) :
    Upholds op mode W V K (Careful op P pre) where
  lasting := hK
  plain := hplain
  target := htgt
  content := hcont
  store _ _ _ _ _ _ := careful_store hP
  event s _ event hs hst hevent := careful_extend hst (hV s event hs hevent)
  silent _ _ _ hst h := by rwa [Careful, hst.trace]

/-- What is kept is a part of what was achieved. -/
theorem upholds_achieved (hK : Lasting op W V K) (hJ : ∀ s, K s → J s)
    (hplain : ∀ r w, Plain r w → W r w) (htgt : ∀ r w, W r w → w.target = r.target)
    (hcont : ∀ event, V event → event.content = none) : Upholds op mode W V K J where
  lasting := hK
  plain := hplain
  target := htgt
  content := hcont
  store s r w hs hr hw _ := hJ _ (hK.store s r w hs.orderly hr hw hs.achieved)
  event s t _ hs hst hevent _ := hJ t (hK.extend s t _ hst (by simpa using hevent) hs.achieved)
  silent s t hs hst _ := hJ t (hK.extend s t _ hst (by simp) hs.achieved)

/-- A step without an event. -/
theorem Upholds.silently (h : Upholds op mode W V K J) (hs : Underway op mode K s)
    (hext : Extends op [] s t) : Keeping J s t ∧ Underway op mode K t :=
  ⟨⟨hext.growth, h.silent s t hs hext⟩,
    hs.extend hext (h.lasting.extend _ _ _ hext (by simp) hs.achieved)⟩

/-- A step with an event. -/
theorem Upholds.openly (h : Upholds op mode W V K J) (hs : Underway op mode K s)
    (hext : Extends op [event] s t) (hevent : V event) : Keeping J s t ∧ Underway op mode K t :=
  ⟨⟨hext.growth, h.event s t event hs hext hevent⟩,
    hs.extend hext (h.lasting.extend _ _ _ hext (by simpa using hevent) hs.achieved)⟩

theorem helperOps_underway (h : Upholds op mode W V K J) :
    HelperOps op A (Aside op) (Keeping J) (Underway op mode K) W V where
  rely := isRely_aside
  refl := keeping_refl
  stable := stable_underway h.lasting
  plain := h.plain
  write _ s r w _ hs _ hr hnext hw := by
    obtain ⟨hgrowth, hlater⟩ := hs.write hr hnext (h.target r w hw)
      (h.lasting.store s r w hs.orderly hr hw hs.achieved)
    exact ⟨⟨hgrowth, h.store s r w hs hr hw⟩, hlater⟩
  event s event hs hevent := h.openly hs (extends_record op (h.content event hevent)) hevent

theorem mappingOps_underway (h : Upholds op mode W V K J)
    (hA : ∀ call i t, A call i t → FreshIds call i t)
    (hreserve : ∀ r now state, W r (stamped now { r with profileReservationState := state }))
    (hmapping : ∀ mapper, V (.opened mapper) ∧ V (.closed mapper)) :
    MappingOps op A (Aside op) (Keeping J) (Underway op mode K) W V where
  toHelperOps := helperOps_underway h
  fresh _ _ _ := hA _ _ _
  orderly _ h := h.orderly
  known _ _ _ hst hr := (hst.growth.history _).mem hr
  kept _ _ _ hst hr := (hst.growth.history _).mem hr
  reserve := hreserve
  openMapping _ mapper hs := h.openly hs
    ⟨rfl, (extends_record op rfl).trace, (extends_record op rfl).history⟩ (hmapping mapper).1
  closeMapping _ mapper hs := h.openly hs
    ⟨rfl, (extends_record op rfl).trace, (extends_record op rfl).history⟩ (hmapping mapper).2
  setMapper _ _ hs := h.silently hs ⟨rfl, rfl, fun _ => rfl⟩
  setReservation _ _ _ hs := h.silently hs ⟨rfl, rfl, fun _ => rfl⟩

theorem freeOps_underway (h : Upholds op mode Loose V K J)
    (hA : ∀ call i t, A call i t → FreshIds call i t)
    (hmapping : ∀ mapper, V (.opened mapper) ∧ V (.closed mapper)) :
    FreeOps op A (Aside op) (Keeping J) (Underway op mode K) V :=
  mappingOps_underway h hA (fun _ _ _ => ⟨rfl, rfl, id, .inl rfl⟩) hmapping

/-! ### The way of an execution -/

section walk

variable {A : PreparationCall → PreparationAnswer → PreparationSystem → Prop}
  {R G : PreparationSystem → PreparationSystem → Prop} [IsRely R]
  {I₀ I₁ I₂ I₃ F : PreparationSystem → Prop}
  {W₀ W₁ : DevicePreparationTransaction → DevicePreparationTransaction → Prop}
  {V₀ V₁ : Event → Prop} {op : OperationId} {s : PreparationSystem}
  {setup : ExecutorSetup} {init : DevicePreparationTransaction}

/-- The inspection of the device and the sources, which can be cancelled. -/
theorem guarded_inspectPlan (h : HelperOps op A R G I₀ W₀ V₀) (hid : init.operationId = op)
    (hphase : Within A R G I₀ (phase op .inspect true))
    (hcompleted : Within A R G I₀ (completed op .inspect)) (hs : I₀ s) :
    Guarded A R G (inspectPlan init)
      (fun plan t => I₀ t ∧ planOf init.target = .ok plan) (fun _ => I₀) s := by
  subst hid
  refine guarded_do (hphase s hs) fun _ t ht => ?_
  cases hplan : planOf init.target with
  | error e =>
    refine guarded_do ?_ fun _ _ => False.elim
    exact guarded_fail h.stable ht fun _ hu => hu
  | ok plan =>
    refine guarded_do (M := fun found t => found = plan ∧ I₀ t)
      (guarded_ret h.stable ht fun _ hu => ⟨rfl, hu⟩) ?_
    rintro _ t ⟨rfl, ht⟩
    refine guarded_do (h.within_revalidate t ht) fun _ t ht => ?_
    refine guarded_do (h.within_ask t ht) fun _ t ht => ?_
    refine guarded_do (within_forEach h.stable _
      (fun _ _ => h.within_checkSource) t ht) fun _ t ht => ?_
    refine guarded_do (hcompleted t ht) fun _ t ht => ?_
    exact guarded_ret h.stable ht fun _ hu => ⟨hu, rfl⟩

/-- From the first phase over the lock and the safety inspection to what the mode
needs; `F` is left if something throws. -/
theorem guarded_executeBody (h₀ : HelperOps op A R G I₀ W₀ V₀)
    (h₁ : HelperOps op A R G I₁ W₁ V₁) (hid : init.operationId = op)
    (hphase : Within A R G I₀ (phase op .inspect true))
    (hcompleted : Within A R G I₀ (completed op .inspect))
    (hF₀ : ∀ t, I₀ t → F t) (hF₁ : ∀ t, I₁ t → F t) (hlock : ∀ t, I₀ t →
      Guarded A R G (acquireDeviceLock op) (fun _ => I₁) (fun _ => F) t)
    (hinspect : ∀ t, I₁ t → Guarded A R G (inspectSafety op) (fun _ => I₂) (fun _ => F) t)
    (hcarry : ∀ plan t, planOf init.target = .ok plan → I₂ t →
      Guarded A R G (carryOut setup init plan) (fun _ => F) (fun _ => F) t) (hs : I₀ s) :
    Guarded A R G (executeBody setup init) (fun _ => F) (fun _ => F) s := by
  subst hid
  refine guarded_do ((guarded_inspectPlan h₀ rfl hphase hcompleted hs).mono_error
    fun _ => hF₀) fun plan t ht => ?_
  obtain ⟨ht, hplan⟩ := ht
  refine guarded_do (hlock t ht) fun _ t ht => ?_
  refine guarded_do ((h₁.within_revalidate t ht).mono_error fun _ => hF₁) fun _ t ht => ?_
  refine guarded_do (hinspect t ht) fun _ t ht => ?_
  exact hcarry plan t hplan ht

/-- All of an execution, given what is known of the record it reads; `I` is what holds
before the local variable is set. -/
theorem guarded_execute {I J} {M : DevicePreparationTransaction → Prop}
    (h : HelperOps op A R G I W₀ V₀)
    (hload : ∀ t r, I t → t.transactions op = some r → r.operationId = op → M r)
    (hF : ∀ t, I t → F t)
    (hmap : ∀ t, I t → Guarded A R G (setMapper op "") (fun _ => J) (fun _ => F) t)
    (hbody : ∀ init t, init.operationId = op → M init → J t →
      Guarded A R G (executeBody setup init) (fun _ => F) (fun _ => F) t)
    (hhandler : ∀ init e, init.operationId = op → M init →
      Within A R G F (handleFailure init e)) (hs : I s) :
    Guarded A R G (execute setup op) (fun _ => F) (fun _ => F) s := by
  have hweaken : ∀ {α : Type} {p : PreparationProg α} {Q : α → PreparationSystem → Prop} {t},
      Guarded A R G p Q (fun _ => I) t → Guarded A R G p Q (fun _ => F) t := fun hp =>
    hp.mono_error fun _ t ht => hF t ht
  refine guarded_do (hweaken (guarded_load h.refl h.stable
    (M := fun r _ => r.operationId = op ∧ M r) (fun _ _ _ _ hr => hr) hs
    fun t r ht hget hid => ⟨hid, hload t r ht hget hid⟩)) fun init t ht => ?_
  obtain ⟨ht, hid, hM⟩ := ht
  refine guarded_do (hweaken (h.within_ensure t ht)) fun _ t ht => ?_
  refine guarded_do (hweaken (h.within_ask t ht)) fun _ t ht => ?_
  refine guarded_do (hmap t ht) fun _ t ht => ?_
  refine (guarded_handleError _ _).mpr ?_
  exact (hbody init t hid hM ht).mono_error fun e => hhandler init e hid hM

theorem planOf_mode {target} {plan : Plan} (h : planOf target = .ok plan) :
    match plan with
    | .eraseWholeDevice _ => target.mode = .eraseWholeDevice
    | .createPartition _ _ => target.mode = .createPartitionInUnallocatedSpace
    | .reformatPartition _ => target.mode = .reformatExistingPartition
    | .adoptTarget _ => target.mode = .adoptExistingTarget := by
  rw [planOf] at h
  split at h
  all_goals
    next hmode =>
      split at h
      · cases h
        exact hmode
      · cases h

/-- What the mode needs: `I₁` holds once a partition table is saved, `I₂` once the whole
device is wiped, and `I₃` once there is a partition to be filled. -/
theorem guarded_carryOut {plan : Plan} (hplan : planOf init.target = .ok plan)
    (hadopt : init.target.mode = .adoptExistingTarget → ∀ partition,
      Guarded A R G (adoptTarget setup init partition) (fun _ => F) (fun _ => F) s)
    (hbackup : Guarded A R G (backupPartitionTable init) (fun _ => I₁) (fun _ => F) s)
    (hwipe : init.target.mode = .eraseWholeDevice → ∀ path majorMinor t, I₁ t → Guarded A R G
      (wipeSignatures init.operationId path majorMinor) (fun _ => I₂) (fun _ => F) t)
    (hmake : init.target.mode ≠ .adoptExistingTarget → ∀ call t, I₁ t ∨ I₂ t → Guarded A R G
      (makePartition init.operationId call) (fun _ => I₃) (fun _ => F) t)
    (hreformat : init.target.mode = .reformatExistingPartition → ∀ path majorMinor, Guarded A R G
      (wipeSignatures init.operationId path majorMinor) (fun _ => I₃) (fun _ => F) s)
    (hI₃ : Stable R I₃) (hfill : init.target.mode ≠ .adoptExistingTarget → ∀ partition t, I₃ t →
      Guarded A R G (fillPartition init partition) (fun _ => F) (fun _ => F) t) :
    Guarded A R G (carryOut setup init plan) (fun _ => F) (fun _ => F) s := by
  have hof := planOf_mode hplan
  cases plan with
  | adoptTarget partition => exact hadopt hof partition
  | eraseWholeDevice geometry =>
    have hother : init.target.mode ≠ .adoptExistingTarget := by rw [hof]; decide
    refine guarded_seq (guarded_do hbackup fun _ t ht => ?_) (hfill hother)
    exact guarded_do (hwipe hof _ _ t ht) fun _ t ht => hmake hother _ t (.inr ht)
  | createPartition region geometry =>
    have hother : init.target.mode ≠ .adoptExistingTarget := by rw [hof]; decide
    exact guarded_seq (guarded_do hbackup fun _ t ht => hmake hother _ t (.inl ht)) (hfill hother)
  | reformatPartition partition =>
    have hother : init.target.mode ≠ .adoptExistingTarget := by rw [hof]; decide
    refine guarded_seq (guarded_do (hreformat hof _ _) fun _ t ht => ?_) (hfill hother)
    exact guarded_ret hI₃ ht fun _ hu => hu

end walk

/-! ### The helper and the manager -/

/-- What each process relies on. -/
def relied (op : OperationId) : Party → PreparationSystem → PreparationSystem → Prop
  | .helper => Aside op
  | .manager _ => Growth fun _ _ => True

/-- What each process guarantees, `G` being the guarantee of the helper. -/
def guaranteed (G : PreparationSystem → PreparationSystem → Prop) :
    Party → PreparationSystem → PreparationSystem → Prop
  | .helper => G
  | .manager _ => Beside

theorem compatible_parties {G : PreparationSystem → PreparationSystem → Prop} (hrefl : ∀ s, G s s)
    (hgrowth : ∀ s t, G s t → Growth (fun _ _ => True) s t) :
    Pool.Compatible (relied op) (guaranteed G) where
  rely
    | .helper => isRely_aside
    | .manager _ => isRely_growth
  guarantee_refl
    | .helper => hrefl
    | .manager _ => beside_refl
  relied
    | .helper, .helper, h => absurd rfl h
    | .helper, .manager _, _ => hgrowth
    | .manager _, .helper, _ => fun _ _ h => h op
    | .manager _, .manager _, _ => fun _ _ h => (h op).growth

/-- The programs of the pool, given that of the helper. -/
theorem allGuarded_parties {A setup reqs system G Q}
    (hA : ∀ call i t, A call i t → FreshIds call i t)
    (hord : Orderly system) (hexecute : Guarded A (Aside op) G (execute setup op) (fun _ => Q)
      (fun _ => Q) system) :
    Pool.AllGuarded A (relied op) (guaranteed G) (fun _ _ _ => True)
      (fun _ _ _ => True) (preparationPool setup op reqs system)
  | .helper => hexecute.mono (fun _ _ h => h) (fun _ _ _ => trivial) fun _ _ _ => trivial
  | .manager number =>
    ((within_forEach stable_lawful (reqs number) (fun _ _ => manages_serve) system
      hord).restrict hA).mono (fun _ _ h => h) (fun _ _ _ => trivial) fun _ _ _ => trivial

section run

variable {setup : ExecutorSetup} {reqs : Nat → List ManagerRequest} {system : PreparationSystem}
  {Q : PreparationSystem → Prop} {schedule : List (Party × PreparationAnswer)}
  (hA : ∀ call i t, A call i t → FreshIds call i t) (hord : Orderly system)
  (hexecute : Guarded A (Aside op) (Keeping J) (execute setup op) (fun _ => Q) (fun _ => Q) system)
  (hperm : Pool.Permitted A schedule (preparationPool setup op reqs system))

include hA hord hexecute hperm

/-- What the execution and the manager keep holds in every state of every run. -/
theorem kept_run (haside : ∀ s t, Aside op s t → s.history op ≠ [] → J s → J t)
    (hbegun : system.history op ≠ []) (hinit : J system) :
    J (Pool.run schedule (preparationPool setup op reqs system)).state := by
  refine (Pool.invariant_run (compatible_parties keeping_refl fun _ _ h => h.growth)
    (I := fun s => s.history op ≠ [] ∧ J s) (fun who s t hstep hs => ?_)
    (allGuarded_parties hA hord hexecute) hperm ⟨hbegun, hinit⟩).2
  cases who with
  | helper => exact ⟨hstep.growth.history_ne_nil hs.1, hstep.kept hs.2⟩
  | manager number =>
    exact ⟨(hstep op).growth.history_ne_nil hs.1, haside s t (hstep op) hs.1 hs.2⟩

end run

/-- Every event of every run is right if the execution keeps its trace right. -/
theorem each_run {setup reqs system Q} (hP : Verdict P)
    (hA : ∀ call i t, A call i t → FreshIds call i t) (hord : Orderly system)
    (hbegun : system.history op ≠ []) (hexecute : Guarded A (Aside op)
      (Keeping (Careful op P (system.trace op))) (execute setup op) (fun _ => Q)
      (fun _ => Q) system) {schedule}
    (hperm : Pool.Permitted A schedule (preparationPool setup op reqs system)) :
    Careful op P (system.trace op)
      (Pool.run schedule (preparationPool setup op reqs system)).state := by
  refine kept_run hA hord hexecute hperm (fun s t hst _ hs => ?_) hbegun ⟨[], rfl, trivial⟩
  obtain ⟨added, hadded, haside⟩ := hst.trace
  rw [Careful, hadded]
  exact each_append hs added fun event hevent earlier =>
    hP event earlier (Event.quiet_of_aside (haside event hevent))

end underway

end Preparation

end BtrfsBackup
