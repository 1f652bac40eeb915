/-
The devices the system runs on
(`platform/linux/storage/provisioning/SystemStorageTopologyReader`).

From the nodes with a system mount point the reader follows parents and slaves with a stack
of numbers.  A number is followed once, so the loop ends on any graph.

* `collect_isLeast` — the loop computes a closure, over any graph;
* `systemDeviceNumbers_isLeast` — the devices it finds.
-/
import Mathlib

namespace BtrfsBackup.Provisioning

open List

section closure

/-- A graph in which only finitely many elements lead to others. -/
structure Graph (α : Type) where
  known : Finset α
  next : α → List α
  next_eq_nil : ∀ a ∉ known, next a = []

variable {α : Type} [DecidableEq α] (graph : Graph α)

/-- Follow the graph from the pending elements, each of them once. -/
def collect (result : Finset α) : List α → Finset α
  | [] => result
  | a :: pending =>
    if a ∈ result then collect result pending
    else collect (insert a result) (graph.next a ++ pending)
termination_by pending => ((graph.known \ result).card, pending.length)
decreasing_by
  · exact Prod.Lex.right _ (by simp)
  · next hnew =>
    by_cases hknown : a ∈ graph.known
    · refine Prod.Lex.left _ _ ?_
      rw [Finset.sdiff_insert]
      exact Finset.card_erase_lt_of_mem (Finset.mem_sdiff.mpr ⟨hknown, hnew⟩)
    · rw [graph.next_eq_nil a hknown, Finset.sdiff_insert_of_notMem hknown]
      exact Prod.Lex.right _ (by simp)

/-- What is followed from the set is in the set. -/
def Closed (S : Set α) : Prop := ∀ a ∈ S, ∀ b ∈ graph.next a, b ∈ S

variable {graph}

theorem collect_isLeast {result : Finset α} {pending : List α}
    (h : ∀ a ∈ result, ∀ b ∈ graph.next a, b ∈ result ∨ b ∈ pending) :
    IsLeast {S : Set α | (∀ a ∈ result, a ∈ S) ∧ (∀ a ∈ pending, a ∈ S) ∧ Closed graph S}
      (collect graph result pending) := by
  fun_induction collect graph result pending with
  | case1 result =>
    refine ⟨⟨fun a ha => ha, by simp, fun a ha b hb => ?_⟩, fun S hS => hS.1⟩
    exact (h a ha b hb).resolve_right not_mem_nil
  | case2 result a pending ha ih =>
    -- an element that was followed before adds nothing
    simp only [mem_cons] at h
    obtain ⟨⟨hresult, hpending, hclosed⟩, hleast⟩ := ih fun x hx b hb => by
      rcases h x hx b hb with hb | rfl | hb
      · exact .inl hb
      · exact .inl ha
      · exact .inr hb
    refine ⟨⟨hresult, forall_mem_cons.mpr ⟨hresult a ha, hpending⟩, hclosed⟩, fun S hS => ?_⟩
    exact hleast ⟨hS.1, (forall_mem_cons.mp hS.2.1).2, hS.2.2⟩
  | case3 result a pending ha ih =>
    simp only [mem_cons, Finset.mem_insert, mem_append] at h ih ⊢
    obtain ⟨⟨hresult, hpending, hclosed⟩, hleast⟩ := ih fun x hx b hb => by
      rcases hx with rfl | hx
      · exact .inr (.inl hb)
      · rcases h x hx b hb with hb | rfl | hb
        · exact .inl (.inr hb)
        · exact .inl (.inl rfl)
        · exact .inr (.inr hb)
    refine ⟨⟨fun b hb => hresult b (.inr hb), ?_, hclosed⟩,
      fun S ⟨hold, hnew, hS⟩ => hleast ⟨?_, ?_, hS⟩⟩
    · rintro b (rfl | hb)
      · exact hresult b (.inl rfl)
      · exact hpending b (.inr hb)
    · rintro b (rfl | hb)
      · exact hnew b (.inl rfl)
      · exact hold b hb
    · rintro b (hb | hb)
      · exact hS a (hnew a (.inl rfl)) b hb
      · exact hnew b (.inr hb)

end closure

/-- What the loop reads of a `RawNode`. -/
structure RawNode where
  sysname : String
  parent : Nat := 0
  slaves : List String := []
  mountPoints : List String := []

/-- The nodes, in the order of their numbers (`std::map<dev_t, RawNode>`). -/
structure NodeMap where
  numbers : List Nat
  node : Nat → RawNode
  sorted : numbers.Pairwise (· < ·)

namespace NodeMap

variable (nodes : NodeMap)

/-- `numbers_by_name`, in which the last node of a name stays. -/
def numbersByName (name : String) : Option Nat :=
  nodes.numbers.reverse.find? fun number => (nodes.node number).sysname = name

/-- The node is mounted where the system is. -/
def systemMounted (number : Nat) : Bool :=
  (nodes.node number).mountPoints.any (· ∈ ["/", "/boot", "/boot/efi", "/home"])

/-- What a number puts on the stack. -/
def graph : Graph Nat where
  known := nodes.numbers.toFinset
  next number :=
    if number ∈ nodes.numbers then
      ((nodes.node number).slaves.filterMap nodes.numbersByName).reverse ++
        if (nodes.node number).parent ≠ 0 then [(nodes.node number).parent] else []
    else []
  next_eq_nil _ h := if_neg (mt mem_toFinset.mpr h)

/-- `system_device_numbers`. -/
def systemDeviceNumbers : Finset Nat :=
  collect nodes.graph ∅ (nodes.numbers.filter nodes.systemMounted).reverse

/-- The known nodes of a name. -/
def named (name : String) : Set Nat := {n | n ∈ nodes.numbers ∧ (nodes.node n).sysname = name}

/-- The set has every node that the system is mounted from and, with each known node, its
parent and, for each name of a slave, the last known node of that name. -/
structure SystemDevices (S : Set Nat) : Prop where
  mounted : ∀ n ∈ nodes.numbers, nodes.systemMounted n → n ∈ S
  parent : ∀ n ∈ S, n ∈ nodes.numbers → (nodes.node n).parent ≠ 0 → (nodes.node n).parent ∈ S
  slaves : ∀ n ∈ S, n ∈ nodes.numbers → ∀ name ∈ (nodes.node n).slaves, ∀ m,
    IsGreatest (nodes.named name) m → m ∈ S

variable {nodes}

theorem isGreatest_of_numbersByName {name : String} {n : Nat}
    (h : nodes.numbersByName name = some n) : IsGreatest (nodes.named name) n := by
  obtain ⟨hname, later, earlier, hsplit, hlater⟩ := find?_eq_some_iff_append.mp h
  have hsorted := pairwise_reverse.mpr nodes.sorted
  have hmem {m : Nat} : m ∈ nodes.numbers ↔ m ∈ later ++ n :: earlier := by
    rw [← hsplit, mem_reverse]
  rw [hsplit] at hsorted
  refine ⟨⟨hmem.mpr (by simp), by simpa using hname⟩, fun m ⟨hm, hsame⟩ => ?_⟩
  rcases mem_append.mp (hmem.mp hm) with hm | hm
  · -- what stands behind it has another name
    simpa [hsame] using hlater m hm
  · rcases mem_cons.mp hm with rfl | hm
    · exact le_rfl
    · exact ((pairwise_cons.mp (pairwise_append.mp hsorted).2.1).1 m hm).le

theorem numbersByName_eq_some {name : String} {n : Nat} :
    nodes.numbersByName name = some n ↔ IsGreatest (nodes.named name) n := by
  refine ⟨isGreatest_of_numbersByName, fun h => ?_⟩
  cases hm : nodes.numbersByName name with
  | none =>
    have hnone := find?_eq_none.mp hm n (mem_reverse.mpr h.1.1)
    exact absurd (decide_eq_true h.1.2) hnone
  | some m => exact congrArg some ((isGreatest_of_numbersByName hm).unique h)

theorem mem_next {n m : Nat} : m ∈ nodes.graph.next n ↔
    n ∈ nodes.numbers ∧ ((nodes.node n).parent ≠ 0 ∧ m = (nodes.node n).parent ∨
      ∃ name ∈ (nodes.node n).slaves, IsGreatest (nodes.named name) m) := by
  by_cases hknown : n ∈ nodes.numbers
  · simp [graph, hknown, numbersByName_eq_some, or_comm]
  · simp [graph, hknown]

/-- **The devices of the system.**  The loop ends, on any nodes, with the least set of them. -/
theorem systemDeviceNumbers_isLeast :
    IsLeast {S | nodes.SystemDevices S} nodes.systemDeviceNumbers := by
  have hleast : IsLeast _ (nodes.systemDeviceNumbers : Set Nat) := collect_isLeast (by simp)
  convert hleast using 1
  ext S
  constructor
  · rintro ⟨hmounted, hparent, hslaves⟩
    refine ⟨by simp, by simpa using hmounted, fun n hn m hm => ?_⟩
    obtain ⟨hknown, ⟨hne, rfl⟩ | ⟨name, hname, hm⟩⟩ := mem_next.mp hm
    · exact hparent n hn hknown hne
    · exact hslaves n hn hknown name hname m hm
  · rintro ⟨-, hmounted, hclosed⟩
    refine ⟨by simpa using hmounted, fun n hn hknown hne => ?_, ?_⟩
    · exact hclosed n hn _ (mem_next.mpr ⟨hknown, .inl ⟨hne, rfl⟩⟩)
    · intro n hn hknown name hname m hm
      exact hclosed n hn m (mem_next.mpr ⟨hknown, .inr ⟨name, hname, hm⟩⟩)

end NodeMap

/-- The root filesystem is on a mapping over the name of two nodes. -/
def Sample.mapped : NodeMap where
  numbers := [1, 2, 3]
  node
    | 3 => { sysname := "dm-0", slaves := ["sda1"], mountPoints := ["/"] }
    | _ => { sysname := "sda1" }
  sorted := by decide

/-- Only the last of them is followed. -/
theorem Sample.same_name_lost : ¬ ∀ n ∈ mapped.systemDeviceNumbers, n ∈ mapped.numbers →
    ∀ m ∈ mapped.numbers, (mapped.node m).sysname ∈ (mapped.node n).slaves →
      m ∈ mapped.systemDeviceNumbers := by
  have hfound : mapped.systemDeviceNumbers = {3, 2} := by
    simp [NodeMap.systemDeviceNumbers, collect, NodeMap.graph, NodeMap.numbersByName,
      NodeMap.systemMounted, mapped, Finset.pair_comm]
  rw [hfound]
  decide

end BtrfsBackup.Provisioning
