/-
The text kept of a program's error output (`platform/linux/transfer/BoundedDiagnosticBuffer`).

The first bytes stay in the head; of the rest only the last ones are kept, in a ring whose
oldest byte stands at `tailStart`.

* `ringWrite_spec` — writing over the oldest bytes of the ring;
* `diagnostics_kept` — what the buffer holds after any chunks.
-/
import Mathlib

namespace BtrfsBackup.Transfer

open List

abbrev Bytes := List UInt8

structure BoundedDiagnosticBuffer where
  head : Bytes := []
  tail : Bytes := []
  tailStart : Nat := 0
  discardedBytes : UInt64 := 0

/-- `memcpy` of some bytes to an offset. -/
def memcpy (target : Bytes) (offset : Nat) (bytes : Bytes) : Bytes :=
  target.take offset ++ bytes ++ target.drop (offset + bytes.length)

/-- The two copies that write over the oldest bytes of a full ring. -/
def ringWrite (limit : Nat) (tail : Bytes) (tailStart : Nat) (data : Bytes) : Bytes :=
  let firstPart := min data.length (limit - tailStart)
  memcpy (memcpy tail tailStart (data.take firstPart)) 0 (data.drop firstPart)

namespace BoundedDiagnosticBuffer

-- `limit` is `segment_limit_bytes`.
variable (limit : Nat) (buffer : BoundedDiagnosticBuffer)

/-- Bytes that go over the oldest ones. -/
def overwrite (data : Bytes) : BoundedDiagnosticBuffer :=
  { buffer with
    discardedBytes := buffer.discardedBytes + .ofNat data.length
    tail := ringWrite limit buffer.tail buffer.tailStart data
    tailStart := (buffer.tailStart + data.length) % limit }

/-- `append`, from the bytes that the head does not take. -/
def appendTail (data : Bytes) : BoundedDiagnosticBuffer :=
  if data = [] then buffer
  else if limit ≤ data.length then
    { buffer with
      discardedBytes := buffer.discardedBytes + .ofNat (buffer.tail.length + data.length - limit)
      tail := data.drop (data.length - limit), tailStart := 0 }
  else
    let appendedBytes := min (limit - buffer.tail.length) data.length
    let buffer := { buffer with tail := buffer.tail ++ data.take appendedBytes }
    let data := data.drop appendedBytes
    if data = [] then buffer else overwrite limit buffer data

/-- `BoundedDiagnosticBuffer::append`. -/
def append (data : Bytes) : BoundedDiagnosticBuffer :=
  let headBytes := min (limit - buffer.head.length) data.length
  appendTail limit { buffer with head := buffer.head ++ data.take headBytes } (data.drop headBytes)

/-- `BoundedDiagnosticBuffer::tail_text`. -/
def tailText : Bytes :=
  if buffer.tailStart = 0 then buffer.tail
  else buffer.tail.drop buffer.tailStart ++ buffer.tail.take buffer.tailStart

/-- `BoundedDiagnosticBuffer::render`. -/
def render : Bytes :=
  if buffer.discardedBytes = 0 then buffer.head ++ buffer.tail
  else buffer.head ++ ("\n... omitted " ++ toString buffer.discardedBytes ++
    " diagnostic bytes ...\n").toUTF8.toList ++ buffer.tailText

/-! ### The ring -/

/-- The tail holds the last bytes of `rest`, and begins at its first byte until it is full. -/
structure Keeps (rest : Bytes) : Prop where
  last : buffer.tailText = rest.rtake limit
  start_le : buffer.tailStart ≤ buffer.tail.length
  start_zero : rest.length ≤ limit → buffer.tailStart = 0
  discarded : buffer.discardedBytes = .ofNat (rest.length - limit)

/-- The buffer after `text` was written. -/
structure Holds (text : Bytes) : Prop extends Keeps limit buffer (text.drop limit) where
  head : buffer.head = text.take limit

variable {limit buffer} {rest data text : Bytes}

theorem tailText_eq :
    buffer.tailText = buffer.tail.drop buffer.tailStart ++ buffer.tail.take buffer.tailStart := by
  rw [tailText]
  split <;> simp [*]

theorem Keeps.tail_length (h : Keeps limit buffer rest) :
    buffer.tail.length = min limit rest.length := by
  have length := congrArg List.length h.last
  have start := h.start_le
  simp [tailText_eq, List.rtake] at length
  omega

/-- Until the ring is full it is all of the rest. -/
theorem Keeps.tail_eq (h : Keeps limit buffer rest) (hle : rest.length ≤ limit) :
    buffer.tail = rest := by
  have text := h.last
  rwa [tailText, if_pos (h.start_zero hle), List.rtake, Nat.sub_eq_zero_of_le hle] at text

/-- The last bytes of a longer text are among the last bytes before and the new ones. -/
theorem rtake_append (n : Nat) (rest data : Bytes) :
    (rest ++ data).rtake n = (rest.rtake n ++ data).rtake n := by
  rw [List.rtake, List.rtake, List.rtake, ← drop_append_of_le_length (by omega),
    drop_drop, length_drop, length_append]
  congr 1
  omega

/-- Bytes that fit are put at the end of the tail. -/
theorem Keeps.fill (h : Keeps limit buffer rest) (fits : buffer.tail.length + data.length ≤ limit) :
    Keeps limit { buffer with tail := buffer.tail ++ data } (rest ++ data) := by
  rcases data with _ | ⟨byte, data⟩
  · simpa using h
  have length := h.tail_length
  rw [length_cons] at fits
  have whole : rest.length ≤ limit := by omega
  have start := h.start_zero whole
  have all : (rest ++ byte :: data).length ≤ limit := by simp; omega
  refine ⟨?_, by simp [start], fun _ => start, ?_⟩
  · rw [tailText, if_pos start, List.rtake, Nat.sub_eq_zero_of_le all, h.tail_eq whole,
      drop_zero]
  · rw [h.discarded, Nat.sub_eq_zero_of_le all, Nat.sub_eq_zero_of_le whole]

/-- Read from its new start, the ring holds what it held without the oldest bytes, and then
the bytes written. -/
theorem ringWrite_spec {tail : Bytes} {start} (full : tail.length = limit)
    (hstart : start ≤ limit) (short : data.length < limit) :
    let written := ringWrite limit tail start data
    let start' := (start + data.length) % limit
    written.length = limit ∧ written.drop start' ++ written.take start' =
      (tail.drop start ++ tail.take start ++ data).drop data.length := by
  dsimp only
  -- the newest bytes stand before the start, the oldest ones after it
  obtain ⟨newest, oldest, rfl, rfl⟩ : ∃ newest oldest, tail = newest ++ oldest ∧
      newest.length = start :=
    ⟨tail.take start, tail.drop start, (tail.take_append_drop start).symm, by simp; omega⟩
  rw [length_append] at full
  have room : limit - newest.length = oldest.length := by omega
  by_cases hfit : data.length ≤ oldest.length
  · have written : ringWrite limit (newest ++ oldest) newest.length data =
        newest ++ data ++ oldest.drop data.length := by
      simp [ringWrite, memcpy, room, Nat.min_eq_left hfit]
    rw [written]
    refine ⟨by simp; omega, ?_⟩
    rcases hfit.lt_or_eq with hlt | heq
    · rw [Nat.mod_eq_of_lt (by omega), ← length_append, drop_left, take_left]
      simp [drop_append_of_le_length hfit]
    · simp [heq, full]
  · -- the write goes on at the front of the ring
    obtain ⟨first, second, rfl, hfirst⟩ : ∃ first second, data = first ++ second ∧
        first.length = oldest.length :=
      ⟨data.take oldest.length, data.drop oldest.length, by simp, by simp; omega⟩
    rw [length_append] at hfit short
    have le : second.length ≤ newest.length := by omega
    have written : ringWrite limit (newest ++ oldest) newest.length (first ++ second) =
        second ++ newest.drop second.length ++ first := by
      simp [ringWrite, memcpy, room, ← hfirst, drop_append_of_le_length le,
        drop_eq_nil_of_le hfirst.ge]
    have start : (newest.length + (first ++ second).length) % limit = second.length := by
      rw [length_append, hfirst, ← Nat.add_assoc, full, Nat.add_mod_left,
        Nat.mod_eq_of_lt (by omega)]
    rw [written, start]
    refine ⟨by simp; omega, ?_⟩
    rw [length_append, ← drop_drop, hfirst]
    simp [drop_append_of_le_length le]

/-- Bytes that do not fit are written over the oldest ones. -/
theorem Keeps.turn (h : Keeps limit buffer rest) (full : buffer.tail.length = limit)
    (pos : 0 < data.length) (short : data.length < limit) :
    Keeps limit (overwrite limit buffer data) (rest ++ data) := by
  have tail := h.tail_length
  have start := h.start_le
  obtain ⟨length, text⟩ := ringWrite_spec full (full ▸ start) short
  refine ⟨?_, ?_, fun hle => ?_, ?_⟩
  · rw [rtake_append, ← h.last, tailText_eq, tailText_eq, overwrite, text, List.rtake]
    congr 1
    simp
    omega
  · exact ((Nat.mod_lt _ (by omega)).trans_eq length.symm).le
  · rw [length_append] at hle
    omega
  · rw [overwrite, h.discarded, ← UInt64.ofNat_add, length_append]
    exact congrArg UInt64.ofNat (by omega)

/-- What the bytes that the head does not take do to the tail. -/
theorem Keeps.appendTail (h : Keeps limit buffer rest) (data : Bytes) :
    Keeps limit (appendTail limit buffer data) (rest ++ data) := by
  have length := h.tail_length
  unfold BoundedDiagnosticBuffer.appendTail
  dsimp only
  split_ifs with hempty hlong hfits
  · simpa [hempty] using h
  · have old : rest.drop ((rest ++ data).length - limit) = [] :=
      drop_eq_nil_of_le (by rw [length_append]; omega)
    refine ⟨?_, Nat.zero_le _, fun _ => rfl, ?_⟩
    · rw [List.rtake, drop_append, old, length_append]
      exact congrArg (data.drop ·) (by omega)
    · rw [h.discarded, ← UInt64.ofNat_add, length_append]
      exact congrArg UInt64.ofNat (by omega)
  · rw [drop_eq_nil_iff] at hfits
    rw [Nat.min_eq_right (by omega), take_length]
    exact h.fill (by omega)
  · -- the tail is filled first, and then the ring is written
    rw [drop_eq_nil_iff] at hfits
    rw [Nat.min_eq_left (by omega)]
    have filled : Keeps limit _ (rest ++ data.take (limit - buffer.tail.length)) :=
      h.fill (by simp; omega)
    have turned := filled.turn (by simp; omega)
      (by simp; omega : 0 < (data.drop (limit - buffer.tail.length)).length) (by simp; omega)
    rwa [append_assoc, take_append_drop] at turned

theorem appendTail_head : (appendTail limit buffer data).head = buffer.head := by
  unfold BoundedDiagnosticBuffer.appendTail
  dsimp only
  split_ifs <;> rfl

/-! ### All that was written -/

theorem Holds.append (h : Holds limit buffer text) (data : Bytes) :
    Holds limit (append limit buffer data) (text ++ data) := by
  have room : limit - buffer.head.length = limit - text.length := by
    rw [h.head, length_take]
    omega
  have rest : data.drop (min (limit - text.length) data.length) = data.drop (limit - text.length) :=
    drop_eq_drop_iff.mpr (by omega)
  unfold BoundedDiagnosticBuffer.append
  dsimp only
  rw [room, rest]
  refine ⟨?_, ?_⟩
  · rw [drop_append]
    refine Keeps.appendTail ?_ _
    exact ⟨h.last, h.start_le, h.start_zero, h.discarded⟩
  · rw [appendTail_head, h.head, take_append]
    simp

theorem Holds.foldl_append (h : Holds limit buffer text) (chunks : List Bytes) :
    Holds limit (chunks.foldl (BoundedDiagnosticBuffer.append limit) buffer)
      (text ++ chunks.flatten) := by
  induction chunks generalizing buffer text with
  | nil => simpa using h
  | cons chunk chunks ih =>
    have rest := ih (h.append chunk)
    rwa [append_assoc] at rest

/-- **The diagnostics kept.**  After any chunks the head is the first bytes of all that was
written and the tail the last bytes of the rest; the others are counted, in 64 bits.  As
long as there are none, what is rendered is all that was written. -/
theorem diagnostics_kept (limit : Nat) (chunks : List Bytes) :
    let buffer := chunks.foldl (append limit) {}
    let text := chunks.flatten
    buffer.head = text.take limit ∧ buffer.tailText = (text.drop limit).rtake limit ∧
      buffer.discardedBytes.toNat =
        (text.length - buffer.head.length - buffer.tail.length) % 2 ^ 64 ∧
      (text.length = buffer.head.length + buffer.tail.length → buffer.render = text) := by
  intro buffer text
  have start : Holds limit {} [] :=
    ⟨⟨by simp [tailText, List.rtake], le_rfl, fun _ => rfl, by simp⟩,
    by simp⟩
  have h : Holds limit buffer text := start.foldl_append chunks
  have head : buffer.head.length = min limit text.length := by rw [h.head, length_take]
  have tail := h.tail_length
  have count := h.discarded
  rw [length_drop] at tail count
  refine ⟨h.head, h.last, ?_, fun all => ?_⟩
  · rw [count, UInt64.toNat_ofNat']
    congr 1
    omega
  · have none : buffer.discardedBytes = 0 := by
      rw [count, Nat.sub_eq_zero_of_le (by omega)]
      rfl
    rw [render, if_pos none, h.head, h.tail_eq (by rw [length_drop]; omega),
      take_append_drop]

/-- Two chunks that fit are rendered as they came. -/
theorem two_chunks_rendered : ([[1, 2], [3]].foldl (append 2) {}).render = [1, 2, 3] :=
  (diagnostics_kept 2 [[1, 2], [3]]).2.2.2 rfl

end BoundedDiagnosticBuffer

end BtrfsBackup.Transfer
