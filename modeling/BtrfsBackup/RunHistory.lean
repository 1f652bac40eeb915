/-
The history of the runs of a profile.

A run that ends is written twice: to a document of its own, which is authoritative, and to
`last.json`, a cache of the last one.  The reader takes the run document with the greatest name,
but answers from the cache when the cache is of the same run.

* `writeHistoryEntry` — the two writes, stopped after any of them;
* `latest` — the reader, and `latest_eq_ok` what it can return;
* `Written` — what the files are after any calls, and where the cache comes from;
* `latest_history` — when the newest run document is returned after every sequence of calls;
* `busy_rejection` — a run, and calls that are rejected while it is active.
-/
import BtrfsBackup.RunStatusProjection
import BtrfsBackup.Lib.Keyed

open Keyed.Store

namespace BtrfsBackup

open List

namespace History

/-- The texts of the statuses of runs. -/
structure StatusCodec (Status : Type) where
  runId : Status → RunId
  /-- `dump_status_json` -/
  dump : Status → Except Thrown String
  /-- `dump_public_status_json` -/
  dumpPublic : Status → Except Thrown String
  /-- the run of what `parse_private` reads, or the text of its `ValidationError` -/
  parsePrivate : String → Except String RunId
  /-- what is read from the text of a status is of its run -/
  parse_dump : ∀ {status content id}, dump status = .ok content →
    parsePrivate content = .ok id → id = runId status

/-- A document `<stem>.json` of the history directory of a profile. -/
structure HistoryFile where
  stem : String
  content : String
  deriving DecidableEq, Repr

/-- The file name of a document. -/
def HistoryFile.name (file : HistoryFile) : String := file.stem ++ ".json"

/-- The history directory of a profile. -/
abbrev HistoryDirectory := Keyed.Store HistoryFile.stem

/-- `write_atomically`. -/
def writeAtomically (directory : HistoryDirectory) (file : HistoryFile) : HistoryDirectory :=
  (directory.remove file.stem).add file

/-- The stem of the cache. -/
def lastStem : String := "last"

section history

variable {Status : Type} (codec : StatusCodec Status)

/-- The writes of `write_history_entry`, in order. -/
def historyWrites (status : Status) : List HistoryFile :=
  match codec.dump status with
  | .error _ => []
  | .ok content => [⟨(codec.runId status).value, content⟩, ⟨lastStem, content⟩]

/-- `write_history_entry`, stopped after some of its writes. -/
def writeHistoryEntry (directory : HistoryDirectory) (status : Status) (writes : Nat) :
    HistoryDirectory :=
  ((historyWrites codec status).take writes).foldl writeAtomically directory

/-- The directory after calls of `write_history_entry`, each with the number of writes it made. -/
def afterCalls (calls : List (Status × Nat)) : HistoryDirectory :=
  calls.foldl (fun directory call => writeHistoryEntry codec directory call.1 call.2) .empty

/-! ### The reader -/

/-- `authoritative_history_paths`: the run documents, the greatest name first. -/
def authoritativeHistory (directory : HistoryDirectory) : List HistoryFile :=
  (directory.items.filter fun file => file.stem ≠ lastStem).insertionSort
    fun a b => b.name ≤ a.name

variable (maximumSize : Nat) (path : String)

/-- `read_document`: the run of a document. -/
def readDocument (file : HistoryFile) : Except Thrown RunId :=
  if maximumSize < file.content.utf8ByteSize then
    .error (validationError
      ("document exceeds the size limit: " ++ path ++ "/" ++ file.name))
  else (codec.parsePrivate file.content).mapError validationError

/-- The end of `read`: the authoritative document, which has to be of the run it is named for. -/
def readAuthoritative (file : HistoryFile) : Except Thrown (Option String) := do
  let runId ← readDocument codec maximumSize path file
  if runId.value = file.stem then .ok (some file.content)
  else .error (validationError
    ("history document runId does not match filename: " ++ path ++ "/" ++ file.name))

/-- `LatestRunHistoryDocumentReader::read`: the text of the document that is returned. -/
def latest (directory : HistoryDirectory) : Except Thrown (Option String) :=
  match authoritativeHistory directory, directory.find? lastStem with
  | [], none => .ok none
  | [], some cache => do
    let _ ← readDocument codec maximumSize path cache
    .ok (some cache.content)
  | newest :: _, none => readAuthoritative codec maximumSize path newest
  | newest :: _, some cache =>
    match readDocument codec maximumSize path cache with
    | .ok runId =>
      if runId.value = newest.stem then .ok (some cache.content)
      else readAuthoritative codec maximumSize path newest
    -- a broken cache does not hide the authoritative document
    | .error _ => readAuthoritative codec maximumSize path newest

/-- A text is within the size limit, and `parse_private` reads a run from it. -/
def Accepted (content : String) (runId : RunId) : Prop :=
  content.utf8ByteSize ≤ maximumSize ∧ codec.parsePrivate content = .ok runId

/-- Can a run document be read, and is it of the run it is named for? -/
def Readable (file : HistoryFile) : Prop :=
  ∃ runId, Accepted codec maximumSize file.content runId ∧ runId.value = file.stem

/-- A call that stops after its first write does not replace the document of a run that an earlier
call has written completely, unless the text is the same. -/
def NotHalfReplaced (earlier later : Status × Nat) : Prop :=
  2 ≤ earlier.2 → later.2 = 1 → codec.runId earlier.1 = codec.runId later.1 →
    codec.dump earlier.1 = codec.dump later.1

/-- The cache holds another document of the run of a file. -/
def Stale (directory : HistoryDirectory) (file : HistoryFile) : Prop :=
  ∃ cache, directory.find? lastStem = some cache ∧
    Readable codec maximumSize ⟨file.stem, cache.content⟩ ∧ cache.content ≠ file.content

end history

section history

variable {Status : Type} {codec : StatusCodec Status} {maxSize : Nat} {path : String}
  {dir : HistoryDirectory} {file : HistoryFile}

theorem mem_writeAtomically {other} : other ∈ writeAtomically dir file ↔
      other = file ∨ other ∈ dir ∧ other.stem ≠ file.stem := by
  rw [writeAtomically, mem_add find?_remove_self, mem_remove]

theorem HistoryFile.name_inj {a b : HistoryFile} : a.name = b.name ↔ a.stem = b.stem := by
  constructor
  · intro h
    have hlist := congrArg String.toList h
    rw [HistoryFile.name, HistoryFile.name, String.toList_append, String.toList_append] at hlist
    exact String.toList_inj.mp (append_cancel_right hlist)
  · intro h
    rw [HistoryFile.name, HistoryFile.name, h]

theorem mem_authoritativeHistory :
    file ∈ authoritativeHistory dir ↔ file ∈ dir ∧ file.stem ≠ lastStem := by
  rw [authoritativeHistory, mem_insertionSort, List.mem_filter, decide_eq_true_iff]
  rfl

variable {newest : HistoryFile} {rest : List HistoryFile}

/-- The first of the run documents has the greatest name. -/
theorem name_le_of_authoritativeHistory (h : authoritativeHistory dir = newest :: rest)
    (hmem : file ∈ dir) (hstem : file.stem ≠ lastStem) : file.name ≤ newest.name := by
  have hsorted : (authoritativeHistory dir).Pairwise fun a b => b.name ≤ a.name :=
    pairwise_insertionSort _ _
  have hin := mem_authoritativeHistory.mpr ⟨hmem, hstem⟩
  rw [h] at hsorted hin
  rcases mem_cons.mp hin with rfl | hrest
  · exact le_rfl
  · exact rel_of_pairwise_cons hsorted hrest

/-- The run document with the greatest name comes first. -/
theorem authoritativeHistory_eq_cons (hmem : newest ∈ dir) (hstem : newest.stem ≠ lastStem)
    (hgreatest : ∀ file ∈ dir, file.stem ≠ lastStem → file.name ≤ newest.name) :
    ∃ rest, authoritativeHistory dir = newest :: rest := by
  have hin := mem_authoritativeHistory.mpr ⟨hmem, hstem⟩
  cases hlist : authoritativeHistory dir with
  | nil => exact absurd (hlist ▸ hin) not_mem_nil
  | cons first rest =>
    obtain ⟨hfirst, hfirstStem⟩ := mem_authoritativeHistory.mp (hlist ▸ mem_cons_self)
    have hname := le_antisymm (hgreatest first hfirst hfirstStem)
      (name_le_of_authoritativeHistory hlist hmem hstem)
    rw [eq_of_key_eq hfirst hmem (HistoryFile.name_inj.mp hname)]
    exact ⟨rest, rfl⟩

theorem readDocument_eq_ok {runId : RunId} : readDocument codec maxSize path file = .ok runId ↔
      Accepted codec maxSize file.content runId := by
  unfold readDocument Accepted
  by_cases hsize : maxSize < file.content.utf8ByteSize
  · simp [hsize, not_le.mpr hsize]
  · rw [if_neg hsize]
    cases codec.parsePrivate file.content <;> simp [Except.mapError, not_lt.mp hsize]

theorem readAuthoritative_eq_ok {ans} : readAuthoritative codec maxSize path file = .ok ans ↔
    Readable codec maxSize file ∧ ans = some file.content := by
  simp only [readAuthoritative, bind_eq_ok, readDocument_eq_ok]
  constructor
  · rintro ⟨runId, hread, hans⟩
    split_ifs at hans with hstem
    cases hans
    exact ⟨⟨runId, hread, hstem⟩, rfl⟩
  · rintro ⟨⟨runId, hread, hstem⟩, rfl⟩
    exact ⟨runId, hread, if_pos hstem⟩

/-- The answer is the cache if that is of the run of the newest document, and otherwise the newest
document. -/
theorem latest_eq_ok {ans} (hnewest : authoritativeHistory dir = newest :: rest) :
    latest codec maxSize path dir = .ok ans ↔ (∃ cache, dir.find? lastStem = some cache ∧
        Readable codec maxSize ⟨newest.stem, cache.content⟩ ∧ ans = some cache.content) ∨
      (∀ cache, dir.find? lastStem = some cache →
        ¬ Readable codec maxSize ⟨newest.stem, cache.content⟩) ∧
        Readable codec maxSize newest ∧ ans = some newest.content := by
  have hsame : ∀ {cache : HistoryFile} {runId : RunId},
      readDocument codec maxSize path cache = .ok runId →
      (Readable codec maxSize ⟨newest.stem, cache.content⟩ ↔ runId.value = newest.stem) := by
    intro cache runId hread
    have haccepted := readDocument_eq_ok.mp hread
    constructor
    · rintro ⟨other, hother, hstem⟩
      cases haccepted.2.symm.trans hother.2
      exact hstem
    · exact fun hstem => ⟨runId, haccepted, hstem⟩
  rw [latest, hnewest]
  cases hcache : dir.find? lastStem with
  | none => simp [readAuthoritative_eq_ok]
  | some cache =>
    cases hread : readDocument codec maxSize path cache with
    | ok runId =>
      by_cases hstem : runId.value = newest.stem
      · simp [hread, hstem, hsame hread, eq_comm]
      · simp [hread, hstem, hsame hread, readAuthoritative_eq_ok]
    | error e =>
      have hnot : ¬ Readable codec maxSize ⟨newest.stem, cache.content⟩ := by
        rintro ⟨runId, hok, -⟩
        exact nomatch hread.symm.trans (readDocument_eq_ok.mpr hok)
      simp [hread, hnot, readAuthoritative_eq_ok]

/-- The newest document is returned if it can be read and the cache has no other document of
its run. -/
theorem latest_eq_newest_iff (hnewest : authoritativeHistory dir = newest :: rest) :
    latest codec maxSize path dir = .ok (some newest.content) ↔
      Readable codec maxSize newest ∧ ¬ Stale codec maxSize dir newest := by
  rw [latest_eq_ok hnewest]
  constructor
  · rintro (⟨cache, hcache, hread, hans⟩ | ⟨hnot, hread, -⟩)
    · have hcont : newest.content = cache.content := Option.some_injective _ hans
      refine ⟨by rwa [← hcont] at hread, ?_⟩
      rintro ⟨other, hother, -, hne⟩
      cases hcache.symm.trans hother
      exact hne hcont.symm
    · refine ⟨hread, ?_⟩
      rintro ⟨cache, hcache, hcacheRead, -⟩
      exact hnot cache hcache hcacheRead
  · rintro ⟨hread, hfresh⟩
    by_cases hcached : ∃ cache, dir.find? lastStem = some cache ∧
        Readable codec maxSize ⟨newest.stem, cache.content⟩
    · obtain ⟨cache, hcache, hcacheRead⟩ := hcached
      refine .inl ⟨cache, hcache, hcacheRead, congrArg some ?_⟩
      by_contra hne
      exact hfresh ⟨cache, hcache, hcacheRead, Ne.symm hne⟩
    · exact .inr ⟨fun cache hcache hcacheRead => hcached ⟨cache, hcache, hcacheRead⟩, hread, rfl⟩

/-! ### Calls that are stopped -/

/-- A document that is written stays, under its name. -/
theorem exists_stem_foldl {stem : String} {files : List HistoryFile}
    (h : (∃ file ∈ files, file.stem = stem) ∨ ∃ file ∈ dir, file.stem = stem) :
    ∃ file ∈ files.foldl writeAtomically dir, file.stem = stem := by
  induction files generalizing dir with
  | nil => exact h.resolve_left fun ⟨_, hmem, _⟩ => not_mem_nil hmem
  | cons first files ih =>
    refine ih ?_
    rcases h with ⟨file, hmem, hstem⟩ | ⟨file, hmem, hstem⟩
    · rcases mem_cons.mp hmem with rfl | hrest
      · exact .inr ⟨file, mem_writeAtomically.mpr (.inl rfl), hstem⟩
      · exact .inl ⟨file, hrest, hstem⟩
    · by_cases hsame : file.stem = first.stem
      · exact .inr ⟨first, mem_writeAtomically.mpr (.inl rfl), hsame ▸ hstem⟩
      · exact .inr ⟨file, mem_writeAtomically.mpr (.inr ⟨hmem, hsame⟩), hstem⟩

/-- A directory without documents is one to which no call has written. -/
theorem afterCalls_eq_nil {calls} (h : (afterCalls codec calls).items = []) :
    ∀ call ∈ calls, (historyWrites codec call.1).take call.2 = [] := by
  have hfold : afterCalls codec calls = (calls.flatMap fun call =>
      (historyWrites codec call.1).take call.2).foldl writeAtomically .empty := by
    rw [foldl_flatMap]
    rfl
  intro call hcall
  by_contra hne
  obtain ⟨file, hfile⟩ := exists_mem_of_ne_nil _ hne
  obtain ⟨kept, hkept, -⟩ : ∃ kept ∈ afterCalls codec calls, kept.stem = file.stem := by
    rw [hfold]
    exact exists_stem_foldl (.inl ⟨file, mem_flatMap.mpr ⟨call, hcall, hfile⟩, rfl⟩)
  rw [mem_def, h] at hkept
  exact not_mem_nil hkept

/-- Nothing is returned only if there are no documents at all. -/
theorem items_eq_nil_of_latest (h : latest codec maxSize path dir = .ok none) : dir.items = [] := by
  cases hlist : authoritativeHistory dir with
  | cons newest rest =>
    rcases (latest_eq_ok hlist).mp h with ⟨_, -, -, hnone⟩ | ⟨-, -, hnone⟩ <;>
      exact nomatch hnone
  | nil =>
    rw [latest, hlist] at h
    cases hcache : dir.find? lastStem with
    | some cache =>
      rw [hcache] at h
      obtain ⟨_, -, hsome⟩ := bind_eq_ok.mp h
      exact nomatch hsome
    | none =>
      rw [eq_nil_iff_forall_not_mem]
      intro file hfile
      -- a file that is not the cache would be in the list
      have hin := mem_authoritativeHistory.mpr
        ⟨hfile, find?_eq_none.mp hcache file hfile⟩
      rw [hlist] at hin
      exact not_mem_nil hin

theorem runId_ext {a b : RunId} (h : a.value = b.value) : a = b := by
  cases a
  cases h
  rfl

variable (codec) in
/-- Each run document is the text of a call for its run.  So is the cache, and if that is a call
for a run of another name it was complete, and the document of its run has the same text. -/
structure Written (calls : List (Status × Nat)) (directory : HistoryDirectory) : Prop where
  documents : ∀ file ∈ directory, file.stem ≠ lastStem → ∃ call ∈ calls,
    (codec.runId call.1).value = file.stem ∧ codec.dump call.1 = .ok file.content
  cache : ∀ cache ∈ directory, cache.stem = lastStem → ∃ call ∈ calls,
    codec.dump call.1 = .ok cache.content ∧ ((codec.runId call.1).value = lastStem ∨
      2 ≤ call.2 ∧ ∀ file ∈ directory, file.stem = (codec.runId call.1).value →
        file.content = cache.content)

variable {calls : List (Status × Nat)} {call : Status × Nat}

theorem Written.append (h : Written codec calls dir) : Written codec (calls ++ [call]) dir where
  documents file hfile hstem :=
    (h.documents file hfile hstem).imp fun _ hcall => hcall.imp_left (mem_append_left _)
  cache cache hcache hstem :=
    (h.cache cache hcache hstem).imp fun _ hcall => hcall.imp_left (mem_append_left _)

/-- The first write of a call: the cache stays, and must not be of the same run. -/
theorem Written.document {content : String} (h : Written codec calls dir)
    (hdump : codec.dump call.1 = .ok content) (hfirst : ∀ earlier ∈ calls, 2 ≤ earlier.2 →
      codec.runId earlier.1 = codec.runId call.1 → codec.dump earlier.1 = codec.dump call.1) :
    Written codec (calls ++ [call])
      (writeAtomically dir ⟨(codec.runId call.1).value, content⟩) := by
  have hcall : call ∈ calls ++ [call] := mem_append_right _ mem_cons_self
  constructor
  · intro file hfile hstem
    rcases mem_writeAtomically.mp hfile with rfl | ⟨hold, -⟩
    · exact ⟨call, hcall, rfl, hdump⟩
    · exact h.append.documents file hold hstem
  · intro cache hcache hstem
    rcases mem_writeAtomically.mp hcache with rfl | ⟨hold, -⟩
    · -- a run that is named like the cache
      exact ⟨call, hcall, hdump, .inl hstem⟩
    · obtain ⟨earlier, hearlier, htext, hrun⟩ := h.cache cache hold hstem
      refine ⟨earlier, mem_append_left _ hearlier, htext, hrun.imp_right ?_⟩
      rintro ⟨hcomplete, hsame⟩
      refine ⟨hcomplete, fun file hfile hfileStem => ?_⟩
      rcases mem_writeAtomically.mp hfile with rfl | ⟨hfileOld, -⟩
      · have hdumps := hfirst earlier hearlier hcomplete (runId_ext hfileStem.symm)
        rw [htext, hdump] at hdumps
        exact (Except.ok.inj hdumps).symm
      · exact hsame file hfileOld hfileStem

/-- Both writes of a call: the document and the cache have the same text. -/
theorem Written.complete {content : String} (h : Written codec calls dir)
    (hdump : codec.dump call.1 = .ok content) (hcomplete : 2 ≤ call.2) :
    Written codec (calls ++ [call]) (writeAtomically
      (writeAtomically dir ⟨(codec.runId call.1).value, content⟩) ⟨lastStem, content⟩) := by
  have hcall : call ∈ calls ++ [call] := mem_append_right _ mem_cons_self
  constructor
  · intro file hfile hstem
    rcases mem_writeAtomically.mp hfile with rfl | ⟨hfile, -⟩
    · exact absurd rfl hstem
    · rcases mem_writeAtomically.mp hfile with rfl | ⟨hold, -⟩
      · exact ⟨call, hcall, rfl, hdump⟩
      · exact h.append.documents file hold hstem
  · intro cache hcache hstem
    rcases mem_writeAtomically.mp hcache with rfl | ⟨-, hne⟩
    · refine ⟨call, hcall, hdump, .inr ⟨hcomplete, fun file hfile hfileStem => ?_⟩⟩
      rcases mem_writeAtomically.mp hfile with rfl | ⟨hfile, -⟩
      · rfl
      · rcases mem_writeAtomically.mp hfile with rfl | ⟨-, hfileNe⟩
        · rfl
        · exact absurd hfileStem hfileNe
    · exact absurd hstem hne

theorem Written.entry (h : Written codec calls dir)
    (hreplaced : ∀ earlier ∈ calls, NotHalfReplaced codec earlier call) :
    Written codec (calls ++ [call]) (writeHistoryEntry codec dir call.1 call.2) := by
  cases hdump : codec.dump call.1 with
  | error e =>
    rw [writeHistoryEntry, historyWrites, hdump, take_nil]
    exact h.append
  | ok content =>
    rw [writeHistoryEntry, historyWrites, hdump]
    match hwrites : call.2 with
    | 0 => exact h.append
    | 1 => exact h.document hdump fun earlier hearlier hcomplete =>
        hreplaced earlier hearlier hcomplete hwrites
    | n + 2 =>
      rw [take_of_length_le (by simp)]
      exact h.complete hdump (by omega)

theorem written_afterCalls (h : calls.Pairwise (NotHalfReplaced codec)) :
    Written codec calls (afterCalls codec calls) := by
  induction calls using List.reverseRecOn with
  | nil => exact ⟨fun file hfile => absurd hfile (not_mem_empty file),
      fun file hfile => absurd hfile (not_mem_empty file)⟩
  | append_singleton calls call ih =>
    obtain ⟨hcalls, -, hlast⟩ := pairwise_append.mp h
    rw [afterCalls, foldl_append]
    exact (ih hcalls).entry fun earlier hearlier => hlast earlier hearlier call mem_cons_self

/-- A cache that is of the run of a document has the text of the document. -/
theorem Written.not_stale (h : Written codec calls dir) (hmem : file ∈ dir)
    (hstem : file.stem ≠ lastStem) : ¬ Stale codec maxSize dir file := by
  rintro ⟨cache, hcache, ⟨runId, hread, hrunId⟩, hne⟩
  obtain ⟨hcacheMem, hcacheStem⟩ := find?_eq_some.mp hcache
  obtain ⟨call, -, htext, hrun⟩ := h.cache cache hcacheMem hcacheStem
  rw [codec.parse_dump htext hread.2] at hrunId
  rcases hrun with hlast | ⟨-, hsame⟩
  · exact hstem (hrunId.symm.trans hlast)
  · exact hne (hsame file hmem hrunId.symm).symm

end history

/-- After any calls of `write_history_entry`, each stopped after any of its writes: nothing is
returned only if nothing was written.  If each document that is written is accepted, and no call
that stops after its first write replaces the document of a complete call by another text, the
text of the run document with the greatest name is returned. -/
theorem latest_history {Status : Type} (codec : StatusCodec Status) (maximumSize : Nat)
    (path : String) (calls : List (Status × Nat))
    (haccepted : ∀ call ∈ calls, ∀ content, codec.dump call.1 = .ok content →
      ∃ runId, Accepted codec maximumSize content runId)
    (hreplaced : calls.Pairwise (NotHalfReplaced codec)) :
    let directory := afterCalls codec calls
    (latest codec maximumSize path directory = .ok none →
      ∀ call ∈ calls, (historyWrites codec call.1).take call.2 = []) ∧
    ∀ newest ∈ directory, newest.stem ≠ lastStem →
      (∀ file ∈ directory, file.stem ≠ lastStem → file.name ≤ newest.name) →
      latest codec maximumSize path directory = .ok (some newest.content) := by
  intro directory
  refine ⟨fun h => afterCalls_eq_nil (items_eq_nil_of_latest h), ?_⟩
  intro newest hmem hstem hgreatest
  have hwritten : Written codec calls directory := written_afterCalls hreplaced
  obtain ⟨rest, hlist⟩ := authoritativeHistory_eq_cons hmem hstem hgreatest
  obtain ⟨call, hcall, hrun, htext⟩ := hwritten.documents newest hmem hstem
  obtain ⟨runId, hread⟩ := haccepted call hcall newest.content htext
  refine (latest_eq_newest_iff hlist).mpr ⟨⟨runId, hread, ?_⟩, hwritten.not_stale hmem hstem⟩
  rw [codec.parse_dump htext hread.2, hrun]

namespace Sample

theorem space_notMem (id : RunId) : ' ' ∉ id.value.toList := by
  intro hspace
  have hvalid := id.valid
  rw [runIdOk] at hvalid
  split at hvalid
  · exact absurd hvalid Bool.false_ne_true
  · next c cs hvalue =>
    rw [hvalue] at hspace
    simp only [Bool.and_eq_true, all_eq_true] at hvalid
    rcases mem_cons.mp hspace with rfl | hrest
    · exact absurd hvalid.1 (by decide)
    · exact absurd (hvalid.2 _ hrest) (by decide)

/-- Statuses that are one line: the run and its state. -/
def codec : StatusCodec (RunId × String) where
  runId := Prod.fst
  dump status := .ok (status.1.value ++ " " ++ status.2)
  dumpPublic status := .ok status.2
  parsePrivate content :=
    let value := String.ofList (content.toList.takeWhile (· ≠ ' '))
    if h : runIdOk value = true then .ok ⟨value, h⟩ else .error "runId is invalid"
  parse_dump {status content id} hdump hparse := by
    cases hdump
    have hvalue : (status.1.value ++ " " ++ status.2).toList.takeWhile (· ≠ ' ') =
        status.1.value.toList := by
      rw [String.toList_append, String.toList_append, append_assoc, takeWhile_append_of_pos]
      · simp
      · intro c hc
        refine decide_eq_true fun hspace => absurd (space_notMem status.1) ?_
        exact not_not_intro (hspace ▸ hc)
    dsimp only at hparse
    split_ifs at hparse
    cases hparse
    exact runId_ext (String.toList_inj.mp (by rw [String.toList_ofList, hvalue]))

def run : RunId := ⟨"20260101T080000Z", by decide⟩

def laterRun : RunId := ⟨"20260101T090000Z", by decide⟩

/-- A run is written as failed and then, again, as completed; the second call stops after its
first write. -/
def rewritten : HistoryDirectory := afterCalls codec [((run, "failed"), 2), ((run, "completed"), 1)]

/-- The reader returns what the run document held before. -/
theorem stale_cache_returned :
    (authoritativeHistory rewritten).head? = some ⟨run.value, "20260101T080000Z completed"⟩ ∧
      latest codec 1048576 "/var/lib/btrfs-backup/history/laptop" rewritten =
        .ok (some "20260101T080000Z failed") := by
  decide +kernel

/-- A run is written twice, and then a later run, which is stopped: the document of the later run
is returned although the cache is of the earlier one. -/
theorem newest_returned :
    let calls := [((run, "failed"), 2), ((run, "completed"), 2), ((laterRun, "completed"), 1)]
    (∀ call ∈ calls, ∀ content, codec.dump call.1 = .ok content →
        ∃ runId, Accepted codec 1048576 content runId) ∧ calls.Pairwise (NotHalfReplaced codec) ∧
      latest codec 1048576 "history" (afterCalls codec calls) =
        .ok (some "20260101T090000Z completed") := by
  intro calls
  have haccepted : ∀ call ∈ calls, ∀ content, codec.dump call.1 = .ok content →
      ∃ runId, Accepted codec 1048576 content runId := by
    simp only [calls, forall_mem_cons]
    refine ⟨?_, ?_, ?_, forall_mem_nil _⟩ <;> rintro _ ⟨rfl⟩ <;> exact ⟨_, by decide, by rfl⟩
  have hreplaced : calls.Pairwise (NotHalfReplaced codec) := by
    simp [calls, NotHalfReplaced, codec, run, laterRun]
  refine ⟨haccepted, hreplaced, ?_⟩
  refine (latest_history codec 1048576 "history" calls haccepted hreplaced).2
    ⟨laterRun.value, _⟩ ?_ ?_ ?_
  · exact mem_def.mpr (by decide +kernel)
  · decide +kernel
  · show ∀ file ∈ Keyed.Store.items _, _
    decide +kernel

end Sample

/-! ### Rejected calls -/

open BtrfsBackup.Status

/-- A write to the files of a profile. -/
inductive Write where
  | current (content : String)
  | history (file : HistoryFile)
  deriving DecidableEq

/-- `current.json` and the history of a profile. -/
structure RunFiles where
  current : Option String
  history : HistoryDirectory

/-- One atomic write. -/
def RunFiles.write (files : RunFiles) : Write → RunFiles
  | .current content => { files with current := some content }
  | .history file => { files with history := writeAtomically files.history file }

def Write.historyFile? : Write → Option HistoryFile
  | .current _ => none
  | .history file => some file

/-- An event as a projection gets it, with the status that it builds. -/
structure Report (Status : Type) where
  event : BackupRunEvent
  answer : SinkAnswer
  status : Status

section rejection

variable {Status : Type} (codec : StatusCodec Status) (round : ℚ → ℚ) (sourceCount : Int)

/-- The writes of the documents of an event; a status that cannot be dumped ends them. -/
def documentWrites (status : Status) : List RunDocument → List Write
  | [] => []
  | .current :: documents =>
    match codec.dumpPublic status with
    | .error _ => []
    | .ok content => .current content :: documentWrites status documents
  | .history :: documents =>
    (historyWrites codec status).map .history ++
      if (historyWrites codec status).isEmpty then [] else documentWrites status documents

def projectionWrites : ProjectionState → List (Report Status) → List Write
  | _, [] => []
  | state, report :: reports =>
    let step := onBackupRunEvent round sourceCount report.answer state report.event
    documentWrites codec report.status step.documents ++ projectionWrites step.state reports

/-- The writes of the run, or of a rejected call. -/
def writesOf {ι : Type} [DecidableEq ι] (owner : Option ι) (trace : List (Option ι × Write)) :
    List Write :=
  (trace.filter (·.1 = owner)).map Prod.snd

/-- A run of a profile, and calls for the profile that are rejected as busy.  The writes are made
in any order that keeps the order of each process, and a rejected call can be stopped. -/
structure Contention (ι : Type) [DecidableEq ι] where
  files : RunFiles
  /-- the run, and what it reports before its end -/
  runId : RunId
  reports : List (Report Status)
  active : ∀ report ∈ reports, (kindOf report.event).isTerminal = false
  /-- its terminal event -/
  ended : Report Status
  content : String
  ended_run : codec.runId ended.status = runId
  dumped : codec.dump ended.status = .ok content
  /-- the rejected calls -/
  failures : ι → RunFailed
  rejected : ι → Report Status
  rejected_event : ∀ i, (rejected i).event = .runFailed (failures i)
  rejected_run : ∀ i, codec.runId (rejected i).status = (failures i).runId
  /-- ids are times and not the name of the cache; that of a rejected call, which is drawn before
  the lease is tried, can be before, at or after that of the run -/
  run_ne : runId.value ≠ lastStem
  rejected_ne : ∀ i, (failures i).runId.value ≠ lastStem
  earlier : ∀ file ∈ files.history, file.stem ≠ lastStem →
    file.name ≤ runId.value ++ ".json"
  /-- the writes, each with the rejected call it is of -/
  trace : List (Option ι × Write)
  run_complete : writesOf none trace =
    projectionWrites codec round sourceCount .initial (reports ++ [ended])
  written : .history ⟨runId.value, content⟩ ∈ writesOf none trace
  rejected_part : ∀ i, writesOf (some i) trace <+:
    projectionWrites codec round sourceCount .initial [rejected i]

namespace Contention

variable {codec round sourceCount} {ι : Type} [DecidableEq ι]
  (contention : Contention codec round sourceCount ι)

/-- The files in the end. -/
def final : RunFiles := (contention.trace.map Prod.snd).foldl RunFiles.write contention.files

/-- The terminal document of the run. -/
def document : HistoryFile := ⟨contention.runId.value, contention.content⟩

/-- A rejected call has written to the history. -/
def Stores (i : ι) : Prop := ∃ file, (some i, Write.history file) ∈ contention.trace

/-- The file name of the document of a rejected call. -/
def rejectedName (i : ι) : String := (contention.failures i).runId.value ++ ".json"

end Contention

end rejection

section rejection

variable {Status : Type} {codec : StatusCodec Status} {round : ℚ → ℚ} {sourceCount : Int}
  {ι : Type} [DecidableEq ι] {state : ProjectionState}

theorem mem_writesOf {owner : Option ι} {trace write} :
    write ∈ writesOf owner trace ↔ (owner, write) ∈ trace := by
  simp [writesOf]

theorem complete_kind (data : RunEventData) : (state.complete data).kind = data.kind := by
  unfold ProjectionState.complete
  split
  · split <;> rfl
  · rfl

/-- The status of an event may be published, and if the event ends the run it may be written to
the history. -/
theorem documents_eq (round : ℚ → ℚ) (sourceCount : Int) (state : ProjectionState)
    (ans : SinkAnswer) (ev : BackupRunEvent) : ∃ publish ends : Bool,
    (onBackupRunEvent round sourceCount ans state ev).documents =
      (if publish then [.current] else []) ++ (if ends then [.history] else []) ∧
    (ends = true → (kindOf ev).isTerminal = true) := by
  unfold onBackupRunEvent
  by_cases hcheckpoint : (eventProjectionData ev).kind = .checkpointWritten
  · exact ⟨false, false, by rw [if_pos hcheckpoint]; rfl, nofun⟩
  · refine ⟨_, _, by rw [if_neg hcheckpoint]; rfl, fun hends => ?_⟩
    rw [BackupRunEventKind.writesHistory, complete_kind] at hends
    show (eventProjectionData ev).kind.isTerminal = true
    generalize (eventProjectionData ev).kind = kind at hends
    cases kind <;> simp_all [BackupRunEventKind.isTerminal]

theorem documentWrites_history (status : Status) :
    documentWrites codec status [.history] = (historyWrites codec status).map .history := by
  simp [documentWrites]

theorem filterMap_map_history (files : List HistoryFile) :
    (files.map Write.history).filterMap Write.historyFile? = files := by
  rw [filterMap_map]
  exact filterMap_some

/-- The history is written for an event that ends the run, or not at all. -/
theorem historyFiles_documentWrites (state : ProjectionState) (report : Report Status) :
    let documents := (onBackupRunEvent round sourceCount report.answer state report.event).documents
    let files := (documentWrites codec report.status documents).filterMap Write.historyFile?
    files = [] ∨
      (kindOf report.event).isTerminal = true ∧ files = historyWrites codec report.status := by
  obtain ⟨publish, ends, hdocuments, hends⟩ :=
    documents_eq round sourceCount state report.answer report.event
  have hhist : ((documentWrites codec report.status
      (if ends then [.history] else [])).filterMap Write.historyFile? = [] ∨
      (kindOf report.event).isTerminal = true ∧ (documentWrites codec report.status
        (if ends then [.history] else [])).filterMap Write.historyFile? =
          historyWrites codec report.status) := by
    cases ends with
    | false => exact .inl rfl
    | true =>
      refine .inr ⟨hends rfl, ?_⟩
      rw [if_pos rfl, documentWrites_history, filterMap_map_history]
  dsimp only
  rw [hdocuments]
  cases publish with
  | false => exact hhist
  | true =>
    rw [if_pos rfl, singleton_append, documentWrites]
    cases codec.dumpPublic report.status with
    | error e => exact .inl rfl
    | ok content => exact hhist

/-- A run that has not ended has written nothing to the history. -/
theorem historyFiles_of_active (state : ProjectionState) {reports}
    (hactive : ∀ report ∈ reports, (kindOf report.event).isTerminal = false)
    (ended : Report Status) :
    let files := (projectionWrites codec round sourceCount state
      (reports ++ [ended])).filterMap Write.historyFile?
    files = [] ∨ files = historyWrites codec ended.status := by
  induction reports generalizing state with
  | nil =>
    simp only [nil_append, projectionWrites, append_nil]
    exact (historyFiles_documentWrites state ended).imp_right And.right
  | cons report reports ih =>
    simp only [cons_append, projectionWrites, filterMap_append]
    rw [(historyFiles_documentWrites state report).resolve_right fun h =>
      absurd (hactive report mem_cons_self) (by simp [h.1]), nil_append]
    exact ih _ fun other hother => hactive other (mem_cons_of_mem _ hother)

/-- A rejected call writes to the history only: its run has not started. -/
theorem projectionWrites_rejected {report} {failed : RunFailed}
    (hevent : report.event = .runFailed failed) :
    projectionWrites codec round sourceCount .initial [report] <+:
      (historyWrites codec report.status).map .history := by
  have hdocuments : (onBackupRunEvent round sourceCount report.answer .initial
      report.event).documents =
        if BackupRunEventKind.writesHistory .runFailed failed.operationKind then [.history]
        else [] := by
    rw [hevent]
    rfl
  rw [projectionWrites, projectionWrites, hdocuments, append_nil]
  split
  · rw [documentWrites_history]
  · exact List.nil_prefix

/-! ### The files in the end -/

theorem history_foldl_write (writes : List Write) (files : RunFiles) :
    (writes.foldl RunFiles.write files).history =
      (writes.filterMap Write.historyFile?).foldl writeAtomically files.history := by
  induction writes generalizing files with
  | nil => rfl
  | cons write writes ih =>
    rw [foldl_cons, ih]
    cases write <;> rfl

/-- A file is one that was written, or one that was there and that no write replaces. -/
theorem mem_foldl_writeAtomically {files : List HistoryFile} {dir} {file : HistoryFile}
    (h : file ∈ files.foldl writeAtomically dir) :
    file ∈ files ∨ file ∈ dir ∧ ∀ other ∈ files, other.stem ≠ file.stem := by
  induction files generalizing dir with
  | nil => exact .inr ⟨h, forall_mem_nil _⟩
  | cons first files ih =>
    rcases ih h with hmem | ⟨hmem, hne⟩
    · exact .inl (mem_cons_of_mem _ hmem)
    · rcases mem_writeAtomically.mp hmem with rfl | ⟨hdir, hfirst⟩
      · exact .inl mem_cons_self
      · exact .inr ⟨hdir, forall_mem_cons.mpr ⟨hfirst.symm, hne⟩⟩

namespace Contention

variable (contention : Contention codec round sourceCount ι) {i : ι} {write : Write}

/-- The run has written its terminal document to the history, and nothing else. -/
theorem historyFiles_run :
    (writesOf none contention.trace).filterMap Write.historyFile? =
      [contention.document, ⟨lastStem, contention.content⟩] := by
  have hwrites : historyWrites codec contention.ended.status =
      [contention.document, ⟨lastStem, contention.content⟩] := by
    rw [historyWrites, contention.dumped, contention.ended_run]
    rfl
  rw [contention.run_complete, ← hwrites]
  refine (historyFiles_of_active .initial contention.active contention.ended).resolve_left
    fun hnil => ?_
  have hwritten := contention.written
  rw [contention.run_complete] at hwritten
  exact nomatch filterMap_eq_nil_iff.mp hnil _ hwritten

theorem exists_final {owner file} (h : (owner, .history file) ∈ contention.trace) :
    ∃ kept ∈ contention.final.history, kept.stem = file.stem := by
  rw [final, history_foldl_write]
  exact exists_stem_foldl (.inl ⟨file, mem_filterMap.mpr ⟨_, mem_map.mpr ⟨_, h, rfl⟩, rfl⟩, rfl⟩)

theorem rejected_prefix (i : ι) : writesOf (some i) contention.trace <+:
    (historyWrites codec (contention.rejected i).status).map .history :=
  (contention.rejected_part i).trans (projectionWrites_rejected (contention.rejected_event i))

section

variable (h : (some i, write) ∈ contention.trace)
include h

theorem isHistory_rejected : ∃ file, write = .history file := by
  obtain ⟨file, -, rfl⟩ := mem_map.mp
    ((contention.rejected_prefix i).subset (mem_writesOf.mpr h))
  exact ⟨file, rfl⟩

/-- A rejected call that has written anything has written its run document first. -/
theorem stored_rejected :
    ∃ file ∈ contention.final.history, file.stem = (contention.failures i).runId.value := by
  have hin := mem_writesOf.mpr h
  have hprefix := contention.rejected_prefix i
  rw [historyWrites, contention.rejected_run i] at hprefix
  cases hdump : codec.dump (contention.rejected i).status with
  | error e =>
    rw [hdump] at hprefix
    rw [prefix_nil.mp hprefix] at hin
    exact absurd hin not_mem_nil
  | ok content =>
    rw [hdump] at hprefix
    cases hpart : writesOf (some i) contention.trace with
    | nil =>
      rw [hpart] at hin
      exact absurd hin not_mem_nil
    | cons first rest =>
      rw [hpart] at hprefix
      obtain ⟨rfl, -⟩ := cons_prefix_cons.mp hprefix
      exact contention.exists_final (mem_writesOf.mp (hpart ▸ mem_cons_self))

end

theorem historyFile?_eq_some {file} : write.historyFile? = some file ↔ write = .history file := by
  cases write <;> simp [Write.historyFile?]

/-- A document is of the run, of a rejected call, or was there and is not replaced. -/
theorem mem_final {file} (h : file ∈ contention.final.history) :
    file = contention.document ∨ file = ⟨lastStem, contention.content⟩ ∨
    (∃ i, contention.Stores i ∧ file ∈ historyWrites codec (contention.rejected i).status) ∨
    file ∈ contention.files.history ∧ file.stem ≠ contention.document.stem ∧
      file.stem ≠ lastStem := by
  have hrun : ∀ {written}, (none, Write.history written) ∈ contention.trace ↔
      written = contention.document ∨ written = ⟨lastStem, contention.content⟩ := by
    intro written
    have hfiles := congrArg (written ∈ ·) contention.historyFiles_run
    simpa only [mem_filterMap, historyFile?_eq_some, mem_writesOf, exists_eq_right, mem_pair,
      eq_iff_iff] using hfiles
  rw [final, history_foldl_write] at h
  rcases mem_foldl_writeAtomically h with hwritten | ⟨hold, hnot⟩
  · simp only [mem_filterMap, historyFile?_eq_some, mem_map, Prod.exists, exists_eq_right]
      at hwritten
    obtain ⟨owner, howner⟩ := hwritten
    cases owner with
    | none => exact (hrun.mp howner).imp_right .inl
    | some i =>
      have hmem := (contention.rejected_prefix i).subset (mem_writesOf.mpr howner)
      rw [mem_map_of_injective fun _ _ => Write.history.inj] at hmem
      exact .inr (.inr (.inl ⟨i, ⟨file, howner⟩, hmem⟩))
  · have hreplaced : ∀ written, (none, Write.history written) ∈ contention.trace →
        file.stem ≠ written.stem := fun written hwritten => (hnot written
      (mem_filterMap.mpr ⟨_, mem_map.mpr ⟨_, hwritten, rfl⟩, rfl⟩)).symm
    exact .inr (.inr (.inr ⟨hold, hreplaced _ (hrun.mpr (.inl rfl)),
      hreplaced _ (hrun.mpr (.inr rfl))⟩))

/-- What a rejected call writes to the history is its own status. -/
theorem rejected_text {file} (h : file ∈ historyWrites codec (contention.rejected i).status) :
    codec.dump (contention.rejected i).status = .ok file.content ∧
      (file.stem = (contention.failures i).runId.value ∨ file.stem = lastStem) := by
  rw [historyWrites, contention.rejected_run i] at h
  cases hdump : codec.dump (contention.rejected i).status with
  | error e => simp [hdump] at h
  | ok content =>
    rw [hdump] at h
    rcases mem_pair.mp h with rfl | rfl
    · exact ⟨rfl, .inl rfl⟩
    · exact ⟨rfl, .inr rfl⟩

/-- Only the run writes to its document. -/
theorem document_mem (hne : ∀ i, contention.Stores i →
      (contention.failures i).runId.value ≠ contention.document.stem) :
    contention.document ∈ contention.final.history := by
  obtain ⟨file, hfile, hstem⟩ := contention.exists_final (mem_writesOf.mp contention.written)
  rcases contention.mem_final hfile with rfl | rfl | ⟨i, hstores, hwrites⟩ | ⟨-, hother, -⟩
  · exact hfile
  · exact absurd hstem.symm contention.run_ne
  · rcases (contention.rejected_text hwrites).2 with hrejected | hlast
    · exact absurd (hrejected.symm.trans hstem) (hne i hstores)
    · exact absurd (hstem.symm.trans hlast) contention.run_ne
  · exact absurd hstem hother

/-- Rejected calls with smaller names do not hide the document of the run. -/
theorem latest_of_smaller {maxSize : Nat} {path : String}
    (hread : Readable codec maxSize contention.document)
    (hsmaller : ∀ i, contention.Stores i → contention.rejectedName i < contention.document.name) :
    latest codec maxSize path contention.final.history = .ok (some contention.content) := by
  have hne : ∀ i, contention.Stores i →
      (contention.failures i).runId.value ≠ contention.document.stem := by
    intro i hstores hstem
    have hlt := hsmaller i hstores
    rw [rejectedName, hstem] at hlt
    exact lt_irrefl _ hlt
  obtain ⟨rest, hlist⟩ := authoritativeHistory_eq_cons
      (contention.document_mem hne) contention.run_ne (by
    intro file hfile hstem
    rcases contention.mem_final hfile with rfl | rfl | ⟨i, hstores, hwrites⟩ | ⟨hold, -⟩
    · exact le_rfl
    · exact absurd rfl hstem
    · have hlt := hsmaller i hstores
      rw [rejectedName, ← (contention.rejected_text hwrites).2.resolve_right hstem] at hlt
      exact hlt.le
    · exact contention.earlier file hold hstem)
  refine (latest_eq_newest_iff hlist).mpr ⟨hread, ?_⟩
  rintro ⟨cache, hcache, ⟨runId, hok, hvalue⟩, hdiffers⟩
  obtain ⟨hcacheMem, hcacheStem⟩ := find?_eq_some.mp hcache
  rcases contention.mem_final hcacheMem with rfl | rfl | ⟨i, hstores, hwrites⟩ | ⟨-, -, hother⟩
  · exact hdiffers rfl
  · exact hdiffers rfl
  · rw [codec.parse_dump (contention.rejected_text hwrites).1 hok.2,
      contention.rejected_run i] at hvalue
    exact hne i hstores hvalue
  · exact hother hcacheStem

/-- A rejected call that has stored a document with a greater name hides the document of the
run. -/
theorem not_latest_of_greater {maxSize : Nat} {path : String} (hstores : contention.Stores i)
    (hgreater : contention.document.name < contention.rejectedName i) :
    latest codec maxSize path contention.final.history ≠ .ok (some contention.content) := by
  intro hlatest
  obtain ⟨file, hfile⟩ := hstores
  obtain ⟨stored, hstored, hstem⟩ := contention.stored_rejected hfile
  have hne : stored.stem ≠ lastStem := hstem ▸ contention.rejected_ne i
  cases hlist : authoritativeHistory contention.final.history with
  | nil =>
    have hin := mem_authoritativeHistory.mpr ⟨hstored, hne⟩
    rw [hlist] at hin
    exact not_mem_nil hin
  | cons newest rest =>
    have hread : Readable codec maxSize ⟨newest.stem, contention.content⟩ := by
      rcases (latest_eq_ok hlist).mp hlatest with ⟨cache, -, hread, hsome⟩ | ⟨-, hread, hsome⟩
      · rwa [Option.some_injective _ hsome]
      · rwa [Option.some_injective _ hsome]
    obtain ⟨runId, hok, hvalue⟩ := hread
    rw [codec.parse_dump contention.dumped hok.2, contention.ended_run] at hvalue
    have hle := name_le_of_authoritativeHistory hlist hstored hne
    rw [HistoryFile.name, hstem, HistoryFile.name, ← hvalue] at hle
    exact absurd hgreater (not_lt.mpr hle)

end Contention

end rejection

/-- A run, and any number of calls that are rejected while it is active: the rejected calls do not
change `current.json`.  After the end of the run its terminal document is returned if it can be
read and each rejected call that has written to the history has a smaller file name; it is not
returned if one of them has a greater file name. -/
theorem busy_rejection {Status : Type} (codec : StatusCodec Status) (round : ℚ → ℚ)
    (sourceCount : Int) (ι : Type) [DecidableEq ι] (maximumSize : Nat) (path : String)
    (contention : Contention codec round sourceCount ι) :
    (∀ i write, (some i, write) ∈ contention.trace →
      ∀ files : RunFiles, (files.write write).current = files.current) ∧
    (Readable codec maximumSize contention.document →
      (∀ i, contention.Stores i → contention.rejectedName i < contention.document.name) →
      latest codec maximumSize path contention.final.history = .ok (some contention.content)) ∧
    ∀ i, contention.Stores i → contention.document.name < contention.rejectedName i →
      latest codec maximumSize path contention.final.history ≠ .ok (some contention.content) := by
  refine ⟨?_, contention.latest_of_smaller, fun i => contention.not_latest_of_greater⟩
  intro i write hwrite files
  obtain ⟨file, rfl⟩ := contention.isHistory_rejected hwrite
  rfl

namespace Sample

theorem identifierOk_laptop : identifierOk "laptop" = true := by decide

def profileId : ProfileId := ⟨"laptop", identifierOk_laptop⟩

def published : SinkAnswer := ⟨true, false⟩

def rejectedRun (runId : RunId) : RunFailed :=
  ⟨profileId, runId, .runnerProfileBusy, "Another runner is already active for profile laptop.",
    .backup⟩

/-- A backup is started while another run is active, is rejected, and is written to the history;
then the run completes. -/
def contention (rejected : RunId) (hne : rejected.value ≠ lastStem) :
    Contention codec id 1 Unit where
  files := ⟨none, .empty⟩
  runId := run
  reports := [⟨.runStarted profileId run .backup, published, (run, "running")⟩]
  active := by decide
  ended := ⟨.runCompleted profileId run, published, (run, "completed")⟩
  content := "20260101T080000Z completed"
  ended_run := rfl
  dumped := rfl
  failures _ := rejectedRun rejected
  rejected _ := ⟨.runFailed (rejectedRun rejected), published, (rejected, "failed")⟩
  rejected_event _ := rfl
  rejected_run _ := rfl
  run_ne := by decide
  rejected_ne _ := hne
  earlier _ h := absurd h (not_mem_empty _)
  trace :=
    [(none, .current "running"),
     (some (), .history ⟨rejected.value, rejected.value ++ " " ++ "failed"⟩),
     (some (), .history ⟨"last", rejected.value ++ " " ++ "failed"⟩),
     (none, .current "completed"),
     (none, .history ⟨"20260101T080000Z", "20260101T080000Z completed"⟩),
     (none, .history ⟨"last", "20260101T080000Z completed"⟩)]
  run_complete := by rfl
  written := mem_map.mpr
    ⟨(none, .history ⟨run.value, "20260101T080000Z completed"⟩), by simp [run], rfl⟩
  rejected_part | () => ⟨[], by rfl⟩

/-- The reader returns the document of the rejected call. -/
theorem rejected_call_returned :
    latest codec 1048576 "/var/lib/btrfs-backup/history/laptop"
        (contention laterRun (by decide)).final.history =
      .ok (some "20260101T090000Z failed") := by
  decide +kernel

/-- The id of the rejected call was drawn before that of the run. -/
theorem active_run_returned :
    let contention := contention ⟨"20260101T075959Z", by decide⟩ (by decide)
    (∃ i, contention.Stores i) ∧ latest codec 1048576 "history" contention.final.history =
      .ok (some "20260101T080000Z completed") := by
  intro contention
  have hstored : (some (), Write.history ⟨"last", "20260101T075959Z failed"⟩) ∈
      contention.trace := by
    simp [contention, Sample.contention]
  refine ⟨⟨(), _, hstored⟩, (busy_rejection codec id 1 Unit 1048576 "history" contention).2.1
    ⟨run, ⟨by decide, ?_⟩, rfl⟩ fun () _ => by decide +kernel⟩
  exact (by rfl : codec.parsePrivate "20260101T080000Z completed" = .ok run)

end Sample

end History

end BtrfsBackup
