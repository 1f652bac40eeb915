/-
Paths of the C++ standard library, as the engine uses them.

An `FsPath` is what a `std::filesystem::path` denotes on Linux: whether it
starts at the root directory, its file names in order, and whether a separator
follows the last name.  Iterating over a path yields `elements`: a trailing
separator is an empty last element, which is why `"/a/"` and `"/a"` are
different paths of the same directory.

* `ofString` and `string` convert from and to texts (`ofString_string`);
* `append` is `operator/`, `lexicallyNormal` the normal form;
* `lexicallyNormal_idem` — normalising is idempotent on absolute paths;
* `pathIsWithin` compares normal forms element by element.
-/
import Mathlib

namespace BtrfsBackup

open List

/-- A file name: non-empty and without a separator. -/
def IsName (name : String) : Prop := name ≠ "" ∧ '/' ∉ name.toList

instance (name : String) : Decidable (IsName name) :=
  inferInstanceAs (Decidable (_ ∧ _))

/-- A path: root directory, file names, trailing separator. -/
structure FsPath where
  absolute : Bool
  names : List String
  trailing : Bool
  /-- File names are file names. -/
  isName : ∀ name ∈ names, IsName name
  /-- Only a file name can be followed by a separator of its own. -/
  trailing_names : trailing = true → names ≠ []
  deriving DecidableEq

namespace FsPath

variable {p q : FsPath} {word w : List Char} {text : String} {abs : Bool} {c : Char}

theorem ext_fields (ha : p.absolute = q.absolute) (hn : p.names = q.names)
    (ht : p.trailing = q.trailing) : p = q := by
  obtain ⟨pa, pn, pt, _, _⟩ := p
  obtain ⟨qa, qn, qt, _, _⟩ := q
  obtain rfl : pa = qa := ha
  obtain rfl : pn = qn := hn
  obtain rfl : pt = qt := ht
  rfl

/-- The empty path. -/
def empty : FsPath := ⟨false, [], false, by simp, by simp⟩

/-- `path::empty`. -/
def isEmpty (p : FsPath) : Bool := !p.absolute && p.names.isEmpty

/-- What iterating over the path yields. -/
def elements (p : FsPath) : List String :=
  (if p.absolute then ["/"] else []) ++ p.names ++ (if p.trailing then [""] else [])

/-- `path::filename`. -/
def filename (p : FsPath) : String :=
  if p.trailing then "" else p.names.getLast?.getD ""

/-- `path::parent_path`. -/
def parentPath (p : FsPath) : FsPath :=
  if p.trailing then { p with trailing := false, trailing_names := by simp }
  else
    { absolute := p.absolute
      names := p.names.dropLast
      trailing := false
      isName := fun name h => p.isName name (mem_of_mem_dropLast h)
      trailing_names := by simp }

/-! ### Texts -/

/-- The non-empty pieces between separators; `word` is the piece being read. -/
def pieces (word : List Char) : List Char → List (List Char)
  | [] => if word = [] then [] else [word]
  | c :: cs =>
    if c = '/' then (if word = [] then [] else [word]) ++ pieces [] cs
    else pieces (word ++ [c]) cs

theorem mem_pieces (hword : '/' ∉ word) : ∀ {cs w : List Char},
    w ∈ pieces word cs → w ≠ [] ∧ '/' ∉ w := by
  intro cs
  induction cs generalizing word with
  | nil =>
    intro w hw
    by_cases h : word = []
    · simp [pieces, h] at hw
    · simp only [pieces, if_neg h, mem_singleton] at hw
      exact hw ▸ ⟨h, hword⟩
  | cons c cs ih =>
    intro w hw
    by_cases hc : c = '/'
    · simp only [pieces, if_pos hc, mem_append] at hw
      rcases hw with hw | hw
      · by_cases h : word = []
        · simp [h] at hw
        · simp only [if_neg h, mem_singleton] at hw
          exact hw ▸ ⟨h, hword⟩
      · exact ih not_mem_nil hw
    · simp only [pieces, if_neg hc] at hw
      have hnext : '/' ∉ word ++ [c] := by
        simp only [mem_append, mem_singleton, not_or]
        exact ⟨hword, fun h => hc h.symm⟩
      exact ih hnext hw

/-- The file names of a text. -/
def namesOf (text : String) : List String := (pieces [] text.toList).map String.ofList

variable {name : String}

theorem isName_of_mem_namesOf (h : name ∈ namesOf text) : IsName name := by
  obtain ⟨w, hw, rfl⟩ := mem_map.mp h
  obtain ⟨hne, hsep⟩ := mem_pieces not_mem_nil hw
  refine ⟨fun h0 => hne ?_, by rwa [String.toList_ofList]⟩
  simpa using congrArg String.toList h0

theorem pieces_ne_nil (h : word ≠ []) (cs : List Char) : pieces word cs ≠ [] := by
  induction cs generalizing word with
  | nil => simp [pieces, h]
  | cons c cs ih =>
    by_cases hc : c = '/'
    · simp [pieces, hc, h]
    · rw [pieces, if_neg hc]
      exact ih (by simp)

/-- A text that is not empty and has no separator in front has a name. -/
theorem namesOf_ne_nil (hne : text ≠ "") (hhead : text.toList.head? ≠ some '/') :
    namesOf text ≠ [] := by
  rcases hlist : text.toList with _ | ⟨c, cs⟩
  · exact absurd (String.toList_eq_nil_iff.mp hlist) hne
  · have hc : c ≠ '/' := by simpa [hlist] using hhead
    rw [namesOf, hlist, pieces, if_neg hc]
    simpa using pieces_ne_nil (cons_ne_nil c []) cs

def ofString (text : String) : FsPath where
  absolute := text.toList.head? == some '/'
  names := namesOf text
  trailing := text.toList.getLast? == some '/' && !(namesOf text).isEmpty
  isName := fun _ h => isName_of_mem_namesOf h
  trailing_names := by
    intro h
    simp only [Bool.and_eq_true, Bool.not_eq_true'] at h
    exact fun h0 => by simp [h0] at h

/-- `path::string`. -/
def string (p : FsPath) : String :=
  (if p.absolute then "/" else "") ++ "/".intercalate p.names ++
    (if p.trailing then "/" else "")

/-! ### Appending -/

/-- `operator/`. -/
def append (p q : FsPath) : FsPath :=
  if q.absolute then q
  else if q.names = [] then
    { p with
      trailing := !p.names.isEmpty
      trailing_names := by simp }
  else
    { absolute := p.absolute
      names := p.names ++ q.names
      trailing := q.trailing
      isName := by
        intro name h
        rcases mem_append.mp h with h | h
        · exact p.isName name h
        · exact q.isName name h
      trailing_names := by
        intro ht h
        exact q.trailing_names ht (append_eq_nil_iff.mp h).2 }

instance : HDiv FsPath FsPath FsPath := ⟨append⟩

/-- `operator/` with a text on the right. -/
instance : HDiv FsPath String FsPath := ⟨fun p text => append p (ofString text)⟩

/-! ### Normal form -/

/-- One element of `lexically_normal`: the names so far with the last one
first, and whether a separator follows them. -/
def normalStep (absolute : Bool) : List String × Bool → String → List String × Bool
  | (stack, _), name =>
    if name = ".." then
      match stack with
      | [] => if absolute then ([], false) else ([".."], false)
      | top :: rest =>
        if top = ".." then (".." :: top :: rest, false) else (rest, !rest.isEmpty)
    else if name = "." then (stack, !stack.isEmpty)
    else (name :: stack, false)

/-- The names of the normal form, last one first, and the trailing separator. -/
def normalStack (p : FsPath) : List String × Bool :=
  let acc := p.names.foldl (normalStep p.absolute) ([], false)
  if p.trailing then (acc.1, !acc.1.isEmpty) else acc

variable {acc : List String × Bool} {P : String → Prop}

theorem normalStep_forall (hdots : P "..")
    (hacc : ∀ n ∈ acc.1, P n) (hname : P name) : ∀ n ∈ (normalStep abs acc name).1, P n := by
  obtain ⟨stack, slash⟩ := acc
  intro n hn
  by_cases h1 : name = ".."
  · rcases stack with _ | ⟨top, rest⟩
    · cases abs
      · have : n = ".." := by simpa [normalStep, h1] using hn
        exact this ▸ hdots
      · simp [normalStep, h1] at hn
    · simp only [normalStep, if_pos h1] at hn
      split_ifs at hn
      · rcases mem_cons.mp hn with rfl | hn
        · exact hdots
        · exact hacc n hn
      · exact hacc n (mem_cons_of_mem top hn)
  · simp only [normalStep, if_neg h1] at hn
    split_ifs at hn
    · exact hacc n hn
    · rcases mem_cons.mp hn with rfl | hn
      · exact hname
      · exact hacc n hn

theorem foldl_normalStep_forall (hdots : P "..") (abs : Bool) :
    ∀ (names : List String) (acc : List String × Bool), (∀ n ∈ acc.1, P n) →
      (∀ n ∈ names, P n) → ∀ n ∈ (names.foldl (normalStep abs) acc).1, P n
  | [], _, hacc, _ => hacc
  | name :: rest, acc, hacc, hnames =>
    foldl_normalStep_forall hdots abs rest (normalStep abs acc name)
      (normalStep_forall hdots hacc (hnames name mem_cons_self))
      fun n hn => hnames n (mem_cons_of_mem name hn)

theorem normalStack_forall (hdots : P "..") (hp : ∀ n ∈ p.names, P n) :
    ∀ n ∈ p.normalStack.1, P n := by
  have h := foldl_normalStep_forall hdots p.absolute p.names ([], false) (by simp) hp
  rw [normalStack]
  split_ifs
  · exact h
  · exact h

/-- The path `"."`. -/
def dot : FsPath := ⟨false, ["."], false, by decide, by simp⟩

/-- `path::lexically_normal`. -/
def lexicallyNormal (p : FsPath) : FsPath :=
  if p.isEmpty then p
  else if !p.absolute && p.normalStack.1.isEmpty then dot
  else
    { absolute := p.absolute
      names := p.normalStack.1.reverse
      -- a separator after a last ".." is dropped
      trailing := p.normalStack.2 && !p.normalStack.1.isEmpty &&
        p.normalStack.1.head? != some ".."
      isName := fun n hn => normalStack_forall (by decide) p.isName n (mem_reverse.mp hn)
      trailing_names := by
        intro h h0
        simp [reverse_eq_nil_iff.mp h0] at h }

/-- What holds of the names of a path and of the dots holds of the names of its normal form. -/
theorem lexicallyNormal_forall (hdots : P "..") (hdot : P ".")
    (hp : ∀ n ∈ p.names, P n) : ∀ n ∈ p.lexicallyNormal.names, P n := by
  intro n hn
  unfold lexicallyNormal at hn
  split_ifs at hn
  · exact hp n hn
  · exact mem_singleton.mp hn ▸ hdot
  · exact normalStack_forall hdots hp n (mem_reverse.mp hn)

/-- An absolute path without `.` and `..`. -/
def IsNormal (p : FsPath) : Prop := p.absolute = true ∧ ∀ n ∈ p.names, n ≠ "." ∧ n ≠ ".."

instance (p : FsPath) : Decidable p.IsNormal := inferInstanceAs (Decidable (_ ∧ _))

theorem normalStep_plain (hacc : ∀ n ∈ acc.1, n ≠ "." ∧ n ≠ "..") :
    ∀ n ∈ (normalStep true acc name).1, n ≠ "." ∧ n ≠ ".." := by
  obtain ⟨stack, slash⟩ := acc
  intro n hn
  by_cases h1 : name = ".."
  · rcases stack with _ | ⟨top, rest⟩
    · simp [normalStep, h1] at hn
    · simp only [normalStep, if_pos h1, if_neg (hacc top mem_cons_self).2] at hn
      exact hacc n (mem_cons_of_mem top hn)
  · simp only [normalStep, if_neg h1] at hn
    split_ifs at hn with h2
    · exact hacc n hn
    · rcases mem_cons.mp hn with rfl | hn
      · exact ⟨h2, h1⟩
      · exact hacc n hn

theorem foldl_normalStep_plain :
    ∀ (names : List String) (acc : List String × Bool), (∀ n ∈ acc.1, n ≠ "." ∧ n ≠ "..") →
      ∀ n ∈ (names.foldl (normalStep true) acc).1, n ≠ "." ∧ n ≠ ".."
  | [], _, hacc => hacc
  | name :: rest, acc, hacc =>
    foldl_normalStep_plain rest (normalStep true acc name) (normalStep_plain hacc)

/-- Plain names are pushed one after the other. -/
theorem foldl_normalStep_of_plain :
    ∀ (names : List String) (acc : List String × Bool), (∀ n ∈ names, n ≠ "." ∧ n ≠ "..") →
      names.foldl (normalStep abs) acc =
        if names = [] then acc else (names.reverse ++ acc.1, false)
  | [], _, _ => rfl
  | name :: rest, acc, hnames => by
    obtain ⟨h1, h2⟩ := hnames name mem_cons_self
    rw [foldl_cons, foldl_normalStep_of_plain rest _
      fun n hn => hnames n (mem_cons_of_mem name hn)]
    have hstep : normalStep abs acc name = (name :: acc.1, false) := by
      simp only [normalStep, if_neg h2, if_neg h1]
    rw [hstep, if_neg (cons_ne_nil name rest)]
    split_ifs with h
    · simp [h]
    · simp

/-- Normalising an absolute path leaves no `.` and no `..`. -/
theorem lexicallyNormal_isNormal (hp : p.absolute = true) : p.lexicallyNormal.IsNormal := by
  have hplain : ∀ n ∈ p.normalStack.1, n ≠ "." ∧ n ≠ ".." := by
    have h := foldl_normalStep_plain p.names ([], false) (by simp)
    rw [normalStack, hp]
    split_ifs
    · exact h
    · exact h
  have hne : p.isEmpty = false := by simp [isEmpty, hp]
  rw [lexicallyNormal, if_neg (by simp [hne]), if_neg (by simp [hp])]
  exact ⟨hp, fun n hn => hplain n (mem_reverse.mp hn)⟩

theorem normalStack_of_plain (hp : ∀ n ∈ p.names, n ≠ "." ∧ n ≠ "..") :
    p.normalStack = (p.names.reverse, p.trailing) := by
  rw [normalStack, foldl_normalStep_of_plain p.names _ hp]
  cases ht : p.trailing
  · by_cases h : p.names = []
    · simp [h]
    · simp [h]
  · simp [p.trailing_names ht]

/-- Paths without `.` and `..` are left as they are. -/
theorem lexicallyNormal_of_plain (hp : ∀ n ∈ p.names, n ≠ "." ∧ n ≠ "..") :
    p.lexicallyNormal = p := by
  by_cases hempty : p.isEmpty = true
  · rw [lexicallyNormal, if_pos hempty]
  have hstack := normalStack_of_plain hp
  have hdot : ¬ (!p.absolute && p.normalStack.1.isEmpty) = true := by
    simpa [hstack, isEmpty] using hempty
  rw [lexicallyNormal, if_neg hempty, if_neg hdot]
  refine ext_fields rfl ?_ ?_
  · simp [hstack]
  · have hlast : p.names.getLast? ≠ some ".." := fun h =>
      (hp ".." (mem_of_getLast? h)).2 rfl
    cases ht : p.trailing
    · simp [hstack, ht]
    · simp [hstack, ht, p.trailing_names ht, hlast]

theorem lexicallyNormal_of_isNormal (hp : p.IsNormal) : p.lexicallyNormal = p :=
  lexicallyNormal_of_plain hp.2

/-- Normalising an absolute path twice is normalising it once. -/
theorem lexicallyNormal_idem (hp : p.absolute = true) :
    p.lexicallyNormal.lexicallyNormal = p.lexicallyNormal :=
  lexicallyNormal_of_isNormal (lexicallyNormal_isNormal hp)

/-! ### Texts of paths -/

theorem pieces_append_sep (hw : '/' ∉ w) (word cs : List Char) :
    pieces word (w ++ '/' :: cs) =
      (if word ++ w = [] then [] else [word ++ w]) ++ pieces [] cs := by
  induction w generalizing word with
  | nil => simp [pieces]
  | cons c w ih =>
    have hc : c ≠ '/' := fun h => hw (h ▸ mem_cons_self)
    rw [cons_append, pieces, if_neg hc, ih (fun h => hw (mem_cons_of_mem c h))]
    simp

theorem pieces_of_name (hw : '/' ∉ w) (word : List Char) :
    pieces word w = if word ++ w = [] then [] else [word ++ w] := by
  induction w generalizing word with
  | nil => simp [pieces]
  | cons c w ih =>
    have hc : c ≠ '/' := fun h => hw (h ▸ mem_cons_self)
    rw [pieces, if_neg hc, ih (fun h => hw (mem_cons_of_mem c h))]
    simp

/-- Names joined by separators are read back, whether or not a separator
follows the last one. -/
theorem pieces_intercalate (tail : List Char) (htail : tail = [] ∨ tail = ['/']) :
    ∀ {ws : List (List Char)}, (∀ w ∈ ws, w ≠ [] ∧ '/' ∉ w) →
      pieces [] (['/'].intercalate ws ++ tail) = ws
  | [], _ => by
    rcases htail with rfl | rfl
    · rfl
    · rfl
  | [w], hws => by
    obtain ⟨hne, hsep⟩ := hws w mem_cons_self
    rcases htail with rfl | rfl
    · simp [pieces_of_name hsep, hne]
    · simp [pieces_append_sep hsep, hne, pieces]
  | w :: v :: ws, hws => by
    obtain ⟨hne, hsep⟩ := hws w mem_cons_self
    have hrest : ∀ u ∈ v :: ws, u ≠ [] ∧ '/' ∉ u := fun u hu => hws u (mem_cons_of_mem w hu)
    have ih := pieces_intercalate tail htail hrest
    rw [intercalate_cons_cons, append_assoc, append_assoc, singleton_append,
      pieces_append_sep hsep, nil_append, if_neg hne, ih, singleton_append]

theorem names_toList : ∀ w ∈ p.names.map String.toList, w ≠ [] ∧ '/' ∉ w := by
  intro w hw
  obtain ⟨name, hname, rfl⟩ := mem_map.mp hw
  obtain ⟨hne, hsep⟩ := p.isName name hname
  exact ⟨fun h => hne (String.toList_eq_nil_iff.mp h), hsep⟩

theorem toList_string (p : FsPath) :
    p.string.toList = (if p.absolute then ['/'] else []) ++
      (['/'].intercalate (p.names.map String.toList) ++ if p.trailing then ['/'] else []) := by
  simp only [string, String.toList_append, String.toList_intercalate, append_assoc]
  split_ifs
  all_goals rfl

theorem namesOf_string (p : FsPath) : namesOf p.string = p.names := by
  have htail : (if p.trailing then ['/'] else []) = [] ∨
      (if p.trailing then ['/'] else []) = ['/'] := by
    cases p.trailing
    · exact .inl rfl
    · exact .inr rfl
  have h := pieces_intercalate _ htail (names_toList (p := p))
  have hroot : pieces [] p.string.toList = p.names.map String.toList := by
    rw [toList_string]
    cases p.absolute
    · exact h
    · simpa [pieces] using h
  rw [namesOf, hroot, map_map]
  exact map_id'' (fun name => String.ofList_toList) p.names

theorem intercalate_ne_nil {ws : List (List Char)} (hws : ∀ w ∈ ws, w ≠ [] ∧ '/' ∉ w)
    (h : ws ≠ []) : ['/'].intercalate ws ≠ [] := by
  intro h0
  have hread := pieces_intercalate [] (.inl rfl) hws
  rw [h0] at hread
  exact h hread.symm

/-- Joined names neither start nor end with a separator. -/
theorem intercalate_ends : ∀ {ws : List (List Char)}, (∀ w ∈ ws, w ≠ [] ∧ '/' ∉ w) →
    (['/'].intercalate ws).head? ≠ some '/' ∧ (['/'].intercalate ws).getLast? ≠ some '/'
  | [], _ => by simp
  | [w], hws => by
    obtain ⟨-, hsep⟩ := hws w mem_cons_self
    rw [intercalate_singleton]
    exact ⟨fun h => hsep (mem_of_head? h), fun h => hsep (mem_of_getLast? h)⟩
  | w :: v :: ws, hws => by
    obtain ⟨hne, hsep⟩ := hws w mem_cons_self
    have hrest : ∀ u ∈ v :: ws, u ≠ [] ∧ '/' ∉ u := fun u hu => hws u (mem_cons_of_mem w hu)
    have hjoin := intercalate_ne_nil hrest (cons_ne_nil v ws)
    rw [intercalate_cons_cons]
    constructor
    · rw [append_assoc, head?_append_of_ne_nil _ hne]
      exact fun h => hsep (mem_of_head? h)
    · rw [getLast?_append_of_ne_nil _ hjoin]
      exact (intercalate_ends hrest).2

/-- Reading a path's text gives the path back. -/
theorem ofString_string (p : FsPath) : ofString p.string = p := by
  obtain ⟨hhead, hlast⟩ := intercalate_ends (names_toList (p := p))
  by_cases h : p.names = []
  · have ht : p.trailing = false := by
      by_contra ht
      exact p.trailing_names (by simpa using ht) h
    refine ext_fields ?_ p.namesOf_string ?_
    · cases ha : p.absolute
      · simp [ofString, toList_string, ha, h, ht]
      · simp [ofString, toList_string, ha]
    · simp [ofString, namesOf_string, h, ht]
  · have hne : ['/'].intercalate (p.names.map String.toList) ≠ [] :=
      intercalate_ne_nil names_toList (by simpa using h)
    refine ext_fields ?_ p.namesOf_string ?_
    · cases ha : p.absolute
      · simp [ofString, toList_string, ha, head?_append_of_ne_nil _ hne, hhead]
      · simp [ofString, toList_string, ha]
    · cases ht : p.trailing
      · simp [ofString, namesOf_string, toList_string, ht,
          getLast?_append_of_ne_nil _ hne, hlast]
      · simp [ofString, namesOf_string, toList_string, ht, h]

/-- Different paths have different texts. -/
theorem string_injective : Function.Injective string := by
  intro p q h
  rw [← ofString_string p, h, ofString_string]

/-! ### The characters of a path -/

theorem mem_of_mem_pieces {cs : List Char} (h : w ∈ pieces word cs)
    (hc : c ∈ w) : c ∈ word ∨ c ∈ cs := by
  induction cs generalizing word with
  | nil =>
    by_cases hword : word = []
    · simp [pieces, hword] at h
    · simp only [pieces, if_neg hword, mem_singleton] at h
      exact .inl (h ▸ hc)
  | cons d cs ih =>
    by_cases hd : d = '/'
    · simp only [pieces, if_pos hd, mem_append] at h
      rcases h with h | h
      · by_cases hword : word = []
        · simp [hword] at h
        · simp only [if_neg hword, mem_singleton] at h
          exact .inl (h ▸ hc)
      · exact .inr (mem_cons_of_mem d ((ih h).resolve_left not_mem_nil))
    · simp only [pieces, if_neg hd] at h
      rcases ih h with hword | hcs
      · rcases mem_append.mp hword with hword | hlast
        · exact .inl hword
        · exact .inr (mem_singleton.mp hlast ▸ mem_cons_self)
      · exact .inr (mem_cons_of_mem d hcs)

/-- The names of a text have its characters. -/
theorem mem_of_mem_namesOf (h : name ∈ namesOf text) (hc : c ∈ name.toList) : c ∈ text.toList := by
  obtain ⟨w, hw, rfl⟩ := mem_map.mp h
  rw [String.toList_ofList] at hc
  exact (mem_of_mem_pieces hw hc).resolve_left not_mem_nil

theorem mem_intercalate_sep : ∀ {ws : List (List Char)}, c ∈ ['/'].intercalate ws →
    c = '/' ∨ ∃ w ∈ ws, c ∈ w
  | [], h => absurd h not_mem_nil
  | [w], h => by
    rw [intercalate_singleton] at h
    exact .inr ⟨w, mem_cons_self, h⟩
  | w :: v :: ws, h => by
    rw [intercalate_cons_cons] at h
    rcases mem_append.mp h with h | h
    · rcases mem_append.mp h with h | h
      · exact .inr ⟨w, mem_cons_self, h⟩
      · exact .inl (mem_singleton.mp h)
    · rcases mem_intercalate_sep h with h | ⟨u, hu, hc⟩
      · exact .inl h
      · exact .inr ⟨u, mem_cons_of_mem w hu, hc⟩

/-- The text of a path has the characters of its names, and separators. -/
theorem mem_string (h : c ∈ p.string.toList) : c = '/' ∨ ∃ name ∈ p.names, c ∈ name.toList := by
  have hsep : ∀ condition : Bool, c ∈ (if condition then ['/'] else []) → c = '/' := by
    intro condition hmem
    cases condition with
    | true => exact mem_singleton.mp hmem
    | false => exact absurd hmem not_mem_nil
  rw [toList_string] at h
  rcases mem_append.mp h with h | h
  · exact .inl (hsep _ h)
  · rcases mem_append.mp h with h | h
    · rcases mem_intercalate_sep h with h | ⟨w, hw, hc⟩
      · exact .inl h
      · obtain ⟨name, hname, rfl⟩ := mem_map.mp hw
        exact .inr ⟨name, hname, hc⟩
    · exact .inl (hsep _ h)

/-! ### A name below a directory -/

theorem namesOf_name (h : IsName name) : namesOf name = [name] := by
  have hne : name.toList ≠ [] := fun h0 => h.1 (String.toList_eq_nil_iff.mp h0)
  rw [namesOf, pieces_of_name h.2, nil_append, if_neg hne]
  simp

theorem ofString_name_absolute (h : IsName name) : (ofString name).absolute = false := by
  simp only [ofString, beq_eq_false_iff_ne]
  exact fun h0 => h.2 (mem_of_head? h0)

theorem ofString_name_trailing (h : IsName name) : (ofString name).trailing = false := by
  have : name.toList.getLast? ≠ some '/' := fun h0 => h.2 (mem_of_getLast? h0)
  simp [ofString, this]

/-- Appending a non-empty relative path. -/
theorem append_relative (hq : q.absolute = false) (hn : q.names ≠ []) :
    (p / q : FsPath).absolute = p.absolute ∧ (p / q : FsPath).names = p.names ++ q.names ∧
      (p / q : FsPath).trailing = q.trailing := by
  have h : (p / q : FsPath) = append p q := rfl
  simp [h, append, hq, hn]

section div

variable {p : FsPath} {name : String}

theorem div_name (h : IsName name) : (p / name : FsPath).absolute = p.absolute ∧
    (p / name : FsPath).names = p.names ++ [name] ∧ (p / name : FsPath).trailing = false := by
  have hnames : (ofString name).names = [name] := namesOf_name h
  have happend := append_relative (p := p) (ofString_name_absolute h) (by simp [hnames])
  rw [hnames, ofString_name_trailing h] at happend
  exact happend

theorem div_name_filename (h : IsName name) : (p / name : FsPath).filename = name := by
  obtain ⟨-, hnames, htrail⟩ := div_name (p := p) h
  simp [filename, hnames, htrail]

theorem div_name_isNormal (hp : p.IsNormal) (h : IsName name) (h1 : name ≠ ".")
    (h2 : name ≠ "..") : (p / name : FsPath).IsNormal := by
  obtain ⟨habs, hnames, -⟩ := div_name h
  refine ⟨habs.trans hp.1, fun n hn => ?_⟩
  rw [hnames] at hn
  rcases mem_append.mp hn with hn | hn
  · exact hp.2 n hn
  · rw [mem_singleton.mp hn]
    exact ⟨h1, h2⟩

/-- The text of a name below a directory. -/
theorem string_div_name (hne : p.names ≠ []) (ht : p.trailing = false) (h : IsName name) :
    (p / name : FsPath).string = p.string ++ "/" ++ name := by
  obtain ⟨habsolute, hnames, htrail⟩ := div_name h
  have hjoin : ∀ {ws : List (List Char)} (w : List Char), ws ≠ [] →
      ['/'].intercalate (ws ++ [w]) = ['/'].intercalate ws ++ ['/'] ++ w := by
    intro ws w hws
    induction ws with
    | nil => exact absurd rfl hws
    | cons v ws ih =>
      cases ws with
      | nil => simp [intercalate_cons_cons]
      | cons u ws =>
        rw [cons_append, cons_append, intercalate_cons_cons, ← cons_append,
          ih (cons_ne_nil u ws), intercalate_cons_cons]
        simp
  have hmap : p.names.map String.toList ≠ [] := by simpa using hne
  apply String.toList_inj.mp
  rw [toList_string, habsolute, hnames, htrail, map_append, map_singleton,
    hjoin _ hmap, String.toList_append, String.toList_append, toList_string, ht]
  simp

/-- A plain name stays below a directory when the path is normalised. -/
theorem lexicallyNormal_div_name (hp : p.absolute = true) (h : IsName name) (h1 : name ≠ ".")
    (h2 : name ≠ "..") : (p / name : FsPath).lexicallyNormal = p.lexicallyNormal / name := by
  obtain ⟨habsolute, hnames, htrail⟩ := div_name h
  have hnorm : ∀ q : FsPath, q.absolute = true →
      q.lexicallyNormal.absolute = true ∧ q.lexicallyNormal.names = q.normalStack.1.reverse := by
    intro q hq
    have hne : q.isEmpty = false := by simp [isEmpty, hq]
    rw [lexicallyNormal, if_neg (by simp [hne]), if_neg (by simp [hq])]
    exact ⟨hq, rfl⟩
  have hstack : (p / name : FsPath).normalStack = (name :: p.normalStack.1, false) := by
    have hfirst : p.normalStack.1 = (p.names.foldl (normalStep p.absolute) ([], false)).1 := by
      rw [normalStack]
      split_ifs
      · rfl
      · rfl
    rw [normalStack, htrail, hnames, habsolute, List.foldl_append, hfirst]
    simp only [foldl_cons, foldl_nil, normalStep, if_neg h1, if_neg h2]
    rfl
  obtain ⟨hbelowAbsolute, hbelowNames⟩ := hnorm (p / name) (habsolute.trans hp)
  obtain ⟨hpAbsolute, hpNames⟩ := hnorm p hp
  obtain ⟨hrightAbsolute, hrightNames, hrightTrailing⟩ := div_name h
  refine ext_fields ?_ ?_ ?_
  · rw [hbelowAbsolute, hrightAbsolute, hpAbsolute]
  · rw [hbelowNames, hstack, hrightNames, hpNames]
    simp
  · have hne : (p / name : FsPath).isEmpty = false := by simp [isEmpty, habsolute, hp]
    rw [hrightTrailing, lexicallyNormal, if_neg (by simp [hne]), if_neg (by simp [habsolute, hp])]
    show ((p / name : FsPath).normalStack.2 && _ && _) = false
    rw [hstack]
    rfl

end div

/-! ### Containment -/

/-- `path_is_within`. -/
def pathIsWithin (candidate base : FsPath) : Bool :=
  base.lexicallyNormal.elements.isPrefixOf candidate.lexicallyNormal.elements

variable {cand base : FsPath}

theorem pathIsWithin_elements (hc : cand.IsNormal)
    (hb : base.IsNormal) : pathIsWithin cand base = true ↔
      base.names ++ (if base.trailing then [""] else []) <+:
        cand.names ++ (if cand.trailing then [""] else []) := by
  rw [pathIsWithin, List.isPrefixOf_iff_prefix, lexicallyNormal_of_isNormal hc,
    lexicallyNormal_of_isNormal hb]
  simp [elements, hc.1, hb.1, cons_prefix_cons]

theorem empty_not_mem_names (p : FsPath) : "" ∉ p.names := fun h => (p.isName "" h).1 rfl

/-- A directory spelled without a trailing separator contains what lies
below it. -/
theorem pathIsWithin_iff (hc : cand.IsNormal) (hb : base.IsNormal) (ht : base.trailing = false) :
    pathIsWithin cand base = true ↔ base.names <+: cand.names := by
  rw [pathIsWithin_elements hc hb, ht, if_neg Bool.false_ne_true, append_nil]
  split_ifs
  · rw [prefix_concat_iff]
    refine or_iff_right fun h => base.empty_not_mem_names ?_
    rw [h]
    exact mem_append_right _ mem_cons_self
  · rw [append_nil]

/-- A directory spelled with a trailing separator contains only that spelling
of itself. -/
theorem pathIsWithin_trailing (hc : cand.IsNormal) (hb : base.IsNormal)
    (ht : base.trailing = true) : pathIsWithin cand base = true ↔ cand = base := by
  have hmem : ¬ base.names ++ [""] <+: cand.names := fun h =>
    cand.empty_not_mem_names (h.subset (mem_append_right _ mem_cons_self))
  rw [pathIsWithin_elements hc hb, ht, if_pos rfl]
  constructor
  · intro h
    split_ifs at h with hct
    · rcases prefix_concat_iff.mp h with h | h
      · exact ext_fields (hc.1.trans hb.1.symm) (append_cancel_right h).symm
          (hct.trans ht.symm)
      · exact absurd h hmem
    · exact absurd (by simpa using h) hmem
  · rintro rfl
    rw [if_pos ht]

/-- Whatever the spellings, what lies within a directory has its names in
front. -/
theorem prefix_of_pathIsWithin (hc : cand.IsNormal)
    (hb : base.IsNormal) (h : pathIsWithin cand base = true) : base.names <+: cand.names := by
  cases ht : base.trailing with
  | false => exact (pathIsWithin_iff hc hb ht).mp h
  | true =>
    rw [(pathIsWithin_trailing hc hb ht).mp h]

end FsPath

end BtrfsBackup
