import Calculator.Text.Offset

/-!
# Files

A tree of directories held in memory, and what reading a path in it gives. A path is followed one component after the
other: a dot stands for the directory itself and two dots for the one above, and the root is above itself. The main
statement is `Directory.read_insert`, that a file is found at the path at which it has been put.
-/

namespace Calculator

/-- Why a file cannot be read. -/
inductive FileError
  | notFound
  | isDirectory
  | notDirectory
  | nameTooLong
  | denied
deriving DecidableEq, Repr

/-- What a name in a directory stands for. -/
inductive Entry
  | file (bytes : List UInt8)
  | directory (entries : List (List Char × Entry))

namespace Entry

/-- The most bytes that the name of an entry may have. -/
def maxName : Nat :=
  255

/-- The entry with a name. -/
def find? (name : List Char) : List (List Char × Entry) → Option Entry
  | [] => none
  | (other, entry) :: rest => if other = name then some entry else find? name rest

/-- Puts a file at a path below a directory with some entries, with the directories on the way. -/
def insert (bytes : List UInt8) : List (List Char) → List (List Char × Entry) → List (List Char × Entry)
  | [], entries => entries
  | [name], entries => (name, file bytes) :: entries
  | name :: path, entries =>
    match find? name entries with
    | some (directory inner) => (name, directory (insert bytes path inner)) :: entries
    | _ => (name, directory (insert bytes path [])) :: entries

/-- The names that an entry can have. -/
def IsName (name : List Char) : Prop :=
  name ≠ ['.'] ∧ name ≠ ['.', '.'] ∧ Text.byteSize name ≤ maxName

instance (name : List Char) : Decidable (IsName name) :=
  inferInstanceAs (Decidable (_ ∧ _ ∧ _))

private theorem find?_cons (name : List Char) (entry : Entry) (entries : List (List Char × Entry)) :
    find? name ((name, entry) :: entries) = some entry := by
  rw [find?, if_pos rfl]

/-- The first name of a longer path is that of a directory. -/
private theorem exists_insert_cons (bytes : List UInt8) (name other : List Char) (path : List (List Char))
    (entries : List (List Char × Entry)) :
    ∃ inner, insert bytes (name :: other :: path) entries =
      (name, directory (insert bytes (other :: path) inner)) :: entries := by
  rw [insert]
  split
  · exact ⟨_, rfl⟩
  · exact ⟨_, rfl⟩
  · simp

end Entry

/-- A directory as the place that paths start from: its entries, and the directories above it up to the root. -/
structure Directory where
  entries : List (List Char × Entry)
  above : List (List (List Char × Entry))

namespace Directory

/-- The most bytes that a path may have. -/
def maxPath : Nat :=
  4095

/-- The components of a path. Empty ones stand for nothing. -/
def components (path : String) : List (List Char) :=
  (path.toList.splitOn '/').filter (· ≠ [])

/-- The directory at the top. -/
def root (d : Directory) : Directory :=
  match d.above.getLast? with
  | some entries => ⟨entries, []⟩
  | none => d

/-- The directory above. -/
def parent (d : Directory) : Directory :=
  match d.above with
  | entries :: above => ⟨entries, above⟩
  | [] => d

/-- Follows components from a directory; at the end there has to be a file. -/
def follow (d : Directory) : List (List Char) → Except FileError (List UInt8)
  | [] => .error .isDirectory
  | name :: rest =>
    if name = ['.'] then d.follow rest
    else if name = ['.', '.'] then d.parent.follow rest
    else if Entry.maxName < Text.byteSize name then .error .nameTooLong
    else
      match Entry.find? name d.entries with
      | none => .error .notFound
      | some (.directory entries) => follow ⟨entries, d.entries :: d.above⟩ rest
      | some (.file bytes) => if rest = [] then .ok bytes else .error .notDirectory

/-- Reads the file at a path. One that starts with a slash is followed from the root, and what stands before a slash
at its end has to be a directory. -/
def read (d : Directory) (path : String) : Except FileError (List UInt8) :=
  if path.isEmpty then .error .notFound
  else if maxPath < path.utf8ByteSize then .error .nameTooLong
  else
    let start := if path.startsWith "/" then d.root else d
    start.follow (components path ++ if path.endsWith "/" then [['.']] else [])

private theorem follow_cons {d : Directory} {name : List Char} (h : Entry.IsName name) (path : List (List Char)) :
    d.follow (name :: path) =
      match Entry.find? name d.entries with
      | none => .error .notFound
      | some (.directory entries) => follow ⟨entries, d.entries :: d.above⟩ path
      | some (.file bytes) => if path = [] then .ok bytes else .error .notDirectory := by
  rw [follow, if_neg h.1, if_neg h.2.1, if_neg (Nat.not_lt.2 h.2.2)]

/-- A file that has been put at a path is found when the path is followed. -/
private theorem follow_insert (bytes : List UInt8) {path : List (List Char)} (hne : path ≠ [])
    (hnames : ∀ name ∈ path, Entry.IsName name) (entries : List (List Char × Entry))
    (above : List (List (List Char × Entry))) :
    follow ⟨Entry.insert bytes path entries, above⟩ path = .ok bytes := by
  induction path generalizing entries above with
  | nil => exact absurd rfl hne
  | cons name path ih =>
    obtain ⟨hname, hpath⟩ := List.forall_mem_cons.1 hnames
    rw [follow_cons hname]
    cases path with
    | nil =>
      rw [Entry.insert, Entry.find?_cons]
      rfl
    | cons other path =>
      obtain ⟨inner, hinsert⟩ := Entry.exists_insert_cons bytes name other path entries
      simp only [hinsert, Entry.find?_cons]
      exact ih (List.cons_ne_nil other path) hpath inner _

/-- A file that has been put at a path below a directory is read there. -/
theorem read_insert (bytes : List UInt8) {path : String} (hpath : components path ≠ [])
    (hnames : ∀ name ∈ components path, Entry.IsName name) (hsize : path.utf8ByteSize ≤ maxPath)
    (hstart : path.startsWith "/" = false) (hend : path.endsWith "/" = false) (entries : List (List Char × Entry))
    (above : List (List (List Char × Entry))) :
    read ⟨Entry.insert bytes (components path) entries, above⟩ path = .ok bytes := by
  have hempty : path.isEmpty = false := by
    rw [Bool.eq_false_iff]
    intro h
    rw [String.isEmpty_iff.1 h] at hpath
    exact hpath (by decide)
  simp only [read, hempty, hstart, hend, Nat.not_lt.2 hsize, Bool.false_eq_true, if_false, List.append_nil]
  exact follow_insert bytes hpath hnames entries above

end Directory

end Calculator
