import ScriptLexer.Files.Path

/-!
# File trees

The files and directories that a program sees from its working directory. A path is followed
from directory to directory; the directories above the working directory and the root of all
files are there always. Reading and writing say what stands in their way, and writing changes
one file at most.

## Main results

* `node?_put` — putting a node at a place changes that place alone.
* `write_eq_ok` — a write that succeeds puts its content at one place.
-/

namespace ScriptLexer.Files

/-- A place as seen from the working directory: the names on the way to it, the last one first.
The way may begin with two dots, once for each directory upwards, or with the empty name, which
is the root of all files. -/
abbrev Place := List String

namespace Place

/-- Whether a directory is at a place whatever files there are: the working directory, the
directories around it, and the root. -/
def isGiven (p : Place) : Bool :=
  p.all (· == "..") || p == [""]

/-- Whether a place lies below the working directory. -/
def isBelow (p : Place) : Bool :=
  p.getLast?.any fun name => name != ".." && name != ""

/-- The directory around a place. -/
def parent : Place → Place
  | [] => [".."]
  | ".." :: above => ".." :: ".." :: above
  | [""] => [""]
  | _ :: above => above

/-- The place that a path sets out from. -/
def base (absolute : Bool) : Place :=
  if absolute then [""] else []

end Place

/-- What can be at a place. -/
inductive Node where
  | directory
  | file (content : ByteArray)

instance : DecidableEq Node
  | .directory, .directory => isTrue rfl
  | .directory, .file _ => isFalse nofun
  | .file _, .directory => isFalse nofun
  | .file content, .file content' =>
    match ByteArray.decEq content content' with
    | isTrue h => isTrue (congrArg Node.file h)
    | isFalse h => isFalse fun hfile => h (Node.file.inj hfile)

/-- The nodes that are there, each place at most once. -/
structure Tree where
  /-- The nodes with their places. -/
  nodes : List (Place × Node)

namespace Tree

/-- The working directory with nothing in it. -/
def empty : Tree :=
  ⟨[]⟩

/-- What is at a place. -/
def node? (t : Tree) (p : Place) : Option Node :=
  if p.isGiven then some .directory else t.nodes.lookup p

/-- Puts a node at a place, instead of what was there. -/
def put (t : Tree) (p : Place) (node : Node) : Tree :=
  ⟨(p, node) :: t.nodes.filter (·.1 != p)⟩

/-! ### Following paths -/

/-- Goes from a directory to the directory that a part of a path names. -/
def enter (t : Tree) (here : Place) (part : String) : Except Fault Place :=
  if part = "" ∨ part = "." then .ok here
  else if part = ".." then .ok here.parent
  else if Path.nameLimit < part.utf8ByteSize then .error .nameTooLong
  else match t.node? (part :: here) with
    | some .directory => .ok (part :: here)
    | some (.file _) => .error .notADirectory
    | none => .error .notFound

/-- The directory that the last part of a route is looked up in. -/
def approach (t : Tree) (r : Route) : Except Fault Place :=
  r.parents.foldlM t.enter (Place.base r.absolute)

/-- The content of the file at a path. -/
def read (t : Tree) (path : String) : Except Fault ByteArray := do
  let r ← Route.ofPath path
  let here ← t.approach r
  if r.endsInDirectory then .error .isDirectory
  else if Path.nameLimit < r.last.utf8ByteSize then .error .nameTooLong
  else match t.node? (r.last :: here) with
    | some (.file content) => if r.slash then .error .notADirectory else .ok content
    | some .directory => .error .isDirectory
    | none => .error .notFound

/-- The place of the file that a path names for writing, whether it exists or not. -/
def destination (t : Tree) (path : String) : Except Fault Place := do
  let r ← Route.ofPath path
  let here ← t.approach r
  if r.endsInDirectory ∨ r.slash then .error .isDirectory
  else if Path.nameLimit < r.last.utf8ByteSize then .error .nameTooLong
  else match t.node? (r.last :: here) with
    | some .directory => .error .isDirectory
    | _ => .ok (r.last :: here)

/-- Makes content the content of the file at a path, which is created if it does not exist. -/
def write (t : Tree) (path : String) (content : ByteArray) : Except Fault Tree :=
  (t.destination path).map fun place => t.put place (.file content)

/-! ### Building and comparing -/

/-- Puts a directory at a place and at every place on the way to it. -/
def putDirectories (t : Tree) : Place → Tree
  | [] => t
  | name :: above => (t.putDirectories above).put (name :: above) .directory

/-- The tree with given directories and files. The directories on the way to each are there
too. -/
def ofListing (directories : List String) (files : List (String × ByteArray)) : Tree :=
  let bare := directories.foldl (fun t path => t.putDirectories (Path.place path)) empty
  files.foldl
    (fun t (path, content) =>
      let place := Path.place path
      (t.putDirectories place.tail).put place (.file content))
    bare

/-- The files of a tree below the working directory that an earlier tree did not have, or had
with other content. -/
def changes (before after : Tree) : List (Place × ByteArray) :=
  after.nodes.filterMap fun (place, node) =>
    match node with
    | .directory => none
    | .file content =>
      if place.isBelow ∧ before.node? place ≠ some (.file content) then some (place, content)
      else none

/-! ### Laws -/

/-- Putting a node at a place changes that place alone. -/
theorem node?_put (t : Tree) {place : Place} (node : Node) (other : Place)
    (h : place.isGiven = false) :
    (t.put place node).node? other = if other = place then some node else t.node? other := by
  by_cases hother : other = place
  · subst hother
    simp [node?, put, h]
  · have hne : (other == place) = false := by simpa using hother
    simp only [node?, put, List.lookup_cons, hne, hother, if_false]
    congr 1
    induction t.nodes with
    | nil => rfl
    | cons n nodes ih =>
        obtain ⟨p, node'⟩ := n
        by_cases hp : p = place
        · subst hp
          simpa [List.lookup_cons, hne] using ih
        · cases hq : other == p <;> simp [hp, List.lookup_cons, hq, ih]

/-- The place that a path names for writing is that of no directory. -/
theorem destination_eq_ok {t : Tree} {path : String} {place : Place}
    (h : t.destination path = .ok place) :
    place.isGiven = false ∧ t.node? place ≠ some .directory := by
  unfold destination at h
  cases hr : Route.ofPath path with
  | error => simp [hr, bind, Except.bind] at h
  | ok r =>
      cases ha : t.approach r with
      | error => simp [hr, ha, bind, Except.bind] at h
      | ok here =>
          simp only [hr, ha, bind, Except.bind] at h
          split at h
          case isTrue => cases h
          case isFalse hname =>
              split at h
              · cases h
              · split at h
                case h_1 => cases h
                case h_2 hnode =>
                    cases h
                    refine ⟨?_, hnode⟩
                    simp only [Route.endsInDirectory, not_or, Bool.not_eq_true,
                      Bool.or_eq_false_iff, decide_eq_false_iff_not] at hname
                    simp [Place.isGiven, hname]

/-- A write that succeeds puts its content at one place. -/
theorem write_eq_ok {t after : Tree} {path : String} {content : ByteArray} :
    t.write path content = .ok after ↔
      ∃ place, t.destination path = .ok place ∧ after = t.put place (.file content) := by
  unfold write
  cases t.destination path with
  | error => simp [Except.map]
  | ok place => simp [Except.map, eq_comm]

end Tree

end ScriptLexer.Files
