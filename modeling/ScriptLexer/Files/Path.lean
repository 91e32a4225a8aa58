import ScriptLexer.Files.Fault
import ScriptLexer.Text.Parts

/-!
# Paths

A path is a text whose parts are separated by slashes. Empty parts and single dots stay where
they are, two dots go to the directory around, and every other part is a name. The last part
that is not empty says what the path is about; a slash after it asks for a directory.

## Main results

* `isDash_iff` — which paths are `-`, by their parts.
-/

namespace ScriptLexer.Files

namespace Path

/-- The most bytes that a name may have. -/
def nameLimit : Nat :=
  255

/-- A path has fewer bytes than this. -/
def lengthLimit : Nat :=
  4096

/-- The parts of a path, empty ones included. -/
def parts (path : String) : List String :=
  (Text.parts '/' path.toList).map String.ofList

/-- The names on the way to a path below the working directory, the last one first. -/
def place (path : String) : List String :=
  (parts path).foldl
    (fun names part =>
      if part = "" ∨ part = "." then names
      else if part = ".." then names.tail
      else part :: names)
    []

/-- Whether a path is, part by part, the single name `-`. -/
def isDash (path : String) : Bool :=
  match parts path with
  | first :: more => first == "-" && more.all fun part => part == "" || part == "."
  | [] => false

/-- `IsDash path`: the first part of the path is `-`, and every other is empty or a dot. -/
def IsDash (path : String) : Prop :=
  ∃ more, parts path = "-" :: more ∧ ∀ part ∈ more, part = "" ∨ part = "."

/-- **Which paths are `-`**, by their parts. -/
theorem isDash_iff {path : String} : isDash path = true ↔ IsDash path := by
  rw [isDash, IsDash]
  cases parts path with
  | nil => simp
  | cons first more =>
      simp only [Bool.and_eq_true, beq_iff_eq, List.all_eq_true, Bool.or_eq_true, List.cons.injEq]
      constructor
      · rintro ⟨hfirst, hmore⟩
        exact ⟨more, ⟨hfirst, rfl⟩, hmore⟩
      · rintro ⟨_, ⟨hfirst, rfl⟩, hmore⟩
        exact ⟨hfirst, hmore⟩

/-- The test decides it. -/
instance (path : String) : Decidable (IsDash path) :=
  decidable_of_iff _ isDash_iff

end Path

/-- A path made ready to be followed. -/
structure Route where
  /-- Whether the path starts at the root of all files. -/
  absolute : Bool
  /-- The parts before the last. -/
  parents : List String
  /-- The last part that is not empty; the path of the root has none. -/
  last : String
  /-- Whether a slash follows the last part. -/
  slash : Bool
  deriving DecidableEq

namespace Route

/-- The route of the parts of a path. -/
def ofParts (parts : List String) : Route :=
  let significant := (parts.reverse.dropWhile (· = "")).reverse
  ⟨parts.head? = some "", significant.dropLast, significant.getLast?.getD "",
    parts.getLast? = some ""⟩

/-- The route of a path that can be followed at all. -/
def ofPath (path : String) : Except Fault Route :=
  if path.toList.contains '\x00' then .error .nulInPath
  else if path = "" then .error .notFound
  else if Path.lengthLimit ≤ path.utf8ByteSize then .error .nameTooLong
  else .ok (ofParts (Path.parts path))

/-- Whether the last part stands for a directory whatever the tree holds. -/
def endsInDirectory (r : Route) : Bool :=
  r.last = "" || r.last = "." || r.last = ".."

end Route

end ScriptLexer.Files
