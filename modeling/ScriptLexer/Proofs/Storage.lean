import ScriptLexer.Transfer

/-!
# What Files Hold

A file holds bytes, and a script is a text: `Holds t path text` says that the file at a path can
be read and that its bytes are the text in UTF-8, and `Unreadable t path cause` that there is no
such text, and why. One of the two is the case, with one text or one cause.

`Becomes t path text after` says what it means that a text was written: the file at the path then
holds the text, and at every other place there is what was there before. As the file is written
where no directory is, the way to it stays open, so that it is found again by its path.

## Main results

* `decode_eq_ok_iff`, `decode_eq_error_iff` — a script is read exactly if its file holds a text.
* `approach_put` — a file put where no directory was does not stand in the way of a path.
* `becomes_of_write` — a write that succeeds makes the file hold its text and changes no other.
-/

namespace ScriptLexer

namespace Files.Tree

/-- `Holds t path text`: the file at a path can be read, and its bytes are a text in UTF-8. -/
def Holds (t : Tree) (path text : String) : Prop :=
  t.read path = .ok text.toUTF8

/-- `Unreadable t path cause`: no text can be read at a path. The file cannot be read at all, or
its bytes are no text. -/
inductive Unreadable (t : Tree) (path : String) : Fault → Prop
  | fault {cause : Fault} : t.read path = .error cause → Unreadable t path cause
  | notText {content : ByteArray} :
      t.read path = .ok content → ¬ content.IsValidUTF8 → Unreadable t path .notText

/-- `Becomes t path text after`: the tree `after` is `t` with a text in the file at a path. -/
structure Becomes (t : Tree) (path text : String) (after : Tree) : Prop where
  holds : after.Holds path text
  node?_eq : ∃ place, t.destination path = .ok place ∧ ∀ other, after.node? other =
    if other = place then some (.file text.toUTF8) else t.node? other

variable {t after : Tree} {path text : String} {place here : Place} {content : ByteArray}
  {node : Node}

/-! ### Texts -/

/-- Bytes are decoded to the text that they are in UTF-8. -/
theorem fromUTF8?_eq_some_iff : String.fromUTF8? content = some text ↔ content = text.toUTF8 := by
  by_cases hvalid : content.IsValidUTF8
  · rw [String.fromUTF8?, dif_pos hvalid, Option.some.injEq]
    constructor <;> rintro rfl <;> rfl
  · rw [String.fromUTF8?, dif_neg hvalid]
    refine iff_of_false (Option.some_ne_none _).symm ?_
    rintro rfl
    exact hvalid text.isValidUTF8

/-- Bytes are not decoded exactly if they are not UTF-8. -/
theorem fromUTF8?_eq_none_iff : String.fromUTF8? content = none ↔ ¬ content.IsValidUTF8 := by
  by_cases hvalid : content.IsValidUTF8
  · rw [String.fromUTF8?, dif_pos hvalid]
    exact iff_of_false (Option.some_ne_none _) (not_not_intro hvalid)
  · rw [String.fromUTF8?, dif_neg hvalid]
    exact iff_of_true rfl hvalid

/-- What can be read holds no cause not to. -/
theorem Holds.not_unreadable (h : t.Holds path text) (cause : Fault) :
    ¬ t.Unreadable path cause := by
  intro hcause
  cases hcause with
  | fault hread => exact nomatch hread.symm.trans h
  | notText hread hinvalid =>
      obtain rfl := Except.ok.inj (hread.symm.trans h)
      exact hinvalid text.isValidUTF8

/-- **A script is read exactly if its file holds a text**, and then it is that text. -/
theorem decode_eq_ok_iff : Transfer.decode path (t.read path) = .ok text ↔ t.Holds path text := by
  rw [Holds]
  cases t.read path with
  | error cause => exact iff_of_false nofun nofun
  | ok content =>
      rw [Except.ok.injEq, ← fromUTF8?_eq_some_iff, Transfer.decode]
      cases String.fromUTF8? content with
      | some text' => rw [Except.ok.injEq, Option.some.injEq]
      | none => exact iff_of_false nofun nofun

/-- A script is not read exactly if there is a cause, which is told together with the path. -/
theorem decode_eq_error_iff {e : TransferError} :
    Transfer.decode path (t.read path) = .error e ↔
      ∃ cause, t.Unreadable path cause ∧ e = .readInput path cause := by
  cases hread : t.read path with
  | error cause =>
      rw [Transfer.decode, Except.error.injEq]
      constructor
      · rintro rfl
        exact ⟨cause, .fault hread, rfl⟩
      · rintro ⟨cause', hcause, rfl⟩
        cases hcause with
        | fault hread' => rw [Except.error.inj (hread.symm.trans hread')]
        | notText hread' _ => exact nomatch hread.symm.trans hread'
  | ok content =>
      rw [Transfer.decode]
      cases htext : String.fromUTF8? content with
      | some text =>
          refine iff_of_false nofun ?_
          rintro ⟨cause, hcause, -⟩
          rw [fromUTF8?_eq_some_iff.mp htext] at hread
          exact Holds.not_unreadable hread cause hcause
      | none =>
          rw [Except.error.injEq]
          constructor
          · rintro rfl
            exact ⟨.notText, .notText hread (fromUTF8?_eq_none_iff.mp htext), rfl⟩
          · rintro ⟨cause, hcause, rfl⟩
            cases hcause with
            | fault hread' => exact nomatch hread.symm.trans hread'
            | notText => rfl

/-- A file holds one text. -/
theorem Holds.unique {text' : String} (h : t.Holds path text) (h' : t.Holds path text') :
    text = text' :=
  Except.ok.inj ((decode_eq_ok_iff.mpr h).symm.trans (decode_eq_ok_iff.mpr h'))

/-- There is one cause not to read a file. -/
theorem Unreadable.unique {cause cause' : Fault} (h : t.Unreadable path cause)
    (h' : t.Unreadable path cause') : cause = cause' := by
  have herror := decode_eq_error_iff.mpr ⟨cause, h, rfl⟩
  exact (TransferError.readInput.inj (Except.error.inj
    (herror.symm.trans (decode_eq_error_iff.mpr ⟨cause', h', rfl⟩)))).2

/-! ### Paths in a tree with one file more -/

/-- A file that is put where no directory was does not stand in the way of a part of a path. -/
theorem enter_put (hgiven : place.isGiven = false) (hfree : t.node? place ≠ some .directory)
    {part : String} {next : Place} (h : t.enter here part = .ok next) :
    (t.put place (.file content)).enter here part = .ok next := by
  unfold enter at h ⊢
  by_cases hstays : part = "" ∨ part = "."
  · rwa [if_pos hstays] at h ⊢
  rw [if_neg hstays] at h ⊢
  by_cases hup : part = ".."
  · rwa [if_pos hup] at h ⊢
  rw [if_neg hup] at h ⊢
  by_cases hlong : Path.nameLimit < part.utf8ByteSize
  · rw [if_pos hlong] at h
    cases h
  rw [if_neg hlong] at h ⊢
  rw [node?_put t _ _ hgiven]
  cases hnode : t.node? (part :: here) with
  | none =>
      rw [hnode] at h
      cases h
  | some node =>
      rw [hnode] at h
      cases node with
      | file => cases h
      | directory =>
          have hother : part :: here ≠ place := fun hsame => hfree (hsame ▸ hnode)
          rwa [if_neg hother]

/-- Nor in the way of a path. -/
theorem approach_put (hgiven : place.isGiven = false) (hfree : t.node? place ≠ some .directory)
    {r : Route} (h : t.approach r = .ok here) :
    (t.put place (.file content)).approach r = .ok here := by
  unfold approach at h ⊢
  generalize Place.base r.absolute = start at h ⊢
  generalize r.parents = parents at h ⊢
  induction parents generalizing start with
  | nil => exact h
  | cons part parts ih =>
      rw [List.foldlM_cons] at h ⊢
      cases hnext : t.enter start part with
      | error cause =>
          rw [hnext] at h
          cases h
      | ok next =>
          rw [hnext] at h
          rw [enter_put hgiven hfree hnext]
          exact ih next h

/-- How a path leads to the place of the file that it names. -/
theorem exists_route (h : t.destination path = .ok place) :
    ∃ r here, Route.ofPath path = .ok r ∧ t.approach r = .ok here ∧ place = r.last :: here ∧
      r.endsInDirectory = false ∧ r.slash = false ∧ r.last.utf8ByteSize ≤ Path.nameLimit := by
  unfold destination at h
  cases hr : Route.ofPath path with
  | error =>
      rw [hr] at h
      cases h
  | ok r =>
      cases ha : t.approach r with
      | error =>
          simp only [hr, ha, bind, Except.bind] at h
          cases h
      | ok here =>
          simp only [hr, ha, bind, Except.bind] at h
          by_cases hname : r.endsInDirectory = true ∨ r.slash = true
          · rw [if_pos hname] at h
            cases h
          rw [if_neg hname] at h
          rw [not_or, Bool.not_eq_true, Bool.not_eq_true] at hname
          by_cases hlong : Path.nameLimit < r.last.utf8ByteSize
          · rw [if_pos hlong] at h
            cases h
          rw [if_neg hlong] at h
          split at h
          · cases h
          · cases h
            exact ⟨r, here, rfl, ha, rfl, hname.1, hname.2, Nat.not_lt.mp hlong⟩

/-- A file that is put where a path leads is found there. -/
theorem read_put (h : t.destination path = .ok place) :
    (t.put place (.file content)).read path = .ok content := by
  obtain ⟨hgiven, hfree⟩ := destination_eq_ok h
  obtain ⟨r, here, hr, happroach, rfl, hname, hslash, hlong⟩ := exists_route h
  have hnode := node?_put t (.file content) (r.last :: here) hgiven
  rw [if_pos rfl] at hnode
  simp only [read, hr, approach_put hgiven hfree happroach, bind, Except.bind]
  rw [if_neg (Bool.eq_false_iff.mp hname), if_neg (Nat.not_lt.mpr hlong), hnode]
  simp only [hslash, Bool.false_eq_true, if_false]

/-! ### Writing a text -/

/-- **A write that succeeds** makes the file hold its text and changes no other. -/
theorem becomes_of_write (h : t.write path text.toUTF8 = .ok after) :
    t.Becomes path text after := by
  obtain ⟨place, hplace, rfl⟩ := write_eq_ok.mp h
  refine ⟨read_put hplace, place, hplace, fun other => ?_⟩
  exact node?_put t _ other (destination_eq_ok hplace).1

/-- A write fails for the cause for which its path leads to no file, whatever its content. -/
theorem write_eq_error_iff {cause : Fault} :
    t.write path content = .error cause ↔ t.destination path = .error cause := by
  rw [write]
  cases t.destination path with
  | error => rw [Except.map, Except.error.injEq, Except.error.injEq]
  | ok place => exact iff_of_false nofun nofun

end Files.Tree

end ScriptLexer
