import ScriptLexer.Log.Filter

/-!
# Journals

A journal collects the entries of a run that its rule shows, in the order in which they are
recorded. What it does not show leaves no trace in it.

## Main results

* `record_entries` — an entry is added at the end exactly when the rule shows it.
* `note_entries` — recording several entries adds those that the rule shows.
-/

namespace ScriptLexer.Log

/-- The entries recorded so far, and the rule by which entries are shown. -/
structure Journal where
  /-- Whether an entry is shown that lies in the span of a scan of a given size, or in no span. -/
  shows : Option Nat → Entry → Bool
  /-- The entries shown so far, the earliest first. -/
  entries : Array Entry

namespace Journal

/-- The empty journal that shows nothing. -/
def silent : Journal :=
  ⟨fun _ _ => false, #[]⟩

/-- The empty journal that shows what a filter shows. -/
def ofFilter (f : Filter) : Journal :=
  ⟨f.shows, #[]⟩

/-- The empty journal that shows what is at least as severe as a level. -/
def ofLevel (l : Level) : Journal :=
  ofFilter (Filter.ofLevel l)

/-- Adds an entry if the journal shows it. -/
def record (j : Journal) (within : Option Nat) (e : Entry) : Journal :=
  if j.shows within e then { j with entries := j.entries.push e } else j

/-- Records an event that happens in no span. -/
def event (j : Journal) (e : Event) : Journal :=
  j.record none (.event e)

/-- Records entries that lie in the span of a scan, in order. -/
def note (j : Journal) (length : Nat) (es : List Entry) : Journal :=
  es.foldl (record · (some length)) j

/-! ### Laws -/

/-- Recording an entry leaves the rule as it is. -/
@[simp] theorem record_shows (j : Journal) (within : Option Nat) (e : Entry) :
    (j.record within e).shows = j.shows := by
  unfold record
  split <;> rfl

/-- An entry is added at the end exactly when the rule shows it. -/
theorem record_entries (j : Journal) (within : Option Nat) (e : Entry) :
    (j.record within e).entries.toList = j.entries.toList ++ [e].filter (j.shows within ·) := by
  cases hshows : j.shows within e <;> simp [record, hshows]

/-- Recording several entries leaves the rule as it is. -/
@[simp] theorem note_shows (j : Journal) (length : Nat) (es : List Entry) :
    (j.note length es).shows = j.shows := by
  induction es generalizing j with
  | nil => rfl
  | cons e es ih => simpa [note] using ih (j.record (some length) e)

/-- Recording several entries adds those that the rule shows, in order. -/
theorem note_entries (j : Journal) (length : Nat) (es : List Entry) :
    (j.note length es).entries.toList =
      j.entries.toList ++ es.filter (j.shows (some length) ·) := by
  induction es generalizing j with
  | nil => simp [note]
  | cons e es ih =>
      have hrest := ih (j.record (some length) e)
      rw [record_entries, record_shows, List.append_assoc] at hrest
      cases hshows : j.shows (some length) e <;> simpa [note, hshows] using hrest

end Journal

end ScriptLexer.Log
