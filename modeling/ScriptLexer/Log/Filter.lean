import ScriptLexer.Log.Directive
import ScriptLexer.Text.Parts

/-!
# Filters

A filter is a list of directives. A static directive decides about an entry by the part of the
program that the entry comes from and the fields that it has: of those that speak about the
entry, the most special one decides, and of two that are equally special the later one. A scoped
directive lets entries through that happen inside a span it speaks about. What no directive
speaks about is left out.

There is one span, that of a scan. A filter opens it, so that its entries show and the scoped
directives see it, if a scoped directive speaks about it or the static ones show it.

## Main results

* `Filter.shows_ofLevel` — a level alone shows what is at least as severe as it is.
-/

namespace ScriptLexer.Log

/-- The names of the fields of an event, its message included. -/
def Event.fieldNames (e : Event) : List String :=
  "message" :: e.fields.map Prod.fst

/-- The directives that decide what is shown. -/
structure Filter where
  /-- The directives in the order in which they were given. -/
  directives : List Directive
  deriving DecidableEq

namespace Directive

/-- Whether a static directive speaks about an entry. A field is asked for of events only. -/
def speaksAbout (d : Directive) (e : Entry) : Bool :=
  d.isStatic && d.covers e.target && match e with
    | .event event => d.field.all (event.fieldNames.contains ·.name)
    | _ => true

/-- The size of the beginning that a directive asks for, 0 if it asks for none. -/
def weight (d : Directive) : Nat :=
  (d.beginning.map fun beginning => beginning.length + 1).getD 0

/-- Whether a directive is more special than another one that speaks about the same entry: it
asks for a longer beginning or, if the beginnings are equal, for a field that the other one does
not ask for or whose name comes later. -/
def moreSpecial (d e : Directive) : Bool :=
  e.weight < d.weight || (d.weight == e.weight &&
    match d.field, e.field with
    | some _, none => true
    | some f, some g => g.name < f.name
    | none, _ => false)

/-- Of two directives that speak about the same entry, the one that decides. -/
def stronger (earlier later : Directive) : Directive :=
  if earlier.moreSpecial later then earlier else later

/-- Whether a scoped directive speaks about the span of a scan. -/
def speaksAboutScan (d : Directive) : Bool :=
  d.isScoped && d.covers .scanning && d.span.all (· == Entry.spanName) &&
    d.field.all (·.name == "len")

/-- Whether the span of a scan of the given size has the value that a directive asks for. -/
def isMet (d : Directive) (length : Nat) : Bool :=
  d.field.all fun f => f.value.all (·.isMet length)

end Directive

namespace Filter

/-- The filter that shows what is at least as severe as a level. -/
def ofLevel (l : Level) : Filter :=
  ⟨[.general (some l)]⟩

/-! ### Static directives -/

/-- The static directive that decides about an entry. -/
def decisive? (f : Filter) (e : Entry) : Option Directive :=
  (f.directives.filter (·.speaksAbout e)).foldl
    (fun best d => some ((best.map (Directive.stronger · d)).getD d)) none

/-- Whether the static directives show an entry. -/
def showsStatic (f : Filter) (e : Entry) : Bool :=
  (f.decisive? e).any (·.threshold.admits e.level)

/-! ### Scoped directives -/

/-- Drops the directives after which one comes that speaks about the same entries. -/
def withoutReplaced : List Directive → List Directive
  | [] => []
  | d :: ds =>
    if ds.any d.sameScope then withoutReplaced ds else d :: withoutReplaced ds

/-- The scoped directives that speak about the span of a scan. -/
def aboutScan (f : Filter) : List Directive :=
  (withoutReplaced f.directives).filter (·.speaksAboutScan)

/-- What the directives let through at most. A directive that asks for a value has to see all
spans. -/
def reach (f : Filter) : Threshold :=
  if f.directives.any (fun d => d.field.any (·.value.isSome)) then some .trace
  else Threshold.maximum (f.directives.map Directive.threshold)

/-- Whether a filter opens the span of a scan of the given size. -/
def opens (f : Filter) (length : Nat) : Bool :=
  f.reach.admits .debug && (!f.aboutScan.isEmpty || f.showsStatic (.span length))

/-- What is let through inside the span of a scan of the given size. -/
def scope (f : Filter) (length : Nat) : Threshold :=
  Threshold.maximum ((f.aboutScan.filter (·.isMet length)).map Directive.threshold)

/-! ### Entries -/

/-- Whether a filter shows an entry, which lies in the span of a scan of a given size or in no
span. -/
def shows (f : Filter) (within : Option Nat) (e : Entry) : Bool :=
  match e with
  | .event _ =>
    f.showsStatic e || within.any fun length => f.opens length && (f.scope length).admits e.level
  | _ => within.any f.opens

/-- Reads a filter. Nothing between two commas is no directive; a text between commas that is
not a directive spoils the filter. -/
def parse? (text : String) : Option Filter :=
  (((Text.parts ',' text.toList).filter (· ≠ [])).mapM Directive.parse?).map Filter.mk

/-! ### Laws -/

/-- A level alone does not speak about spans. -/
theorem aboutScan_ofLevel (l : Level) : (ofLevel l).aboutScan = [] := rfl

/-- A level alone decides about every entry by its level. -/
theorem showsStatic_ofLevel (l : Level) (e : Entry) :
    (ofLevel l).showsStatic e = l.atLeast e.level := by
  have hspeaks : (Directive.general (some l)).speaksAbout e = true := by
    cases e <;> rfl
  have hdecides : (ofLevel l).decisive? e = some (.general (some l)) := by
    simp [decisive?, ofLevel, hspeaks]
  rw [showsStatic, hdecides]
  rfl

/-- A level alone opens the span of a scan if it shows what is a matter of debugging. -/
theorem opens_ofLevel (l : Level) (length : Nat) :
    (ofLevel l).opens length = l.atLeast .debug := by
  rw [opens, aboutScan_ofLevel, showsStatic_ofLevel]
  cases l <;> rfl

/-- A level alone shows what is at least as severe as it is, wherever it happens. -/
theorem shows_ofLevel (l : Level) (length : Nat) (e : Entry) :
    (ofLevel l).shows (some length) e = l.atLeast e.level := by
  cases e with
  | event e =>
      have hscope : (ofLevel l).scope length = none := rfl
      simp [shows, showsStatic_ofLevel, hscope, Threshold.admits]
  | span n => exact opens_ofLevel l length
  | enter => exact opens_ofLevel l length
  | exit => exact opens_ofLevel l length

/-- A level alone shows an event in no span if that is at least as severe as it is. -/
theorem shows_ofLevel_event (l : Level) (e : Event) :
    (ofLevel l).shows none (.event e) = l.atLeast e.level := by
  simp [shows, showsStatic_ofLevel, Entry.level]

end Filter

end ScriptLexer.Log
