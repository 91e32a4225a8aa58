import ScriptLexer.Proofs.ByteScan

/-!
# Progress of a Byte Scanner

That the loops of a byte scanner end does not show in their text. Two of them ask whether a
character is left. Two do not, and rely on the sentinel being in neither of their classes. The
loop over strings takes one character in some turns and two in others, and taking a character
where none is left silently does nothing. Here the loops are held against what is ahead of the
scanner: a turn is made only if a character is ahead, and every turn passes whole characters, so
that the number of characters ahead bounds the number of turns. The loop over the items of a
script ends for the same reason, by which there are no more items than characters.

## Convention

`Offsets.Sound` is what holds of the numbers of a scanner before every item and before every
turn of a loop: both offsets are between characters and in order, and the line is that of the
next character. Every statement here is about all such numbers, wherever a scan may come to.

## Main results

* `exists_loop?` — a loop ends if each of its turns lowers a measure.
* `InnerLoop.exists_turn?`, `exists_scan?` — a turn of a loop inside an item, and the reading of
  an item, pass whole characters, one at least.
* `InnerLoop.ends_of_sound` — the loops inside an item end, wherever they begin.
* `exists_items` — so does the loop over the items, within as many as characters are ahead.
* `scanning_progresses` — all that a scanner does makes progress and ends.
-/

namespace ScriptLexer

namespace ByteScan

open Cursor (StandsIn)

/-! ### Loops that lower a measure -/

section Loop

variable {σ : Type} {goesOn : σ → Option Bool} {body : σ → Option σ} {s : σ}

/-- **A loop ends if each of its turns lowers a measure**, within as many turns as the measure is
large, and what its turns keep holds behind it. -/
theorem exists_loop? {I : σ → Prop} (measure : σ → ℕ)
    (hturn : ∀ s, I s → ∃ b, goesOn s = some b ∧
      (b = true → ∃ s', body s = some s' ∧ I s' ∧ measure s' < measure s))
    (hs : I s) :
    ∃ s', I s' ∧ goesOn s' = some false ∧
      ∀ n, measure s ≤ n → loop? goesOn body n s = some s' := by
  induction hm : measure s using Nat.strong_induction_on generalizing s with
  | _ m ih =>
      obtain ⟨b, hgoes, hbody⟩ := hturn s hs
      cases b with
      | false => exact ⟨s, hs, hgoes, fun n _ => loop?_stop hgoes n⟩
      | true =>
          obtain ⟨t, hbody, ht, hlt⟩ := hbody rfl
          obtain ⟨s', hs', hstop, hloop⟩ := ih _ (hm ▸ hlt) ht rfl
          refine ⟨s', hs', hstop, fun n hn => ?_⟩
          obtain ⟨n, rfl⟩ : ∃ k, n = k + 1 := ⟨n - 1, by omega⟩
          rw [loop?_turn hgoes hbody, hloop n (by omega)]

end Loop

/-! ### Where a scanner stands -/

/-- The characters of a script that a scanner has not taken yet. -/
def Offsets.ahead (source : String) (o : Offsets) : List Char :=
  (Text.dropBytes? o.next source.toList).getD []

/-- What holds of the numbers of a scanner before every item and before every turn of a loop. -/
structure Offsets.Sound (source : String) (o : Offsets) : Prop where
  start_le : o.start ≤ o.next
  start_isValid : (⟨o.start⟩ : String.Pos.Raw).IsValid source
  next_isValid : (⟨o.next⟩ : String.Pos.Raw).IsValid source
  /-- The line is one more than the line ends in as many bytes as have been taken. -/
  line_eq : (Text.takeBytes? o.next source.toList).map (1 + ·.count '\n') = some o.line

/-- `Passes source o o'`: from `o` to `o'` a scanner passes whole characters, one at least, and
is within the script again. -/
structure Passes (source : String) (o o' : Offsets) : Prop where
  sound : o'.Sound source
  next_lt : o.next < o'.next
  next_le : o'.next ≤ source.utf8ByteSize
  exists_ahead : ∃ ch w, o.ahead source = ch :: w ++ o'.ahead source

variable {bits : ℕ} {source : String} {before before' : List Char} {c c' : Cursor} {o o' : Offsets}

/-- A scanner that passes characters has fewer of them ahead. -/
theorem Passes.length_ahead_lt (h : Passes source o o') :
    (o'.ahead source).length < (o.ahead source).length := by
  obtain ⟨ch, w, hahead⟩ := h.exists_ahead
  rw [hahead, List.length_append, List.length_cons]
  omega

/-- To pass characters twice is to pass characters. -/
theorem Passes.trans {o'' : Offsets} (h : Passes source o o') (h' : Passes source o' o'') :
    Passes source o o'' := by
  obtain ⟨ch, w, hahead⟩ := h.exists_ahead
  obtain ⟨ch', w', hahead'⟩ := h'.exists_ahead
  refine ⟨h'.sound, h.next_lt.trans h'.next_lt, h'.next_le, ch, w ++ ch' :: w', ?_⟩
  rw [hahead, hahead', ← List.append_assoc, List.cons_append]

/-- A scanner has ahead of it what the cursor has. -/
theorem ahead_of (h : StandsIn source before c) : (Offsets.of c).ahead source = c.rest := by
  rw [Offsets.ahead, Offsets.of_next, h.dropBytes?_eq, Option.getD_some]

/-- The numbers of a cursor that stands in the script are sound. -/
theorem sound_of (h : StandsIn source before c) : (Offsets.of c).Sound source where
  start_le := h.sound.start_le
  start_isValid := h.sound.start_isValid
  next_isValid := h.sound.position_isValid
  line_eq := h.sound.line_eq

/-- An offset between two characters has a part of the script in front of it. -/
theorem exists_append_of_isValid {n : ℕ} (h : (⟨n⟩ : String.Pos.Raw).IsValid source) :
    ∃ front back, front ++ back = source.toList ∧ Text.byteLength front = n := by
  obtain ⟨s, t, rfl, hn⟩ := String.Pos.Raw.isValid_iff_exists_append.mp h
  refine ⟨s.toList, t.toList, String.toList_append.symm, ?_⟩
  rw [Text.byteLength_toList]
  exact (congrArg String.Pos.Raw.byteIdx hn).symm

/-- Of two beginnings of a text, one that has no more bytes is a beginning of the other. -/
theorem prefix_of_byteLength_le {xs ys text : List Char} (hxs : xs <+: text) (hys : ys <+: text)
    (hle : Text.byteLength xs ≤ Text.byteLength ys) : xs <+: ys := by
  obtain h | ⟨w, rfl⟩ := List.prefix_or_prefix_of_prefix hxs hys
  · exact h
  · have hlength := Text.length_le_byteLength w
    rw [Text.byteLength_append] at hle
    obtain rfl : w = [] := List.length_eq_zero_iff.mp (by omega)
    rw [List.append_nil]

/-- Sound numbers are those of a cursor that stands in the script. -/
theorem Offsets.Sound.exists_standsIn (h : o.Sound source) :
    ∃ before c, StandsIn source before c ∧ .of c = o := by
  obtain ⟨front, rest, htext, hnext⟩ := exists_append_of_isValid h.next_isValid
  obtain ⟨before, back, htext', hstart⟩ := exists_append_of_isValid h.start_isValid
  obtain ⟨taken, rfl⟩ : before <+: front :=
    prefix_of_byteLength_le ⟨back, htext'⟩ ⟨rest, htext⟩ (by rw [hstart, hnext]; exact h.start_le)
  have hline := h.line_eq
  rw [← htext, ← hnext, Text.takeBytes?_append, Option.map_some, Option.some.injEq] at hline
  refine ⟨before, ⟨o.start, taken.reverse, rest, o.line⟩, ⟨?_, hstart.symm, ?_⟩, ?_⟩
  · rw [← htext, List.reverse_reverse, List.append_assoc]
  · rw [List.reverse_reverse, ← hline]
  · rw [Text.byteLength_append, hstart] at hnext
    rw [Offsets.of, Cursor.position, Text.byteLength_reverse, hnext]

/-- A cursor passes whole characters if what it has in front of it gets shorter at the front. -/
theorem passes_of_suffix (h : StandsIn source before c) (h' : StandsIn source before' c')
    (hsuffix : c'.rest <:+ c.rest) (hlt : c'.rest.length < c.rest.length) :
    Passes source (.of c) (.of c') := by
  obtain ⟨w, hw⟩ := hsuffix
  have hsize := h.position_add
  have hsize' := h'.position_add
  cases w with
  | nil => exact absurd (congrArg List.length hw) hlt.ne
  | cons ch w =>
      have hpos := ch.utf8Size_pos
      rw [← hw, Text.byteLength_append, Text.byteLength_cons] at hsize
      refine ⟨sound_of h', ?_, h'.position_le, ch, w, ?_⟩
      · rw [Offsets.of_next, Offsets.of_next]
        omega
      · rw [ahead_of h, ahead_of h', hw]

/-- A move over a character passes it. -/
theorem passes_advance {ch : Char} {r : List Char} (h : StandsIn source before c)
    (hc : c.rest = ch :: r) : Passes source (.of c) (.of c.advance) := by
  have hrest : c.advance.rest = r := Cursor.advance_rest_of_cons hc
  refine passes_of_suffix h h.advance ?_ ?_
  · rw [hrest, hc]
    exact List.suffix_cons ch r
  · rw [hrest, hc]
    exact Nat.lt_succ_self _

/-- There are no more characters ahead than there are bytes in the script. -/
theorem length_ahead_le (h : o.Sound source) :
    (o.ahead source).length ≤ source.utf8ByteSize := by
  obtain ⟨before, c, hc, rfl⟩ := h.exists_standsIn
  rw [ahead_of hc]
  exact hc.length_rest_le

/-- The position reaches the size of the script exactly if nothing is left. -/
theorem size_le_position_iff (h : StandsIn source before c) :
    source.utf8ByteSize ≤ c.position ↔ c.rest = [] := by
  rw [← List.isEmpty_iff, ← atEnd_eq h, atEnd, decide_eq_true_iff, Offsets.of_next]

/-! ### What there is to do -/

/-- The loops inside an item. -/
inductive InnerLoop where
  /-- Over a comment after its `#`. -/
  | comment
  /-- Over a string after its opening quote. -/
  | string
  /-- Over digits. -/
  | digits
  /-- Over a word after its first character. -/
  | word

namespace InnerLoop

/-- The characters before which a loop goes on. The sentinel is one of them for the loops over
comments and strings, and for these loops only. -/
def takes : InnerLoop → Char → Bool
  | comment => (· != '\n')
  | string => (· != '"')
  | digits => Char.isDigit
  | word => Character.continuesWord

/-- Whether a loop goes on. -/
def goesOn? (source : String) (l : InnerLoop) : Offsets → Option Bool :=
  match l with
  | comment | string => seesBeforeEnd? source l.takes
  | digits | word => sees? source l.takes

/-- What a loop does in one turn. -/
def turn? (bits : ℕ) (source : String) : InnerLoop → Offsets → Option Offsets
  | string => skipEscaped? bits source
  | comment | digits | word => skip? bits source

/-- What a loop does in all its turns. -/
def run? (bits : ℕ) (source : String) : InnerLoop → Offsets → Option Offsets
  | comment => skipComment? bits source
  | string => skipString? bits source
  | digits => skipWhile? bits source Char.isDigit
  | word => skipWhile? bits source Character.continuesWord

/-- `l.Ends bits source o`: begun at `o`, the loop `l` makes progress and ends. -/
structure Ends (bits : ℕ) (source : String) (l : InnerLoop) (o : Offsets) : Prop where
  /-- The end looks like a character U+0000, and every loop stops there. -/
  stops : source.utf8ByteSize ≤ o.next →
    peek? source 0 o = some '\x00' ∧ l.goesOn? source o = some false
  /-- Before the end a loop decides by the next character, U+0000 like any other. -/
  decides : ∀ ch ∈ (o.ahead source).head?,
    peek? source 0 o = some ch ∧ l.goesOn? source o = some (l.takes ch)
  passes : l.goesOn? source o = some true →
    ∃ o', l.turn? bits source o = some o' ∧ Passes source o o'
  /-- There are no more turns than characters ahead. -/
  ends : ∃ o', l.run? bits source o = some o' ∧ o'.Sound source ∧ o.next ≤ o'.next ∧
    l.goesOn? source o' = some false ∧
    ∀ n, (o.ahead source).length ≤ n →
      loop? (l.goesOn? source) (l.turn? bits source) n o = some o'

/-- A loop may take as many turns as the script has bytes. -/
theorem run?_eq (l : InnerLoop) : l.run? bits source =
    loop? (l.goesOn? source) (l.turn? bits source) source.utf8ByteSize := by
  cases l <;> rfl

/-- A loop goes on exactly before a character that it takes. At the end it stops, whether it asks
for the end or relies on the sentinel. -/
theorem goesOn?_eq (l : InnerLoop) (h : StandsIn source before c) :
    l.goesOn? source (.of c) = some (c.rest.head?.any l.takes) := by
  cases l with
  | comment | string => exact seesBeforeEnd?_eq _ h
  | digits | word => exact sees?_eq rfl h

end InnerLoop

/-- Whether the loop over the items of a script goes on. -/
def itemsGoOn? (source : String) (s : Offsets × Array Token) : Option Bool :=
  some (!atEnd source s.1)

/-- `Progresses bits source o`: all that a byte scanner does at `o` makes progress and ends. -/
structure Progresses (bits : ℕ) (source : String) (o : Offsets) : Prop where
  /-- Before the end an item is read, and whole characters are passed. -/
  item : o.next < source.utf8ByteSize →
    ∃ t o', scan? bits source o = some (t, o') ∧ Passes source o o'
  loops : ∀ l : InnerLoop, l.Ends bits source o
  /-- At the end the sentinel is taken, and nothing changes. -/
  stays : source.utf8ByteSize ≤ o.next → advance? bits source o = some ('\x00', o)
  /-- A scan reads no more items than characters are ahead, and marks the end behind them. -/
  scan : ∀ ts, ∃ o' ts', o'.next = source.utf8ByteSize ∧
    ts'.size ≤ ts.size + (o.ahead source).length ∧
    (∀ n, (o.ahead source).length ≤ n →
      loop? (itemsGoOn? source) (item? bits source) n (o, ts) = some (o', ts')) ∧
    tokenizeAll? bits source (o, ts) = some (o', ts'.push (.eof o'.line))

section Room

-- With this no sum overflows, so that every missing result would be a loop that does not end.
variable (hroom : source.utf8ByteSize + 1 < 2 ^ bits)
include hroom

/-! ### The loops inside an item -/

/-- **A turn passes whole characters.** Where a loop goes on, a character is ahead; all loops but
the one over strings take this one, and a backslash in a string takes the next one along, if
there is one. -/
theorem InnerLoop.exists_turn? {l : InnerLoop} (hsound : o.Sound source)
    (hgoes : l.goesOn? source o = some true) :
    ∃ o', l.turn? bits source o = some o' ∧ Passes source o o' := by
  obtain ⟨before, c, h, rfl⟩ := hsound.exists_standsIn
  rw [goesOn?_eq l h, Option.some.injEq] at hgoes
  obtain ⟨ch, hhead, htakes⟩ := (Option.any_eq_true _ _).mp hgoes
  obtain ⟨r, hc⟩ := List.head?_eq_some_iff.mp hhead
  cases l with
  | comment | digits | word =>
      have hline : ch ≠ '\n' := by
        rintro rfl
        exact absurd htakes (by decide)
      exact ⟨_, skip?_of_ne hroom h hc hline, passes_advance h hc⟩
  | string =>
      by_cases hplain : ch ≠ '\\' ∨ r = []
      · exact ⟨_, skipEscaped?_plain hroom h hc hplain, passes_advance h hc⟩
      · obtain ⟨rfl, hr⟩ : ch = '\\' ∧ r ≠ [] := by simpa using hplain
        obtain ⟨d, r, rfl⟩ := List.exists_cons_of_ne_nil hr
        have hrest : c.advance.rest = d :: r := Cursor.advance_rest_of_cons hc
        exact ⟨_, skipEscaped?_escape hroom h hc,
          (passes_advance h hc).trans (passes_advance h.advance hrest)⟩

/-- **The loops inside an item end**, wherever they begin. -/
theorem InnerLoop.ends_of_sound (l : InnerLoop) (h : o.Sound source) : l.Ends bits source o := by
  have hturn : ∀ p : Offsets, p.Sound source ∧ o.next ≤ p.next →
      ∃ b, l.goesOn? source p = some b ∧ (b = true → ∃ p', l.turn? bits source p = some p' ∧
        (p'.Sound source ∧ o.next ≤ p'.next) ∧
        (p'.ahead source).length < (p.ahead source).length) := by
    rintro p ⟨hp, hle⟩
    obtain ⟨before, c, hc, rfl⟩ := hp.exists_standsIn
    refine ⟨_, goesOn?_eq l hc, fun hgoes => ?_⟩
    obtain ⟨p', hp', hpasses⟩ := exists_turn? hroom hp ((goesOn?_eq l hc).trans (hgoes ▸ rfl))
    exact ⟨p', hp', ⟨hpasses.sound, hle.trans hpasses.next_lt.le⟩, hpasses.length_ahead_lt⟩
  obtain ⟨o', ⟨hsound, hle⟩, hstop, hloop⟩ :=
    exists_loop? (fun p : Offsets => (p.ahead source).length) hturn ⟨h, le_rfl⟩
  have hrun : l.run? bits source o = some o' :=
    (congrFun (run?_eq l) o).trans (hloop _ (length_ahead_le h))
  have hpasses := exists_turn? hroom (l := l) h
  obtain ⟨before, c, hc, rfl⟩ := h.exists_standsIn
  refine ⟨fun hend => ?_, fun ch hch => ?_, hpasses, o', hrun, hsound, hle, hstop, hloop⟩
  · rw [peek?_eq hc, goesOn?_eq l hc, (size_le_position_iff hc).mp hend]
    exact ⟨rfl, rfl⟩
  · rw [ahead_of hc] at hch
    obtain ⟨r, hr⟩ := List.head?_eq_some_iff.mp hch
    rw [peek?_eq hc, goesOn?_eq l hc, hr]
    exact ⟨rfl, rfl⟩

/-! ### Items -/

/-- **Reading an item passes whole characters.** -/
theorem exists_scan? (h : o.Sound source) (hlt : o.next < source.utf8ByteSize) :
    ∃ t o', scan? bits source o = some (t, o') ∧ Passes source o o' := by
  obtain ⟨before, c, hc, rfl⟩ := h.exists_standsIn
  have hrest : c.rest ≠ [] := fun hnil => hlt.not_ge ((size_le_position_iff hc).mpr hnil)
  obtain ⟨before', hc'⟩ := Cursor.exists_standsIn_scan ⟨before, hc⟩
  refine ⟨_, _, scan?_eq hroom hc hrest,
    passes_of_suffix hc hc' ?_ (Cursor.scan_rest_length_lt hrest)⟩
  obtain ⟨ch, r, hcons⟩ := List.exists_cons_of_ne_nil hrest
  rw [Cursor.scan_snd hcons, Cursor.advanceBy_rest, Cursor.mark_rest]
  exact List.drop_suffix _ _

/-- An item adds one token at most. -/
theorem exists_item? {s : Offsets × Array Token} (h : s.1.Sound source)
    (hlt : s.1.next < source.utf8ByteSize) :
    ∃ s', item? bits source s = some s' ∧ Passes source s.1 s'.1 ∧
      s'.2.size ≤ s.2.size + 1 := by
  obtain ⟨t, o', hscan, hpasses⟩ := exists_scan? hroom h hlt
  refine ⟨(o', t.elim s.2 s.2.push), by simp [item?, hscan], hpasses, ?_⟩
  cases t with
  | none => exact Nat.le_succ _
  | some t => exact (Array.size_push t).le

/-- **The loop over the items ends**, within as many items as characters are ahead, and adds no
more tokens than that. -/
theorem exists_items {s : Offsets × Array Token} (h : s.1.Sound source) :
    ∃ s', s'.1.next = source.utf8ByteSize ∧
      s'.2.size ≤ s.2.size + (s.1.ahead source).length ∧
      ∀ n, (s.1.ahead source).length ≤ n →
        loop? (itemsGoOn? source) (item? bits source) n s = some s' := by
  -- The invariant bounds the tokens held and the characters ahead together: an item takes at
  -- least one character away and adds at most one token.
  have hturn : ∀ t : Offsets × Array Token,
      t.1.Sound source ∧
        t.2.size + (t.1.ahead source).length ≤ s.2.size + (s.1.ahead source).length →
      ∃ b, itemsGoOn? source t = some b ∧ (b = true → ∃ t', item? bits source t = some t' ∧
        (t'.1.Sound source ∧
          t'.2.size + (t'.1.ahead source).length ≤ s.2.size + (s.1.ahead source).length) ∧
        (t'.1.ahead source).length < (t.1.ahead source).length) := by
    rintro t ⟨ht, hcount⟩
    refine ⟨_, rfl, fun hgoes => ?_⟩
    have hlt : t.1.next < source.utf8ByteSize := by simpa [atEnd] using hgoes
    obtain ⟨t', hitem, hpasses, hsize⟩ := exists_item? hroom ht hlt
    have hshorter := hpasses.length_ahead_lt
    exact ⟨t', hitem, ⟨hpasses.sound, by omega⟩, hshorter⟩
  obtain ⟨s', ⟨hsound, hcount⟩, hstop, hloop⟩ :=
    exists_loop? (fun t : Offsets × Array Token => (t.1.ahead source).length) hturn ⟨h, le_rfl⟩
  have hle : s'.1.next ≤ source.utf8ByteSize := hsound.next_isValid.le_rawEndPos
  have hge : source.utf8ByteSize ≤ s'.1.next := by simpa [itemsGoOn?, atEnd] using hstop
  exact ⟨s', hle.antisymm hge, by omega, hloop⟩

/-! ### Everywhere -/

/-- **All that a byte scanner does makes progress and ends**, wherever it stands. -/
theorem progresses_of_sound (h : o.Sound source) : Progresses bits source o where
  item := exists_scan? hroom h
  loops := fun l => l.ends_of_sound hroom h
  stays := by
    intro hend
    obtain ⟨before, c, hc, rfl⟩ := h.exists_standsIn
    exact advance?_of_nil hc ((size_le_position_iff hc).mp hend)
  scan := by
    intro ts
    obtain ⟨⟨o', ts'⟩, hend, hsize, hloop⟩ := exists_items (s := (o, ts)) hroom h
    refine ⟨o', ts', hend, hsize, hloop, ?_⟩
    have hall := hloop _ (length_ahead_le h)
    rw [tokenizeAll?]
    exact congrArg (· >>= _) hall

end Room

/-- The numbers with which a scan begins. -/
theorem sound_start (source : String) : (⟨0, 0, 1⟩ : Offsets).Sound source :=
  sound_of (Cursor.standsIn_ofSource source)

/-- At the start all of the script is ahead. -/
theorem ahead_start (source : String) : (⟨0, 0, 1⟩ : Offsets).ahead source = source.toList :=
  ahead_of (Cursor.standsIn_ofSource source)

/-- **Scanning makes progress and ends.** Let the size of a script fit into `bits` bits and words
have one bit more. Wherever a byte scanner stands in the script, and no scan leads elsewhere, an
item before the end and every turn of a loop inside an item pass whole characters, one at least;
the loops end, though the end of the script looks like a character U+0000 of it; and at the end
nothing is taken. So the script is cut into its tokens in no more items than it has characters,
and these are no more tokens than characters, the mark of the end not counted. -/
theorem scanning_progresses (bits : ℕ) (source : String) (hsize : source.utf8ByteSize < 2 ^ bits) :
    (∀ o : Offsets, o.Sound source → Progresses (bits + 1) source o) ∧
      (∀ k n, ∃ o ts, reached? (bits + 1) source k n = some (o, ts) ∧ o.Sound source) ∧
      (∃ o ts, loop? (itemsGoOn? source) (item? (bits + 1) source) source.length
          (⟨0, 0, 1⟩, #[]) = some (o, ts) ∧
        (ts.push (.eof o.line)).toList = tokenize source) ∧
      (tokenize source).length ≤ source.length + 1 := by
  have hroom : source.utf8ByteSize + 1 < 2 ^ (bits + 1) := by
    rw [Nat.pow_succ]
    omega
  have hlength : ((⟨0, 0, 1⟩ : Offsets).ahead source).length = source.length := by
    rw [ahead_start, String.length_toList]
  obtain ⟨o, ts, -, hcount, hloop, hscan⟩ :=
    (progresses_of_sound hroom (sound_start source)).scan #[]
  rw [hlength] at hcount hloop
  have htokenize := tokenizeAll?_eq hroom ⟨[], Cursor.standsIn_ofSource source⟩ .silent
    (s := Session.start source)
  have htokens : (ts.push (.eof o.line)).toList = tokenize source :=
    congrArg (fun s => s.2.toList) (Option.some.inj (hscan.symm.trans htokenize))
  refine ⟨fun o => progresses_of_sound hroom, fun k n => ?_, ⟨o, ts, hloop _ le_rfl, htokens⟩, ?_⟩
  · obtain ⟨before, h⟩ := Session.exists_standsIn_reached source k n
    exact ⟨_, _, reached?_eq hroom k n, sound_of h⟩
  · rw [← htokens, Array.length_toList, Array.size_push]
    simpa using hcount

/-- A comment with a character U+0000, and a string that a backslash cuts off at the end. -/
theorem scanning_progresses_cutOff :
    "#\x00é\n\"\\".utf8ByteSize < 2 ^ 63 ∧
      (⟨4, 5, 2⟩ : Offsets).Sound "#\x00é\n\"\\" ∧
      scan? 64 "#\x00é\n\"\\" ⟨4, 5, 2⟩ = some (some ⟨.error, "\"\\", 2⟩, ⟨5, 7, 2⟩) ∧
      Passes "#\x00é\n\"\\" ⟨4, 5, 2⟩ ⟨5, 7, 2⟩ := by
  have hsize : "#\x00é\n\"\\".utf8ByteSize < 2 ^ 63 := by decide
  have hsound : (⟨4, 5, 2⟩ : Offsets).Sound "#\x00é\n\"\\" :=
    ⟨by decide, by decide, by decide, by decide⟩
  have hscan : scan? 64 "#\x00é\n\"\\" ⟨4, 5, 2⟩ =
      some (some ⟨.error, "\"\\", 2⟩, ⟨5, 7, 2⟩) := by decide
  obtain ⟨hprogresses, -, -, -⟩ := scanning_progresses 63 "#\x00é\n\"\\" hsize
  obtain ⟨t, o', hitem, hpasses⟩ := (hprogresses _ hsound).item (by decide)
  obtain ⟨-, rfl⟩ := Prod.mk.inj (Option.some.inj (hscan.symm.trans hitem))
  exact ⟨hsize, hsound, hscan, hpasses⟩

end ByteScan

end ScriptLexer
