import ScriptLexer.Log.Format
import ScriptLexer.Proofs.Escapes
import ScriptLexer.Proofs.ScanLog

/-!
# The Text of a Log

What stands in a log for an event, told from its level, target, message and fields and from the
span that it lies in. `Written` has a clause for each format, outside the span of a scan and inside
it, with the whole line or paragraph. It rests on nothing that writes; what a format writes is then
shown to be that, and nothing else to be it.

## Convention

A value that is a count or a line is written in decimal. A text is a JSON string in the JSON format;
in the other formats, one that is quoted stands in quotes and any other as it is. The message
comes first, before the fields. A compact line has its level in five columns and names no target; a
JSON line has its span twice, as the span that the event lies in and as the list of all such.

## Main results

* `Written.unique` — an event is written in one way only.
* `written_event` — what a format writes for an event.
* `inTurn_written_iff` — what a format writes for a log.
-/

namespace ScriptLexer.Log

open Text (Escapes InTurn)

/-- Placed events as a format writes them. -/
def Format.write (f : Format) (events : List (Event × Option ℕ)) : String :=
  String.join (events.map fun (e, span) => f.event e span)

/-- A placed event as it is read. -/
def seenIn (placed : Event × Option ℕ) : Seen × Option ℕ :=
  ((Entry.event placed.1).seen, placed.2)

/-! ### How an event is written -/

/-- The word for each level. -/
def levelWords : List (Level × String) :=
  [(.error, "ERROR"), (.warn, "WARN"), (.info, "INFO"), (.debug, "DEBUG"), (.trace, "TRACE")]

/-- The words for each target. -/
def targetWords : List (Target × String) :=
  [(.scanning, "rblex::lexer"), (.transfer, "rblex::io"), (.commandLine, "rblex::cli")]

/-- `WrittenValue f v text`: the value of a field is written as `text`. -/
inductive WrittenValue : Format → Value → String → Prop
  | number {f : Format} {n : ℕ} : WrittenValue f (.number n) (toString n)
  | plain {f : Format} {text : String} : f ≠ .json → WrittenValue f (.plain text) text
  | quoted {f : Format} {text written : String} : f ≠ .json → Escapes.quoted.Writes text written →
      WrittenValue f (.quoted text) ("\"" ++ written ++ "\"")
  | jsonPlain {text written : String} : Escapes.json.Writes text written →
      WrittenValue .json (.plain text) ("\"" ++ written ++ "\"")
  | jsonQuoted {text written : String} : Escapes.json.Writes text written →
      WrittenValue .json (.quoted text) ("\"" ++ written ++ "\"")

/-- `WrittenField f (name, v) text`: a field is written as `text`, behind what comes before it. -/
inductive WrittenField : Format → String × Value → String → Prop
  | compact {name value : String} {v : Value} : WrittenValue .compact v value →
      WrittenField .compact (name, v) (" " ++ name ++ "=" ++ value)
  | pretty {name value : String} {v : Value} : WrittenValue .pretty v value →
      WrittenField .pretty (name, v) (", " ++ name ++ ": " ++ value)
  | json {name key value : String} {v : Value} : Escapes.json.Writes name key →
      WrittenValue .json v value →
      WrittenField .json (name, v) (",\"" ++ key ++ "\":" ++ value)

/-- The escapes in the message of an event. -/
def messageEscapes : Format → Escapes
  | .json => .json
  | _ => .message

/-- `Worded f level target message fields word place words tail`: these are the words for the level
and the target of an event, its message and its fields as they are written. -/
structure Worded (f : Format) (level : Level) (target : Target) (message : String)
    (fields : List (String × Value)) (word place words tail : String) : Prop where
  level_mem : (level, word) ∈ levelWords
  target_mem : (target, place) ∈ targetWords
  message_writes : (messageEscapes f).Writes message words
  fields_written : InTurn (WrittenField f) fields tail

/-- `Written f (event, span) text`: an event, in a span of the given size or in none, is written as
`text`. -/
inductive Written : Format → Seen × Option ℕ → String → Prop
  | compact {level : Level} {target : Target} {message word place words tail : String}
      {fields : List (String × Value)} {blanks : ℕ} :
      Worded .compact level target message fields word place words tail →
      blanks + word.length = 5 →
      Written .compact (.event level target message fields, none)
        (String.ofList (List.replicate blanks ' ') ++ word ++ " " ++ words ++ tail ++ "\n")
  | compactInside {level : Level} {target : Target} {message word place words tail : String}
      {fields : List (String × Value)} {blanks length : ℕ} :
      Worded .compact level target message fields word place words tail →
      blanks + word.length = 5 →
      Written .compact (.event level target message fields, some length)
        (String.ofList (List.replicate blanks ' ') ++ word ++ " tokenize_all: " ++ words ++ tail ++
          " len=" ++ toString length ++ "\n")
  | pretty {level : Level} {target : Target} {message word place words tail : String}
      {fields : List (String × Value)} :
      Worded .pretty level target message fields word place words tail →
      Written .pretty (.event level target message fields, none)
        ("  " ++ word ++ " " ++ place ++ ": " ++ words ++ tail ++ "\n\n")
  | prettyInside {level : Level} {target : Target} {message word place words tail : String}
      {fields : List (String × Value)} {length : ℕ} :
      Worded .pretty level target message fields word place words tail →
      Written .pretty (.event level target message fields, some length)
        ("  " ++ word ++ " " ++ place ++ ": " ++ words ++ tail ++
          "\n    in rblex::lexer::tokenize_all with len: " ++ toString length ++ "\n\n")
  | json {level : Level} {target : Target} {message word place words tail : String}
      {fields : List (String × Value)} :
      Worded .json level target message fields word place words tail →
      Written .json (.event level target message fields, none)
        ("\x7b\"level\":\"" ++ word ++ "\",\"fields\":\x7b\"message\":\"" ++ words ++ "\"" ++
          tail ++ "\x7d,\"target\":\"" ++ place ++ "\"\x7d\n")
  | jsonInside {level : Level} {target : Target} {message word place words tail : String}
      {fields : List (String × Value)} {length : ℕ} :
      Worded .json level target message fields word place words tail →
      Written .json (.event level target message fields, some length)
        ("\x7b\"level\":\"" ++ word ++ "\",\"fields\":\x7b\"message\":\"" ++ words ++ "\"" ++
          tail ++ "\x7d,\"target\":\"" ++ place ++ "\",\"span\":\x7b\"len\":" ++ toString length ++
          ",\"name\":\"tokenize_all\"\x7d,\"spans\":[\x7b\"len\":" ++ toString length ++
          ",\"name\":\"tokenize_all\"\x7d]\x7d\n")

/-! ### One way only -/

variable {f : Format} {level : Level} {target : Target} {message : String}
  {fields : List (String × Value)} {word place words tail word' place' words' tail' : String}

/-- A value is written in one way only. -/
theorem WrittenValue.unique {v : Value} {text text' : String} (h : WrittenValue f v text)
    (h' : WrittenValue f v text') : text = text' := by
  cases h with
  | number => cases h' with | number => rfl
  | plain hjson =>
      cases h' with
      | plain => rfl
      | jsonPlain => exact absurd rfl hjson
  | quoted hjson hwrites =>
      cases h' with
      | quoted _ hwrites' => rw [hwrites.unique hwrites']
      | jsonQuoted => exact absurd rfl hjson
  | jsonPlain hwrites =>
      cases h' with
      | plain hjson => exact absurd rfl hjson
      | jsonPlain hwrites' => rw [hwrites.unique hwrites']
  | jsonQuoted hwrites =>
      cases h' with
      | quoted hjson => exact absurd rfl hjson
      | jsonQuoted hwrites' => rw [hwrites.unique hwrites']

/-- A field is written in one way only. -/
theorem WrittenField.unique {field : String × Value} {text text' : String}
    (h : WrittenField f field text) (h' : WrittenField f field text') : text = text' := by
  cases h with
  | compact hvalue => cases h' with | compact hvalue' => rw [hvalue.unique hvalue']
  | pretty hvalue => cases h' with | pretty hvalue' => rw [hvalue.unique hvalue']
  | json hkey hvalue =>
      cases h' with
      | json hkey' hvalue' => rw [hkey.unique hkey', hvalue.unique hvalue']

/-- The words for an event are determined by it. -/
theorem Worded.unique (h : Worded f level target message fields word place words tail)
    (h' : Worded f level target message fields word' place' words' tail') :
    word = word' ∧ place = place' ∧ words = words' ∧ tail = tail' := by
  have hlevels : ∀ x ∈ levelWords, ∀ y ∈ levelWords, x.1 = y.1 → x.2 = y.2 := by decide
  have htargets : ∀ x ∈ targetWords, ∀ y ∈ targetWords, x.1 = y.1 → x.2 = y.2 := by decide
  have hfields : Relator.RightUnique (WrittenField f) := fun _ _ _ => WrittenField.unique
  exact ⟨hlevels _ h.level_mem _ h'.level_mem rfl, htargets _ h.target_mem _ h'.target_mem rfl,
    h.message_writes.unique h'.message_writes,
    InTurn.unique hfields h.fields_written h'.fields_written⟩

/-- **An event is written in one way only.** -/
theorem Written.unique {x : Seen × Option ℕ} {text text' : String} (h : Written f x text)
    (h' : Written f x text') : text = text' := by
  cases h with
  | compact hworded hblanks =>
      cases h' with
      | compact hworded' hblanks' =>
          obtain ⟨rfl, rfl, rfl, rfl⟩ := hworded.unique hworded'
          rw [Nat.add_right_cancel (hblanks.trans hblanks'.symm)]
  | compactInside hworded hblanks =>
      cases h' with
      | compactInside hworded' hblanks' =>
          obtain ⟨rfl, rfl, rfl, rfl⟩ := hworded.unique hworded'
          rw [Nat.add_right_cancel (hblanks.trans hblanks'.symm)]
  | pretty hworded =>
      cases h' with
      | pretty hworded' =>
          obtain ⟨rfl, rfl, rfl, rfl⟩ := hworded.unique hworded'
          rfl
  | prettyInside hworded =>
      cases h' with
      | prettyInside hworded' =>
          obtain ⟨rfl, rfl, rfl, rfl⟩ := hworded.unique hworded'
          rfl
  | json hworded =>
      cases h' with
      | json hworded' =>
          obtain ⟨rfl, rfl, rfl, rfl⟩ := hworded.unique hworded'
          rfl
  | jsonInside hworded =>
      cases h' with
      | jsonInside hworded' =>
          obtain ⟨rfl, rfl, rfl, rfl⟩ := hworded.unique hworded'
          rfl

/-! ### What the formats write -/

/-- A level is written by its name. -/
theorem Level.mem_words (l : Level) : (l, l.name) ∈ levelWords := by
  cases l <;> decide

/-- The name of a level has room in five columns. -/
theorem Level.length_name_le (l : Level) : l.name.length ≤ 5 := by
  cases l <;> decide

/-- A target is written by its name. -/
theorem Target.mem_words (target : Target) : (target, target.name) ∈ targetWords := by
  cases target <;> decide

/-- The value of a field in a format that is not JSON. -/
theorem writtenValue_text (hf : f ≠ .json) (v : Value) : WrittenValue f v v.text := by
  cases v with
  | number n => exact .number
  | plain text => exact .plain hf
  | quoted text =>
      obtain ⟨written, hwrites, hencode⟩ := Text.Quoted.exists_writes text
      rw [Value.text, hencode]
      exact .quoted hf hwrites

/-- The value of a field in the JSON format. -/
theorem writtenValue_json (v : Value) : WrittenValue .json v v.json := by
  cases v with
  | number n => exact .number
  | plain text =>
      obtain ⟨written, hwrites, hencode⟩ := Text.JsonString.exists_writes text
      rw [Value.json, hencode]
      exact .jsonPlain hwrites
  | quoted text =>
      obtain ⟨written, hwrites, hencode⟩ := Text.JsonString.exists_writes text
      rw [Value.json, hencode]
      exact .jsonQuoted hwrites

/-- Texts with a separator between them, the first one apart. -/
theorem intercalate_cons_eq (separator text : String) (texts : List String) :
    String.intercalate separator (text :: texts) =
      text ++ String.join (texts.map (separator ++ ·)) := by
  induction texts generalizing text with
  | nil => simp
  | cons next texts ih =>
      rw [String.intercalate_cons_cons, ih, List.map_cons, String.join_cons]
      simp only [String.append_assoc]

/-- The fields of an event in a format with a mark before each field and one before its value. -/
theorem fieldTexts_written {before between : String}
    (h : ∀ name v, WrittenField f (name, v) (before ++ name ++ between ++ v.text)) (e : Event) :
    InTurn (WrittenField f) e.fields (fieldTexts before between e) := by
  have hfields : InTurn (WrittenField f) (e.fields.map id) (fieldTexts before between e) :=
    .join fun (name, v) _ => h name v
  rwa [List.map_id] at hfields

/-- The words for an event in a format that is not JSON. -/
theorem worded_text {before between : String} (hescapes : messageEscapes f = .message)
    (h : ∀ name v, WrittenField f (name, v) (before ++ name ++ between ++ v.text)) (e : Event) :
    Worded f e.level e.target e.message e.fields e.level.name e.target.name
      (Text.Terminal.escape e.message) (fieldTexts before between e) where
  level_mem := e.level.mem_words
  target_mem := e.target.mem_words
  message_writes := hescapes ▸ Text.Terminal.writes_escape e.message
  fields_written := fieldTexts_written h e

/-- What the compact format writes for an event. -/
theorem written_compactLine (e : Event) (span : Option ℕ) :
    Written .compact (seenIn (e, span)) (compactLine e span) := by
  have hworded : Worded .compact e.level e.target e.message e.fields e.level.name e.target.name
      (Text.Terminal.escape e.message) (fieldTexts " " "=" e) :=
    worded_text rfl (fun _ v => .compact (writtenValue_text (by decide) v)) e
  have hblanks : (5 - e.level.name.length) + e.level.name.length = 5 :=
    Nat.sub_add_cancel e.level.length_name_le
  cases span with
  | none =>
      have hline : compactLine e none =
          String.ofList (List.replicate (5 - e.level.name.length) ' ') ++ e.level.name ++ " " ++
            Text.Terminal.escape e.message ++ fieldTexts " " "=" e ++ "\n" := by
        simp [compactLine, alignRight]
      rw [hline]
      exact .compact hworded hblanks
  | some length =>
      have hline : compactLine e (some length) =
          String.ofList (List.replicate (5 - e.level.name.length) ' ') ++ e.level.name ++
            " tokenize_all: " ++ Text.Terminal.escape e.message ++ fieldTexts " " "=" e ++
            " len=" ++ toString length ++ "\n" := by
        rw [← String.toList_inj]
        simp [compactLine, alignRight, Entry.spanName]
      rw [hline]
      exact .compactInside hworded hblanks

/-- What the pretty format writes for an event. -/
theorem written_prettyParagraph (e : Event) (span : Option ℕ) :
    Written .pretty (seenIn (e, span)) (prettyParagraph e span) := by
  have hworded : Worded .pretty e.level e.target e.message e.fields e.level.name e.target.name
      (Text.Terminal.escape e.message) (fieldTexts ", " ": " e) :=
    worded_text rfl (fun _ v => .pretty (writtenValue_text (by decide) v)) e
  cases span with
  | none =>
      have hparagraph : prettyParagraph e none = "  " ++ e.level.name ++ " " ++ e.target.name ++
          ": " ++ Text.Terminal.escape e.message ++ fieldTexts ", " ": " e ++ "\n\n" := by
        rw [← String.toList_inj]
        simp [prettyParagraph]
      rw [hparagraph]
      exact .pretty hworded
  | some length =>
      have hparagraph : prettyParagraph e (some length) = "  " ++ e.level.name ++ " " ++
          e.target.name ++ ": " ++ Text.Terminal.escape e.message ++ fieldTexts ", " ": " e ++
          "\n    in rblex::lexer::tokenize_all with len: " ++ toString length ++ "\n\n" := by
        rw [← String.toList_inj]
        simp [prettyParagraph, Target.name, Entry.spanName]
      rw [hparagraph]
      exact .prettyInside hworded

/-- The members of a JSON object behind the first one. -/
def jsonMembers (members : List (String × String)) : String :=
  String.join (members.map fun (name, value) =>
    "," ++ (Text.JsonString.encode name ++ ":" ++ value))

/-- No members are written as nothing. -/
@[simp]
theorem jsonMembers_nil : jsonMembers [] = "" :=
  String.join_nil

/-- A member is written with a comma before it and its name as a JSON string. -/
@[simp]
theorem jsonMembers_cons (name value : String) (members : List (String × String)) :
    jsonMembers ((name, value) :: members) =
      "," ++ (Text.JsonString.encode name ++ ":" ++ value) ++ jsonMembers members :=
  String.join_cons

/-- A JSON object with its first member apart. -/
theorem jsonObject_cons (name value : String) (members : List (String × String)) :
    jsonObject ((name, value) :: members) =
      "\x7b" ++ Text.JsonString.encode name ++ ":" ++ value ++ jsonMembers members ++ "\x7d" := by
  rw [jsonObject, List.map_cons, intercalate_cons_eq, List.map_map, jsonMembers]
  simp only [String.append_assoc, Function.comp_def]

/-- A field of an event in the JSON format. -/
theorem writtenField_json (name : String) (v : Value) :
    WrittenField .json (name, v) ("," ++ (Text.JsonString.encode name ++ ":" ++ v.json)) := by
  obtain ⟨key, hwrites, hencode⟩ := Text.JsonString.exists_writes name
  have htext : "," ++ (Text.JsonString.encode name ++ ":" ++ v.json) =
      ",\"" ++ key ++ "\":" ++ v.json := by
    rw [hencode, ← String.toList_inj]
    simp
  rw [htext]
  exact .json hwrites (writtenValue_json v)

/-- The fields of an event in the JSON format. -/
theorem jsonMembers_written (e : Event) :
    InTurn (WrittenField .json) e.fields
      (jsonMembers (e.fields.map fun (name, value) => (name, value.json))) := by
  have hfields : InTurn (WrittenField .json) (e.fields.map id)
      (String.join (e.fields.map fun (name, value) =>
        "," ++ (Text.JsonString.encode name ++ ":" ++ value.json))) :=
    .join fun (name, v) _ => writtenField_json name v
  rw [List.map_id] at hfields
  rwa [jsonMembers, List.map_map]

/-- The words for an event in the JSON format. -/
theorem exists_worded_json (e : Event) :
    ∃ words, Text.JsonString.encode e.message = "\"" ++ words ++ "\"" ∧
      Worded .json e.level e.target e.message e.fields e.level.name e.target.name words
        (jsonMembers (e.fields.map fun (name, value) => (name, value.json))) := by
  obtain ⟨words, hwrites, hencode⟩ := Text.JsonString.exists_writes e.message
  exact ⟨words, hencode, e.level.mem_words, e.target.mem_words, hwrites, jsonMembers_written e⟩

/-- What the JSON format writes for an event. -/
theorem written_jsonLine (e : Event) (span : Option ℕ) :
    Written .json (seenIn (e, span)) (jsonLine e span) := by
  obtain ⟨words, hencode, hworded⟩ := exists_worded_json e
  have hlevel : Text.JsonString.encode e.level.name = "\"" ++ e.level.name ++ "\"" := by
    cases e.level <;> decide
  have htarget : Text.JsonString.encode e.target.name = "\"" ++ e.target.name ++ "\"" := by
    cases e.target <;> decide
  have hkeys : ∀ key ∈ ["level", "fields", "message", "target", "span", "spans", "len", "name",
      "tokenize_all"], Text.JsonString.encode key = "\"" ++ key ++ "\"" := by decide
  cases span with
  | none =>
      have hline : jsonLine e none = "\x7b\"level\":\"" ++ e.level.name ++
          "\",\"fields\":\x7b\"message\":\"" ++ words ++ "\"" ++
          jsonMembers (e.fields.map fun (name, value) => (name, value.json)) ++
          "\x7d,\"target\":\"" ++ e.target.name ++ "\"\x7d\n" := by
        rw [← String.toList_inj]
        simp [jsonLine, jsonObject_cons, hkeys, hlevel, htarget, hencode]
      rw [hline]
      exact .json hworded
  | some length =>
      have hline : jsonLine e (some length) = "\x7b\"level\":\"" ++ e.level.name ++
          "\",\"fields\":\x7b\"message\":\"" ++ words ++ "\"" ++
          jsonMembers (e.fields.map fun (name, value) => (name, value.json)) ++
          "\x7d,\"target\":\"" ++ e.target.name ++ "\",\"span\":\x7b\"len\":" ++
          toString length ++ ",\"name\":\"tokenize_all\"\x7d,\"spans\":[\x7b\"len\":" ++
          toString length ++ ",\"name\":\"tokenize_all\"\x7d]\x7d\n" := by
        rw [← String.toList_inj]
        simp [jsonLine, jsonSpan, jsonObject_cons, Entry.spanName, hkeys, hlevel, htarget, hencode]
      rw [hline]
      exact .jsonInside hworded

/-- **What a format writes for an event**, in a span or in none. -/
theorem written_event (f : Format) (x : Event × Option ℕ) :
    Written f (seenIn x) (f.event x.1 x.2) := by
  cases f with
  | pretty => exact written_prettyParagraph x.1 x.2
  | compact => exact written_compactLine x.1 x.2
  | json => exact written_jsonLine x.1 x.2

/-- **What a format writes for a log** is what its events are written as, one after the other. -/
theorem inTurn_written_iff (f : Format) (events : List (Event × Option ℕ)) (text : String) :
    InTurn (Written f) (events.map seenIn) text ↔ text = f.write events := by
  have hwrite : InTurn (Written f) (events.map seenIn) (f.write events) :=
    .join fun x _ => written_event f x
  have hunique : Relator.RightUnique (Written f) := fun _ _ _ => Written.unique
  constructor
  · exact fun h => h.unique hunique hwrite
  · rintro rfl
    exact hwrite

end ScriptLexer.Log
