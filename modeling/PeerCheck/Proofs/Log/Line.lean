import PeerCheck.Log.Draft
import PeerCheck.Proofs.Json.Fields
import PeerCheck.Proofs.Json.Printable
import PeerCheck.Proofs.Log.Timestamp
import PeerCheck.Proofs.Run

/-!
# Log lines read back

The text of a line is an object in printable ASCII, whatever its names, its message and its fault
hold, and reads back as just these (`line_tells_record`). So no text in them makes a second line, or
passes for another field or another record. Only a time that has no written form leaves no text.
-/

namespace PeerCheck.Log

open PeerCheck.Json PeerCheck.Number PeerCheck.Text

namespace Line

variable {created created' : Binary64} {l l' : Line} {time text : String}

theorem plain_fields (time : String) (l : Line) : (Value.obj (l.fields time)).Plain := by
  have hversion : (decimal schemaVersion.natAbs).length ≤ maxIntDigits := by decide +kernel
  refine .obj _ (by cases h : l.exception <;> simp [fields, h]) fun f hf => ?_
  rcases List.mem_append.mp hf with hf | hf
  · simp only [List.mem_cons, List.not_mem_nil, or_false] at hf
    rcases hf with rfl | rfl | rfl | rfl | rfl
    · exact .str _
    · exact .str _
    · exact .str _
    · exact .str _
    · exact .int _ hversion
  · simp only [Option.mem_toList, Option.map_eq_some_iff] at hf
    obtain ⟨e, -, rfl⟩ := hf
    exact .str e

theorem parse_text (h : l.text created = .ok text) :
    ∃ time, timestamp created = .ok time ∧ parse text.toList = .ok (.obj (l.fields time)) := by
  obtain ⟨time, ht, rfl⟩ := exists_of_map_eq_ok h
  exact ⟨time, ht, parse_line (plain_fields time l)⟩

theorem isPrintable_text (h : l.text created = .ok text) : ∀ c ∈ text.toList, IsPrintable c := by
  obtain ⟨time, -, rfl⟩ := exists_of_map_eq_ok h
  have hline : (l.textAt time).toList = (Value.obj (l.fields time)).write .oneLine 0 :=
    String.toList_ofList
  rw [hline]
  exact (plain_fields time l).isPrintable_write 0

/-- Every line has a text, if its time has a written form. -/
theorem exists_text_iff (created : Binary64) (l : Line) :
    (∃ text, l.text created = .ok text) ↔ IsDated created := by
  rw [← exists_timestamp_iff]
  unfold Line.text
  cases timestamp created with
  | ok time => exact iff_of_true ⟨_, rfl⟩ ⟨_, rfl⟩
  | error e => exact ⟨nofun, nofun⟩

/-- The text is one line of printable ASCII, and reads back as an object with just the fields of a
line: the names of the logger and of the level, the message and the fault are those given. -/
structure Tells (logger level message : String) (exception : Option String) (created : Binary64)
    (text : String) : Prop where
  printable : ∀ c ∈ text.toList, IsPrintable c
  unbroken : '\n' ∉ text.toList ∧ '\r' ∉ text.toList
  reads : ∃ time fs, timestamp created = .ok time ∧ parse text.toList = .ok (.obj fs) ∧
    fs.map Prod.fst = ["timestamp", "subsystem", "event_code", "message", "schema_version"] ++
      (if exception.isSome then ["exception"] else []) ∧
    Fields.get? fs "timestamp" = some (.str time) ∧
    Fields.get? fs "subsystem" = some (.str logger) ∧
    Fields.get? fs "event_code" = some (.str level) ∧
    Fields.get? fs "message" = some (.str message) ∧
    Fields.get? fs "schema_version" = some (.int 1) ∧
    Fields.get? fs "exception" = exception.map .str

theorem get?_exception_fields (time : String) (l : Line) :
    Fields.get? (l.fields time) "exception" = l.exception.map .str := by
  cases h : l.exception <;> simp [fields, h, Fields.get?_cons]

theorem tells_of_text (h : l.text created = .ok text) :
    Tells l.logger l.level l.message l.exception created text where
  printable := isPrintable_text h
  unbroken :=
    have hbreak : ∀ c, ¬ IsPrintable c → c ∉ text.toList := fun c hc hm =>
      hc (isPrintable_text h c hm)
    ⟨hbreak _ (by decide), hbreak _ (by decide)⟩
  reads := by
    obtain ⟨time, ht, hp⟩ := parse_text h
    have hnames : (l.fields time).map Prod.fst =
        ["timestamp", "subsystem", "event_code", "message", "schema_version"] ++
          (if l.exception.isSome then ["exception"] else []) := by
      cases he : l.exception <;> simp [fields, he]
    exact ⟨time, l.fields time, ht, hp, hnames, rfl, rfl, rfl, rfl, rfl,
      get?_exception_fields time l⟩

/-- What a text tells is told of one line only. -/
theorem Tells.unique
    (h : Tells l.logger l.level l.message l.exception created text)
    (h' : Tells l'.logger l'.level l'.message l'.exception created' text) : l' = l := by
  obtain ⟨time, fs, -, hp, -, -, hlogger, hlevel, hmessage, -, hexception⟩ := h.reads
  obtain ⟨time', fs', -, hp', -, -, hlogger', hlevel', hmessage', -, hexception'⟩ := h'.reads
  cases hp.symm.trans hp'
  obtain ⟨logger, level, message, exception⟩ := l
  obtain ⟨logger', level', message', exception'⟩ := l'
  cases hlogger.symm.trans hlogger'
  cases hlevel.symm.trans hlevel'
  cases hmessage.symm.trans hmessage'
  obtain rfl : exception = exception' :=
    Option.map_injective (fun _ _ => Value.str.inj) (hexception.symm.trans hexception')
  rfl

end Line

/-- The line of a record tells the name of its logger, the name of its level and its message. -/
theorem tells_of_recordLine {created : Binary64} {r : Record} {exception : Option String}
    {text : String} (h : recordLine created r exception = .ok text) :
    Line.Tells r.logger r.level.name r.message exception created text :=
  Line.tells_of_text h

theorem exists_recordLine_iff (created : Binary64) (r : Record) (exception : Option String) :
    (∃ text, recordLine created r exception = .ok text) ↔ IsDated created :=
  Line.exists_text_iff created (.of r exception)

/-- A draft has a line just where its template fits its arguments and the time has a written form,
and the line tells the message that these make. -/
theorem Draft.line_eq_ok_iff {d : Draft} {created : Binary64} {report : Option Report}
    {text : String} :
    d.line created report = .ok text ↔
      ∃ message, formatMessage d.template d.arguments = .ok message ∧
        recordLine created ⟨d.logger, d.level, message⟩ (report.map Report.text) = .ok text := by
  unfold Draft.line Draft.record recordLine Line.text
  cases timestamp created with
  | error e => exact ⟨nofun, fun ⟨_, _, h⟩ => nomatch h⟩
  | ok time =>
    cases formatMessage d.template d.arguments with
    | error c => exact ⟨nofun, fun ⟨_, h, _⟩ => nomatch h⟩
    | ok message =>
      constructor
      · intro h
        exact ⟨message, rfl, congrArg Except.ok (Except.ok.inj h)⟩
      · rintro ⟨message', hmessage, h⟩
        cases hmessage
        exact congrArg Except.ok (Except.ok.inj h)

/-- A line has a text if its time has a written form. The text is one line, and reads back as what
is written on it: no other line has the same text. So the text for a record tells its logger, its
level, its message and the fault it reports, and that for a draft the message that its template
and its arguments make. -/
theorem line_tells_record (created : Binary64) :
    (∀ l : Line, ((∃ text, l.text created = .ok text) ↔ IsDated created) ∧
      ∀ text, l.text created = .ok text →
        Line.Tells l.logger l.level l.message l.exception created text ∧
        ∀ l' created', Line.text created' l' = .ok text → l' = l) ∧
    (∀ (r : Record) (exception : Option String),
      ((∃ text, recordLine created r exception = .ok text) ↔ IsDated created) ∧
      ∀ text, recordLine created r exception = .ok text →
        Line.Tells r.logger r.level.name r.message exception created text) ∧
    ∀ (d : Draft) (report : Option Report),
      ((∃ text, d.line created report = .ok text) ↔
        IsDated created ∧ ∃ message, formatMessage d.template d.arguments = .ok message) ∧
      ∀ text, d.line created report = .ok text →
        ∃ message, formatMessage d.template d.arguments = .ok message ∧
          Line.Tells d.logger d.level.name message (report.map Report.text) created text := by
  refine ⟨fun l => ⟨Line.exists_text_iff created l, fun text h => ?_⟩,
    fun r exception => ⟨exists_recordLine_iff created r exception, fun _ => tells_of_recordLine⟩,
    fun d report => ⟨⟨?_, ?_⟩, fun text h => ?_⟩⟩
  · have htells := Line.tells_of_text h
    exact ⟨htells, fun l' created' h' => htells.unique (Line.tells_of_text h')⟩
  · rintro ⟨text, h⟩
    obtain ⟨message, hm, hline⟩ := Draft.line_eq_ok_iff.mp h
    exact ⟨(exists_recordLine_iff created _ _).mp ⟨text, hline⟩, message, hm⟩
  · rintro ⟨hdated, message, hm⟩
    obtain ⟨text, hline⟩ := (exists_recordLine_iff created ⟨d.logger, d.level, message⟩
      (report.map Report.text)).mpr hdated
    exact ⟨text, Draft.line_eq_ok_iff.mpr ⟨message, hm, hline⟩⟩
  · obtain ⟨message, hm, hline⟩ := Draft.line_eq_ok_iff.mp h
    exact ⟨message, hm, tells_of_recordLine hline⟩

/-- A line whose message would end it and begin another, were it written as it is. -/
def forgingLine : Line :=
  ⟨"tlsguard.verifier", "Level 15", "x\"\x7d\n\x7b\"message\": \"y", some "OSError: \\ 😀"⟩

def forgingText : String :=
  "\x7b\"timestamp\": \"1970-01-01T00:00:00Z\", \"subsystem\": \"tlsguard.verifier\", " ++
    "\"event_code\": \"Level 15\", \"message\": \"x\\\"\x7d\\n\x7b\\\"message\\\": \\\"y\", " ++
    "\"schema_version\": 1, \"exception\": \"OSError: \\\\ \\ud83d\\ude00\"\x7d"

theorem line_tells_record_forging :
    forgingLine.text .zero = .ok forgingText ∧
      Line.Tells "tlsguard.verifier" "Level 15" "x\"\x7d\n\x7b\"message\": \"y"
        (some "OSError: \\ 😀") .zero forgingText ∧
      ∀ l created, Line.text created l = .ok forgingText → l = forgingLine := by
  obtain ⟨hiff, htells⟩ := (line_tells_record .zero).1 forgingLine
  have hdated : IsDated .zero := ⟨by decide +kernel, by decide +kernel⟩
  obtain ⟨text, htext⟩ := hiff.mpr hdated
  have hwritten : (forgingLine.text .zero).toOption = some forgingText := by decide +kernel
  rw [htext] at hwritten
  obtain rfl : text = forgingText := Option.some.inj hwritten
  exact ⟨htext, htells _ htext⟩

end PeerCheck.Log
