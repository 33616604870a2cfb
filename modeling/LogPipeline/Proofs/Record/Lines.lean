import LogPipeline.Proofs.Handler.Effects
import LogPipeline.Proofs.Json.Printer
import LogPipeline.Proofs.Record.Decoding

/-!
# One record, one line

What a leaf writes for a record ends with the end of a line, and that is the only one in it for every
JSON line, and for every text line in which no name of an attribute or group that is shown, and no
file of a source, holds a line end itself (`one_line_per_record`). Messages and values may hold what
they like, for they are quoted; names and files are written as they are.
-/

namespace LogPipeline

open Text (newline)

/-- The text of a record's line without its end. -/
def Encoding.body (e : Encoding) (r : Record) (addSource : Bool) (attrs : List Attr) : String :=
  match e with
  | .text => r.textLine addSource attrs
  | .json => (r.jsonObject addSource attrs).compact

/-- Nothing that the line of a record shows as it is holds a line end. -/
def Formatter.Unbroken (f : Formatter) (ds : List Derivation) (r : Record) : Prop :=
  f.encoding = .json ∨
    (∀ field ∈ attrLeaves "" (merged ds r.attrs), '\n' ∉ field.1.toList) ∧
      ∀ s, r.shownSource f.addSource = some s → '\n' ∉ s.file.toList

/-- What was written to a sink that keeps all it is given, in one place. A console that may refuse a
write does not. -/
def Sink.content? : Sink → World → Option Bytes
  | .console _, w => if w.consoleLimit.isNone then some w.console else none
  | .buffer n, w => some ((w.buffers.find? n).getD default).content
  | .appender n, w => ((w.appenders.find? n).bind (·.handle)).map w.files.content
  | .colored _ inner, w => inner.content? w
  | _, _ => none

/-- The state after stages derived from one have handled records in order. -/
def Handler.handleEach (h : Handler) : List (List Derivation × Record) → World → World
  | [], w => w
  | (ds, r) :: rest, w => handleEach h rest ((h.derived ds).handle r w).2

variable {c : Char} {r : Record} {f : Formatter} {attrs : List Attr} {w : World} {bytes : Bytes}

/-! ## Text lines -/

theorem newline_not_mem_fieldText (s : String) : '\n' ∉ (fieldText s).toList := by
  unfold fieldText
  split_ifs with h
  · exact Text.newline_not_mem_quote s
  · intro hs
    refine h ?_
    simp only [needsQuotes, Bool.or_eq_true, List.any_eq_true]
    exact .inr ⟨'\n', hs, by decide⟩

theorem Shown.newline_mem_fieldChars {field : String × String} :
    '\n' ∈ fieldChars field ↔ '\n' ∈ field.1.toList := by
  simp [fieldChars, newline_not_mem_fieldText]

theorem Source.newline_mem_text {s : Source} : '\n' ∈ s.text.toList ↔ '\n' ∈ s.file.toList := by
  have hline : '\n' ∉ Nat.toDigits 10 s.line := fun h =>
    absurd (Nat.isDigit_of_mem_toDigits (by decide) (by decide) h) (by decide)
  simp [text, hline]

theorem Level.newline_not_mem_tag (level : Level) : '\n' ∉ level.tag.toList := by
  cases level <;> decide

theorem newline_mem_attrFields {path : String} :
    '\n' ∈ (attrFields path attrs).toList ↔
      ∃ field ∈ attrLeaves path attrs, '\n' ∈ field.1.toList := by
  simp only [attrFields_eq, List.mem_flatMap, Shown.newline_mem_fieldChars]

theorem Record.newline_mem_textLine {addSource : Bool} :
    '\n' ∈ (r.textLine addSource attrs).toList ↔
      (∃ field ∈ attrLeaves "" attrs, '\n' ∈ field.1.toList) ∨
        ∃ s, r.shownSource addSource = some s ∧ '\n' ∈ s.file.toList := by
  have htime := r.timestamp.newline_not_mem_text
  have hlevel := r.level.newline_not_mem_tag
  have hmessage := newline_not_mem_fieldText r.message
  rw [← newline_mem_attrFields, Record.textLine]
  cases r.shownSource addSource with
  | none => simp [htime, hlevel, hmessage]
  | some s => simp [htime, hlevel, hmessage, Source.newline_mem_text, or_comm]

theorem Json.newline_not_mem_compact (j : Json) : '\n' ∉ j.compact.toList := fun h =>
  absurd (j.space_le_of_mem_compact '\n' h) (by decide)

/-! ## Lines -/

theorem Encoding.line_eq (e : Encoding) (r : Record) (addSource : Bool) (attrs : List Attr) :
    e.line r addSource attrs = Text.utf8 (e.body r addSource attrs) ++ [newline] :=
  Text.utf8_append _ "\n"

/-- **When a line is one.** -/
theorem Formatter.newline_not_mem_body (f : Formatter) (ds : List Derivation) (r : Record) :
    newline ∉ Text.utf8 (f.encoding.body r f.addSource (merged ds r.attrs)) ↔ f.Unbroken ds r := by
  rw [Text.newline_mem_utf8, Formatter.Unbroken]
  cases f.encoding with
  | text =>
    rw [Encoding.body, Record.newline_mem_textLine]
    simp
  | json => simp [Encoding.body, Json.newline_not_mem_compact]

theorem Formatter.line_derived (hscope : f.scope = .empty) (ds : List Derivation) (r : Record) :
    ({ f with scope := ds.foldl Scope.derive f.scope } : Formatter).line r =
      Text.utf8 (f.encoding.body r f.addSource (merged ds r.attrs)) ++ [newline] := by
  rw [Formatter.line, hscope, resolve_derived]
  exact Encoding.line_eq ..

theorem Formatter.handle_derived (hscope : f.scope = .empty) (ds : List Derivation) (r : Record)
    (w : World) :
    ((Handler.format f).derived ds).handle r w =
      if w.allows f.threshold r.level then
        let bytes := Text.utf8 (f.encoding.body r f.addSource (merged ds r.attrs)) ++ [newline]
        (((f.sink.write bytes w).1.map fun _ => ()).mapError .io, (f.sink.write bytes w).2)
      else (.ok (), w) := by
  rw [derived_format, Handler.handle, Formatter.handle, Formatter.line_derived hscope]

/-! ## Colours -/

namespace Color

theorem splitAt?_eq {part line before after : Bytes}
    (h : splitAt? part line = some (before, after)) : line = before ++ part ++ after := by
  induction line generalizing before with
  | nil =>
    rw [splitAt?] at h
    split at h
    · rename_i hpart
      obtain ⟨rfl, rfl⟩ := Prod.mk.inj (Option.some.inj h)
      rw [List.isEmpty_iff.mp hpart]
      rfl
    · cases h
  | cons b rest ih =>
    rw [splitAt?] at h
    split at h
    · rename_i hpart
      obtain ⟨rfl, rfl⟩ := Prod.mk.inj (Option.some.inj h)
      exact (List.prefix_iff_eq_append.mp (List.isPrefixOf_iff_prefix.mp hpart)).symm
    · obtain ⟨⟨before', after'⟩, hrest, heq⟩ := Option.map_eq_some_iff.mp h
      obtain ⟨rfl, rfl⟩ := Prod.mk.inj heq
      rw [ih hrest]
      rfl

theorem newline_not_mem_code (level : Level) : newline ∉ code level := by
  cases level <;> decide +kernel

theorem newline_not_mem_tag (level : Level) : newline ∉ tag level := by
  cases level <;> decide +kernel

theorem newline_not_mem_reset : newline ∉ reset := by decide +kernel

/-- Colours go into a line and leave its line ends where they are. -/
theorem paint?_lines {painted : Bytes} (h : paint? bytes = some painted) :
    painted.count newline = bytes.count newline ∧
      (bytes.getLast? = some newline → painted.getLast? = some newline) := by
  obtain ⟨level, -, hlevel⟩ := List.exists_of_findSome?_eq_some h
  obtain ⟨⟨before, after⟩, hsplit, rfl⟩ := Option.map_eq_some_iff.mp hlevel
  have htag := newline_not_mem_tag level
  rw [splitAt?_eq hsplit]
  refine ⟨?_, fun hlast => ?_⟩
  · simp [List.count_eq_zero.mpr htag, List.count_eq_zero.mpr (newline_not_mem_code level),
      List.count_eq_zero.mpr newline_not_mem_reset]
  · cases after with
    | nil =>
      have hend : newline ∈ tag level := by
        have hne : tag level ≠ [] := by cases level <;> decide +kernel
        rw [List.append_nil, List.getLast?_append_of_ne_nil _ hne] at hlast
        exact List.mem_of_getLast? hlast
      exact absurd hend htag
    | cons b rest =>
      rw [List.getLast?_append_of_ne_nil _ (List.cons_ne_nil b rest)] at hlast ⊢
      exact hlast

end Color

/-! ## Sinks -/

/-- A sink that keeps all it is given shows as many line ends as it was given. -/
theorem Sink.content?_write {sink : Sink} {kept : Bytes} (h : sink.content? w = some kept)
    (bytes : Bytes) : ∃ shown, sink.content? (sink.write bytes w).2 = some (kept ++ shown) ∧
      shown.count newline = bytes.count newline ∧
      (bytes.getLast? = some newline → shown.getLast? = some newline) := by
  induction sink generalizing bytes with
  | console n =>
    obtain ⟨hlimit, rfl⟩ : w.consoleLimit = none ∧ w.console = kept := by
      simpa [content?] using h
    refine ⟨bytes, ?_, rfl, id⟩
    simp [write, World.writeConsole, World.consoleTakes, content?, hlimit]
  | buffer n =>
    obtain rfl := Option.some.inj h
    exact ⟨bytes, by simp [write, content?, Table.find?_put], rfl, id⟩
  | appender n =>
    obtain ⟨file, hfile, rfl⟩ := Option.map_eq_some_iff.mp h
    exact ⟨bytes, by simp [write, content?, hfile], rfl, id⟩
  | colored n inner ih =>
    rw [Sink.write]
    split
    · exact ih h bytes
    · rename_i painted hpaint
      obtain ⟨hcount, hlast⟩ := Color.paint?_lines hpaint
      obtain ⟨shown, hshown, hcount', hlast'⟩ := ih h painted
      exact ⟨shown, hshown, hcount'.trans hcount, hlast' ∘ hlast⟩
  | discard n | rotator n | device n => cases h

/-! ## Series of records -/

/-- The handled records that pass the threshold of a leaf. -/
def Formatter.passing (f : Formatter) (w : World) (events : List (List Derivation × Record)) :
    List (List Derivation × Record) :=
  events.filter fun e => w.allows f.threshold e.2.level

/-- What handling records one after the other adds to a sink: at least one line end for each record
that passes, and no more exactly if all of these are unbroken. -/
theorem Handler.content?_handleEach (hscope : f.scope = .empty)
    (events : List (List Derivation × Record)) {kept : Bytes}
    (h : f.sink.content? w = some kept) : ∃ added,
      f.sink.content? ((Handler.format f).handleEach events w) = some (kept ++ added) ∧
      (added = [] ∨ added.getLast? = some newline) ∧
      (f.passing w events).length ≤ added.count newline ∧
      (added.count newline = (f.passing w events).length ↔
        ∀ e ∈ f.passing w events, f.Unbroken e.1 e.2) := by
  induction events generalizing w kept with
  | nil => exact ⟨[], by simpa [handleEach] using h, .inl rfl, by simp [Formatter.passing]⟩
  | cons e rest ih =>
    obtain ⟨ds, r⟩ := e
    have hhandle := Formatter.handle_derived hscope ds r w
    rw [handleEach, Formatter.passing, List.filter_cons, ← Formatter.passing]
    split
    · rename_i hpass
      have hlevels := (((Handler.format f).derived ds).written_handle r w).levels
      have hpassing : f.passing (((Handler.format f).derived ds).handle r w).2 rest =
          f.passing w rest :=
        List.filter_congr fun e _ => by rw [World.allows, World.allows, World.level, World.level, hlevels]
      rw [if_pos hpass] at hhandle
      obtain ⟨shown, hshown, hcount, hlast⟩ := Sink.content?_write h
        (Text.utf8 (f.encoding.body r f.addSource (merged ds r.attrs)) ++ [newline])
      rw [List.count_append, List.count_singleton_self] at hcount
      have hkept : f.sink.content? (((Handler.format f).derived ds).handle r w).2 =
          some (kept ++ shown) := by
        rw [hhandle]
        exact hshown
      obtain ⟨added, hadded, hend, hle, hexact⟩ := ih hkept
      rw [hpassing] at hle hexact
      have hbody := f.newline_not_mem_body ds r
      rw [← List.count_eq_zero] at hbody
      rw [List.length_cons, List.forall_mem_cons, ← hexact, ← hbody]
      refine ⟨shown ++ added, by rw [hadded, List.append_assoc], .inr ?_, ?_, ?_⟩
      · rcases hend with rfl | hend
        · rw [List.append_nil]
          exact hlast (by simp)
        · rw [List.getLast?_append, hend]
          rfl
      · rw [List.count_append]
        omega
      · rw [List.count_append]
        omega
    · rename_i hpass
      rw [if_neg hpass] at hhandle
      rw [hhandle]
      exact ih h

/-- **One record is one line, if nothing in it that is written as it is breaks it.** Whatever has
been bound and opened on the way, a leaf writes for a record that passes its threshold one piece that
ends with a line end. That line end is the only one exactly if the record is `Unbroken`: always in
JSON, and in text if no name of an attribute that is shown, with those of its groups, and no file of
a source that is shown holds one. So a sink that keeps all it is given has, after a series of
records, one more line for each that passed exactly if all of these are unbroken. -/
theorem one_line_per_record (hscope : f.scope = .empty) :
    (∀ ds r, ∃ line body, line = body ++ [newline] ∧
      (∀ w, ((Handler.format f).derived ds).handle r w =
        if w.allows f.threshold r.level then
          (((f.sink.write line w).1.map fun _ => ()).mapError .io, (f.sink.write line w).2)
        else (.ok (), w)) ∧
      (newline ∉ body ↔ f.Unbroken ds r)) ∧
    ∀ (events : List (List Derivation × Record)) (w : World) (kept : Bytes),
      f.sink.content? w = some kept → ∃ added,
        f.sink.content? ((Handler.format f).handleEach events w) = some (kept ++ added) ∧
        (added = [] ∨ added.getLast? = some newline) ∧
        (added.count newline = (f.passing w events).length ↔
          ∀ e ∈ f.passing w events, f.Unbroken e.1 e.2) := by
  refine ⟨fun ds r => ?_, fun events w kept h => ?_⟩
  · exact ⟨_, _, rfl, Formatter.handle_derived hscope ds r, f.newline_not_mem_body ds r⟩
  · obtain ⟨added, hadded, hend, -, hexact⟩ := Handler.content?_handleEach hscope events h
    exact ⟨added, hadded, hend, hexact⟩

/-- A text line with line ends in its message, a value and the text of an error. -/
theorem one_line_per_record_quoted :
    let f : Formatter := ⟨.buffer 0, .text, 0, true, .empty⟩
    let ds : List Derivation := [.group "http", .attrs [⟨"agent", .str "a\nb"⟩]]
    let r : Record := ⟨⟨0, 0⟩, .warn, "x\ny", [⟨"cause", .error "\n"⟩], some ⟨"main.rs", 7⟩⟩
    f.scope = .empty ∧ f.Unbroken ds r ∧ ∃ body, newline ∉ body ∧
      f.sink.content? (((Handler.format f).derived ds).handle r (.initial 0 "")).2 =
        some (body ++ [newline]) := by
  intro f ds r
  have hf : f.Unbroken ds r := by
    refine .inr ⟨?_, ?_⟩
    · simp [ds, r, merged, placements, openGroups, placeAll, Attr.place, attrLeaves, Value.leaves]
    · rintro s ⟨⟩
      decide
  obtain ⟨line, body, rfl, hhandle, hbody⟩ := (one_line_per_record (f := f) rfl).1 ds r
  refine ⟨rfl, hf, body, hbody.mpr hf, ?_⟩
  rw [hhandle]
  rfl

/-- A line end in the name of an attribute ends a text line early: the one record becomes two
lines, of which the second may be made to look like any line. -/
theorem name_breaks_line :
    let f : Formatter := ⟨.buffer 0, .text, 0, false, .empty⟩
    let r : Record := ⟨⟨0, 0⟩, .info, "hi", [⟨"k\nx", .str "v"⟩], none⟩
    (f.sink.content? ((Handler.format f).handle r (.initial 0 "")).2).map (·.count newline) =
      some 2 := by
  decide +kernel

end LogPipeline
