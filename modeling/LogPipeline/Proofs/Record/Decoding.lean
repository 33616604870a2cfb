import LogPipeline.Proofs.Redaction.Stage
import LogPipeline.Proofs.Text.Quoted
import LogPipeline.Proofs.Text.Utf8
import LogPipeline.Proofs.Time.Stamp
import Mathlib.Data.List.Basic

/-!
# Reading a text line

A line of text can be read back (`text_decodable`): time, level, source and message, and each field
with its name and the text of its value. Values may hold whatever they like, for one that could be
misread is quoted. Of the names of attributes and groups it is asked that they hold no equals sign,
since they are never quoted, and of the source that it holds no space.
-/

namespace LogPipeline

/-- What a text line shows of a record. -/
structure Shown where
  time : String
  level : Level
  source : Option String
  message : String
  /-- Names, with those of the groups around them in front, and the texts of values. -/
  fields : List (String × String)
  deriving DecidableEq, Repr

mutual

/-- The attributes inside a value that are no groups, or the value itself. -/
def Value.leaves (path key : String) : Value → List (String × String)
  | .group attrs => attrLeaves (path ++ key ++ ".") attrs
  | value => [(path ++ key, value.text)]

/-- All attributes that are no groups, in order. -/
def attrLeaves (path : String) : List Attr → List (String × String)
  | [] => []
  | ⟨key, value⟩ :: rest => value.leaves path key ++ attrLeaves path rest

end

mutual

/-- No name inside the value holds an equals sign. -/
def Value.PlainNames : Value → Prop
  | .group attrs => LogPipeline.PlainNames attrs
  | _ => True

/-- No name of an attribute, at whatever depth, holds an equals sign. -/
def PlainNames : List Attr → Prop
  | [] => True
  | ⟨key, value⟩ :: rest => '=' ∉ key.toList ∧ value.PlainNames ∧ PlainNames rest

end

def Attr.PlainNames (a : Attr) : Prop := '=' ∉ a.key.toList ∧ a.value.PlainNames

def Derivation.PlainNames : Derivation → Prop
  | .attrs as => LogPipeline.PlainNames as
  | .group name => '=' ∉ name.toList

/-! ## The reader -/

namespace Shown

/-- What stands before the first place of a character, and the rest from there on. -/
def cut (stop : Char) (cs : List Char) : List Char × List Char :=
  (cs.takeWhile (· != stop), cs.dropWhile (· != stop))

/-- Reads a text as it stands in a line, quoted or bare. -/
def readText : List Char → Option (List Char × List Char)
  | '"' :: cs => Text.unquote .plain cs
  | cs => some (cut ' ' cs)

/-- Reads a name and the text behind the equals sign. -/
def readField (cs : List Char) : Option ((String × String) × List Char) :=
  match (cut '=' cs).2 with
  | [] => none
  | _ :: value => (readText value).map fun p =>
    ((String.ofList (cut '=' cs).1, String.ofList p.1), p.2)

theorem length_of_readText {cs text after : List Char} (h : readText cs = some (text, after)) :
    after.length ≤ cs.length := by
  unfold readText at h
  split at h
  · exact Nat.le_succ_of_le (Nat.le_of_lt (Text.length_of_unquote h))
  · obtain rfl : _ = after := congrArg Prod.snd (Option.some.inj h)
    exact (List.dropWhile_sublist _).length_le

theorem length_of_readField {cs after : List Char} {field : String × String}
    (h : readField cs = some (field, after)) : after.length < cs.length := by
  unfold readField at h
  have hdrop : (cut '=' cs).2.length ≤ cs.length := (List.dropWhile_sublist _).length_le
  split at h
  · cases h
  · rename_i value hvalue
    obtain ⟨p, hp, heq⟩ := Option.map_eq_some_iff.mp h
    obtain rfl : p.2 = after := congrArg Prod.snd heq
    have hread := length_of_readText hp
    rw [hvalue, List.length_cons] at hdrop
    omega

/-- Reads fields to the end, passing over the space before each. -/
def readFields : List Char → Option (List (String × String))
  | [] => some []
  | _ :: cs =>
    match h : readField cs with
    | none => none
    | some (field, after) =>
      have : after.length < cs.length + 1 := Nat.lt_succ_of_lt (length_of_readField h)
      (readFields after).map (field :: ·)
termination_by cs => cs.length

/-- Reads on behind a mark, if that is what comes next. -/
def expect (mark : String) (cs : List Char) : Option (List Char) := cs.dropPrefix? mark.toList

/-- Reads the source, if there is one. -/
def readSource (cs : List Char) : Option String × List Char :=
  match expect " source=" cs with
  | some cs => (some (String.ofList (cut ' ' cs).1), (cut ' ' cs).2)
  | none => (none, cs)

/-- Reads a line without its end. -/
def read? (cs : List Char) : Option Shown := do
  let cs ← expect "time=" cs
  let (time, cs) := cut ' ' cs
  let cs ← expect " level=" cs
  let (tag, cs) := cut ' ' cs
  let level ← Level.all.find? (·.tag == String.ofList tag)
  let (source, cs) := readSource cs
  let cs ← expect " msg=" cs
  let (message, cs) ← readText cs
  let fields ← readFields cs
  some ⟨String.ofList time, level, source, String.ofList message, fields⟩

/-- Reads the octets of a line. -/
def decode? (bytes : Bytes) : Option Shown := do
  let s ← Text.utf8Decode? bytes
  if s.toList.getLast? = some '\n' then read? s.toList.dropLast else none

end Shown

/-- What the text line of a record with the given attributes shows. -/
def Record.shown (r : Record) (addSource : Bool) (attrs : List Attr) : Shown :=
  ⟨r.timestamp.text, r.level, (r.shownSource addSource).map (·.text), r.message,
    attrLeaves "" attrs⟩

variable {attrs target : List Attr} {a : Attr} {path : String} {groups : List String}
  {ds : List Derivation} {rest : List Char}

/-! ## Texts and fields -/

namespace Shown

/-- Cutting gives back a text without the character, if that comes next or nothing does. -/
theorem cut_append {stop : Char} {word : List Char} (hword : stop ∉ word)
    (hrest : ∀ c ∈ rest.head?, c = stop) : cut stop (word ++ rest) = (word, rest) := by
  have hpass : ∀ c ∈ word, (c != stop) = true := by
    intro c hc
    rw [bne_iff_ne]
    rintro rfl
    exact hword hc
  rw [cut, List.takeWhile_append_of_pos hpass, List.dropWhile_append_of_pos hpass]
  cases rest with
  | nil => simp
  | cons c rest =>
    obtain rfl : c = stop := hrest c (by simp)
    simp

theorem not_mem_of_needsQuotes {s : String} (h : needsQuotes s = false) :
    s.toList ≠ [] ∧ ' ' ∉ s.toList ∧ '"' ∉ s.toList := by
  simp only [needsQuotes, Bool.or_eq_false_iff, List.any_eq_false, beq_iff_eq, not_or,
    Bool.or_eq_true] at h
  obtain ⟨hempty, hall⟩ := h
  refine ⟨by simpa using hempty, fun hs => ?_, fun hq => ?_⟩
  · exact (hall ' ' hs).1.1.1 (by decide)
  · exact (hall '"' hq).1.2 rfl

/-- A text is read back as it stands in a line, before a space or at the end. -/
theorem readText_fieldText (s : String) (hrest : ∀ c ∈ rest.head?, c = ' ') :
    readText ((fieldText s).toList ++ rest) = some (s.toList, rest) := by
  unfold fieldText
  split_ifs with h
  · have hquoted : (Text.quote s).toList ++ rest =
        '"' :: (s.toList.flatMap Text.escapeChar ++ '"' :: rest) := by
      simp [Text.quote]
    rw [hquoted, readText, Text.unquote_escaped]
  · obtain ⟨hne, hspace, hquote⟩ := not_mem_of_needsQuotes (Bool.eq_false_iff.mpr h)
    rw [readText, cut_append hspace hrest]
    intro cs hcs
    cases hs : s.toList with
    | nil => exact hne hs
    | cons c cs' =>
      rw [hs, List.cons_append, List.cons.injEq] at hcs
      exact hquote (hs ▸ hcs.1 ▸ List.mem_cons_self)

/-- A field as it stands in a line. -/
def fieldChars (field : String × String) : List Char :=
  ' ' :: field.1.toList ++ '=' :: (fieldText field.2).toList

theorem readField_fieldChars {field : String × String} (hname : '=' ∉ field.1.toList)
    (hrest : ∀ c ∈ rest.head?, c = ' ') :
    readField (field.1.toList ++ '=' :: (fieldText field.2).toList ++ rest) =
      some (field, rest) := by
  have hcut : cut '=' (field.1.toList ++ '=' :: (fieldText field.2).toList ++ rest) =
      (field.1.toList, '=' :: ((fieldText field.2).toList ++ rest)) := by
    rw [List.append_assoc]
    exact cut_append hname (by simp)
  simp only [readField, hcut, readText_fieldText field.2 hrest, Option.map_some,
    String.ofList_toList]

theorem head_flatMap_fieldChars (fields : List (String × String)) :
    ∀ c ∈ (fields.flatMap fieldChars).head?, c = ' ' := by
  cases fields with
  | nil => simp
  | cons field fields => simp [fieldChars]

/-- Fields are read back in order. -/
theorem readFields_fieldChars {fields : List (String × String)}
    (hnames : ∀ field ∈ fields, '=' ∉ field.1.toList) :
    readFields (fields.flatMap fieldChars) = some fields := by
  induction fields with
  | nil => rw [List.flatMap_nil, readFields]
  | cons field fields ih =>
    have hread := readField_fieldChars (hnames field (by simp)) (head_flatMap_fieldChars fields)
    rw [List.flatMap_cons, fieldChars, List.cons_append, List.cons_append, readFields]
    split
    · rename_i hnone
      rw [hread] at hnone
      cases hnone
    · rename_i other after hsome
      rw [hread] at hsome
      obtain ⟨rfl, rfl⟩ := Prod.mk.inj (Option.some.inj hsome)
      rw [ih fun field hf => hnames field (by simp [hf]), Option.map_some]

end Shown

mutual

theorem valueFields_eq (path key : String) : ∀ value : Value,
    (valueFields path key value).toList = (value.leaves path key).flatMap Shown.fieldChars
  | .group attrs => by
    rw [valueFields, Value.leaves]
    exact attrFields_eq _ attrs
  | .str _ | .int _ | .uint _ | .float _ | .bool _ | .duration _ | .error _ | .any _ => by
    simp [valueFields, Value.leaves, Shown.fieldChars]

/-- The fields of a line are those of the attributes that are no groups. -/
theorem attrFields_eq (path : String) : ∀ attrs : List Attr,
    (attrFields path attrs).toList = (attrLeaves path attrs).flatMap Shown.fieldChars
  | [] => rfl
  | ⟨key, value⟩ :: rest => by
    rw [attrFields, attrLeaves, String.toList_append, List.flatMap_append, valueFields_eq,
      attrFields_eq]

end

/-! ## Names -/

mutual

theorem Value.PlainNames.leaves {path key : String} (hpath : '=' ∉ path.toList)
    (hkey : '=' ∉ key.toList) : ∀ value : Value, value.PlainNames →
      ∀ field ∈ value.leaves path key, '=' ∉ field.1.toList
  | .group attrs, h => by
    rw [Value.leaves]
    refine PlainNames.leaves ?_ attrs h
    simp [hpath, hkey]
  | .str _, _ | .int _, _ | .uint _, _ | .float _, _ | .bool _, _ | .duration _, _ | .error _, _
  | .any _, _ => by
    simp [Value.leaves, hpath, hkey]

theorem PlainNames.leaves {path : String} (hpath : '=' ∉ path.toList) : ∀ attrs : List Attr,
    PlainNames attrs → ∀ field ∈ attrLeaves path attrs, '=' ∉ field.1.toList
  | [], _ => by simp [attrLeaves]
  | ⟨key, value⟩ :: rest, h => by
    obtain ⟨hkey, hvalue, hrest⟩ := h
    intro field hf
    rw [attrLeaves] at hf
    rcases List.mem_append.mp hf with hf | hf
    · exact Value.PlainNames.leaves hpath hkey value hvalue field hf
    · exact PlainNames.leaves hpath rest hrest field hf

end

theorem plainNames_cons {as : List Attr} :
    PlainNames (a :: as) ↔ a.PlainNames ∧ PlainNames as := by
  obtain ⟨key, value⟩ := a
  rw [PlainNames, Attr.PlainNames, and_assoc]

theorem plainNames_iff {as : List Attr} : PlainNames as ↔ ∀ a ∈ as, a.PlainNames := by
  induction as with
  | nil => simp [PlainNames]
  | cons a as ih => rw [plainNames_cons, ih, List.forall_mem_cons]

theorem Derivation.PlainNames.all {d : Derivation} (h : d.PlainNames) :
    d.All Attr.PlainNames ('=' ∉ ·.toList) := by
  cases d with
  | attrs as => exact plainNames_iff.mp h
  | group name => exact h

/-- Merging makes no name that was not there. -/
theorem PlainNames.merged (hds : ∀ d ∈ ds, d.PlainNames) (hattrs : PlainNames attrs) :
    PlainNames (merged ds attrs) :=
  plainNames_iff.mpr (merged_all (fun _ _ => and_congr_right fun _ => plainNames_iff)
    (fun d hd => (hds d hd).all) (plainNames_iff.mp hattrs))

/-! ## Lines -/

theorem Source.space_not_mem_text {s : Source} (h : ' ' ∉ s.file.toList) :
    ' ' ∉ s.text.toList := by
  have hline : ' ' ∉ Nat.toDigits 10 s.line := fun hspace =>
    absurd (Nat.isDigit_of_mem_toDigits (by decide) (by decide) hspace) (by decide)
  simp [text, h, hline]

theorem Level.find?_tag (level : Level) : Level.all.find? (·.tag == level.tag) = some level := by
  cases level <;> decide

theorem Level.space_not_mem_tag (level : Level) : ' ' ∉ level.tag.toList := by
  cases level <;> decide

namespace Shown

@[simp] theorem expect_append (mark : String) (cs : List Char) :
    expect mark (mark.toList ++ cs) = some cs :=
  List.dropPrefix?_append_of_beq cs (by simp)

theorem readSource_some {word : List Char} (hword : ' ' ∉ word)
    (hrest : ∀ c ∈ rest.head?, c = ' ') :
    readSource (" source=".toList ++ (word ++ rest)) = (some (String.ofList word), rest) := by
  rw [readSource, expect_append]
  simp only [cut_append hword hrest]

theorem readSource_none (cs : List Char) :
    readSource (" msg=".toList ++ cs) = (none, " msg=".toList ++ cs) := by
  have hother : expect " source=" (" msg=".toList ++ cs) = none := by
    simp [expect, List.dropPrefix?]
  rw [readSource, hother]

/-- A line is read back part by part. -/
theorem read?_parts {time message : String} (level : Level) {source : Option String}
    {fields : List (String × String)} {cs : List Char} (htime : ' ' ∉ time.toList)
    (hcs : ∀ c ∈ cs.head?, c = ' ')
    (hsource : readSource cs =
      (source, " msg=".toList ++ ((fieldText message).toList ++ fields.flatMap fieldChars)))
    (hfields : ∀ field ∈ fields, '=' ∉ field.1.toList) :
    read? ("time=".toList ++ (time.toList ++ (" level=".toList ++ (level.tag.toList ++ cs)))) =
      some ⟨time, level, source, message, fields⟩ := by
  have htime' : cut ' ' (time.toList ++ (" level=".toList ++ (level.tag.toList ++ cs))) =
      (time.toList, " level=".toList ++ (level.tag.toList ++ cs)) :=
    cut_append htime (by simp)
  have hmessage := readText_fieldText message (head_flatMap_fieldChars fields)
  simp only [read?, expect_append, htime', cut_append level.space_not_mem_tag hcs, hsource,
    hmessage, readFields_fieldChars hfields, Level.find?_tag, String.ofList_toList,
    Option.bind_eq_bind, Option.bind_some]

/-- A text line is read back. -/
theorem read?_textLine (r : Record) (addSource : Bool) (hattrs : PlainNames attrs)
    (hsource : ∀ s, r.shownSource addSource = some s → ' ' ∉ s.file.toList) :
    read? (r.textLine addSource attrs).toList = some (r.shown addSource attrs) := by
  have hfields : ∀ field ∈ attrLeaves "" attrs, '=' ∉ field.1.toList :=
    PlainNames.leaves (by simp) attrs hattrs
  obtain ⟨tail, htail⟩ : ∃ tail, tail = " msg=".toList ++
    ((fieldText r.message).toList ++ (attrLeaves "" attrs).flatMap fieldChars) := ⟨_, rfl⟩
  have hstart : ∀ c ∈ tail.head?, c = ' ' := by simp [htail]
  rw [Record.shown, Record.textLine]
  cases hs : r.shownSource addSource with
  | none =>
    have hnone : readSource tail = (none, tail) := htail ▸ readSource_none _
    have hparts := read?_parts r.level r.timestamp.space_not_mem_text hstart
      (hnone.trans (by rw [htail])) hfields
    rw [Option.map_none, ← hparts, htail, ← attrFields_eq]
    simp
  | some source =>
    have hword := Source.space_not_mem_text (hsource source hs)
    have hsome := readSource_some hword hstart
    have hparts := read?_parts r.level r.timestamp.space_not_mem_text (by simp)
      (hsome.trans (by rw [htail])) hfields
    rw [Option.map_some, ← String.ofList_toList (s := source.text), ← hparts, htail, ← attrFields_eq]
    simp

end Shown

theorem derived_format (ds : List Derivation) (f : Formatter) :
    (Handler.format f).derived ds = .format { f with scope := ds.foldl Scope.derive f.scope } := by
  induction ds generalizing f with
  | nil => rfl
  | cons d ds ih => exact ih { f with scope := f.scope.derive d }

theorem Shown.decode?_line (r : Record) (addSource : Bool) (hattrs : PlainNames attrs)
    (hsource : ∀ s, r.shownSource addSource = some s → ' ' ∉ s.file.toList) :
    decode? (Encoding.text.line r addSource attrs) = some (r.shown addSource attrs) := by
  have hchars : (r.textLine addSource attrs ++ "\n").toList =
      (r.textLine addSource attrs).toList ++ ['\n'] := by simp
  rw [Encoding.line, decode?, Text.utf8Decode?_utf8, Option.bind_eq_bind, Option.bind_some, hchars,
    List.getLast?_concat, if_pos rfl, List.dropLast_concat, read?_textLine r addSource hattrs hsource]

/-- Records with the same line show the same. -/
theorem Shown.eq_of_line_eq {r r' : Record} {addSource addSource' : Bool} {attrs' : List Attr}
    (hattrs : PlainNames attrs) (hattrs' : PlainNames attrs')
    (hsource : ∀ s, r.shownSource addSource = some s → ' ' ∉ s.file.toList)
    (hsource' : ∀ s, r'.shownSource addSource' = some s → ' ' ∉ s.file.toList)
    (h : Encoding.text.line r addSource attrs = Encoding.text.line r' addSource' attrs') :
    r.shown addSource attrs = r'.shown addSource' attrs' := by
  have hread := decode?_line r addSource hattrs hsource
  have hread' := decode?_line r' addSource' hattrs' hsource'
  rw [h, hread'] at hread
  exact (Option.some.inj hread).symm

/-- **Text lines are decodable.** However a stage that writes text is derived, the line that it
writes for a record tells the time, the level, the source if it is shown, the message, and of every
attribute that is no group the name, behind those of its groups, and the text of the value, in
order. This needs no more of the names than that they hold no equals sign, and of the file of a
source that is shown that it holds no space; messages and values may be any texts. -/
theorem text_decodable {f : Formatter} (hf : f.encoding = .text) (hscope : f.scope = .empty)
    (hds : ∀ d ∈ ds, d.PlainNames) {r : Record} (hr : PlainNames r.attrs)
    (hsource : ∀ s, r.shownSource f.addSource = some s → ' ' ∉ s.file.toList) :
    ∃ line,
      (∀ w, ((Handler.format f).derived ds).handle r w =
        if w.allows f.threshold r.level then
          (((f.sink.write line w).1.map fun _ => ()).mapError .io, (f.sink.write line w).2)
        else (.ok (), w)) ∧
      Shown.decode? line = some (r.shown f.addSource (merged ds r.attrs)) := by
  refine ⟨Encoding.text.line r f.addSource (merged ds r.attrs), fun w => ?_,
    Shown.decode?_line r f.addSource (hr.merged hds) hsource⟩
  rw [derived_format, Handler.handle, Formatter.handle, Formatter.line, hscope, hf, resolve_derived]

theorem text_decodable_awkward :
    let stage := (Handler.format ⟨.buffer 0, .text, 0, true, .empty⟩).derived
      [.group "http", .attrs [⟨"agent", .str "a=b \"c\" d"⟩]]
    let r : Record := ⟨⟨1709210096, 789123456⟩, .warn, "",
      [⟨"req", .group [⟨"note", .str "\n"⟩, ⟨"id", .int 7⟩]⟩], some ⟨"main.rs", 7⟩⟩
    ((stage.handle r (.initial 0 "")).2.buffers.find? 0).bind (Shown.decode? ·.content) =
      some ⟨"2024-02-29T12:34:56.789Z", .warn, some "main.rs:7", "",
        [("http.agent", "a=b \"c\" d"), ("http.req.note", "\n"), ("http.req.id", "7")]⟩ := by
  intro stage r
  let f : Formatter := ⟨.buffer 0, .text, 0, true, .empty⟩
  let ds : List Derivation := [.group "http", .attrs [⟨"agent", .str "a=b \"c\" d"⟩]]
  have hds : ∀ d ∈ ds, d.PlainNames := by
    simp [ds, Derivation.PlainNames, PlainNames, Value.PlainNames]
  have hr : PlainNames r.attrs := by simp [r, PlainNames, Value.PlainNames]
  have hsource : ∀ s, r.shownSource f.addSource = some s → ' ' ∉ s.file.toList := by
    rintro s ⟨⟩
    decide
  obtain ⟨line, hhandle, hline⟩ := text_decodable (f := f) rfl rfl hds hr hsource
  have hwritten : ((stage.handle r (.initial 0 "")).2.buffers.find? 0).bind
      (Shown.decode? ·.content) = Shown.decode? line := by
    rw [show stage = (Handler.format f).derived ds from rfl, hhandle]
    rfl
  have htime : Timestamp.text ⟨1709210096, 789123456⟩ = "2024-02-29T12:34:56.789Z" := by
    decide +kernel
  have hnumber : Nat.repr 7 = "7" := rfl
  rw [hwritten, hline]
  simp [Record.shown, r, f, ds, htime, Record.shownSource, merged, placements, openGroups, placeAll,
    Attr.place, attrLeaves, Value.leaves, Value.text, Source.text, Int.repr, hnumber]

end LogPipeline
