import LogPipeline.Service.Basic
import Mathlib.Data.List.Nodup

/-!
# What becomes of the fields of an event

An event that gets through is one record, in which each of its fields should be found: the field
named `message` as the message, the others as attributes (`Event.KeptIn`). This is so exactly if the
message is given as a text, or as something of which only the text is known (`Event.Worded`). A
number, a truth value or an error of that name stays among the attributes, and the record has no
message (`events_kept_iff`).
-/

namespace LogPipeline

/-- An integer of more than 64 bits, of which only the text is passed on. -/
def FieldValue.wide (n : Int) : FieldValue := .shown (toString n)

/-- The attribute that a field becomes, of its name and its kind. -/
def attrOf (f : String × FieldValue) : Attr := ⟨f.1, f.2.value⟩

namespace Event

/-- A record tells all fields of an event: the one named `message` in words, whatever it holds, and
every other one by an attribute of its kind. -/
structure KeptIn (e : Event) (r : Record) : Prop where
  message : r.message = ((e.fields.find? (·.1 = "message")).map (·.2.value.text)).getD ""
  attrs : r.attrs = ⟨"target", .str e.target⟩ ::
    (e.fields.filter (·.1 ≠ "message")).map attrOf

/-- A field named `message` holds a text, or something of which only the text is known. -/
def Worded (e : Event) : Prop := ∀ f ∈ e.fields, f.1 = "message" → f.2.message?.isSome

end Event

/-- The logger that an event is forwarded to, which a service may have to make first. -/
def Forwarding.target (f : Forwarding) (s : Service) (w : World) : Logger × Service × World :=
  match f with
  | .fixed l => (l, s, w)
  | .active => s.logger w

variable {e : Event} {fields : List (String × FieldValue)}

namespace Event

/-! ## Delivery -/

theorem emit_eq (e : Event) (l : Logger) (w : World) : e.emit l w =
    if l.enabled e.level.level w then (l.handler.handle (e.record w.now) w).2 else w := by
  rw [emit, Logger.logRecord]
  split
  · rename_i h
    exact if_pos h
  · rfl

theorem source?_eq_some_iff {s : Source} :
    e.source? = some s ↔ e.file = some s.file ∧ e.line = some s.line := by
  obtain ⟨file, line⟩ := s
  unfold source?
  cases e.file with
  | none => simp
  | some _ => cases e.line <;> simp

/-! ## Fields by name -/

/-- Of fields with different names, at most one is named `message`. -/
theorem exists_message (hnames : (fields.map (·.1)).Nodup) :
    (∀ f ∈ fields, f.1 ≠ "message") ∨ ∃ before v after, fields = before ++ ("message", v) :: after ∧
      (∀ f ∈ before, f.1 ≠ "message") ∧ ∀ f ∈ after, f.1 ≠ "message" := by
  by_cases hmem : "message" ∈ fields.map (·.1)
  · obtain ⟨⟨name, v⟩, hf, rfl⟩ := List.mem_map.mp hmem
    obtain ⟨before, after, rfl⟩ := List.append_of_mem hf
    rw [List.map_append, List.map_cons, List.nodup_middle, List.nodup_cons, List.mem_append,
      not_or] at hnames
    refine .inr ⟨before, v, after, rfl, fun f hf heq => ?_, fun f hf heq => ?_⟩
    · exact hnames.1.1 (List.mem_map.mpr ⟨f, hf, heq⟩)
    · exact hnames.1.2 (List.mem_map.mpr ⟨f, hf, heq⟩)
  · exact .inl fun f hf heq => hmem (List.mem_map.mpr ⟨f, hf, heq⟩)

theorem messageOf?_of_ne {f : String × FieldValue} (h : f.1 ≠ "message") : messageOf? f = none :=
  if_neg h

theorem filterMap_others (h : ∀ f ∈ fields, f.1 ≠ "message") :
    fields.filterMap messageOf? = [] :=
  List.filterMap_eq_nil_iff.mpr fun f hf => messageOf?_of_ne (h f hf)

theorem filter_unspoken (h : ∀ f ∈ fields, f.1 ≠ "message") :
    fields.filter (fun f => (messageOf? f).isNone) = fields :=
  List.filter_eq_self.mpr fun f hf => by rw [messageOf?_of_ne (h f hf)]; rfl

theorem filter_others (h : ∀ f ∈ fields, f.1 ≠ "message") :
    fields.filter (·.1 ≠ "message") = fields :=
  List.filter_eq_self.mpr fun f hf => decide_eq_true (h f hf)

theorem text_of_message? : ∀ {v : FieldValue} {text : String}, v.message? = some text →
    v.value.text = text
  | .str _, _, rfl => rfl
  | .shown _, _, rfl => rfl

/-! ## The record -/

/-- Without a field named `message`, every field is an attribute. -/
theorem keptIn_of_others (h : ∀ f ∈ e.fields, f.1 ≠ "message") (now : Timestamp) :
    e.KeptIn (e.record now) ∧ e.Worded := by
  refine ⟨⟨?_, ?_⟩, fun f hf hname => absurd hname (h f hf)⟩
  · have hnone : e.fields.find? (·.1 = "message") = none :=
      List.find?_eq_none.mpr fun f hf => by simpa using h f hf
    simp only [record, message, filterMap_others h, hnone]
    rfl
  · simp only [record, attrs, filter_unspoken h, filter_others h]
    rfl

/-- With one, the fields in front of it and behind it are attributes, and it is one too unless it
gives the message. -/
theorem record_of_message {before after : List (String × FieldValue)} {v : FieldValue}
    (hfields : e.fields = before ++ ("message", v) :: after)
    (hbefore : ∀ f ∈ before, f.1 ≠ "message") (hafter : ∀ f ∈ after, f.1 ≠ "message")
    (now : Timestamp) :
    (e.record now).message = v.message?.getD "" ∧
    (e.record now).attrs = ⟨"target", .str e.target⟩ ::
      (before ++ (if v.message?.isNone then [("message", v)] else []) ++ after).map attrOf := by
  have hv : messageOf? ("message", v) = v.message? := if_pos rfl
  constructor
  · simp only [record, message, hfields, List.filterMap_append, List.filterMap_cons,
      filterMap_others hbefore, filterMap_others hafter, hv]
    cases v.message? <;> rfl
  · have hattrs : (e.record now).attrs = ⟨"target", .str e.target⟩ ::
        (e.fields.filter fun f => (messageOf? f).isNone).map attrOf := rfl
    rw [hattrs, hfields, List.filter_append, List.filter_cons, filter_unspoken hbefore,
      filter_unspoken hafter, hv]
    split <;> simp

/-- With a field named `message`, the record tells all exactly if the field gives the message. -/
theorem keptIn_of_message {before after : List (String × FieldValue)} {v : FieldValue}
    (hfields : e.fields = before ++ ("message", v) :: after)
    (hbefore : ∀ f ∈ before, f.1 ≠ "message") (hafter : ∀ f ∈ after, f.1 ≠ "message")
    (now : Timestamp) :
    (e.KeptIn (e.record now) ↔ v.message?.isSome) ∧ (e.Worded ↔ v.message?.isSome) := by
  obtain ⟨hmessage, hattrs⟩ := record_of_message hfields hbefore hafter now
  have hfind : e.fields.find? (·.1 = "message") = some ("message", v) := by
    rw [hfields, List.find?_append, List.find?_eq_none.mpr fun f hf => by simpa using hbefore f hf]
    rfl
  have hothers : e.fields.filter (·.1 ≠ "message") = before ++ after := by
    rw [hfields, List.filter_append, List.filter_cons, filter_others hbefore, filter_others hafter]
    rfl
  refine ⟨⟨fun h => ?_, fun h => ⟨?_, ?_⟩⟩, ?_, fun h f hf hname => ?_⟩
  · -- as an attribute it would be one too many
    have hcount := congrArg List.length (hattrs.symm.trans h.attrs)
    rw [hothers] at hcount
    cases hv : v.message? with
    | some _ => rfl
    | none => simp [hv] at hcount
  · obtain ⟨text, htext⟩ := Option.isSome_iff_exists.mp h
    rw [hmessage, hfind, htext, Option.map_some, text_of_message? htext]
  · obtain ⟨text, htext⟩ := Option.isSome_iff_exists.mp h
    rw [hattrs, hothers, htext]
    simp
  · exact fun h => h ("message", v) (by simp [hfields]) rfl
  · rw [hfields, List.mem_append, List.mem_cons] at hf
    rcases hf with hf | rfl | hf
    · exact absurd hname (hbefore f hf)
    · exact h
    · exact absurd hname (hafter f hf)

end Event

/-- **An event keeps its fields exactly if its message is worded.** An event whose fields have
different names is handed to the chain of the logger that it is forwarded to as one record, if that
logger is enabled for its level, and otherwise nothing happens. The record is of the time and of the
level of the event, and has its place if the whole of it is known. It has the field named `message`
for its message, whatever the field holds, and the target and then every other field in order for
its attributes, exactly if no number, truth value or error is named `message`. Where one is, it stays
among the attributes with all other fields, and the record has no message. -/
theorem events_kept_iff (f : Forwarding) (hnames : (e.fields.map (·.1)).Nodup) (s : Service)
    (w : World) :
    let l := (f.target s w).1
    let w' := (f.target s w).2.2
    (l.enabled e.level.level w' = false → f.emit e s w = (f.target s w).2) ∧
    (l.enabled e.level.level w' = true → ∃ r,
      f.emit e s w = ((f.target s w).2.1, (l.handler.handle r w').2) ∧
        r.timestamp = w'.now ∧ r.level = e.level.level ∧
        (∀ p, r.source = some p ↔ e.file = some p.file ∧ e.line = some p.line) ∧
        (e.KeptIn r ↔ e.Worded) ∧
        (¬e.Worded → r.message = "" ∧
          r.attrs = ⟨"target", .str e.target⟩ :: e.fields.map attrOf)) := by
  intro l w'
  have hemit : f.emit e s w = ((f.target s w).2.1, e.emit l w') := by
    cases f <;> rfl
  rw [hemit, Event.emit_eq]
  refine ⟨fun hoff => ?_, fun hon => ⟨e.record w'.now, ?_, rfl, rfl,
    fun p => Event.source?_eq_some_iff, ?_⟩⟩
  · rw [if_neg (Bool.eq_false_iff.mp hoff)]
  · rw [if_pos hon]
  · rcases Event.exists_message hnames with hothers | ⟨before, v, after, hfields, hbefore, hafter⟩
    · obtain ⟨hkept, hworded⟩ := Event.keptIn_of_others hothers w'.now
      exact ⟨iff_of_true hkept hworded, absurd hworded⟩
    · obtain ⟨hkept, hworded⟩ := Event.keptIn_of_message hfields hbefore hafter w'.now
      obtain ⟨hmessage, hattrs⟩ := Event.record_of_message hfields hbefore hafter w'.now
      refine ⟨hkept.trans hworded.symm, fun hnot => ?_⟩
      have hnone : v.message? = none := by simpa [hworded] using hnot
      rw [hmessage, hattrs, hnone, hfields]
      simp

/-- An event for the active logger of a service, with an integer of more than 64 bits and a message
that is known by its text only. -/
theorem events_kept_iff_forwarded :
    let e : Event := ⟨.trace, "app", some "main.rs", some 7, [("user", .str "root"),
      ("id", .wide 18446744073709551616), ("message", .shown "ready"), ("ok", .bool false)]⟩
    let s : Service := ⟨some ⟨⟨⟨0, .recorder ⟨0, .debug, none, []⟩⟩⟩, none⟩, 0, 1⟩
    (e.fields.map (·.1)).Nodup ∧ ∃ r,
      (Forwarding.active.emit e s (.initial 0 "")).2.received.find? 0 = some [⟨[], r⟩] ∧
        r.level = .debug ∧ r.message = "ready" ∧ r.source = some ⟨"main.rs", 7⟩ ∧
        r.attrs = [⟨"target", .str "app"⟩, ⟨"user", .str "root"⟩,
          ⟨"id", .str "18446744073709551616"⟩, ⟨"ok", .bool false⟩] := by
  intro e s
  have hnames : (e.fields.map (·.1)).Nodup := by decide
  obtain ⟨r, hemit, -, hlevel, hsource, hkept, -⟩ :=
    (events_kept_iff .active hnames s (.initial 0 "")).2 rfl
  have hworded : e.Worded := by
    simp [e, Event.Worded, FieldValue.message?]
  obtain ⟨hmessage, hattrs⟩ := hkept.mpr hworded
  refine ⟨hnames, r, ?_, hlevel, hmessage, (hsource _).mpr ⟨rfl, rfl⟩, hattrs⟩
  rw [hemit]
  rfl

/-- A number named `message` gives no message: it is left among the attributes. -/
theorem number_gives_no_message :
    let e : Event := ⟨.warn, "app", none, none, [("message", .int 5)]⟩
    let l : Logger := ⟨⟨0, .recorder ⟨0, .debug, none, []⟩⟩⟩
    let w : World := .initial 0 ""
    (e.fields.map (·.1)).Nodup ∧ l.enabled e.level.level w = true ∧ ∃ r,
      (e.emit l w).received.find? 0 = some [⟨[], r⟩] ∧ r.message = "" ∧
        r.attrs = [⟨"target", .str "app"⟩, ⟨"message", .int 5⟩] ∧ ¬e.KeptIn r :=
  ⟨by decide, rfl, _, rfl, rfl, rfl, fun h => nomatch h.attrs⟩

end LogPipeline
