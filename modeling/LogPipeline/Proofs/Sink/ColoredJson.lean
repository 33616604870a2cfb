import Mathlib.Data.Bool.AllAny
import LogPipeline.Proofs.Json.Controls
import LogPipeline.Proofs.Record.JsonDecoding
import LogPipeline.Proofs.Sink.Color
import LogPipeline.Proofs.Text.Pieces

/-!
# JSON lines at a colouring sink

A colouring sink does not know what it is given. A JSON line goes through it as it is exactly if no
level tag occurs in it, and what comes out of it is JSON in no other case: the codes of a colour
begin with a control character, which no JSON text holds (`json_line_untouched_iff`).
-/

namespace LogPipeline

open Text (newline)

namespace Color

/-- The text that names a level in a line. -/
def tagText (level : Level) : String := "level=" ++ level.tag

/-- The text that switches to the colour of a level. -/
def codeText : Level → String
  | .error => "\x1b[31m"
  | .warn => "\x1b[33m"
  | .info => "\x1b[32m"
  | .debug => "\x1b[90m"

/-- A text in which the tag of a level, between two pieces of it, is coloured. -/
def markedText (level : Level) (before after : String) : String :=
  before ++ codeText level ++ tagText level ++ "\x1b[0m" ++ after

variable {level : Level} {before after body : String}

theorem tagText_ascii (level : Level) : ∀ c ∈ (tagText level).toList, c.toNat < 0x80 := by
  cases level <;> exact List.all_iff_forall_prop.mp (by decide)

theorem tagText_ne (level : Level) : tagText level ≠ "" := by cases level <;> decide

theorem newline_not_mem_tagText (level : Level) : '\n' ∉ (tagText level).toList := by
  cases level <;> decide

theorem utf8_tagText (level : Level) : Text.utf8 (tagText level) = tag level := rfl

theorem marked_utf8 (level : Level) (before after : String) :
    marked level (Text.utf8 before) (Text.utf8 after) = Text.utf8 (markedText level before after) := by
  have hcode : code level = Text.utf8 (codeText level) := by cases level <;> rfl
  rw [marked, markedText, hcode, reset, ← utf8_tagText, Text.utf8_append, Text.utf8_append,
    Text.utf8_append, Text.utf8_append]

/-- The control character that every colour begins with. -/
def escape : Char := '\x1b'

theorem stray_escape : Json.Stray escape := ⟨by decide, by decide⟩

theorem escape_mem_markedText (level : Level) (before after : String) :
    escape ∈ (markedText level before after).toList := by
  have hcode : escape ∈ (codeText level).toList := by cases level <;> decide
  simp [markedText, hcode]

/-- Where a level tag stands in the octets of a line, the text of the line can be cut around it. -/
theorem exists_pieces_of_line {b a : Bytes}
    (h : Text.utf8 body ++ [newline] = b ++ tag level ++ a) :
    ∃ before after, body = before ++ tagText level ++ after ∧ Text.utf8 before = b ∧
      Text.utf8 after ++ [newline] = a := by
  have hline : Text.utf8 (body ++ "\n") = b ++ Text.utf8 (tagText level) ++ a := by
    rw [Text.utf8_append]
    exact h
  obtain ⟨before, rest, hcut, hbefore, hrest⟩ :=
    Text.exists_pieces (tagText_ascii level) (tagText_ne level) hline
  replace hcut := congrArg String.toList hcut
  rw [String.toList_append, String.toList_append] at hcut
  -- the end of the line is behind the tag
  rcases List.eq_nil_or_concat rest.toList with hnil | ⟨init, last, hlast⟩
  · rw [hnil, List.append_nil, String.toList_append] at hcut
    rcases List.eq_nil_or_concat (tagText level).toList with hempty | ⟨init, last, htag⟩
    · exact absurd (String.toList_eq_nil_iff.mp hempty) (tagText_ne level)
    · rw [htag, List.concat_eq_append, ← List.append_assoc] at hcut
      obtain ⟨-, hend⟩ := List.append_inj' hcut rfl
      refine absurd ?_ (newline_not_mem_tagText level)
      rw [htag, List.concat_eq_append, ← hend]
      exact List.mem_append_right _ List.mem_cons_self
  · rw [hlast, List.concat_eq_append, ← List.append_assoc] at hcut
    obtain ⟨hbody, hend⟩ := List.append_inj' hcut rfl
    refine ⟨before, String.ofList init, ?_, hbefore, ?_⟩
    · rw [← String.toList_inj, hbody]
      simp
    · rw [← hrest, Text.utf8, Text.utf8, hlast, String.toList_ofList, List.concat_eq_append,
        List.flatMap_append, ← hend]
      rfl

/-- A level tag stands in the octets of a line exactly if it stands in its text. -/
theorem tag_infix_iff :
    tag level <:+: Text.utf8 body ++ [newline] ↔ (tagText level).toList <:+: body.toList := by
  constructor
  · rintro ⟨b, a, h⟩
    obtain ⟨before, after, rfl, -, -⟩ := exists_pieces_of_line h.symm
    exact ⟨before.toList, after.toList, by simp⟩
  · intro h
    have hoctets := (Text.utf8_infix_iff (tagText_ascii level) (tagText_ne level)).mpr h
    exact hoctets.trans (List.prefix_append _ _).isInfix

/-- What becomes of the line of a text: where it has a level tag, a colour is put into the text. -/
theorem paint?_line (body : String) :
    (∀ level, ¬(tagText level).toList <:+: body.toList) ∧
        paint? (Text.utf8 body ++ [newline]) = none ∨
      ∃ level before after, body = before ++ tagText level ++ after ∧
        (∀ m, level < m → ¬(tagText m).toList <:+: body.toList) ∧
        paint? (Text.utf8 body ++ [newline]) =
          some (Text.utf8 (markedText level before after) ++ [newline]) := by
  cases hpaint : paint? (Text.utf8 body ++ [newline]) with
  | none =>
    refine .inl ⟨fun level htag => ?_, rfl⟩
    obtain ⟨painted, hpainted⟩ := exists_paint? (tag_infix_iff.mpr htag)
    rw [hpaint] at hpainted
    contradiction
  | some painted =>
    obtain ⟨level, b, a, hsplit, hworst, rfl⟩ := paint?_eq_some hpaint
    obtain ⟨before, after, hbody, rfl, rfl⟩ := exists_pieces_of_line (splitAt?_eq hsplit)
    refine .inr ⟨level, before, after, hbody, fun m hm htag => ?_, ?_⟩
    · exact hworst m hm (tag_infix_iff.mpr htag)
    · rw [← marked_utf8, marked, marked, List.append_assoc _ (Text.utf8 after)]

end Color

/-! ## JSON lines -/

open Color

/-- A colouring sink gives the sink within one line, painted or as it is, and succeeds as that does.
-/
theorem Sink.write_colored (number : Nat) (inner : Sink) (bytes : Bytes) (w : World) :
    let sent := (paint? bytes).getD bytes
    (((Sink.colored number inner).write bytes w).1.map fun _ => ()) =
        ((inner.write sent w).1.map fun _ => ()) ∧
      ((Sink.colored number inner).write bytes w).2 = (inner.write sent w).2 := by
  rw [Sink.write]
  cases paint? bytes with
  | none => exact ⟨rfl, rfl⟩
  | some painted =>
    refine ⟨?_, rfl⟩
    dsimp only [Option.getD_some]
    cases (inner.write painted w).1 <;> rfl

/-- **When a JSON line is left alone.** Whatever has been bound and opened on the way, a leaf that
writes JSON to a colouring sink gives the sink within one line for a record that passes its
threshold. That line is the plain one exactly if no level tag occurs in the JSON text of the record.
Otherwise a colour is put around the first tag of the most severe level that has one, and the line
is no JSON any more: a reader gets from it what the plain line says exactly if it is the plain line.
-/
theorem json_line_untouched_iff (number threshold : Nat) (inner : Sink) (addSource : Bool)
    (ds : List Derivation) (r : Record) :
    let f : Formatter := ⟨.colored number inner, .json, threshold, addSource, .empty⟩
    let plain := (r.jsonObject addSource (merged ds r.attrs)).compact
    let untagged := ∀ level, ¬(tagText level).toList <:+: plain.toList
    ({ f with scope := ds.foldl Scope.derive f.scope } : Formatter).line r =
        Text.utf8 plain ++ [newline] ∧
      ∃ sent : String,
        (∀ w, ((Handler.format f).derived ds).handle r w =
          if w.allows threshold r.level then
            let written := inner.write (Text.utf8 sent ++ [newline]) w
            ((written.1.map fun _ => ()).mapError .io, written.2)
          else (.ok (), w)) ∧
        (sent = plain ↔ untagged) ∧
        (∀ j, Json.parse? sent = some j ↔ untagged ∧ Json.parse? plain = some j) ∧
        (∀ j, Json.decode? (Text.utf8 sent) = some j ↔
          untagged ∧ Json.decode? (Text.utf8 plain) = some j) ∧
        (¬untagged → ∃ level before after, plain = before ++ tagText level ++ after ∧
          sent = markedText level before after ∧
          ∀ m, level < m → ¬(tagText m).toList <:+: plain.toList) := by
  intro f plain untagged
  have hhandle : ∀ (sent : Bytes), (paint? (Text.utf8 plain ++ [newline])).getD
      (Text.utf8 plain ++ [newline]) = sent → ∀ w, ((Handler.format f).derived ds).handle r w =
        if w.allows threshold r.level then
          (((inner.write sent w).1.map fun _ => ()).mapError .io, (inner.write sent w).2)
        else (.ok (), w) := by
    rintro _ rfl w
    obtain ⟨hresult, hstate⟩ := Sink.write_colored number inner (Text.utf8 plain ++ [newline]) w
    rw [Formatter.handle_derived (f := f) rfl ds r, ← hresult, ← hstate]
    rfl
  refine ⟨Formatter.line_derived (f := f) rfl ds r, ?_⟩
  rcases paint?_line plain with ⟨huntagged, hpaint⟩ | ⟨level, before, after, hplain, hworst, hpaint⟩
  · refine ⟨plain, hhandle _ (by rw [hpaint, Option.getD_none]), ⟨fun _ => huntagged, fun _ => rfl⟩,
      fun j => ?_, fun j => ?_, fun h => absurd huntagged h⟩
    · exact ⟨fun h => ⟨huntagged, h⟩, And.right⟩
    · exact ⟨fun h => ⟨huntagged, h⟩, And.right⟩
  · have htagged : ¬untagged := fun h => h level ⟨before.toList, after.toList, by simp [hplain]⟩
    have hescape := escape_mem_markedText level before after
    have hrefused := stray_escape.parse?_eq_none hescape
    have hchanged : markedText level before after ≠ plain := by
      intro heq
      rw [heq] at hescape
      exact absurd (Json.space_le_of_mem_compact _ _ hescape) (by decide)
    refine ⟨markedText level before after, hhandle _ (by rw [hpaint, Option.getD_some]),
      ⟨fun h => absurd h hchanged, fun h => absurd h htagged⟩, fun j => ?_, fun j => ?_,
      fun _ => ⟨level, before, after, hplain, rfl, hworst⟩⟩
    · simp [Json.parse?, hrefused, htagged]
    · simp [Json.decode?, Text.utf8Decode?_utf8, hrefused, htagged]

/-- A message that names a level in the way of a text line is coloured, and the line is no JSON. -/
theorem named_level_breaks_json :
    let f : Formatter := ⟨.colored 1 (.buffer 0), .json, 0, false, .empty⟩
    let r : Record := ⟨⟨0, 0⟩, .info, "level=ERROR", [], none⟩
    let before := "\x7b\"time\":\"1970-01-01T00:00:00.000Z\",\"level\":\"INFO\",\"msg\":\""
    f.line r = Text.utf8 (before ++ "level=ERROR\"\x7d\n") ∧
      f.sink.content? ((Handler.format f).handle r (.initial 0 "")).2 =
        some (Text.utf8 (before ++ "\x1b[31mlevel=ERROR\x1b[0m\"\x7d\n")) ∧
      f.sink.content? ((Handler.format f).handle r (.initial 0 "")).2 ≠ some (f.line r) := by
  decide +kernel

end LogPipeline
