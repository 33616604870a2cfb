import LogPipeline.Handler.Stage
import LogPipeline.Proofs.Redaction.Stage
import LogPipeline.Proofs.Text.Boundary

/-!
# The attached call stack

A stage that attaches the call stack hands on every record that is severe enough with one attribute
more, the longest beginning of the call stack that there is room for (`longest_stack_attached`). It
is taken character by character (`StackRule.fit`); who sees only octets finds the same one by
stepping back from the cap (`LongestFit.truncate?_utf8`).
-/

namespace LogPipeline

open Text (utf8 truncate? isBoundary length_utf8)

/-- The longest beginning of a text that takes at most `room` octets. -/
structure LongestFit (text : String) (room : Nat) (front : String) : Prop where
  beginning : ∃ rest, text = front ++ rest
  fits : front.utf8ByteSize ≤ room
  longest : ∀ other rest, text = other ++ rest → other.utf8ByteSize ≤ room →
    other.utf8ByteSize ≤ front.utf8ByteSize
  whole : text.utf8ByteSize ≤ room → front = text

/-- The room for an attached call stack: a cap of zero stands for the usual one. -/
def roomOf (maxBytes : Nat) : Nat :=
  if maxBytes = 0 then StackRule.defaultMaxBytes else maxBytes

variable {room : Nat} {cs front : List Char}

/-! ## The longest beginning -/

namespace StackRule

theorem size_cons (c : Char) (cs : List Char) :
    (String.ofList (c :: cs)).utf8ByteSize = c.utf8Size + (String.ofList cs).utf8ByteSize := by
  rw [String.ofList_cons, String.utf8ByteSize_append, String.utf8ByteSize_singleton]

/-- What is kept has room. -/
theorem size_fit (room : Nat) (cs : List Char) :
    (String.ofList (fit room cs)).utf8ByteSize ≤ room := by
  induction cs generalizing room with
  | nil => simp [fit]
  | cons c cs ih =>
    rw [fit]
    split
    · rename_i hc
      have hrest := ih (room - c.utf8Size)
      rw [size_cons]
      omega
    · simp

theorem fit_isPrefix (room : Nat) (cs : List Char) : fit room cs <+: cs := by
  induction cs generalizing room with
  | nil => exact List.nil_prefix
  | cons c cs ih =>
    rw [fit]
    split
    · exact List.prefix_cons_inj c |>.mpr (ih _)
    · exact List.nil_prefix

/-- Every beginning that there is room for is kept. -/
theorem isPrefix_fit (hfront : front <+: cs) (hsize : (String.ofList front).utf8ByteSize ≤ room) :
    front <+: fit room cs := by
  induction front generalizing room cs with
  | nil => exact List.nil_prefix
  | cons c front ih =>
    obtain ⟨rest, rfl⟩ := hfront
    rw [size_cons] at hsize
    rw [List.cons_append, fit, if_pos (by omega)]
    exact List.prefix_cons_inj c |>.mpr (ih (List.prefix_append front rest) (by omega))

end StackRule

/-- What the stage keeps is the longest beginning. -/
theorem longestFit_fit (text : String) (room : Nat) :
    LongestFit text room (String.ofList (StackRule.fit room text.toList)) where
  beginning := by
    obtain ⟨rest, hrest⟩ := StackRule.fit_isPrefix room text.toList
    exact ⟨String.ofList rest, by rw [← String.ofList_append, hrest, String.ofList_toList]⟩
  fits := StackRule.size_fit room text.toList
  longest := by
    rintro other rest rfl hsize
    have hsize' : (String.ofList other.toList).utf8ByteSize ≤ room := by rwa [String.ofList_toList]
    obtain ⟨more, hmore⟩ :=
      StackRule.isPrefix_fit (List.prefix_append other.toList rest.toList) hsize'
    rw [String.toList_append, ← hmore, String.ofList_append, String.utf8ByteSize_append,
      String.ofList_toList]
    exact Nat.le_add_right _ _
  whole := by
    intro hsize
    have hall : text.toList <+: StackRule.fit room text.toList :=
      StackRule.isPrefix_fit (List.prefix_refl _) (by rwa [String.ofList_toList])
    have hsame := (StackRule.fit_isPrefix room text.toList).eq_of_length_le hall.length_le
    rw [hsame, String.ofList_toList]

/-- The longest beginning is where stepping back in the octets leads. -/
theorem LongestFit.truncate?_utf8 {text front : String} (h : LongestFit text room front) :
    truncate? (utf8 text) room = some (utf8 front) := by
  rw [truncate?, length_utf8]
  split
  · rename_i hsize
    rw [h.whole hsize]
  · obtain ⟨rest, rfl⟩ := h.beginning
    obtain ⟨j, hj, hle, hboundary, hnearest⟩ := Text.stepBack_spec (utf8 (front ++ rest)) room
    obtain ⟨before, after, htext, rfl⟩ := Text.isBoundary_utf8.mp hboundary
    have hfront : isBoundary (utf8 (front ++ rest)) (utf8 front).length = true :=
      Text.isBoundary_utf8.mpr ⟨front, rest, rfl, rfl⟩
    -- where stepping back leads is neither behind the end of `front` nor before it
    have hbefore := h.longest before after htext (by rwa [← length_utf8])
    have hbehind := hnearest _ (by rw [length_utf8]; exact h.fits) hfront
    have hlength : (utf8 before).length = (utf8 front).length := by
      simp only [length_utf8] at hbehind ⊢
      omega
    rw [hj, Option.map_some, hlength, Text.utf8_append, List.take_left]

/-! ## The stage -/

theorem roomOf_ne_zero (maxBytes : Nat) : roomOf maxBytes ≠ 0 := by
  unfold roomOf
  split
  · decide
  · assumption

theorem attachStack_some (next : Handler) (level : Level) (maxBytes : Nat) :
    next.attachStack (some level) maxBytes = .stack ⟨level, roomOf maxBytes⟩ next :=
  rfl

theorem derived_stack (ds : List Derivation) (rule : StackRule) (next : Handler) :
    (Handler.stack rule next).derived ds = .stack rule (next.derived ds) := by
  induction ds generalizing next with
  | nil => rfl
  | cons d ds ih => exact ih (next.derive d)

/-- Deriving a stage is attaching the call stack anew to what is derived of the handler behind it:
the threshold stays, and so does the cap. -/
theorem derived_attachStack (next : Handler) (level : Level) (maxBytes : Nat)
    (ds : List Derivation) :
    (next.attachStack (some level) maxBytes).derived ds =
      (next.derived ds).attachStack (some level) (roomOf maxBytes) := by
  have hroom : roomOf (roomOf maxBytes) = roomOf maxBytes := if_neg (roomOf_ne_zero maxBytes)
  rw [attachStack_some, attachStack_some, derived_stack, hroom]

/-- **A severe record carries as much of the call stack as there is room for.** Without a threshold
nothing is put in front of a handler, not even as an object. With one, and whatever has been bound
and opened since, the stage has the same threshold and the same cap over the handler derived in the
same way, and hands to it every record: a milder one as it is, and one that reaches the threshold
with one attribute more, the last one. It is named `stack` and holds the longest beginning of the
call stack that fits the cap, the call stack itself if all of it does. In the octets it ends where
stepping back from the cap leads, which it does without going below zero. -/
theorem longest_stack_attached (next : Handler) (level : Level) (maxBytes : Nat)
    (ds : List Derivation) :
    next.attachStack none maxBytes = next ∧
    (∀ (stage : Stage) (w : World), stage.attachStack none maxBytes w = (stage, w)) ∧
    (next.attachStack (some level) maxBytes).derived ds =
      (next.derived ds).attachStack (some level) (roomOf maxBytes) ∧
    ∀ w : World, ∃ text, LongestFit w.callStack (roomOf maxBytes) text ∧
      truncate? (utf8 w.callStack) (roomOf maxBytes) = some (utf8 text) ∧
      ∀ r : Record, ((next.attachStack (some level) maxBytes).derived ds).handle r w =
        (next.derived ds).handle
          (if r.level < level then r else { r with attrs := r.attrs ++ [⟨"stack", .str text⟩] })
          w := by
  refine ⟨rfl, fun stage w => rfl, derived_attachStack next level maxBytes ds, fun w => ?_⟩
  have hfit := longestFit_fit w.callStack (roomOf maxBytes)
  refine ⟨_, hfit, hfit.truncate?_utf8, fun r => ?_⟩
  rw [attachStack_some, derived_stack, Handler.handle, StackRule.augment]
  rfl

/-- The cap falls within the second of two characters of two octets each. -/
example : (StackRule.fit 3 "éé".toList, truncate? (utf8 "éé") 3) = (['é'], some (utf8 "é")) := by
  decide

end LogPipeline
