import LogPipeline.Proofs.Record.Lines

/-!
# Which level tag is coloured

A line is coloured at one level tag, that of the most severe level whose tag occurs in it anywhere,
where it occurs first (`paint?_eq_some`). In the text line of a record the first level tag is
that of the record itself, right behind the time. It is the one that is coloured exactly if no tag
of a more severe level occurs in the line: in its message, a name, a value or a source
(`own_level_colored_iff`).
-/

namespace LogPipeline

open Text (newline)

theorem Level.lt_or_eq_or_gt (a b : Level) : a < b ∨ a = b ∨ b < a := by
  cases a <;> cases b <;> decide

theorem Level.lt_irrefl (a : Level) : ¬a < a := Nat.lt_irrefl a.rank

namespace Color

/-- A line in which the tag of a level, between two pieces of it, is coloured. -/
def marked (level : Level) (before after : Bytes) : Bytes :=
  before ++ code level ++ tag level ++ reset ++ after

variable {part line rest before after painted b a : Bytes} {level m : Level}

/-! ## First places -/

theorem splitAt?_eq_none_iff : splitAt? part line = none ↔ ¬part <:+: line := by
  induction line with
  | nil =>
    rw [splitAt?, List.infix_nil]
    cases part <;> simp
  | cons x line ih =>
    rw [splitAt?, List.infix_cons_iff, ← List.isPrefixOf_iff_prefix]
    split
    · simp [*]
    · simp [*]

/-- The place that is found is the first one. -/
theorem length_le_of_splitAt? (h : splitAt? part line = some (before, after))
    (heq : line = b ++ part ++ a) : before.length ≤ b.length := by
  induction line generalizing before b with
  | nil =>
    obtain ⟨hbefore, -⟩ := List.append_eq_nil_iff.mp
      (List.append_eq_nil_iff.mp (splitAt?_eq h).symm).1
    rw [hbefore]
    exact Nat.zero_le _
  | cons x line ih =>
    rw [splitAt?] at h
    split at h
    · obtain ⟨rfl, -⟩ := Prod.mk.inj (Option.some.inj h)
      exact Nat.zero_le _
    · rename_i hnot
      obtain ⟨⟨before', after'⟩, hrest, hpair⟩ := Option.map_eq_some_iff.mp h
      obtain ⟨rfl, rfl⟩ := Prod.mk.inj hpair
      cases b with
      | nil =>
        refine absurd (List.isPrefixOf_iff_prefix.mpr ?_) hnot
        exact ⟨a, heq.symm⟩
      | cons y b =>
        obtain ⟨-, hline⟩ := List.cons.inj heq
        exact Nat.succ_le_succ (ih hrest hline)

/-- The first place is found. -/
theorem splitAt?_of_first (heq : line = before ++ part ++ after)
    (hfirst : ∀ b a, line = b ++ part ++ a → before.length ≤ b.length) :
    splitAt? part line = some (before, after) := by
  cases hsplit : splitAt? part line with
  | none => exact absurd ⟨before, after, heq.symm⟩ (splitAt?_eq_none_iff.mp hsplit)
  | some pieces =>
    obtain ⟨b, a⟩ := pieces
    have hline := splitAt?_eq hsplit
    have hlength := Nat.le_antisymm (hfirst b a hline) (length_le_of_splitAt? hsplit heq)
    rw [heq, List.append_assoc, List.append_assoc] at hline
    obtain ⟨rfl, hrest⟩ := List.append_inj hline hlength
    rw [List.append_cancel_left hrest]

/-! ## Tags -/

/-- The octet that every tag begins with. -/
def initial : UInt8 := 0x6c

theorem exists_tag (level : Level) : ∃ tail, tag level = initial :: tail := by
  cases level <;> exact ⟨_, rfl⟩

/-- Tags of two levels do not begin at one place. -/
theorem level_eq_of_append (h : tag level ++ a = tag m ++ b) : level = m := by
  have hlong : ∀ level, 6 < (tag level).length := fun level => by cases level <;> decide +kernel
  have hletter := congrArg (·[6]?) h
  simp only [List.getElem?_append_left (hlong _)] at hletter
  revert hletter
  cases level <;> cases m <;> decide +kernel

/-- No tag begins among octets that do not hold the first one of a tag. -/
theorem exists_behind (hbefore : initial ∉ before) (hline : line = before ++ rest)
    (h : line = b ++ tag level ++ a) : ∃ b', b = before ++ b' ∧ rest = b' ++ tag level ++ a := by
  obtain ⟨tail, htail⟩ := exists_tag level
  rw [hline, List.append_assoc, List.append_eq_append_iff] at h
  rcases h with ⟨b', rfl, hrest⟩ | ⟨more, rfl, hmore⟩
  · exact ⟨b', rfl, by rw [hrest, List.append_assoc]⟩
  · cases more with
    | nil => exact ⟨[], by simp, by simpa using hmore.symm⟩
    | cons x more =>
      rw [htail, List.cons_append, List.cons_append] at hmore
      obtain ⟨rfl, -⟩ := List.cons.inj hmore
      exact absurd (List.mem_append_right b List.mem_cons_self) hbefore

/-- A tag that stands behind such octets is the first one of any level. -/
theorem length_le_of_tag (hbefore : initial ∉ before) (hline : line = before ++ tag level ++ after)
    (h : line = b ++ tag m ++ a) : before.length ≤ b.length := by
  rw [List.append_assoc] at hline
  obtain ⟨b', rfl, -⟩ := exists_behind hbefore hline h
  rw [List.length_append]
  exact Nat.le_add_right _ _

/-! ## Painting -/

theorem mem_order (level : Level) : level ∈ order := by cases level <;> decide

theorem order_descending : order.Pairwise (· > ·) := by decide

/-- **Which tag is coloured.** It is that of the most severe level that has one in the line, at its
first place. -/
theorem paint?_eq_some (h : paint? line = some painted) : ∃ level before after,
    splitAt? (tag level) line = some (before, after) ∧ (∀ m, level < m → ¬tag m <:+: line) ∧
      painted = marked level before after := by
  obtain ⟨worse, level, milder, horder, hlevel, hworse⟩ := List.findSome?_eq_some_iff.mp h
  obtain ⟨⟨before, after⟩, hsplit, rfl⟩ := Option.map_eq_some_iff.mp hlevel
  refine ⟨level, before, after, hsplit, fun m hm => ?_, rfl⟩
  have hmem := mem_order m
  have hdescending := order_descending
  rw [horder] at hmem hdescending
  have hmilder := (List.pairwise_cons.mp (List.pairwise_append.mp hdescending).2.1).1
  rcases List.mem_append.mp hmem with hmem | hmem
  · exact splitAt?_eq_none_iff.mp (Option.map_eq_none_iff.mp (hworse m hmem))
  · rcases List.mem_cons.mp hmem with rfl | hmem
    · exact absurd hm m.lt_irrefl
    · exact absurd (Nat.lt_trans hm (hmilder m hmem)) level.lt_irrefl

/-- A milder level in the message leaves the level of the line coloured. -/
example : paint? (Text.utf8 "level=WARN msg=\"level=INFO\"") =
    some (Text.utf8 "\x1b[33mlevel=WARN\x1b[0m msg=\"level=INFO\"") := by
  decide +kernel

/-- A line with a level tag is coloured. -/
theorem exists_paint? (h : tag level <:+: line) : ∃ painted, paint? line = some painted := by
  refine Option.ne_none_iff_exists'.mp fun hnone => ?_
  have hlevel := List.findSome?_eq_none_iff.mp hnone level (mem_order level)
  exact splitAt?_eq_none_iff.mp (Option.map_eq_none_iff.mp hlevel) h

/-- A line that comes out the same coloured at two tags, one behind `before` and one not before it,
is coloured at one place: the colour stands where the first octet of the tag was. -/
theorem eq_nil_of_marked_eq {b' : Bytes} (hrest : tag level ++ after = b' ++ tag m ++ a)
    (heq : marked m (before ++ b') a = marked level before after) : b' = [] := by
  cases b' with
  | nil => rfl
  | cons x b' =>
    obtain ⟨tail, htail⟩ := exists_tag level
    have htag : initial = x := by
      rw [htail, List.cons_append, List.cons_append, List.cons_append] at hrest
      exact (List.cons.inj hrest).1
    have hcode : x = 0x1b := by
      simp only [marked, List.append_assoc, List.cons_append] at heq
      have hnext := List.append_cancel_left heq
      cases level <;> exact (List.cons.inj hnext).1
    exact absurd (htag.trans hcode) (by decide)

/-- Where a level tag stands behind octets without the first one of a tag, the line is coloured there
exactly if the tag of no more severe level occurs in it. -/
theorem marked_iff (hbefore : initial ∉ before) (hline : line = before ++ tag level ++ after)
    (h : paint? line = some painted) :
    painted = marked level before after ↔ ∀ m, level < m → ¬tag m <:+: line := by
  have hown : splitAt? (tag level) line = some (before, after) :=
    splitAt?_of_first hline fun b a => length_le_of_tag hbefore hline
  obtain ⟨m, b, a, hsplit, hworst, rfl⟩ := paint?_eq_some h
  have hfound := splitAt?_eq hsplit
  constructor
  · intro heq
    obtain ⟨b', rfl, hrest⟩ :=
      exists_behind hbefore (hline.trans (List.append_assoc ..)) hfound
    obtain rfl := eq_nil_of_marked_eq hrest heq
    obtain rfl := level_eq_of_append hrest
    exact hworst
  · intro hmild
    obtain rfl : m = level := by
      rcases m.lt_or_eq_or_gt level with hlt | heq | hgt
      · exact absurd ⟨before, after, hline.symm⟩ (hworst level hlt)
      · exact heq
      · exact absurd ⟨b, a, hfound.symm⟩ (hmild m hgt)
    obtain ⟨rfl, rfl⟩ := Prod.mk.inj (Option.some.inj (hsplit.symm.trans hown))
    rfl

end Color

/-! ## Text lines -/

open Color

/-- What stands in a text line before the level. -/
def Record.stamped (r : Record) : String := "time=" ++ r.timestamp.text ++ " "

theorem Record.initial_not_mem_stamped (r : Record) : initial ∉ Text.utf8 r.stamped := by
  have htime : 'l' ∉ r.timestamp.text.toList := fun h =>
    absurd (Timestamp.mem_text h) (by decide)
  rw [show initial = UInt8.ofNat 'l'.toNat from rfl, Text.ascii_mem_utf8 (by decide)]
  simp [stamped, htime]

theorem Record.textLine_eq (r : Record) (addSource : Bool) (attrs : List Attr) :
    ∃ rest, r.textLine addSource attrs = r.stamped ++ ("level=" ++ r.level.tag) ++ rest := by
  have hlevel : (" level=" : String) = " " ++ "level=" := rfl
  unfold textLine stamped
  rw [hlevel]
  simp only [String.append_assoc]
  exact ⟨_, rfl⟩

/-- **When the record's own level is coloured.** Whatever has been bound and opened on the way, a
leaf that writes text to a colouring sink writes lines in which the first level tag of any level is
that of the record, behind the time. What it gives to the sink within is the line with one level tag
coloured, that of the most severe level of which there is one in the line; and that is the record's
own exactly if no tag of a more severe level occurs anywhere in the line. The write reports the
length of the plain line, or the failure of the sink within. -/
theorem own_level_colored_iff (number threshold : Nat) (inner : Sink) (addSource : Bool)
    (ds : List Derivation) (r : Record) :
    let f : Formatter := ⟨.colored number inner, .text, threshold, addSource, .empty⟩
    let line := ({ f with scope := ds.foldl Scope.derive f.scope } : Formatter).line r
    ∃ after painted, line = Text.utf8 r.stamped ++ tag r.level ++ after ∧
      (∀ level b a, line = b ++ tag level ++ a → (Text.utf8 r.stamped).length ≤ b.length) ∧
      (∃ level b a, line = b ++ tag level ++ a ∧ painted = marked level b a ∧
        ∀ m, level < m → ¬tag m <:+: line) ∧
      (painted = marked r.level (Text.utf8 r.stamped) after ↔
        ∀ m, r.level < m → ¬tag m <:+: line) ∧
      ∀ w, f.sink.write line w =
          ((inner.write painted w).1.map fun _ => line.length, (inner.write painted w).2) ∧
        ((Handler.format f).derived ds).handle r w =
          if w.allows threshold r.level then
            (((inner.write painted w).1.map fun _ => ()).mapError .io, (inner.write painted w).2)
          else (.ok (), w) := by
  intro f line
  have hbody : line = Text.utf8 (r.textLine addSource (merged ds r.attrs)) ++ [newline] :=
    Formatter.line_derived (f := f) rfl ds r
  clear_value line
  have hbefore := r.initial_not_mem_stamped
  obtain ⟨rest, hrest⟩ := r.textLine_eq addSource (merged ds r.attrs)
  have hline : line = Text.utf8 r.stamped ++ tag r.level ++ (Text.utf8 rest ++ [newline]) := by
    rw [hbody, hrest, Text.utf8_append, Text.utf8_append, ← List.append_assoc, tag]
  obtain ⟨painted, hpainted⟩ := exists_paint? ⟨_, _, hline.symm⟩
  have hwrite : ∀ w, f.sink.write line w =
      ((inner.write painted w).1.map fun _ => line.length, (inner.write painted w).2) := by
    intro w
    rw [Sink.write, hpainted]
  refine ⟨_, painted, hline, fun level b a => length_le_of_tag hbefore hline, ?_,
    marked_iff hbefore hline hpainted, fun w => ⟨hwrite w, ?_⟩⟩
  · obtain ⟨level, b, a, hsplit, hworst, hmarked⟩ := paint?_eq_some hpainted
    exact ⟨level, b, a, splitAt?_eq hsplit, hmarked, hworst⟩
  · rw [Formatter.handle_derived rfl, Encoding.body, ← hbody]
    dsimp only
    rw [hwrite]
    cases (inner.write painted w).1 <;> rfl

/-- A record of a level is coloured as one of another level that its message names. -/
theorem named_level_colored :
    let f : Formatter := ⟨.colored 1 (.buffer 0), .text, 0, false, .empty⟩
    let r : Record := ⟨⟨0, 0⟩, .info, "level=ERROR", [], none⟩
    let before := "time=1970-01-01T00:00:00.000Z "
    f.line r = Text.utf8 (before ++ "level=INFO msg=\"level=ERROR\"\n") ∧
      f.sink.content? ((Handler.format f).handle r (.initial 0 "")).2 =
        some (Text.utf8 (before ++ "level=INFO msg=\"\x1b[31mlevel=ERROR\x1b[0m\"\n")) ∧
      f.sink.content? ((Handler.format f).handle r (.initial 0 "")).2 ≠
        some (Text.utf8 (before ++ "\x1b[32mlevel=INFO\x1b[0m msg=\"level=ERROR\"\n")) := by
  decide +kernel

end LogPipeline
