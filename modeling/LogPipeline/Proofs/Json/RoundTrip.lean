import LogPipeline.Json.Parser
import LogPipeline.Proofs.Json.Printer
import LogPipeline.Proofs.Text.Utf8

/-!
# Reading JSON text back

The compact text of a value without floating point numbers is read as that value, with the members
of objects in their order and repeated names kept (`decode?_compact`). The grammar comes first: the
text parses to `written`, whatever stands behind it that can close or continue a list or an object
(`takeValue_compact`). What the written form is worth depends on how numbers are read: exactly, or as
`parse?` does, which gives the same where every integer fits into 64 bits.
-/

namespace LogPipeline.Json

/-! ## Values -/

mutual

/-- There is no floating point number in the value, and all integers in it have a property. -/
def Whole (P : Int → Prop) : Json → Prop
  | .int n => P n
  | .float _ => False
  | .arr elements => WholeElements P elements
  | .obj members => WholeMembers P members
  | _ => True

def WholeElements (P : Int → Prop) : List Json → Prop
  | [] => True
  | j :: rest => j.Whole P ∧ WholeElements P rest

def WholeMembers (P : Int → Prop) : List (String × Json) → Prop
  | [] => True
  | (_, j) :: rest => j.Whole P ∧ WholeMembers P rest

end

/-- There is no floating point number in the value. -/
def NoFloat (j : Json) : Prop := j.Whole fun _ => True

mutual

/-- How many lists and objects stand around the innermost value. -/
def depth : Json → Nat
  | .arr elements => depthElements elements + 1
  | .obj members => depthMembers members + 1
  | _ => 0

def depthElements : List Json → Nat
  | [] => 0
  | j :: rest => max j.depth (depthElements rest)

def depthMembers : List (String × Json) → Nat
  | [] => 0
  | (_, j) :: rest => max j.depth (depthMembers rest)

end

/-! ## Written forms -/

/-- The control characters that are written by a letter of their own. -/
def lettered : List Char := ['\x08', '\t', '\n', '\x0c', '\r']

/-- A character of a string as it is written: by its number if it is a control character without
a letter. -/
def partOf (c : Char) : TextPart :=
  if c.toNat < 0x20 ∧ c ∉ lettered then .unit c.toNat else .char c

def partsOf (s : String) : List TextPart := s.toList.map partOf

/-- An integer as it is written. -/
def numberOf (n : Int) : NumberText :=
  ⟨decide (n < 0), (Nat.toDigits 10 n.natAbs).map (·.toNat - 48), none, none⟩

mutual

/-- What the grammar makes of the compact text of a value without floating point numbers. -/
def written : Json → Written
  | .null | .float _ => .null
  | .bool b => .bool b
  | .int n => .number (numberOf n)
  | .str s => .text (partsOf s)
  | .arr elements => .list (writtenElements elements)
  | .obj members => .record (writtenMembers members)

def writtenElements : List Json → List Written
  | [] => []
  | j :: rest => j.written :: writtenElements rest

def writtenMembers : List (String × Json) → List (List TextPart × Written)
  | [] => []
  | (name, j) :: rest => (partsOf name, j.written) :: writtenMembers rest

end

/-! ## Exact reading -/

section

variable (number : NumberText → Option Json)

mutual

/-- The value of a text whose numbers are read in the given way. -/
def Written.valueBy : Written → Option Json
  | .null => some .null
  | .bool b => some (.bool b)
  | .number t => number t
  | .text parts => (string? parts).map .str
  | .list elements => (elementsBy elements).map .arr
  | .record members => (membersBy members).map .obj

def elementsBy : List Written → Option (List Json)
  | [] => some []
  | w :: rest => do return (← w.valueBy) :: (← elementsBy rest)

def membersBy : List (List TextPart × Written) → Option (List (String × Json))
  | [] => some []
  | (name, w) :: rest => do return (← string? name, ← w.valueBy) :: (← membersBy rest)

end

end

/-- The value of a number, which is an integer of any size if it has neither point nor exponent. -/
def NumberText.exactValue? (t : NumberText) : Option Json :=
  if t.fraction.isSome || t.exponent.isSome then t.value?
  else some (.int (if t.negative then -digitsValue t.whole else digitsValue t.whole))

/-- Reads the octets of a JSON value, integers of any size exactly. -/
def decode? (bytes : Bytes) : Option Json := do
  let s ← Text.utf8Decode? bytes
  let w ← Written.parse? s
  if w.depth < depthLimit then w.valueBy NumberText.exactValue? else none

variable {c : Char} {j : Json} {rest : List Char} {P : Int → Prop}

/-! ## Strings -/

theorem takeText_plain (hquote : c ≠ '"') (hslash : c ≠ '\\') (hlow : ¬c.toNat < 0x20)
    (rest : List Char) :
    takeText (c :: rest) = (takeText rest).map fun p => (.char c :: p.1, p.2) := by
  rw [takeText]
  · rw [if_neg (by simp [hlow, hslash])]
    cases takeText rest <;> rfl
  · exact fun h => hquote h
  · exact fun _ _ _ _ _ h _ => hslash h
  · exact fun _ _ h _ => hslash h

theorem hexDigit?_digitChar : ∀ d < 16, hexDigit? d.digitChar = some d := by decide

theorem escapeByNumber_eq (h : c.toNat < 0x20) : escapeByNumber c =
    ['\\', 'u', '0', '0', (c.toNat / 16).digitChar, (c.toNat % 16).digitChar] := by
  have hall : ∀ n < 0x20, escapeByNumber (Char.ofNat n) =
      ['\\', 'u', '0', '0', (n / 16).digitChar, (n % 16).digitChar] := by decide +kernel
  simpa using hall c.toNat h

theorem takeText_escapeByNumber (h : c.toNat < 0x20) (rest : List Char) :
    takeText (escapeByNumber c ++ rest) =
      (takeText rest).map fun p => (.unit c.toNat :: p.1, p.2) := by
  have hzero : hexDigit? '0' = some 0 := by decide
  have hhigh := hexDigit?_digitChar (c.toNat / 16) (by omega)
  have hlow := hexDigit?_digitChar (c.toNat % 16) (by omega)
  have hvalue : ((0 * 16 + 0) * 16 + c.toNat / 16) * 16 + c.toNat % 16 = c.toNat := by omega
  rw [escapeByNumber_eq h]
  simp only [List.cons_append, List.nil_append, takeText, hzero, hhigh, hlow, Option.bind_eq_bind,
    Option.bind_some, hvalue]
  cases takeText rest <;> rfl

theorem takeText_escapeChar (c : Char) (rest : List Char) :
    takeText (escapeChar c ++ rest) = (takeText rest).map fun p => (partOf c :: p.1, p.2) := by
  unfold escapeChar
  split
  case h_8 hquote hslash hb ht hn hf hr =>
    split
    · rename_i hlow
      have hpart : partOf c = .unit c.toNat := by
        have hletter : c ∉ lettered := by
          simpa [lettered] using ⟨hb, ht, hn, hf, hr⟩
        rw [partOf, if_pos ⟨hlow, hletter⟩]
      rw [takeText_escapeByNumber hlow, hpart]
    · rename_i hlow
      have hpart : partOf c = .char c := by simp [partOf, hlow]
      rw [hpart]
      exact takeText_plain hquote hslash hlow rest
  all_goals
    simp only [List.cons_append, List.nil_append, takeText]
    cases takeText rest <;> rfl

/-- A string is read up to its closing quote. -/
theorem takeText_escaped (cs rest : List Char) :
    takeText (cs.flatMap escapeChar ++ '"' :: rest) = some (cs.map partOf, rest) := by
  induction cs with
  | nil => rw [List.flatMap_nil, List.nil_append, takeText, List.map_nil]
  | cons c cs ih =>
    rw [List.flatMap_cons, List.append_assoc, takeText_escapeChar, ih, Option.map_some,
      List.map_cons]

theorem textValue?_partOf (c : Char) (parts : List TextPart) :
    textValue? (partOf c :: parts) = (textValue? parts).map (c :: ·) := by
  unfold partOf
  split
  · rename_i h
    have hlow := h.1
    rw [textValue?.eq_def]
    dsimp only
    rw [if_neg (by simp; omega), if_neg (by simp; omega), Char.ofNat_toNat]
  · rw [textValue?]

theorem string?_partsOf (s : String) : string? (partsOf s) = some s := by
  have hall : ∀ cs : List Char, textValue? (cs.map partOf) = some cs := by
    intro cs
    induction cs with
    | nil => rfl
    | cons c cs ih => rw [List.map_cons, textValue?_partOf, ih, Option.map_some]
  rw [string?, partsOf, hall, Option.map_some, String.ofList_toList]

/-! ## Numbers -/

/-- What stands behind a value: the end of the text, or what goes on with a list or an object or
closes it. -/
def Closes (rest : List Char) : Prop := ∀ c ∈ rest.head?, c = ',' ∨ c = ']' ∨ c = '\x7d'

theorem takeDigits_append {ds : List Char} (hds : ∀ c ∈ ds, c.isDigit = true)
    (hrest : ∀ c ∈ rest.head?, c.isDigit = false) :
    takeDigits (ds ++ rest) = (ds.map (·.toNat - 48), rest) := by
  induction ds with
  | nil =>
    cases rest with
    | nil => rfl
    | cons c rest =>
      have hc : digit? c = none := by simp [digit?, hrest c rfl]
      rw [List.nil_append, takeDigits, hc]
      rfl
  | cons c ds ih =>
    rw [List.forall_mem_cons] at hds
    have hc : digit? c = some (c.toNat - 48) := by simp [digit?, hds.1]
    rw [List.cons_append, takeDigits, hc, ih hds.2]
    rfl

theorem digitsValue_toDigits (n : Nat) :
    NumberText.digitsValue ((Nat.toDigits 10 n).map (·.toNat - 48)) = n := by
  have hfold : ∀ (cs : List Char) (m : Nat), (cs.map (·.toNat - 48)).foldl (fun n d => n * 10 + d) m =
      Nat.ofDigitChars 10 cs m := by
    intro cs
    induction cs with
    | nil => exact fun _ => rfl
    | cons c cs ih =>
      intro m
      rw [List.map_cons, List.foldl_cons, ih, Nat.ofDigitChars_cons, Nat.mul_comm m 10]
      rfl
  rw [NumberText.digitsValue, hfold, Nat.ofDigitChars_ten_toDigits]

/-- Only zero is written with a leading zero. -/
theorem digits_lead (n : Nat) : ∃ d ds, (Nat.toDigits 10 n).map (·.toNat - 48) = d :: ds ∧
    (d = 0 → ds = []) := by
  induction n using Nat.strongRecOn with
  | ind n ih =>
    by_cases hlt : n < 10
    · exact ⟨_, [], by rw [Nat.toDigits_of_lt_base hlt]; rfl, fun _ => rfl⟩
    · obtain ⟨d, ds, hds, hlead⟩ := ih (n / 10) (by omega)
      have hvalue := digitsValue_toDigits (n / 10)
      rw [Nat.toDigits_of_base_le (by decide) (by omega), List.map_append, hds]
      refine ⟨d, _, rfl, fun hd => ?_⟩
      -- a zero in front would be all that stands before the last digit
      rw [hds, hlead hd, hd] at hvalue
      have hzero : n / 10 = 0 := hvalue.symm
      omega

theorem takeUnsigned_toDigits (negative : Bool) (n : Nat) (hrest : Closes rest) :
    takeUnsigned negative (Nat.toDigits 10 n ++ rest) =
      some (⟨negative, (Nat.toDigits 10 n).map (·.toNat - 48), none, none⟩, rest) := by
  have hdigits : takeDigits (Nat.toDigits 10 n ++ rest) =
      ((Nat.toDigits 10 n).map (·.toNat - 48), rest) := takeDigits_append
    (fun c hc => Nat.isDigit_of_mem_toDigits (by decide) (by decide) hc)
    (fun c hc => by rcases hrest c hc with rfl | rfl | rfl <;> rfl)
  have hfraction : takeFraction rest = some (none, rest) := by
    cases rest with
    | nil => rfl
    | cons c rest => rcases hrest c rfl with rfl | rfl | rfl <;> rfl
  have hexponent : takeExponent rest = some (none, rest) := by
    cases rest with
    | nil => rfl
    | cons c rest => rcases hrest c rfl with rfl | rfl | rfl <;> rfl
  obtain ⟨d, ds, hds, hlead⟩ := digits_lead n
  simp only [takeUnsigned, hdigits, hds, hfraction, hexponent, Option.bind_eq_bind, Option.bind_some]
  cases d with
  | zero =>
    rw [hlead rfl]
    rfl
  | succ d => cases ds <;> rfl

theorem toList_int (n : Int) : (toString n).toList =
    if n < 0 then '-' :: Nat.toDigits 10 n.natAbs else Nat.toDigits 10 n.natAbs := by
  rw [toList_toString_int]
  split <;> rfl

/-- An integer is read, if nothing behind it can belong to a number. -/
theorem takeNumber_toString (n : Int) (hrest : Closes rest) :
    takeNumber ((toString n).toList ++ rest) = some (numberOf n, rest) := by
  rw [toList_int, numberOf]
  split
  · rename_i hneg
    rw [List.cons_append, takeNumber, takeUnsigned_toDigits true n.natAbs hrest]
    simp [hneg]
  · rename_i hneg
    rw [takeNumber, takeUnsigned_toDigits false n.natAbs hrest]
    · simp [hneg]
    · intro more hmore
      have hfirst : '-' ∈ Nat.toDigits 10 n.natAbs := by
        obtain ⟨c, cs, hcs⟩ := List.exists_cons_of_ne_nil
          (List.ne_nil_of_length_pos (Nat.length_toDigits_pos (b := 10) (n := n.natAbs)))
        rw [hcs, List.cons_append] at hmore
        rw [hcs, (List.cons.inj hmore).1]
        exact List.mem_cons_self
      exact absurd (Nat.isDigit_of_mem_toDigits (by decide) (by decide) hfirst) (by decide)

theorem exactValue?_numberOf (n : Int) : (numberOf n).exactValue? = some (.int n) := by
  simp only [numberOf, NumberText.exactValue?, digitsValue_toDigits, Option.isSome_none, Bool.or_self,
    Bool.false_eq_true, if_false, decide_eq_true_eq]
  split <;> congr 2 <;> omega

/-- An integer that fits into 64 bits is read as one. -/
theorem value?_numberOf {n : Int} (h : fitsWords (.int n) = true) :
    (numberOf n).value? = some (.int n) := by
  have hsize : (UInt64.size : Int) = 2 ^ 64 := rfl
  have hsize' : UInt64.size = 2 ^ 64 := rfl
  simp only [fitsWords, Bool.and_eq_true, decide_eq_true_eq, hsize] at h
  simp only [numberOf, NumberText.value?, digitsValue_toDigits, Option.isNone_none, Bool.true_and,
    hsize']
  by_cases hneg : n < 0
  · have hpos : 0 < n.natAbs ∧ 2 * n.natAbs ≤ 2 ^ 64 := by omega
    simp only [hneg, decide_true, Bool.not_true, Bool.false_and, Bool.false_eq_true, if_false, hpos,
      Bool.and_self, if_true]
    congr 2
    omega
  · have hlt : n.natAbs < 2 ^ 64 := by omega
    simp only [hneg, decide_false, Bool.not_false, hlt, decide_true, Bool.and_self, if_true]
    congr 2
    omega

/-- The characters that an integer can begin with. -/
def numberLeads : List Char := ['-', '0', '1', '2', '3', '4', '5', '6', '7', '8', '9']

theorem not_mem_numberLeads (h : c ∈ numberLeads) :
    isBlank c = false ∧ c ∉ ['n', 't', 'f', '"', '[', '\x7b', ']'] := by
  simp only [numberLeads, List.mem_cons, List.not_mem_nil, or_false] at h
  rcases h with rfl | rfl | rfl | rfl | rfl | rfl | rfl | rfl | rfl | rfl | rfl <;> decide

theorem head_toString (n : Int) :
    ∃ c cs, (toString n).toList = c :: cs ∧ c ∈ numberLeads := by
  rw [toList_int]
  split
  · exact ⟨'-', _, rfl, by decide⟩
  · obtain ⟨c, cs, hcs⟩ := List.exists_cons_of_ne_nil
      (List.ne_nil_of_length_pos (Nat.length_toDigits_pos (b := 10) (n := n.natAbs)))
    have hmem : c ∈ Nat.toDigits 10 n.natAbs := hcs ▸ List.mem_cons_self
    have hdigit := toNat_of_isDigit (Nat.isDigit_of_mem_toDigits (by decide) (by decide) hmem)
    have hall : ∀ d < 58, 48 ≤ d → Char.ofNat d ∈ numberLeads := by decide
    have hlead := hall c.toNat (by omega) hdigit.1
    rw [Char.ofNat_toNat] at hlead
    exact ⟨c, cs, hcs, hlead⟩

/-! ## Parts of the text -/

theorem toList_arr (elements : List Json) :
    (Json.arr elements).compact.toList = '[' :: ((compactElements elements).toList ++ [']']) := by
  rw [compact, String.toList_append, String.toList_append]
  rfl

theorem toList_obj (members : List (String × Json)) :
    (Json.obj members).compact.toList = '\x7b' :: ((compactMembers members).toList ++ ['\x7d']) := by
  rw [compact, String.toList_append, String.toList_append]
  rfl

theorem toList_elements (j k : Json) (rest : List Json) :
    (compactElements (j :: k :: rest)).toList =
      j.compact.toList ++ ',' :: (compactElements (k :: rest)).toList := by
  rw [compactElements]
  · simp
  · simp

theorem toList_member (name : String) (j : Json) : (compactMembers [(name, j)]).toList =
    '"' :: (name.toList.flatMap escapeChar ++ '"' :: ':' :: j.compact.toList) := by
  rw [compactMembers, String.toList_append, String.toList_append, toList_quote]
  simp

theorem toList_members (name : String) (j : Json) (m : String × Json)
    (rest : List (String × Json)) : (compactMembers ((name, j) :: m :: rest)).toList =
      '"' :: (name.toList.flatMap escapeChar ++
        '"' :: ':' :: (j.compact.toList ++ ',' :: (compactMembers (m :: rest)).toList)) := by
  rw [compactMembers]
  · simp [toList_quote]
  · simp

/-- The text of a value begins with no blank, and it does not close a list. -/
theorem head_compact : ∀ j : Json, j.Whole P →
    ∃ c cs, j.compact.toList = c :: cs ∧ isBlank c = false ∧ c ≠ ']'
  | .null, _ => by
    rw [compact]
    exact ⟨'n', _, rfl, by decide, by decide⟩
  | .bool true, _ => by
    rw [compact]
    exact ⟨'t', _, rfl, by decide, by decide⟩
  | .bool false, _ => by
    rw [compact]
    exact ⟨'f', _, rfl, by decide, by decide⟩
  | .int n, _ => by
    obtain ⟨c, cs, hcs, hc⟩ := head_toString n
    rw [compact]
    obtain ⟨hblank, hother⟩ := not_mem_numberLeads hc
    refine ⟨c, cs, hcs, hblank, ?_⟩
    rintro rfl
    exact hother (by decide)
  | .str s, _ => by
    rw [compact, toList_quote]
    exact ⟨'"', _, rfl, by decide, by decide⟩
  | .arr elements, _ => ⟨'[', _, toList_arr elements, by decide, by decide⟩
  | .obj members, _ => ⟨'\x7b', _, toList_obj members, by decide, by decide⟩

theorem skipBlanks_cons (h : isBlank c = false) (rest : List Char) :
    skipBlanks (c :: rest) = c :: rest := by
  rw [skipBlanks, List.dropWhile_cons, h]
  rfl

/-! ## The grammar -/

theorem takeValue_int (n : Int) (fuel : Nat) (hrest : Closes rest) :
    takeValue (fuel + 1) ((toString n).toList ++ rest) = some (.number (numberOf n), rest) := by
  have hnumber := takeNumber_toString n hrest
  obtain ⟨c, cs, hcs, hc⟩ := head_toString n
  rw [hcs] at hnumber ⊢
  obtain ⟨hblank, hother⟩ := not_mem_numberLeads hc
  rw [List.cons_append] at hnumber ⊢
  rw [takeValue, skipBlanks_cons hblank]
  split
  case h_7 => rw [hnumber, Option.map_some]
  all_goals
    rename_i heq
    obtain ⟨rfl, -⟩ := List.cons.inj heq
    exact absurd (by decide) hother

theorem takeValue_str (s : String) (fuel : Nat) (rest : List Char) :
    takeValue (fuel + 1) ((quote s).toList ++ rest) = some (.text (partsOf s), rest) := by
  have hquoted : (quote s).toList ++ rest = '"' :: (s.toList.flatMap escapeChar ++ '"' :: rest) := by
    simp [toList_quote]
  rw [hquoted, takeValue, skipBlanks_cons (by decide)]
  simp only [takeText_escaped, Option.map_some]
  rfl

/-- A list is read once its elements are. -/
theorem takeValue_arr {fuel : Nat} {elements : List Json} (hne : elements ≠ [])
    (hfloat : WholeElements P elements)
    (h : takeElements fuel ((compactElements elements).toList ++ ']' :: rest) =
      some (writtenElements elements, rest)) :
    takeValue (fuel + 1) ((Json.arr elements).compact.toList ++ rest) =
      some (.list (writtenElements elements), rest) := by
  have hhead : ∃ c cs, (compactElements elements).toList = c :: cs ∧ isBlank c = false ∧ c ≠ ']' := by
    cases elements with
    | nil => exact absurd rfl hne
    | cons j more =>
      obtain ⟨c, cs, hcs, hc⟩ := head_compact j hfloat.1
      cases more with
      | nil => exact ⟨c, cs, by rw [compactElements, hcs], hc⟩
      | cons k more => exact ⟨c, _, by rw [toList_elements, hcs, List.cons_append], hc⟩
  obtain ⟨c, cs, hcs, hblank, hclose⟩ := hhead
  have htext : (Json.arr elements).compact.toList ++ rest = '[' :: (c :: cs ++ ']' :: rest) := by
    rw [toList_arr, hcs]
    simp
  rw [hcs] at h
  rw [htext, takeValue, skipBlanks_cons (by decide)]
  simp only [List.cons_append] at h ⊢
  rw [skipBlanks_cons hblank]
  split
  · rename_i heq
    exact absurd (List.cons.inj heq).1 hclose
  · rw [h, Option.map_some]

/-- An object is read once its members are. -/
theorem takeValue_obj {fuel : Nat} {members : List (String × Json)} (hne : members ≠ [])
    (h : takeMembers fuel ((compactMembers members).toList ++ '\x7d' :: rest) =
      some (writtenMembers members, rest)) :
    takeValue (fuel + 1) ((Json.obj members).compact.toList ++ rest) =
      some (.record (writtenMembers members), rest) := by
  have hhead : ∃ cs, (compactMembers members).toList = '"' :: cs := by
    rcases members with _ | ⟨⟨name, j⟩, _ | ⟨m, more⟩⟩
    · exact absurd rfl hne
    · exact ⟨_, toList_member name j⟩
    · exact ⟨_, toList_members name j m more⟩
  obtain ⟨cs, hcs⟩ := hhead
  have htext : (Json.obj members).compact.toList ++ rest = '\x7b' :: ('"' :: cs ++ '\x7d' :: rest) := by
    rw [toList_obj, hcs]
    simp
  rw [hcs] at h
  rw [htext, takeValue, skipBlanks_cons (by decide)]
  simp only [List.cons_append] at h ⊢
  rw [skipBlanks_cons (by decide)]
  simp only [h, Option.map_some]
  rfl

theorem length_compact_pos (h : j.Whole P) : 0 < j.compact.toList.length := by
  obtain ⟨c, cs, hcs, -⟩ := head_compact j h
  rw [hcs]
  exact Nat.zero_lt_succ _

theorem closes_cons (h : c = ',' ∨ c = ']' ∨ c = '\x7d') (rest : List Char) :
    Closes (c :: rest) := by
  rintro d ⟨⟩
  exact h

mutual

/-- **The text of a value is read**, with as much fuel as it has characters, and nothing of what
stands behind it. -/
theorem takeValue_compact : ∀ j : Json, j.Whole P → ∀ (fuel : Nat) (rest : List Char),
    Closes rest → j.compact.toList.length ≤ fuel + 1 →
      takeValue (fuel + 1) (j.compact.toList ++ rest) = some (j.written, rest)
  | .null => by
    intro _ fuel rest _ _
    rw [compact, takeValue]
    rfl
  | .bool true => by
    intro _ fuel rest _ _
    rw [compact, takeValue]
    rfl
  | .bool false => by
    intro _ fuel rest _ _
    rw [compact, takeValue]
    rfl
  | .int n => by
    intro _ fuel rest hrest _
    rw [compact, takeValue_int n fuel hrest, written]
  | .float x => fun h => h.elim
  | .str s => by
    intro _ fuel rest _ _
    rw [compact, takeValue_str, written]
  | .arr [] => by
    intro _ fuel rest _ _
    rw [toList_arr, takeValue, compactElements]
    rfl
  | .arr (j :: more) => by
    intro hfloat fuel rest _ hfuel
    rw [toList_arr, List.length_cons, List.length_append, List.length_singleton] at hfuel
    exact takeValue_arr (by simp) hfloat
      (takeElements_compact (j :: more) (by simp) hfloat fuel rest (by omega))
  | .obj [] => by
    intro _ fuel rest _ _
    rw [toList_obj, takeValue, compactMembers]
    rfl
  | .obj (m :: more) => by
    intro hfloat fuel rest _ hfuel
    rw [toList_obj, List.length_cons, List.length_append, List.length_singleton] at hfuel
    exact takeValue_obj (by simp)
      (takeMembers_compact (m :: more) (by simp) hfloat fuel rest (by omega))

theorem takeElements_compact : ∀ elements : List Json, elements ≠ [] → WholeElements P elements →
    ∀ (fuel : Nat) (rest : List Char), (compactElements elements).toList.length + 1 ≤ fuel →
      takeElements fuel ((compactElements elements).toList ++ ']' :: rest) =
        some (writtenElements elements, rest)
  | [] => fun h => absurd rfl h
  | [j] => by
    intro _ hfloat fuel rest hfuel
    have hpos := length_compact_pos hfloat.1
    rw [compactElements] at hfuel ⊢
    obtain ⟨fuel, rfl⟩ : ∃ n, fuel = n + 1 + 1 := ⟨fuel - 2, by omega⟩
    have hfirst := takeValue_compact j hfloat.1 fuel (']' :: rest) (closes_cons (by decide) rest)
      (by omega)
    simp only [takeElements, hfirst, Option.bind_eq_bind, Option.bind_some]
    rw [skipBlanks_cons (by decide)]
    rfl
  | j :: k :: more => by
    intro _ hfloat fuel rest hfuel
    rw [toList_elements, List.length_append, List.length_cons] at hfuel
    obtain ⟨fuel, rfl⟩ : ∃ n, fuel = n + 1 + 1 := ⟨fuel - 2, by omega⟩
    have hfirst := takeValue_compact j hfloat.1 fuel
      (',' :: ((compactElements (k :: more)).toList ++ ']' :: rest))
      (closes_cons (by decide) _) (by omega)
    have hothers := takeElements_compact (k :: more) (by simp) hfloat.2 (fuel + 1) rest (by omega)
    have htext : (compactElements (j :: k :: more)).toList ++ ']' :: rest =
        j.compact.toList ++ ',' :: ((compactElements (k :: more)).toList ++ ']' :: rest) := by
      rw [toList_elements, List.append_assoc, List.cons_append]
    rw [htext, takeElements]
    simp only [hfirst, Option.bind_eq_bind, Option.bind_some]
    rw [skipBlanks_cons (by decide)]
    simp only [hothers, Option.bind_some]
    rfl

theorem takeMembers_compact : ∀ members : List (String × Json), members ≠ [] →
    WholeMembers P members → ∀ (fuel : Nat) (rest : List Char),
      (compactMembers members).toList.length + 1 ≤ fuel →
        takeMembers fuel ((compactMembers members).toList ++ '\x7d' :: rest) =
          some (writtenMembers members, rest)
  | [] => fun h => absurd rfl h
  | [(name, j)] => by
    intro _ hfloat fuel rest hfuel
    rw [toList_member, List.length_cons, List.length_append, List.length_cons, List.length_cons]
      at hfuel
    obtain ⟨fuel, rfl⟩ : ∃ n, fuel = n + 1 + 1 := ⟨fuel - 2, by omega⟩
    have hvalue := takeValue_compact j hfloat.1 fuel ('\x7d' :: rest) (closes_cons (by decide) rest)
      (by omega)
    have htext : (compactMembers [(name, j)]).toList ++ '\x7d' :: rest = '"' ::
        (name.toList.flatMap escapeChar ++ '"' :: ':' :: (j.compact.toList ++ '\x7d' :: rest)) := by
      simp [toList_member]
    rw [htext, takeMembers, skipBlanks_cons (by decide)]
    simp only [takeText_escaped, Option.bind_eq_bind, Option.bind_some]
    rw [skipBlanks_cons (by decide)]
    simp only [hvalue, Option.bind_some]
    rw [skipBlanks_cons (by decide)]
    rfl
  | (name, j) :: m :: more => by
    intro _ hfloat fuel rest hfuel
    rw [toList_members, List.length_cons, List.length_append, List.length_cons, List.length_cons,
      List.length_append, List.length_cons] at hfuel
    obtain ⟨fuel, rfl⟩ : ∃ n, fuel = n + 1 + 1 := ⟨fuel - 2, by omega⟩
    have hvalue := takeValue_compact j hfloat.1 fuel
      (',' :: ((compactMembers (m :: more)).toList ++ '\x7d' :: rest))
      (closes_cons (by decide) _) (by omega)
    have hothers := takeMembers_compact (m :: more) (by simp) hfloat.2 (fuel + 1) rest (by omega)
    have htext : (compactMembers ((name, j) :: m :: more)).toList ++ '\x7d' :: rest = '"' ::
        (name.toList.flatMap escapeChar ++ '"' :: ':' ::
          (j.compact.toList ++ ',' :: ((compactMembers (m :: more)).toList ++ '\x7d' :: rest))) := by
      simp [toList_members]
    rw [htext, takeMembers, skipBlanks_cons (by decide)]
    simp only [takeText_escaped, Option.bind_eq_bind, Option.bind_some]
    rw [skipBlanks_cons (by decide)]
    simp only [hvalue, Option.bind_some]
    rw [skipBlanks_cons (by decide)]
    simp only [hothers, Option.bind_some]
    rfl

end

/-- The text of a value is read by the grammar. -/
theorem parse?_written (h : j.NoFloat) : Written.parse? j.compact = some j.written := by
  have hread := takeValue_compact j h (2 * j.compact.length + 1) [] (by rintro c ⟨⟩)
    (by rw [String.length_toList]; omega)
  rw [List.append_nil] at hread
  rw [Written.parse?, hread]
  rfl

/-! ## Values -/

section

variable {number : NumberText → Option Json}

mutual

/-- The value of the written form, where the integers in it are read as what they are. -/
theorem valueBy_written (hnumber : ∀ n, P n → number (numberOf n) = some (.int n)) :
    ∀ j : Json, j.Whole P → j.written.valueBy number = some j
  | .null => fun _ => rfl
  | .bool _ => fun _ => rfl
  | .int n => hnumber n
  | .float _ => fun h => h.elim
  | .str s => by
    intro _
    rw [written, Written.valueBy, string?_partsOf, Option.map_some]
  | .arr elements => by
    intro h
    rw [written, Written.valueBy, elementsBy_written hnumber elements h, Option.map_some]
  | .obj members => by
    intro h
    rw [written, Written.valueBy, membersBy_written hnumber members h, Option.map_some]

theorem elementsBy_written (hnumber : ∀ n, P n → number (numberOf n) = some (.int n)) :
    ∀ elements : List Json, WholeElements P elements →
      elementsBy number (writtenElements elements) = some elements
  | [] => fun _ => rfl
  | j :: rest => by
    intro h
    rw [writtenElements, elementsBy, valueBy_written hnumber j h.1,
      elementsBy_written hnumber rest h.2]
    rfl

theorem membersBy_written (hnumber : ∀ n, P n → number (numberOf n) = some (.int n)) :
    ∀ members : List (String × Json), WholeMembers P members →
      membersBy number (writtenMembers members) = some members
  | [] => fun _ => rfl
  | (name, j) :: rest => by
    intro h
    rw [writtenMembers, membersBy, string?_partsOf, valueBy_written hnumber j h.1,
      membersBy_written hnumber rest h.2]
    rfl

end

end

mutual

theorem depth_written : ∀ j : Json, j.written.depth = j.depth
  | .null | .bool _ | .int _ | .float _ | .str _ => rfl
  | .arr elements => by rw [written, Written.depth, depth, depth_writtenElements elements]
  | .obj members => by rw [written, Written.depth, depth, depth_writtenMembers members]

theorem depth_writtenElements : ∀ elements : List Json,
    elementDepth (writtenElements elements) = depthElements elements
  | [] => rfl
  | j :: rest => by
    rw [writtenElements, elementDepth, depthElements, depth_written j, depth_writtenElements rest]

theorem depth_writtenMembers : ∀ members : List (String × Json),
    memberDepth (writtenMembers members) = depthMembers members
  | [] => rfl
  | (name, j) :: rest => by
    rw [writtenMembers, memberDepth, depthMembers, depth_written j, depth_writtenMembers rest]

end

mutual

/-- The value of a text is what it is with numbers read as `parse?` reads them. -/
theorem Written.valueBy_value? : ∀ w : Written, w.valueBy NumberText.value? = w.value?
  | .null | .bool _ | .number _ | .text _ => rfl
  | .list elements => by rw [Written.valueBy, Written.value?, elementsBy_value? elements]
  | .record members => by rw [Written.valueBy, Written.value?, membersBy_value? members]

theorem elementsBy_value? : ∀ ws : List Written, elementsBy NumberText.value? ws = elementValues? ws
  | [] => rfl
  | w :: rest => by rw [elementsBy, elementValues?, w.valueBy_value?, elementsBy_value? rest]

theorem membersBy_value? : ∀ ms : List (List TextPart × Written),
    membersBy NumberText.value? ms = memberValues? ms
  | [] => rfl
  | (name, w) :: rest => by
    rw [membersBy, memberValues?, w.valueBy_value?, membersBy_value? rest]

end

mutual

theorem whole_of_fitsWords : ∀ j : Json, j.NoFloat → j.fitsWords = true →
    j.Whole fun n => fitsWords (.int n) = true
  | .int _ => fun _ h => h
  | .float _ => fun h _ => h
  | .arr elements => wholeElements_of_fitsWords elements
  | .obj members => wholeMembers_of_fitsWords members
  | .null | .bool _ | .str _ => fun _ _ => trivial

theorem wholeElements_of_fitsWords : ∀ elements : List Json,
    WholeElements (fun _ => True) elements → fitsWordsElements elements = true →
      WholeElements (fun n => fitsWords (.int n) = true) elements
  | [] => fun _ _ => trivial
  | j :: rest => by
    intro hwhole h
    rw [fitsWordsElements, Bool.and_eq_true] at h
    exact ⟨whole_of_fitsWords j hwhole.1 h.1, wholeElements_of_fitsWords rest hwhole.2 h.2⟩

theorem wholeMembers_of_fitsWords : ∀ members : List (String × Json),
    WholeMembers (fun _ => True) members → fitsWordsMembers members = true →
      WholeMembers (fun n => fitsWords (.int n) = true) members
  | [] => fun _ _ => trivial
  | (name, j) :: rest => by
    intro hwhole h
    rw [fitsWordsMembers, Bool.and_eq_true] at h
    exact ⟨whole_of_fitsWords j hwhole.1 h.1, wholeMembers_of_fitsWords rest hwhole.2 h.2⟩

end

/-- **A JSON text is read back exactly**, if it is not nested too deeply. -/
theorem decode?_compact (hfloat : j.NoFloat) (hdepth : j.depth < depthLimit) :
    decode? (Text.utf8 j.compact) = some j := by
  rw [decode?, Text.utf8Decode?_utf8]
  simp only [Option.bind_eq_bind, Option.bind_some, parse?_written hfloat, depth_written, hdepth,
    if_true]
  exact valueBy_written (fun n _ => exactValue?_numberOf n) j hfloat

/-- A value whose integers fit into 64 bits is read back by `parse?` too. -/
theorem parse?_compact (hfloat : j.NoFloat) (hdepth : j.depth < depthLimit)
    (hfits : j.fitsWords = true) : parse? j.compact = some j := by
  rw [parse?]
  simp only [Option.bind_eq_bind, Option.bind_some, parse?_written hfloat, depth_written, hdepth,
    if_true]
  rw [← Written.valueBy_value?]
  exact valueBy_written (fun _ => value?_numberOf) j (whole_of_fitsWords j hfloat hfits)

end LogPipeline.Json
