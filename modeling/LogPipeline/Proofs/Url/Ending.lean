import Mathlib.Data.List.TakeWhile
import LogPipeline.Proofs.Url.Front

/-!
# What the end of a URL decides

Query and fragment decide nothing of what is read before them: where a text is a URL, the same text
with another end is the same URL with another end (`readsAlike_parse`). This is shown reader by
reader, from the segments of a path up to the whole text.
-/

namespace LogPipeline.Url

/-- The text is empty or begins with a query or a fragment, and it holds no blanks. -/
structure IsEnd (tail : List Char) : Prop where
  marked : ∀ c ∈ tail.head?, c = '?' ∨ c = '#'
  printed : ∀ c ∈ tail, 0x20 < c.toNat

/-- Whatever end follows the text, the same is read before it. Only an empty end tells nothing about
those that are not: of some authorities nothing may follow. -/
def ReadsAlike (read : List Char → Except Error Url) (cs : List Char) : Prop :=
  ∀ tail u, IsEnd tail → read (cs ++ tail) = .ok u →
    ∃ k v, ∀ other, IsEnd other → (tail = [] → other = []) →
      read (cs ++ other) = .ok (withEnd k v other)

variable {k : SchemeKind} {c : Char} {cs front tail : List Char} {scheme : String} {u : Url}
  {read : List Char → Except Error Url}

theorem IsEnd.nil : IsEnd [] := ⟨nofun, nofun⟩

theorem ReadsAlike.of_map (r : Except Error Url)
    (h : ∀ tail, IsEnd tail → read (cs ++ tail) = r.map (withEnd k · tail)) :
    ReadsAlike read cs := by
  intro tail u htail hread
  rw [h tail htail] at hread
  cases r with
  | error e => cases hread
  | ok v => exact ⟨k, v, fun other hother _ => h other hother⟩

theorem ReadsAlike.of_eq {read' : List Char → Except Error Url} (h : ReadsAlike read front)
    (heq : ∀ tail, IsEnd tail → read' (cs ++ tail) = read (front ++ tail)) :
    ReadsAlike read' cs := by
  intro tail u htail hread
  obtain ⟨k, v, hv⟩ := h tail u htail (heq tail htail ▸ hread)
  exact ⟨k, v, fun other hother hempty => (heq other hother).trans (hv other hother hempty)⟩

/-! ## Marks and breaks -/

theorem isBreak_of_printed (h : 0x20 < c.toNat) : isBreak c = false := by
  simp only [isBreak, Bool.or_eq_false_iff, beq_eq_false_iff_ne]
  refine ⟨⟨?_, ?_⟩, ?_⟩ <;> rintro rfl <;> exact absurd h (by decide)

theorem withoutBreaks_of_printed (h : ∀ c ∈ cs, 0x20 < c.toNat) : withoutBreaks cs = cs :=
  List.filter_eq_self.mpr fun c hc => by rw [isBreak_of_printed (h c hc)]; rfl

theorem dropWhile_isBreak (h : ∀ c ∈ cs, 0x20 < c.toNat) : cs.dropWhile isBreak = cs := by
  cases cs with
  | nil => rfl
  | cons c cs => rw [List.dropWhile_cons_of_neg (by simp [isBreak_of_printed (h c (by simp))])]

theorem printed_append (hcs : ∀ c ∈ cs, inFront c) (htail : IsEnd tail) :
    ∀ c ∈ cs ++ tail, 0x20 < c.toNat := fun c hc =>
  (List.mem_append.mp hc).elim (fun hc => (hcs c hc).1) (htail.printed c)

theorem isSlash_mark (h : c = '?' ∨ c = '#') (k : SchemeKind) : k.isSlash c = false := by
  rcases h with rfl | rfl <;> cases k <;> rfl

theorem endsAuthority_mark (h : c = '?' ∨ c = '#') (k : SchemeKind) : k.endsAuthority c = true := by
  rcases h with rfl | rfl <;> cases k <;> rfl

/-- What is taken from the front ends with it, if it does not go on at the end. -/
theorem takeWhile_front (cs : List Char) {p : Char → Bool} (h : ∀ c ∈ tail.head?, p c = false) :
    (cs ++ tail).takeWhile p = cs.takeWhile p ∧
      (cs ++ tail).dropWhile p = cs.dropWhile p ++ tail := by
  induction cs with
  | nil =>
    cases tail with
    | nil => exact ⟨rfl, rfl⟩
    | cons c tail =>
      have hc := h c rfl
      simp [hc]
  | cons c cs ih =>
    cases hc : p c <;> simp [hc, ih]

/-! ## Paths -/

theorem readSegments_append (hcs : ∀ c ∈ cs, inFront c) (htail : IsEnd tail) (r : PathReader) :
    readSegments k r (cs ++ tail) = ((readSegments k r cs).1, tail) := by
  induction cs generalizing r with
  | nil =>
    cases tail with
    | nil => rfl
    | cons c tail =>
      have hmark := htail.marked c rfl
      have hends : (c == '?' || c == '#') = true := by simpa using hmark
      have hread : readSegments k r (c :: tail) = (r.finish k, c :: tail) := by
        rw [readSegments, isSlash_mark hmark, if_neg Bool.false_ne_true, if_pos hends]
      rw [List.nil_append, hread]
      rfl
  | cons c cs ih =>
    obtain ⟨hc, hcs⟩ := List.forall_mem_cons.mp hcs
    have hends : ¬(c == '?' || c == '#') = true := by simpa using hc.2
    have hbreak : ¬isBreak c = true := by simp [isBreak_of_printed hc.1]
    rw [List.cons_append, readSegments, readSegments]
    by_cases hslash : k.isSlash c = true
    · rw [if_pos hslash, if_pos hslash, ih hcs]
    · rw [if_neg hslash, if_neg hslash, if_neg hends, if_neg hends, if_neg hbreak, if_neg hbreak,
        ih hcs]

theorem readPath_append (hcs : ∀ c ∈ cs, inFront c) (htail : IsEnd tail) :
    readPath k (cs ++ tail) = ((readPath k cs).1, tail) := by
  rw [readPath, readPath, dropWhile_isBreak (printed_append hcs htail),
    dropWhile_isBreak fun c hc => (hcs c hc).1]
  cases cs with
  | nil =>
    cases tail with
    | nil => rfl
    | cons c tail =>
      dsimp only [List.nil_append]
      rw [isSlash_mark (htail.marked c rfl), if_neg Bool.false_ne_true]
      exact readSegments_append (show ∀ c ∈ [], inFront c from nofun) htail {}
  | cons c cs =>
    obtain ⟨hc, hcs'⟩ := List.forall_mem_cons.mp hcs
    dsimp only [List.cons_append]
    split
    · exact readSegments_append hcs' htail {}
    · exact readSegments_append hcs htail {}

/-- Nothing but the end follows an authority, if nothing stands between them. -/
theorem isEmpty_append (hcs : ∀ c ∈ cs, inFront c) (htail : IsEnd tail) :
    ((cs ++ tail).isEmpty || (cs ++ tail).head? == some '?' || (cs ++ tail).head? == some '#') =
      cs.isEmpty := by
  cases cs with
  | nil =>
    cases tail with
    | nil => rfl
    | cons c tail => rcases htail.marked c rfl with rfl | rfl <;> rfl
  | cons c cs =>
    have hc := (hcs c (by simp)).2
    simp [hc]

theorem pathBehind_append (hcs : ∀ c ∈ cs, inFront c) (htail : IsEnd tail) :
    pathBehind k (cs ++ tail) = ((pathBehind k cs).1, tail) := by
  have hempty := isEmpty_append hcs IsEnd.nil
  rw [List.append_nil] at hempty
  rw [pathBehind, pathBehind, isEmpty_append hcs htail, hempty]
  split
  · exact readPath_append hcs htail
  · rename_i hnone
    simp only [Bool.or_eq_true, not_or, Bool.not_eq_true, Bool.not_eq_false',
      List.isEmpty_iff] at hnone
    rw [hnone.2]
    rfl

/-! ## Authorities -/

theorem withAuthority_append (hcs : ∀ c ∈ cs, inFront c) (htail : IsEnd tail) (a : Authority) :
    withAuthority scheme a (cs ++ tail) =
      withEnd (SchemeKind.of scheme) (withAuthority scheme a cs) tail := by
  simp only [withAuthority, pathBehind_append hcs htail]
  rfl

theorem endsAuthority_end (htail : IsEnd tail) (k : SchemeKind) :
    ∀ c ∈ tail.head?, (!k.endsAuthority c) = false := fun c hc => by
  rw [endsAuthority_mark (htail.marked c hc)]
  rfl

theorem readAuthority_append (htail : IsEnd tail) :
    readAuthority scheme (cs ++ tail) =
      let all := cs.takeWhile (!(SchemeKind.of scheme).endsAuthority ·)
      let after := cs.dropWhile (!(SchemeKind.of scheme).endsAuthority ·)
      if (splitUser all).1 == some [] && (splitUser all).2.isEmpty && !(after ++ tail).isEmpty then
        .error .emptyHost
      else (authorityOf scheme all).map fun p => (p.1, p.2 ++ (after ++ tail)) := by
  obtain ⟨hall, hafter⟩ := takeWhile_front cs
    (endsAuthority_end htail (SchemeKind.of scheme))
  rw [readAuthority_eq, hall, hafter]

theorem readsAlike_afterSlashes (hcs : ∀ c ∈ cs, inFront c) :
    ReadsAlike (afterSlashes scheme) cs := by
  intro tail u htail hread
  rw [afterSlashes_eq, readAuthority_append htail] at hread
  dsimp only at hread
  split at hread
  · cases hread
  · rename_i hfollows
    cases hauthority : authorityOf scheme
        (cs.takeWhile (!(SchemeKind.of scheme).endsAuthority ·)) with
    | error e => simp [hauthority, Except.map] at hread
    | ok p =>
      obtain ⟨a, behind⟩ := p
      let rest := behind ++ cs.dropWhile (!(SchemeKind.of scheme).endsAuthority ·)
      have hrest : ∀ c ∈ rest, inFront c := by
        intro c hc
        rcases List.mem_append.mp hc with hc | hc
        · exact hcs c ((List.takeWhile_prefix _).subset ((authorityOf_ok hauthority).2 c hc))
        · exact hcs c ((List.dropWhile_suffix _).subset hc)
      refine ⟨SchemeKind.of scheme, withAuthority scheme a rest, fun other hother hempty => ?_⟩
      rw [afterSlashes_eq, readAuthority_append hother]
      dsimp only
      rw [hauthority, if_neg, ← withAuthority_append hrest hother, List.append_assoc]
      · rfl
      · -- a user without a host is refused where anything follows, so an end may only be left out
        intro hnothing
        refine hfollows ?_
        simp only [Bool.and_eq_true, Bool.not_eq_true', List.isEmpty_eq_false_iff] at hnothing ⊢
        refine ⟨hnothing.1, fun htail => hnothing.2 ?_⟩
        obtain ⟨hafter, htail⟩ := List.append_eq_nil_iff.mp htail
        rw [hafter, hempty htail]
        rfl

/-! ## Files -/

theorem fileUrl_end (htail : IsEnd tail) (host : String) (path : PathReader) (behind : List Char) :
    fileUrl host path tail = withEnd .file (fileUrl host path behind) tail := by
  rw [fileUrl, withoutBreaks_of_printed htail.printed]
  rfl

theorem fileWithHost_append (hcs : ∀ c ∈ cs, inFront c) (htail : IsEnd tail)
    (hostText : List Char) :
    fileWithHost hostText (cs ++ tail) = (fileWithHost hostText cs).map (withEnd .file · tail) := by
  unfold fileWithHost
  split
  · rfl
  · rename_i host hread
    have hpath : (if (host.isEmpty || host == "localhost") = true then
          readSegments .file {} (cs ++ tail) else readPath .file (cs ++ tail)) =
        ((if (host.isEmpty || host == "localhost") = true then readSegments .file {} cs
          else readPath .file cs).1, tail) := by
      rw [readSegments_append hcs htail, readPath_append hcs htail]
      split <;> rfl
    dsimp only
    rw [hpath]
    exact congrArg Except.ok (fileUrl_end htail _ _ _)

theorem afterFileSlashes_append (hcs : ∀ c ∈ cs, inFront c) (htail : IsEnd tail) :
    afterFileSlashes (cs ++ tail) = (afterFileSlashes cs).map (withEnd .file · tail) := by
  obtain ⟨hall, hafter⟩ := takeWhile_front cs (endsAuthority_end htail .file)
  rw [afterFileSlashes_eq, afterFileSlashes_eq, hall, hafter]
  dsimp only
  split
  · rw [readSegments_append hcs htail]
    exact congrArg Except.ok (fileUrl_end htail _ _ _)
  · exact fileWithHost_append (fun c hc => hcs c ((List.dropWhile_suffix _).subset hc)) htail _

theorem isSlash_end (htail : IsEnd tail) (k : SchemeKind) : tail.head?.any k.isSlash = false := by
  cases tail with
  | nil => rfl
  | cons c tail => exact isSlash_mark (htail.marked c rfl) k

theorem readFile_append (hcs : ∀ c ∈ cs, inFront c) (htail : IsEnd tail) :
    readFile (cs ++ tail) = (readFile cs).map (withEnd .file · tail) := by
  have hprinted := printed_append hcs htail
  have hslashes : ((cs ++ tail).head?.any SchemeKind.file.isSlash &&
        ((cs ++ tail).drop 1).head?.any SchemeKind.file.isSlash) =
      (cs.head?.any SchemeKind.file.isSlash && (cs.drop 1).head?.any SchemeKind.file.isSlash) := by
    match cs with
    | [] => simp [isSlash_end htail]
    | [c] => simp [isSlash_end htail]
    | c :: d :: cs => rfl
  unfold readFile
  dsimp only
  rw [dropWhile_isBreak hprinted,
    dropWhile_isBreak fun c hc => hprinted c (List.mem_of_mem_drop hc),
    dropWhile_isBreak fun c hc => (hcs c hc).1,
    dropWhile_isBreak fun c hc => (hcs c (List.mem_of_mem_drop hc)).1, hslashes]
  split
  · rename_i hboth
    match cs, hcs, hboth with
    | [c], _, hboth => simp at hboth
    | c :: d :: cs, hcs, _ =>
      exact afterFileSlashes_append (fun e he => hcs e (by simp [he])) htail
  · rw [readPath_append hcs htail]
    exact congrArg Except.ok (fileUrl_end htail _ _ _)

/-! ## URLs -/

/-- No end begins with a slash. -/
theorem slash_front {rest : List Char} (htail : IsEnd tail) (h : cs ++ tail = '/' :: rest) :
    ∃ rest', cs = '/' :: rest' ∧ rest = rest' ++ tail := by
  cases cs with
  | nil =>
    have hhead : '/' ∈ tail.head? := by
      rw [show tail = '/' :: rest from h]
      rfl
    exact absurd (htail.marked '/' hhead) (by decide)
  | cons c cs =>
    obtain ⟨rfl, rfl⟩ := List.cons.inj h
    exact ⟨cs, rfl, rfl⟩

theorem withoutAuthority_append (hcs : ∀ c ∈ cs, inFront c) (htail : IsEnd tail) :
    withoutAuthority scheme (cs ++ tail) = withEnd .other (withoutAuthority scheme cs) tail := by
  by_cases hslash : ∃ rest, cs = '/' :: rest
  · obtain ⟨rest, rfl⟩ := hslash
    have hrest : ∀ c ∈ rest, inFront c := fun c hc => hcs c (List.mem_cons_of_mem _ hc)
    simp only [List.cons_append, withoutAuthority, readSegments_append hrest htail]
    rfl
  · have hnone : ∀ rest, cs ≠ '/' :: rest := fun rest hrest => hslash ⟨rest, hrest⟩
    have hnone' : ∀ rest, cs ++ tail ≠ '/' :: rest := by
      intro rest hrest
      obtain ⟨rest', hcs, -⟩ := slash_front htail hrest
      exact hnone rest' hcs
    have hmarks : ∀ c ∈ tail.head?, (c != '?' && c != '#') = false := by
      intro c hc
      rcases htail.marked c hc with rfl | rfl <;> rfl
    have hplain : cs.dropWhile (fun c => c != '?' && c != '#') = [] :=
      List.dropWhile_eq_nil_iff.mpr fun c hc => by simpa using (hcs c hc).2
    rw [withoutAuthority_rootless hnone, withoutAuthority_rootless hnone',
      (takeWhile_front _ hmarks).1, (takeWhile_front _ hmarks).2, hplain]
    rfl

theorem readsAlike_withScheme (hcs : ∀ c ∈ cs, inFront c) : ReadsAlike (withScheme scheme) cs := by
  have hprinted : ∀ {t : List Char}, IsEnd t → withoutBreaks (cs ++ t) = cs ++ t :=
    fun ht => withoutBreaks_of_printed (printed_append hcs ht)
  unfold withScheme
  split
  · exact .of_map (readFile cs) fun tail htail => readFile_append hcs htail
  · have hafter : ReadsAlike (afterSlashes scheme) (cs.dropWhile SchemeKind.special.isSlash) :=
      readsAlike_afterSlashes fun c hc => hcs c ((List.dropWhile_suffix _).subset hc)
    refine hafter.of_eq fun tail htail => ?_
    have hslash : ∀ c ∈ tail.head?, SchemeKind.special.isSlash c = false :=
      fun c hc => isSlash_mark (htail.marked c hc) .special
    rw [hprinted htail, (takeWhile_front _ hslash).2]
  · by_cases hslashes : ∃ rest, cs = '/' :: '/' :: rest
    · obtain ⟨rest, rfl⟩ := hslashes
      have hafter : ReadsAlike (afterSlashes scheme) rest :=
        readsAlike_afterSlashes fun c hc => hcs c (by simp [hc])
      refine hafter.of_eq fun tail htail => ?_
      rw [hprinted htail]
      rfl
    · refine .of_map (k := .other) (.ok (withoutAuthority scheme cs)) fun tail htail => ?_
      rw [hprinted htail, Except.map, ← withoutAuthority_append hcs htail]
      split
      · rename_i rest hrest
        obtain ⟨rest', hcs', hrest'⟩ := slash_front htail hrest
        obtain ⟨rest'', rfl, -⟩ := slash_front htail hrest'.symm
        exact absurd ⟨rest'', hcs'⟩ hslashes
      · rfl

/-! ## The text -/

theorem splitScheme_colon {name : List Char} (hname : ':' ∉ name) (rest : List Char) :
    splitScheme (name ++ ':' :: rest) =
      if (withoutBreaks name).head?.any Char.isAlpha && (withoutBreaks name).all inScheme then
        some (Text.asciiLower (String.ofList (withoutBreaks name)), rest)
      else none := by
  have hcolon : ∀ c ∈ name, (c != ':') = true := fun c hc =>
    bne_iff_ne.mpr fun heq => hname (heq ▸ hc)
  rw [splitScheme, List.takeWhile_append_of_pos hcolon, List.dropWhile_append_of_pos hcolon]
  simp

theorem trimmed_of_printed (h : ∀ c ∈ cs, 0x20 < c.toNat) : trimmed (String.ofList cs) = cs := by
  have hkeeps : ∀ l : List Char, (∀ c ∈ l, 0x20 < c.toNat) →
      l.dropWhile (fun c => decide (c.toNat ≤ 0x20)) = l := by
    intro l hl
    cases l with
    | nil => rfl
    | cons c l =>
      have hc := hl c (by simp)
      rw [List.dropWhile_cons_of_neg (by simpa using hc)]
  rw [trimmed, String.toList_ofList, hkeeps cs h,
    hkeeps cs.reverse fun c hc => h c (List.mem_reverse.mp hc), List.reverse_reverse]

/-- **A text that is a URL is, with another end, the same URL with another end.** -/
theorem readsAlike_parse (hfront : ∀ c ∈ front, inFront c) (hcolon : ':' ∈ front) :
    ReadsAlike (fun cs => parse (String.ofList cs)) front := by
  obtain ⟨name, rest, rfl, hname⟩ := List.eq_append_cons_of_mem hcolon
  have hrest : ∀ c ∈ rest, inFront c := fun c hc => hfront c (by simp [hc])
  have hsplit : ∀ t, IsEnd t → splitScheme (trimmed (String.ofList (name ++ ':' :: rest ++ t))) =
      if (withoutBreaks name).head?.any Char.isAlpha && (withoutBreaks name).all inScheme then
        some (Text.asciiLower (String.ofList (withoutBreaks name)), rest ++ t)
      else none := by
    intro t ht
    rw [trimmed_of_printed (printed_append hfront ht), List.append_assoc, List.cons_append,
      splitScheme_colon hname]
  by_cases hscheme : ((withoutBreaks name).head?.any Char.isAlpha &&
      (withoutBreaks name).all inScheme) = true
  · have hwith : ReadsAlike
        (withScheme (Text.asciiLower (String.ofList (withoutBreaks name)))) rest :=
      readsAlike_withScheme hrest
    refine hwith.of_eq fun t ht => ?_
    rw [parse, hsplit t ht, if_pos hscheme]
  · intro t u ht hread
    dsimp only at hread
    rw [parse, hsplit t ht, if_neg hscheme] at hread
    cases hread

/-! ## The end of a URL -/

/-- The text of a query and a fragment. -/
def endText (query fragment : Option String) : List Char :=
  query.elim [] ('?' :: ·.toList) ++ fragment.elim [] ('#' :: ·.toList)

theorem toList_fromPath (u : Url) :
    u.fromPath.toList = u.path.toList ++ endText u.query u.fragment := by
  rw [fromPath, String.toList_append, String.toList_append, List.append_assoc, endText]
  cases u.query <;> cases u.fragment <;> simp

theorem text_eq (u : Url) :
    u.text =
      String.ofList ((u.beforePath.toList ++ u.path.toList) ++ endText u.query u.fragment) := by
  rw [← String.toList_inj, String.toList_ofList, text, String.toList_append, toList_fromPath,
    List.append_assoc]

theorem colon_mem_beforePath (u : Url) : ':' ∈ u.beforePath.toList := by
  simp [beforePath]

theorem Clean.beforeEnd (h : u.Clean) (hrooted : u.isRootless = false) :
    ∀ c ∈ u.beforePath.toList ++ u.path.toList, inFront c := fun c hc =>
  (List.mem_append.mp hc).elim (h.before c) (h.path hrooted c)

theorem printed_of_not_reserved (h : reservedAlways c = false) (hspace : c ≠ ' ') :
    0x20 < c.toNat := by
  simp only [reservedAlways, Bool.or_eq_false_iff, decide_eq_false_iff_not] at h
  have hne : c.toNat ≠ 0x20 := fun heq => hspace (Char.toNat_inj.mp heq)
  omega

theorem plain_of_not_reservedInQuery (h : reservedInQuery c = false) :
    0x20 < c.toNat ∧ c ≠ '#' := by
  simp only [reservedInQuery, Bool.or_eq_false_iff, List.contains_eq_mem, List.mem_cons,
    List.not_mem_nil, or_false, decide_eq_false_iff_not, not_or] at h
  exact ⟨printed_of_not_reserved h.1 h.2.1, h.2.2.2.1⟩

theorem printed_of_not_reservedInFragment (h : reservedInFragment c = false) : 0x20 < c.toNat := by
  simp only [reservedInFragment, Bool.or_eq_false_iff, List.contains_eq_mem, List.mem_cons,
    List.not_mem_nil, or_false, decide_eq_false_iff_not, not_or] at h
  exact printed_of_not_reserved h.1 h.2.1

theorem Clean.isEnd (h : u.Clean) : IsEnd (endText u.query u.fragment) := by
  constructor
  · intro c hc
    cases hquery : u.query with
    | some q =>
      rw [hquery] at hc
      exact .inl (Option.some.inj hc).symm
    | none =>
      cases hfragment : u.fragment with
      | some f =>
        rw [hquery, hfragment] at hc
        exact .inr (Option.some.inj hc).symm
      | none =>
        rw [hquery, hfragment] at hc
        cases hc
  · intro c hc
    rcases List.mem_append.mp hc with hc | hc
    · cases hquery : u.query with
      | none => exact nomatch (hquery ▸ hc)
      | some q =>
        rw [hquery] at hc
        rcases List.mem_cons.mp hc with rfl | hc
        · decide
        · exact (plain_of_not_reservedInQuery (h.query q hquery c hc)).1
    · cases hfragment : u.fragment with
      | none => exact nomatch (hfragment ▸ hc)
      | some f =>
        rw [hfragment] at hc
        rcases List.mem_cons.mp hc with rfl | hc
        · decide
        · exact printed_of_not_reservedInFragment (h.fragment f hfragment c hc)

/-- The first `#` of an end begins its fragment. -/
theorem split_endText {query : Option String} (fragment : Option String)
    (hquery : ∀ q, query = some q → ∀ c ∈ q.toList, reservedInQuery c = false) :
    (endText query fragment).takeWhile (· != '#') = query.elim [] ('?' :: ·.toList) ∧
      (endText query fragment).dropWhile (· != '#') = fragment.elim [] ('#' :: ·.toList) := by
  have hplain : ∀ c ∈ query.elim [] ('?' :: ·.toList), (c != '#') = true := by
    intro c hc
    cases query with
    | none => cases hc
    | some q =>
      rcases List.mem_cons.mp hc with rfl | hc
      · rfl
      · exact bne_iff_ne.mpr (plain_of_not_reservedInQuery (hquery q rfl c hc)).2
  have hmark : ∀ c ∈ (fragment.elim [] ('#' :: ·.toList)).head?, (c != '#') = false := by
    intro c hc
    cases fragment with
    | none => cases hc
    | some f =>
      obtain rfl := Option.some.inj hc
      rfl
  obtain ⟨htake, hdrop⟩ := takeWhile_front (query.elim [] ('?' :: ·.toList)) hmark
  rw [List.takeWhile_eq_self_iff.mpr hplain] at htake
  rw [List.dropWhile_eq_nil_iff.mpr hplain] at hdrop
  exact ⟨htake, hdrop⟩

/-- What is not reserved in it is read off an end as it is. -/
theorem readEnd_endText {query fragment : Option String}
    (hquery : ∀ q, query = some q → ∀ c ∈ q.toList, reservedInSpecialQuery c = false)
    (hfragment : ∀ f, fragment = some f → ∀ c ∈ f.toList, reservedInFragment c = false) :
    readEnd k (endText query fragment) = (query, fragment) := by
  obtain ⟨htake, hdrop⟩ := split_endText fragment
    fun q hq c hc => (Bool.or_eq_false_iff.mp (hquery q hq c hc)).1
  rw [readEnd, htake, hdrop]
  refine Prod.ext ?_ ?_
  · cases query with
    | none => rfl
    | some q =>
      refine congrArg some ?_
      rw [percentEncode_of_unreserved, String.ofList_toList]
      intro c hc
      have hc := hquery q rfl c hc
      split
      · exact (Bool.or_eq_false_iff.mp hc).1
      · exact hc
  · cases fragment with
    | none => rfl
    | some f =>
      refine congrArg some ?_
      rw [percentEncode_of_unreserved (hfragment f rfl), String.ofList_toList]

theorem Clean.with_query (h : u.Clean) {query : Option String}
    (hplain : ∀ q, query = some q → ∀ c ∈ q.toList, reservedInSpecialQuery c = false) :
    Clean { u with query } :=
  ⟨h.before, h.path, h.rootless,
    fun q hq c hc => (Bool.or_eq_false_iff.mp (hplain q hq c hc)).1, h.fragment⟩

/-- **A URL that is read off its text is so with another query**, if nothing is reserved in it. -/
theorem parse_with_query (hread : parse u.text = .ok u) (hrooted : u.isRootless = false)
    (hquery : u.query ≠ none) {query : Option String}
    (hplain : ∀ q, query = some q → ∀ c ∈ q.toList, reservedInSpecialQuery c = false) :
    parse (text { u with query }) = .ok { u with query } := by
  have hclean := clean_parse hread
  have hsome : endText u.query u.fragment ≠ [] := by
    obtain ⟨q, hq⟩ := Option.ne_none_iff_exists'.mp hquery
    rw [hq]
    exact nofun
  have halike := readsAlike_parse (hclean.beforeEnd hrooted)
    (List.mem_append_left _ (colon_mem_beforePath u))
  rw [text_eq] at hread
  obtain ⟨k, v, hv⟩ := halike _ _ hclean.isEnd hread
  have hu : withEnd k v (endText u.query u.fragment) = u :=
    Except.ok.inj ((hv _ hclean.isEnd fun h => absurd h hsome).symm.trans hread)
  rw [text_eq]
  have hother := hv _ (hclean.with_query hplain).isEnd fun h => absurd h hsome
  refine hother.trans (congrArg Except.ok ?_)
  rw [withEnd, readEnd_endText hplain hclean.fragment]
  rw [withEnd] at hu
  rw [← hu]

/-- **What a text that is written of a URL is read as has its query and its fragment**, if nothing
is reserved in them. -/
theorem end_of_parse_text {v : Url} (hclean : u.Clean) (hrooted : u.isRootless = false)
    (hplain : ∀ q, u.query = some q → ∀ c ∈ q.toList, reservedInSpecialQuery c = false)
    (hread : parse u.text = .ok v) : v.query = u.query ∧ v.fragment = u.fragment := by
  have halike := readsAlike_parse (hclean.beforeEnd hrooted)
    (List.mem_append_left _ (colon_mem_beforePath u))
  rw [text_eq] at hread
  obtain ⟨k, w, hw⟩ := halike _ _ hclean.isEnd hread
  have hv : withEnd k w (endText u.query u.fragment) = v :=
    Except.ok.inj ((hw _ hclean.isEnd id).symm.trans hread)
  rw [withEnd, readEnd_endText hplain hclean.fragment] at hv
  rw [← hv]
  exact ⟨rfl, rfl⟩

end LogPipeline.Url
