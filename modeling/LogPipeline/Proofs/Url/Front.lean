import LogPipeline.Proofs.Url.Host
import LogPipeline.Proofs.Url.Parts
import LogPipeline.Redaction.Url

/-!
# What stands before a query

In the text of a URL that was read, the first `?` begins the query and the first `#` the fragment:
no part before them holds such a character, nor a blank (`clean_parse`). So it is with a reference
that was read as seen from another URL (`seen_join`).
-/

namespace LogPipeline.Url

/-- The character may stand before the query where the path stands for itself: it may be a space. -/
def inRootless (c : Char) : Prop := 0x20 ≤ c.toNat ∧ c ≠ '?' ∧ c ≠ '#'

instance (c : Char) : Decidable (inRootless c) := inferInstanceAs (Decidable (_ ∧ _ ∧ _))

/-- The parts of a URL are written with characters that may stand in them. -/
structure Clean (u : Url) : Prop where
  before : ∀ c ∈ u.beforePath.toList, inFront c
  path : u.isRootless = false → ∀ c ∈ u.path.toList, inFront c
  rootless : ∀ c ∈ u.path.toList, inRootless c
  query : ∀ q, u.query = some q → ∀ c ∈ q.toList, reservedInQuery c = false
  fragment : ∀ f, u.fragment = some f → ∀ c ∈ f.toList, reservedInFragment c = false

variable {k : SchemeKind} {c : Char} {cs : List Char} {r : PathReader} {u base : Url}
  {scheme : String}

theorem inFront.inRootless (h : inFront c) : inRootless c := ⟨Nat.le_of_lt h.1, h.2⟩

theorem inFront_empty : ∀ c ∈ "".toList, inFront c := fun _ h => nomatch h

/-! ## Paths -/

/-- The segments that were read may stand before a query. -/
def PathReader.Clean (r : PathReader) : Prop := ∀ segment ∈ r.done, ∀ c ∈ segment, inFront c

theorem PathReader.Clean.empty : Clean {} := fun _ h => nomatch h

theorem inFront_of_isDrive (hdrive : isDrive cs = true) (h : c ∈ cs) : inFront c := by
  unfold isDrive at hdrive
  split at hdrive
  · rename_i letter mark
    simp only [Bool.and_eq_true, Bool.or_eq_true, beq_iff_eq] at hdrive
    obtain ⟨hletter, hmark⟩ := hdrive
    rcases List.mem_cons.mp h with rfl | h
    · exact inFront_of_isAlphanum (by simp [Char.isAlphanum, hletter])
    · obtain rfl := List.mem_singleton.mp h
      rcases hmark with rfl | rfl <;> decide
  · cases hdrive

theorem PathReader.Clean.add (h : r.Clean) (k : SchemeKind) : (r.add k).Clean := by
  unfold PathReader.add
  dsimp only
  split
  · rename_i hdrive
    simp only [Bool.and_eq_true] at hdrive
    intro segment hsegment c hc
    obtain rfl := List.mem_singleton.mp hsegment
    rcases List.mem_append.mp hc with hc | hc
    · exact inFront_of_isDrive hdrive.2 (List.mem_of_mem_take hc)
    · obtain rfl := List.mem_singleton.mp hc
      decide
  · intro segment hsegment c hc
    rcases List.mem_cons.mp hsegment with rfl | hsegment
    · exact inFront_of_mem_percentEncode (fun _ => inFront_of_not_reservedInPath) hc
    · exact h segment hsegment c hc

theorem mem_popSegment {segments : List (List Char)} {segment : List Char}
    (h : segment ∈ popSegment segments) : segment ∈ segments := by
  unfold popSegment at h
  split at h
  · exact h
  · split at h
    · exact h
    · exact List.mem_cons_of_mem _ h

theorem PathReader.Clean.close (h : r.Clean) (k : SchemeKind) : (r.close k).Clean := by
  unfold PathReader.close
  dsimp only
  split
  · exact h.add k
  · split
    · exact fun segment hsegment => h segment (mem_popSegment hsegment)
    · split
      · exact h
      · exact h.add k

theorem PathReader.Clean.finish (h : r.Clean) (k : SchemeKind) : (r.finish k).Clean := by
  unfold PathReader.finish
  dsimp only
  split
  · intro segment hsegment c hc
    rcases List.mem_cons.mp hsegment with rfl | hsegment
    · cases hc
    · exact h.close k segment hsegment c hc
  · exact h.close k

theorem clean_readSegments (h : r.Clean) (k : SchemeKind) (cs : List Char) :
    (readSegments k r cs).1.Clean := by
  fun_induction readSegments k r cs with
  | case1 r => exact h.finish k
  | case2 r c rest hslash ih => exact ih (h.close k)
  | case3 r c rest hslash hmark => exact h.finish k
  | case4 r c rest hslash hmark hbreak next hdrive ih =>
    refine ih fun segment hsegment c hc => ?_
    obtain rfl := List.mem_singleton.mp hsegment
    simp only [PathReader.isDriveOnly, Bool.and_eq_true] at hdrive
    exact inFront_of_isDrive hdrive.1.1.2 hc
  | case5 r c rest hslash hmark hbreak next hdrive ih => exact ih h
  | case6 r c rest hslash hmark hbreak ih => exact ih h

theorem clean_readPath (k : SchemeKind) (cs : List Char) : (readPath k cs).1.Clean := by
  unfold readPath
  split
  · split
    · exact clean_readSegments .empty k _
    · exact clean_readSegments .empty k _
  · exact clean_readSegments .empty k _

theorem PathReader.Clean.pathText (h : r.Clean) (hc : c ∈ (pathText r.segments).toList) :
    inFront c := by
  rw [Url.pathText, String.toList_ofList] at hc
  obtain ⟨segment, hsegment, hc⟩ := List.mem_flatMap.mp hc
  rcases List.mem_cons.mp hc with rfl | hc
  · decide
  · exact h segment (List.mem_reverse.mp hsegment) c hc

theorem PathReader.Clean.filePath (h : r.Clean) (hc : c ∈ (filePath r.segments).toList) :
    inFront c := by
  rw [Url.filePath, String.toList_ofList] at hc
  rcases List.mem_cons.mp hc with rfl | hc
  · decide
  · exact h.pathText ((List.dropWhile_suffix _).subset hc)

/-! ## Authorities -/

variable {a : Authority}

theorem inFront_of_not_reservedInUser (h : reservedInUser c = false) : inFront c :=
  inFront_of_not_reservedInPath (Bool.or_eq_false_iff.mp h).1

theorem inFront_userParts (user : List Char) :
    (∀ c ∈ (userParts user).1.toList, inFront c) ∧ ∀ c ∈ (userParts user).2.toList, inFront c := by
  constructor <;> intro c hc
  · rw [userParts, String.toList_ofList] at hc
    exact inFront_of_mem_percentEncode (fun _ => inFront_of_not_reservedInUser) hc
  · rw [userParts, String.toList_ofList] at hc
    exact inFront_of_mem_percentEncode (fun _ => inFront_of_not_reservedInUser) hc

/-- An authority is written with what its parts are written with. -/
theorem inFront_authority {username password host : String} {port : Option Nat}
    (hname : ∀ c ∈ username.toList, inFront c) (hpassword : ∀ c ∈ password.toList, inFront c)
    (hhost : ∀ c ∈ host.toList, inFront c)
    (h : c ∈ (Authority.text ⟨username, password, host, port⟩).toList) : inFront c := by
  rw [Authority.text, String.toList_append, String.toList_append, List.mem_append,
    List.mem_append] at h
  rcases h with (h | h) | h
  · unfold Authority.userText at h
    split at h
    · cases h
    · rw [String.toList_append, String.toList_append, List.mem_append, List.mem_append] at h
      rcases h with (h | h) | h
      · exact hname c h
      · split at h
        · cases h
        · rcases List.mem_append.mp (String.toList_append ▸ h) with h | h
          · exact inFront_mark ":" (by simp) c h
          · exact hpassword c h
      · exact inFront_mark "@" (by simp) c h
  · exact hhost c h
  · split at h
    · rcases List.mem_append.mp (String.toList_append ▸ h) with h | h
      · exact inFront_mark ":" (by simp) c h
      · exact inFront_toString h
    · cases h

theorem inFront_readHost {hostText : List Char} {host : String}
    (hread : readHost scheme hostText = .ok host) (h : c ∈ host.toList) : inFront c := by
  unfold readHost at hread
  split at hread
  · exact inFront_otherHost? hread h
  · exact inFront_specialHost? hread h

/-- An authority that was read is clean. -/
theorem clean_readAuthority {rest : List Char} (h : readAuthority scheme cs = .ok (a, rest)) :
    ∀ c ∈ a.text.toList, inFront c := by
  obtain ⟨all, behind, hread⟩ := readAuthority_ok h
  obtain ⟨⟨user, hostText, host, port, hhost, rfl⟩, -⟩ := authorityOf_ok hread
  obtain ⟨hname, hpassword⟩ := inFront_userParts user
  exact fun c hc => inFront_authority hname hpassword (fun c => inFront_readHost hhost) hc

/-! ## What follows the path -/

theorem contains_of_isAlphanum {marks : List Char} (hmarks : marks.any Char.isAlphanum = false)
    (h : c.isAlphanum = true) : marks.contains c = false := by
  rw [List.contains_eq_mem, decide_eq_false_iff_not]
  exact fun hc => List.any_eq_false.mp hmarks c hc h

theorem not_reservedAlways_of_isAlphanum (h : c.isAlphanum = true) : reservedAlways c = false := by
  have hrange := isAlphanum_toNat h
  simp only [reservedAlways, Bool.or_eq_false_iff, decide_eq_false_iff_not]
  omega

theorem not_reservedInQuery_of_isAlphanum (h : c.isAlphanum = true) : reservedInQuery c = false := by
  rw [reservedInQuery, not_reservedAlways_of_isAlphanum h, Bool.false_or]
  exact contains_of_isAlphanum (by decide) h

/-- Percent-encoded text holds nothing that is reserved, where the marks of an escape are not. -/
theorem not_reserved_of_mem_percentEncode {reserved other : Char → Bool}
    (hreserved : ∀ c, reserved c = false → other c = false) (hpercent : other '%' = false)
    (halphanum : ∀ c, c.isAlphanum = true → other c = false) (h : c ∈ percentEncode reserved cs) :
    other c = false := by
  rcases mem_percentEncode h with ⟨-, hc⟩ | rfl | hc
  · exact hreserved c hc
  · exact hpercent
  · exact halphanum c hc

theorem clean_readEnd (k : SchemeKind) (cs : List Char) :
    (∀ q, (readEnd k cs).1 = some q → ∀ c ∈ q.toList, reservedInQuery c = false) ∧
      ∀ f, (readEnd k cs).2 = some f → ∀ c ∈ f.toList, reservedInFragment c = false := by
  constructor
  · intro q hq c hc
    unfold readEnd at hq
    dsimp only at hq
    split at hq
    · obtain rfl := Option.some.inj hq
      rw [String.toList_ofList] at hc
      refine not_reserved_of_mem_percentEncode (fun c h => ?_) (by decide) (fun c h => ?_) hc
      · split at h
        · exact h
        · exact (Bool.or_eq_false_iff.mp h).1
      · exact not_reservedInQuery_of_isAlphanum h
    · cases hq
  · intro f hf c hc
    unfold readEnd at hf
    dsimp only at hf
    split at hf
    · obtain rfl := Option.some.inj hf
      rw [String.toList_ofList] at hc
      refine not_reserved_of_mem_percentEncode (fun _ h => h) (by decide) (fun c h => ?_) hc
      rw [reservedInFragment, not_reservedAlways_of_isAlphanum h, Bool.false_or]
      exact contains_of_isAlphanum (by decide) h
    · cases hf

/-! ## URLs -/

theorem inFront_beforePath (hscheme : ∀ c ∈ u.scheme.toList, inFront c)
    (hauthority : ∀ a, u.authority = some a → ∀ c ∈ a.text.toList, inFront c) :
    ∀ c ∈ u.beforePath.toList, inFront c := by
  intro c hc
  rw [beforePath, String.toList_append, String.toList_append, List.mem_append,
    List.mem_append] at hc
  rcases hc with (hc | hc) | hc
  · exact hscheme c hc
  · exact inFront_mark ":" (by simp) c hc
  · split at hc
    · rename_i a ha
      rcases List.mem_append.mp (String.toList_append ▸ hc) with hc | hc
      · exact inFront_mark "//" (by simp) c hc
      · exact hauthority a ha c hc
    · split at hc
      · exact inFront_mark "/." (by simp) c hc
      · cases hc

/-- A URL is clean if what stands before the path is and the path could be one of segments. -/
theorem Clean.of_path (hscheme : ∀ c ∈ u.scheme.toList, inFront c)
    (hauthority : ∀ a, u.authority = some a → ∀ c ∈ a.text.toList, inFront c)
    (hpath : ∀ c ∈ u.path.toList, inFront c)
    (hend : ∃ cs, (u.query, u.fragment) = readEnd k cs) : u.Clean := by
  obtain ⟨cs, hend⟩ := hend
  obtain ⟨hquery, hfragment⟩ := clean_readEnd k cs
  rw [← hend] at hquery hfragment
  exact ⟨inFront_beforePath hscheme hauthority, fun _ => hpath,
    fun c hc => (hpath c hc).inRootless, hquery, hfragment⟩

theorem PathReader.Clean.pathBehind (k : SchemeKind) (rest : List Char) :
    (pathBehind k rest).1.Clean := by
  unfold Url.pathBehind
  split
  · exact clean_readPath k rest
  · exact .empty

theorem Clean.withAuthority (hscheme : ∀ c ∈ scheme.toList, inFront c)
    (ha : ∀ c ∈ a.text.toList, inFront c) (rest : List Char) :
    (withAuthority scheme a rest).Clean :=
  .of_path (k := SchemeKind.of scheme) hscheme (fun _ h => Option.some.inj h ▸ ha)
    (fun _ hc => (PathReader.Clean.pathBehind (SchemeKind.of scheme) rest).pathText hc) ⟨_, rfl⟩

theorem clean_afterSlashes (hscheme : ∀ c ∈ scheme.toList, inFront c)
    (h : afterSlashes scheme cs = .ok u) : u.Clean := by
  obtain ⟨a, rest, hread, rfl⟩ := afterSlashes_ok h
  exact .withAuthority hscheme (clean_readAuthority hread) rest

theorem clean_fileUrl {host : String} (hhost : ∀ c ∈ host.toList, inFront c) (hr : r.Clean)
    (behind : List Char) : (fileUrl host r behind).Clean := by
  have hfile : ∀ c ∈ "file".toList, inFront c := List.all_iff_forall_prop.mp (by decide)
  refine .of_path (k := .file) hfile (fun a ha => ?_) (fun c hc => hr.filePath hc) ⟨_, rfl⟩
  obtain rfl := Option.some.inj ha
  refine fun c hc => inFront_authority inFront_empty inFront_empty ?_ hc
  split
  · exact inFront_empty
  · exact hhost

theorem clean_fileWithHost {hostText after : List Char}
    (h : fileWithHost hostText after = .ok u) : u.Clean := by
  unfold fileWithHost at h
  split at h
  · cases h
  · rename_i host hread
    have hhost : ∀ c ∈ host.toList, inFront c := by
      split at hread
      · exact Except.ok.inj hread ▸ inFront_empty
      · exact fun c hc => inFront_specialHost? hread hc
    obtain rfl := Except.ok.inj h
    refine clean_fileUrl ?_ ?_ _
    · split
      · exact inFront_empty
      · exact hhost
    · split
      · exact clean_readSegments .empty _ _
      · exact clean_readPath _ _

theorem clean_readFile (h : readFile cs = .ok u) : u.Clean := by
  unfold readFile at h
  dsimp only at h
  split at h
  · rw [afterFileSlashes_eq] at h
    dsimp only at h
    split at h
    · exact Except.ok.inj h ▸ clean_fileUrl inFront_empty (clean_readSegments .empty _ _) _
    · exact clean_fileWithHost h
  · exact Except.ok.inj h ▸ clean_fileUrl inFront_empty (clean_readPath _ _) _

/-- Percent encoding puts nothing but a percent sign in front. -/
theorem head_of_percentEncode {reserved : Char → Bool} {rest : List Char} (hc : c ≠ '%')
    (h : percentEncode reserved cs = c :: rest) : ∃ rest', cs = c :: rest' := by
  cases cs with
  | nil => cases h
  | cons d cs =>
    rw [percentEncode, List.flatMap_cons, percentChar] at h
    split at h
    · obtain ⟨b, octets, hencode, -⟩ := Text.utf8Head_encode d []
      rw [hencode, List.flatMap_cons, percentOctet] at h
      exact absurd (List.cons.inj h).1.symm hc
    · exact ⟨cs, by rw [(List.cons.inj h).1]⟩

/-- A path that stands for itself may hold spaces, but no mark of what follows it. -/
theorem clean_withoutAuthority (hscheme : ∀ c ∈ scheme.toList, inFront c) (cs : List Char) :
    (withoutAuthority scheme cs).Clean := by
  by_cases hslash : ∃ rest, cs = '/' :: rest
  · obtain ⟨rest, rfl⟩ := hslash
    rw [withoutAuthority_rooted]
    exact .of_path (k := .other) hscheme (by simp [withEnd])
      (fun c hc => (clean_readSegments .empty .other rest).pathText hc) ⟨_, rfl⟩
  · have hnone : ∀ rest, cs ≠ '/' :: rest := fun rest hrest => hslash ⟨rest, hrest⟩
    rw [withoutAuthority_rootless hnone]
    obtain ⟨hquery, hfragment⟩ := clean_readEnd .other (cs.dropWhile fun c => c != '?' && c != '#')
    have hpath : ∀ c ∈ percentEncode reservedAlways (cs.takeWhile fun c => c != '?' && c != '#'),
        inRootless c := by
      intro c hc
      rcases mem_percentEncode hc with ⟨hc, hreserved⟩ | rfl | halphanum
      · have hmark := List.all_eq_true.mp List.all_takeWhile c hc
        simp only [Bool.and_eq_true, bne_iff_ne] at hmark
        simp only [reservedAlways, Bool.or_eq_false_iff, decide_eq_false_iff_not] at hreserved
        exact ⟨by omega, hmark⟩
      · decide
      · exact (inFront_of_isAlphanum halphanum).inRootless
    refine ⟨inFront_beforePath hscheme (by simp [withEnd]), fun hrooted => ?_,
      fun c hc => hpath c ?_, hquery, hfragment⟩
    · simp only [withEnd, isRootless, Option.isNone_none, Bool.true_and, Bool.not_eq_false',
        String.startsWith_string_iff, String.toList_ofList] at hrooted
      obtain ⟨rest, hrest⟩ := hrooted
      obtain ⟨rest, hrest⟩ := head_of_percentEncode (by decide) hrest.symm
      obtain ⟨behind, hcs⟩ := List.takeWhile_prefix (l := cs) fun c => c != '?' && c != '#'
      exact absurd (hcs.symm.trans (congrArg (· ++ behind) hrest)) (hnone (rest ++ behind))
    · rwa [withEnd, String.toList_ofList] at hc

theorem inFront_of_inScheme (h : inScheme c = true) : inFront c.toLower := by
  have hascii : ∀ n < 0x80, inScheme (Char.ofNat n) = true → inFront (Char.ofNat n).toLower := by
    decide
  have hlt : c.toNat < 0x80 := by
    simp only [inScheme, Bool.or_eq_true, beq_iff_eq] at h
    rcases h with ((h | rfl) | rfl) | rfl
    · have hrange := isAlphanum_toNat h
      omega
    all_goals decide
  have hchar := hascii c.toNat hlt
  rw [Char.ofNat_toNat] at hchar
  exact hchar h

theorem inFront_splitScheme {rest : List Char} (h : splitScheme cs = some (scheme, rest)) :
    ∀ c ∈ scheme.toList, inFront c := by
  unfold splitScheme at h
  dsimp only at h
  split at h
  · cases h
  · split at h
    · rename_i hscheme
      obtain ⟨rfl, -⟩ := Prod.mk.inj (Option.some.inj h)
      intro c hc
      rw [Text.asciiLower, String.toList_map, String.toList_ofList] at hc
      obtain ⟨d, hd, rfl⟩ := List.mem_map.mp hc
      exact inFront_of_inScheme (List.all_eq_true.mp (Bool.and_eq_true_iff.mp hscheme).2 d hd)
    · cases h

theorem clean_withScheme (hscheme : ∀ c ∈ scheme.toList, inFront c)
    (h : withScheme scheme cs = .ok u) : u.Clean := by
  unfold withScheme at h
  split at h
  · exact clean_readFile h
  · exact clean_afterSlashes hscheme h
  · split at h
    · exact clean_afterSlashes hscheme h
    · exact Except.ok.inj h ▸ clean_withoutAuthority hscheme _

/-- **The first `?` of a URL that was read begins its query, and the first `#` its fragment.** -/
theorem clean_parse {s : String} (h : parse s = .ok u) : u.Clean := by
  unfold parse at h
  split at h
  · rename_i scheme rest hscheme
    exact clean_withScheme (inFront_splitScheme hscheme) h
  · cases h

/-! ## References -/

/-- A URL with a scheme that needs an authority, and all parts clean. -/
structure Seen (u : Url) : Prop where
  clean : u.Clean
  special : SchemeKind.of u.scheme = .special
  authority : u.authority.isSome = true

theorem Seen.withEnd (h : u.Seen) (cs : List Char) :
    Seen { u with query := (readEnd k cs).1, fragment := (readEnd k cs).2 } :=
  ⟨⟨h.clean.before, h.clean.path, h.clean.rootless, (clean_readEnd k cs).1, (clean_readEnd k cs).2⟩,
    h.special, h.authority⟩

theorem inFront_http : ∀ c ∈ relativeBase.scheme.toList, inFront c :=
  List.all_iff_forall_prop.mp (by decide)

theorem seen_relativeBase : relativeBase.Seen where
  clean := ⟨List.all_iff_forall_prop.mp (by decide),
    fun _ => List.all_iff_forall_prop.mp (by decide),
    List.all_iff_forall_prop.mp (by decide), nofun, nofun⟩
  special := by decide
  authority := rfl

theorem seen_below {segments : List (List Char)}
    (hsegments : PathReader.Clean { done := segments })
    (h : relativeTo.below relativeBase segments cs = .ok u) : u.Seen := by
  obtain rfl := Except.ok.inj h
  have hr := clean_readSegments hsegments .special cs
  refine ⟨.of_path (k := .special) ?_ ?_ (fun c hc => hr.pathText hc) ⟨_, rfl⟩,
    seen_relativeBase.special, rfl⟩
  · exact inFront_http
  · exact fun a ha => Option.some.inj ha ▸ List.all_iff_forall_prop.mp (by decide)

theorem seen_afterSlashes (h : afterSlashes relativeBase.scheme cs = .ok u) : u.Seen := by
  have hclean := clean_afterSlashes inFront_http h
  obtain ⟨a, rest, -, rfl⟩ := afterSlashes_ok h
  exact ⟨hclean, seen_relativeBase.special, rfl⟩

theorem seen_relativeTo (h : relativeTo relativeBase cs = .ok u) : u.Seen := by
  have hparent : (parentSegments relativeBase.path).reverse = [] := by decide
  unfold relativeTo at h
  dsimp only at h
  split at h
  · exact Except.ok.inj h ▸ seen_relativeBase
  · rename_i rest
    exact Except.ok.inj h ▸ seen_relativeBase.withEnd (k := .special) ('#' :: rest)
  · exact Except.ok.inj h ▸ seen_relativeBase.withEnd _
  · split at h
    · split at h
      · exact seen_afterSlashes h
      · split at h
        · exact seen_afterSlashes h
        · exact seen_below .empty h
      · exact seen_below .empty h
    · exact seen_below .empty (hparent ▸ h)

/-- **What a reference is seen as is clean, with the scheme of its base and an authority.** -/
theorem seen_join {s : String} {e : Error} (hparse : parse s = .error e)
    (h : relativeBase.join s = .ok u) : u.Seen := by
  unfold parse at hparse
  unfold join at h
  split at h
  · rename_i scheme rest hsplit
    rw [hsplit] at hparse
    dsimp only at h
    split at h
    · exact seen_relativeTo h
    · exact absurd (h.symm.trans hparse) nofun
  · exact seen_relativeTo h

end LogPipeline.Url
