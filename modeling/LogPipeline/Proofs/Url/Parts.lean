import LogPipeline.Url.Parser

/-!
# Reading URLs part by part

What the readers of URLs do, told without their intermediate failures: an authority is read from its
text alone (`readAuthority_eq`), a URL is that authority with the path and the end behind it
(`afterSlashes_eq`), and a file is read in the same way with a host (`afterFileSlashes_eq`).
-/

namespace LogPipeline.Url

variable {scheme : String} {cs all behind : List Char} {c : Char} {a : Authority} {u : Url}

/-! ## Authorities -/

/-- Reads the host of an authority. -/
def readHost (scheme : String) (cs : List Char) : Except Error String :=
  if SchemeKind.of scheme == .other then otherHost? cs else specialHost? cs

/-- The authority with a host that was read, and what is left behind its port. -/
def authorityWith (scheme : String) (user : String × String) (portText : Option (List Char))
    (host : String) : Except Error (Authority × List Char) :=
  if host.isEmpty && portText.isSome then .error .emptyHost
  else
    match portText.elim (.ok (none, [])) (readPort scheme) with
    | .error e => .error e
    | .ok (port, behind) =>
      if host.isEmpty && !(user.1.isEmpty && user.2.isEmpty) then .error .emptyHost
      else .ok (⟨user.1, user.2, host, port⟩, behind)

/-- An authority, from its text without what follows it. -/
def authorityOf (scheme : String) (all : List Char) : Except Error (Authority × List Char) :=
  let (user, rest) := splitUser all
  let (hostText, portText) := splitPort false rest
  if hostText.isEmpty && SchemeKind.of scheme == .special then .error .emptyHost
  else (readHost scheme hostText).bind (authorityWith scheme (userParts (user.getD [])) portText)

/-- What is read of an authority, and what of the text behind it. -/
theorem readAuthority_eq (scheme : String) (cs : List Char) :
    readAuthority scheme cs =
      let all := cs.takeWhile (!(SchemeKind.of scheme).endsAuthority ·)
      let after := cs.dropWhile (!(SchemeKind.of scheme).endsAuthority ·)
      if (splitUser all).1 == some [] && (splitUser all).2.isEmpty && !after.isEmpty then
        .error .emptyHost
      else (authorityOf scheme all).map fun p => (p.1, p.2 ++ after) := by
  unfold readAuthority authorityOf readHost authorityWith
  dsimp only
  rcases splitUser _ with ⟨user, rest⟩
  rcases splitPort false rest with ⟨hostText, portText⟩
  dsimp only
  split
  · rfl
  · split
    · rfl
    · -- the host is read first, whichever way, and the rest is the same
      have hhost : ∀ next : String → Except Error (Authority × List Char),
          (if (SchemeKind.of scheme == .other) = true then otherHost? hostText >>= next
            else specialHost? hostText >>= next) =
          (if (SchemeKind.of scheme == .other) = true then otherHost? hostText
            else specialHost? hostText) >>= next := fun next => by split <;> rfl
      refine (hhost _).trans ?_
      cases (if (SchemeKind.of scheme == .other) = true then otherHost? hostText
        else specialHost? hostText) with
      | error e => rfl
      | ok host =>
        simp only [bind, Except.bind, pure, Except.pure]
        split
        · rfl
        · cases portText with
          | none =>
            dsimp only [Option.elim]
            split <;> rfl
          | some digits =>
            dsimp only [Option.elim]
            cases readPort scheme digits with
            | error e => rfl
            | ok p =>
              dsimp only
              split <;> rfl

theorem mem_splitUser (h : c ∈ (splitUser cs).2) : c ∈ cs := by
  unfold splitUser at h
  split at h
  · exact h
  · exact List.mem_reverse.mp ((List.takeWhile_prefix _).subset (List.mem_reverse.mp h))

theorem mem_splitPort {inBrackets : Bool} {digits : List Char}
    (hsplit : (splitPort inBrackets cs).2 = some digits) (h : c ∈ digits) : c ∈ cs := by
  induction cs generalizing inBrackets with
  | nil => cases hsplit
  | cons d cs ih =>
    rw [splitPort] at hsplit
    split at hsplit
    · obtain rfl := Option.some.inj hsplit
      exact List.mem_cons_of_mem _ h
    · exact List.mem_cons_of_mem _ (ih hsplit)

theorem mem_readPort {port : Option Nat} (hread : readPort scheme cs = .ok (port, behind))
    (h : c ∈ behind) : c ∈ cs := by
  have hrest : behind = cs.dropWhile Char.isDigit := by
    unfold readPort at hread
    dsimp only at hread
    split at hread
    · cases hread
    · split at hread
      · exact (Prod.mk.inj (Except.ok.inj hread)).2.symm
      · exact (Prod.mk.inj (Except.ok.inj hread)).2.symm
      · cases hread
  exact (List.dropWhile_suffix _).subset (hrest ▸ h)

/-- An authority that was read has a host that was read and the parts of a user, and what is left of
its text is some of that. -/
theorem authorityOf_ok (h : authorityOf scheme all = .ok (a, behind)) :
    (∃ user hostText host port, readHost scheme hostText = .ok host ∧
      a = ⟨(userParts user).1, (userParts user).2, host, port⟩) ∧ ∀ c ∈ behind, c ∈ all := by
  unfold authorityOf at h
  cases huser : splitUser all with
  | mk user rest =>
  cases hport : splitPort false rest with
  | mk hostText portText =>
  simp only [huser, hport] at h
  split at h
  · cases h
  · cases hhost : readHost scheme hostText with
    | error e => simp [hhost, Except.bind] at h
    | ok host =>
      simp only [hhost, Except.bind, authorityWith] at h
      split at h
      · cases h
      · split at h
        · cases h
        · rename_i port left hread
          split at h
          · cases h
          · obtain ⟨rfl, rfl⟩ := Prod.mk.inj (Except.ok.inj h)
            refine ⟨⟨user.getD [], hostText, host, port, hhost, rfl⟩, fun c hc => ?_⟩
            cases portText with
            | none =>
              obtain ⟨-, rfl⟩ := Prod.mk.inj (Except.ok.inj hread)
              cases hc
            | some digits =>
              have hdigits : c ∈ digits := mem_readPort hread hc
              have hrest : c ∈ rest := mem_splitPort (congrArg Prod.snd hport) hdigits
              exact mem_splitUser (show c ∈ (splitUser all).2 from huser ▸ hrest)

theorem readAuthority_ok {rest : List Char} (h : readAuthority scheme cs = .ok (a, rest)) :
    ∃ all behind, authorityOf scheme all = .ok (a, behind) := by
  rw [readAuthority_eq] at h
  dsimp only at h
  split at h
  · cases h
  · cases hread : authorityOf scheme (cs.takeWhile (!(SchemeKind.of scheme).endsAuthority ·)) with
    | error e => simp [hread, Except.map] at h
    | ok p =>
      obtain ⟨a', behind⟩ := p
      simp only [hread, Except.map, Except.ok.injEq, Prod.mk.injEq] at h
      exact ⟨_, behind, h.1 ▸ hread⟩

/-! ## URLs -/

/-- The URL with the query and fragment of a text for its own. -/
def withEnd (k : SchemeKind) (u : Url) (tail : List Char) : Url :=
  { u with query := (readEnd k tail).1, fragment := (readEnd k tail).2 }

/-- The path behind an authority, which may be missing, and what follows it. -/
def pathBehind (k : SchemeKind) (rest : List Char) : PathReader × List Char :=
  if k != .other || !(rest.isEmpty || rest.head? == some '?' || rest.head? == some '#') then
    readPath k rest
  else ({}, rest)

/-- The URL of an authority and the text behind it. -/
def withAuthority (scheme : String) (a : Authority) (rest : List Char) : Url :=
  let k := SchemeKind.of scheme
  let (path, behind) := pathBehind k rest
  ⟨scheme, some a, pathText path.segments, (readEnd k behind).1, (readEnd k behind).2⟩

theorem afterSlashes_eq (scheme : String) (cs : List Char) :
    afterSlashes scheme cs =
      (readAuthority scheme cs).map fun p => withAuthority scheme p.1 p.2 := by
  unfold afterSlashes
  cases readAuthority scheme cs <;> rfl

/-- The URL of a file with the host in a text, if that is one. -/
def fileWithHost (hostText after : List Char) : Except Error Url :=
  match if hostText.isEmpty then .ok "" else specialHost? hostText with
  | .error e => .error e
  | .ok host =>
    let path :=
      if host.isEmpty || host == "localhost" then readSegments .file {} after
      else readPath .file after
    .ok (fileUrl (if host == "localhost" then "" else host) path.1 path.2)

theorem afterFileSlashes_eq (cs : List Char) : afterFileSlashes cs =
    let hostText := withoutBreaks (cs.takeWhile (!SchemeKind.file.endsAuthority ·))
    let path := readSegments .file {} cs
    if isDrive hostText then .ok (fileUrl "" path.1 path.2)
    else fileWithHost hostText (cs.dropWhile (!SchemeKind.file.endsAuthority ·)) := by
  unfold afterFileSlashes fileWithHost
  dsimp only
  split
  · rfl
  · have hhost : ∀ (text : List Char) (next : String → Except Error Url),
        (if text.isEmpty = true then pure "" >>= next else specialHost? text >>= next) =
          (if text.isEmpty = true then .ok "" else specialHost? text) >>= next :=
      fun text next => by split <;> rfl
    refine (hhost _ _).trans ?_
    cases (if (withoutBreaks (cs.takeWhile (!SchemeKind.file.endsAuthority ·))).isEmpty = true
      then .ok "" else specialHost? _) with
    | error e => rfl
    | ok host =>
      simp only [bind, Except.bind, pure, Except.pure]
      cases hlocal : host == "localhost" with
      | true => simp
      | false =>
        cases hempty : host.isEmpty with
        | false => rfl
        | true =>
          obtain rfl := String.isEmpty_iff.mp hempty
          rfl

theorem afterSlashes_ok (h : afterSlashes scheme cs = .ok u) :
    ∃ a rest, readAuthority scheme cs = .ok (a, rest) ∧ withAuthority scheme a rest = u := by
  rw [afterSlashes_eq] at h
  cases hread : readAuthority scheme cs with
  | error e => simp [hread, Except.map] at h
  | ok p =>
    obtain ⟨a, rest⟩ := p
    exact ⟨a, rest, rfl, Except.ok.inj (hread ▸ h)⟩

theorem withoutAuthority_rooted (scheme : String) (rest : List Char) :
    withoutAuthority scheme ('/' :: rest) =
      withEnd .other ⟨scheme, none, pathText (readSegments .other {} rest).1.segments, none, none⟩
        (readSegments .other {} rest).2 :=
  rfl

theorem withoutAuthority_rootless (h : ∀ rest, cs ≠ '/' :: rest) :
    withoutAuthority scheme cs =
      withEnd .other ⟨scheme, none, String.ofList (percentEncode reservedAlways
        (cs.takeWhile fun c => c != '?' && c != '#')), none, none⟩
        (cs.dropWhile fun c => c != '?' && c != '#') := by
  unfold withoutAuthority
  split
  · rename_i rest
    exact absurd rfl (h rest)
  · rfl

end LogPipeline.Url
