import LogPipeline.Proofs.Text.Order
import LogPipeline.Proofs.Url.Ending
import LogPipeline.Proofs.Url.Form

/-!
# URLs without credentials

A URL with its credentials replaced is read again as the same URL but for its query, whose pairs are
those of before, with the values of credentials replaced and in the order of their names
(`Sanitized`). And whatever text is logged as a URL, its query shows no credential
(`sanitize_hides_credentials`).
-/

namespace LogPipeline.Url

variable {q : String} {p : String × String} {pairs : List (String × String)} {u : Url}

/-! ## Pairs -/

/-- The first list holds the pairs of the second, in the order of the octets of their names; pairs
of one name keep their order. -/
structure StablySorted (sorted pairs : List (String × String)) : Prop where
  perm : sorted.Perm pairs
  ascending : sorted.Pairwise fun a b => Text.utf8 a.1 ≤ Text.utf8 b.1
  stable : ∀ name, sorted.filter (·.1 = name) = pairs.filter (·.1 = name)

theorem stablySorted_mergeSort (pairs : List (String × String)) :
    StablySorted (pairs.mergeSort fun a b => a.1 ≤ b.1) pairs := by
  have htrans : ∀ a b c : String × String, decide (a.1 ≤ b.1) = true → decide (b.1 ≤ c.1) = true →
      decide (a.1 ≤ c.1) = true := by
    intro a b c hab hbc
    rw [decide_eq_true_eq] at *
    exact String.le_trans hab hbc
  have htotal : ∀ a b : String × String, (decide (a.1 ≤ b.1) || decide (b.1 ≤ a.1)) = true := by
    intro a b
    simpa using String.le_total a.1 b.1
  have hperm := List.mergeSort_perm pairs fun a b => decide (a.1 ≤ b.1)
  refine ⟨hperm, (List.pairwise_mergeSort htrans htotal pairs).imp fun h => ?_, fun name => ?_⟩
  · exact Text.utf8_le_iff.mpr (of_decide_eq_true h)
  · -- pairs of one name may stand in any order, so the sorting leaves them as they were
    have hsame : (pairs.filter (·.1 = name)).Pairwise fun a b => decide (a.1 ≤ b.1) = true := by
      rw [List.pairwise_filter]
      refine List.pairwise_of_forall fun a b ha hb => ?_
      rw [of_decide_eq_true ha, of_decide_eq_true hb]
      exact decide_eq_true (String.le_refl name)
    have hsub := (List.sublist_mergeSort htrans htotal hsame List.filter_sublist).filter
      (·.1 = name)
    rw [List.filter_filter] at hsub
    simp only [Bool.and_self] at hsub
    exact (hsub.eq_of_length (hperm.filter _).length_eq.symm).symm

theorem redactPair_eq (p : String × String) : redactPair p =
    if Text.lowercase p.1 ∈ ["apikey", "password", "token", "key"] then (p.1, "REDACTED")
    else p := by
  rw [redactPair]
  exact if_congr List.contains_iff_mem rfl rfl

theorem redactPair_name (p : String × String) : (redactPair p).1 = p.1 := by
  unfold redactPair
  split <;> rfl

/-- A pair that was redacted is not changed again. -/
theorem redactPair_redactPair (p : String × String) : redactPair (redactPair p) = redactPair p := by
  conv_lhs => rw [redactPair, redactPair_name]
  split
  · rename_i hsensitive
    rw [redactPair, if_pos hsensitive]
  · rfl

/-- Pairs that were sanitized are so. -/
theorem sanitizedPairs_formQuery (q : String) :
    sanitizedPairs (formQuery (sanitizedPairs q)) = sanitizedPairs q := by
  have hkept : (sanitizedPairs q).map redactPair = sanitizedPairs q := by
    refine (List.map_congr_left fun p hp => ?_).trans (List.map_id _)
    obtain ⟨p, -, rfl⟩ := List.mem_map.mp (List.mem_mergeSort.mp hp)
    exact redactPair_redactPair p
  have hsorted := (stablySorted_mergeSort ((formPairs q).map redactPair)).ascending
  conv_lhs => rw [sanitizedPairs, formPairs_formQuery, hkept]
  exact List.mergeSort_of_pairwise (hsorted.imp fun h => decide_eq_true (Text.utf8_le_iff.mp h))

/-- A pair that is shown: one of a credential has no value of its own. -/
theorem value_of_mem_sanitizedPairs (h : p ∈ sanitizedPairs q)
    (hsensitive : Text.lowercase p.1 ∈ ["apikey", "password", "token", "key"]) :
    p.2 = "REDACTED" := by
  obtain ⟨p, -, rfl⟩ := List.mem_map.mp (List.mem_mergeSort.mp h)
  rw [redactPair_name] at hsensitive
  rw [redactPair_eq, if_pos hsensitive]

/-- Nothing in a form is reserved in a query. -/
theorem not_reserved_of_mem_formQuery {c : Char} (h : c ∈ (formQuery pairs).toList) :
    reservedInSpecialQuery c = false := by
  rcases mem_formQuery h with (h | rfl | rfl) | rfl | rfl
  · rcases Bool.or_eq_true_iff.mp h with h | h
    · refine Bool.or_eq_false_iff.mpr ⟨not_reservedInQuery_of_isAlphanum h, ?_⟩
      refine beq_eq_false_iff_ne.mpr ?_
      rintro rfl
      exact absurd h (by decide)
    · simp only [List.contains_iff_mem, List.mem_cons, List.not_mem_nil, or_false] at h
      rcases h with rfl | rfl | rfl | rfl <;> decide
  all_goals decide

/-! ## The URL -/

/-- The query of the sanitized URL. -/
def sanitizedQuery (q : String) : Option String :=
  if (sanitizedPairs q).isEmpty then none else some (formQuery (sanitizedPairs q))

theorem sanitize_eq (hquery : u.query = some q) (hrooted : u.isRootless = false) :
    u.sanitize = { u with query := sanitizedQuery q } := by
  rw [sanitize, hquery]
  dsimp only
  rw [withQuery, hrooted]
  rfl

theorem eq_of_sanitizedQuery {q' : String} (h : sanitizedQuery q = some q') :
    q' = formQuery (sanitizedPairs q) := by
  unfold sanitizedQuery at h
  split at h
  · cases h
  · exact (Option.some.inj h).symm

theorem formPairs_sanitizedQuery (q : String) :
    (sanitizedQuery q).elim [] formPairs = sanitizedPairs q := by
  unfold sanitizedQuery
  split
  · rename_i hempty
    exact (List.isEmpty_iff.mp hempty).symm
  · exact formPairs_formQuery _

theorem sanitizedPairs_eq_nil : sanitizedPairs q = [] ↔ formPairs q = [] := by
  rw [← List.length_eq_zero_iff, sanitizedPairs, List.length_mergeSort, List.length_map,
    List.length_eq_zero_iff]

theorem sanitizedQuery_eq_none : sanitizedQuery q = none ↔ formPairs q = [] := by
  rw [← sanitizedPairs_eq_nil, ← List.isEmpty_iff, sanitizedQuery]
  split <;> simp_all

theorem query_sanitize (u : Url) : u.sanitize.query = u.query.bind sanitizedQuery := by
  unfold sanitize
  split
  · rename_i hnone
    rw [hnone]
    rfl
  · rename_i q hsome
    rw [hsome]
    rfl

/-- Nothing is reserved in the query of a sanitized URL. -/
theorem not_reserved_query_sanitize {q' : String} (h : u.sanitize.query = some q') :
    ∀ c ∈ q'.toList, reservedInSpecialQuery c = false := by
  rw [query_sanitize] at h
  obtain ⟨q, -, hq⟩ := Option.bind_eq_some_iff.mp h
  exact fun c hc => not_reserved_of_mem_formQuery (eq_of_sanitizedQuery hq ▸ hc)

/-- Sanitizing a URL with a path from its root changes nothing but its query. -/
theorem sanitize_eq_with_query (hrooted : u.isRootless = false) :
    u.sanitize = { u with query := u.sanitize.query } := by
  cases hquery : u.query with
  | none =>
    have hnone : u.sanitize = u := by rw [sanitize, hquery]
    rw [hnone]
  | some q => rw [sanitize_eq hquery hrooted]

/-- A sanitized URL is not changed again. -/
theorem sanitize_sanitize (hrooted : u.isRootless = false) : u.sanitize.sanitize = u.sanitize := by
  cases hquery : u.query with
  | none =>
    have hnone : u.sanitize = u := by rw [sanitize, hquery]
    rw [hnone, hnone]
  | some q =>
    rw [sanitize_eq hquery hrooted]
    cases hq : sanitizedQuery q with
    | none => rfl
    | some q' =>
      have hagain : sanitizedQuery q' = some q' := by
        rw [← hq, eq_of_sanitizedQuery hq, sanitizedQuery, sanitizedPairs_formQuery,
          ← sanitizedQuery]
      have hq' := sanitize_eq (u := { u with query := some q' }) rfl hrooted
      rw [hq', hagain]

/-- The second URL is the first without credentials: its query holds the same pairs in the order of
their names, with the values of credentials replaced. -/
structure Sanitized (u v : Url) (q : String) : Prop where
  scheme : v.scheme = u.scheme
  authority : v.authority = u.authority
  path : v.path = u.path
  fragment : v.fragment = u.fragment
  pairs : StablySorted (v.query.elim [] formPairs) ((formPairs q).map fun p =>
    if Text.lowercase p.1 ∈ ["apikey", "password", "token", "key"] then (p.1, "REDACTED") else p)
  query : v.query = none ↔ formPairs q = []
  again : v.sanitize.text = u.sanitize.text

/-- Reading and writing are inverse for the URL with some query. -/
def ReadsBack (u : Url) : Prop :=
  ∃ q, parse (text { u with query := some q }) = .ok { u with query := some q }

/-- A URL that reads back with some query does so with the sanitized one. -/
theorem parse_sanitize (hreads : u.ReadsBack) (hrooted : u.isRootless = false) :
    parse u.sanitize.text = .ok u.sanitize := by
  obtain ⟨q', hread⟩ := hreads
  rw [sanitize_eq_with_query hrooted]
  exact parse_with_query hread hrooted nofun fun _ => not_reserved_query_sanitize

theorem sanitized_sanitize (hquery : u.query = some q) (hrooted : u.isRootless = false) :
    Sanitized u u.sanitize q := by
  have heq := sanitize_eq hquery hrooted
  refine ⟨by rw [heq], by rw [heq], by rw [heq], by rw [heq], ?_, ?_, ?_⟩
  · rw [heq]
    dsimp only
    rw [formPairs_sanitizedQuery, ← funext redactPair_eq]
    exact stablySorted_mergeSort _
  · rw [heq]
    exact sanitizedQuery_eq_none
  · rw [sanitize_sanitize hrooted]

/-! ## The text -/

/-- The query in the text of a URL or reference: what stands behind the first `?`, up to the first
`#`. -/
def writtenQuery (s : String) : Option String :=
  match (s.toList.takeWhile (· != '#')).dropWhile (· != '?') with
  | [] => none
  | _ :: q => some (String.ofList q)

theorem writtenQuery_eq {front : List Char} {query fragment : Option String}
    (hfront : ∀ c ∈ front, c ≠ '?' ∧ c ≠ '#')
    (hquery : ∀ q, query = some q → ∀ c ∈ q.toList, reservedInQuery c = false) :
    writtenQuery (String.ofList (front ++ endText query fragment)) = query := by
  have hmark : ∀ c ∈ front, (c != '#') = true := fun c hc => bne_iff_ne.mpr (hfront c hc).2
  have hquestion : ∀ c ∈ front, (c != '?') = true := fun c hc => bne_iff_ne.mpr (hfront c hc).1
  rw [writtenQuery, String.toList_ofList, List.takeWhile_append_of_pos hmark,
    (split_endText fragment hquery).1, List.dropWhile_append_of_pos hquestion]
  cases query with
  | none => rfl
  | some q => exact congrArg some String.ofList_toList

theorem path_withQuery (u : Url) (query : Option String) :
    ∀ c ∈ (u.withQuery query).path.toList, c ∈ u.path.toList := by
  intro c hc
  unfold withQuery at hc
  dsimp only at hc
  split at hc
  · rw [String.toList_ofList, List.mem_reverse] at hc
    exact List.mem_reverse.mp ((List.dropWhile_suffix _).subset hc)
  · exact hc

theorem path_sanitize (u : Url) : ∀ c ∈ u.sanitize.path.toList, c ∈ u.path.toList := by
  unfold sanitize
  split
  · exact fun _ hc => hc
  · exact path_withQuery u _

/-- What stands before the path of a sanitized URL is as clean as it was, although a path that lost
the spaces at its end may be told from an authority in another way. -/
theorem beforePath_sanitize (hclean : u.Clean) : ∀ c ∈ u.sanitize.beforePath.toList, inFront c := by
  have hscheme : u.sanitize.scheme = u.scheme := by
    unfold sanitize
    split <;> rfl
  have hauthority : u.sanitize.authority = u.authority := by
    unfold sanitize
    split <;> rfl
  refine inFront_beforePath ?_ ?_
  · rw [hscheme]
    exact fun c hc => hclean.before c (by simp [beforePath, hc])
  · rw [hauthority]
    exact fun a ha c hc => hclean.before c (by simp [beforePath, ha, hc])

/-- The query that is shown of a URL is the sanitized one. -/
theorem writtenQuery_sanitize (hclean : u.Clean) :
    writtenQuery u.sanitize.text = u.query.bind sanitizedQuery := by
  rw [text_eq, writtenQuery_eq, query_sanitize]
  · intro c hc
    rcases List.mem_append.mp hc with hc | hc
    · exact (beforePath_sanitize hclean c hc).2
    · exact (hclean.rootless c (path_sanitize u c hc)).2
  · exact fun q' hq' c hc => (Bool.or_eq_false_iff.mp (not_reserved_query_sanitize hq' c hc)).1

/-- The query that is shown of a reference is the sanitized one of the URL that it is seen as. -/
theorem writtenQuery_reference {v : Url} (hseen : u.Seen) (hread : parse u.sanitize.text = .ok v) :
    writtenQuery v.fromPath = u.query.bind sanitizedQuery := by
  have hrooted : u.isRootless = false := by
    rw [isRootless, Option.isNone_eq_false_iff.mpr hseen.authority, Bool.false_and]
  have hplain : ∀ q', u.sanitize.query = some q' →
      ∀ c ∈ q'.toList, reservedInSpecialQuery c = false := fun _ => not_reserved_query_sanitize
  have hsanitize := sanitize_eq_with_query hrooted
  have hclean : u.sanitize.Clean := hsanitize ▸ hseen.clean.with_query hplain
  have hrooted' : u.sanitize.isRootless = false := hsanitize ▸ hrooted
  have hv := clean_parse hread
  have hfrom : v.fromPath = String.ofList (v.path.toList ++ endText v.query v.fragment) := by
    rw [← toList_fromPath, String.ofList_toList]
  rw [hfrom, writtenQuery_eq (fun c hc => (hv.rootless c hc).2) hv.query,
    (end_of_parse_text hclean hrooted' hplain hread).1, query_sanitize]

/-- Whatever text is shown as a URL, its query is a sanitized one. -/
theorem writtenQuery_sanitizeText {raw q' : String}
    (h : writtenQuery (sanitizeText raw) = some q') : ∃ q, sanitizedQuery q = some q' := by
  have hempty : writtenQuery "" = none := by decide
  have hbind : ∀ {query : Option String}, query.bind sanitizedQuery = some q' →
      ∃ q, sanitizedQuery q = some q' := fun h =>
    let ⟨q, _, hq⟩ := Option.bind_eq_some_iff.mp h
    ⟨q, hq⟩
  unfold sanitizeText at h
  split at h
  · rename_i u hparse
    rw [writtenQuery_sanitize (clean_parse hparse)] at h
    exact hbind h
  · rename_i hparse
    split at h
    · rename_i v hread
      cases hjoin : relativeBase.join raw with
      | error e => rw [hjoin] at hread; cases hread
      | ok u =>
        rw [hjoin] at hread
        rw [writtenQuery_reference (seen_join hparse hjoin) hread] at h
        exact hbind h
    · exact absurd (hempty.symm.trans h) nofun
  · exact absurd (hempty.symm.trans h) nofun

/-- **Credentials in URLs are not shown, and all else is kept.** Of a URL with a query and a path
from its root, for which reading and writing are inverse, the sanitized text is read as the same URL
but for the query, which has the same pairs in the order of their names, with the values of
credentials replaced; it is gone if there are none. A URL without a query is left as it is. And of
whatever text, be it a URL, a reference or neither, no query with a credential is shown. -/
theorem sanitize_hides_credentials :
    (∀ (u : Url) q, u.ReadsBack → u.query = some q → u.isRootless = false →
      ∃ v, parse u.sanitize.text = .ok v ∧ Sanitized u v q) ∧
    (∀ u : Url, u.query = none → u.sanitize = u) ∧
    ∀ raw q, writtenQuery (sanitizeText raw) = some q → ∀ p ∈ formPairs q,
      Text.lowercase p.1 ∈ ["apikey", "password", "token", "key"] → p.2 = "REDACTED" := by
  refine ⟨fun u q hreads hquery hrooted => ?_, fun u hquery => by rw [sanitize, hquery], ?_⟩
  · exact ⟨u.sanitize, parse_sanitize hreads hrooted, sanitized_sanitize hquery hrooted⟩
  · intro raw q' hshown p hp hsensitive
    obtain ⟨q, hq⟩ := writtenQuery_sanitizeText hshown
    rw [eq_of_sanitizedQuery hq, formPairs_formQuery] at hp
    exact value_of_mem_sanitizedPairs hp hsensitive

theorem sanitize_hides_credentials_token :
    let u : Url := ⟨"https", some ⟨"", "", "[::1]", none⟩, "/p", some "Token=t&a=1", some "f"⟩
    parse u.text = .ok u ∧ u.isRootless = false ∧
      (∃ v, parse u.sanitize.text = .ok v ∧ Sanitized u v "Token=t&a=1") ∧
      writtenQuery (sanitizeText u.text) = some "Token=REDACTED&a=1" ∧
      ∀ p ∈ formPairs "Token=REDACTED&a=1",
        Text.lowercase p.1 ∈ ["apikey", "password", "token", "key"] → p.2 = "REDACTED" := by
  intro u
  have hread : parse u.text = .ok u := by decide +kernel
  have hpairs : sanitizedPairs "Token=t&a=1" = [("Token", "REDACTED"), ("a", "1")] :=
    (List.mergeSort_of_pairwise (by decide +kernel)).trans (by decide +kernel)
  have hshown : writtenQuery (sanitizeText u.text) = some "Token=REDACTED&a=1" := by
    rw [sanitizeText, hread]
    dsimp only
    rw [writtenQuery_sanitize (clean_parse hread)]
    change sanitizedQuery "Token=t&a=1" = _
    rw [sanitizedQuery, hpairs]
    decide
  exact ⟨hread, rfl, sanitize_hides_credentials.1 u _ ⟨_, hread⟩ rfl rfl, hshown,
    sanitize_hides_credentials.2.2 _ _ hshown⟩

end LogPipeline.Url
