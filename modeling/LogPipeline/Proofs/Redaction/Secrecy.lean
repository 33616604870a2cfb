import LogPipeline.Proofs.Redaction.Stage
import Mathlib.Data.List.Forall2

/-!
# Redacted values are secret

Two runs of a chain behind a redaction stage that differ in nothing but what the keys of the moment
redact cannot be told apart (`redaction_noninterference`): each event has the same result and leaves
the same state, hence every sink with the same contents.

`AttrsAlike` is what the two runs agree on. Merging keeps it, at whatever depth and under whatever
groups the attributes are put (`AttrsAlike.place`), and redaction turns it into equality
(`AttrsAlike.redact`).
-/

namespace LogPipeline

mutual

/-- Two values that differ in nothing but what the keys redact inside. -/
def Value.Alike (keys : KeySet) : Value → Value → Prop
  | .group as, .group bs => AttrsAlike keys as bs
  | v, v' => v = v'

/-- Two lists of attributes that differ in nothing but what the keys redact: below a key that is
redacted, a scalar for a scalar, or anything inside a group. -/
def AttrsAlike (keys : KeySet) : List Attr → List Attr → Prop
  | [], [] => True
  | ⟨key, v⟩ :: as, ⟨key', v'⟩ :: bs =>
    key = key' ∧ (if keys.covers key then v.isGroup = v'.isGroup else v.Alike keys v') ∧
      AttrsAlike keys as bs
  | _, _ => False

end

/-- Two attributes of one key that differ in nothing but what the keys redact. -/
def Attr.Alike (keys : KeySet) (a b : Attr) : Prop :=
  a.key = b.key ∧
    if keys.covers a.key then a.value.isGroup = b.value.isGroup else a.value.Alike keys b.value

/-- Two derivations that differ in nothing but what the keys redact. -/
def Derivation.Alike (keys : KeySet) : Derivation → Derivation → Prop
  | .attrs as, .attrs bs => AttrsAlike keys as bs
  | .group name, .group name' => name = name'
  | _, _ => False

/-- Two records that differ in nothing but what the keys redact. -/
def Record.Alike (keys : KeySet) (r r' : Record) : Prop :=
  r.timestamp = r'.timestamp ∧ r.level = r'.level ∧ r.message = r'.message ∧
    r.source = r'.source ∧ AttrsAlike keys r.attrs r'.attrs

/-- What happens in a run: a record is handled by a chain derived in the given way, or something
else happens to the shared state. -/
inductive Action where
  | handle (ds : List Derivation) (r : Record)
  | change (f : World → World)

/-- One action of a run of the chains derived from a handler: its result and the state after it. -/
def Handler.act (root : Handler) (w : World) : Action → Delivery
  | .handle ds r => (root.derived ds).handle r w
  | .change f => (.ok (), f w)

/-- The results of the actions of a run, each with the state after it. -/
def Handler.run (root : Handler) (w : World) : List Action → List Delivery
  | [] => []
  | a :: rest => root.act w a :: root.run (root.act w a).2 rest

/-- Two actions that differ in nothing but what the keys redact: the same derivations and the same
record up to that, or the same change. -/
def Action.Alike (keys : KeySet) : Action → Action → Prop
  | .handle ds r, .handle ds' r' => List.Forall₂ (Derivation.Alike keys) ds ds' ∧ r.Alike keys r'
  | .change f, .change f' => f = f'
  | _, _ => False

/-- Two runs in which each record that is handled differs in nothing but what is redacted then. -/
def Handler.AlikeRuns (root : Handler) (set : Nat) : World → List Action → List Action → Prop
  | _, [], [] => True
  | w, a :: as, b :: bs =>
    a.Alike (w.keys set) b ∧ AlikeRuns root set (root.act w a).2 as bs
  | _, _, _ => False

variable {keys : KeySet} {as bs target target' : List Attr} {a b : Attr} {v v' : Value}
  {ds ds' : List Derivation}

/-! ## Attributes -/

theorem attrsAlike_cons : AttrsAlike keys (a :: as) (b :: bs) ↔
    a.Alike keys b ∧ AttrsAlike keys as bs := by
  obtain ⟨key, v⟩ := a
  obtain ⟨key', v'⟩ := b
  rw [AttrsAlike, Attr.Alike, and_assoc]

/-- Alike lists are alike attribute by attribute. -/
theorem attrsAlike_iff : AttrsAlike keys as bs ↔ List.Forall₂ (Attr.Alike keys) as bs := by
  induction as generalizing bs with
  | nil => cases bs <;> simp [AttrsAlike]
  | cons a as ih =>
    cases bs with
    | nil => simp [AttrsAlike]
    | cons b bs => rw [attrsAlike_cons, ih, List.forall₂_cons]

theorem Value.Alike.isGroup (h : v.Alike keys v') : v.isGroup = v'.isGroup := by
  cases v <;> cases v' <;> simp_all [Value.Alike, Value.isGroup]

theorem Attr.Alike.isGroup (h : a.Alike keys b) : a.value.isGroup = b.value.isGroup := by
  obtain ⟨-, h⟩ := h
  split at h
  · exact h
  · exact h.isGroup

/-! ## Redaction -/

mutual

theorem Value.Alike.redact : ∀ v v' : Value, v.Alike keys v' → v.redact keys = v'.redact keys
  | .group as, v', h => by
    cases v' with
    | group bs => rw [Value.redact, Value.redact, AttrsAlike.redact as bs h]
    | _ => simp [Value.Alike] at h
  | .str _, v', h | .int _, v', h | .uint _, v', h | .float _, v', h | .bool _, v', h
  | .duration _, v', h | .error _, v', h | .any _, v', h => by
    rw [Value.Alike] at h
    · rw [h]
    · simp

/-- What is alike is the same when it is redacted. -/
theorem AttrsAlike.redact : ∀ as bs : List Attr, AttrsAlike keys as bs →
    redactAttrs keys as = redactAttrs keys bs
  | [], [], _ => rfl
  | [], _ :: _, h => absurd h (by simp [AttrsAlike])
  | _ :: _, [], h => absurd h (by simp [AttrsAlike])
  | ⟨key, v⟩ :: as, ⟨key', v'⟩ :: bs, h => by
    obtain ⟨rfl, hv, hrest⟩ := h
    rw [redactAttrs, redactAttrs, AttrsAlike.redact as bs hrest]
    split at hv
    · rename_i hcovers
      rw [if_pos hcovers, if_pos hcovers]
    · rename_i hcovers
      rw [if_neg hcovers, if_neg hcovers, Value.Alike.redact v v' hv]

end

/-! ## Merging -/

/-- An attribute passes by what is not a group. -/
theorem place_cons_scalar (a c : Attr) (name : String) (path : List String) (rest : List Attr)
    (h : c.value.isGroup = false) :
    a.place (name :: path) (c :: rest) = c :: a.place (name :: path) rest := by
  obtain ⟨key, value⟩ := c
  cases value with
  | group children => simp [Value.isGroup] at h
  | _ =>
    rw [Attr.place]
    simp

/-- Merging keeps likeness: it looks at keys and at what is a group, and both are the same. -/
theorem AttrsAlike.place (hab : a.Alike keys b) (path : List String)
    (h : AttrsAlike keys target target') :
    AttrsAlike keys (a.place path target) (b.place path target') := by
  induction path generalizing target target' with
  | nil =>
    rw [Attr.place, Attr.place, attrsAlike_iff]
    exact List.rel_append (attrsAlike_iff.mp h) (.cons hab .nil)
  | cons name path ih =>
    rw [attrsAlike_iff] at h
    induction h with
    | nil =>
      rw [Attr.place, Attr.place, attrsAlike_cons]
      refine ⟨⟨rfl, ?_⟩, by simp [AttrsAlike]⟩
      split
      · rfl
      · exact ih (by simp [AttrsAlike])
    | @cons c c' rest rest' hc hrest ihr =>
      cases hgroup : c.value.isGroup with
      | false =>
        rw [place_cons_scalar _ _ _ _ _ hgroup,
          place_cons_scalar _ _ _ _ _ (hc.isGroup ▸ hgroup), attrsAlike_cons]
        exact ⟨hc, ihr⟩
      | true =>
        have hgroup' := hc.isGroup ▸ hgroup
        obtain ⟨key, v⟩ := c
        obtain ⟨key', v'⟩ := c'
        obtain ⟨children, rfl⟩ : ∃ children, v = .group children := by
          cases v <;> simp_all [Value.isGroup]
        obtain ⟨children', rfl⟩ : ∃ children, v' = .group children := by
          cases v' <;> simp_all [Value.isGroup]
        obtain ⟨rfl, hv⟩ : key = key' ∧ _ := hc
        rw [Attr.place, Attr.place]
        split
        · -- into these groups, with anything in them if their key is redacted
          refine attrsAlike_cons.mpr ⟨⟨rfl, ?_⟩, attrsAlike_iff.mpr hrest⟩
          split
          · rfl
          · rename_i hcovers
            exact ih (by simpa [hcovers, Value.Alike] using hv)
        · exact attrsAlike_cons.mpr ⟨⟨rfl, hv⟩, ihr⟩

/-! ## Derivations -/

/-- Placements alike: under the same groups. -/
def Placement.Alike (keys : KeySet) (p q : Placement) : Prop :=
  p.groups = q.groups ∧ p.attr.Alike keys q.attr

theorem AttrsAlike.placeAll {ps qs : List Placement}
    (h : List.Forall₂ (Placement.Alike keys) ps qs) (ht : AttrsAlike keys target target') :
    AttrsAlike keys (placeAll ps target) (placeAll qs target') := by
  induction h generalizing target target' with
  | nil => exact ht
  | @cons p q ps qs hpq _ ih =>
    obtain ⟨hgroups, hattr⟩ := hpq
    refine ih ?_
    dsimp only
    rw [hgroups]
    exact ht.place hattr q.groups

/-- Attributes alike, placed under the same groups. -/
theorem AttrsAlike.placements (h : AttrsAlike keys as bs) (groups : List String) :
    List.Forall₂ (Placement.Alike keys) (as.map (⟨groups, ·⟩)) (bs.map (⟨groups, ·⟩)) := by
  rw [List.forall₂_map_left_iff, List.forall₂_map_right_iff]
  exact (attrsAlike_iff.mp h).imp fun _ _ hab => ⟨rfl, hab⟩

theorem placements_alike (h : List.Forall₂ (Derivation.Alike keys) ds ds')
    (groups : List String) :
    List.Forall₂ (Placement.Alike keys) (placements groups ds) (placements groups ds') ∧
      openGroups groups ds = openGroups groups ds' := by
  induction h generalizing groups with
  | nil => exact ⟨.nil, rfl⟩
  | @cons d d' ds ds' hd _ ih =>
    cases d with
    | attrs as =>
      cases d' with
      | attrs bs =>
        obtain ⟨hplaced, hopen⟩ := ih groups
        exact ⟨List.rel_append (AttrsAlike.placements hd groups) hplaced, hopen⟩
      | group name => exact absurd hd (by simp [Derivation.Alike])
    | group name =>
      cases d' with
      | attrs bs => exact absurd hd (by simp [Derivation.Alike])
      | group name' =>
        obtain rfl : name = name' := hd
        exact ih _

/-- All that a record carries is alike when it has been merged. -/
theorem merged_alike (h : List.Forall₂ (Derivation.Alike keys) ds ds')
    (hattrs : AttrsAlike keys as bs) : AttrsAlike keys (merged ds as) (merged ds' bs) := by
  obtain ⟨hplaced, hopen⟩ := placements_alike h []
  refine AttrsAlike.placeAll (List.rel_append hplaced ?_) (by simp [AttrsAlike])
  rw [hopen]
  exact hattrs.placements _

/-! ## Runs -/

variable {w : World} {set : Nat} {next : Handler}

/-- One action shows nothing of what the keys redact. -/
theorem act_alike {x y : Action} (h : x.Alike (w.keys set) y) :
    (next.redact set).act w x = (next.redact set).act w y := by
  cases x with
  | change f =>
    cases y with
    | change f' =>
      obtain rfl : f = f' := h
      rfl
    | handle ds r => exact absurd h (by simp [Action.Alike])
  | handle ds r =>
    cases y with
    | change f' => exact absurd h (by simp [Action.Alike])
    | handle ds' r' =>
      obtain ⟨hds, htime, hlevel, hmessage, hsource, hattrs⟩ := h
      rw [Handler.act, Handler.act, Handler.redact, derived_redaction, derived_redaction,
        handle_redaction, handle_redaction, (merged_alike hds hattrs).redact, htime, hlevel,
        hmessage, hsource]

/-- **Redacted values are secret.** Two runs of the chains derived from a handler behind a redaction
stage, in which the records handled and what was bound before differ only in what the keys of that
moment redact, have the same results and leave the same state, action by action. -/
theorem redaction_noninterference {as bs : List Action}
    (h : (next.redact set).AlikeRuns set w as bs) :
    (next.redact set).run w as = (next.redact set).run w bs := by
  induction as generalizing bs w with
  | nil =>
    cases bs with
    | nil => rfl
    | cons b bs => exact absurd h (by simp [Handler.AlikeRuns])
  | cons a as ih =>
    cases bs with
    | nil => exact absurd h (by simp [Handler.AlikeRuns])
    | cons b bs =>
      obtain ⟨hab, hrest⟩ := h
      rw [Handler.run, Handler.run, ← act_alike hab, ih hrest]

/-- A run with a password bound before its key is redacted, and in a group of the record. -/
def passwordRun (bound inner : Value) : List Action :=
  [.change (·.setKeys 0 ⟨["password"]⟩),
    .handle [.attrs [⟨"Password", bound⟩], .group "request"]
      ⟨⟨0, 0⟩, .info, "login", [⟨"user", .group [⟨"PASSWORD", inner⟩, ⟨"id", .int 7⟩]⟩], none⟩]

/-- Other passwords, another kind of value among them, make no difference. -/
theorem redaction_noninterference_password :
    (Handler.redact (.format ⟨.buffer 1, .json, 2, true, .empty⟩) 0).run (.initial 0 "")
        (passwordRun (.str "abc") (.bool true)) =
      (Handler.redact (.format ⟨.buffer 1, .json, 2, true, .empty⟩) 0).run (.initial 0 "")
        (passwordRun (.int 1234) (.str "xyz")) := by
  refine redaction_noninterference ⟨rfl, ⟨.cons ?_ (.cons rfl .nil), rfl, rfl, rfl, rfl, ?_⟩,
    trivial⟩
  · have hcovers : KeySet.covers ⟨["password"]⟩ "Password" = true := by decide
    refine ⟨rfl, ?_, trivial⟩
    rw [if_pos (by exact hcovers)]
    rfl
  · have huser : KeySet.covers ⟨["password"]⟩ "user" = false := by decide
    have hpassword : KeySet.covers ⟨["password"]⟩ "PASSWORD" = true := by decide
    have hid : KeySet.covers ⟨["password"]⟩ "id" = false := by decide
    refine ⟨rfl, ?_, trivial⟩
    rw [if_neg (by exact ne_true_of_eq_false huser)]
    refine ⟨rfl, ?_, rfl, ?_, trivial⟩
    · rw [if_pos (by exact hpassword)]
      rfl
    · rw [if_neg (by exact ne_true_of_eq_false hid)]
      rfl

end LogPipeline
