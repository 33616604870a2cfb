import LogPipeline.Proofs.Json.RoundTrip
import LogPipeline.Proofs.Record.Lines

/-!
# Reading a JSON line

A JSON line without floating point numbers is read back (`json_decodable`): an object with time,
level, source and message, and then one member for each attribute in order, its value read as
`ReadsAs` says. Names may be repeated and may be any texts, also those of the first members.
-/

namespace LogPipeline

open Text (newline)

mutual

/-- What a JSON reader makes of a value. -/
inductive Value.ReadsAs : Value → Json → Prop
  | str (s : String) : Value.ReadsAs (.str s) (.str s)
  | error (text : String) : Value.ReadsAs (.error text) (.str text)
  | int (n : Int64) : Value.ReadsAs (.int n) (.int n.toInt)
  | uint (n : UInt64) : Value.ReadsAs (.uint n) (.int n.toNat)
  | bool (b : Bool) : Value.ReadsAs (.bool b) (.bool b)
  | duration (d : Duration) : Value.ReadsAs (.duration d) (.int d.nanoseconds)
  | any (payload : Json) : Value.ReadsAs (.any payload) payload
  | group {attrs : List Attr} {members : List (String × Json)} :
    AttrsReadAs attrs members → Value.ReadsAs (.group attrs) (.obj members)

/-- What a JSON reader makes of attributes: one member for each, in order. -/
inductive AttrsReadAs : List Attr → List (String × Json) → Prop
  | nil : AttrsReadAs [] []
  | cons {key : String} {value : Value} {j : Json} {attrs : List Attr}
    {members : List (String × Json)} : value.ReadsAs j → AttrsReadAs attrs members →
      AttrsReadAs (⟨key, value⟩ :: attrs) ((key, j) :: members)

end

mutual

/-- There is no floating point number in the value, nor in a payload inside it. -/
def Value.NoFloat : Value → Prop
  | .float _ => False
  | .any payload => payload.NoFloat
  | .group attrs => LogPipeline.NoFloat attrs
  | _ => True

def NoFloat : List Attr → Prop
  | [] => True
  | ⟨_, value⟩ :: rest => value.NoFloat ∧ NoFloat rest

end

def Derivation.NoFloat : Derivation → Prop
  | .attrs as => LogPipeline.NoFloat as
  | .group _ => True

variable {attrs : List Attr} {ds : List Derivation} {f : Formatter} {r : Record}

/-! ## Values -/

mutual

theorem Value.readsAs_json : ∀ value : Value, value.NoFloat → value.ReadsAs value.json
  | .str s => fun _ => .str s
  | .int n => fun _ => .int n
  | .uint n => fun _ => .uint n
  | .float _ => fun h => h.elim
  | .bool b => fun _ => .bool b
  | .duration d => fun _ => .duration d
  | .error text => fun _ => .error text
  | .any payload => fun _ => .any payload
  | .group attrs => fun h => .group (attrsReadAs_attrMembers attrs h)

theorem attrsReadAs_attrMembers : ∀ attrs : List Attr, NoFloat attrs →
    AttrsReadAs attrs (Value.attrMembers attrs)
  | [] => fun _ => .nil
  | ⟨_, value⟩ :: rest => fun h =>
    .cons (value.readsAs_json h.1) (attrsReadAs_attrMembers rest h.2)

end

mutual

theorem Value.NoFloat.json : ∀ value : Value, value.NoFloat → value.json.NoFloat
  | .str _ | .int _ | .uint _ | .bool _ | .duration _ | .error _ => fun _ => trivial
  | .float _ => fun h => h.elim
  | .any _ => fun h => h
  | .group attrs => NoFloat.attrMembers attrs

theorem NoFloat.attrMembers : ∀ attrs : List Attr, NoFloat attrs →
    Json.WholeMembers (fun _ => True) (Value.attrMembers attrs)
  | [] => fun _ => trivial
  | ⟨_, value⟩ :: rest => fun h => ⟨Value.NoFloat.json value h.1, NoFloat.attrMembers rest h.2⟩

end

theorem noFloat_iff : NoFloat attrs ↔ ∀ a ∈ attrs, a.value.NoFloat := by
  induction attrs with
  | nil => simp [NoFloat]
  | cons a rest ih =>
    obtain ⟨key, value⟩ := a
    rw [NoFloat, ih, List.forall_mem_cons]

/-- Merging makes no floating point number. -/
theorem NoFloat.merged (hds : ∀ d ∈ ds, d.NoFloat) (hattrs : NoFloat attrs) :
    NoFloat (merged ds attrs) := by
  have hall : ∀ d ∈ ds, d.All (·.value.NoFloat) fun _ => True := by
    intro d hd
    cases d with
    | attrs as => exact noFloat_iff.mp (hds _ hd)
    | group name => trivial
  refine noFloat_iff.mpr (merged_all (fun key children => ?_) hall (noFloat_iff.mp hattrs))
  exact noFloat_iff.trans ⟨fun h => ⟨trivial, h⟩, And.right⟩

/-! ## Lines -/

theorem Json.wholeMembers_append {P : Int → Prop} {ms ns : List (String × Json)} :
    WholeMembers P (ms ++ ns) ↔ WholeMembers P ms ∧ WholeMembers P ns := by
  induction ms with
  | nil => exact (true_and _).symm.to_iff
  | cons m ms ih =>
    obtain ⟨name, j⟩ := m
    rw [List.cons_append, WholeMembers, WholeMembers, ih, and_assoc]

/-- The members that tell of a record without its attributes. -/
def Record.headMembers (r : Record) (addSource : Bool) : List (String × Json) :=
  [("time", .str r.timestamp.text), ("level", .str r.level.tag)] ++
  (match r.shownSource addSource with
    | some s => [("source", .obj [("file", .str s.file), ("line", .int s.line)])]
    | none => []) ++
  [("msg", .str r.message)]

theorem Record.noFloat_jsonObject (r : Record) (addSource : Bool) (h : NoFloat attrs) :
    (r.jsonObject addSource attrs).NoFloat := by
  rw [Record.jsonObject]
  refine Json.wholeMembers_append.mpr ⟨Json.wholeMembers_append.mpr ⟨Json.wholeMembers_append.mpr
    ⟨⟨trivial, trivial, trivial⟩, ?_⟩, ⟨trivial, trivial⟩⟩, NoFloat.attrMembers attrs h⟩
  cases r.shownSource addSource with
  | none => exact trivial
  | some s => exact ⟨⟨trivial, trivial, trivial⟩, trivial⟩

/-- A sink can fail, but not for a record that cannot be written as a line. -/
theorem ne_encoding (result : Except IoError Nat) (detail : String) :
    (result.map fun _ => ()).mapError DeliveryError.io ≠ .error (.encoding detail) := by
  cases result <;> simp [Except.map, Except.mapError]

/-- **JSON lines are decodable.** However a stage that writes JSON is derived, the line that it
writes for a record without floating point numbers is one object, which is read back from it: time,
level, the source if it is shown, the message, and then a member for each attribute in its place,
with its value. A reader that takes integers of any size exactly always does so, and one that takes
them so only if they fit into 64 bits does it where all of them fit. The values may be nested as
deeply as a reader allows. No record makes the stage fail to write a line. -/
theorem json_decodable (hf : f.encoding = .json) (hscope : f.scope = .empty)
    (hds : ∀ d ∈ ds, d.NoFloat) (hr : NoFloat r.attrs)
    (hdepth : (r.jsonObject f.addSource (merged ds r.attrs)).depth < Json.depthLimit) :
    ∃ line text members, line = Text.utf8 text ++ [newline] ∧
      (∀ w, ((Handler.format f).derived ds).handle r w =
        if w.allows f.threshold r.level then
          (((f.sink.write line w).1.map fun _ => ()).mapError .io, (f.sink.write line w).2)
        else (.ok (), w)) ∧
      (∀ w e, (((Handler.format f).derived ds).handle r w).1 ≠ .error (.encoding e)) ∧
      AttrsReadAs (merged ds r.attrs) members ∧
      let object := Json.obj (r.headMembers f.addSource ++ members)
      Json.decode? (Text.utf8 text) = some object ∧
        (object.fitsWords = true → Json.parse? text = some object) := by
  have hattrs := hr.merged hds
  have hfloat := r.noFloat_jsonObject f.addSource hattrs
  have hhandle := Formatter.handle_derived hscope ds r
  rw [hf] at hhandle
  refine ⟨_, _, Value.attrMembers (merged ds r.attrs), rfl, hhandle, ?_,
    attrsReadAs_attrMembers _ hattrs, Json.decode?_compact hfloat hdepth,
    Json.parse?_compact hfloat hdepth⟩
  intro w e
  rw [hhandle]
  split
  · exact ne_encoding _ e
  · exact fun h => nomatch h

/-- Awkward names and texts, a member named as one of the first, and a duration of more than 64
bits. -/
theorem json_decodable_awkward :
    let stage := (Handler.format ⟨.buffer 0, .json, 0, true, .empty⟩).derived
      [.group "a\"b", .attrs [⟨"msg", .str "\x01\n"⟩]]
    let r : Record := ⟨⟨1709210096, 789123456⟩, .warn, "x\\",
      [⟨"msg", .duration ⟨1267650600228229401496703205376⟩⟩], some ⟨"main.rs", 7⟩⟩
    ((stage.handle r (.initial 0 "")).2.buffers.find? 0).bind (Json.decode? ·.content.dropLast) =
      some (.obj [("time", .str "2024-02-29T12:34:56.789Z"), ("level", .str "WARN"),
        ("source", .obj [("file", .str "main.rs"), ("line", .int 7)]), ("msg", .str "x\\"),
        ("a\"b", .obj [("msg", .str "\x01\n"),
          ("msg", .int 1267650600228229401496703205376)])]) := by
  intro stage r
  let f : Formatter := ⟨.buffer 0, .json, 0, true, .empty⟩
  let ds : List Derivation := [.group "a\"b", .attrs [⟨"msg", .str "\x01\n"⟩]]
  have hmerged : merged ds r.attrs =
      [⟨"a\"b", .group [⟨"msg", .str "\x01\n"⟩,
        ⟨"msg", .duration ⟨1267650600228229401496703205376⟩⟩]⟩] := by
    simp [r, ds, merged, placements, openGroups, placeAll, Attr.place]
  have hds : ∀ d ∈ ds, d.NoFloat := by simp [ds, Derivation.NoFloat, NoFloat, Value.NoFloat]
  have hr : NoFloat r.attrs := ⟨trivial, trivial⟩
  have hdepth : (r.jsonObject f.addSource (merged ds r.attrs)).depth < Json.depthLimit := by
    rw [hmerged]
    decide
  obtain ⟨line, text, members, rfl, hhandle, -, hmembers, hread, -⟩ :=
    json_decodable (f := f) rfl rfl hds hr hdepth
  have hwritten : ((stage.handle r (.initial 0 "")).2.buffers.find? 0).bind
      (Json.decode? ·.content.dropLast) = Json.decode? (Text.utf8 text) := by
    rw [show stage = (Handler.format f).derived ds from rfl, hhandle]
    exact congrArg Json.decode? List.dropLast_concat
  rw [hmerged] at hmembers
  rw [hwritten, hread]
  cases hmembers with | cons hgroup hrest =>
  cases hrest
  cases hgroup with | group hchildren =>
  cases hchildren with | cons hbound hown =>
  cases hbound
  cases hown with | cons hduration hrest =>
  cases hduration
  cases hrest
  have htime : Timestamp.text ⟨1709210096, 789123456⟩ = "2024-02-29T12:34:56.789Z" := by
    decide +kernel
  simp [r, f, Record.headMembers, Record.shownSource, htime, Level.tag]

end LogPipeline
