import Mathlib.Data.PNat.Defs
import Sessionbus.Json
import Sessionbus.Names
import Sessionbus.Session.Promise

/-!
# The frame of a delivery

`RequestBytes` of `protocol/frame.go` for `message.deliver`: the parameters are written and
checked against the schema, and the frame must fit the limit together with its newline.
-/

namespace Sessionbus

open Json

/-! ## Encoding -/

/-- A nil slice is written as `null`. -/
def groupsJson (groups : List String) : List Char :=
  if groups = [] then "null".toList else array (groups.map quote)

def DeliverySource.json (f : DeliverySource) : List Char :=
  object ([member "session_id" (quote f.sessionID)] ++
    (if f.name = "" then [] else [member "name" (quote f.name)]) ++
    [member "product" (quote f.product), member "groups" (groupsJson f.groups)])

def DeliveryRequest.json (p : DeliveryRequest) : List Char :=
  object ((if p.runID = "" then [] else [member "run_id" (quote p.runID)]) ++
    [member "message_id" (quote p.messageID), member "from" p.source.json,
      member "body" (quote p.body)])

/-- The schema of `DeliverySource`; `nameChar` has the Unicode classes of its pattern. -/
def DeliverySource.valid (nameChar : Char → Bool) (f : DeliverySource) : Bool :=
  f.sessionID ≠ "" && f.name.length ≤ 161 && f.name.toList.all nameChar && f.product ≠ "" &&
    f.groups ≠ [] && f.groups.all (· ≠ "") && decide f.groups.Nodup

/-- The schema of `MessageDeliverRequest`. A run ID that is written is not empty. -/
def DeliveryRequest.valid (nameChar : Char → Bool) (p : DeliveryRequest) : Bool :=
  p.messageID ≠ "" && p.source.valid nameChar && p.body.length ≤ 262144

/-- `json.Marshal` of the frame's map, whose keys it sorts. -/
def requestText (id : Nat) (method : String) (params : List Char) : List Char :=
  object [member "id" (Text.formatUint id).toList, member "jsonrpc" (quote "2.0"),
    member "method" (quote method), member "params" params]

/-- The bytes of the frame, with its newline. -/
def DeliveryRequest.frameSize (id : Nat) (p : DeliveryRequest) : Nat :=
  size (requestText id "message.deliver" p.json) + 1

def requestBytes (nameChar : Char → Bool) (id : Nat) (p : DeliveryRequest) : Option (List Char) :=
  if p.valid nameChar then
    if p.frameSize id > maxFrameBytes then none
    else some (requestText id "message.deliver" p.json ++ ['\n'])
  else none

/-- A session whose deliveries are encoded. -/
def Env.framed (nameChar : Char → Bool) (env : Env) : Env :=
  { env with
    encodes := fun id c =>
      match c with
      | .deliver p => (requestBytes nameChar id p).isSome
      | c => env.encodes id c }

/-! ## Sizes -/

theorem requestBytes_isSome (nameChar : Char → Bool) (id : Nat) (p : DeliveryRequest) :
    (requestBytes nameChar id p).isSome = true ↔ p.valid nameChar = true ∧
    p.frameSize id ≤ maxFrameBytes := by
  unfold requestBytes
  split
  · rename_i hvalid
    split
    · rename_i hlong
      simp only [Option.isSome_none, Bool.false_eq_true, false_iff, not_and]
      omega
    · rename_i hfits
      simp only [Option.isSome_some, true_iff]
      exact ⟨hvalid, by omega⟩
  · rename_i hvalid
    simp [hvalid]

theorem requestText_size (id : Nat) (method : String) {params params' : List Char} {n : Nat}
    (h : size params' = n + size params) :
    size (requestText id method params') = n + size (requestText id method params) := by
  unfold requestText
  simp only [object, enclose, List.intercalate, List.intersperse_cons_cons,
    List.intersperse_singleton, List.flatten_cons, List.flatten_nil, member, size_append, size_cons,
    size_nil, h]
  omega

theorem formatUint_plain {n : Nat} {c : Char} (h : c ∈ (Text.formatUint n).toList) : Plain c := by
  have hdigit : c.isDigit = true := by
    refine Nat.isDigit_of_mem_toDigits (b := 10) (by omega) (by omega) (n := n) ?_
    simpa [Text.formatUint, Nat.repr] using h
  have hall : ∀ n < 58, 48 ≤ n → Plain (Char.ofNat n) := by decide
  simp only [Char.isDigit, Bool.and_eq_true, decide_eq_true_eq] at hdigit
  have hlow : 48 ≤ c.toNat := hdigit.1
  have hhigh : c.toNat ≤ 57 := hdigit.2
  rw [← Char.ofNat_toNat c]
  exact hall _ (by omega) hlow

theorem runText_plain (bytes : Vector UInt8 12) (n : Nat) :
    ∀ c ∈ (Session.runText (randomID "run" bytes) n).toList, Plain c := by
  have hkind : "run".toList.all (fun c => decide (Plain c)) = true := by decide
  have halphabet : alphabet.all (fun c => decide (Plain c)) = true := by decide
  intro c hc
  simp only [Session.runText, String.toList_append, List.mem_append] at hc
  rcases hc with (hc | hc) | hc
  · rcases randomID_alphabet hc with hc | rfl | hc
    · exact of_decide_eq_true (List.all_eq_true.mp hkind c hc)
    · decide
    · exact of_decide_eq_true (List.all_eq_true.mp halphabet c hc)
  · have hc : c = '/' := by simpa using hc
    rw [hc]
    decide
  · exact formatUint_plain hc

theorem runText_length (bytes : Vector UInt8 12) (n : Nat) :
    (Session.runText (randomID "run" bytes) n).length = 17 + (Text.formatUint n).length := by
  have hkind : "run".length = 3 := by decide
  have hdash : "-".length = 1 := by decide
  simp only [Session.runText, randomID, String.length_append, String.length_ofList, List.length_map,
    Vector.length_toList, String.length_singleton, hkind, hdash]

theorem seeded_json_size {p : DeliveryRequest} {run : String} (hp : p.runID = "") (hne : run ≠ "")
    (hrun : ∀ c ∈ run.toList, Plain c) :
    size { p with runID := run }.json = run.length + 12 + size p.json := by
  have hmember : size (member "run_id" (quote run)) = run.length + 11 := by
    have hname : size (quote "run_id") = 8 := by decide
    have hcolon : Char.utf8Size ':' = 1 := by decide
    rw [member, size_append, size_cons, hname, hcolon, size_quote_plain hrun]
    omega
  unfold DeliveryRequest.json
  simp only [hp, if_true, if_neg hne, List.nil_append, List.singleton_append, object]
  rw [size_enclose_cons _ _ _ (by simp), hmember]

theorem frameSize_seeded {p : DeliveryRequest} (hp : p.runID = "") (id n : Nat)
    (bytes : Vector UInt8 12) :
    { p with runID := Session.runText (randomID "run" bytes) n }.frameSize id =
      p.frameSize id + 29 + (Text.formatUint n).length := by
  have hjson := seeded_json_size hp (Session.runText_ne _ _) (runText_plain bytes n)
  have htext := requestText_size id "message.deliver" hjson
  unfold DeliveryRequest.frameSize
  rw [htext, runText_length]
  omega

/-- A delivery that was written once is written again as a seed exactly when the limit leaves room
for the run ID. -/
theorem seeded_encodes_iff (nameChar : Char → Bool) (env : Env) (p : DeliveryRequest)
    (first id n : Nat) (bytes : Vector UInt8 12) (unseeded : p.runID = "")
    (ordinary : (env.framed nameChar).encodes first (.deliver p) = true) :
    (env.framed nameChar).encodes id
        (.deliver { p with runID := Session.runText (randomID "run" bytes) n }) = true ↔
      p.frameSize id + 29 + (Text.formatUint n).length ≤ maxFrameBytes := by
  have hvalid : p.valid nameChar = true := ((requestBytes_isSome nameChar first p).mp ordinary).1
  have hseeded :=
    requestBytes_isSome nameChar id { p with runID := Session.runText (randomID "run" bytes) n }
  rw [frameSize_seeded unseeded] at hseeded
  exact hseeded.trans (and_iff_right hvalid)

theorem frameSize_body (p : DeliveryRequest) (body : String) (id : Nat) :
    { p with body }.frameSize id = size (escape body) + { p with body := "" }.frameSize id := by
  have hjson : size { p with body }.json = size (escape body) + size
      { p with body := "" }.json := by
    have hnone : escape "" = [] := rfl
    unfold DeliveryRequest.json
    by_cases hrun : p.runID = ""
    · simp only [hrun, if_true, List.nil_append, object, enclose, List.intercalate,
        List.intersperse_cons_cons, List.intersperse_singleton, List.flatten_cons, List.flatten_nil,
        member, quote, hnone, size_append, size_cons, size_nil]
      omega
    · simp only [if_neg hrun, List.singleton_append, object, enclose, List.intercalate,
        List.intersperse_cons_cons, List.intersperse_singleton, List.flatten_cons, List.flatten_nil,
        member, quote, hnone, size_append, size_cons, size_nil]
      omega
  have htext := requestText_size id "message.deliver" hjson
  unfold DeliveryRequest.frameSize
  rw [htext]
  omega

/-! A body of characters that are escaped to six bytes each. -/

def noBody : DeliveryRequest where
  messageID := "m"
  source := { sessionID := "s@h", product := "p", groups := ["g"] }
  body := ""

def angles (n : Nat) : DeliveryRequest :=
  { noBody with body := String.ofList (List.replicate n '<') }

theorem angles_frameSize (n : Nat) {id : Nat} (hid : id = 2 ∨ id = 3) :
    (angles n).frameSize id = n * 6 + 147 := by
  have hbase : noBody.frameSize id = 147 := by rcases hid with rfl | rfl <;> decide +kernel
  have hchar : size (escapeChar '<') = 6 := by decide
  have hbody := frameSize_body noBody (String.ofList (List.replicate n '<')) id
  rw [size_escape_replicate, hchar] at hbody
  exact hbody.trans (congrArg _ hbase)

theorem angles_encodes {n id : Nat} (hid : id = 2 ∨ id = 3) (hn : n * 6 + 147 ≤ maxFrameBytes)
    (hlen : n ≤ 262144) :
    (Session.openEnv.framed fun _ => true).encodes id (.deliver (angles n)) = true := by
  refine (requestBytes_isSome _ id (angles n)).mpr ⟨?_, by rw [angles_frameSize n hid]; exact hn⟩
  have hrest : ("m" ≠ "" && noBody.source.valid fun _ => true) = true := by decide
  unfold DeliveryRequest.valid angles
  rw [Bool.and_eq_true]
  exact ⟨hrest, by simpa using hlen⟩

/-- 174738 of them leave one byte of the limit. -/
theorem seeded_encodes_iff_angles :
    (Session.openEnv.framed fun _ => true).encodes 2 (.deliver (angles 174738)) = true ∧
      ((Session.openEnv.framed fun _ => true).encodes 3 (.deliver
          { angles 174738 with runID := Session.runText (randomID "run" (.replicate 12 0)) 2 }) =
            true ↔
        (angles 174738).frameSize 3 + 29 + (Text.formatUint 2).length ≤ maxFrameBytes) :=
  have ordinary := angles_encodes (.inl rfl) (by decide) (by decide)
  ⟨ordinary, seeded_encodes_iff _ Session.openEnv (angles 174738) 2 3 2 (.replicate 12 0)
    rfl ordinary⟩

/-! ## A queued delivery that is dropped

A run starts, the delivery comes back refused during it and is queued, the run ends. -/

namespace Session

section
variable (f : Nat → Command → Bool) (p : DeliveryRequest) (hp : p.runID = "")

def lane : Session := { newLane with randomGeneration := randomID "run" (.replicate 12 0) }

def laneRun (n : Nat) : String := runText (randomID "run" (.replicate 12 0)) n

def encoding : Env := { openEnv with encodes := f }

def runCall : Routed :=
  { destination := some 2, call := .run { sessionID := "w", input := "go" }, reply := 1 }

def deliverCall : Routed where
  destination := some 2
  call := .deliver p
  reply := 2
  unseeded := by rintro q ⟨⟩; exact hp

def ready : TurnReady := { sessionID := "w", runID := laneRun 1, state := .unavailable "lost" }

def dropEvents : List Event :=
  [.routed runCall, .routed (deliverCall p hp),
    .frame (.response (Nat.succPNat 1) (.error { code := .notRunning })),
    .frame (.request (Nat.succPNat 0) (.ready ready))]

def runCommand : Command := .execute { sessionID := "w", runID := laneRun 1, input := "go" }

def runRequest : RoutedRequest := { runCall.request with collect := true, runID := laneRun 1 }

def waiting : RoutedRequest := { (deliverCall p hp).request with scheduled := true, reply := .none }

def started : Session :=
  lane.reserveRun.sent runRequest runCommand (lane.reserveRun.runningItem runRequest)

def delivered : Session :=
  started.sent (deliverCall p hp).request (.deliver p)
    (started.runningItem (deliverCall p hp).request)

def requeued : Session := ((delivered p hp).take 2).enqueue (deliverCall p hp).request

def freed : Session :=
  (({ requeued p hp with lastIn := 1 } : Session).settleTurn (encoding f) 1 ready).pop
    (waiting p hp) []

theorem started_eq (h : f 1 runCommand = true) :
    lane.handleEvent (encoding f) (.routed runCall) = started := by
  have hwrite : lane.handleEvent (encoding f) (.routed runCall) =
      lane.reserveRun.write (encoding f) runRequest runCommand :=
    rfl
  rw [hwrite, write_sent h rfl rfl (by decide)]
  rfl

theorem delivered_eq (h : f 2 (.deliver p) = true) :
    started.handleEvent (encoding f) (.routed (deliverCall p hp)) = delivered p hp := by
  have hwrite : started.handleEvent (encoding f) (.routed (deliverCall p hp)) =
      started.write (encoding f) (deliverCall p hp).request (.deliver p) := rfl
  rw [hwrite, write_sent h rfl rfl (by decide)]
  rfl

set_option maxRecDepth 4000 in
theorem requeued_eq : (delivered p hp).handleEvent (encoding f)
    (.frame (.response (Nat.succPNat 1) (.error { code := .notRunning }))) = requeued p hp := rfl

set_option maxRecDepth 4000 in
theorem dropped_eq :
    (requeued p hp).handleEvent (encoding f) (.frame (.request (Nat.succPNat 0) (.ready ready))) =
      (((freed f p hp).seedState (waiting p hp)).write (encoding f)
        { waiting p hp with runID := laneRun 2 }
        (.deliver { p with runID := laneRun 2 })).notifyCompletion ready false false := rfl

theorem dropped_history (h : f 3 (.deliver { p with runID := laneRun 2 }) = false) :
    (freed f p hp).history ++
        [.reserved 2, .unsent 3 (.deliver { p with runID := laneRun 2 }) false] <+:
      ((requeued p hp).handleEvent (encoding f)
        (.frame (.request (Nat.succPNat 0) (.ready ready)))).history := by
  rw [dropped_eq]
  refine List.IsPrefix.trans ?_ (quiet_history (notifyCompletion_quiet _ _ _ _))
  rw [write_unencoded h, seedState_history, List.append_assoc]
  exact (List.prefix_append_right_inj _).mpr ⟨[_], rfl⟩

theorem queued_dropped (h₁ : f 1 runCommand = true) (h₂ : f 2 (.deliver p) = true)
    (h₃ : f 3 (.deliver { p with runID := laneRun 2 }) = false) :
    let t := lane.handleEvents (encoding f) (dropEvents p hp)
    .queued (waiting p hp) ∈ t.history ∧ .started (waiting p hp) ∈ t.history ∧
      .unsent 3 (.deliver { p with runID := laneRun 2 }) false ∈ t.history := by
  have hevents : lane.handleEvents (encoding f) (dropEvents p hp) =
      (requeued p hp).handleEvent (encoding f)
      (.frame (.request (Nat.succPNat 0) (.ready ready))) := by
    simp only [handleEvents, dropEvents, List.foldl_cons, List.foldl_nil]
    rw [started_eq f h₁, delivered_eq f p hp h₂, requeued_eq]
  have hsub := (dropped_history f p hp h₃).subset
  rw [← hevents] at hsub
  have hqueued : .queued (waiting p hp) ∈ (requeued p hp).history :=
    List.mem_append_right _ (by simp [waiting])
  have hfreed : (freed f p hp).history = (requeued p hp).history ++
      [.responded 1, .started (waiting p hp)] := rfl
  rw [hfreed] at hsub
  exact ⟨hsub (by simp [hqueued]), hsub (by simp), hsub (by simp)⟩

end

theorem angles_unsent {n : Nat} (hfits : n * 6 + 147 ≤ maxFrameBytes) (hlen : n ≤ 262144)
    (hlong : maxFrameBytes < n * 6 + 147 + 29 + (Text.formatUint 2).length) :
    let t := lane.handleEvents (openEnv.framed fun _ => true) (dropEvents (angles n) rfl)
    .queued (waiting (angles n) rfl) ∈ t.history ∧ .started (waiting (angles n) rfl) ∈ t.history ∧
      .unsent 3 (.deliver { angles n with runID := laneRun 2 }) false ∈ t.history := by
  refine queued_dropped (openEnv.framed fun _ => true).encodes (angles n) rfl rfl
    (angles_encodes (.inl rfl) hfits hlen) ?_
  rw [Bool.eq_false_iff]
  intro h
  have hsize := ((requestBytes_isSome _ 3 _).mp h).2
  rw [laneRun, frameSize_seeded rfl, angles_frameSize _ (.inr rfl)] at hsize
  omega

/-- A delivery is answered `queued_for_next_turn`, leaves the queue and is not written. -/
theorem angles_dropped :
    let t := lane.handleEvents (openEnv.framed fun _ => true) (dropEvents (angles 174738) rfl)
    FreshLane lane ∧ .queued (waiting (angles 174738) rfl) ∈ t.history ∧
      .started (waiting (angles 174738) rfl) ∈ t.history ∧
      .unsent 3 (.deliver { angles 174738 with runID := laneRun 2 }) false ∈ t.history :=
  ⟨{ newLane_fresh with }, angles_unsent (by decide) (by decide) (by decide)⟩

end Session

end Sessionbus
