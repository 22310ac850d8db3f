import Sessionbus.Protocol.DecodeFrame

/-!
# Typed decoding

`DecodeParams` and `DecodeResult` of `protocol/validate.go`: the raw text is decoded once into a
generic value that the schema is checked on, and once into the Go value of the method. The rules
of the second decoding are those of `encoding/json`: a null leaves a value as it is and makes a
pointer, a map or a slice nil, an object is decoded into what a struct or a map already has, and
an array into the elements that the array of a slice already has, also those after its length.
-/

namespace Sessionbus

open Json

/-- `integer` is the type `Integer`, which decodes a number as a `float64`. -/
inductive GoType
  | string
  | bool
  | int64
  | integer
  | anyMap
  | slice (item : GoType)
  | pointer (target : GoType)
  | struct (fields : List (String × GoType))

inductive GoValue
  | string (value : String)
  | bool (value : Bool)
  | int (value : Int)
  | anyMap (members : Option (List (String × Node ℚ)))
  /-- `beyond` is what the array of the slice has after its length. -/
  | slice (items : Option (List GoValue)) (beyond : List GoValue)
  | pointer (target : Option GoValue)
  | struct (fields : List (String × GoValue))

mutual

def GoType.zero : GoType → GoValue
  | .string => .string ""
  | .bool => .bool false
  | .int64 => .int 0
  | .integer => .int 0
  | .anyMap => .anyMap none
  | .slice _ => .slice none []
  | .pointer _ => .pointer none
  | .struct fields => .struct (zeroFields fields)
termination_by structural x => x

def zeroFields : List (String × GoType) → List (String × GoValue)
  | [] => []
  | (name, type) :: fields => (name, type.zero) :: zeroFields fields
termination_by structural x => x

end

/-- `strconv.ParseInt`. -/
def parseInt64 (l : Literal) : Option Int :=
  let n := Nat.ofDigitChars 10 l.whole 0
  let value : Int := if l.negative then -n else n
  if l.plain && decide (-9223372036854775808 ≤ value ∧ value ≤ 9223372036854775807) then some value
  else none

/-- Each item is decoded into the element in its place, or a new one. -/
def reuse (decode : GoValue → Raw → Option GoValue) (zero : GoValue) :
    List GoValue → List Raw → Option (List GoValue)
  | _, [] => some []
  | memory, x :: items => do
    let value ← decode (memory.headD zero) x
    let rest ← reuse decode zero memory.tail items
    return value :: rest

mutual

/-- `json.Unmarshal` into a variable that has a value. A type mismatch is reported at the end, so it
is a failure. -/
def GoType.decode : GoType → GoValue → Raw → Option GoValue
  | .string, old, .null => some old
  | .string, _, .str value => some (.string value)
  | .bool, old, .null => some old
  | .bool, _, .bool value => some (.bool value)
  | .int64, old, .null => some old
  | .int64, _, .num l => (parseInt64 l).map .int
  | .integer, _, .null => some (.int 0)
  | .integer, _, .num l =>
    match binary64 l.value with
    | some q => if q.isInt then some (.int q.num) else none
    | none => none
  | .anyMap, _, .null => some (.anyMap none)
  | .anyMap, .anyMap old, .obj members =>
    (genericMembers members).map fun new => .anyMap (some (lastWins (old.getD [] ++ new)))
  | .slice _, _, .null => some (.slice none [])
  -- An empty array makes a new slice.
  | .slice _, _, .arr [] => some (.slice (some []) [])
  | .slice item, .slice old beyond, .arr items =>
    let memory := old.getD [] ++ beyond
    (reuse (fun value x => item.decode value x) item.zero memory items).map fun l =>
      .slice (some l) (memory.drop items.length)
  | .pointer _, _, .null => some (.pointer none)
  | .pointer target, .pointer old, raw =>
    (target.decode (old.getD target.zero) raw).map fun value => .pointer (some value)
  | .struct _, old, .null => some old
  | .struct fields, .struct old, .obj members =>
    (decodeFields (fields.map Prod.fst) fields old members).map .struct
  | _, _, _ => none
termination_by structural x => x

/-- Each field is decoded from its own members, in order. -/
def decodeFields (names : List String) :
    List (String × GoType) → List (String × GoValue) → List (String × Raw) →
      Option (List (String × GoValue))
  | (name, type) :: fields, old, members => do
    let own := members.filter fun m => fieldFor names m.1 == some name
    let value ← own.foldlM (fun value m => type.decode value m.2) ((old.lookup name).getD type.zero)
    let rest ← decodeFields names fields old members
    return (name, value) :: rest
  | [], _, _ => some []
termination_by structural x => x

end

mutual

/-- The value without what is after the length of a slice. -/
def GoType.seen : GoType → GoValue → GoValue
  | .slice item, .slice items _ => .slice (items.map fun l => l.map fun x => item.seen x) []
  | .pointer target, .pointer value => .pointer (value.map fun x => target.seen x)
  | .struct fields, .struct values => .struct (seenFields fields values)
  | _, value => value
termination_by structural x => x

def seenFields : List (String × GoType) → List (String × GoValue) → List (String × GoValue)
  | (_, type) :: fields, (name, value) :: values =>
    (name, type.seen value) :: seenFields fields values
  | _, values => values
termination_by structural x => x

end

mutual

/-- The Go value whose fields are the members of a value, or zero. -/
def GoType.ofValue : GoType → Node ℚ → GoValue
  | .string, .str value => .string value
  | .bool, .bool value => .bool value
  | .int64, .num q => .int q.num
  | .integer, .num q => .int q.num
  | .anyMap, .obj members => .anyMap (some members)
  | .slice item, .arr items => .slice (some (items.map fun x => item.ofValue x)) []
  | .pointer target, value => .pointer (some (target.ofValue value))
  | .struct fields, .obj members => .struct (ofMembers fields members)
  | type, _ => type.zero
termination_by structural x => x

def ofMembers : List (String × GoType) → List (String × Node ℚ) → List (String × GoValue)
  | (name, type) :: fields, members =>
    let value :=
      match members.lookup name with
      | some x => type.ofValue x
      | none => type.zero
    (name, value) :: ofMembers fields members
  | [], _ => []
termination_by structural x => x

end

/-! ## The types of the methods -/

namespace GoType

def texts : GoType := .slice .string

def extraArgument : GoType :=
  .struct [("name", .string), ("description", .string), ("takes_value", .bool)]

def helloFields : List (String × GoType) :=
  [("supports_message_run", .bool), ("product", .string), ("version", .string),
    ("supported_open_fields", texts), ("extra_arguments", .slice extraArgument)]

def workerHello : GoType :=
  .struct ([("protocol", .integer), ("launch_token", .string)] ++ helloFields)

def peerHello : GoType :=
  .struct [("protocol", .integer), ("product", .string), ("session_id", .string), ("name", .string),
    ("groups", texts), ("info", .anyMap)]

def openOptions : GoType :=
  .struct [("cwd", .string), ("permission_mode", .string), ("model", .string),
    ("reasoning_effort", .string), ("arguments", texts)]

def lanePolicy : GoType :=
  .struct [("persistent", .bool), ("auto_close_ms", .int64), ("idle_message", .string),
    ("notify", .bool), ("notify_target", .string), ("owner_session_id", .string),
    ("trace", .string)]

def runRef : GoType := .struct [("session_id", .string), ("run_id", .string)]

def waitRequest : GoType :=
  .struct [("session_id", .string), ("run_id", .string), ("timeout_ms", .pointer .int64)]

def turnResult : GoType :=
  .struct [("outcome", .string), ("result", .string), ("truncated", .bool),
    ("native_stop_reason", .string)]

def runStatus : GoType :=
  .struct [("session_id", .string), ("run_id", .string), ("state", .string),
    ("result", .pointer turnResult), ("reason", .string)]

def executeRequest : GoType :=
  .struct [("session_id", .string), ("run_id", .string), ("input", .string)]

def turnReady : GoType :=
  .struct [("session_id", .string), ("run_id", .string), ("state", .string), ("outcome", .string),
    ("reason", .string)]

def openRequest : GoType :=
  .struct [("policy", .pointer lanePolicy), ("name", .string), ("groups", texts),
    ("resume_session_id", .string), ("open", openOptions)]

def sessionTarget : GoType := .struct [("session_id", .string)]

def turnRunRequest : GoType := .struct [("session_id", .string), ("input", .string)]

def deliverySource : GoType :=
  .struct [("session_id", .string), ("name", .string), ("product", .string), ("groups", texts)]

def deliveryRequest : GoType :=
  .struct [("run_id", .string), ("message_id", .string), ("from", deliverySource),
    ("body", .string)]

def deliveryReceipt : GoType := .struct [("disposition", .string), ("reason", .string)]

def hostProducts : GoType := .struct [("host", .string), ("products", texts)]

def sessionSummary : GoType :=
  .struct [("policy", .pointer lanePolicy), ("session_id", .string), ("kind", .string),
    ("product", .string), ("name", .string), ("groups", texts), ("connected", .bool),
    ("running", .bool), ("info", .anyMap)]

def sessionListRequest : GoType := .struct [("session_id", .string), ("host", .string)]

def sessionListResult : GoType :=
  .struct [("self_info", .pointer deliverySource), ("sessions", .slice sessionSummary),
    ("hosts", .slice hostProducts)]

def messageSendRequest : GoType :=
  .struct [("target", .string), ("targets", texts), ("group", .string), ("host", .string),
    ("message", .string)]

def messageSendDelivery : GoType :=
  .struct [("target", .string), ("session_id", .string), ("delivery_id", .string),
    ("disposition", .string), ("reason", .string)]

def messageSendResult : GoType :=
  .struct [("message_id", .string), ("deliveries", .slice messageSendDelivery)]

def laneDescribeRequest : GoType := .struct [("product", .string), ("host", .string)]

def laneSpawnRequest : GoType :=
  .struct [("persistent", .pointer .bool), ("auto_close_ms", .pointer .int64),
    ("idle_message", .string), ("notify", .pointer .bool), ("notify_target", .string),
    ("name", .string), ("product", .string), ("host", .string), ("resume_session_id", .string),
    ("extra_groups", texts), ("open", .pointer openOptions), ("trace", .string)]

def laneSpawnResult : GoType := .struct [("policy", .pointer lanePolicy), ("session_id", .string)]

def traceConfigure : GoType := .struct [("session_id", .string), ("mode", .string)]

def sessionCloseRequest : GoType := .struct [("session_id", .string), ("forget", .bool)]

end GoType

namespace Method

def paramsRule : Method → String
  | .hello => "SessionHelloRequest"
  | .superseded => "SessionSupersededRequest"
  | .list => "SessionListRequest"
  | .send => "MessageSendRequest"
  | .deliver => "MessageDeliverRequest"
  | .describe => "LaneDescribeRequest"
  | .spawn => "LaneSpawnRequest"
  | .traceConfigure => "TraceConfigureRequest"
  | .openSession => "SessionOpenRequest"
  | .run | .start => "TurnRunRequest"
  | .execute => "ExecuteRequest"
  | .status => "ReadRequest"
  | .wait => "WaitRequest"
  | .ack => "RunRef"
  | .ready => "TurnReady"
  | .interrupt => "TurnInterruptRequest"
  | .close => "SessionCloseRequest"

def resultRule : Method → String
  | .hello => "SessionHelloResult"
  | .superseded => "SessionSupersededResult"
  | .list => "SessionListResult"
  | .send => "MessageSendResult"
  | .deliver => "MessageDeliverResult"
  | .describe => "LaneDescribeResult"
  | .spawn => "LaneSpawnResult"
  | .traceConfigure => "TraceConfigureResult"
  | .openSession => "SessionOpenResult"
  | .run | .status | .wait => "RunStatus"
  | .start | .execute => "RunRef"
  | .ack | .ready | .close => "SessionCloseResult"
  | .interrupt => "TurnInterruptResult"

/-- `worker` says that a hello has a launch token. -/
def paramsType (worker : Bool) : Method → GoType
  | .hello => if worker then .workerHello else .peerHello
  | .superseded => .struct []
  | .list => .sessionListRequest
  | .send => .messageSendRequest
  | .deliver => .deliveryRequest
  | .describe => .laneDescribeRequest
  | .spawn => .laneSpawnRequest
  | .traceConfigure => .traceConfigure
  | .openSession => .openRequest
  | .run | .start => .turnRunRequest
  | .execute => .executeRequest
  | .status => .runRef
  | .wait => .waitRequest
  | .ack => .runRef
  | .ready => .turnReady
  | .interrupt => .sessionTarget
  | .close => .sessionCloseRequest

def resultType : Method → GoType
  | .hello | .superseded | .ack | .ready | .interrupt | .close => .struct []
  | .list => .sessionListResult
  | .send => .messageSendResult
  | .deliver => .deliveryReceipt
  | .describe => .struct GoType.helloFields
  | .spawn => .laneSpawnResult
  | .traceConfigure => .traceConfigure
  | .openSession => .sessionTarget
  | .run | .status | .wait => .runStatus
  | .start | .execute => .runRef

end Method

/-- Which of the two texts of a call it is. -/
inductive Side
  | params | result
deriving DecidableEq, Repr

def Side.rule (side : Side) (method : Method) : String :=
  match side with
  | .params => method.paramsRule
  | .result => method.resultRule

/-- `fields["launch_token"]` knows exact names only. -/
def hasLaunchToken : Raw → Bool
  | .obj members => (members.lookup "launch_token").isSome
  | _ => false

def Side.type (side : Side) (method : Method) (raw : Raw) : GoType :=
  match side with
  | .params => method.paramsType (hasLaunchToken raw)
  | .result => method.resultType

def validateDefinition (matched : String → String → Bool) (name : String)
    (value : Schema.Value) : Bool :=
  (Schema.schemaIssue (Schema.sessionSchema matched) Schema.depth (Schema.refer name) value
    "" "").isNone

end Sessionbus
