import Sessionbus.Protocol
import Sessionbus.Schema.Spec

/-!
# The session schema

`session.schema.json`, and the codes and messages of `errorMessages`.
-/

namespace Sessionbus

def codes : List Code :=
  [.invalidFrame, .invalidHello, .internal, .unknownSession, .notConnected, .busy, .notRunning,
    .alreadyConnected, .unknownProduct, .unsupportedOpen, .spawnFailed, .timeout, .notCommitted,
    .superseded, .nameTaken, .unknownHost, .forwardLost, .unsupportedTrace]

def Code.number : Code → Int
  | .invalidFrame => -32600
  | .invalidHello => -32602
  | .internal => -32603
  | .unknownSession => -32001
  | .notConnected => -32002
  | .busy => -32003
  | .notRunning => -32004
  | .alreadyConnected => -32005
  | .unknownProduct => -32007
  | .unsupportedOpen => -32008
  | .spawnFailed => -32009
  | .timeout => -32010
  | .notCommitted => -32011
  | .superseded => -32012
  | .nameTaken => -32013
  | .unknownHost => -32014
  | .forwardLost => -32015
  | .unsupportedTrace => -32016

def Code.message : Code → String
  | .invalidFrame => "invalid_frame"
  | .invalidHello => "invalid_hello"
  | .internal => "internal"
  | .unknownSession => "unknown_session"
  | .notConnected => "not_connected"
  | .busy => "busy"
  | .notRunning => "not_running"
  | .alreadyConnected => "already_connected"
  | .unknownProduct => "unknown_product"
  | .unsupportedOpen => "unsupported_open_field"
  | .spawnFailed => "spawn_failed"
  | .timeout => "timeout"
  | .notCommitted => "not_committed"
  | .superseded => "superseded"
  | .nameTaken => "name_taken"
  | .unknownHost => "unknown_host"
  | .forwardLost => "forward_lost"
  | .unsupportedTrace => "unsupported_trace"

namespace Schema

/-! ## The shapes that the schema repeats -/

def nonempty : Rule := { kind := some .string, minLength := some 1 }

def bounded (n : Nat) : Rule := { kind := some .string, minLength := some 1, maxLength := some n }

def namePattern : String :=
  "^[\\p\x7bL\x7d\\p\x7bM\x7d\\p\x7bN\x7d\\p\x7bP\x7d\\p\x7bS\x7d\\p\x7bZs\x7d]+$"

def label (n : Nat) : Rule := { bounded n with pattern := some namePattern }

def hostName : Rule := { kind := some .string, pattern := some "^[a-z0-9][a-z0-9-]\x7b0,31\x7d$" }

def flag : Rule := { kind := some .boolean }

def milliseconds : Rule :=
  { kind := some .integer, minimum := some 0, maximum := some 9223372036854 }

def oneOf (texts : List String) : Rule := { enum := some (texts.map .str) }

def listOf (item : Rule) : Rule := { kind := some .array, items := some item }

def distinct (item : Rule) : Rule := { listOf item with uniqueItems := true }

def refer (name : String) : Rule := { ref := some name }

def record (required : List String) (properties : List (String × Rule)) : Rule :=
  { kind := some .object, closed := true, required, properties := some properties }

def needs (names : List String) : Rule := { required := names }

def without (name : String) : Rule := { excluded := some (needs [name]) }

def withoutAll (names : List String) : Rule := { allOf := names.map without }

def equals (name : String) (value : Value) : Rule :=
  { properties := some [(name, { const := some value })] }

/-- `equals`, and the member is there. -/
def isSet (name : String) (value : Value) : Rule := { equals name value with required := [name] }

def implies (condition consequent : Rule) : Rule :=
  { condition := some condition, consequent := some consequent }

def choose (condition consequent alternative : Rule) : Rule :=
  { implies condition consequent with alternative := some alternative }

def openFields : Rule :=
  distinct (oneOf ["cwd", "permission_mode", "model", "reasoning_effort", "arguments"])

def traceMode : Rule := oneOf ["off", "events", "content"]

/-! ## The definitions -/

def definitions : List (String × Rule) := [
  ("SessionHelloRequest", { record ["protocol", "product"] [
        ("protocol", { kind := some .integer, const := some (.num 1) }),
        ("product", nonempty),
        ("session_id", bounded 128),
        ("name", label 128),
        ("groups", distinct nonempty),
        ("info", { kind := some .object }),
        ("launch_token", nonempty),
        ("supported_open_fields", openFields),
        ("extra_arguments", listOf (refer "ExtraArgument")),
        ("version", nonempty),
        ("supports_message_run", flag)] with
      allOf := [
        choose (needs ["launch_token"])
          { allOf := [needs ["launch_token", "supported_open_fields", "extra_arguments"],
            without "session_id",
              without "name", without "groups", without "info"] }
          { allOf := [needs ["session_id", "groups", "info"], without "supported_open_fields",
              without "supports_message_run", without "extra_arguments", without "version"] }] }),
  ("SessionHelloResult", { kind := some .object, closed := true }),
  ("SessionSupersededRequest", { kind := some .object, closed := true }),
  ("SessionSupersededResult", { kind := some .object, closed := true }),
  ("SessionListRequest", { record [] [("session_id", nonempty), ("host", hostName)] with
      allOf := [implies (needs ["session_id"]) (without "host")] }),
  ("SessionListResult", record ["sessions"] [
      ("self_info", refer "SessionSelfInfo"),
      ("sessions", listOf (refer "SessionSummary")),
      ("hosts", listOf (refer "HostProducts"))]),
  ("SessionSelfInfo", refer "DeliverySource"),
  ("HostProducts",
    record ["host", "products"] [("host", nonempty), ("products", distinct nonempty)]),
  ("SessionSummary", { record ["session_id", "kind", "product", "groups", "connected", "running"] [
        ("session_id", bounded 161),
        ("kind", oneOf ["peer", "lane"]),
        ("product", nonempty),
        ("name", label 161),
        ("groups", distinct nonempty),
        ("connected", flag),
        ("running", flag),
        ("info", { kind := some .object }),
        ("policy", refer "LanePolicy")] with
      allOf := [
        implies (equals "kind" (.str "lane")) (needs ["name"]),
        implies (isSet "connected" (.bool false)) (equals "running" (.bool false))] }),
  ("MessageSendRequest", { record ["message"] [
        ("target", nonempty),
        ("targets",
          { distinct nonempty with allOf := [{ excluded := some { const := some (.arr []) } }] }),
        ("group", nonempty),
        ("host", hostName),
        ("message", bounded 262144)] with
      allOf := [
        choose (needs ["target"])
          (withoutAll ["targets", "group"])
          (choose (needs ["targets"]) (without "group") (needs ["group"])),
        implies (needs ["host"]) (needs ["group"])] }),
  ("MessageSendResult", record ["message_id", "deliveries"] [
      ("message_id", nonempty),
      ("deliveries", listOf (refer "MessageSendDelivery"))]),
  ("MessageSendDelivery", { record ["target", "disposition"] [
        ("target", nonempty),
        ("session_id", nonempty),
        ("delivery_id", nonempty),
        ("disposition", oneOf ["written", "injected", "queued_for_next_turn", "rejected"]),
        ("reason", nonempty)] with
      allOf := [
        choose (isSet "disposition" (.str "rejected"))
          (needs ["reason"])
          { allOf := [needs ["session_id", "delivery_id"], without "reason"] },
        implies (isSet "reason" (.str "ambiguous")) (withoutAll ["session_id", "delivery_id"])] }),
  ("MessageDeliverRequest", record ["message_id", "from", "body"] [
      ("message_id", nonempty),
      ("from", refer "DeliverySource"),
      ("body", { kind := some .string, maxLength := some 262144 }),
      ("run_id", nonempty)]),
  ("MessageDeliverResult", refer "DeliveryReceipt"),
  ("DeliverySource", record ["session_id", "product", "groups"] [
      ("session_id", nonempty),
      ("name", label 161),
      ("product", nonempty),
      ("groups", distinct nonempty)]),
  ("DeliveryReceipt", { record ["disposition"] [
        ("disposition", oneOf ["written", "injected", "queued_for_next_turn", "rejected"]),
        ("reason", nonempty)] with
      allOf := [choose (isSet "disposition" (.str "rejected")) (needs ["reason"])
        (without "reason")] }),
  ("LaneDescribeRequest", record ["product"] [("product", nonempty), ("host", nonempty)]),
  ("LaneDescribeResult", record ["product", "supported_open_fields", "extra_arguments"] [
      ("product", nonempty),
      ("supported_open_fields", openFields),
      ("extra_arguments", listOf (refer "ExtraArgument")),
      ("version", nonempty),
      ("supports_message_run", flag)]),
  ("ExtraArgument", record ["name", "description", "takes_value"] [
      ("name", nonempty),
      ("description", nonempty),
      ("takes_value", flag)]),
  ("SessionOpenOptions", record [] [
      ("cwd", nonempty),
      ("permission_mode", nonempty),
      ("model", nonempty),
      ("reasoning_effort", nonempty),
      ("arguments", listOf { kind := some .string })]),
  ("LaneSpawnRequest", { record [] [
        ("name", label 128),
        ("product", nonempty),
        ("host", nonempty),
        ("resume_session_id", nonempty),
        ("extra_groups", distinct nonempty),
        ("open", refer "SessionOpenOptions"),
        ("persistent", flag),
        ("auto_close_ms", milliseconds),
        ("idle_message", oneOf ["stage", "run"]),
        ("notify", flag),
        ("notify_target", nonempty),
        ("trace", traceMode)] with
      allOf := [
        choose (needs ["resume_session_id"])
          (withoutAll ["product", "name", "extra_groups", "open", "host"])
          (needs ["name", "product", "open"])] }),
  ("LaneSpawnResult",
    record ["session_id"] [("session_id", nonempty), ("policy", refer "LanePolicy")]),
  ("TraceConfigureRequest",
    record ["session_id", "mode"] [("session_id", nonempty), ("mode", traceMode)]),
  ("TraceConfigureResult",
    record ["session_id", "mode"] [("session_id", nonempty), ("mode", traceMode)]),
  ("SessionOpenRequest", record ["name", "groups", "open"] [
      ("name", label 161),
      ("groups", distinct nonempty),
      ("resume_session_id", nonempty),
      ("open", refer "SessionOpenOptions"),
      ("policy", refer "LanePolicy")]),
  ("SessionOpenResult", record ["session_id"] [("session_id", bounded 128)]),
  ("TurnRunRequest",
    record ["session_id", "input"] [("session_id", nonempty), ("input", bounded 262144)]),
  ("TurnRunResult", record ["outcome", "result"] [
      ("outcome", oneOf ["completed", "interrupted", "failed"]),
      ("result", { kind := some .string, maxLength := some 262144 }),
      ("truncated", flag),
      ("native_stop_reason", nonempty)]),
  ("TurnInterruptRequest", record ["session_id"] [("session_id", nonempty)]),
  ("TurnInterruptResult", { kind := some .object, closed := true }),
  ("SessionCloseRequest", record ["session_id"] [("session_id", nonempty), ("forget", flag)]),
  ("SessionCloseResult", { kind := some .object, closed := true }),
  ("RPCErrorResponse", record ["jsonrpc", "id", "error"] [
      ("jsonrpc", { const := some (.str "2.0") }),
      ("id", { kind := some .integer, minimum := some 1 }),
      ("error", refer "RPCError")]),
  ("RPCError", { record ["code", "message"] [
        ("code", { enum := some (codes.map fun c => .num c.number) }),
        ("message", oneOf (codes.map Code.message)),
        ("data", {})] with
      allOf := (codes.erase Code.internal ++ [Code.internal]).map (fun c : Code =>
        implies (equals "code" (.num c.number)) (equals "message" (.str c.message))) ++ [
        choose (isSet "code" (.num Code.spawnFailed.number))
          { required := ["data"], properties := some [("data", refer "SpawnFailedData")] }
          (choose (isSet "code" (.num Code.internal.number))
            { required := ["data"], properties := some [("data", nonempty)] }
            (without "data"))] }),
  ("SpawnFailedData", record ["stderr_tail"] [
      ("exit_code", { kind := some .integer }),
      ("stderr_tail", listOf { kind := some .string })]),
  ("LanePolicy", record ["persistent", "auto_close_ms", "idle_message", "notify"] [
      ("persistent", flag),
      ("auto_close_ms", milliseconds),
      ("idle_message", oneOf ["stage", "run"]),
      ("notify", flag),
      ("notify_target", nonempty),
      ("owner_session_id", nonempty),
      ("trace", traceMode)]),
  ("RunRef", record ["session_id", "run_id"] [("session_id", nonempty), ("run_id", nonempty)]),
  ("ReadRequest", record ["session_id"] [("session_id", nonempty), ("run_id", nonempty)]),
  ("WaitRequest", record ["session_id"] [("session_id", nonempty), ("run_id", nonempty),
    ("timeout_ms", milliseconds)]),
  ("RunStatus", { record ["session_id", "run_id", "state"] [
        ("session_id", nonempty),
        ("run_id", nonempty),
        ("state", oneOf ["running", "done", "unavailable"]),
        ("result", refer "TurnRunResult"),
        ("reason", nonempty)] with
      allOf := [
        choose (equals "state" (.str "done")) (needs ["result"]) (without "result"),
        choose (equals "state" (.str "unavailable")) (needs ["reason"]) (without "reason")] }),
  ("ExecuteRequest", record ["session_id", "run_id", "input"] [
      ("session_id", nonempty),
      ("run_id", nonempty),
      ("input", bounded 262144)]),
  ("TurnReady", { record ["session_id", "run_id", "state"] [
        ("session_id", nonempty),
        ("run_id", nonempty),
        ("state", oneOf ["done", "unavailable"]),
        ("outcome", oneOf ["completed", "failed", "interrupted"]),
        ("reason", nonempty)] with
      allOf := [
        choose (equals "state" (.str "done"))
          { required := ["outcome"], excluded := some (needs ["reason"]) }
          { required := ["reason"], excluded := some (needs ["outcome"]) }] })]

end Schema

end Sessionbus
