import Workflow.Config.Model
import Workflow.Conversation.Message
import Workflow.Json.Basic
import Workflow.Text.Utf8

/-!
# Exchanges with a provider

What a model is asked, how that is sent to a provider over HTTP, and what comes back: a status and a
body, which arrives in chunks and may be cut off.
-/

namespace Workflow

/-!
## Requests to a model

What a model is asked: which model it is, the conversation so far and the tools that it may use.
-/

/-- A request to a model. -/
structure ModelRequest where
  model : ModelConfig
  messages : List Message
  tools : List ToolDefinition
deriving Repr

namespace ModelRequest

/-- A request as a JSON value: the name of the model, the messages and the names of the tools. -/
def toJson (request : ModelRequest) : Json :=
  Json.ofMembers [("model", .text request.model.model),
    ("messages", .list (request.messages.map Message.toJson)),
    ("tools", .list (request.tools.map fun tool => .text tool.name))]

end ModelRequest

/-! ## What goes over HTTP -/

/-- A request that carries a JSON document. -/
structure Post where
  url : String
  headers : List (String × String)
  body : Json
deriving DecidableEq, Repr

/-- A response. -/
structure Response where
  status : Nat
  chunks : List (List UInt8)
  /-- Whether the connection broke before the end of the body. -/
  cutOff : Bool
deriving DecidableEq, Repr

namespace Response

/-- Whether a request was granted. -/
def isSuccess (response : Response) : Bool :=
  200 ≤ response.status && response.status < 300

/-- The phrase that goes with a status. -/
def phrase : Nat → String
  | 100 => "Continue"
  | 101 => "Switching Protocols"
  | 102 => "Processing"
  | 200 => "OK"
  | 201 => "Created"
  | 202 => "Accepted"
  | 203 => "Non Authoritative Information"
  | 204 => "No Content"
  | 205 => "Reset Content"
  | 206 => "Partial Content"
  | 207 => "Multi-Status"
  | 208 => "Already Reported"
  | 226 => "IM Used"
  | 300 => "Multiple Choices"
  | 301 => "Moved Permanently"
  | 302 => "Found"
  | 303 => "See Other"
  | 304 => "Not Modified"
  | 305 => "Use Proxy"
  | 307 => "Temporary Redirect"
  | 308 => "Permanent Redirect"
  | 400 => "Bad Request"
  | 401 => "Unauthorized"
  | 402 => "Payment Required"
  | 403 => "Forbidden"
  | 404 => "Not Found"
  | 405 => "Method Not Allowed"
  | 406 => "Not Acceptable"
  | 407 => "Proxy Authentication Required"
  | 408 => "Request Timeout"
  | 409 => "Conflict"
  | 410 => "Gone"
  | 411 => "Length Required"
  | 412 => "Precondition Failed"
  | 413 => "Payload Too Large"
  | 414 => "URI Too Long"
  | 415 => "Unsupported Media Type"
  | 416 => "Range Not Satisfiable"
  | 417 => "Expectation Failed"
  | 418 => "I'm a teapot"
  | 421 => "Misdirected Request"
  | 422 => "Unprocessable Entity"
  | 423 => "Locked"
  | 424 => "Failed Dependency"
  | 425 => "Too Early"
  | 426 => "Upgrade Required"
  | 428 => "Precondition Required"
  | 429 => "Too Many Requests"
  | 431 => "Request Header Fields Too Large"
  | 451 => "Unavailable For Legal Reasons"
  | 500 => "Internal Server Error"
  | 501 => "Not Implemented"
  | 502 => "Bad Gateway"
  | 503 => "Service Unavailable"
  | 504 => "Gateway Timeout"
  | 505 => "HTTP Version Not Supported"
  | 506 => "Variant Also Negotiates"
  | 507 => "Insufficient Storage"
  | 508 => "Loop Detected"
  | 510 => "Not Extended"
  | 511 => "Network Authentication Required"
  | _ => "<unknown status code>"

/-- The whole body as text, with a mark in place of what is not well formed; nothing if it was cut
off. -/
def text? (response : Response) : Option String :=
  if response.cutOff then none
  else some (Utf8.decodeLossy response.chunks.flatten)

/-- The wording of a refusal; `unread` stands for a body that was cut off. -/
def refusal (response : Response) (unread : String) : String :=
  s!"HTTP {response.status} {phrase response.status}: {response.text?.getD unread}"

end Response

end Workflow
