import Playground.Url

/-! Exchanges with web servers: a request, and either an answer or the reason why none came. Who
carries a request is an operation on a world of any type. A client follows the redirects that it is
answered with. -/
namespace Playground.Net

inductive Method where
  | get | post
  deriving DecidableEq, Repr

def Method.name : Method → String
  | .get => "GET"
  | .post => "POST"

structure Request where
  method : Method
  url : Url
  body : String := ""
  deriving DecidableEq, Repr

inductive Breakdown where
  | timedOut
  | notConnected
  | closed (url : Url)
  | cutShort
  | unsupportedScheme (url : Url)
  | tooManyRedirects (url : Url)
  deriving DecidableEq, Repr

structure Answer where
  status : Nat
  body : List UInt8 := []
  complete : Bool := true
  location : Option Url := none
  deriving DecidableEq, Repr

abbrev Carrier (W : Type) := Request → StateM W (Except Breakdown Answer)

def shownUrl (url : Url) : String := { url with username := "", password := "" }.render

def Breakdown.reason : Breakdown → String
  | .timedOut => "request timed out"
  | .notConnected => "connection failed"
  | .closed url => s!"error sending request for url ({shownUrl url})"
  | .cutShort => "error decoding response body"
  | .unsupportedScheme url => s!"builder error for url ({shownUrl url})"
  | .tooManyRedirects url => s!"error following redirect for url ({shownUrl url})"

def isWebScheme (scheme : String) : Bool := scheme == "http" || scheme == "https"

def send (carrier : Carrier W) (request : Request) : StateM W (Except Breakdown Answer) :=
  if isWebScheme request.url.scheme then carrier request
  else return .error (.unsupportedScheme request.url)

def Answer.redirect? (answer : Answer) (request : Request) : Option Request :=
  answer.location.bind fun url =>
    if answer.status ∈ [301,302,303] then some { method := .get, url }
    else if answer.status ∈ [307,308] then some { request with url }
    else none

/- The request that a reply asks for. Only on 307 and 308 it is the same one again. -/
def Request.redirected? (request : Request) (reply : Except Breakdown Answer) : Option Request :=
  reply.toOption.bind fun answer => answer.redirect? request

def redirectLimit : Nat := 10

def followed (carrier : Carrier W) : Nat → Carrier W
  | 0,request => do
    let reply ← carrier request
    match request.redirected? reply with
    | none => return reply
    | some _ => return .error (.tooManyRedirects request.url)
  | left + 1,request => do
    let reply ← carrier request
    match request.redirected? reply with
    | none => return reply
    | some asked => send (followed carrier left) asked

def following (carrier : Carrier W) : Carrier W := followed carrier redirectLimit

namespace Answer

def isSuccess (answer : Answer) : Bool := 200 ≤ answer.status && answer.status < 300

def isBodiless (answer : Answer) : Bool := answer.status = 204 || answer.status = 304

def content (answer : Answer) : Except Breakdown (List UInt8) :=
  if answer.isBodiless then .ok []
  else if answer.complete then .ok answer.body
  else .error .cutShort

end Answer

def phrase? : Nat → Option String
  | 100 => some "Continue"
  | 101 => some "Switching Protocols"
  | 102 => some "Processing"
  | 200 => some "OK"
  | 201 => some "Created"
  | 202 => some "Accepted"
  | 203 => some "Non Authoritative Information"
  | 204 => some "No Content"
  | 205 => some "Reset Content"
  | 206 => some "Partial Content"
  | 207 => some "Multi-Status"
  | 208 => some "Already Reported"
  | 226 => some "IM Used"
  | 300 => some "Multiple Choices"
  | 301 => some "Moved Permanently"
  | 302 => some "Found"
  | 303 => some "See Other"
  | 304 => some "Not Modified"
  | 305 => some "Use Proxy"
  | 307 => some "Temporary Redirect"
  | 308 => some "Permanent Redirect"
  | 400 => some "Bad Request"
  | 401 => some "Unauthorized"
  | 402 => some "Payment Required"
  | 403 => some "Forbidden"
  | 404 => some "Not Found"
  | 405 => some "Method Not Allowed"
  | 406 => some "Not Acceptable"
  | 407 => some "Proxy Authentication Required"
  | 408 => some "Request Timeout"
  | 409 => some "Conflict"
  | 410 => some "Gone"
  | 411 => some "Length Required"
  | 412 => some "Precondition Failed"
  | 413 => some "Payload Too Large"
  | 414 => some "URI Too Long"
  | 415 => some "Unsupported Media Type"
  | 416 => some "Range Not Satisfiable"
  | 417 => some "Expectation Failed"
  | 418 => some "I'm a teapot"
  | 421 => some "Misdirected Request"
  | 422 => some "Unprocessable Entity"
  | 423 => some "Locked"
  | 424 => some "Failed Dependency"
  | 425 => some "Too Early"
  | 426 => some "Upgrade Required"
  | 428 => some "Precondition Required"
  | 429 => some "Too Many Requests"
  | 431 => some "Request Header Fields Too Large"
  | 451 => some "Unavailable For Legal Reasons"
  | 500 => some "Internal Server Error"
  | 501 => some "Not Implemented"
  | 502 => some "Bad Gateway"
  | 503 => some "Service Unavailable"
  | 504 => some "Gateway Timeout"
  | 505 => some "HTTP Version Not Supported"
  | 506 => some "Variant Also Negotiates"
  | 507 => some "Insufficient Storage"
  | 508 => some "Loop Detected"
  | 510 => some "Not Extended"
  | 511 => some "Network Authentication Required"
  | _ => none

end Playground.Net
