import Playground.Json.Printer
import Playground.Text.Utf8

/-! Requests to the server and its responses. -/
namespace Playground.Server

abbrev Headers := List (String × String)

def Headers.get? (headers : Headers) (name : String) : Option String :=
  (headers.find? fun header => Text.lowerAscii header.1.toList == Text.lowerAscii name.toList).map (·.2)

structure Request where
  method : String
  target : String
  headers : Headers := []
  body : List UInt8 := []
  deriving DecidableEq, Repr

def Request.path (request : Request) : List Char :=
  request.target.toList.takeWhile fun c => c != '?' && c != '#'

structure Response where
  status : Nat
  headers : Headers := []
  body : String := ""
  deriving DecidableEq, Repr

namespace Response

def contentType : String := "content-type"

def ofText (status : Nat) (body : String) : Response :=
  { status, headers := [(contentType,"text/plain; charset=utf-8")], body }

def ofDocument (document : String) : Response :=
  { status := 200, headers := [(contentType,"text/html; charset=utf-8")], body := document }

def ofJson (status : Nat) (body : Json) : Response :=
  { status, headers := [(contentType,"application/json")], body := body.compact }

def ofComplaint (status : Nat) (complaint : String) : Response :=
  ofJson status (.mkObject [("error",.string complaint)])

def withHeaders (response : Response) (headers : Headers) : Response :=
  { response with headers := response.headers ++ headers }

def headOnly (response : Response) : Response := { response with body := "" }

end Response
end Playground.Server
