import Menagerie.Beaver.Text

/-!
# Responses and their bytes

`Response`, the factory functions that the driver uses, and `serialize_response`, which renders a
response for HTTP/1.1.
-/

namespace Menagerie.Albatross

open Beaver

/-- `HttpStatus`. -/
inductive HttpStatus
  | ok | created | accepted | noContent
  | movedPermanently | found | seeOther | notModified | temporaryRedirect | permanentRedirect
  | badRequest | unauthorized | forbidden | notFound | methodNotAllowed | conflict | gone
  | payloadTooLarge | unsupportedMediaType | unprocessableEntity | tooManyRequests
  | internalServerError | notImplemented | badGateway | serviceUnavailable | gatewayTimeout
  deriving DecidableEq

def HttpStatus.code : HttpStatus → Nat
  | .ok => 200
  | .created => 201
  | .accepted => 202
  | .noContent => 204
  | .movedPermanently => 301
  | .found => 302
  | .seeOther => 303
  | .notModified => 304
  | .temporaryRedirect => 307
  | .permanentRedirect => 308
  | .badRequest => 400
  | .unauthorized => 401
  | .forbidden => 403
  | .notFound => 404
  | .methodNotAllowed => 405
  | .conflict => 409
  | .gone => 410
  | .payloadTooLarge => 413
  | .unsupportedMediaType => 415
  | .unprocessableEntity => 422
  | .tooManyRequests => 429
  | .internalServerError => 500
  | .notImplemented => 501
  | .badGateway => 502
  | .serviceUnavailable => 503
  | .gatewayTimeout => 504

/-- `HttpVersion`. -/
inductive HttpVersion
  | http10 | http11 | http2 | http3
  deriving DecidableEq

/-- `Headers` with owned entries, in the order of insertion. -/
abbrev Headers := List (Text × Text)

/-- `Response`; `body` is its `buffered_view`, absent if it is streamed. -/
structure Response where
  status : HttpStatus := .ok
  version : HttpVersion := .http11
  keepAlive : Bool := true
  headers : Headers := []
  body : Option Text := some []
  deriving DecidableEq

/-- `Headers::add`. -/
def Response.addHeader (response : Response) (name value : Text) : Response :=
  { response with headers := response.headers ++ [(name, value)] }

namespace ResponseFactory

/-- A response with a body. -/
def withBody (status : HttpStatus) (body contentType : Text) : Response :=
  { ({ status := status } : Response).addHeader "Content-Type".toList contentType with
    body := some body }

def badRequest (body : Text) : Response :=
  withBody .badRequest body "text/plain".toList

def payloadTooLarge : Response :=
  withBody .payloadTooLarge "Payload Too Large".toList "text/plain".toList

def internalError : Response :=
  withBody .internalServerError "Internal Server Error".toList "text/plain".toList

end ResponseFactory

/-- `boost::beast::iequals`. -/
def iequals (first second : Text) : Bool :=
  first.map Char.toLower == second.map Char.toLower

/-- `imf_fixdate_now` and `http::obsolete_reason`. -/
structure Stamps where
  date : Text
  obsoleteReason : Nat → Text

/-- The end of a line. -/
def crlf : Text := ['\r', '\n']

/-- A line of the head. -/
def headerLine (name value : Text) : Text :=
  name ++ ": ".toList ++ value ++ crlf

/-- The header pass of `serialize_response`, which notes `Date` and `Server`. -/
def headerLines : Headers → Bool → Bool → Text × Bool × Bool
  | [], hasDate, hasServer => ([], hasDate, hasServer)
  | (name, value) :: rest, hasDate, hasServer =>
    let isDate := !hasDate && iequals name "Date".toList
    let isServer := !isDate && !hasServer && iequals name "Server".toList
    let (lines, dateSet, serverSet) := headerLines rest (hasDate || isDate) (hasServer || isServer)
    (headerLine name value ++ lines, dateSet, serverSet)

/-- The start of the status line. -/
def versionText (version : HttpVersion) : Text :=
  if version = .http10 then "HTTP/1.0 ".toList else "HTTP/1.1 ".toList

/-- `serialize_response`: the text that it appends. -/
def serializeResponse (stamps : Stamps) (response : Response) : Text :=
  let (lines, hasDate, hasServer) := headerLines response.headers false false
  let body := response.body.getD []
  versionText response.version ++ Nat.toDigits 10 response.status.code ++ [' '] ++
    stamps.obsoleteReason response.status.code ++ crlf ++ lines ++
    (if hasDate then [] else headerLine "Date".toList stamps.date) ++
    (if hasServer then [] else headerLine "Server".toList "Menagerie".toList) ++
    headerLine "Content-Length".toList (Nat.toDigits 10 body.length) ++
    (if response.keepAlive then [] else headerLine "Connection".toList "close".toList) ++
    crlf ++ body

end Menagerie.Albatross
