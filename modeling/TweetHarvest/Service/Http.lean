import TweetHarvest.Text.Utf8
import TweetHarvest.Url.Reader

/-!
# HTTP exchanges

A request as the program makes it and what may come of it.  A request that cannot be written down is
never sent: its URL has to name a host under `http` or `https`, and its token has to fit into a
header.

* `Http.Request`     a request, with `Http.Request.fault?` for what keeps it from being sent
* `Http.Outcome`     a response, or the lack of one
* `Http.bodyText`    the text of a body
-/

namespace TweetHarvest.Http

/-- The methods in use. -/
inductive Method where
  | get
  | post
deriving DecidableEq, Repr

/-- The name of a method. -/
def Method.name : Method → String
  | .get => "GET"
  | .post => "POST"

/-- How the program names itself. -/
def userAgent : String := "scrapetweet/0.1.0"

/-- A request. -/
structure Request where
  method : Method
  url : Url
  token : String
  /-- JSON, if the request has a body. -/
  body : Option String

/-- Why a request got no response. -/
inductive Fault where
  /-- The request is not one that can be made. -/
  | unbuildable (url : Option Url)
  /-- The connection was refused or broke off. -/
  | unanswered (url : Url)

/-- The URL as it is shown in messages, without user name and password. -/
def shownUrl (u : Url) : String :=
  Url.text { u with authority := u.authority.map fun a => { a with user := ⟨[], none⟩ } }

/-- The wording of a fault. -/
def Fault.message : Fault → String
  | .unbuildable none => "builder error"
  | .unbuildable (some url) => "builder error for url (" ++ shownUrl url ++ ")"
  | .unanswered url => "error sending request for url (" ++ shownUrl url ++ ")"

/-- What comes of a request. -/
inductive Outcome where
  | failed (fault : Fault)
  | response (status : Nat) (body : ByteArray)

/-- The response with a status and a body; the statuses for "no content" and "not modified" come
without a body. -/
def Outcome.reply (status : Nat) (body : ByteArray) : Outcome :=
  .response status (if status = 204 || status = 304 then .empty else body)

/-- Whether a character may stand in the value of a header. -/
def isHeaderChar (c : Char) : Bool := c = '\t' || !(c.toNat < 0x20 || c.toNat = 0x7F)

/-- Whether a scheme is one of HTTP. -/
def isHttpScheme (scheme : List Char) : Bool :=
  scheme = "http".toList || scheme = "https".toList

namespace Request

/-- The value of the authorization header. -/
def authorization (r : Request) : String := "Bearer " ++ r.token

/-- The type of the body. -/
def contentType? (r : Request) : Option String := r.body.map fun _ => "application/json"

/-- What keeps a request from being sent. -/
def fault? (r : Request) : Option Fault :=
  -- Of several faults the first one in this order is met
  if r.url.hostText?.isNone then some (.unbuildable (some r.url))
  else if !r.token.toList.all isHeaderChar then some (.unbuildable none)
  else if !isHttpScheme r.url.scheme then some (.unbuildable (some r.url))
  else none

end Request

/-- Whether a status is one of success. -/
def isSuccess (status : Nat) : Bool := 200 ≤ status && status < 300

/-- The text of a body, with replacement characters for octets that are no UTF-8. -/
def bodyText (body : ByteArray) : List Char := Utf8.lossy body.data.toList

end TweetHarvest.Http
