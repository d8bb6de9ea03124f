import StoreGate.Fault
import StoreGate.Http.Exchange

/-!
# Redirected requests

The engine answers many requests with the address of another node. The same request, body and
credentials included, is sent there, as long as not too many such answers come in a row.

* `Redirect.putFollowing` — sends a request until an answer is no redirect.
-/

namespace StoreGate

namespace Redirect

/-- The most redirects that are followed. -/
def limit : Nat := 3

/-- What is sent at every hop. -/
structure Errand where
  headers : Headers
  body : ByteArray
  patience : Option Span
  /-- What the request is for. -/
  purpose : String

namespace Errand

/-- The request of one hop. A user and a password in the address itself are left out: the transport
sends them as one more field of credentials. -/
def request (errand : Errand) (url : Url) : Request :=
  ⟨.put, url, errand.headers, errand.body, errand.patience⟩

end Errand

def unsent (purpose : String) (f : TransportFault) : Fault :=
  .network (f.text (purpose ++ " request failed"))

def unread (purpose : String) (f : TransportFault) : Fault :=
  .network (f.text ("failed to read " ++ purpose ++ " response"))

def noLocation (purpose : String) (url : Url) : Fault :=
  .database (purpose ++ " redirect from " ++ url.text ++ " without Location") none

def badLocation (purpose location : String) (e : UrlFault) : Fault :=
  .database ("invalid " ++ purpose ++ " redirect " ++ location ++ ": " ++ e.message) none

def tooMany (purpose : String) (url : Url) : Fault :=
  .network (purpose ++ " exceeded " ++ Decimal.natText limit ++ " redirects, last hop " ++ url.text)

/-- What an answer asks for. -/
inductive Hop where
  | finished (result : Except Fault (Nat × String))
  | next (url : Url)

/-- What the outcome of a request to an address asks for. -/
def hop (errand : Errand) (url : Url) : Outcome → Hop
  | .error f => .finished (.error (unsent errand.purpose f))
  | .ok reply =>
    if reply.isRedirect then
      match reply.location? with
      | none => .finished (.error (noLocation errand.purpose url))
      | some location =>
        match url.join location with
        | .error e => .finished (.error (badLocation errand.purpose location e))
        | .ok next => .next next
    else
      match reply.text with
      | .error f => .finished (.error (unread errand.purpose f))
      | .ok body => .finished (.ok (reply.status, body))

/-- Sends a request at most `hops` times; gives status and body of the first answer that is no
redirect. -/
def follow (errand : Errand) : Nat → Url → Exchange (Except Fault (Nat × String))
  | 0, url => .done (.error (tooMany errand.purpose url))
  | hops + 1, url =>
    .send (errand.request url) fun outcome =>
      match hop errand url outcome with
      | .finished result => .done result
      | .next url => follow errand hops url

/-- Sends a request, and follows as many redirects as the limit allows. -/
def putFollowing (errand : Errand) (url : Url) : Exchange (Except Fault (Nat × String)) :=
  follow errand (limit + 1) url

end Redirect

end StoreGate
