import StoreGate.Http.Header
import StoreGate.Text.Utf8
import StoreGate.Time.Span
import StoreGate.Url.Parser

/-!
# Exchanges with a server

An `Exchange` is what a caller does with a server that it does not know: it is done, or it sends a
request and goes on with whatever comes of it, a reply or a failure to get one. What a server
answers is no part of it, so that a statement about an exchange holds for every server.

* `Exchange.run` — an exchange with a given server, in any monad.
* `Exchange.bind_assoc`, and the instance of lawful monads.
-/

namespace StoreGate

inductive Method where
  | get
  | post
  | put
deriving DecidableEq, Repr

namespace Method

def text : Method → String
  | get => "GET"
  | post => "POST"
  | put => "PUT"

end Method

structure Request where
  method : Method
  url : Url
  headers : Headers
  body : ByteArray
  /-- How long the caller waits; for ever, if there is no limit. -/
  patience : Option Span

/-- Why no reply came, or why its body could not be read. -/
structure TransportFault where
  timedOut : Bool
  detail : String
deriving DecidableEq, Repr

namespace TransportFault

/-- What a fault says about itself, after what was being done. -/
def text (f : TransportFault) (doing : String) : String :=
  doing ++ (if f.timedOut then ": timed out: " else ": ") ++ f.detail

end TransportFault

structure Reply where
  status : Nat
  /-- Header fields in the order in which they came, names in lower case. -/
  headers : List (String × String)
  body : Except TransportFault ByteArray

namespace Reply

/-- The body as a text in UTF-8. A mark of byte order before the text is no part of it, and bytes
that are no character become replacement characters. Other encodings are left out: neither a charset
that the field Content-Type names nor a mark of UTF-16 is looked at, though the transport heeds
both. -/
def text (r : Reply) : Except TransportFault String :=
  r.body.map fun bytes =>
    String.ofList (Utf8.withoutMark (Utf8.decodeLossy bytes.data.toList))

/-- The first value of a header field. -/
def header? (r : Reply) (name : String) : Option String :=
  (r.headers.find? fun h => decide (h.1 = name)).map (·.2)

/-- Where a reply points to, if it says so readably. -/
def location? (r : Reply) : Option String := (r.header? "location").filter HeaderValue.isReadable

/-- The same request is to be sent elsewhere. -/
def isRedirect (r : Reply) : Bool := r.status == 307 || r.status == 308

end Reply

/-- What comes of a request. -/
abbrev Outcome := Except TransportFault Reply

inductive Exchange (α : Type) where
  | done (a : α)
  | send (request : Request) (next : Outcome → Exchange α)

namespace Exchange

protected def bind {α β : Type} (x : Exchange α) (f : α → Exchange β) : Exchange β :=
  match x with
  | done a => f a
  | send request next => send request fun outcome => (next outcome).bind f

instance : Monad Exchange where
  pure := done
  bind := Exchange.bind

@[simp] theorem pure_eq {α : Type} (a : α) : (pure a : Exchange α) = done a := rfl

@[simp] theorem done_bind {α β : Type} (a : α) (f : α → Exchange β) : done a >>= f = f a := rfl

@[simp] theorem send_bind {α β : Type} (request : Request) (next : Outcome → Exchange α)
    (f : α → Exchange β) :
    send request next >>= f = send request fun outcome => next outcome >>= f := rfl

theorem bind_done {α : Type} (x : Exchange α) : x >>= done = x := by
  induction x with
  | done a => rfl
  | send request next ih =>
    rw [send_bind]
    exact congrArg (send request) (funext ih)

theorem bind_assoc {α β γ : Type} (x : Exchange α) (f : α → Exchange β) (g : β → Exchange γ) :
    x >>= f >>= g = x >>= fun a => f a >>= g := by
  induction x with
  | done a => rfl
  | send request next ih =>
    simp only [send_bind]
    exact congrArg (send request) (funext ih)

instance : LawfulMonad Exchange :=
  LawfulMonad.mk' Exchange (fun x => bind_done x) (fun _ _ => rfl) (fun x f g => bind_assoc x f g)

/-- Carries out an exchange with a server. -/
def run {m : Type → Type} [Monad m] {α : Type} (server : Request → m Outcome) :
    Exchange α → m α
  | done a => pure a
  | send request next => do run server (next (← server request))

end Exchange

end StoreGate
