import IndexExplorer.Inflate.Wrapper
import IndexExplorer.Redirect

/-!
Programs that send requests.

An `Exchange` is a finished result, or a request together with what is done about each outcome of
sending it. Running one against a script of outcomes gives the requests sent and the result; a
session keeps one that waits for an outcome as a value.

* `bind_done`, `bind_assoc`: programs may be put together in any grouping;
* `run_map`: a function applied to the result changes no request.
-/
namespace IndexExplorer

/-- A program that sends requests one after the other. -/
inductive Exchange (α : Type) where
  | done (a : α)
  | send (request : Request) (next : Outcome → Exchange α)

namespace Exchange

/-- One program after the other. -/
def bind (x : Exchange α) (f : α → Exchange β) : Exchange β :=
  match x with
  | .done a => f a
  | .send r next => .send r fun o => (next o).bind f

instance : Monad Exchange where
  pure := .done
  bind := bind

/-- The same requests with a function applied to the result. -/
def map (f : α → β) (x : Exchange α) : Exchange β := x.bind fun a => .done (f a)

theorem done_bind (a : α) (f : α → Exchange β) : (Exchange.done a).bind f = f a := rfl

theorem bind_done (x : Exchange α) : x.bind .done = x := by
  induction x with
  | done a => rfl
  | send r next ih => simp [bind, ih]

theorem bind_assoc (x : Exchange α) (f : α → Exchange β) (g : β → Exchange γ) :
    (x.bind f).bind g = x.bind fun a => (f a).bind g := by
  induction x with
  | done a => rfl
  | send r next ih => simp [bind, ih]

end Exchange

/-- The outcomes that requests get, one after the other: those listed, and then the last again
and again or the same fault for ever. -/
structure Script where
  outcomes : List Outcome
  repeatLast : Bool := false

namespace Script

/-- What comes of a request for which nothing is listed. -/
def exhausted : Outcome := .fault ⟨.connectError, "no scripted response"⟩

/-- The outcome of the next request, and the script after it. -/
def next (s : Script) : Outcome × Script :=
  match s.outcomes with
  | [] => (exhausted, s)
  | [o] => (o, if s.repeatLast then s else { s with outcomes := [] })
  | o :: rest => (o, { s with outcomes := rest })

end Script

namespace Exchange

/-- The requests that are sent when outcomes come as scripted, and the result. -/
def run : Exchange α → Script → List Request × α
  | .done a, _ => ([], a)
  | .send r next, s =>
    let (o, s) := s.next
    let (sent, a) := (next o).run s
    (r :: sent, a)

theorem run_map (f : α → β) (x : Exchange α) (s : Script) :
    (x.map f).run s = ((x.run s).1, f (x.run s).2) := by
  induction x generalizing s with
  | done a => rfl
  | send r next ih =>
    have := ih s.next.1 s.next.2
    simp only [map] at this
    simp [map, bind, run, this]

end Exchange

namespace Response

/-- The body as one coding says to decode it; codings that are not known do not count. -/
def decodeOne (coding : String) (body : ByteArray) : Option ByteArray :=
  if coding = "gzip" then Inflate.gzip body.toList
  else if coding = "deflate" then Inflate.deflate body.toList
  else some body

/-- The codings that a response declares, in the order in which they were applied. -/
def codings (r : Response) : List String :=
  (r.headers.getAll "content-encoding").flatMap fun v =>
    (Ip.splitAt ',' v.toList).map fun c =>
      Text.lowerAscii (String.ofList (Text.trimWhile Text.isBlank c))

/-- The response with its body decoded, unless that is malformed. -/
def decoded (r : Response) : Outcome :=
  match r.codings.reverse.foldlM (fun body coding => decodeOne coding body) r.body with
  | some body => .received { r with body }
  | none => .fault ⟨.decodingError, "Error -3 while decompressing data: incorrect header check"⟩

end Response

namespace Outcome

/-- The outcome of a request for a URL as its sender sees it: the body is decoded, and then it
matters what is known of addresses. -/
def seen (url : Url) : Outcome → Outcome
  | .received r =>
    match r.decoded with
    | .received r => Redirect.settle url r
    | o => o
  | o => o

end Outcome

/-- Sends a request. -/
def Request.send (r : Request) : Exchange Outcome :=
  .send r.outgoing fun o => .done (o.seen r.url)

end IndexExplorer
