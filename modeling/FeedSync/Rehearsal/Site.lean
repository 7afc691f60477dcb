import FeedSync.Http.Client
import FeedSync.Rehearsal.Listener

/-!
# A scripted site

A web server that answers from a script, whatever it is asked for, and remembers the requests.
-/

namespace FeedSync.Rehearsal

open FeedSync.Http

/-- How the end of a body is told. -/
inductive BodyEnd where
  /-- By its length or by itself. -/
  | marked
  /-- By a length that need not be true. -/
  | length (bytes : Nat)
  deriving DecidableEq, Repr

/-- A prepared answer. -/
structure SiteAnswer where
  status : Nat := 200
  headers : List (String × String) := []
  body : List UInt8 := []
  bodyEnd : BodyEnd := .marked
  deriving DecidableEq, Repr

/-- What a site does with a request. -/
inductive SiteReply where
  | answer (answer : SiteAnswer)
  /-- It cuts the connection. -/
  | close
  /-- It does nothing. -/
  | hang
  deriving DecidableEq, Repr

instance : Inhabited SiteReply := ⟨.answer {}⟩

/-- What arrives for an answer. Answers that have no body by their status come without one, and
after one that is only provisional nothing follows. -/
def SiteAnswer.arrives (a : SiteAnswer) : Except HttpFault Response :=
  let headers := a.headers.map fun (name, text) => (name, text.toUTF8.toList)
  let response : Response := { status := a.status, headers }
  if a.status < 101 || (101 < a.status && a.status < 200) || 999 < a.status then .error .request
  else if a.status ∈ [101, 204, 304] then .ok response
  else
    match a.bodyEnd with
    | .marked => .ok { response with body := a.body }
    | .length bytes =>
      .ok { response with body := a.body.take bytes, isCut := a.body.length < bytes }

/-- A site that answers from a script. -/
structure ScriptedSite where
  listener : Listener
  replies : List SiteReply := []
  /-- What it does when the script has come to its end. -/
  fallback : SiteReply := default
  /-- The requests received. -/
  requests : List Request := []

namespace ScriptedSite

/-- Whether a request reaches a site. -/
def isReached (site : ScriptedSite) (r : Request) : Bool :=
  r.scheme == "http" && site.listener.isAt r.server.1 r.server.2

/-- Receives a request; the reply is missing if none will ever come. -/
def receive (r : Request) : StateM ScriptedSite (Option (Except HttpFault Response)) := fun site =>
  if site.isReached r then
    let reply := match site.replies.headD site.fallback with
      | .answer a => some a.arrives
      | .close => some (.error .request)
      | .hang => none
    (reply, { site with replies := site.replies.tail, requests := site.requests ++ [r] })
  else (some (.error .connect), site)

/-- Answers a request to the web, for somebody who waits some time and no longer. -/
def answer (r : Request) : StateM ScriptedSite (Except HttpFault Response) := do
  return (← receive r).getD (.error .timeout)

end ScriptedSite

end FeedSync.Rehearsal
