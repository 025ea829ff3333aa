import Switchboard.Mediator
import Switchboard.Scenario.State

/-!
# Scripts

Handlers and interceptors described as data: lists of moves to make before
and after the rest of the chain runs, and what to answer. A move may end the
script with a failure, which is then its outcome. Scripts reach the mediator
that runs them through a `Gateway`.
-/

namespace Switchboard.Scenario

/-- What scripts use of a mediator. -/
structure Gateway where
  send : (k : Request) → Body k → Signal → Action State (Except DispatchError (Outcome (Reply k)))
  publish : (n : Notification) → Body n → Signal → Action State (Except DispatchError Unit)

inductive Move where
  | record (text : String)
  /-- Suspends itself once. -/
  | pause
  | cancel (source : SourceId)
  | drop (source : SourceId)
  /-- Ends the script if the signal is cancelled. -/
  | check
  | fail (failure : Failure)
  | panic (payload : Panic)
  /-- Waits for cancellation for a number of polls, and ends the script if it
  is requested. -/
  | awaitCancelled (polls : Nat)
  | send (k : Request) (request : Body k)
  | publish (n : Notification) (notification : Body n)

/-- How a call ended, in a word or two. -/
def summary {α : Type} (text : α → String) : Except DispatchError α → String
  | .ok a => text a
  | .error (.missingHandler ..) => "MissingHandler"
  | .error (.ambiguousHandler ..) => "AmbiguousHandler"
  | .error (.notificationFailed ..) => "NotificationFailed"
  | .error (.notificationsFailed ..) => "NotificationsFailed"
  | .error (.publishCancelled ..) => "PublishCancelled"

def outcomeSummary {α : Type} : Outcome α → String
  | .ok _ => "ok"
  | .error e => "failure " ++ e.code

def Move.run (gateway : Gateway) (signal : Signal) : Move → Action State (Outcome Unit)
  | .record text => do Action.record text; return .ok ()
  | .pause => Action.suspend (pure (.ok ()))
  | .cancel id => Action.cancel id (pure (.ok ()))
  | .drop id => Action.drop id (pure (.ok ()))
  | .check => Action.check signal
  | .fail f => return .error f
  | .panic p => Action.panic p
  | .awaitCancelled polls => do
    if 0 < polls && (← Action.isCancelled signal) then
      Action.record "woken"
      Action.fail .cancelled
    else
      Action.record "still waiting"
      return .ok ()
  | .send k request => do
    let result ← gateway.send k request signal
    Action.record ("sent " ++ requestLabel k ++ " " ++ summary outcomeSummary result)
    return .ok ()
  | .publish n notification => do
    let result ← gateway.publish n notification signal
    Action.record ("published " ++ Messages.name n ++ " " ++ summary (fun () => "ok") result)
    return .ok ()

/-- Makes moves until one ends the script. -/
def runMoves (gateway : Gateway) (signal : Signal) : List Move → Action State (Outcome Unit)
  | [] => return .ok ()
  | move :: moves => do
    match ← move.run gateway signal with
    | .ok () => runMoves gateway signal moves
    | .error e => return .error e

/-! ## Scripted components -/

/-- What a script answers in the end. -/
inductive Answer (R : Type) where
  | reply (reply : R)
  | fail (failure : Failure)
  /-- Repeats the message. -/
  | echo

def Answer.outcome {M R : Type} (repeated : M → R) (message : M) : Answer R → Outcome R
  | .reply r => .ok r
  | .fail f => .error f
  | .echo => .ok (repeated message)

structure HandlerScript (R : Type) where
  moves : List Move
  answer : Answer R

def HandlerScript.handler {M R : Type} (script : HandlerScript R) (gateway : Gateway)
    (repeated : M → R) (name : String) : Handler State M R := fun message signal => do
  Action.record name
  match ← runMoves gateway signal script.moves with
  | .error e => return .error e
  | .ok () => return script.answer.outcome repeated message

/-- A change to a success. -/
inductive OnSuccess where
  | keep
  | bump (n : Int64)
  | fail (failure : Failure)

/-- A change to a failure. -/
inductive OnFailure (R : Type) where
  | keep
  | recover (reply : R)
  | replace (failure : Failure)

structure InterceptorScript (M R : Type) where
  /-- Record whether the handler is the next link. -/
  noteLink : Bool := false
  before : List Move := []
  /-- Answer this instead of going on. -/
  answer : Option (Answer R) := none
  /-- Go on with this message instead of the given one. -/
  message : Option M := none
  /-- Go on with this signal instead of the given one. -/
  signal : Option Signal := none
  after : List Move := []
  onSuccess : OnSuccess := .keep
  onFailure : OnFailure R := .keep

namespace InterceptorScript

variable {M R : Type}

/-- The outcome of the rest of the chain, changed as the script says. -/
def change (script : InterceptorScript M R) (bump : Int64 → R → R) : Outcome R → Outcome R
  | .ok r => match script.onSuccess with
    | .keep => .ok r
    | .bump n => .ok (bump n r)
    | .fail f => .error f
  | .error e => match script.onFailure with
    | .keep => .error e
    | .recover r => .ok r
    | .replace f => .error f

def interceptor (script : InterceptorScript M R) (gateway : Gateway) (type : String)
    (repeated : M → R) (bump : Int64 → R → R) (name : String) : Interceptor State M R where
  name := type
  enter message signal handlerNext := do
    if script.noteLink then
      Action.record (name ++ " handler_next=" ++ if handlerNext then "true" else "false")
    match ← runMoves gateway signal script.before with
    | .error e => return .answer (.error e)
    | .ok () =>
      match script.answer with
      | some answer => return .answer (answer.outcome repeated message)
      | none =>
        return .forward (script.message.getD message) (script.signal.getD signal) fun o => do
          match ← runMoves gateway signal script.after with
          | .error e => return .error e
          | .ok () => return script.change bump o

end InterceptorScript

end Switchboard.Scenario
