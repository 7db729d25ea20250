import SurfaceDrift.Algorithm

/-!
# Guarded calls

While an algorithm runs, its name is on record. `guarded` enters a name, runs a body, and
puts the former name back however the body ends; a panic of the body becomes an error that
names the algorithm, and every other end is handed on.

`Call` is a tree of guarded calls. Its run keeps a log of the record : one entry when a body
begins and one after each call inside it.
-/

namespace SurfaceDrift

/-- The name on record, and the log of what was on record. -/
structure Watch where
  current : Option String
  log : List (Option String)
deriving DecidableEq, Repr

/-- Adds what is on record to the log. -/
def Watch.note (w : Watch) : Watch := { w with log := w.log ++ [w.current] }

/-- A body that may look at the record and may panic. -/
abbrev Watched (ε α : Type) := Watch → Except ε α × Watch

/-- The end of a body as an error, if it is none that is handed on. -/
def contain {α : Type} (name : String) : Except Failure α → Except Error α
  | .ok value => .ok value
  | .error (.error cause) => .error cause
  | .error (.panic payload) => .error (.execution (.panicked name payload.message))

/-- Runs a body on behalf of an algorithm. -/
def guarded {α : Type} (name : String) (body : Watched Failure α) : Watched Error α :=
  fun w =>
    let (result, after) := body { w with current := some name }
    (contain name result, { after with current := w.current })

/-! ## Trees of guarded calls -/

/-- How a body ends after its inner calls. -/
inductive Ending where
  | answer (text : String)
  | refuse (cause : Error)
  | panic (payload : Panic)

/-- A guarded call whose body makes inner calls, in order. If an inner call propagates, its
error ends the body. -/
inductive Call where
  | mk (name : String) (propagates : Bool) (inner : List Call) (ending : Ending)

/-- Whether an error of the call ends the body around it. -/
def Call.propagates : Call → Bool
  | mk _ propagates _ _ => propagates

/-- What a call answers : a text with the answers of the inner calls, or an error. -/
inductive Reply where
  | answer (text : String) (inner : List Reply)
  | failed (cause : Error)

/-- The reply that a result is. -/
def Reply.of : Except Error Reply → Reply
  | .ok reply => reply
  | .error cause => failed cause

/-- How a body ends whose inner calls gave these replies. -/
def Ending.result (inner : List Reply) : Ending → Except Failure Reply
  | answer text => .ok (.answer text inner)
  | refuse cause => .error (.error cause)
  | panic payload => .error (.panic payload)

mutual

/-- Runs a call under the guard. -/
def Call.run : Call → Watched Error Reply
  | .mk name _ inner ending =>
    guarded name fun w =>
      match runInner inner w.note with
      | (.ok replies, w) => (ending.result replies, w)
      | (.error cause, w) => (.error (.error cause), w)

/-- Runs the inner calls of a body, up to the first that propagates an error. -/
def runInner : List Call → Watched Error (List Reply)
  | [], w => (.ok [], w)
  | call :: rest, w =>
    match call.run w with
    | (.error cause, after) =>
      if call.propagates then (.error cause, after.note)
      else
        match runInner rest after.note with
        | (.ok replies, w) => (.ok (.failed cause :: replies), w)
        | (.error cause, w) => (.error cause, w)
    | (.ok reply, after) =>
      match runInner rest after.note with
      | (.ok replies, w) => (.ok (reply :: replies), w)
      | (.error cause, w) => (.error cause, w)

end

/-- Runs a call from an empty record, with a note before it and one after. -/
def Call.runLogged (call : Call) : Except Error Reply × List (Option String) :=
  let (result, w) := call.run (Watch.note ⟨none, []⟩)
  (result, w.note.log)

end SurfaceDrift
