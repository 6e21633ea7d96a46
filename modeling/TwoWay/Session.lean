import TwoWay.Grammar

/-!
# Sessions

A session holds a text that is read, a buffer that is written, the positions of the text that were
remembered and the sizes of the buffer that were marked. Commands run grammars and move the session
on, each with an answer. A fault ends the session.

* `Session.step`: what one command answers, and the session after it.
* `Session.run`: the answers of commands in order, up to the first fault.
-/

namespace TwoWay

/-- What a session can be told to do. Grammars are named by their place. -/
inductive Command (v : View) (α : Type) where
  | input (text : v.Text)
  | parse (grammar : Nat)
  | parseAll (text : v.Text) (grammar : Nat)
  | print (value : α) (grammar : Nat)
  | printToBuffer (value : α) (grammar : Nat)
  | roundTrip (text : v.Text) (grammar : Nat)
  | nextToken
  | snapshot
  | restore
  | consumed
  | fromSlice (slice : v.Text)
  | writeToken (token : v.Token)
  | writeSlice (slice : v.Text)
  | checkpoint
  | rewind

/-- What a command answers. -/
inductive Answer (v : View) (α : Type) where
  | opened (rest : v.Text)
  | parsed (reply : Except Failure α) (rest : v.Text)
  | parsedAll (reply : Except Failure α)
  | printed (reply : Except Failure Unit) (buffer : v.Text)
  | printedAlone (reply : Except Failure v.Text)
  | roundTripped (first : Except Failure α) (printed : Option (Except Failure v.Text))
      (again : Option (Except Failure α))
  | token (token : Option v.Token) (rest : v.Text)
  | position (rest : v.Text)
  | consumed (slice rest : v.Text)
  | started (rest : v.Text)
  | wrote (buffer : v.Text)
  | marked (size : Nat)

/-- Why a session ends early: a fault, or a command that it cannot follow. -/
inductive Stop where
  | fault (fault : Fault)
  | noSuchGrammar
  | nothingRemembered
  deriving DecidableEq, Repr

/-- The state of a session. -/
structure Session (v : View) where
  cursor : v.Text
  buffer : v.Text
  snapshots : List v.Text
  checkpoints : List Nat

namespace Outcome

variable {σ α : Type}

/-- The value or the failure of an outcome, with the state. -/
def reply : Outcome σ α → Except Stop (Except Failure α × σ)
  | .done value state => .ok (.ok value, state)
  | .failed failure state => .ok (.error failure, state)
  | .aborted fault => .error (.fault fault)

end Outcome

namespace Session

variable {v : View} {α : Type}

/-- A session at the start, with nothing to read and nothing written. -/
def start : Session v := ⟨[], [], [], []⟩

/-- Does something with the grammar at a place. -/
def withGrammar {β : Type} (grammars : List (Grammar v α)) (place : Nat)
    (use : Grammar v α → Except Stop β) : Except Stop β :=
  match grammars[place]? with
  | some grammar => use grammar
  | none => .error .noSuchGrammar

/-- The text of a value, on its own. -/
def printAlone (grammar : Grammar v α) (value : α) : Except Stop (Except Failure v.Text) := do
  let (reply, buffer) ← (grammar.printToBuffer value).reply
  return reply.map fun _ => buffer

/-- Reads a whole text, writes its value and reads that again, as far as each of them succeeds. -/
def roundTrip (grammar : Grammar v α) (text : v.Text) : Except Stop (Answer v α) := do
  let (first, _) ← (grammar.parseAll text).reply
  match first with
  | .error _ => return .roundTripped first none none
  | .ok value =>
    let printed ← printAlone grammar value
    match printed with
    | .error _ => return .roundTripped first (some printed) none
    | .ok written =>
      let (again, _) ← (grammar.parseAll written).reply
      return .roundTripped first (some printed) (some again)

/-- Appends a text to the buffer. -/
def write (session : Session v) (text : v.Text) : Answer v α × Session v :=
  let buffer := session.buffer ++ text
  (.wrote buffer, { session with buffer := buffer })

/-- What a command answers, and the session after it. -/
def step (grammars : List (Grammar v α)) (session : Session v) :
    Command v α → Except Stop (Answer v α × Session v)
  | .input text => return (.opened text, { session with cursor := text })
  | .parse place => withGrammar grammars place fun grammar => do
    let (reply, rest) ← (grammar.parse session.cursor).reply
    return (.parsed reply rest, { session with cursor := rest })
  | .parseAll text place => withGrammar grammars place fun grammar => do
    let (reply, _) ← (grammar.parseAll text).reply
    return (.parsedAll reply, session)
  | .print value place => withGrammar grammars place fun grammar => do
    let (reply, buffer) ← (grammar.print value session.buffer).reply
    return (.printed reply buffer, { session with buffer := buffer })
  | .printToBuffer value place => withGrammar grammars place fun grammar => do
    let reply ← printAlone grammar value
    return (.printedAlone reply, session)
  | .roundTrip text place => withGrammar grammars place fun grammar => do
    let answer ← roundTrip grammar text
    return (answer, session)
  | .nextToken =>
    match v.next? session.cursor with
    | some (token, rest) => return (.token (some token) rest, { session with cursor := rest })
    | none => return (.token none session.cursor, session)
  | .snapshot =>
    return (.position session.cursor,
      { session with snapshots := session.cursor :: session.snapshots })
  | .restore =>
    match session.snapshots with
    | cursor :: snapshots =>
      return (.position cursor, { session with cursor := cursor, snapshots := snapshots })
    | [] => throw .nothingRemembered
  | .consumed =>
    match session.snapshots with
    | earlier :: _ =>
      match v.consumedSince? earlier session.cursor with
      | some slice => return (.consumed slice session.cursor, session)
      | none => throw (.fault .position)
    | [] => throw .nothingRemembered
  | .fromSlice slice => return (.started slice, { session with cursor := slice })
  | .writeToken token => return session.write (v.tokenText token)
  | .writeSlice slice => return session.write slice
  | .checkpoint =>
    let size := v.size session.buffer
    return (.marked size, { session with checkpoints := size :: session.checkpoints })
  | .rewind =>
    match session.checkpoints with
    | size :: checkpoints =>
      let buffer := v.truncate size session.buffer
      return (.wrote buffer, { session with buffer := buffer, checkpoints := checkpoints })
    | [] => throw .nothingRemembered

/-- The answers to commands in order, and what stopped the session early. -/
def run (grammars : List (Grammar v α)) (session : Session v) :
    List (Command v α) → List (Answer v α) × Option Stop
  | [] => ([], none)
  | command :: commands =>
    match session.step grammars command with
    | .ok (answer, next) =>
      let (answers, stop) := run grammars next commands
      (answer :: answers, stop)
    | .error stop => ([], some stop)

end Session

end TwoWay
