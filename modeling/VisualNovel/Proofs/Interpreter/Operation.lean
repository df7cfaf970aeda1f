import VisualNovel.Interpreter.Snapshot

/-!
# The operations of a host

A host drives a story by the operations of this module, in any order and with any arguments. It may
also change the state of the game at will, and time may pass between two operations.
-/

namespace VisualNovel

/-- What a host can do with an interpreter. -/
inductive Operation where
  | loadUnit (id : String)
  | loadCharacters (ids : List String)
  | start (id : String)
  | advance
  | goto (target : String)
  | retry
  | endStory
  | restart (id : Option String)
  | reset
  | fireTimer (token : Nat)
  | tick (now : Instant)
  | acknowledgeEffect
  | submitInput (answer : String)
  | select (index : Nat)
  | inject (character : Option String) (text : String)
  | resumeFrom (snapshot : Snapshot)
  | pauseAudio
  | resumeAudio
  | drainEvents
  | edit (change : StateTree → StateTree)
  | pass (now : Instant)

namespace Operation

/-- The interpreter behind an operation, also when it fails. -/
def perform (interpreter : Interpreter) : Operation → Interpreter
  | loadUnit id => (interpreter.fetchUnit id).2
  | loadCharacters ids => (interpreter.loadCharacters ids).2
  | start id => (interpreter.start id).after
  | advance => interpreter.advance.after
  | goto target => (interpreter.goto target).after
  | retry => interpreter.retry.after
  | endStory => interpreter.endStory.after
  | restart id => (interpreter.restart id).after
  | reset => interpreter.reset
  | fireTimer token => (interpreter.fireTimer token).after
  | tick now => (interpreter.tick now).after
  | acknowledgeEffect => interpreter.acknowledgeEffect.after
  | submitInput answer => (interpreter.submitInput answer).after
  | select index => (interpreter.select index).after
  | inject character text => (interpreter.inject character text).after
  | resumeFrom snapshot => (interpreter.resumeFrom snapshot).after
  | pauseAudio => interpreter.pauseAudio
  | resumeAudio => interpreter.resumeAudio
  | drainEvents => interpreter.withoutEvents
  | edit change => { interpreter with state := change interpreter.state }
  | pass now => { interpreter with clock := now }

/-- The interpreter behind operations that are performed one after another. -/
def performAll (interpreter : Interpreter) (operations : List Operation) : Interpreter :=
  operations.foldl perform interpreter

/-- What every operation keeps holds behind all of them. -/
theorem performAll_induction {kept : Interpreter → Prop}
    (keeps : ∀ interpreter operation, kept interpreter → kept (perform interpreter operation))
    (interpreter : Interpreter) (holds : kept interpreter) (operations : List Operation) :
    kept (performAll interpreter operations) := by
  induction operations generalizing interpreter with
  | nil => exact holds
  | cons operation operations ih =>
      exact ih (perform interpreter operation) (keeps interpreter operation holds)

end Operation

/-- Whether a host can reach the interpreter from a new one. -/
def Interpreter.Reachable (content : Content) (settings : StorySettings)
    (interpreter : Interpreter) : Prop :=
  ∃ operations, Operation.performAll (.new content settings) operations = interpreter

end VisualNovel
