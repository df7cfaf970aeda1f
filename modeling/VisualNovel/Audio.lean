import VisualNovel.Dict

/-!
# Audio streams

The registry holds the streams that play, by identifier. A stream without an identifier of its own
gets a fresh one. Pausing and resuming only record signals for the host; a resume is signalled when
a pause is in effect.
-/

namespace VisualNovel

/-- The channel of a stream. -/
inductive StreamKind where
  /-- A sound effect. -/
  | sound
  /-- A spoken line. -/
  | voice
  /-- Music. -/
  | music
  deriving DecidableEq

/-- A stream that plays. -/
structure AudioStream where
  /-- The identifier. -/
  id : String
  /-- The channel. -/
  kind : StreamKind
  /-- The asset. -/
  file : String
  /-- Whether the stream repeats; only such streams are saved. -/
  looping : Bool
  deriving DecidableEq

/-- A signal to the host. -/
inductive AudioSignal where
  /-- Every stream shall pause. -/
  | pauseAll
  /-- Every paused stream shall go on. -/
  | resumeAll
  deriving DecidableEq

/-- The streams that play and the signals that wait. -/
structure AudioRegistry where
  /-- The streams, by identifier. -/
  streams : Dict AudioStream
  /-- Whether a pause is in effect. -/
  paused : Bool
  /-- The signals since they were last taken, oldest first. -/
  signals : List AudioSignal
  /-- The number of identifiers that were generated. -/
  generated : Nat
  deriving DecidableEq

namespace StreamKind

/-- The name of the channel. -/
def name : StreamKind → String
  | .sound => "sound"
  | .voice => "voice"
  | .music => "music"

/-- All channels. -/
def all : List StreamKind := [.sound, .voice, .music]

/-- Music repeats unless told otherwise. -/
def loopsByDefault (kind : StreamKind) : Bool := kind = .music

end StreamKind

namespace AudioRegistry

/-- The registry without streams. -/
def empty : AudioRegistry := ⟨[], false, [], 0⟩

/-- The generated identifier with a number: the channel and thirty-two hexadecimal digits. -/
def generatedId (kind : StreamKind) (number : Nat) : String :=
  let digits := Nat.toDigits 16 number
  kind.name ++ "_" ++ String.ofList (List.replicate (32 - digits.length) '0' ++ digits)

/-- The next number whose identifier is not in use. -/
def freshNumber (registry : AudioRegistry) (kind : StreamKind) : Nat :=
  let candidates := (List.range (registry.streams.length + 1)).map (registry.generated + ·)
  (candidates.find? fun number =>
    !Dict.contains registry.streams (generatedId kind number)).getD registry.generated

/-- Puts a stream under its identifier. -/
def insert (registry : AudioRegistry) (stream : AudioStream) : AudioRegistry :=
  { registry with streams := Dict.insert stream.id stream registry.streams }

/-- Starts a stream and gives its identifier. One with the same identifier is replaced; without an
identifier a fresh one is generated. -/
def play (registry : AudioRegistry) (kind : StreamKind) (file : String) (looping : Option Bool)
    (id : Option String) : AudioRegistry × String :=
  let repeats := looping.getD kind.loopsByDefault
  match id.filter fun id => !id.isEmpty with
  | some id => (registry.insert ⟨id, kind, file, repeats⟩, id)
  | none =>
    let number := registry.freshNumber kind
    let id := generatedId kind number
    ({ registry with generated := number + 1 }.insert ⟨id, kind, file, repeats⟩, id)

/-- A stream by its identifier. -/
def get? (registry : AudioRegistry) (id : String) : Option AudioStream :=
  Dict.get? registry.streams id

/-- Removes a stream. -/
def stop (registry : AudioRegistry) (id : String) : AudioRegistry :=
  { registry with streams := Dict.erase id registry.streams }

/-- Removes every stream and forgets a pause. -/
def stopAll (registry : AudioRegistry) : AudioRegistry :=
  { registry with streams := [], paused := false }

/-- Signals a pause. -/
def pauseAll (registry : AudioRegistry) : AudioRegistry :=
  { registry with paused := true, signals := registry.signals ++ [.pauseAll] }

/-- Signals a resume when a pause is in effect. -/
def resumeAll (registry : AudioRegistry) : AudioRegistry :=
  if registry.paused then
    { registry with paused := false, signals := registry.signals ++ [.resumeAll] }
  else registry

/-- The registry without waiting signals. -/
def withoutSignals (registry : AudioRegistry) : AudioRegistry :=
  { registry with signals := [] }

/-- The streams that repeat, by identifier. -/
def loopingStreams (registry : AudioRegistry) : List AudioStream :=
  (Dict.values registry.streams).filter AudioStream.looping

end AudioRegistry

end VisualNovel
