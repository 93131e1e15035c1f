import WebLint.Stage.Replacing
import WebLint.Stage.Simple

namespace WebLint

/-- What all stages remember, each at its place. -/
structure StageMemory where
  patterns : List (Option Pattern.Compiled) := []
  recordings : List Recording := []

namespace StageMemory

def addPattern (m : StageMemory) : StageMemory × Nat :=
  ({ m with patterns := m.patterns ++ [none] }, m.patterns.length)

def addRecording (m : StageMemory) : StageMemory × Nat :=
  ({ m with recordings := m.recordings ++ [{}] }, m.recordings.length)

def pattern (place : Nat) : PatternSlot StageMemory where
  get m := m.patterns[place]?.join
  set c m := { m with patterns := m.patterns.set place c }

def recording (place : Nat) : Slot StageMemory Recording where
  get m := (m.recordings[place]?).getD {}
  set r m := { m with recordings := m.recordings.set place r }

end StageMemory

end WebLint
