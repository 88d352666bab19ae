import DialogueTree.Reader.Output

/-!
# Stops

What is presented each time a reader comes to rest: the output, and the speaker where there is
someone new to announce.

* `Session.stop`: the stop at the place of rest; asking takes note of the speaker.
-/

namespace DialogueTree

/-- An output, with the speaker if one is to be announced. -/
structure Stop where
  speaker : Option String
  output : Output
  deriving DecidableEq

/-- The stop where the reader rests (`describe_stop`). The speaker is announced after a change, or
where `announce` asks for it. -/
def Session.stop (s : Session) (announce : Bool) : Except ReaderError Stop × Session :=
  let (changed, s) := s.takeSpeakerChanged
  let speaker := if changed || announce then s.speakerName? else none
  (s.output.map fun output => ⟨speaker, output⟩, s)

end DialogueTree
