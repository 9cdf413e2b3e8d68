import Multipath.FailureTest.Recording

/-! The command line of failure tests. The words are those of a test; what the test takes
from the outer world comes as a recording on standard input. -/
namespace Multipath

def Transcript.print (t : Transcript) : IO UInt32 := do
  (← IO.getStdout).putStr t.stdout
  (← IO.getStderr).putStr t.stderr
  pure (UInt32.ofNat t.exitCode)

partial def readAll (input : IO.FS.Stream) (text : String) : IO String := do
  let line ← input.getLine
  if line.isEmpty then pure text else readAll input (text ++ line)

end Multipath

def main (words : List String) : IO UInt32 := do
  match Multipath.Recording.parse? (← Multipath.readAll (← IO.getStdin) "") with
  | some recording => (recording.replay words).print
  | none =>
    (← IO.getStderr).putStr "Error: standard input holds no recording\n"
    pure 1
