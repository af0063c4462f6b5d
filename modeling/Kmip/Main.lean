import Kmip.CommandLine

/-!
# Program

Takes the arguments, the environment and the input to `CommandLine.run`, and its outcome to the
outside.
-/

namespace Kmip.CommandLine

/-- Everything that a stream still holds, behind what is held already. -/
partial def readAll (stream : IO.FS.Stream) (held : ByteArray) : IO ByteArray := do
  let run ← stream.read 65536
  if run.isEmpty then pure held else readAll stream (held ++ run)

/-- A run within the world. The input is left alone when the arguments say all that is needed. -/
def perform (arguments : List String) : IO UInt32 := do
  let environment : Environment :=
    { lenient := ← IO.getEnv "TTLV_PARSER_LENIENT"
      maxDepth := ← IO.getEnv "TTLV_PARSER_MAX_DEPTH" }
  let input ← match requestFrom environment {} arguments with
    | .inspect _ none => readAll (← IO.getStdin) .empty
    | _ => pure .empty
  let outcome := run arguments environment input.toList
  IO.print (String.ofList outcome.output)
  if outcome.exitCode = 2 then IO.eprint usage
  pure (UInt32.ofNat outcome.exitCode)

end Kmip.CommandLine

/-- The program. -/
def main (arguments : List String) : IO UInt32 :=
  Kmip.CommandLine.perform arguments
