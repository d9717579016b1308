import EnvProvision.Storage.Store
import EnvProvision.Variables.Process

namespace EnvProvision.CommandLine

-- Why a text is not written to its end. A part of it, counted in bytes, may be written all the
-- same.
structure WriteFault where
  written : Nat
  text : String
  deriving Repr, DecidableEq

-- What a command leaves: its exit code, unless a signal ended it, and what it wrote.
structure Completed where
  code? : Option Nat
  output : Bytes
  deriving Repr, DecidableEq

-- What a run finds around it, and what it leaves to others to do.
structure World where
  files : Files
  env : ProcessVariables
  keyring : Keyring
  -- Whether the output refuses a text, behind the bytes that it has taken before.
  refusal? : Bytes → String → Option WriteFault
  -- What a command does that is started with these variables and arguments.
  launch : ProcessVariables → String → List String → Except FileFault Completed

-- What the output has after a text is written behind `output`, and the report if it refuses the
-- text.
def World.write (world : World) (output : Bytes) (text : String) : Bytes × Option String :=
  match world.refusal? output text with
  | none => (output ++ .ofText text, none)
  | some fault => (output ++ (Bytes.ofText text).take fault.written, some fault.text)

end EnvProvision.CommandLine
