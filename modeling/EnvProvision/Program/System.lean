import EnvProvision.CommandLine.World
import EnvProvision.Program.Installed

namespace EnvProvision

def Completion.completed (completion : Completion) : CommandLine.Completed where
  code? :=
    match completion.ending with
    | .exited code => some code
    | .killed _ => none
  output := completion.output

namespace Program

-- The world on a system whose commands are the programs of this library. It has no keyring, and its
-- output refuses nothing.
def system (files : Files) (env : ProcessVariables) : CommandLine.World where
  files := install files
  env := env
  keyring := ⟨fun _ _ => .error { text := "no keyring is available" }⟩
  refusal? _ _ := none
  launch env command arguments := (run (install files) env command arguments).map (·.completed)

end Program

end EnvProvision
