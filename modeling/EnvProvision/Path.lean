namespace EnvProvision.Path

def isAbsolute (path : String) : Bool :=
  path.toList.head? == some '/'

-- Write `path` behind `base` with one separator between them; nothing is written before it if
-- `base` is empty, and no second separator if `base` ends in one.
def join (base path : String) : String :=
  match base.toList.getLast? with
  | none => path
  | some '/' => base ++ path
  | some _ => base ++ "/" ++ path

def resolve (base path : String) : String :=
  if isAbsolute path then path else join base path

theorem resolve_of_isAbsolute {path : String} (base : String) (h : isAbsolute path) :
    resolve base path = path := by
  simp [resolve, h]

-- The named parts of a path: what stands between separators, `.` and empty parts left out.
def parts (path : String) : List String :=
  ((path.toList.splitOn '/').map String.ofList).filter fun part => part != "" && part != "."

def namesDirectory (path : String) : Bool :=
  match path.toList.reverse with
  | '/' :: _ => true
  | '.' :: '/' :: _ => true
  | ['.'] => true
  | _ => false

end EnvProvision.Path
