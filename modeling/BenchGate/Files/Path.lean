/-!
# Paths

A path is names separated by slashes. `Path.join` names a file inside a directory the short way:
without empty names and `.`, and with `..` cancelled against the name before it, whatever the
directories are on disk.
-/

namespace BenchGate.Path

/-- The names of a path; slashes at the ends or in a row give no names. -/
def names (path : String) : List String :=
  ((path.toList.splitOn '/').map String.ofList).filter (· ≠ "")

/-- Whether a path begins at the root. -/
def isAbsolute (path : String) : Bool := path.toList.head? = some '/'

/-- Whether a path ends in a slash and so asks for a directory. -/
def asksDirectory (path : String) : Bool := path.toList.getLast? = some '/'

/-- One more name after names already shortened, the last one first. Above the root there is
nothing; above a relative path there is `..`. -/
def shorten (absolute : Bool) (done : List String) (name : String) : List String :=
  if name = "." then done
  else if name = ".." then
    match done with
    | [] => if absolute then [] else [".."]
    | last :: rest => if last = ".." then ".." :: done else rest
  else name :: done

/-- A path without `.`, empty names and avoidable `..`. -/
def normalize (path : String) : String :=
  let absolute := isAbsolute path
  let short := (names path).foldl (shorten absolute) []
  (if absolute then "/" else "") ++ "/".intercalate short.reverse

/-- The path of a file in a directory; the empty directory is the current one. -/
def join (directory file : String) : String :=
  normalize (if directory = "" then file else directory ++ "/" ++ file)

end BenchGate.Path
