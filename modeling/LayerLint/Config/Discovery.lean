import LayerLint.Config.Sources
import LayerLint.Files
import LayerLint.Path.Parts
import LayerLint.Toml.Parser

/-!
# Finding a configuration

Configuration files are looked for in two places: in the home directory, and
in the directory the program was started in.  There a file of the program's
own is taken before a section of the project's file.  A third file may be
named on purpose, and has to be there.

What is wrong with a file is reported before anything is said about the
values in it, and the first file with a fault counts.
-/

namespace LayerLint.Config

/-- The table in a configuration file. -/
def ofFile (files : Files) (path : String) : Except Fault Table :=
  let refuse (problem : String) : Except Fault Table :=
    .error (.badConfiguration ("Invalid config file '" ++ path ++ "': " ++ problem))
  match (files path).text path with
  | .error problem => refuse problem
  | .ok cs =>
    match Toml.parse cs with
    | some t => .ok t
    | none => refuse "malformed document"

/-- The directory that a variable for the home directory names, without
separators at its end. -/
def homeDirectory (home : String) : String :=
  String.ofList (home.toList.reverse.dropWhile (· = '/')).reverse

def globalPath (home : String) : String := Path.shown (homeDirectory home ++ "/.layerguard.toml")

def ownPath (work : String) : String := Path.shown (work ++ "/layerguard.toml")

def sharedPath (work : String) : String := Path.shown (work ++ "/pyproject.toml")

/-- Whether there is anything at a path; a path that is too long is a fault. -/
def isThere (files : Files) (path : String) : Except Fault Bool :=
  match files path with
  | .tooLong => .error (.pathTooLong path)
  | state => .ok state.exists

/-- The fields that the file in the home directory defines.  A home directory
that is itself relative to one is nowhere. -/
def global (w : Workplace) : Except Fault Table := do
  if Text.startsWith "~" w.home then throw .noHome
  let path := globalPath w.home
  if ← isThere w.files path then (ofFile w.files path).map ofFileTable else pure []

/-- The fields that the files of the project define. -/
def project (w : Workplace) : Except Fault Table :=
  let own := ownPath w.work
  let shared := sharedPath w.work
  if (w.files own).exists then (ofFile w.files own).map ofFileTable
  else if (w.files shared).exists then
    ((ofFile w.files shared).bind toolSection).map ofFileTable
  else .ok []

/-- The fields that a file defines which was named on purpose. -/
def explicit (w : Workplace) : Option String → Except Fault Table
  | none => .ok []
  | some path => do
    let path := Path.shown path
    if ← isThere w.files path then (ofFile w.files path).map ofFileTable
    else throw (.path path "config file not found")

/-- The sources of a configuration, read from the weakest to the strongest. -/
def sources (w : Workplace) (file : Option String) (overrides : Table) : Except Fault Sources := do
  return {
    global := ← global w
    project := ← project w
    explicit := ← explicit w file
    environment := ← ofEnvironment w.environment
    overrides := ofOverrides overrides }

/-- The configuration that holds at a workplace. -/
def discover (w : Workplace) (file : Option String) (overrides : Table) : Except Fault Config :=
  (sources w file overrides).bind ofSources

end LayerLint.Config
