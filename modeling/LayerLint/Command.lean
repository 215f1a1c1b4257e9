import LayerLint.Command.Graph

/-!
# The program

One call of the program as a function of what it can see around it and of its
arguments.
-/

namespace LayerLint.Command

def version : String := "0.3.0"

/-- How the program is called. -/
def usage : String :=
  Terminal.printed [
    "Usage: layerguard [--version] [--help]",
    "       layerguard check DESCRIPTORS [-c FILE] [-f FORMAT] [--fail-on-cycle-only] [-w COUNT]",
    "                        [-v] [-q]",
    "       layerguard graph DESCRIPTORS [-c FILE] [-f FORMAT] [-v] [-q]"]

/-- What a call leads to. -/
def perform (w : Workplace) : Call → Outcome
  | .help => { status := .passed, printed := usage }
  | .version =>
    { status := .passed, diagnostics := Terminal.printed ["layerguard version " ++ version] }
  | .check c => check w c
  | .graph c => graph w c

/-- What arguments lead to. -/
def run (w : Workplace) (args : List String) : Outcome :=
  match Call.ofArguments? args with
  | none => .misused
  | some call => if call.filesExist w.files then perform w call else .misused

/-- All paths that are looked at for some arguments, by a program that was
started in `work` and may look into `home`. -/
def pathsLookedAt (home work : String) (args : List String) : List String :=
  let named := ((Call.ofArguments? args).map Call.paths).getD []
  Config.globalPath home :: Config.ownPath work :: Config.sharedPath work ::
    named.map Path.shown

end LayerLint.Command
