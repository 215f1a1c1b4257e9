import LayerLint.Fault.Showing
import LayerLint.Location
import LayerLint.Path.Canonical
import LayerLint.Violation

/-!
# Module descriptors

What a host hands over about one file: its path, the imports found in it, and
a layer if the host knows better than the directories.  A host may hand over
anything, so every part is a value until it has been looked at.  A location is
the exception: where a record has one, its fields are of their kinds.

`Submission.usable?` says which submissions describe a file, and
`ImportItem.check` which import records can become an edge of the graph.
-/

namespace LayerLint

/-- Where an import record says that the import stands. -/
inductive Place where
  | at (location : Location)
  | other (v : Value)
  deriving Inhabited, Repr

/-- One entry of an import list. -/
inductive ImportItem where
  | record (target : Value) (place : Place)
  | other (v : Value)
  /-- Something that is no value, by the name of its kind and as it is shown. -/
  | foreign (kind shown : String)
  deriving Inhabited, Repr

/-- What stands in the place of the imports. -/
inductive ImportList where
  | items (listed : List ImportItem)
  | other (v : Value)
  /-- Something that is no value and cannot be gone through. -/
  | foreign (kind shown : String)
  deriving Inhabited, Repr

/-- A description of one file. -/
structure Descriptor where
  path : Value
  imports : ImportList := .items []
  layer : Value := .null
  deriving Inhabited, Repr

/-- What is handed over in the place of a descriptor. -/
inductive Submission where
  | descriptor (d : Descriptor)
  | other (v : Value)
  /-- Something that names no file, as it is shown, and the fault of asking it for a
  path. -/
  | nameless (shown : String) (refusal : Fault)
  deriving Inhabited, Repr

/-! ## How they are shown -/

def Place.spelled : Place → String
  | .at location => location.spelled
  | .other v => v.spelled

def ImportItem.spelled : ImportItem → String
  | .record target place =>
    "ImportRecord(target=" ++ target.spelled ++ ", location=" ++ place.spelled ++ ")"
  | .other v => v.spelled
  | .foreign _ shown => shown

/-- A single item keeps a comma behind it. -/
def ImportList.spelled : ImportList → String
  | .items [item] => "(" ++ item.spelled ++ ",)"
  | .items more => "(" ++ ", ".intercalate (more.map ImportItem.spelled) ++ ")"
  | .other v => v.spelled
  | .foreign _ shown => shown

def Descriptor.spelled (d : Descriptor) : String :=
  "ModuleDescriptor(path=" ++ d.path.spelled ++ ", imports=" ++ d.imports.spelled ++
    ", layer=" ++ d.layer.spelled ++ ")"

def Submission.spelled : Submission → String
  | .descriptor d => d.spelled
  | .other v => v.spelled
  | .nameless shown _ => shown

/-! ## What cannot be shown

The first value that cannot be shown, in the order of writing, is why the whole
cannot be shown. -/

def Location.unshowable? (l : Location) : Option Fault :=
  l.fields.findSome? fun field => field.2.unshowable?

def Place.unshowable? : Place → Option Fault
  | .at location => location.unshowable?
  | .other v => v.unshowable?

def ImportItem.unshowable? : ImportItem → Option Fault
  | .record target place => target.unshowable?.or place.unshowable?
  | .other v => v.unshowable?
  | .foreign .. => none

def ImportList.unshowable? : ImportList → Option Fault
  | .items listed => listed.findSome? ImportItem.unshowable?
  | .other v => v.unshowable?
  | .foreign .. => none

def Descriptor.unshowable? (d : Descriptor) : Option Fault :=
  d.path.unshowable?.or (d.imports.unshowable?.or d.layer.unshowable?)

def Submission.unshowable? : Submission → Option Fault
  | .descriptor d => d.unshowable?
  | .other v => v.unshowable?
  | .nameless .. => none

/-! ## What can be used -/

/-- The id of the file that a path value names; a blank path names none. -/
def idOfPath? : Value → Option ModuleId
  | .str path =>
    let id := Path.canonical path
    if id = "" then none else some id
  | _ => none

/-- The descriptor with its id, when the submission describes a file. -/
def Submission.usable? : Submission → Option (ModuleId × Descriptor)
  | .descriptor d => (idOfPath? d.path).map fun id => (id, d)
  | .other _ | .nameless .. => none

/-- The file that a submission describes. -/
def Submission.id? (s : Submission) : Option ModuleId := s.usable?.map (·.1)

/-- The imports to go through.  No imports are an empty list and a table
stands for its keys; a text and what cannot be gone through are no list. -/
def ImportList.items? : ImportList → Option (List ImportItem)
  | .items listed => some listed
  | .other .null => some []
  | .other (.str _) => none
  | .other v => v.items?.map (·.map .other)
  | .foreign .. => none

/-- The name of the kind of thing in the place of the imports. -/
def ImportList.kindName : ImportList → String
  | .items _ => "tuple"
  | .other v => v.kindName
  | .foreign kind _ => kind

/-- Why an import record cannot become an edge. -/
inductive ImportProblem where
  | notRecord (kind : String)
  | noTarget
  | noLocation (target : String)
  deriving DecidableEq, Repr

def ImportProblem.text : ImportProblem → String
  | notRecord kind => "expected ImportRecord, got " ++ kind
  | noTarget => "missing import target"
  | noLocation target => "missing location for import " ++ Text.quote target

/-- The target and the location of an import record that can become an edge. -/
def ImportItem.check : ImportItem → Except ImportProblem (String × Location)
  | .other v => .error (.notRecord v.kindName)
  | .foreign kind _ => .error (.notRecord kind)
  | .record (.str target) place =>
    if Text.isBlankText target then .error .noTarget
    else
      match place with
      | .at location => .ok (target, location)
      | .other _ => .error (.noLocation target)
  | .record _ _ => .error .noTarget

end LayerLint
