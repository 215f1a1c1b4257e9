import Std.Data.ExtTreeMap
import Std.Data.ExtTreeSet
import LayerLint.Import.External
import LayerLint.Path.Parts

/-!
# Resolving imports

An import is a text; the resolver says which file of the project it means, if
any.  Paths are taken relative to the importing file, dotted names are looked
up among the names of the project's files, and package addresses lead into
the project's own packages only.

Every file has a dotted name, made of the parts of its path, and a file below
`src` is also known without that first part.  Of several files with one name
the smallest path counts.

## Main results

* `resolve?_mem`: whatever an import resolves to is a file of the project.
-/

namespace LayerLint.Import

open Std (ExtTreeMap ExtTreeSet)

/-! ## The names of a file -/

/-- The parts of a path joined by dots, its last part without suffix; the
file that stands for its directory leaves its own name out.  That file at the
very top has no name. -/
def dottedName? (path : String) : Option String :=
  let dotted := Text.join "." (Path.Parts.ofPath path).withoutSuffix.toList
  if Text.endsWith ".__init__" dotted then some (Text.dropLastChars 9 dotted)
  else if dotted = "__init__" then none
  else some dotted

/-- The names under which a file can be imported. -/
def namesOf (path : String) : List String :=
  match dottedName? path with
  | none => []
  | some dotted =>
    if Text.startsWith "src." dotted then [dotted, Text.dropChars 4 dotted] else [dotted]

/-- The first components of names that belong to the project. -/
def rootNamesOf (path : String) : List String :=
  match (Path.Parts.ofPath path).toList with
  | first :: second :: more =>
    if (first = "src" ∨ first = "lib") ∧ more ≠ [] then [first, second] else [first]
  | _ => []

/-- The package whose library directory a path runs through, with that directory. -/
def packageRootOf? (path : String) : Option (String × String) :=
  (Text.cut "/lib/".toList path.toList).map fun (before, _) =>
    let base := String.ofList before
    ((Path.Parts.ofPath base).name, base ++ "/lib/")

/-! ## The resolver -/

/-- The files of a project, with the tables that imports are looked up in. -/
structure Resolver where
  files : ExtTreeSet String
  /-- The file that each dotted name means. -/
  index : ExtTreeMap String String
  /-- The directory that each package's addresses lead into. -/
  packageRoots : ExtTreeMap String String
  /-- The first components of dotted names that belong to the project. -/
  rootNames : ExtTreeSet String

namespace Resolver

/-- A file is entered under its names where they are still free. -/
def enter (index : ExtTreeMap String String) (path : String) : ExtTreeMap String String :=
  (namesOf path).foldl (fun index name => index.insertIfNew name path) index

def indexOf (paths : List String) : ExtTreeMap String String := paths.foldl enter ∅

def packageRootsOf (paths packageNames : List String) : ExtTreeMap String String :=
  let found := (paths.filterMap packageRootOf?).foldl
    (fun roots (name, root) => roots.insertIfNew name root) ∅
  packageNames.foldl (fun roots name => roots.insertIfNew name "lib/") found

/-- The resolver for a set of files.  The names in `packageNames` are the
project's own packages at its top level. -/
def ofFiles (known packageNames : List String) : Resolver :=
  let files : ExtTreeSet String := ExtTreeSet.ofList known
  { files := files
    index := indexOf files.toList
    packageRoots := packageRootsOf files.toList packageNames
    rootNames := ExtTreeSet.ofList (files.toList.flatMap rootNamesOf) }

/-- The canonical form of a path, if it is a file of the project. -/
def file? (r : Resolver) (path : String) : Option ModuleId :=
  let candidate := Path.canonical path
  if r.files.contains candidate then some candidate else none

/-- A path taken relative to the directory of the importing file. -/
def beside? (r : Resolver) (imp source : String) : Option ModuleId :=
  r.file? (Path.within (Path.directory source) imp)

/-- A name behind dots, one for the directory of the importing file and one
more for every step up: a file of that name, or the file that stands for the
directory of that name. -/
def relative? (r : Resolver) (imp source : String) : Option ModuleId :=
  let dots := (imp.toList.takeWhile (· = '.')).length
  let name := Text.dropChars dots imp
  let start := (dots - 1).repeat Path.Parts.parent (Path.Parts.ofPath source).parent
  let here : Path.Parts := ⟨.relative, ["__init__.py"]⟩
  if name = "" then r.file? (start.child here).text
  else
    let target := start.child (Path.Parts.ofPath (Text.replaceChar '.' '/' name))
    (r.file? (target.text ++ ".py")).or (r.file? (target.child here).text)

/-- The address of a file in one of the project's packages. -/
def inPackage? (r : Resolver) (address : String) : Option ModuleId := do
  let root ← r.packageRoots[Text.beforeFirst '/' address]?
  let rest := Text.afterFirst '/' address
  if rest = "" then none else r.file? (root ++ rest)

/-- The dotted names that end `imp`, the longest first, without `imp` itself. -/
def properSuffixes (imp : String) : List String :=
  let parts := Text.split '.' imp
  (List.range (parts.length - 1)).map fun i => Text.join "." (parts.drop (i + 1))

/-- The dotted names to look up for an import, in order. -/
def candidates (r : Resolver) (imp : String) : List String :=
  [imp, "src." ++ imp] ++
    if r.rootNames.contains (Text.beforeFirst '.' imp) then properSuffixes imp else []

def byName? (r : Resolver) (imp : String) : Option ModuleId :=
  (r.candidates imp).findSome? fun name => r.index[name]?

/-- The file that an import without blanks and quotes means. -/
def resolveBare? (r : Resolver) (imp source : String) : Option ModuleId :=
  if imp = "" then none
  else if Text.startsWith "./" imp || Text.startsWith "../" imp then r.beside? imp source
  else if Text.startsWith "." imp then r.relative? imp source
  else if Text.startsWith packageMark imp then
    r.inPackage? (Text.dropChars packageMark.length imp)
  else
    let near :=
      if !Text.contains ":" imp && (Path.Parts.ofPath imp).suffix != "" then r.beside? imp source
      else none
    near.or (if Text.contains "/" imp then r.file? imp else r.byName? imp)

/-- The file that an import in the file `source` means. -/
def resolve? (r : Resolver) (imp source : String) : Option ModuleId :=
  r.resolveBare? (bare imp) source

/-! ## Imports resolve to files -/

private theorem mem_of_enter {paths : List String} {index : ExtTreeMap String String}
    (h : ∀ (k v : String), index[k]? = some v → v ∈ paths) (path : String) (hp : path ∈ paths) :
    ∀ (k v : String), (enter index path)[k]? = some v → v ∈ paths := by
  unfold enter
  generalize namesOf path = names
  induction names generalizing index with
  | nil => simpa using h
  | cons name more ih =>
    rw [List.foldl_cons]
    refine ih fun k v hk => ?_
    rw [ExtTreeMap.getElem?_insertIfNew] at hk
    split at hk
    · rw [← Option.some.inj hk]; exact hp
    · exact h k v hk

theorem mem_of_indexOf {paths : List String} {k v : String} (h : (indexOf paths)[k]? = some v) :
    v ∈ paths := by
  suffices hs : ∀ (rest : List String) (index : ExtTreeMap String String), rest ⊆ paths →
      (∀ (k v : String), index[k]? = some v → v ∈ paths) →
      ∀ (k v : String), (rest.foldl enter index)[k]? = some v → v ∈ paths from
    hs paths ∅ (fun _ hx => hx) (by simp) k v h
  intro rest
  induction rest with
  | nil => exact fun _ _ hi => hi
  | cons path more ih =>
    intro index hsub hi
    rw [List.foldl_cons]
    exact ih _ (fun x hx => hsub (List.mem_cons_of_mem _ hx))
      (mem_of_enter hi path (hsub List.mem_cons_self))

theorem file?_mem {r : Resolver} {path : String} {id : ModuleId} (h : r.file? path = some id) :
    id ∈ r.files := by
  unfold file? at h
  simp only [Option.ite_none_right_eq_some, Option.some.injEq] at h
  obtain ⟨hc, rfl⟩ := h
  exact ExtTreeSet.contains_iff_mem.1 hc

private theorem relative?_mem {r : Resolver} {imp source : String} {id : ModuleId}
    (h : r.relative? imp source = some id) : id ∈ r.files := by
  unfold relative? at h
  simp only at h
  split at h
  · exact file?_mem h
  · rcases Option.or_eq_some_iff.1 h with h | ⟨_, h⟩
    · exact file?_mem h
    · exact file?_mem h

private theorem inPackage?_mem {r : Resolver} {address : String} {id : ModuleId}
    (h : r.inPackage? address = some id) : id ∈ r.files := by
  unfold inPackage? at h
  obtain ⟨root, _, h⟩ := Option.bind_eq_some_iff.1 h
  simp only [Option.ite_none_left_eq_some] at h
  exact file?_mem h.2

theorem resolve?_mem {known packageNames : List String} {imp source : String} {id : ModuleId}
    (h : (ofFiles known packageNames).resolve? imp source = some id) : id ∈ known := by
  have hfiles : ∀ x, x ∈ (ofFiles known packageNames).files → x ∈ known := by
    intro x hx
    simpa [ofFiles] using hx
  have hname : ∀ name, (ofFiles known packageNames).byName? name = some id → id ∈ known := by
    intro name hn
    obtain ⟨k, _, hk⟩ := List.exists_of_findSome?_eq_some hn
    exact hfiles id (by simpa [ofFiles] using mem_of_indexOf hk)
  unfold resolve? resolveBare? at h
  generalize bare imp = b at h
  split at h
  · cases h
  · split at h
    · exact hfiles id (file?_mem h)
    · split at h
      · exact hfiles id (relative?_mem h)
      · split at h
        · exact hfiles id (inPackage?_mem h)
        · rcases Option.or_eq_some_iff.1 h with h | ⟨_, h⟩
          · split at h
            · exact hfiles id (file?_mem h)
            · cases h
          · split at h
            · exact hfiles id (file?_mem h)
            · exact hname b h

end Resolver

end LayerLint.Import
