import LayerLint.Text.Blank
import LayerLint.Text.Split
import LayerLint.Violation

/-!
# Packages from outside

An import that leads to no file of the project stands for a package from
outside.  The package is guessed from the import's text: the host part of a
package address, the first component of a dotted name, the scope and the name
of a scoped package.  Its node in the graph is marked by a leading word that
no other part of the library writes.
-/

namespace LayerLint.Import

/-- What marks the id of a package from outside. -/
def externalMark : String := "external:"

/-- What introduces the address of a package. -/
def packageMark : String := "package:"

/-- An import without one pair of matching quotes around it. -/
def unquoteChars : List Char → List Char
  | [] => []
  | c :: rest =>
    if (c = '\'' ∨ c = '"') ∧ rest.getLast? = some c then rest.dropLast else c :: rest

def unquote (s : String) : String := String.ofList (unquoteChars s.toList)

/-- The text of an import without blanks and quotes around it. -/
def bare (target : String) : String := unquote (Text.strip target)

private def orElse (s fallback : String) : String := if s = "" then fallback else s

/-- The package that an import without blanks and quotes comes from. -/
def packageOfBare (imp : String) : String :=
  if Text.startsWith packageMark imp then
    orElse (Text.beforeFirst '/' (Text.dropChars packageMark.length imp)) imp
  else if Text.startsWith "." imp || Text.startsWith "/" imp then imp
  else if Text.contains ":" imp then Text.beforeFirst '/' imp
  else if Text.startsWith "@" imp then Text.join "/" ((Text.split '/' imp).take 2)
  else orElse (Text.beforeFirst '.' (Text.beforeFirst '/' imp)) imp

/-- The package that an import comes from. -/
def packageOf (target : String) : String := packageOfBare (bare target)

/-- The id of the package that an import comes from. -/
def externalId (target : String) : ModuleId := externalMark ++ packageOf target

/-- The id belongs to a package from outside. -/
def isExternalId (id : ModuleId) : Bool := Text.startsWith externalMark id

example : packageOf "'package:flutter/material.dart'" = "flutter" := by decide +kernel
example :
    packageOf "@scope/pkg/sub" = "@scope/pkg" ∧
      packageOf "requests.adapters" = "requests" := by
  decide +kernel

end LayerLint.Import
