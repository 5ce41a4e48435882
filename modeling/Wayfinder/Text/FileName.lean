/-
**Names of files.**

A name may lead through directories, separated by strokes. The extension of a file is what follows
the last point of its own name, unless the name begins with that point.

* `FileName.extension?`, `FileName.isJson`: extensions;
* `FileName.steps`, `FileName.first`: the steps of a name;
* `FileName.within`: the name of a file in a directory.
-/

namespace Wayfinder.FileName

/-- The extension of JSON files. -/
def jsonExtension : List Char := ['j', 's', 'o', 'n']

/-- The last step of a name. -/
def last (name : List Char) : List Char := (name.reverse.takeWhile (· ≠ '/')).reverse

/-- The first step of a name, and whether others follow. -/
def first (name : List Char) : List Char × Bool :=
  (name.takeWhile (· ≠ '/'), name.contains '/')

/-- The steps of a name, between strokes. -/
def steps : List Char → List (List Char)
  | [] => [[]]
  | character :: rest =>
    if character = '/' then [] :: steps rest
    else
      match steps rest with
      | step :: others => (character :: step) :: others
      | [] => [[character]]

/-- The extension of a name. -/
def extension? (name : List Char) : Option (List Char) :=
  match (last name).reverse.span (· ≠ '.') with
  | (reversed, '.' :: before) => if before.isEmpty then none else some reversed.reverse
  | _ => none

/-- Whether a name is that of a JSON file. -/
def isJson (name : String) : Bool := extension? name.toList == some jsonExtension

/-- A name with an extension added. -/
def withExtension (extension name : List Char) : List Char := name ++ '.' :: extension

/-- The name of a file in a directory. A stroke is set in between, unless the name of the directory
ends in one or is empty. -/
def within (directory name : String) : String :=
  match directory.toList.getLast? with
  | none | some '/' => directory ++ name
  | some _ => directory ++ "/" ++ name

example : isJson "a.b/c.json" ∧ ¬ isJson ".json" ∧ ¬ isJson "a.json/b" := by decide +kernel

example : within "a/b" "c" = "a/b/c" ∧ within "a/" "c" = "a/c" ∧ within "" "c" = "c" := by
  decide +kernel

end Wayfinder.FileName
