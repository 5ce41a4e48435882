/-
**Folders of files.**

Files of settings lie in a folder and in folders within it. A path that leads to one of them may
take detours: a point stays where it is, two points lead back, and several strokes count as one. Who
asks for a document may leave the extension of the file out.

* `Folder.follow?`: where a path leads;
* `Folder.text?`: the text of the file at the end of a path;
* `Folder.document?`: the document that goes by a name.
-/

import Wayfinder.Settings.Document

namespace Wayfinder

/-- Files and their texts. The name of a file leads straight from the folder to it; of two files
with one name the later one counts. -/
abbrev Folder := List (String × String)

namespace Folder

/-- A step of a path, or a place as the steps that lead straight to it. -/
abbrev Steps := List (List Char)

/-- Whether a place is the folder itself or lies on the way to a file. -/
def isFolder (files : Folder) (place : Steps) : Bool :=
  place.isEmpty || files.any fun file =>
    let steps := FileName.steps file.1.toList
    decide (place.length < steps.length) && place.isPrefixOf steps

/-- The place to which steps lead from another place. Each of them has to begin at a folder, and
none leads out of the whole. -/
def follow? (files : Folder) (place : Steps) : Steps → Option Steps
  | [] => some place
  | step :: rest =>
    if !files.isFolder place then none
    else if step = [] ∨ step = ['.'] then follow? files place rest
    else if step = ['.', '.'] then
      if place.isEmpty then none else follow? files place.dropLast rest
    else follow? files (place ++ [step]) rest

/-- The text of the file at the end of a path. -/
def text? (files : Folder) (path : Steps) : Option String :=
  (files.follow? [] path).bind fun place =>
    (files.reverse.find? fun file => decide (FileName.steps file.1.toList = place)).map (·.2)

/-- A path with an extension added. Strokes and points at its end fall away; a path that ends by
leading back has no name to extend. -/
def extended? (extension : String) (path : Steps) : Option Steps :=
  match path.reverse.dropWhile fun step => step.isEmpty || step == ['.'] with
  | [] => none
  | name :: before =>
    if name = ['.', '.'] then none
    else some ((FileName.withExtension extension.toList name :: before).reverse)

/-- The document that goes by a name. A file of just that name hides those whose names have an
extension added, even if its own extension stands for no form and it does not count. -/
def document? (files : Folder) (name : String) : Option Document :=
  let path := FileName.steps name.toList
  match files.text? path with
  | some text => (DocumentForm.ofName? name).map (⟨·, text⟩)
  | none => DocumentForm.extensions.findSome? fun entry =>
      ((extended? entry.1 path).bind files.text?).map (⟨entry.2, ·⟩)

example : document? [("a/b.json", "1"), ("c.json", "2")] "a/.././a//b/" = some ⟨.json, "1"⟩ := by
  decide +kernel

example : document? [("a.toml", ""), ("a.toml.json", "2")] "a.toml" = some ⟨.toml, ""⟩ := by
  decide +kernel

example : document? [("a/b.json", "1"), ("c.json", "2")] "d/../c" = none := by decide +kernel

end Folder

end Wayfinder
