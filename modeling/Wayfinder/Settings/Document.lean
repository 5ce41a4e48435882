/-
**Documents of settings.**

A file of settings holds a document. The extension of its name tells in which form the document is
written. In all forms a document has fields. One whose value is no table counts as empty, except in
JSON5, where it is none.

* `DocumentForm`, `Document`: forms and documents;
* `DocumentForm.ofName?`: the form of a file by its name;
* `Document.fields?`: the fields of a document.
-/

import Wayfinder.Ini
import Wayfinder.Json.Reader
import Wayfinder.Json5
import Wayfinder.Ron
import Wayfinder.Text.FileName
import Wayfinder.Toml.Reader
import Wayfinder.Yaml.Node

namespace Wayfinder

/-- Forms in which documents are written. -/
inductive DocumentForm where
  | json
  | json5
  | toml
  | yaml
  | ini
  | ron
deriving DecidableEq, Repr

/-- A text and the form in which it is written. -/
structure Document where
  form : DocumentForm
  text : String
deriving DecidableEq, Repr

namespace DocumentForm

/-- The extensions of files and the forms for which they stand. Of several files that go by one name
the one whose extension comes first counts. -/
def extensions : List (String × DocumentForm) :=
  [("json", .json), ("toml", .toml), ("yaml", .yaml), ("yml", .yaml), ("ini", .ini), ("ron", .ron),
    ("json5", .json5)]

/-- The form for which the extension of a name stands. -/
def ofName? (name : String) : Option DocumentForm :=
  (FileName.extension? name.toList).bind fun extension =>
    (extensions.find? fun entry => decide (entry.1.toList = extension)).map (·.2)

example : ofName? "a.b.yml" = some .yaml ∧ ofName? "a.toml.JSON" = none := by decide +kernel

end DocumentForm

namespace Document

/-- The greatest depth of nesting of a JSON document. -/
def depthLimit : Nat := 127

/-- The fields of a JSON document. -/
def ofJson? (text : String) : Option (List (String × SettingTree)) := do
  let document ← Json.parse? text
  if depthLimit < document.depth then none
  let tree ← SettingTree.ofJson? document
  return tree.fields

/-- The fields of a document, if its text keeps to the form. -/
def fields? (document : Document) : Option (List (String × SettingTree)) :=
  match document.form with
  | .json => ofJson? document.text
  | .json5 => Json5.parse? document.text
  | .toml => Toml.parse? document.text
  | .yaml => Yaml.parse? document.text
  | .ini => Ini.parse? document.text
  | .ron => Ron.parse? document.text

/-- The number at `a` of each of these documents. -/
example : [(⟨.json, "\x7b\"a\": 1\x7d"⟩ : Document), ⟨.json5, "\x7ba: +1\x7d"⟩, ⟨.toml, "a = 1"⟩,
    ⟨.yaml, "a: 1"⟩, ⟨.ini, "a = 1"⟩, ⟨.ron, "(a: 1)"⟩].map (fun document =>
      (document.fields?.bind (·.lookup "a")).bind SettingTree.natural?) =
    List.replicate 6 (some 1) := by decide +kernel

end Document

end Wayfinder
