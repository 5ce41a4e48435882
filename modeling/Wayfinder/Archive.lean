/-
**Metadata on disk.**

An archive is a directory of files that were written by hand. Opening it loads every JSON file that
lies in it, in the order of the names; a file that holds no bundle is passed over, one that cannot
be read makes the opening fail and leaves the archive as it was. What has been loaded answers every
request.

* `Directory`: the entries of a directory;
* `Archive.load`: the bundles of the JSON files, joined;
* `Archive.open`: the archive after loading.
-/

import Wayfinder.Fault
import Wayfinder.Json.Forms
import Wayfinder.Table
import Wayfinder.Text.FileName

namespace Wayfinder

/-- What an entry of a directory is. -/
inductive Entry where
  | directory
  | file (contents : ByteArray)
  /-- Something that cannot be read, and what the file system says of it. -/
  | refused (message : String)

/-- The entries of a directory by name, in the order in which they are listed. Names are texts: an
entry whose name is no text in UTF-8 cannot be represented. -/
abbrev Directory := List (String × Entry)

namespace Directory

/-- The directory that holds the given files. A name with several steps makes a directory of its
first step. -/
def ofFiles (files : List (String × Entry)) : Directory :=
  (files.foldl (fun (table : Table String Entry) file =>
    match FileName.first file.1.toList with
    | (step, true) => table.put (String.ofList step) .directory
    | (_, false) => table.put file.1 file.2) {}).entries

end Directory

/-- What the file system says of a directory that does not exist. -/
def Archive.notFound : String := "No such file or directory (os error 2)"

/-- A source of metadata that is read from a directory. -/
structure Archive where
  /-- The name of the directory in messages. -/
  path : String
  /-- The entries, `none` when they cannot be listed. -/
  directory : Option Directory
  /-- What the file system says when the entries cannot be listed. -/
  refusal : String := Archive.notFound
  loaded : Metadata := {}

namespace Archive

/-- What the file system says when a directory is read like a file. -/
def isDirectory : String := "Is a directory (os error 21)"

/-- What is said of a file whose octets are no text. -/
def notText : String := "stream did not contain valid UTF-8"

/-- The text of an entry. -/
def read (entry : Entry) : Except String String :=
  match entry with
  | .directory => .error isDirectory
  | .refused message => .error message
  | .file contents =>
    match String.fromUTF8? contents with
    | some text => .ok text
    | none => .error notText

/-- The bundle that an entry adds; one that holds none adds nothing. -/
def bundle (text : String) : Metadata := (Json.read? Metadata.ofJson? text).getD {}

/-- The bundles of entries in the order given, joined. The first entry that cannot be read is
reported. -/
def join (path : String) : List (String × Entry) → Except MetadataFault Metadata
  | [] => .ok {}
  | (name, entry) :: rest =>
    match read entry with
    | .error message => .error (.unreadable (FileName.within path name) message)
    | .ok text =>
      match join path rest with
      | .error fault => .error fault
      | .ok others => .ok (bundle text ++ others)

/-- The entries that count, in the order of their names. -/
def relevant (directory : Directory) : Directory :=
  (directory.filter fun entry => FileName.isJson entry.1).mergeSort
    fun first second => decide (first.1 ≤ second.1)

/-- What the directory holds. -/
def load (archive : Archive) : Except MetadataFault Metadata :=
  match archive.directory with
  | none => .error (.unreadable archive.path archive.refusal)
  | some directory => join archive.path (relevant directory)

/-- The archive after an attempt to load it. -/
def «open» (archive : Archive) : Except MetadataFault Unit × Archive :=
  match archive.load with
  | .ok loaded => (.ok (), { archive with loaded })
  | .error fault => (.error fault, archive)

end Archive

end Wayfinder
