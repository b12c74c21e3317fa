import SourceOutline.Text.Fields
import SourceOutline.Text.File

/-!
Paths and what they lead to. A path is cut at its slashes; empty parts and single dots do not count,
and two dots go up one directory, which has to exist.
-/
namespace SourceOutline.CommandLine

/-- A path: the slashes that it starts with if it starts at the root, and its parts. -/
structure Path where
  root : List Char
  parts : List (List Char)
deriving DecidableEq, Repr, Inhabited

namespace Path

/-- Reads a path. Exactly two slashes at the start are kept, and more of them count as one. -/
def ofText (text : String) : Path where
  root :=
    match text.toList with
    | '/' :: '/' :: '/' :: _ => ['/']
    | '/' :: '/' :: _ => ['/', '/']
    | '/' :: _ => ['/']
    | _ => []
  parts := (Text.fields '/' text.toList).filter fun part => part != [] && part != ['.']

/-- The text of a path; a path without parts is a dot. -/
def toText (p : Path) : String :=
  if p.root.isEmpty && p.parts.isEmpty then "." else String.ofList (p.root ++ Text.joinFields '/' p.parts)

/-- What a path stands for that is looked up from another one. -/
def append (here path : Path) : Path :=
  if path.root.isEmpty then ⟨here.root, here.parts ++ path.parts⟩ else path

end Path

/-- The directory that a command runs in: where it is, and what a path leads to from there. -/
structure Directory where
  location : Path
  entry : Path → Entry

/-- Files by the parts of their paths. -/
abbrev Listing : Type := List (List (List Char) × Octets)

namespace Listing

/-- What stands at a place. A directory is there if it holds a file. -/
def entryAt (files : Listing) (parts : List (List Char)) : Entry :=
  match files.find? (·.1 == parts) with
  | some (_, content) => .file content
  | none =>
    if parts.isEmpty || files.any (fun file => parts.isPrefixOf file.1) then .directory
    else .absent

/-- What some parts lead to from a place. Nothing is known of what lies above the listing. -/
def descend (files : Listing) (here : List (List Char)) : List (List Char) → Entry
  | [] => files.entryAt here
  | part :: parts =>
    if files.entryAt here = .directory then
      if part = ['.', '.'] then
        if here.isEmpty then .absent else descend files here.dropLast parts
      else descend files (here ++ [part]) parts
    else .absent

/-- What a path leads to. -/
def entry (files : Listing) (p : Path) : Entry :=
  if p.root.isEmpty then files.descend [] p.parts else .absent

end Listing

end SourceOutline.CommandLine
