import QueryRows.Text.Split
/-!
# Folder — named texts in one folder

A path leads through folders to a file.  A folder is there as long as some file is inside it, so a file can be written
only where another one stands already, or at the top.
-/
namespace QueryRows

/-- The files of a folder by their paths. -/
structure Folder where
  files : List (String × String)

namespace Folder

/-- The names on a path; empty ones and single points lead nowhere. -/
def steps (path : String) : List (List Char) := (Text.split '/' path.toList).filter fun s => s != [] && s != ['.']

/-- The path stays inside the folder and ends in a name. -/
def isInside (path : String) : Bool :=
  path.toList.head? != some '/' && path.toList.getLast? != some '/' && !(steps path).isEmpty

/-- **The text of a file.** -/
def read? (f : Folder) (path : String) : Option String :=
  if isInside path then (f.files.find? fun e => steps e.1 == steps path).map (·.2) else none

def hasFolder (f : Folder) (place : List (List Char)) : Bool :=
  place.isEmpty || f.files.any fun e => place.isPrefixOf (steps e.1) && place != steps e.1

/-- The files with a text under a path, in place of the one that was there. -/
def put (path text : String) : List (String × String) → List (String × String)
  | [] => [(path, text)]
  | e :: rest => if steps e.1 == steps path then (e.1, text) :: rest else e :: put path text rest

/-- **Writes a file**, where its folder exists and no folder has its name. -/
def write? (f : Folder) (path text : String) : Option Folder :=
  if isInside path && f.hasFolder (steps path).dropLast && !f.hasFolder (steps path) then
    some ⟨put path text f.files⟩
  else none

end Folder

end QueryRows
