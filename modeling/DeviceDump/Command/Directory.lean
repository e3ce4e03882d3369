/-
A directory held in memory, and what reading a path in it gives. A run takes what reading gives as a function of the
source; a directory is such a function, for files whose contents are known.

Entries are put in one after the other: a later one replaces an earlier one at the same place, and the directories on
the way to an entry come with it. A path is followed one component at a time; a file is no place to go on from, also
when nothing but a slash or a dot follows it. The directory above the top one is known to exist, and nothing else about
it is. Absolute paths lead nowhere.
-/
import DeviceDump.Command.Status

namespace DeviceDump.Command

inductive Entry where
  | file (contents : ByteArray)
  | directory

/-- what a directory holds, each entry under its path from the top -/
structure Directory where
  entries : List (Text × Entry) := []

namespace Directory

/-- the components of a path, without empty ones and dots -/
def components (path : Text) : List Text :=
  (path.splitOnP (· == '/')).filter fun part => !part.isEmpty && part != ['.']

/-- the component that leads one directory up -/
def parent : Text := ['.', '.']

/-- a path that only a directory can stand at the end of -/
def wantsDirectory (path : Text) : Bool :=
  match (path.splitOnP (· == '/')).getLast? with
  | some last => last.isEmpty || last == ['.']
  | none => false

/-- the places on the way along a path from the top, the last one first -/
def passed (path : Text) : List (List Text) :=
  (components path).foldl
    (fun places part =>
      let place := places.headD []
      (if part = parent then place.tail else part :: place) :: places)
    []

/-- what stands at a place, given by the names that lead to it, the last one first -/
def at? (d : Directory) (place : List Text) : Option Entry :=
  match d.entries.reverse.find? fun e => (passed e.1).headD [] == place with
  | some e => some e.2
  | none => if place.isEmpty || d.entries.any fun e => (passed e.1).contains place then some .directory else none

/-- follow components from a place; `none` is the place above the top -/
def follow (d : Directory) (place : Option (List Text)) : List Text → Except ReadError Entry
  | [] =>
    match place.elim (some .directory) d.at? with
    | none => .error .notFound
    | some entry => .ok entry
  | part :: rest =>
    match place.elim (some .directory) d.at? with
    | none => .error .notFound
    | some (.file _) => .error .notDirectory
    | some .directory =>
      if part = parent then
        d.follow (match place with | some (_ :: above) => some above | _ => none) rest
      else if 255 < part.utf8.length then .error .nameTooLong
      else
        match place with
        | none => .error .notFound
        | some place => d.follow (some (part :: place)) rest

/-- the bytes of the file at a path -/
def read (d : Directory) (path : Text) : Except ReadError ByteArray :=
  if 4095 < path.utf8.length then .error .nameTooLong
  else if path.head? = some '/' then .error .notFound
  else
    match d.follow (some []) (components path) with
    | .error e => .error e
    | .ok .directory => .error .isDirectory
    | .ok (.file contents) => if wantsDirectory path then .error .notDirectory else .ok contents

end Directory

end DeviceDump.Command
