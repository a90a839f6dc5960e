import WasmHost.Files.Path
import WasmHost.Guest.Image
/-!
A tree of files below a working directory, and what looking at a path in it finds.

Links are followed, up to a limit. A directory is there when it is listed or when something lies
below it. Outside the working directory nothing is known by name.
-/
namespace WasmHost.Files

/-- An entry of the tree. A file can be closed to readers, or fail to be read for a reason. -/
inductive Entry where
  | file (content : Guest.Image) (readable : Bool) (failure : Option String)
  | directory
  | link (target : String)
  deriving DecidableEq

/-- The entries below the working directory, by the parts of their paths. -/
structure Tree where
  entries : List (List String × Entry)
  deriving DecidableEq

/-- Why a path leads nowhere. -/
inductive LookupFault where
  | missing
  | nameTooLong
  deriving DecidableEq, Repr

/-- What a path leads to. -/
inductive Found where
  | file (content : Guest.Image) (readable : Bool) (failure : Option String)
  | directory
  deriving DecidableEq

/-- A directory: one at or below the working directory, or one elsewhere, about which nothing is
known but that the directories above it are there. -/
inductive Place where
  | inside (parts : List String)
  | elsewhere
  deriving DecidableEq

namespace Tree

/-- The longest name of a single part, in bytes. -/
def longestName : Nat := 255

/-- The length of a path from which on it is too long, in bytes. -/
def pathLimit : Nat := 4096

/-- The most links that are followed. -/
def linkLimit : Nat := 40

/-- The entry at the parts of a path, a directory when something lies below it. -/
def entry? (t : Tree) (parts : List String) : Option Entry :=
  if parts.isEmpty then some .directory
  else match t.entries.lookup parts with
    | some e => some e
    | none =>
      if t.entries.any fun e => parts.isPrefixOf e.1 then some .directory else none

/-- The place one directory up. -/
def parent : Place → Place
  | .inside [] | .elsewhere => .elsewhere
  | .inside parts => .inside parts.dropLast

/-- Follows steps from a directory. `links` bounds the links still to be followed and `steps` the
steps to be taken with one number of links left. -/
def walk (t : Tree) (links : Nat) (place : Place) (steps : List String) :
    Except LookupFault Found :=
  match steps with
  | [] => .ok .directory
  | step :: rest =>
    if longestName < step.utf8ByteSize then .error .nameTooLong
    else if step = "." then walk t links place rest
    else if step = ".." then walk t links (parent place) rest
    else match place with
      | .elsewhere => .error .missing
      | .inside parts =>
        let here := parts ++ [step]
        match t.entry? here with
        | none => .error .missing
        | some .directory => walk t links (.inside here) rest
        | some (.file content readable failure) =>
          if rest.isEmpty then .ok (.file content readable failure) else .error .missing
        | some (.link target) =>
          match links with
          | 0 => .error .missing
          | links + 1 =>
            -- a target is followed from the directory that holds the link, or from the root
            let target := target.toList
            let start := if Path.rootOf target = .none then place else .elsewhere
            walk t links start (Path.steps target ++ rest)
termination_by (links, steps.length)

/-- What a path leads to from the working directory. A path that cannot be spelled leads
nowhere. -/
def find (t : Tree) (path : Path) : Except LookupFault Found :=
  if path.toString.contains '\x00' then .error .missing
  else if pathLimit ≤ path.toString.utf8ByteSize then .error .nameTooLong
  else t.walk linkLimit (if path.root = .none then .inside [] else .elsewhere) path.parts

end Tree

/-- The text of a number by which the system reports a failed read. -/
def failureText (number : Nat) : String :=
  match number with
  | 1 => "Operation not permitted"
  | 2 => "No such file or directory"
  | 4 => "Interrupted system call"
  | 5 => "Input/output error"
  | 6 => "No such device or address"
  | 9 => "Bad file descriptor"
  | 11 => "Resource temporarily unavailable"
  | 12 => "Cannot allocate memory"
  | 13 => "Permission denied"
  | 16 => "Device or resource busy"
  | 19 => "No such device"
  | 21 => "Is a directory"
  | 22 => "Invalid argument"
  | 23 => "Too many open files in system"
  | 24 => "Too many open files"
  | 28 => "No space left on device"
  | 40 => "Too many levels of symbolic links"
  | 110 => "Connection timed out"
  | 116 => "Stale file handle"
  | 121 => "Remote I/O error"
  | n => "Unknown error " ++ toString n

end WasmHost.Files
