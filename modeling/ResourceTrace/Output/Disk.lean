import ResourceTrace.Calendar
import ResourceTrace.Keyed
import ResourceTrace.Text.Cut

/-!
Files as sequences of bytes. What can be opened, when a write fails and which time zone there is are
up to the host; the library only asks it.
-/

set_option autoImplicit false

namespace ResourceTrace

/-- How a host answers: the file that a path names if it can be opened for writing, and whether
a file takes a write after so many earlier ones through the same opening. -/
structure Host where
  locate : String → Option String
  accepts : String → Nat → Bool
  zone : Zone := Zone.utc

namespace Host

def isFileName (part : List Char) : Bool :=
  part != ['.', '.'] && !part.contains '\x00' &&
    decide ((String.ofList part).utf8ByteSize ≤ 255)

def locateIn (path : List Char) : Option (List Char) :=
  let parts := Text.fields '/' path
  match parts.filter fun part => part != [] && part != ['.'] with
  | [part] =>
    if parts.head? != some [] && parts.getLast? == some part && isFileName part then some part
    else none
  | _ => none

/-- A working directory without subdirectories, beside a device on which every write fails and
one that takes everything. -/
def emptyDirectory : Host where
  locate path :=
    if path = "/dev/full" ∨ path = "/dev/null" then some path
    else (locateIn path.toList).map String.ofList
  accepts file _ := file != "/dev/full"

def isRegular (file : String) : Bool := file != "/dev/full" && file != "/dev/null"

end Host

abbrev Files := Keyed String (List UInt8)

namespace Files

def contents (files : Files) (file : String) : List UInt8 := (files.get? file).getD []

/-- Bytes written over what is there from an offset on; a gap is filled with zeros. -/
def overwrite (old : List UInt8) (offset : Nat) (new : List UInt8) : List UInt8 :=
  old.take offset ++ List.replicate (offset - old.length) 0 ++ new ++ old.drop (offset + new.length)

end Files

/-- A file opened for writing. Without `append` it is written at its own offset. -/
structure Opening where
  file : String
  append : Bool
  offset : Nat := 0
  writes : Nat := 0
  deriving DecidableEq, Repr

namespace Opening

def write (o : Opening) (old new : List UInt8) : List UInt8 × Opening :=
  let start := if o.append then old.length else o.offset
  (Files.overwrite old start new, { o with offset := start + new.length, writes := o.writes + 1 })

end Opening

end ResourceTrace
