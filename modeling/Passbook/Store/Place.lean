import Passbook.Store.Problem
import Passbook.Text.Decimal
import Passbook.Text.Lossy
import Passbook.Text.Percent
/-!
Where a store is kept: in a file, or nowhere beyond the end of the program. A place is given as the
path of a file or, behind a mark, as a path with options. What may be done with the file is among
the options, and none of them may allow more than those before it.
-/

namespace Passbook

namespace StorePlace

inductive Access where
  /-- The file is there and is not written. -/
  | read
  /-- The file is there. -/
  | change
  /-- The file is made if it is not there. -/
  | create
  /-- There is no file. -/
  | memory
  deriving DecidableEq, Repr

namespace Access

def ofName? : String → Option Access
  | "ro" => some .read
  | "rw" => some .change
  | "rwc" => some .create
  | "memory" => some .memory
  | _ => none

def rank : Access → Nat
  | .read => 0
  | .change => 1
  | .create => 2
  | .memory => 3

/-- Whether one access may take the place of another. -/
def isWithin (access given : Access) : Bool := access == .memory || access.rank ≤ given.rank

end Access

/-- A path without segments that lead nowhere. -/
structure File where
  isRooted : Bool
  segments : List String
  deriving DecidableEq, Repr, Inhabited

namespace File

/-- Follows a segment from those that are reached, of which the last stands first. There is nothing
above the root. -/
def reach (isRooted : Bool) (reached : List String) (segment : String) : List String :=
  if segment = "" ∨ segment = "." then reached
  else if segment = ".." then
    match reached with
    | [] => if isRooted then [] else [".."]
    | ".." :: rest => ".." :: ".." :: rest
    | _ :: rest => rest
  else segment :: reached

def follow (isRooted : Bool) (segments : List String) : List String :=
  (segments.foldl (reach isRooted) []).reverse

def ofText (text : String) : File :=
  let isRooted := text.toList.head? == some '/'
  ⟨isRooted, follow isRooted (text.splitOn "/")⟩

def text (file : File) : String :=
  (if file.isRooted then "/" else "./") ++ "/".intercalate file.segments

/-- Whether a file of this path can be: it has a name of its own, and name and path are not longer
than file systems allow. -/
def isNamed (file : File) : Bool :=
  file.segments.getLast?.any (· != "..") && file.segments.all (·.utf8ByteSize ≤ 255) &&
    file.text.utf8ByteSize ≤ 504

end File

/-- What the options of a place come to. -/
structure Options where
  access : Access := .create
  system : String := "unix"
  /-- The file is taken for one that nobody writes. -/
  isFixed : Option Bool := none
  deriving DecidableEq, Repr

namespace Options

/-- The ways in which files are handled. -/
def systems : List String := ["unix", "unix-none", "unix-dotfile", "unix-excl", "memdb"]

/-- A number other than zero in eight bits, or a word. -/
def isYes (value : String) : Bool :=
  match value.toList.takeWhile Char.isDigit with
  | [] => ["on", "yes", "true"].contains value.toLower
  | digits =>
      let number := Decimal.ofDigits digits
      number < Nat.pow 2 31 && number % 256 != 0

/-- The last of the options of one name counts, but for the one by which a file is fixed. -/
def add (options : Options) : String × String → Except StoreProblem Options
  | ("vfs", value) => .ok { options with system := value }
  | ("cache", value) =>
      if value = "shared" ∨ value = "private" then .ok options
      else .error (.noSuchMode "cache" value)
  | ("mode", value) =>
      match Access.ofName? value with
      | none => .error (.noSuchMode "access" value)
      | some access =>
          if access.isWithin options.access then .ok { options with access }
          else .error (.notAllowed value)
  | ("immutable", value) =>
      .ok { options with isFixed := options.isFixed <|> some (isYes value) }
  | _ => .ok options

end Options

/-- What stands before the first of a character, and what behind it. -/
def cut (mark : Char) (text : List Char) : List Char × List Char :=
  (text.takeWhile (· != mark), (text.dropWhile (· != mark)).drop 1)

/-- A part in which characters may be written by their bytes; it ends at a zero. -/
def part (text : List Char) : String :=
  Text.Lossy.text ((Percent.decode text).takeWhile (· != 0))

/-- The options behind a question mark. One without a name is no option. -/
def options (text : List Char) : List (String × String) :=
  let pairs := (text.splitOn '&').map fun option =>
    let (name, value) := cut '=' option
    (part name, part value)
  pairs.filter (·.1 != "")

/-- What is behind the name of a machine, which can only be this one. -/
def behindAuthority : List Char → Except StoreProblem (List Char)
  | '/' :: '/' :: rest =>
      let name := String.ofList (rest.takeWhile (· != '/'))
      if name = "" ∨ name = "localhost" then .ok (rest.dropWhile (· != '/'))
      else .error (.foreignAuthority name)
  | text => .ok text

end StorePlace

structure StorePlace where
  /-- The place as it was given. -/
  text : String
  file : Option StorePlace.File
  access : StorePlace.Access := .create
  isFixed : Bool := false
  deriving DecidableEq, Repr

namespace StorePlace

def isReadOnly (place : StorePlace) : Bool := place.access == .read || place.isFixed

/-- The file of a path, unless the path says that there is none. -/
def fileOf? (path : String) : Option File :=
  if path = "" ∨ path = ":memory:" then none else some (.ofText path)

def ofOptions (text path : String) (options : Options) : Except StoreProblem StorePlace :=
  if !Options.systems.contains options.system then .error (.noSuchSystem options.system)
  else
    let isFile := options.access != .memory && options.system != "memdb"
    .ok {
      text
      file := if isFile then fileOf? path else none
      access := options.access
      isFixed := options.isFixed.getD false }

def mark : List Char := "file:".toList

def ofText (text : String) : Except StoreProblem StorePlace :=
  let chars := text.toList
  if mark.isPrefixOf chars then do
    let rest ← behindAuthority (chars.drop mark.length)
    let (path, given) := cut '?' (rest.takeWhile (· != '#'))
    ofOptions text (part path) (← (options given).foldlM Options.add {})
  else .ok { text, file := fileOf? text }

end StorePlace

end Passbook
