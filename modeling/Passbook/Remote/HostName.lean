import Passbook.Remote.HostName.Folding
import Passbook.Text.Composed
import Passbook.Text.Cursive
import Passbook.Text.Direction
import Passbook.Text.Percent
import Passbook.Text.Printable
import Passbook.Text.Punycode
/-!
Names of hosts in the form in which they are looked up. What stands for other characters is
replaced by them; a label with other than ASCII characters is written in Punycode behind a mark.
-/

namespace Passbook.HostName

def folded (text : List Char) : List Char := Text.Composed.composed (text.flatMap fold)

/-- ASCII characters that no name has. -/
def isForbidden (char : Char) : Bool :=
  Percent.isControl char || " %#/:<>?@[\\]^|".toList.contains char

/-- Joins the characters beside it. -/
def joiner : Char := '\u200d'

/-- Parts letters that would be joined. -/
def nonjoiner : Char := '\u200c'

def isAdmitted (char : Char) : Bool :=
  if Percent.isAscii char then !isForbidden char
  else char == joiner || char == nonjoiner ||
    (Text.isPrintable char && !Text.inRanges barredRanges char)

/-- Whether joiners stand where they make a difference. The text before a place is given from its
end. -/
def isJoined (before : List Char) : List Char → Bool
  | [] => true
  | char :: rest =>
      let isHalted := before.head?.any Text.Composed.isHalt
      let isPlaced :=
        if char = joiner then isHalted
        else if char = nonjoiner then isHalted || Text.Cursive.joinsAcross before rest
        else true
      isPlaced && isJoined (char :: before) rest

/-- The characters of a label beyond which it is not written in Punycode. -/
def lengthLimit : Nat := 1000

/-- A label begins with a character that stands by itself. -/
def isLabel (label : List Char) : Bool :=
  label.all isAdmitted && !label.head?.any Text.isMark && isJoined [] label &&
    (label.all Percent.isAscii || label.length ≤ lengthLimit)

def mark : List Char := ['x', 'n', '-', '-']

/-- What a label in Punycode spells needs it and is already folded. -/
def unmarked? (numbers : List Char) : Option (List Char) :=
  if numbers.length ≤ 2 * lengthLimit then
    (Punycode.decode? numbers).filter fun label =>
      !label.all Percent.isAscii && folded label == label
  else none

/-- The characters that a folded label stands for. -/
def label? (label : List Char) : Option (List Char) :=
  let plain := if mark.isPrefixOf label then unmarked? (label.drop mark.length) else some label
  plain.filter isLabel

def spelled (label : List Char) : List Char :=
  if label.all Percent.isAscii then label else mark ++ Punycode.encode label

/-- If one label may lead from right to left, each is read in one direction. -/
def isReadable (labels : List (List Char)) : Bool :=
  let directions := labels.map (·.map Text.Direction.ofChar)
  !directions.any (·.any Text.Direction.isRightward) || directions.all Text.Direction.isSteady

/-- The name that a text spells. A point at the end is kept. -/
def ofText? (text : List Char) : Option (List Char) := do
  let labels ← ((folded text).splitOn '.').mapM label?
  let name := List.intercalate ['.'] (labels.map spelled)
  if isReadable labels ∧ name ≠ [] then some name else none

end Passbook.HostName
