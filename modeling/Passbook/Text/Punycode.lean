/-!
Labels of any characters in ASCII letters, digits and hyphens. The ASCII characters come first;
the others follow in ascending order, each as the number of places and characters that are passed
over since the one before it. A number is written with digits of varying weight, which adapt to the
numbers seen so far.
-/

namespace Passbook.Punycode

def isBasic (char : Char) : Bool := char.toNat < 0x80

def digit (value : Nat) : Char :=
  if value < 26 then Char.ofNat ('a'.toNat + value) else Char.ofNat ('0'.toNat + (value - 26))

def digit? (char : Char) : Option Nat :=
  if 'a' ≤ char ∧ char ≤ 'z' then some (char.toNat - 'a'.toNat)
  else if 'A' ≤ char ∧ char ≤ 'Z' then some (char.toNat - 'A'.toNat)
  else if '0' ≤ char ∧ char ≤ '9' then some (char.toNat - '0'.toNat + 26)
  else none

/-- A digit below this is the last of its number. -/
def threshold (bias place : Nat) : Nat := min 26 (max 1 (place - bias))

theorem threshold_pos (bias place : Nat) : 0 < threshold bias place := by
  simp only [threshold]
  omega

def settle (delta bias : Nat) : Nat :=
  if 455 < delta then settle (delta / 35) (bias + 36) else bias + 36 * delta / (delta + 38)
  termination_by delta
  decreasing_by omega

/-- The bias after a number, by which `count` characters are placed. -/
def adapt (delta count : Nat) (isFirst : Bool) : Nat :=
  let damped := if isFirst then delta / 700 else delta / 2
  settle (damped + damped / count) 0

def encodeNumber (bias place value : Nat) : List Char :=
  let limit := threshold bias place
  if value < limit then [digit value]
  else
    digit (limit + (value - limit) % (36 - limit)) ::
      encodeNumber bias (place + 36) ((value - limit) / (36 - limit))
  termination_by value
  decreasing_by
    have positive := threshold_pos bias place
    have bounded := Nat.div_le_self (value - threshold bias place) (36 - threshold bias place)
    omega

structure Encoder where
  delta : Nat := 0
  bias : Nat := 72
  /-- How many characters are placed. -/
  count : Nat
  written : List Char := []

/-- Passes one character of the label while those of number `next` are placed. -/
def Encoder.pass (basics next : Nat) (encoder : Encoder) (char : Char) : Encoder :=
  if char.toNat < next then { encoder with delta := encoder.delta + 1 }
  else if char.toNat = next then
    { delta := 0
      bias := adapt encoder.delta (encoder.count + 1) (encoder.count == basics)
      count := encoder.count + 1
      written := encoder.written ++ encodeNumber encoder.bias 36 encoder.delta }
  else encoder

/-- Places the characters of the given numbers, which ascend and of which `reached` is the least
that may come. -/
def place (label : List Char) (basics : Nat) : List Nat → Nat → Encoder → Encoder
  | [], _, encoder => encoder
  | next :: rest, reached, encoder =>
      let started :=
        { encoder with delta := encoder.delta + (next - reached) * (encoder.count + 1) }
      let passed := label.foldl (Encoder.pass basics next) started
      place label basics rest (next + 1) { passed with delta := passed.delta + 1 }

def encode (label : List Char) : List Char :=
  let basic := label.filter isBasic
  let others := ((label.filter (!isBasic ·)).map Char.toNat).eraseDups.mergeSort
  let encoded := (place label basic.length others 0x80 { count := basic.length }).written
  basic ++ (if basic = [] then [] else ['-']) ++ encoded

/-- Reads one number and adds it to `value`. -/
def number? (bias : Nat) : Nat → Nat → Nat → List Char → Option (Nat × List Char)
  | _, _, _, [] => none
  | place, weight, value, char :: rest =>
      match digit? char with
      | none => none
      | some digit =>
          let value := value + digit * weight
          let limit := threshold bias place
          if digit < limit then some (value, rest)
          else number? bias (place + 36) (weight * (36 - limit)) value rest

theorem number?_length {bias place weight value : Nat} {text : List Char} {found : Nat × List Char}
    (same : number? bias place weight value text = some found) : found.2.length < text.length := by
  induction text generalizing place weight value with
  | nil => simp [number?] at same
  | cons char rest ih =>
      unfold number? at same
      split at same
      · simp at same
      · simp only at same
        split at same
        · cases same
          simp
        · have := ih same
          simp only [List.length_cons]
          omega

/-- Inserts the characters that the numbers of a text place, from number `next` on. -/
def insert? (bias next position : Nat) (reached : List Char) (text : List Char) :
    Option (List Char) :=
  if text = [] then some reached
  else
    match _same : number? bias 36 1 position text with
    | none => none
    | some (value, rest) =>
        let count := reached.length + 1
        let next := next + value / count
        if next.isValidChar then
          insert? (adapt (value - position) count (position == 0)) next (value % count + 1)
            (reached.take (value % count) ++ Char.ofNat next :: reached.drop (value % count)) rest
        else none
  termination_by text.length
  decreasing_by exact number?_length _same

/-- What stands before the last hyphen, if anything does, and the numbers behind it. -/
def parts (text : List Char) : List Char × List Char :=
  let numbers := (text.reverse.takeWhile (· != '-')).reverse
  match text.take (text.length - numbers.length - 1) with
  | [] => ([], text)
  | basic => (basic, numbers)

def decode? (text : List Char) : Option (List Char) :=
  let (basic, numbers) := parts text
  if basic.all isBasic then insert? 72 0x80 0 basic numbers else none

end Passbook.Punycode
