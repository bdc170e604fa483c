import Passbook.Text.Decimal
/-!
What is told of a run, and how much of it is shown. Every line is about a topic and has a level. Of
the directives that speak of its topic the most specific one decides whether it is shown.
-/

namespace Passbook.Log

inductive Level where
  | error
  | warn
  | info
  | debug
  deriving DecidableEq, Repr

namespace Level

def name : Level → String
  | .error => "ERROR"
  | .warn => "WARN"
  | .info => "INFO"
  | .debug => "DEBUG"

/-- How much has to be shown for a line to be among it. -/
def rank : Level → Nat
  | .error => 1
  | .warn => 2
  | .info => 3
  | .debug => 4

end Level

/-- The parts of the program that tell something. -/
inductive Topic where
  | program
  | store
  | pass
  | progress
  | query
  | retry
  | node
  | explorer
  deriving DecidableEq, Repr

/-- The names of parts begin with those of the parts around them. -/
def Topic.name : Topic → String
  | .program => "wallet_ledger_sync"
  | .store => "wallet_ledger_sync::sync::repositories"
  | .pass => "wallet_ledger_sync::sync::orchestrator"
  | .progress => "wallet_ledger_sync::sync::pass_tracker"
  | .query => "wallet_ledger_sync::sync::query"
  | .retry => "wallet_ledger_sync::chain::retry"
  | .node => "wallet_ledger_sync::chain::sequential"
  | .explorer => "wallet_ledger_sync::chain::block"

/-- How much is shown of the topics whose names begin with a text, or of all. -/
structure Directive where
  topics : Option String
  /-- The parts that a line must have to be spoken of. -/
  parts : List String := []
  /-- The greatest rank that is shown; at zero nothing is. -/
  rank : Nat
  deriving DecidableEq, Repr

namespace Directive

/-- Lines consist of a message. -/
def covers (directive : Directive) (topic : Topic) : Bool :=
  directive.topics.all (fun start => start.toList.isPrefixOf topic.name.toList) &&
    directive.parts.all (· == "message")

/-- The longer name counts first, then the number of parts. -/
def isAsSpecific (first second : Directive) : Bool :=
  let length (directive : Directive) : Nat :=
    (directive.topics.map fun start => start.utf8ByteSize + 1).getD 0
  length second < length first ||
    (length first == length second && second.parts.length ≤ first.parts.length)

def ranks : List (String × Nat) :=
  [("off", 0), ("error", 1), ("warn", 2), ("info", 3), ("debug", 4), ("trace", 5)]

/-- A rank by its name, in letters of either case, or its number. -/
def rank? (text : String) : Option Nat :=
  match Decimal.unsigned? text.toList with
  | some number => if number ≤ 5 then some number else none
  | none => ranks.lookup text.toLower

/-- What follows the topic: a rank behind an equals sign. Without one everything is shown. -/
def rankAfter? : List Char → Option Nat
  | [] | ['='] => some 5
  | '=' :: rank => rank? (String.ofList rank)
  | _ => none

/-- What stands behind an opening bracket: a part of lines in braces, and a rank. -/
def ofParts? (topics : Option String) (text : List Char) : Option Directive :=
  match text with
  | '\x7b' :: rest =>
      match rest.takeWhile (· != '\x7d'), rest.dropWhile (· != '\x7d') with
      | [], _ => none
      | part, '\x7d' :: ']' :: rank =>
          if part.contains '=' then none
          else (rankAfter? rank).map (⟨topics, [String.ofList part], ·⟩)
      | _, _ => none
  | _ => none

/-- The directive of a text, if it speaks of lines at all. -/
def ofText? (text : List Char) : Option Directive :=
  let isName (char : Char) : Bool := char != '=' && char != '['
  let name := String.ofList (text.takeWhile isName)
  if name = "" then
    match text with
    | '[' :: rest => ofParts? none rest
    | _ => none
  else
    match text.dropWhile isName with
    | [] =>
        match rank? name with
        | some rank => some ⟨none, [], rank⟩
        | none => some ⟨some name, [], 5⟩
    | '[' :: rest => ofParts? (some name) rest
    | rank => (rankAfter? rank).map (⟨some name, [], ·⟩)

end Directive

/-- Directives, of which a later one takes the place of an earlier one that is as specific. -/
abbrev Filter := List Directive

namespace Filter

def pick (found : Option Directive) (next : Directive) : Option Directive :=
  match found with
  | none => some next
  | some directive => if next.isAsSpecific directive then some next else some directive

def shows (filter : Filter) (topic : Topic) (level : Level) : Bool :=
  ((filter.filter (·.covers topic)).foldl pick none).any (level.rank ≤ ·.rank)

/-- The directives of a text and, as the last, that all but details is shown. -/
def ofText (text : String) : Filter :=
  (text.splitOn ",").filterMap (fun part => Directive.ofText? part.toList) ++ [⟨none, [], 3⟩]

end Filter

end Passbook.Log
