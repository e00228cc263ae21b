import MarkdownView.Version
set_option autoImplicit false

namespace MarkdownView.Version

inductive Operator where
  | compatible
  | equal
  | different
  | atMost
  | atLeast
  | below
  | above
  | identical
deriving DecidableEq

structure Clause where
  operator : Operator
  text : String

def operators : List (String × Operator) :=
  [("===", .identical), ("~=", .compatible), ("==", .equal), ("!=", .different), ("<=", .atMost),
   (">=", .atLeast), ("<", .below), (">", .above)]

def endsInWildcard (text : String) : Bool := ['*', '.'].isPrefixOf text.toList.reverse

def dropWildcard (text : String) : String := String.ofList (text.toList.dropLast.dropLast)

-- Which texts an operator takes: anything without blanks for identity; a local label or a wildcard
-- only for equality; a release of two parts for compatibility.
def isOperand (operator : Operator) (text : String) : Bool :=
  match operator with
  | .identical => text.toList.all fun c => !(Text.isBlank c || c == ';' || c == ')')
  | .compatible =>
    match readPublic text.toList with
    | some (version, []) => 2 ≤ version.release.length
    | _ => false
  | .equal | .different =>
    (parseTrimmed? text).isSome ||
      match readHead text.toList with
      | some (_, _, ['.', '*']) => true
      | _ => false
  | .atMost | .atLeast | .below | .above =>
    match readPublic text.toList with
    | some (_, []) => true
    | _ => false

def readOperator (cs : List Char) : Option (Operator × List Char) := do
  let (word, operator) ← operators.find? fun entry => entry.1.toList.isPrefixOf cs
  pure (operator, cs.drop word.length)

def clause? (text : String) : Option Clause := do
  let (operator, rest) ← readOperator (Text.trim text).toList
  let operand := Text.trim (String.ofList rest)
  if isOperand operator operand then pure ⟨operator, operand⟩ else none

-- What tells a clause from others: its operator and the canonical text of its version, with no zeros
-- at the end of the release unless compatibility is asked for. A text that is no version stands for
-- itself.
def Clause.key (clause : Clause) : Except Unreadable (Operator × String) :=
  match read clause.text with
  | .error .malformed => .ok (clause.operator, clause.text)
  | .error (.excessive digits) => .error (.excessive digits)
  | .ok version =>
    if clause.operator = .compatible then .ok (clause.operator, version.text)
    else (read version.text).map fun version => (clause.operator, version.trimmed.text)

def keyed (text : String) : Except Unreadable ((Operator × String) × Clause) :=
  match clause? text with
  | none => .error .malformed
  | some clause => clause.key.map fun key => (key, clause)

-- The clauses of a demand. Of several that are told apart by nothing the first counts.
def clauses (text : String) : Except Unreadable (List Clause) := do
  let parts := (text.splitOn ",").filter fun part => Text.trim part != ""
  let clauses ← parts.mapM keyed
  pure ((clauses.eraseDupsBy fun a b => a.1 == b.1).map Prod.snd)

def Clause.namesPrerelease (clause : Clause) : Except Unreadable Bool :=
  match clause.operator with
  | .different => .ok false
  | .equal =>
    let text := if endsInWildcard clause.text then dropWildcard clause.text else clause.text
    (read text).map isPrerelease
  | _ => (read clause.text).map isPrerelease

def anyPrerelease : List Clause → Except Unreadable Bool
  | [] => .ok false
  | clause :: clauses => do
    if ← clause.namesPrerelease then pure true else anyPrerelease clauses

def startsWithAny (starts : List String) (text : String) : Bool :=
  starts.any fun start => start.toList.isPrefixOf text.toList

def splitPart (part : String) : List String :=
  let digits := part.toList.takeWhile Char.isDigit
  let rest := part.toList.dropWhile Char.isDigit
  let number := match ["a", "b", "c", "rc"].find? fun word => word.toList.isPrefixOf rest with
    | some word => rest.drop word.length
    | none => []
  if digits.isEmpty || number.isEmpty || !number.all Char.isDigit then [part]
  else [String.ofList digits, String.ofList rest]

def splitVersion (text : String) : List String :=
  let afterEpoch := (text.toList.reverse.takeWhile (· != '!')).reverse
  let epoch := (text.toList.take (text.length - afterEpoch.length)).dropLast
  (if epoch.isEmpty then "0" else String.ofList epoch) ::
    ((String.ofList afterEpoch).splitOn ".").flatMap splitPart

def joinVersion : List String → String
  | [] => ""
  | epoch :: parts => epoch ++ "!" ++ String.intercalate "." parts

def isNumeral (part : String) : Bool := part != "" && part.toList.all Char.isDigit

def padTo (other parts : List String) : List String :=
  let numerals := parts.takeWhile isNumeral
  let wanted := (other.takeWhile isNumeral).length
  numerals ++ List.replicate (wanted - numerals.length) "0" ++ parts.dropWhile isNumeral

def canonical (text : String) : Except Unreadable String :=
  match read text with
  | .ok version => .ok version.text
  | .error .malformed => .ok text
  | .error (.excessive digits) => .error (.excessive digits)

def beginsAs (version : Version) (text : String) : Except Unreadable Bool := do
  let written ← canonical version.publicText
  let wanted := splitVersion (← canonical text)
  pure ((padTo wanted (splitVersion written)).take wanted.length == wanted)

def isAtLeast (version bound : Version) : Except Unreadable Bool := do
  let candidate ← version.withoutLabel
  pure (candidate.compare bound != .lt)

def equals (version : Version) (text : String) : Except Unreadable Bool :=
  if endsInWildcard text then version.beginsAs (dropWildcard text)
  else do
    let wanted ← read text
    let candidate ← if wanted.localParts.isEmpty then version.withoutLabel else .ok version
    pure (candidate.compare wanted == .eq)

def compatibleStart (text : String) : String :=
  let isSuffix := startsWithAny ["dev", "a", "b", "rc", "post"]
  joinVersion ((splitVersion text).takeWhile fun part => !isSuffix part).dropLast

def sameBase (a b : Version) : Bool := a.base.compare b.base == .eq

def Clause.admits (clause : Clause) (version : Version) : Except Unreadable Bool :=
  match clause.operator with
  | .identical => .ok (Text.lower version.text == Text.lower clause.text)
  | .equal => version.equals clause.text
  | .different => (version.equals clause.text).map (!·)
  | .compatible => do
    let bound ← read clause.text
    if ← version.isAtLeast bound then version.beginsAs (compatibleStart clause.text)
    else pure false
  | .atMost => do
    let bound ← read clause.text
    let candidate ← version.withoutLabel
    pure (candidate.compare bound != .gt)
  | .atLeast => do
    let bound ← read clause.text
    version.isAtLeast bound
  | .below => do
    let bound ← read clause.text
    pure (version.compare bound == .lt &&
      !(!bound.isPrerelease && version.isPrerelease && sameBase version bound))
  | .above => do
    let bound ← read clause.text
    pure (version.compare bound == .gt &&
      !(!bound.isPostrelease && version.isPostrelease && sameBase version bound) &&
      !(!version.localParts.isEmpty && sameBase version bound))

def admitsAll (version : Version) : List Clause → Except Unreadable Bool
  | [] => .ok true
  | clause :: clauses => do
    if ← clause.admits version then admitsAll version clauses else pure false

def meetsClauses (version : Version) (clauses : List Clause) : Except Unreadable Bool := do
  let allowed ← anyPrerelease clauses
  if version.isPrerelease && !allowed then pure false else admitsAll version clauses

def meets (installed demand : String) : Except Unreadable Bool := do
  let version ← read installed
  meetsClauses version (← clauses demand)

end MarkdownView.Version
