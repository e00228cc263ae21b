import MarkdownView.Text.Basic
import MarkdownView.Text.Lowercase
set_option autoImplicit false

/-! Version numbers: an epoch, a release, and perhaps a pre-release, a post-release, a development
release and a local label. Their order puts a development release first and a pre-release before the
release it prepares; zeros at the end of a release do not count. Reading fails for a text of another
form, and for one with a number of too many digits. -/
namespace MarkdownView

structure Stage where
  word : String
  number : Nat
deriving DecidableEq

inductive LocalPart where
  | number (value : Nat)
  | word (text : String)
deriving DecidableEq

structure Version where
  epoch : Nat
  release : List Nat
  pre : Option Stage
  post : Option Stage
  dev : Option Nat
  localParts : List LocalPart
deriving DecidableEq

namespace Version

inductive Unreadable where
  | malformed
  | excessive (digits : Nat)
deriving DecidableEq

def isSeparator (c : Char) : Bool := c == '-' || c == '_' || c == '.'

def dropSeparator : List Char → List Char
  | c :: rest => if isSeparator c then rest else c :: rest
  | [] => []

def number (digits : List Char) : Nat :=
  digits.foldl (fun value digit => value * 10 + (digit.toNat - '0'.toNat)) 0

def readNumber (cs : List Char) : Option (Nat × List Char) :=
  match cs.takeWhile Char.isDigit with
  | [] => none
  | digits => some (number digits, cs.dropWhile Char.isDigit)

def readParts : Nat → List Char → List Nat × List Char
  | steps + 1, '.' :: rest =>
    match readNumber rest with
    | none => ([], '.' :: rest)
    | some (part, rest) =>
      let (parts, rest) := readParts steps rest
      (part :: parts, rest)
  | _, rest => ([], rest)

def plain (c : Char) : Char :=
  if c = 'ſ' then 's'
  else if c = '\u212a' then 'k'
  else if c = 'ı' ∨ c = 'İ' then 'i'
  else c.toLower

def dropMark : List Char → List Char
  | c :: rest => if plain c = 'v' then rest else c :: rest
  | [] => []

def readHead (cs : List Char) : Option (Nat × List Nat × List Char) := do
  let (first, rest) ← readNumber (dropMark cs)
  let (epoch, first, rest) ← match rest with
    | '!' :: rest => do
      let (second, rest) ← readNumber rest
      pure (first, second, rest)
    | rest => pure (0, first, rest)
  let (parts, rest) := readParts rest.length rest
  pure (epoch, first :: parts, rest)

def readWord : List String → List Char → Option (List Char × List Char)
  | [], _ => none
  | word :: words, cs =>
    if word.toList.isPrefixOf (cs.map plain) then some (cs.splitAt word.length)
    else readWord words cs

def usualWords : List (String × String) :=
  [("alpha", "a"), ("beta", "b"), ("c", "rc"), ("pre", "rc"), ("preview", "rc"), ("rev", "post"),
   ("r", "post")]

def usualWord (written : List Char) : String :=
  let word := Text.lower (String.ofList written)
  (usualWords.lookup word).getD word

def readTagged (words : List String) (cs : List Char) : Option (Stage × List Char) := do
  let (written, rest) ← readWord words (dropSeparator cs)
  let rest := dropSeparator rest
  match readNumber rest with
  | some (value, rest) => pure (⟨usualWord written, value⟩, rest)
  | none => pure (⟨usualWord written, 0⟩, rest)

def preWords : List String := ["alpha", "a", "beta", "b", "preview", "pre", "c", "rc"]
def postWords : List String := ["post", "rev", "r"]

def readPre (cs : List Char) : Option Stage × List Char :=
  match readTagged preWords cs with
  | some (pre, rest) => (some pre, rest)
  | none => (none, cs)

def readDashed : List Char → Option (Nat × List Char)
  | '-' :: rest => readNumber rest
  | _ => none

def readPost (cs : List Char) : Option Stage × List Char :=
  match readDashed cs with
  | some (value, rest) => (some ⟨"post", value⟩, rest)
  | none =>
    match readTagged postWords cs with
    | some (post, rest) => (some post, rest)
    | none => (none, cs)

def readDev (cs : List Char) : Option Nat × List Char :=
  match readTagged ["dev"] cs with
  | some (dev, rest) => (some dev.number, rest)
  | none => (none, cs)

def isAlphanumeric (c : Char) : Bool := c.isDigit || ('a' ≤ plain c && plain c ≤ 'z')

def localPart (cs : List Char) : LocalPart :=
  if cs.all Char.isDigit then .number (number cs) else .word (Text.lower (String.ofList cs))

def readLocalParts : Nat → List Char → Option (List LocalPart)
  | 0, _ => none
  | steps + 1, cs =>
    match cs.takeWhile isAlphanumeric, cs.dropWhile isAlphanumeric with
    | [], _ => none
    | part, [] => some [localPart part]
    | part, c :: rest =>
      if isSeparator c then (readLocalParts steps rest).map (localPart part :: ·) else none

def readLocal : List Char → Option (List LocalPart)
  | [] => some []
  | '+' :: rest => readLocalParts (rest.length + 1) rest
  | _ => none

def readPublic (cs : List Char) : Option (Version × List Char) := do
  let (epoch, release, rest) ← readHead cs
  let (pre, rest) := readPre rest
  let (post, rest) := readPost rest
  let (dev, rest) := readDev rest
  pure (⟨epoch, release, pre, post, dev, []⟩, rest)

def parseTrimmed? (text : String) : Option Version := do
  let (version, rest) ← readPublic text.toList
  let localParts ← readLocal rest
  pure { version with localParts := localParts }

def parse? (text : String) : Option Version :=
  parseTrimmed? (Text.trim text)

def digitLimit : Nat := 4300

def numerals (text : List Char) : List (List Char) :=
  (Text.before '+' text).splitOnP (fun c => !c.isDigit) ++
    ((Text.after '+' text).splitOnP isSeparator).filter fun part => part.all Char.isDigit

def excess? (text : String) : Option Nat :=
  ((numerals (Text.trimChars text.toList)).map List.length).find? fun digits => digitLimit < digits

-- The version that a text is. The form comes first, so that length matters only for a version.
def read (text : String) : Except Unreadable Version :=
  match parse? text, excess? text with
  | none, _ => .error .malformed
  | some _, some digits => .error (.excessive digits)
  | some version, none => .ok version

def LocalPart.text : LocalPart → String
  | .number value => toString value
  | .word text => text

def releaseText (release : List Nat) : String :=
  String.intercalate "." (release.map toString)

def baseText (version : Version) : String :=
  (if version.epoch = 0 then "" else s!"{version.epoch}!") ++ releaseText version.release

def publicText (version : Version) : String :=
  let pre := match version.pre with
    | none => ""
    | some stage => s!"{stage.word}{stage.number}"
  let post := match version.post with
    | none => ""
    | some stage => s!".post{stage.number}"
  let dev := match version.dev with
    | none => ""
    | some value => s!".dev{value}"
  version.baseText ++ pre ++ post ++ dev

def text (version : Version) : String :=
  if version.localParts.isEmpty then version.publicText
  else version.publicText ++ "+" ++
    String.intercalate "." (version.localParts.map LocalPart.text)

def withoutLabel (version : Version) : Except Unreadable Version := read version.publicText

def base (version : Version) : Version :=
  { version with pre := none, post := none, dev := none, localParts := [] }

def isPrerelease (version : Version) : Bool := version.pre.isSome || version.dev.isSome
def isPostrelease (version : Version) : Bool := version.post.isSome

def trimZeros (release : List Nat) : List Nat :=
  (release.reverse.dropWhile (· == 0)).reverse

def trimmed (version : Version) : Version :=
  { version with release := version.release.take 1 ++ trimZeros (version.release.drop 1) }

def compareLists {α : Type} (cmp : α → α → Ordering) : List α → List α → Ordering
  | [], [] => .eq
  | [], _ :: _ => .lt
  | _ :: _, [] => .gt
  | a :: as, b :: bs => (cmp a b).then (compareLists cmp as bs)

-- A version that is nothing but a development release comes before every pre-release; one that is no
-- pre-release comes after.
def preRank (version : Version) : Nat :=
  match version.pre with
  | some _ => 1
  | none => if version.post.isNone && version.dev.isSome then 0 else 2

def compareStages : Option Stage → Option Stage → Ordering
  | none, none => .eq
  | none, some _ => .lt
  | some _, none => .gt
  | some a, some b => (Ord.compare a.word b.word).then (Ord.compare a.number b.number)

def devKey (version : Version) : List Nat :=
  match version.dev with
  | some value => [0, value]
  | none => [1]

def comparePart : LocalPart → LocalPart → Ordering
  | .number a, .number b => compare a b
  | .number _, .word _ => .gt
  | .word _, .number _ => .lt
  | .word a, .word b => compare a b

def compare (a b : Version) : Ordering :=
  let numbers := compareLists Ord.compare
  (Ord.compare a.epoch b.epoch).then <|
  (numbers (trimZeros a.release) (trimZeros b.release)).then <|
  (Ord.compare a.preRank b.preRank).then <|
  (compareStages a.pre b.pre).then <|
  (compareStages a.post b.post).then <|
  (numbers a.devKey b.devKey).then <|
  compareLists comparePart a.localParts b.localParts

end Version
end MarkdownView
