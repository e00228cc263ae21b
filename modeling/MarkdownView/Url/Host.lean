import MarkdownView.Failure
import MarkdownView.Text.Basic
set_option autoImplicit false

namespace MarkdownView.Url.Host

def isOctet (part : List Char) : Bool :=
  (List.range 256).any fun number => Nat.toDigits 10 number == part

def isIPv4 (text : List Char) : Bool :=
  let parts := Text.splitChars '.' text
  parts.length == 4 && parts.all isOctet

def isHexDigit (c : Char) : Bool := (Text.hexValue? c).isSome

def isGroup (part : List Char) : Bool :=
  !part.isEmpty && part.length ≤ 4 && part.all isHexDigit

-- How many groups the parts of an address come to. The last part of all may be an IPv4 address, which
-- is two of them.
def width? (isEnd : Bool) : List (List Char) → Option Nat
  | [] => some 0
  | part :: parts =>
    if isGroup part then (width? isEnd parts).map (· + 1)
    else if isEnd && parts.isEmpty && isIPv4 part then some 2
    else none

def widthOf? (isEnd : Bool) (text : List Char) : Option Nat :=
  if text.isEmpty then some 0 else width? isEnd (Text.splitChars ':' text)

def splitGap? : List Char → Option (List Char × List Char)
  | [] => none
  | ':' :: ':' :: back => some ([], back)
  | c :: rest => (splitGap? rest).map fun (front, back) => (c :: front, back)

def isUnzonedIPv6 (text : List Char) : Bool :=
  match splitGap? text with
  | none => widthOf? true text == some 8
  | some (front, back) =>
    match widthOf? false front, widthOf? true back with
    | some high, some low => high + low < 8
    | _, _ => false

def isIPv6 (text : List Char) : Bool :=
  if text.contains '%' then
    let zone := Text.after '%' text
    !zone.isEmpty && !zone.contains '%' && isUnzonedIPv6 (Text.before '%' text)
  else isUnzonedIPv6 text

def isFuture (text : List Char) : Bool :=
  match text with
  | 'v' :: rest =>
    !(rest.takeWhile isHexDigit).isEmpty &&
      match rest.dropWhile isHexDigit with
      | '.' :: _ :: _ => true
      | _ => false
  | _ => false

def checkAddress (text : List Char) : Except Failure Unit :=
  if text.head? == some 'v' then
    if isFuture text then .ok ⟨⟩ else .error (.refused .futureAddress)
  else if isIPv4 text then .error (.refused .bracketedIPv4)
  else if isIPv6 text then .ok ⟨⟩
  else .error (.refused (.noAddress (String.ofList text)))

-- The address of a host that has both brackets. They may be the user's, who does not count.
def addressOf (host : List Char) : Except Failure (List Char) :=
  let named := Text.afterLast '@' host
  match named with
  | '[' :: rest =>
    let port := Text.after ']' rest
    if port.isEmpty || port.head? == some ':' then .ok (Text.before ']' rest)
    else .error (.refused .misplacedBracket)
  | _ =>
    if named.contains '[' then .error (.refused .misplacedBracket)
    else .ok (Text.before ':' named)

def checkBrackets (host : List Char) : Except Failure Unit :=
  if host.contains '[' != host.contains ']' then .error (.refused .misplacedBracket)
  else if host.contains '[' then addressOf host >>= checkAddress
  else .ok ⟨⟩

def deceptiveRanges : List (Nat × Nat) :=
  [(0x2047, 0x2049), (0x2100, 0x2101), (0x2105, 0x2106), (0x2a74, 0x2a74), (0xfe13, 0xfe13),
   (0xfe16, 0xfe16), (0xfe55, 0xfe56), (0xfe5f, 0xfe5f), (0xfe6b, 0xfe6b), (0xff03, 0xff03),
   (0xff0f, 0xff0f), (0xff1a, 0xff1a), (0xff1f, 0xff20)]

def check (host : List Char) : Except Failure Unit := do
  checkBrackets host
  if host.any (Text.isWithin deceptiveRanges) then
    .error (.refused (.deceptiveHost (String.ofList host)))
  else .ok ⟨⟩

end MarkdownView.Url.Host
