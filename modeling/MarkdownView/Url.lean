import MarkdownView.Text.Utf8
import MarkdownView.Url.Host
set_option autoImplicit false

/-! References to resources: their scheme, the path after host, fragment and query are taken off, and
percent encoding. -/
namespace MarkdownView.Url

def isLetter (c : Char) : Bool := ('a' ≤ c && c ≤ 'z') || ('A' ≤ c && c ≤ 'Z')

def isSchemeChar (c : Char) : Bool :=
  isLetter c || c.isDigit || c == '+' || c == '-' || c == '.'

def clean (url : List Char) : List Char :=
  (url.dropWhile fun c => c.toNat ≤ 0x20).filter fun c => c != '\t' && c != '\r' && c != '\n'

def isScheme (name : List Char) : Bool :=
  match name with
  | [] => false
  | c :: _ => isLetter c && name.all isSchemeChar

def splitScheme (url : List Char) : List Char × List Char :=
  let name := url.takeWhile (· != ':')
  match url.dropWhile (· != ':') with
  | _ :: rest => if isScheme name then (name.map Char.toLower, rest) else ([], url)
  | [] => ([], url)

def endsHost (c : Char) : Bool := c == '/' || c == '?' || c == '#'

def splitHost : List Char → Except Failure (List Char × List Char)
  | '/' :: '/' :: rest => do
    let host := rest.takeWhile fun c => !endsHost c
    Host.check host
    pure (host, rest.dropWhile fun c => !endsHost c)
  | rest => .ok ([], rest)

structure Parts where
  scheme : String
  path : String

def split (url : String) : Except Failure Parts := do
  let (scheme, rest) := splitScheme (clean url.toList)
  let (_, rest) ← splitHost rest
  pure ⟨String.ofList scheme, String.ofList (Text.before '?' (Text.before '#' rest))⟩

def hexPair? (a b : Char) : Option UInt8 := do
  let a ← Text.hexValue? a
  let b ← Text.hexValue? b
  pure (UInt8.ofNat (a * 16 + b))

-- The bytes of a text, with each percent sign before two hexadecimal digits and those digits as the
-- byte they name.
def decodeBytes : List Char → List UInt8
  | [] => []
  | '%' :: a :: b :: rest =>
    match hexPair? a b with
    | some byte => byte :: decodeBytes rest
    | none => 0x25 :: decodeBytes (a :: b :: rest)
  | c :: rest => String.utf8EncodeChar c ++ decodeBytes rest

def decode (text : String) : String :=
  String.ofList (Text.Utf8.decodeLossy (decodeBytes text.toList))

end MarkdownView.Url
