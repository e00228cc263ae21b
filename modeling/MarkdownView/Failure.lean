import MarkdownView.Json
import MarkdownView.Text.Quoted
set_option autoImplicit false

/-! Everything that can go wrong, by cause, with its wording. Failures of other programs arrive as
`outside`, with what they count as where the program asks. -/
namespace MarkdownView

inductive Refusal where
  | headingLevel (level : Int)
  | emptyTag
  | emptyRun
  | passageLevel (level : Int)
  | quoteDepth (depth : Int)
  | headerWidth (actual expected : Nat)
  | rowWidth (row actual expected : Nat)
  | depthCap (name : String) (cap : Int)
  | imageMode (shown : String)
  | theme (name : String) (suggestions : List String)
  | misplacedBracket
  | futureAddress
  | bracketedIPv4
  | noAddress (text : String)
  | deceptiveHost (host : String)
  | numberLength (digits : Nat)
deriving DecidableEq

def Refusal.message : Refusal → String
  | .headingLevel level => s!"Heading level must be 1-6, got {level}"
  | .emptyTag => "ExtensionNode tag must be a non-empty string"
  | .emptyRun => "TextRun text must not be empty"
  | .passageLevel level => s!"Section level must be 0-6, got {level}"
  | .quoteDepth depth => s!"Quote depth must be >= 1, got {depth}"
  | .headerWidth actual expected => s!"Table header has {actual} cells, expected {expected}"
  | .rowWidth row actual expected => s!"Table row {row} has {actual} cells, expected {expected}"
  | .depthCap name cap => s!"{name} must be a positive integer or None, got {cap}"
  | .imageMode shown => s!"image_mode must be one of ('resolve', 'ignore'), got {shown}"
  | .theme name suggestions =>
    let list := String.intercalate ", " suggestions
    let hint := if suggestions.isEmpty then "" else s!" Did you mean: {list}?"
    s!"Invalid highlight_theme '{name}'.{hint}"
  | .misplacedBracket => "Invalid IPv6 URL"
  | .futureAddress => "IPvFuture address is invalid"
  | .bracketedIPv4 => "An IPv4 address cannot be in brackets"
  | .noAddress text => s!"{Text.quote text} does not appear to be an IPv4 or IPv6 address"
  | .deceptiveHost host =>
    s!"netloc '{host}' contains invalid characters under NFKC normalization"
  | .numberLength digits =>
    "Exceeds the limit (4300 digits) for integer string conversion: " ++
      s!"value has {digits} digits; use sys.set_int_max_str_digits() to increase the limit"

structure MissingPackage where
  name : String
  wanted : String
deriving DecidableEq

structure VersionMismatch where
  name : String
  wanted : String
  installed : String
deriving DecidableEq

inductive Family where
  | lookup
  | key
  | file
  | unidentifiedImage
  | value
  | exhaustion
  | rendering
  | exit
deriving DecidableEq

inductive Failure where
  | general (message : String) (cause : Option String)
  | validation (message : String) (parameter : Option String) (value : Json)
      (cause : Option String)
  | wrongOptions (component expected received : String) (wording cause : Option String)
  | parsing (message : String) (stage cause : Option String)
  | render (message : String) (stage cause : Option String)
  | malformedTable (row expected actual : Int) (wording : Option String)
  | imageUnavailable (path : String) (reason cause : Option String)
  | depthExceeded (container : String) (depth limit : Int)
  | contract (kind context : String)
  | highlightContract (language : Option String)
  | dependency (component : String) (missing : List MissingPackage)
      (mismatched : List VersionMismatch) (wording importFailure : Option String)
  | refused (refusal : Refusal)
  | unknownOption (holder name : String)
  | missingOptions (holder : String) (names : List String)
  | frozenField (name : String)
  | notATree (typeName : String)
  | noAttribute (typeName name : String)
  | notAList (typeName : String)
  | notWritable (typeName : String)
  | longNumber
  | wideIndent
  | notJoined (index : Nat) (typeName : String)
  | notAdded (left right : String)
  | wideNumber
  | noLanguage
  | noLexer (language : String)
  | unstyledToken (token : String)
  | missingModule (name : String)
  | outside (kind message : String) (families : List Family)

namespace Failure

def kind : Failure → String
  | .general .. => "Md2VisualError"
  | .validation .. => "ValidationError"
  | .wrongOptions .. => "InvalidOptionsError"
  | .parsing .. => "ParsingError"
  | .render .. => "RenderError"
  | .malformedTable .. => "MalformedTableError"
  | .imageUnavailable .. => "ImageUnavailableError"
  | .depthExceeded .. => "DepthExceededError"
  | .contract .. => "ParserContractViolation"
  | .highlightContract .. => "HighlightContractError"
  | .dependency .. => "DependencyError"
  | .refused _ => "ValueError"
  | .unknownOption .. => "TypeError"
  | .missingOptions .. => "TypeError"
  | .frozenField _ => "FrozenInstanceError"
  | .notATree _ => "TypeError"
  | .noAttribute .. => "AttributeError"
  | .notAList _ => "TypeError"
  | .notWritable _ => "TypeError"
  | .longNumber => "ValueError"
  | .wideIndent => "OverflowError"
  | .notJoined .. => "TypeError"
  | .notAdded .. => "TypeError"
  | .wideNumber => "OverflowError"
  | .noLanguage => "LookupError"
  | .noLexer _ => "LookupError"
  | .unstyledToken _ => "KeyError"
  | .missingModule _ => "ModuleNotFoundError"
  | .outside kind _ _ => kind

def families : Failure → List Family
  | .render .. => [.rendering]
  | .malformedTable .. => [.rendering]
  | .imageUnavailable .. => [.rendering]
  | .depthExceeded .. => [.rendering]
  | .contract .. => [.rendering]
  | .highlightContract .. => [.rendering]
  | .refused _ => [.value]
  | .longNumber => [.value]
  | .noLanguage => [.lookup]
  | .noLexer _ => [.lookup]
  | .unstyledToken _ => [.lookup, .key]
  | .outside _ _ families => families
  | _ => []

def isA (family : Family) (failure : Failure) : Bool := failure.families.contains family

def packageName (name wanted : String) : String := name ++ wanted

def installLine (missing : List MissingPackage) (mismatched : List VersionMismatch) : String :=
  let all := missing.map (fun p => (p.name, p.wanted)) ++ mismatched.map fun p => (p.name, p.wanted)
  let words := all.map fun (name, wanted) =>
    if wanted = "" then name else s!"\"{packageName name wanted}\""
  if words.isEmpty then "" else
    "\nInstall with: pip install --upgrade " ++ String.intercalate " " words

def dependencyMessage (component : String) (missing : List MissingPackage)
    (mismatched : List VersionMismatch) : String :=
  let absent := missing.map fun p => s!"'{packageName p.name p.wanted}'"
  let unfit := mismatched.map fun p =>
    s!"'{p.name}' (requires {p.wanted}, but {p.installed} is installed)"
  let parts :=
    (if absent.isEmpty then [] else
      [component ++ " requires the following packages: " ++ String.intercalate ", " absent]) ++
    (if unfit.isEmpty then [] else
      [component ++ " has version mismatches: " ++ String.intercalate ", " unfit])
  String.intercalate "\n" parts ++ installLine missing mismatched

def namesInRow : List String → String
  | [] => ""
  | [name] => s!"'{name}'"
  | [first, second] => s!"'{first}' and '{second}'"
  | names =>
    let last := names.getLast?.getD ""
    String.join (names.dropLast.map fun name => s!"'{name}', ") ++ s!"and '{last}'"

def missingMessage (holder : String) (names : List String) : String :=
  let plural := if names.length = 1 then "" else "s"
  s!"{holder}.__init__() missing {names.length} required positional argument{plural}: " ++
    namesInRow names

def sumMessage (left right : String) : String :=
  if left = "str" || left = "list" then
    s!"can only concatenate {left} (not \"{right}\") to {left}"
  else s!"unsupported operand type(s) for +: '{left}' and '{right}'"

def wording : Failure → String
  | .general message _ => message
  | .validation message _ _ _ => message
  | .wrongOptions component expected received wording _ =>
    wording.getD s!"{component} expected options of type '{expected}' but received '{received}'."
  | .parsing message _ _ => message
  | .render message _ _ => message
  | .malformedTable row expected actual wording =>
    wording.getD s!"Table row {row} has {actual} cells, expected {expected}"
  | .imageUnavailable path reason _ =>
    match reason with
    | none => s!"Image unavailable: {path}"
    | some reason =>
      if reason = "" then s!"Image unavailable: {path}" else
        s!"Image unavailable: {path} ({reason})"
  | .depthExceeded container depth limit =>
    s!"{container} nesting depth {depth} exceeds configured maximum {limit}"
  | .contract kind context => s!"Unexpected {Text.quote kind} in {context}"
  | .highlightContract language =>
    s!"Highlight spans for language {Text.quote? language} do not reconstruct the source text"
  | .dependency component missing mismatched wording _ =>
    wording.getD (dependencyMessage component missing mismatched)
  | .refused refusal => refusal.message
  | .unknownOption holder name =>
    s!"{holder}.__init__() got an unexpected keyword argument '{name}'"
  | .missingOptions holder names => missingMessage holder names
  | .frozenField name => s!"cannot assign to field {Text.quote name}"
  | .notATree typeName => s!"Expected VisualTree or CompileResult, got {typeName}"
  | .noAttribute typeName name => s!"'{typeName}' object has no attribute '{name}'"
  | .notAList typeName => s!"'{typeName}' object is not iterable"
  | .notWritable typeName => s!"Object of type {typeName} is not JSON serializable"
  | .longNumber =>
    "Exceeds the limit (4300 digits) for integer string conversion; " ++
      "use sys.set_int_max_str_digits() to increase the limit"
  | .wideIndent => "cannot fit 'int' into an index-sized integer"
  | .notJoined index typeName =>
    s!"sequence item {index}: expected str instance, {typeName} found"
  | .notAdded left right => sumMessage left right
  | .wideNumber => "int too large to convert to float"
  | .noLanguage => "No language given"
  | .noLexer language => s!"No lexer for language {Text.quote language}"
  | .unstyledToken token => token
  | .missingModule name => s!"No module named {Text.quote name}"
  | .outside _ message _ => message

def message (failure : Failure) : String :=
  if failure.isA .key then Text.quote failure.wording else failure.wording

def shown (failure : Failure) : String :=
  s!"{failure.kind}({Text.quote failure.wording})"

def isLookup (failure : Failure) : Bool := failure.isA .lookup
def isFileTrouble (failure : Failure) : Bool := failure.isA .file
def isValueTrouble (failure : Failure) : Bool := failure.isA .value
def isRender (failure : Failure) : Bool := failure.isA .rendering

-- What ends more than the program's own work is a failure of no other family.
def isExit (failure : Failure) : Bool := failure.families == [.exit]

-- What a failure becomes in a sequence that is made element by element. There a word that some
-- sequence is at its end would pass for the end of this one, so it counts as a fault.
def inSequence (failure : Failure) : Failure :=
  if failure.isA .exhaustion then .outside "RuntimeError" "generator raised StopIteration" []
  else failure

def ancestry (failure : Failure) : List String :=
  let upward :=
    if failure.isRender then ["RenderError", "Md2VisualError"]
    else match failure with
      | .wrongOptions .. => ["ValidationError", "Md2VisualError"]
      | _ => ["Md2VisualError"]
  (failure.kind :: upward).eraseDups

end Failure
end MarkdownView
