import MarkdownView.Failure
set_option autoImplicit false

namespace MarkdownView.Failure

def fileKinds : List String :=
  ["OSError", "BlockingIOError", "ChildProcessError", "ConnectionError", "BrokenPipeError",
   "ConnectionAbortedError", "ConnectionRefusedError", "ConnectionResetError", "FileExistsError",
   "FileNotFoundError", "InterruptedError", "IsADirectoryError", "NotADirectoryError",
   "PermissionError", "ProcessLookupError", "TimeoutError"]

def familiesOf (kind : String) : List Family :=
  if ["LookupError", "IndexError", "CodecRegistryError"].contains kind then [.lookup]
  else if ["KeyError", "ZoneInfoNotFoundError"].contains kind then [.lookup, .key]
  else if fileKinds.contains kind then [.file]
  else if kind = "UnidentifiedImageError" then [.file, .unidentifiedImage]
  else if ["ValueError", "UnicodeError", "JSONDecodeError", "ClassNotFound"].contains kind then
    [.value]
  else if kind = "StopIteration" then [.exhaustion]
  else if ["BaseException", "SystemExit", "KeyboardInterrupt", "GeneratorExit",
    "CancelledError"].contains kind then [.exit]
  else []

def incomplete? (kind : String) : Option Failure :=
  let counted (maker wanted : String) : Option Failure :=
    some (.outside "TypeError" s!"{maker} takes exactly {wanted} arguments (1 given)" [])
  match kind with
  | "UnicodeDecodeError" => counted "function" "5"
  | "UnicodeEncodeError" => counted "function" "5"
  | "UnicodeTranslateError" => counted "function" "4"
  | "BaseExceptionGroup" => counted "BaseExceptionGroup.__new__()" "2"
  | "ExceptionGroup" => counted "BaseExceptionGroup.__new__()" "2"
  | "InvalidOptionsError" => some (.missingOptions kind ["expected_type", "received_type"])
  | "MalformedTableError" => some (.missingOptions kind ["expected", "actual"])
  | "DepthExceededError" => some (.missingOptions kind ["depth", "limit"])
  | "ParserContractViolation" => some (.missingOptions kind ["context"])
  | "DependencyError" => some (.missingOptions kind ["missing_packages"])
  | _ => none

def ofReport (kind message : String) : Failure :=
  match incomplete? kind with
  | some failure => failure
  | none =>
    match kind with
    | "Md2VisualError" => .general message none
    | "ValidationError" => .validation message none .null none
    | "ParsingError" => .parsing message none none
    | "RenderError" => .render message none none
    | "ImageUnavailableError" => .imageUnavailable message none none
    | "HighlightContractError" => .highlightContract (some message)
    | "IOError" => .outside "OSError" message [.file]
    | "EnvironmentError" => .outside "OSError" message [.file]
    | kind => .outside kind message (familiesOf kind)

def missingJson (missing : List MissingPackage) : Json :=
  .list (missing.map fun p => .list [.text p.name, .text p.wanted])

def mismatchedJson (mismatched : List VersionMismatch) : Json :=
  .list (mismatched.map fun p => .list [.text p.name, .text p.wanted, .text p.installed])

def renderAttributes (stage : Option String) (cause : Option String)
    (more : List (String × Json)) : List (String × Json) :=
  ("rendering_stage", Json.ofText? stage) :: ("original_error", Json.ofText? cause) :: more

def attributes? : Failure → Option (List (String × Json))
  | .general _ cause => some [("original_error", Json.ofText? cause)]
  | .validation _ parameter value cause =>
    some [("original_error", Json.ofText? cause), ("parameter_name", Json.ofText? parameter),
      ("parameter_value", value)]
  | .wrongOptions component expected received _ cause =>
    some [("original_error", Json.ofText? cause), ("parameter_name", .text "options"),
      ("parameter_value", .text received), ("component_name", .text component),
      ("expected_type", .text expected), ("received_type", .text received)]
  | .parsing _ stage cause =>
    some [("original_error", Json.ofText? cause), ("parsing_stage", Json.ofText? stage)]
  | .render _ stage cause => some (renderAttributes stage cause [])
  | .malformedTable row expected actual _ =>
    some (renderAttributes (some "table") none
      [("row_index", .int row), ("expected", .int expected), ("actual", .int actual)])
  | .imageUnavailable path reason cause =>
    some (renderAttributes (some "image") cause
      [("path", .text path), ("reason", Json.ofText? reason)])
  | .depthExceeded container depth limit =>
    some (renderAttributes (some container) none
      [("kind", .text container), ("depth", .int depth), ("limit", .int limit)])
  | .contract kind context =>
    some (renderAttributes (some "contract") none
      [("node_kind", .text kind), ("context", .text context)])
  | .highlightContract language =>
    some (renderAttributes (some "highlight") none [("language", Json.ofText? language)])
  | .dependency component missing mismatched _ importFailure =>
    some [("original_import_error", Json.ofText? importFailure), ("original_error", .null),
      ("component_name", .text component), ("missing_packages", missingJson missing),
      ("version_mismatches", mismatchedJson mismatched)]
  | _ => none

def report (failure : Failure) : List (String × Json) :=
  [("error", .text failure.kind), ("message", .text failure.message)] ++
    match failure.attributes? with
    | some attributes => [("attrs", .object attributes)]
    | none => []

end MarkdownView.Failure
