import Mathlib.Data.List.Infix
import MarkdownView.Proofs.Requirement
import MarkdownView.Proofs.Text.Utf8
import MarkdownView.Proofs.Trace
import MarkdownView.Reading
set_option autoImplicit false

namespace MarkdownView

namespace Text

def lineEnd : List Char → List Char
  | [] => []
  | c :: rest => if c ≠ '\r' then [c] else if rest.head? = some '\n' then [] else ['\n']

def unified (text : String) : String := String.ofList (text.toList.tails.flatMap lineEnd)

theorem unify_newlines_eq (cs : List Char) : unifyNewlines cs = cs.tails.flatMap lineEnd := by
  fun_induction unifyNewlines cs with
  | case1 => rfl
  | case2 rest ih => simp [ih, lineEnd]
  | case3 rest alone ih =>
    have unpaired : rest.head? ≠ some '\n' := by
      intro paired
      obtain ⟨after, rfl⟩ := List.head?_eq_some_iff.mp paired
      exact alone after rfl
    simp [ih, lineEnd, unpaired]
  | case4 c rest _ other ih =>
    have kept : c ≠ '\r' := other
    simp [ih, lineEnd, kept]

end Text

namespace Source

theorem load_of_encoded (text : String) :
    load (.bytes (Text.Utf8.encode text.toList)) = .ok text ∧
      ∀ path, load (.file path (some (Text.Utf8.encode text.toList))) = .ok (Text.unified text) := by
  have decoded : decode (Text.Utf8.encode text.toList) = .ok text.toList := by
    rw [decode, Text.Utf8.decode_encode]
  refine ⟨?_, fun path => ?_⟩
  · rw [load, decoded, Except.map, String.ofList_toList]
  · rw [load, decoded, Except.map, Text.unify_newlines_eq, Text.unified]

theorem load_of_unencoded {bytes : List UInt8}
    (unencoded : ∀ text : String, bytes ≠ Text.Utf8.encode text.toList) :
    ∃ fault : Text.Utf8.Fault,
      load (.bytes bytes) = .error (unreadable fault.message "UnicodeDecodeError") ∧
      ∀ path, load (.file path (some bytes)) = .error (unreadable fault.message "UnicodeDecodeError") := by
  cases decoded : Text.Utf8.decode bytes with
  | ok cs =>
    refine absurd ?_ (unencoded (String.ofList cs))
    rw [String.toList_ofList]
    exact Text.Utf8.decode_eq_ok_iff.mp decoded
  | error fault =>
    have refused : decode bytes = .error (unreadable fault.message "UnicodeDecodeError") := by
      rw [decode, decoded]
    exact ⟨fault, by rw [load, refused, Except.map], fun path => by rw [load, refused, Except.map]⟩

end Source

section

variable {installation : Installation} {options : Argument ReadingOptions} {chosen : ReadingOptions}
  (accepted : options.resolve "MarkdownParser" "MarkdownParserOptions" ReadingOptions.default = .ok chosen)
  (installed : installation.require "markdown parser" readRequirements = .ok ⟨⟩)

include accepted installed

theorem read_of_loaded {source : Source} {text : String} (loaded : source.load = .ok text)
    (tokenizer : Tokenizer) :
    read tokenizer installation options source = tokenize tokenizer chosen.extensions text >>= Token.read := by
  rw [read, accepted, installed, loaded]
  rfl

theorem read_of_unloaded {source : Source} {failure : Failure} (unloaded : source.load = .error failure)
    (tokenizer : Tokenizer) : read tokenizer installation options source = Traced.fail failure := by
  rw [read, accepted, installed, unloaded]
  rfl

-- What a tokenizer is given does not depend on the form that a text comes in, but for the ends of its
-- lines; bytes of no text never get that far.
theorem read_forms (path : Path) (past : List Event) :
    (∀ (tokenizer : Tokenizer) (text : String),
      Event.tokenizing? ((read tokenizer installation options (.text text)).after past).events =
        some (chosen.extensions, text) ∧
      read tokenizer installation options (.bytes (Text.Utf8.encode text.toList)) =
        read tokenizer installation options (.text text) ∧
      read tokenizer installation options (.file path (some (Text.Utf8.encode text.toList))) =
        read tokenizer installation options (.text (Text.unified text))) ∧
    ∀ bytes, (∀ text : String, bytes ≠ Text.Utf8.encode text.toList) →
      ∃ message, ∀ (tokenizer : Tokenizer), ∀ source ∈ [Source.bytes bytes, .file path (some bytes)],
        (read tokenizer installation options source).after past =
          ⟨.error (.parsing message (some "load") (some "UnicodeDecodeError")), []⟩ := by
  constructor
  · intro tokenizer text
    obtain ⟨bytesLoaded, fileLoaded⟩ := Source.load_of_encoded text
    have readText (other : String) : read tokenizer installation options (.text other) =
        tokenize tokenizer chosen.extensions other >>= Token.read :=
      read_of_loaded accepted installed rfl tokenizer
    refine ⟨?_, ?_, ?_⟩
    · rw [readText]
      rfl
    · rw [readText]
      exact read_of_loaded accepted installed bytesLoaded tokenizer
    · rw [readText]
      exact read_of_loaded accepted installed (fileLoaded path) tokenizer
  · intro bytes unencoded
    obtain ⟨fault, bytesRefused, fileRefused⟩ := Source.load_of_unencoded unencoded
    refine ⟨s!"Could not read Markdown input: {fault.message}", fun tokenizer => ?_⟩
    refine List.forall_mem_cons.mpr ⟨?_, List.forall_mem_singleton.mpr ?_⟩
    · rw [read_of_unloaded accepted installed bytesRefused]
      rfl
    · rw [read_of_unloaded accepted installed (fileRefused path)]
      rfl

end

def Installation.reading : Installation := ⟨["mistune"], [("mistune", "3.1.3")]⟩

def ReadingOptions.chosen : ReadingOptions := ⟨false, true, false, false, true⟩

theorem Installation.reading_meets : reading.require "markdown parser" readRequirements = .ok ⟨⟩ := by
  have clauses : ">=3.0.0".splitOn "," = [">=3.0.0"] := Text.split_on_of_free ',' (by decide)
  have meets : Version.meets "3.1.3" ">=3.0.0" = .ok true := by
    rw [Version.meets, Version.clauses, clauses]
    rfl
  exact require_of_meets (by decide) (by decide) meets "mistune" "markdown parser"

theorem read_forms_mixed_ends :
    (Argument.given ReadingOptions.chosen).resolve "MarkdownParser" "MarkdownParserOptions"
        ReadingOptions.default = .ok ReadingOptions.chosen ∧
      Installation.reading.require "markdown parser" readRequirements = .ok ⟨⟩ ∧
      (∀ text : String, [0xed, 0xa0, 0x80] ≠ Text.Utf8.encode text.toList) ∧
      ∀ (tokenizer : Tokenizer) (path : Path),
        Event.tokenizing? ((read tokenizer Installation.reading (.given ReadingOptions.chosen)
            (.file path (some (Text.Utf8.encode "\ufeffa\r\nb\nc\r\r".toList)))).after []).events =
          some (["strikethrough", "footnotes"], "\ufeffa\nb\nc\n\n") ∧
        ∃ message, (read tokenizer Installation.reading (.given ReadingOptions.chosen)
            (.bytes [0xed, 0xa0, 0x80])).after [] =
          ⟨.error (.parsing message (some "load") (some "UnicodeDecodeError")), []⟩ := by
  have unencoded : ∀ text : String, [0xed, 0xa0, 0x80] ≠ Text.Utf8.encode text.toList := by
    intro text same
    have read := Text.Utf8.decode_eq_ok_iff.mpr same
    cases read
  have accepted : (Argument.given ReadingOptions.chosen).resolve "MarkdownParser" "MarkdownParserOptions"
      ReadingOptions.default = .ok ReadingOptions.chosen := rfl
  refine ⟨accepted, Installation.reading_meets, unencoded, fun tokenizer path => ?_⟩
  obtain ⟨readable, unreadable⟩ := read_forms accepted Installation.reading_meets path []
  constructor
  · have handed := (readable tokenizer "\ufeffa\nb\nc\n\n").1
    rw [(readable tokenizer "\ufeffa\r\nb\nc\r\r").2.2]
    exact handed
  · obtain ⟨message, refuses⟩ := unreadable _ unencoded
    exact ⟨message, refuses tokenizer _ List.mem_cons_self⟩

end MarkdownView
