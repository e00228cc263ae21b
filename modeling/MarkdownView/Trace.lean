import MarkdownView.Visual
set_option autoImplicit false

/-! Effects as data. A computation ends with its outcome and with what happened on the way, in order:
the log, the diagnostics, the warnings and the calls of a highlighter are read off its events. What
it does may depend on the events before it, so it may keep a memory. -/
namespace MarkdownView

inductive Level where
  | debug
  | warning
deriving DecidableEq

-- A call of a highlighter holds what happened during the call, and an inner compilation what happened
-- in it, with its result if it came to one.
inductive Event where
  | note (level : Level) (message : String)
  | called (source language : String) (events : List Event)
  | themed (theme : String) (isKnown : Bool)
  | unmodelled (kind : String)
  | repaired (message : String)
  | tokenized (extensions : List String) (text : String)
  | inner (events : List Event) (result : Option Compiled)

structure Ending (α : Type) where
  outcome : Except Failure α
  events : List Event

-- A computation: how it ends after some events, the latest of which stands first.
structure Traced (α : Type) where
  after : List Event → Ending α

namespace Traced

variable {α β : Type}

def outcome (traced : Traced α) : Except Failure α := (traced.after []).outcome

def events (traced : Traced α) : List Event := (traced.after []).events

def steady (ending : Ending α) : Traced α := ⟨fun _ => ending⟩

def done (value : α) : Traced α := steady ⟨.ok value, []⟩
def fail (failure : Failure) : Traced α := steady ⟨.error failure, []⟩
def emit (event : Event) : Traced Unit := steady ⟨.ok ⟨⟩, [event]⟩
def note (level : Level) (message : String) : Traced Unit := emit (.note level message)
def ofExcept (outcome : Except Failure α) : Traced α := steady ⟨outcome, []⟩

def past : Traced (List Event) := ⟨fun past => ⟨.ok past, []⟩⟩

def resume (first : Traced α) (next : Except Failure α → Traced β) : Traced β :=
  ⟨fun past =>
    let start := first.after past
    let rest := (next start.outcome).after (start.events.reverseAux past)
    ⟨rest.outcome, start.events ++ rest.events⟩⟩

def andThen (first : Traced α) (next : α → Traced β) : Traced β :=
  first.resume fun outcome =>
    match outcome with
    | .error failure => fail failure
    | .ok value => next value

instance : Monad Traced where
  pure := done
  bind := andThen

def mapFailure (change : Failure → Failure) (traced : Traced α) : Traced α :=
  ⟨fun past =>
    let ending := traced.after past
    ⟨ending.outcome.mapError change, ending.events⟩⟩

def call (source language : String) (answer : Traced α) : Traced α :=
  ⟨fun past =>
    let ending := answer.after past
    ⟨ending.outcome, [.called source language ending.events]⟩⟩

def enclose (compilation : Traced Compiled) : Traced Compiled :=
  ⟨fun past =>
    let ending := compilation.after past
    ⟨ending.outcome, [.inner ending.events ending.outcome.toOption]⟩⟩

end Traced

structure LogLine where
  level : Level
  message : String

namespace Event

def mention (seen : List String) : Event → List String
  | .unmodelled kind => kind :: seen
  | _ => seen

def isThemeLookup : Event → Bool
  | .themed .. => true
  | _ => false

def isTheming : Event → Bool
  | .called _ _ events => events.any isThemeLookup
  | event => event.isThemeLookup

mutual

def lines (seen : List String) : Event → List LogLine
  | .note level message => [⟨level, message⟩]
  | .themed theme isKnown =>
    if isKnown then []
    else [⟨.warning, s!"Unknown highlight theme '{theme}', code spans will not be coloured"⟩]
  | .unmodelled kind =>
    if seen.contains kind then []
    else [⟨.debug, s!"No visual counterpart for node kind '{kind}'"⟩]
  | .repaired message => [⟨.warning, message⟩]
  | .called _ _ events => log seen events
  | .inner events _ => log [] events
  | .tokenized .. => []
termination_by structural event => event

-- The log of a compilation. A kind without counterpart is mentioned the first time only.
def log (seen : List String) : List Event → List LogLine
  | [] => []
  | event :: rest => event.lines seen ++ log (event.mention seen) rest
termination_by structural events => events

end

def count (kind : String) : List (String × Int) → List (String × Int)
  | [] => [(kind, 1)]
  | (other, number) :: rest =>
    if other = kind then (other, number + 1) :: rest else (other, number) :: count kind rest

def unmodelledKinds (events : List Event) : List String :=
  events.filterMap fun event => match event with
    | .unmodelled kind => some kind
    | _ => none

def tally (kinds : List String) : List (String × Int) :=
  kinds.foldl (fun counts kind => count kind counts) []

def diagnostics (events : List Event) : List (String × Int) :=
  tally (unmodelledKinds events)

def warnings (events : List Event) : List String :=
  events.filterMap fun event => match event with
    | .repaired message => some message
    | _ => none

def isThemed (events : List Event) : Bool :=
  events.any isTheming

def calls (events : List Event) : List (String × String) :=
  events.filterMap fun event => match event with
    | .called source language _ => some (source, language)
    | _ => none

def result? : Event → Option Compiled
  | .inner _ result => result
  | _ => none

def results (events : List Event) : List Compiled :=
  events.flatMap fun event => match event with
    | .called _ _ events => events.filterMap result?
    | _ => []

def tokenizing? (events : List Event) : Option (List String × String) :=
  events.findSome? fun event => match event with
    | .tokenized extensions text => some (extensions, text)
    | _ => none

end Event
end MarkdownView
