import MarkdownView.Compile.Session
import MarkdownView.Proofs.Compile.Events
import MarkdownView.Proofs.Compile.Siblings
import MarkdownView.Proofs.Lexed
set_option autoImplicit false

namespace MarkdownView

open Traced (Follow IsRemark)

def Lexicon.isLexed (lexicon : Lexicon) : Event → Bool
  | .called _ language _ => (lexicon.lexer? language).isSome
  | _ => false

namespace Theming

inductive Meets (theming : Theming) (lexicon : Lexicon) (past : List Event) : Event → Prop where
  | remark {event : Event} (remark : IsRemark event) : theming.Meets lexicon past event
  | kind (kind : String) : theming.Meets lexicon past (.unmodelled kind)
  | repair (index width actual : Nat) :
      theming.Meets lexicon past (.repaired (Walk.repair index width actual))
  | call (source language : String) :
      theming.Meets lexicon past (.called source language
        (if (lexicon.lexer? language).isSome then theming.lookups lexicon past else []))

variable {theming : Theming} {lexicon : Lexicon} {past : List Event}

theorem Meets.is_theming_eq {event : Event} (meets : theming.Meets lexicon past event) :
    event.isTheming = (lexicon.isLexed event && (theming.found.isNone && !Event.isThemed past)) := by
  cases meets with
  | remark remark =>
    obtain ⟨level, message, rfl, _⟩ := remark
    rfl
  | kind kind => rfl
  | repair index width actual => rfl
  | call source language =>
    rw [Event.isTheming, Lexicon.isLexed]
    cases (lexicon.lexer? language).isSome with
    | false => rfl
    | true => rw [if_pos rfl, any_is_theme_lookup_lookups, Bool.true_and]

theorem is_themed_of_follow {events : List Event} (follow : Follow (theming.Meets lexicon) past events)
    (unthemed : Event.isThemed past = false) :
    Event.isThemed events = (theming.found.isNone && events.any lexicon.isLexed) := by
  induction events generalizing past with
  | nil => exact (Bool.and_false _).symm
  | cons event events ih =>
    have themes := follow.1.is_theming_eq
    have eitherThemes : Event.isThemed (event :: events) =
        (event.isTheming || Event.isThemed events) := rfl
    have nowThemed : Event.isThemed (event :: past) = (event.isTheming || Event.isThemed past) := rfl
    rw [unthemed, Bool.not_false, Bool.and_true] at themes
    rw [eitherThemes, List.any_cons]
    cases now : event.isTheming with
    | true =>
      rw [now] at themes
      obtain ⟨isLexed, unfound⟩ := Bool.and_eq_true_iff.mp themes.symm
      rw [isLexed, unfound]
      rfl
    | false =>
      rw [now, unthemed] at nowThemed
      rw [now] at themes
      rw [ih follow.2 nowThemed]
      cases unfound : theming.found.isNone with
      | false => rfl
      | true =>
        rw [unfound, Bool.and_true] at themes
        rw [← themes]
        rfl

theorem repair_is_other (index width actual : Nat) :
    (LogLine.mk .warning (Walk.repair index width actual)).warnsOfTheme = false := by
  have begins : BeginsWith 'T' "Table row " := rfl
  have rowBegins := (begins.append (toString index)).append " has "
  have cellsBegin := (rowBegins.append (toString actual)).append " cells, expected "
  have widthBegins := (cellsBegin.append (toString width)).append "; "
  exact LogLine.warns_of_theme_of_first (widthBegins.append _) (by decide)

theorem warnings_sought (theme : Option String) (lexicon : Lexicon) (seen : List String) :
    (((fresh theme).sought lexicon).lines seen).filter LogLine.warnsOfTheme =
      (fresh theme).complaints lexicon := by
  cases theme with
  | none => rfl
  | some name =>
    have warns : (LogLine.mk .warning
        s!"Unknown highlight theme '{name}', code spans will not be coloured").warnsOfTheme = true := by
      simp [LogLine.warnsOfTheme, toString]
    simp only [fresh, sought, complaints, Event.lines]
    cases (lexicon.themes.lookup name).isSome with
    | true => rfl
    | false => exact List.filter_cons_of_pos warns

theorem warnings_lookups (theming : Theming) (lexicon : Lexicon) (past : List Event)
    (seen : List String) :
    (Event.log seen (theming.lookups lexicon past)).filter LogLine.warnsOfTheme =
      if Event.isThemed past then [] else theming.complaints lexicon := by
  obtain ⟨theme, found⟩ := theming
  rw [lookups]
  cases found with
  | some found =>
    cases Event.isThemed past <;> rfl
  | none =>
    cases Event.isThemed past with
    | true => rfl
    | false => exact (congrArg _ (List.append_nil _)).trans (warnings_sought theme lexicon seen)

theorem Meets.warnings {event : Event} (meets : theming.Meets lexicon past event) (seen : List String) :
    (event.lines seen).filter LogLine.warnsOfTheme =
      if event.isTheming then theming.complaints lexicon else [] := by
  cases meets with
  | remark remark =>
    obtain ⟨level, message, rfl, other⟩ := remark
    exact List.filter_cons_of_neg (Bool.eq_false_iff.mp other)
  | kind kind =>
    rw [Event.lines]
    split <;> rfl
  | repair index width actual =>
    exact List.filter_cons_of_neg (Bool.eq_false_iff.mp (repair_is_other index width actual))
  | call source language =>
    rw [Event.lines, Event.isTheming]
    cases (lexicon.lexer? language).isSome with
    | false => rfl
    | true =>
      rw [if_pos rfl, warnings_lookups, any_is_theme_lookup_lookups]
      obtain ⟨theme, found⟩ := theming
      cases found with
      | none => cases Event.isThemed past <;> rfl
      | some found => cases Event.isThemed past <;> rfl

theorem warnings_log {events : List Event} (follow : Follow (theming.Meets lexicon) past events)
    (seen : List String) :
    (Event.log seen events).filter LogLine.warnsOfTheme =
      if Event.isThemed past || !Event.isThemed events then [] else theming.complaints lexicon := by
  induction events generalizing past seen with
  | nil => exact (if_pos (Bool.or_true _)).symm
  | cons event events ih =>
    have themes := follow.1.is_theming_eq
    have eitherThemes : Event.isThemed (event :: events) =
        (event.isTheming || Event.isThemed events) := rfl
    have nowThemed : Event.isThemed (event :: past) = (event.isTheming || Event.isThemed past) := rfl
    rw [Event.log, List.filter_append, follow.1.warnings, ih follow.2, eitherThemes, nowThemed]
    cases now : event.isTheming with
    | false => rfl
    | true =>
      -- An event that looks the theme up has no such event before it.
      rw [now] at themes
      have unthemed := (Bool.and_eq_true_iff.mp (Bool.and_eq_true_iff.mp themes.symm).2).2
      rw [Bool.not_eq_true'] at unthemed
      rw [unthemed]
      exact List.append_nil _

end Theming

structure Step where
  environment : Environment
  document : Option Node

-- Whether what a highlighter by lexers needs is installed.
def Step.IsInstalled (step : Step) : Prop :=
  step.environment.installation.require "syntax highlighter" highlightRequirements = .ok ⟨⟩

def Step.lexes (step : Step) (ending : Ending Compiled) : Bool :=
  ending.events.any step.environment.lexicon.isLexed

def Environment.withThemes (environment : Environment) (themes : List (String × Theme)) :
    Environment :=
  { environment with lexicon := { environment.lexicon with themes := themes } }

namespace Session

def answer (session : Session) (step : Step) : Ending Compiled :=
  (session.compile step.environment step.document).1.after []

def next (session : Session) (step : Step) : Session :=
  (session.compile step.environment step.document).2

def run (session : Session) : List Step → List (Ending Compiled)
  | [] => []
  | step :: steps => session.answer step :: (session.next step).run steps

def log (session : Session) (steps : List Step) : List LogLine :=
  (session.run steps).flatMap fun ending => Event.log [] ending.events

def lexingStep? (session : Session) (steps : List Step) : Option Nat :=
  ((session.run steps).zip steps).findIdx? fun answered => answered.2.lexes answered.1

-- The step whose themes decide at a step: the first that lexed, for those after it.
def themingStep (session : Session) (steps : List Step) (index : Nat) : Nat :=
  match session.lexingStep? steps with
  | none => index
  | some first => if first < index then first else index

section

variable (session : Session) (step : Step) (steps : List Step)

theorem lexing_step?_cons :
    session.lexingStep? (step :: steps) =
      if step.lexes (session.answer step) then some 0
      else ((session.next step).lexingStep? steps).map (· + 1) := by
  rw [lexingStep?, run, List.zip_cons_cons, List.findIdx?_cons]
  rfl

theorem log_cons :
    session.log (step :: steps) =
      Event.log [] (session.answer step).events ++ (session.next step).log steps := rfl

theorem theming_step_zero : session.themingStep steps 0 = 0 := by
  rw [themingStep]
  cases session.lexingStep? steps with
  | none => rfl
  | some first => exact if_neg (Nat.not_lt_zero first)

theorem theming_step_of_lexed {session : Session} {step : Step}
    (lexed : step.lexes (session.answer step) = true) (index : Nat) :
    session.themingStep (step :: steps) (index + 1) = 0 := by
  rw [themingStep, lexing_step?_cons, if_pos lexed]
  exact if_pos (Nat.succ_pos index)

theorem theming_step_of_unlexed {session : Session} {step : Step}
    (unlexed : step.lexes (session.answer step) = false) (index : Nat) :
    session.themingStep (step :: steps) (index + 1) =
      (session.next step).themingStep steps index + 1 := by
  rw [themingStep, lexing_step?_cons, if_neg (Bool.eq_false_iff.mp unlexed), themingStep]
  cases (session.next step).lexingStep? steps with
  | none => rfl
  | some first =>
    simp only [Option.map_some, Nat.add_lt_add_iff_right]
    split <;> rfl

end

def reusing (options : RenderOptions) (found : Option (Option Theme)) : Session :=
  ⟨options, .lexed ⟨options.theme, found⟩⟩

theorem new_is_reusing {options : Argument RenderOptions} {session : Session}
    (made : Session.new options none = .ok session) : ∃ rendering, session = reusing rendering none := by
  rw [Session.new] at made
  cases resolved : options.resolve "TreeCompiler" "RenderConfig" RenderOptions.default with
  | error failure =>
    rw [resolved] at made
    cases made
  | ok rendering =>
    rw [resolved] at made
    cases made
    exact ⟨rendering, rfl⟩

theorem compile_once_of_new {options : Argument RenderOptions} {session : Session}
    (made : Session.new options none = .ok session) (environment : Environment)
    (document : Option Node) :
    compileOnce environment options none document = (session.compile environment document).1 := by
  rw [compileOnce, made]
  exact Traced.pure_bind_value session _

theorem answer_meets (options : RenderOptions) (found : Option (Option Theme)) {step : Step}
    (installed : step.IsInstalled) :
    Follow (Theming.Meets ⟨options.theme, found⟩ step.environment.lexicon) []
      ((reusing options found).answer step).events := by
  refine compile_emits ⟨⟨fun _ _ => .remark, fun _ => .kind, fun _ => .repair⟩, ?_⟩ step.document []
  intro source language past named
  have events := lexed_events installed step.environment.lexicon ⟨options.theme, found⟩ source named past
  exact events ▸ .call source language

theorem answer_agrees (options : RenderOptions) (found : Option (Option Theme)) (step : Step)
    {themes : List (String × Theme)}
    (sameTheme : found.getD (step.environment.lexicon.theme? options.theme) =
      (step.environment.withThemes themes).lexicon.theme? options.theme) :
    ((reusing options found).answer step).outcome =
      ((reusing options none).compile (step.environment.withThemes themes) step.document).1.outcome := by
  have sameLexers :
      step.environment.lexicon.lexer? = (step.environment.withThemes themes).lexicon.lexer? := rfl
  have sameCurrent : Theming.current ⟨options.theme, found⟩ step.environment.lexicon =
      (Theming.fresh options.theme).current (step.environment.withThemes themes).lexicon := sameTheme
  have highlightersAgree := lexed_agrees sameLexers sameCurrent step.environment.installation
  have walksAlike : ((reusing options found).walk step.environment).Alike
      ((reusing options none).walk (step.environment.withThemes themes)) :=
    ⟨rfl, Walk.picture_alike ((reusing options found).walk step.environment), highlightersAgree⟩
  exact compile_alike walksAlike step.document [] []

section

variable (options : RenderOptions)

theorem next_of_found (theme : Option Theme) (step : Step) :
    (reusing options (some theme)).next step = reusing options (some theme) := by
  have kept (events : List Event) :
      Theming.after ⟨options.theme, some theme⟩ step.environment.lexicon events =
        ⟨options.theme, some theme⟩ := by
    rw [Theming.after]
    split <;> rfl
  exact congrArg (fun theming => (⟨options, .lexed theming⟩ : Session)) (kept _)

theorem is_themed_answer {step : Step} (installed : step.IsInstalled) :
    Event.isThemed ((reusing options none).answer step).events =
      step.lexes ((reusing options none).answer step) :=
  Theming.is_themed_of_follow (answer_meets options none installed) rfl

theorem next_of_unfound {step : Step} (installed : step.IsInstalled) :
    (reusing options none).next step =
      reusing options
        (if step.lexes ((reusing options none).answer step) then
          some (step.environment.lexicon.theme? options.theme) else none) := by
  have next : (reusing options none).next step =
      ⟨options, .lexed ((Theming.fresh options.theme).after step.environment.lexicon
        ((reusing options none).answer step).events)⟩ := rfl
  rw [next, Theming.after, is_themed_answer options installed]
  cases step.lexes ((reusing options none).answer step) with
  | true => rfl
  | false => rfl

theorem run_of_found (theme : Option Theme) (steps : List Step) :
    (reusing options (some theme)).run steps = steps.map (reusing options (some theme)).answer := by
  induction steps with
  | nil => rfl
  | cons step steps ih => rw [run, next_of_found, ih, List.map_cons]

theorem run_of_unfound {steps : List Step} (installed : ∀ step ∈ steps, step.IsInstalled)
    {index : Nat} {step : Step} (present : steps[index]? = some step) :
    ∃ source ending,
      steps[(reusing options none).themingStep steps index]? = some source ∧
      ((reusing options none).run steps)[index]? = some ending ∧
      ending.outcome = ((reusing options none).compile
        (step.environment.withThemes source.environment.lexicon.themes) step.document).1.outcome := by
  induction steps generalizing index with
  | nil => cases present
  | cons first steps ih =>
    obtain ⟨firstInstalled, restInstalled⟩ := List.forall_mem_cons.mp installed
    have next := next_of_unfound options firstInstalled
    cases index with
    | zero =>
      cases present
      refine ⟨step, _, ?_, rfl, rfl⟩
      rw [theming_step_zero]
      rfl
    | succ index =>
      have later : steps[index]? = some step := present
      cases lexed : first.lexes ((reusing options none).answer first) with
      | true =>
        -- From here on the session has what the first step found.
        rw [lexed, if_pos rfl] at next
        have foundAgrees := answer_agrees options
          (some (first.environment.lexicon.theme? options.theme)) step rfl
        refine ⟨first, _, ?_, ?_, foundAgrees⟩
        · rw [theming_step_of_lexed steps lexed]
          rfl
        · rw [run, next, run_of_found, List.getElem?_cons_succ, List.getElem?_map, later]
          rfl
      | false =>
        rw [lexed, if_neg Bool.false_ne_true] at next
        obtain ⟨source, ending, sourcePresent, endingPresent, answered⟩ := ih restInstalled later
        refine ⟨source, ending, ?_, ?_, answered⟩
        · rw [theming_step_of_unlexed steps lexed, next, List.getElem?_cons_succ]
          exact sourcePresent
        · rw [run, next, List.getElem?_cons_succ]
          exact endingPresent

theorem warnings_of_found {steps : List Step} (installed : ∀ step ∈ steps, step.IsInstalled)
    (theme : Option Theme) :
    ((reusing options (some theme)).log steps).filter LogLine.warnsOfTheme = [] := by
  induction steps with
  | nil => rfl
  | cons step steps ih =>
    obtain ⟨stepInstalled, restInstalled⟩ := List.forall_mem_cons.mp installed
    have meets := answer_meets options (some theme) stepInstalled
    rw [log_cons, next_of_found, List.filter_append, ih restInstalled,
      Theming.warnings_log meets, List.append_nil]
    split <;> rfl

theorem warnings_of_unfound {steps : List Step} (installed : ∀ step ∈ steps, step.IsInstalled) :
    ((reusing options none).log steps).filter LogLine.warnsOfTheme =
      (((reusing options none).lexingStep? steps).bind (steps[·]?)).toList.flatMap fun step =>
        (Theming.fresh options.theme).complaints step.environment.lexicon := by
  induction steps with
  | nil => rfl
  | cons step steps ih =>
    obtain ⟨stepInstalled, restInstalled⟩ := List.forall_mem_cons.mp installed
    have meets := answer_meets options none stepInstalled
    have next := next_of_unfound options stepInstalled
    rw [log_cons, lexing_step?_cons, List.filter_append, Theming.warnings_log meets,
      is_themed_answer options stepInstalled]
    cases lexed : step.lexes ((reusing options none).answer step) with
    | true =>
      rw [lexed, if_pos rfl] at next
      rw [next, warnings_of_found options restInstalled]
      rfl
    | false =>
      rw [lexed, if_neg Bool.false_ne_true] at next
      rw [next, ih restInstalled, if_neg Bool.false_ne_true, Option.bind_map]
      rfl

theorem length_warnings {steps : List Step} (installed : ∀ step ∈ steps, step.IsInstalled) :
    (((reusing options none).log steps).filter LogLine.warnsOfTheme).length ≤ 1 := by
  rw [warnings_of_unfound options installed]
  cases (reusing options none).lexingStep? steps |>.bind (steps[·]?) with
  | none => exact Nat.zero_le 1
  | some step =>
    rw [Option.toList_some, List.flatMap_singleton]
    exact Theming.length_complaints _ _

theorem warns_iff {steps : List Step} (installed : ∀ step ∈ steps, step.IsInstalled) :
    (∃ line ∈ (reusing options none).log steps, line.warnsOfTheme = true) ↔
      ∃ first step name, (reusing options none).lexingStep? steps = some first ∧
        steps[first]? = some step ∧ options.theme = some name ∧
        step.environment.lexicon.themes.lookup name = none := by
  have someWarning : (∃ line ∈ (reusing options none).log steps, line.warnsOfTheme = true) ↔
      ((reusing options none).log steps).filter LogLine.warnsOfTheme ≠ [] := by
    simp [List.filter_eq_nil_iff]
  rw [someWarning, warnings_of_unfound options installed]
  constructor
  · intro warned
    cases lexing : (reusing options none).lexingStep? steps with
    | none =>
      rw [lexing] at warned
      exact absurd rfl warned
    | some first =>
      cases present : steps[first]? with
      | none =>
        rw [lexing, Option.bind_some, present] at warned
        exact absurd rfl warned
      | some step =>
        rw [lexing, Option.bind_some, present, Option.toList_some, List.flatMap_singleton,
          Theming.complaints_fresh_iff] at warned
        obtain ⟨name, asked, missing⟩ := warned
        exact ⟨first, step, name, rfl, present, asked, missing⟩
  · rintro ⟨first, step, name, lexing, present, asked, missing⟩
    rw [lexing, Option.bind_some, present, Option.toList_some, List.flatMap_singleton,
      Theming.complaints_fresh_iff]
    exact ⟨name, asked, missing⟩

end

end Session

-- Every step is answered as by a new session under the same options, with the themes of the step that
-- decides for it. At most one line warns of a theme, and one does exactly if there is a step that lexes
-- and the theme asked for is not among its themes.
theorem run_answers {options : Argument RenderOptions} {session : Session}
    (made : Session.new options none = .ok session) {steps : List Step}
    (installed : ∀ step ∈ steps, step.IsInstalled) :
    (∀ index step, steps[index]? = some step → ∃ source ending,
      steps[session.themingStep steps index]? = some source ∧
      (session.run steps)[index]? = some ending ∧
      ending.outcome = (compileOnce
        (step.environment.withThemes source.environment.lexicon.themes) options none
          step.document).outcome) ∧
    ((session.log steps).filter LogLine.warnsOfTheme).length ≤ 1 ∧
    ((∃ line ∈ session.log steps, line.warnsOfTheme = true) ↔
      ∃ first step name, session.lexingStep? steps = some first ∧ steps[first]? = some step ∧
        session.options.theme = some name ∧ step.environment.lexicon.themes.lookup name = none) := by
  obtain ⟨rendering, rfl⟩ := Session.new_is_reusing made
  refine ⟨?_, ?_, ?_⟩
  · intro index step present
    simp only [Session.compile_once_of_new made]
    exact Session.run_of_unfound rendering installed present
  · exact Session.length_warnings rendering installed
  · exact Session.warns_iff rendering installed

def RenderOptions.dusky : RenderOptions := { RenderOptions.default with theme := some "dusk" }

def Lexer.ofLetters : Lexer := fun source =>
  ⟨source.toList.map fun c => (if c.isDigit then "Token.Number" else "Token.Name", String.ofList [c]), none⟩

def Step.withLateTheme : List Step :=
  let code : Node := .codeBlock "x1" (some "py") []
  let lexers (language : String) := if language = "py" then some Lexer.ofLetters else none
  let files : Files := ⟨"/", []⟩
  let installation : Installation := ⟨["pygments"], [("Pygments", "dev")]⟩
  let dusk : Theme := [("Token.Name", ⟨some "f00", true, false, false⟩)]
  [⟨⟨⟨fun _ => none, []⟩, files, installation⟩, some (.document [code] [])⟩,
    ⟨⟨⟨lexers, []⟩, files, installation⟩, some (.document [code, .text "t" []] [])⟩,
    ⟨⟨⟨lexers, [("dusk", dusk)]⟩, files, installation⟩, some (.document [code] [])⟩]

theorem run_answers_with_late_theme :
    Session.new (.given .dusky) none = .ok (Session.reusing .dusky none) ∧
      (∀ step ∈ Step.withLateTheme, step.IsInstalled) ∧
      (Session.reusing .dusky none).lexingStep? Step.withLateTheme = some 1 ∧
      ((Session.reusing .dusky none).run Step.withLateTheme).map Ending.outcome =
        [.ok ⟨⟨[.code [Span.plain "x1"] (some "py")]⟩, [], []⟩,
          .error (.contract "text" "block content"),
          .ok ⟨⟨[.code [Span.tagged "x" "name", Span.tagged "1" "number"] (some "py")]⟩, [], []⟩] ∧
      (∃ step source ending, Step.withLateTheme[2]? = some step ∧
        Step.withLateTheme[1]? = some source ∧
        ((Session.reusing .dusky none).run Step.withLateTheme)[2]? = some ending ∧
        ending.outcome = (compileOnce
          (step.environment.withThemes source.environment.lexicon.themes) (.given .dusky) none
            step.document).outcome) ∧
      (((Session.reusing .dusky none).log Step.withLateTheme).filter LogLine.warnsOfTheme).length ≤ 1 ∧
      ∃ line ∈ (Session.reusing .dusky none).log Step.withLateTheme, line.warnsOfTheme = true := by
  have made : Session.new (.given .dusky) none = .ok (Session.reusing .dusky none) := rfl
  have installed : ∀ step ∈ Step.withLateTheme, step.IsInstalled := by
    simp only [Step.withLateTheme, List.forall_mem_cons]
    exact ⟨rfl, rfl, rfl, nofun⟩
  have lexing : (Session.reusing .dusky none).lexingStep? Step.withLateTheme = some 1 := rfl
  obtain ⟨answers, atMostOne, warnedIff⟩ := run_answers made installed
  obtain ⟨source, ending, sourcePresent, endingPresent, answered⟩ := answers 2 _ rfl
  have warned := warnedIff.mpr ⟨1, _, "dusk", lexing, rfl, rfl, rfl⟩
  exact ⟨made, installed, lexing, rfl, ⟨_, source, ending, rfl, sourcePresent, endingPresent, answered⟩,
    atMostOne, warned⟩

end MarkdownView
