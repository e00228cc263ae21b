import MarkdownView.Highlight.Lexed
import MarkdownView.Proofs.Alike
set_option autoImplicit false

namespace MarkdownView

open Traced (alike_bind alike_steady)

namespace Theming

def sought (theming : Theming) (lexicon : Lexicon) : Event :=
  match theming.theme with
  | none => .themed "" true
  | some name => .themed name (lexicon.themes.lookup name).isSome

def lookups (theming : Theming) (lexicon : Lexicon) (past : List Event) : List Event :=
  if theming.found.isSome || Event.isThemed past then [] else [theming.sought lexicon]

def complaints (theming : Theming) (lexicon : Lexicon) : List LogLine :=
  match theming.found, theming.theme with
  | none, some name =>
    if (lexicon.themes.lookup name).isSome then []
    else [⟨.warning, s!"Unknown highlight theme '{name}', code spans will not be coloured"⟩]
  | _, _ => []

theorem look_up_eq (theming : Theming) (lexicon : Lexicon) :
    theming.lookUp lexicon = Traced.emit (theming.sought lexicon) := by
  rw [lookUp, sought]
  cases theming.theme <;> rfl

theorem is_theme_lookup_sought (theming : Theming) (lexicon : Lexicon) :
    (theming.sought lexicon).isThemeLookup = true := by
  rw [sought]
  cases theming.theme <;> rfl

theorem is_report_sought (theming : Theming) (lexicon : Lexicon) :
    (theming.sought lexicon).isReport = false := by
  rw [sought]
  cases theming.theme <;> rfl

theorem after_consult (theming : Theming) (lexicon : Lexicon) (past : List Event) :
    (theming.consult lexicon).after past =
      ⟨.ok (theming.current lexicon), theming.lookups lexicon past⟩ := by
  have seen : Traced.past.Yields past past [] := rfl
  rw [consult, Traced.after_bind_of_yields seen, List.nil_append, lookups]
  cases theming.found.isSome || Event.isThemed past with
  | true => rfl
  | false =>
    simp only [Bool.false_eq_true, if_false, look_up_eq]
    rfl

theorem reports_lookups (theming : Theming) (lexicon : Lexicon) (past : List Event) :
    Event.reports (theming.lookups lexicon past) = [] := by
  rw [lookups]
  split
  · rfl
  · exact List.filter_cons_of_neg (Bool.eq_false_iff.mp (is_report_sought theming lexicon))

theorem any_is_theme_lookup_lookups (theming : Theming) (lexicon : Lexicon) (past : List Event) :
    (theming.lookups lexicon past).any Event.isThemeLookup =
      (theming.found.isNone && !Event.isThemed past) := by
  rw [lookups]
  cases theming.found with
  | some theme => rfl
  | none =>
    cases Event.isThemed past with
    | true => rfl
    | false => exact (Bool.or_false _).trans (is_theme_lookup_sought theming lexicon)

theorem length_complaints (theming : Theming) (lexicon : Lexicon) :
    (theming.complaints lexicon).length ≤ 1 := by
  rw [complaints]
  split
  · split
    · exact Nat.zero_le 1
    · exact Nat.le_refl 1
  · exact Nat.zero_le 1

theorem complaints_fresh_iff (theme : Option String) (lexicon : Lexicon) :
    (fresh theme).complaints lexicon ≠ [] ↔
      ∃ name, theme = some name ∧ lexicon.themes.lookup name = none := by
  cases theme with
  | none => simp [complaints, fresh]
  | some name =>
    simp only [complaints, fresh]
    constructor
    · intro complains
      cases known : lexicon.themes.lookup name with
      | none => exact ⟨name, rfl, known⟩
      | some found =>
        rw [known] at complains
        exact absurd rfl complains
    · rintro ⟨_, ⟨rfl⟩, missing⟩
      rw [missing]
      exact List.cons_ne_nil _ _

theorem consult_alike {first second : Theming} {lexicon other : Lexicon}
    (sameTheme : first.current lexicon = second.current other) :
    (first.consult lexicon).Alike (second.consult other) := by
  intro past later
  rw [after_consult, after_consult, sameTheme]
  exact ⟨rfl, (reports_lookups first lexicon past).trans (reports_lookups second other later).symm⟩

end Theming

section

variable {lexicon other : Lexicon} {first second : Theming}
  (sameLexers : lexicon.lexer? = other.lexer?)
  (sameTheme : first.current lexicon = second.current other)

include sameLexers sameTheme

theorem lexed_spans_alike (installation : Installation) (source : String) (language : Option String) :
    (lexedSpans lexicon installation first source language).Alike
      (lexedSpans other installation second source language) := by
  refine alike_bind (alike_steady _) fun _ => ?_
  dsimp only
  rw [sameLexers]
  split
  · exact alike_steady _
  · split
    · exact alike_steady _
    · exact alike_bind (Theming.consult_alike sameTheme) fun _ => alike_steady _

theorem lexed_agrees (installation : Installation) :
    (lexed lexicon installation first).Agrees (lexed other installation second) := by
  intro source language past later
  have spansAlike := lexed_spans_alike sameLexers sameTheme installation source (some language)
  have itemsAlike := alike_bind spansAlike fun spans =>
    alike_steady ⟨.ok (spans.map Item.ofSpan), []⟩
  exact (itemsAlike past later).1

end

section

variable {installation : Installation}
  (installed : installation.require "syntax highlighter" highlightRequirements = .ok ⟨⟩)

include installed

theorem lexed_spans_of_installed (lexicon : Lexicon) (theming : Theming) (source : String)
    {language : String} (named : language ≠ "") :
    lexedSpans lexicon installation theming source (some language) =
      match lexicon.lexer? language with
      | none => Traced.fail (.noLexer language)
      | some lexer => theming.consult lexicon >>= fun theme =>
        Traced.ofExcept (spansOf theme (lexer source).fault (lexer source).tokens) := by
  rw [lexedSpans, installed]
  refine (Traced.pure_bind_value PUnit.unit _).trans ?_
  exact if_neg named

theorem lexed_events (lexicon : Lexicon) (theming : Theming) (source : String) {language : String}
    (named : language ≠ "") (past : List Event) :
    ((lexed lexicon installation theming source language).after past).events =
      if (lexicon.lexer? language).isSome then theming.lookups lexicon past else [] := by
  rw [lexed, lexed_spans_of_installed installed lexicon theming source named]
  cases known : lexicon.lexer? language with
  | none => rfl
  | some lexer =>
    have consulted := Theming.after_consult theming lexicon past
    have silent (spans : Except Failure (List Span)) (past : List Event) :
        ((Traced.ofExcept spans >>= fun spans => pure (spans.map Item.ofSpan)).after past).events =
          [] := by
      cases spans <;> rfl
    simp only [Traced.bind_bind, Traced.after_bind_of_yields consulted, silent, List.append_nil,
      Option.isSome_some, if_true]

end

end MarkdownView
