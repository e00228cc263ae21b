import MarkdownView.Proofs.Json.Same
import MarkdownView.Visual.Printer
set_option autoImplicit false

namespace MarkdownView

open Json

namespace Span

def mark? (on : Bool) : Option Json := if on then some (.bool true) else none

theorem fields_to_json (span : Span) :
    span.toJson.field? "text" = some (.text span.text) ∧
    span.toJson.field? "highlight_tag" = some (.text span.looks.tag) ∧
    span.toJson.field? "color" = span.looks.color.map .text ∧
    span.toJson.field? "bold" = mark? span.looks.bold ∧
    span.toJson.field? "italic" = mark? span.looks.italic ∧
    span.toJson.field? "underline" = mark? span.looks.underline := by
  obtain ⟨text, tag, color, bold, italic, underline⟩ := span
  cases color <;> cases bold <;> cases italic <;> cases underline <;>
    exact ⟨rfl, rfl, rfl, rfl, rfl, rfl⟩

theorem eq_of_marks {on on' : Bool} (same : Option.Rel Same (mark? on) (mark? on')) : on = on' := by
  cases on <;> cases on' <;> first | rfl | cases same

theorem eq_of_colors {color color' : Option String}
    (same : Option.Rel Same (color.map .text) (color'.map .text)) : color = color' := by
  cases color with
  | none =>
    cases color' with
    | none => rfl
    | some color' => cases same
  | some color =>
    cases color' with
    | none => cases same
    | some color' =>
      cases same with
      | some textSame => exact congrArg some (tells_apart_text textSame)

theorem tells_apart_to_json : TellsApart toJson := by
  intro a b same
  obtain ⟨textFound, tagFound, colorFound, boldFound, italicFound, underlineFound⟩ :=
    fields_to_json a
  obtain ⟨textFound', tagFound', colorFound', boldFound', italicFound', underlineFound'⟩ :=
    fields_to_json b
  have textEq := tells_apart_text (same.field "text" textFound textFound')
  have tagEq := tells_apart_text (same.field "highlight_tag" tagFound tagFound')
  have colorEq := eq_of_colors (colorFound ▸ colorFound' ▸ same.field? "color")
  have boldEq := eq_of_marks (boldFound ▸ boldFound' ▸ same.field? "bold")
  have italicEq := eq_of_marks (italicFound ▸ italicFound' ▸ same.field? "italic")
  have underlineEq := eq_of_marks (underlineFound ▸ underlineFound' ▸ same.field? "underline")
  obtain ⟨text, looks⟩ := a
  obtain ⟨text', looks'⟩ := b
  cases looks
  cases looks'
  simp_all only

end Span

namespace Visual

inductive Akin : Visual → Visual → Prop where
  | run {run run' : Run} : Akin (.inline (.run run)) (.inline (.run run'))
  | inlineCode {text text' : String} : Akin (.inline (.code text)) (.inline (.code text'))
  | picture {picture picture' : Picture} :
      Akin (.inline (.picture picture)) (.inline (.picture picture'))
  | placeholder {kind kind' : String} :
      Akin (.inline (.placeholder kind)) (.inline (.placeholder kind'))
  | passage {level level' : Int} {children children' : List Inline} :
      Akin (.passage level children) (.passage level' children')
  | code {spans spans' : List Span} {language language' : Option String} :
      Akin (.code spans language) (.code spans' language')
  | quote {depth depth' : Int} {children children' : List Visual} :
      Akin (.quote depth children) (.quote depth' children')
  | item {children children' : List Visual} {checked checked' : Option Bool} :
      Akin (.item children checked) (.item children' checked')
  | list {ordered ordered' : Bool} {items items' : List Visual} {start start' : Option Int}
      {depth depth' : Int} : Akin (.list ordered items start depth) (.list ordered' items' start' depth')
  | table {columns columns' : List (Option String)} {rows rows' : List (List Cell)}
      {header header' : Option (List Cell)} :
      Akin (.table columns rows header) (.table columns' rows' header')
  | thematicBreak : Akin .thematicBreak .thematicBreak
  | tree {children children' : List Visual} : Akin (.tree children) (.tree children')

theorem akin_of_kind_eq {a b : Visual} (kinds : a.kind = b.kind) : Akin a b := by
  rcases a with (_ | _ | _ | _) | _ | _ | _ | _ | _ | _ | _ | _ <;>
    rcases b with (_ | _ | _ | _) | _ | _ | _ | _ | _ | _ | _ | _ <;>
    first
    | constructor
    | simp [kind] at kinds

theorem field?_node_type {visual : Visual} (isNode : visual.isTree = false) :
    visual.toJson.field? "node_type" = some (.text visual.kind) := by
  rcases visual with (_ | _ | _ | _) | _ | _ | _ | _ | _ | _ | _ | _ <;> first | rfl | cases isNode

theorem akin_of_same {a b : Visual} (same : Same a.toJson b.toJson) : Akin a b := by
  cases isTree : a.isTree with
  | false =>
    have found := field?_node_type isTree
    cases isTree' : b.isTree with
    | false => exact akin_of_kind_eq (tells_apart_text (same.field "node_type" found (field?_node_type isTree')))
    | true =>
      cases b with
      | tree children =>
        have fieldsSame := same.field? "node_type"
        rw [found] at fieldsSame
        cases fieldsSame
      | _ => cases isTree'
  | true =>
    cases a with
    | tree children =>
      cases isTree' : b.isTree with
      | false =>
        have fieldsSame := same.field? "node_type"
        rw [field?_node_type isTree'] at fieldsSame
        cases fieldsSame
      | true =>
        cases b with
        | tree children' => exact .tree
        | _ => cases isTree'
    | _ => cases isTree

theorem Akin.inline {content : Inline} {b : Visual} (akin : Akin (.inline content) b) :
    ∃ content', b = .inline content' := by
  cases akin <;> exact ⟨_, rfl⟩

theorem tells_apart_inline_json : TellsApart inlineJson := by
  intro a b same
  have akin : Akin (.inline a) (.inline b) := akin_of_same same
  cases akin with
  | @run run run' =>
    have textEq := tells_apart_text (same.field "text" rfl rfl)
    have boldEq := tells_apart_bool (same.field "bold" rfl rfl)
    have italicEq := tells_apart_bool (same.field "italic" rfl rfl)
    have strikeEq := tells_apart_bool (same.field "strike" rfl rfl)
    have codeEq := tells_apart_bool (same.field "code" rfl rfl)
    have targetEq := tells_apart_text? (same.field "link_target" rfl rfl)
    cases run
    cases run'
    simp_all only
  | inlineCode => exact congrArg _ (tells_apart_text (same.field "text" rfl rfl))
  | @picture picture picture' =>
    have pathEq := tells_apart_text (same.field "resolved_path" rfl rfl)
    have altEq := tells_apart_text (same.field "alt" rfl rfl)
    have titleEq := tells_apart_text? (same.field "title" rfl rfl)
    have widthEq := tells_apart_int? (same.field "width" rfl rfl)
    have heightEq := tells_apart_int? (same.field "height" rfl rfl)
    cases picture
    cases picture'
    simp_all only
  | placeholder => exact congrArg _ (tells_apart_text (same.field "original_kind" rfl rfl))

theorem tells_apart_cells_json : TellsApart cellsJson :=
  tells_apart_inline_json.items.items

theorem cells_json_ne_null (cells : List Cell) : cellsJson cells ≠ .null := nofun

mutual

theorem eq_of_same_to_json (a b : Visual) (same : Same a.toJson b.toJson) : a = b := by
  have akin := akin_of_same same
  cases a with
  | inline content =>
    obtain ⟨content', rfl⟩ := akin.inline
    exact congrArg inline (tells_apart_inline_json same)
  | passage level children =>
    cases akin with
    | passage =>
      have levelEq := tells_apart_int (same.field "level" rfl rfl)
      have childrenEq := tells_apart_inline_json.items (same.field "children" rfl rfl)
      rw [levelEq, childrenEq]
  | code spans language =>
    cases akin with
    | code =>
      have spansEq := Span.tells_apart_to_json.items (same.field "spans" rfl rfl)
      have languageEq := tells_apart_text? (same.field "language" rfl rfl)
      rw [spansEq, languageEq]
  | quote depth children =>
    cases akin with
    | quote =>
      have depthEq := tells_apart_int (same.field "depth" rfl rfl)
      have childrenEq := eq_of_same_to_json_list children _ (same.field "children" rfl rfl).items
      rw [depthEq, childrenEq]
  | item children checked =>
    cases akin with
    | item =>
      have childrenEq := eq_of_same_to_json_list children _ (same.field "children" rfl rfl).items
      have checkedEq := tells_apart_bool? (same.field "checked" rfl rfl)
      rw [childrenEq, checkedEq]
  | list ordered items start depth =>
    cases akin with
    | list =>
      have orderedEq := tells_apart_bool (same.field "ordered" rfl rfl)
      have itemsEq := eq_of_same_to_json_list items _ (same.field "items" rfl rfl).items
      have startEq := tells_apart_int? (same.field "start" rfl rfl)
      have depthEq := tells_apart_int (same.field "depth" rfl rfl)
      rw [orderedEq, itemsEq, startEq, depthEq]
  | table columns rows header =>
    cases akin with
    | table =>
      have columnsEq := tells_apart_text?.items (same.field "columns" rfl rfl)
      have rowsEq := tells_apart_cells_json.items (same.field "rows" rfl rfl)
      have headerEq := (tells_apart_cells_json.of_option cells_json_ne_null) (same.field "header" rfl rfl)
      rw [columnsEq, rowsEq, headerEq]
  | thematicBreak =>
    cases akin with
    | thematicBreak => rfl
  | tree children =>
    cases akin with
    | tree => rw [eq_of_same_to_json_list children _ same.content.items]
termination_by structural a

theorem eq_of_same_to_json_list (as bs : List Visual)
    (each : List.Forall₂ Same (toJsonList as) (toJsonList bs)) : as = bs := by
  cases as with
  | nil =>
    cases bs with
    | nil => rfl
    | cons b bs => cases each
  | cons a as =>
    cases bs with
    | nil => cases each
    | cons b bs =>
      cases each with
      | cons firstSame restSame =>
        rw [eq_of_same_to_json a b firstSame, eq_of_same_to_json_list as bs restSame]
termination_by structural as

end

end Visual

theorem Tree.tells_apart_to_json : TellsApart Tree.toJson := by
  intro a b same
  have childrenEq := Visual.eq_of_same_to_json_list _ _ (same.field "children" rfl rfl).items
  exact congrArg Tree.mk childrenEq

def tallyJson (tally : String × Int) : Json :=
  .object [("kind", .text tally.1), ("count", .int tally.2)]

theorem tells_apart_tally_json : TellsApart tallyJson := by
  intro a b same
  exact Prod.ext (tells_apart_text (same.field "kind" rfl rfl)) (tells_apart_int (same.field "count" rfl rfl))

theorem Compiled.tells_apart_to_json : TellsApart Compiled.toJson := by
  intro a b same
  have treeEq := Tree.tells_apart_to_json (same.field "tree" rfl rfl)
  have diagnosticsEq := tells_apart_tally_json.items (same.field "diagnostics" rfl rfl)
  have warningsEq := tells_apart_text.items (same.field "warnings" rfl rfl)
  cases a
  cases b
  simp_all only

-- Outcomes, and trees, are equal exactly if they are written the same.
theorem same_to_json_iff :
    (∀ a b : Compiled, Same a.toJson b.toJson ↔ a = b) ∧
      (∀ a b : Tree, Same a.toJson b.toJson ↔ a = b) := by
  constructor
  · intro a b
    exact Compiled.tells_apart_to_json.same_iff a b
  · intro a b
    exact Tree.tells_apart_to_json.same_iff a b

end MarkdownView
