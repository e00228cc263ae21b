import MarkdownView.Proofs.Json.Printer
import MarkdownView.Proofs.Compile.Restoration
import MarkdownView.Visual.Printer
set_option autoImplicit false

namespace MarkdownView

open Json

theorem Span.is_exact_to_json (span : Span) : span.toJson.isExact = true := by
  obtain ⟨text, tag, color, bold, italic, underline⟩ := span
  cases color <;> cases bold <;> cases italic <;> cases underline <;> rfl

namespace Visual

theorem is_exact_shape (kind : String) (fields : List (String × Json)) :
    (shape kind fields).isExact = haveExact fields :=
  rfl

theorem is_exact_inline_json (content : Inline) : (inlineJson content).isExact = true := by
  cases content with
  | run run => simp [inlineJson, is_exact_shape, haveExact, isExact, is_exact_of_text?]
  | code text => rfl
  | picture picture =>
    simp [inlineJson, is_exact_shape, haveExact, isExact, is_exact_of_text?, is_exact_of_int?]
  | placeholder kind => rfl

theorem is_exact_cells_json (cells : List Cell) : (cellsJson cells).isExact = true :=
  have cellExact (cell : Cell) : (Json.list (cell.map inlineJson)).isExact = true :=
    are_exact_map is_exact_inline_json cell
  are_exact_map cellExact cells

mutual

def holdsTree : Visual → Bool
  | .quote _ children => holdTree children
  | .item children _ => holdTree children
  | .list _ items _ _ => holdTree items
  | .tree _ => true
  | _ => false
termination_by structural visual => visual

def holdTree : List Visual → Bool
  | [] => false
  | visual :: visuals => holdsTree visual || holdTree visuals
termination_by structural visuals => visuals

end

mutual

theorem is_exact_to_json {visual : Visual} (plain : visual.holdsTree = false) :
    visual.toJson.isExact = true := by
  cases visual with
  | inline content => exact is_exact_inline_json content
  | passage level children =>
    have childrenExact := are_exact_map is_exact_inline_json children
    simp [toJson, is_exact_shape, haveExact, isExact, childrenExact]
  | code spans language =>
    have spansExact := are_exact_map Span.is_exact_to_json spans
    simp [toJson, is_exact_shape, haveExact, isExact, spansExact, is_exact_of_text?]
  | quote depth children =>
    have childrenPlain : holdTree children = false := plain
    have childrenExact := are_exact_to_json_list childrenPlain
    simp [toJson, is_exact_shape, haveExact, isExact, childrenExact]
  | item children checked =>
    have childrenPlain : holdTree children = false := plain
    have childrenExact := are_exact_to_json_list childrenPlain
    have checkedExact : (ofOption .bool checked).isExact = true := is_exact_of_option (fun _ => rfl) checked
    simp [toJson, is_exact_shape, haveExact, isExact, childrenExact, checkedExact]
  | list ordered items start depth =>
    have itemsPlain : holdTree items = false := plain
    have itemsExact := are_exact_to_json_list itemsPlain
    simp [toJson, is_exact_shape, haveExact, isExact, itemsExact, is_exact_of_int?]
  | table columns rows header =>
    have columnsExact := are_exact_map is_exact_of_text? columns
    have rowsExact := are_exact_map is_exact_cells_json rows
    have headerExact := is_exact_of_option is_exact_cells_json header
    simp [toJson, is_exact_shape, haveExact, isExact, columnsExact, rowsExact, headerExact]
  | thematicBreak => rfl
  | tree children => cases plain
termination_by structural visual

theorem are_exact_to_json_list {visuals : List Visual} (plain : holdTree visuals = false) :
    areExact (toJsonList visuals) = true := by
  cases visuals with
  | nil => rfl
  | cons visual visuals =>
    obtain ⟨firstPlain, restPlain⟩ := Bool.or_eq_false_iff.mp plain
    exact Bool.and_eq_true_iff.mpr ⟨is_exact_to_json firstPlain, are_exact_to_json_list restPlain⟩
termination_by structural visuals

end

theorem fault?_shape (kind : String) (fields : List (String × Json)) :
    (shape kind fields).fault? = faultIn? fields :=
  rfl

mutual

theorem plain_of_fault? {visual : Visual} (unhindered : visual.toJson.fault? = none) :
    visual.holdsTree = false := by
  cases visual with
  | quote depth children =>
    simp only [toJson, fault?_shape, faultIn?, fault?, Option.or_eq_none_iff] at unhindered
    change holdTree children = false
    exact plain_of_fault_of? unhindered.2.1
  | item children checked =>
    simp only [toJson, fault?_shape, faultIn?, fault?, Option.or_eq_none_iff] at unhindered
    change holdTree children = false
    exact plain_of_fault_of? unhindered.1
  | list ordered items start depth =>
    simp only [toJson, fault?_shape, faultIn?, fault?, Option.or_eq_none_iff] at unhindered
    change holdTree items = false
    exact plain_of_fault_of? unhindered.2.1
  | tree children => cases unhindered
  | _ => rfl
termination_by structural visual

theorem plain_of_fault_of? {visuals : List Visual} (unhindered : faultOf? (toJsonList visuals) = none) :
    holdTree visuals = false := by
  cases visuals with
  | nil => rfl
  | cons visual visuals =>
    obtain ⟨firstUnhindered, restUnhindered⟩ := Option.or_eq_none_iff.mp unhindered
    exact Bool.or_eq_false_iff.mpr
      ⟨plain_of_fault? firstUnhindered, plain_of_fault_of? restUnhindered⟩
termination_by structural visuals

end

theorem is_tree_of_plain {visuals : List Visual} (plain : holdTree visuals = false) :
    visuals.any isTree = false := by
  induction visuals with
  | nil => rfl
  | cons visual visuals ih =>
    obtain ⟨firstPlain, restPlain⟩ := Bool.or_eq_false_iff.mp plain
    refine Bool.or_eq_false_iff.mpr ⟨?_, ih restPlain⟩
    cases visual <;> first | rfl | cases firstPlain

end Visual

def Tree.holdsTree (tree : Tree) : Bool := Visual.holdTree tree.children

theorem Tree.is_exact_to_json {tree : Tree} (plain : tree.holdsTree = false) :
    tree.toJson.isExact = true := by
  have childrenExact := Visual.are_exact_to_json_list plain
  simp [Tree.toJson, isExact, haveExact, childrenExact]

theorem Compiled.is_exact_to_json {compiled : Compiled} (plain : compiled.tree.holdsTree = false) :
    compiled.toJson.isExact = true := by
  have treeExact := Tree.is_exact_to_json plain
  have tallyExact (tally : String × Int) :
      (object [("kind", text tally.1), ("count", int tally.2)]).isExact = true := rfl
  have talliesExact := are_exact_map tallyExact compiled.diagnostics
  have warningExact (warning : String) : (text warning).isExact = true := rfl
  have warningsExact := are_exact_map warningExact compiled.warnings
  simp [Compiled.toJson, isExact, haveExact, treeExact, talliesExact, warningsExact]

theorem Tree.to_dict_eq_ok_iff {tree : Tree} {dict : Json} :
    tree.toDict = .ok dict ↔ tree.children.any Visual.isTree = false ∧ dict = tree.toJson := by
  rw [toDict]
  cases tree.children.any Visual.isTree <;> simp [eq_comm]

theorem Compiled.to_dict_eq_ok_iff {compiled : Compiled} {dict : Json} :
    compiled.toDict = .ok dict ↔
      compiled.tree.children.any Visual.isTree = false ∧ dict = compiled.toJson := by
  rw [toDict, Tree.toDict]
  cases compiled.tree.children.any Visual.isTree <;> simp [Except.map, eq_comm]

theorem Tree.plain_of_fault? {tree : Tree} (unhindered : tree.toJson.fault? = none) :
    tree.holdsTree = false := by
  simp only [Tree.toJson, fault?, faultIn?, Option.or_eq_none_iff] at unhindered
  exact Visual.plain_of_fault_of? unhindered.2.1

theorem Compiled.plain_of_fault? {compiled : Compiled} (unhindered : compiled.toJson.fault? = none) :
    compiled.tree.holdsTree = false := by
  simp only [Compiled.toJson, fault?, faultIn?, Option.or_eq_none_iff] at unhindered
  exact Tree.plain_of_fault? unhindered.1

theorem Json.fault?_of_dump {value : Json} {indent : Option Int} {text : String}
    (dumped : value.dump indent = .ok text) : value.fault? = none := by
  rw [dump] at dumped
  grind

-- Something is written exactly if it fits, and what is written is one text for what was to be written and
-- for nothing else.
structure ReadsBack (converted : Except Failure Json) (written : Except Failure String) (fits : Prop) :
    Prop where
  succeeds : (∃ text, written = .ok text) ↔ fits
  reads : ∀ text, written = .ok text → ∃ dict, converted = .ok dict ∧
    (∀ value, IsText value text ↔ value = dict) ∧ parse? text = some dict

theorem dump_reads_back {converted : Except Failure Json} {full : Json} {nested : Bool} {plain : Prop}
    (converts : ∀ dict, converted = .ok dict ↔ nested = false ∧ dict = full)
    (flat : plain → nested = false) (isExact : plain → full.isExact = true)
    (unhindered : full.fault? = none → plain) (indent : Option Int) :
    ReadsBack converted (converted >>= fun dict => dict.dump indent)
      (plain ∧ indent.all isIndex = true ∧ full.IsShort) := by
  have dumpedOf {text : String} (written : (converted >>= fun dict => dict.dump indent) = .ok text) :
      converted = .ok full ∧ plain ∧ full.dump indent = .ok text := by
    obtain ⟨dict, convertedEq, dumped⟩ := bind_eq_ok_iff.mp written
    obtain ⟨_, rfl⟩ := (converts dict).mp convertedEq
    exact ⟨convertedEq, unhindered (Json.fault?_of_dump dumped), dumped⟩
  constructor
  · constructor
    · rintro ⟨text, written⟩
      obtain ⟨_, isPlain, dumped⟩ := dumpedOf written
      have fits := (dump_eq_ok_iff (isExact isPlain)).mp dumped
      exact ⟨isPlain, fits.1, fits.2.1⟩
    · rintro ⟨isPlain, inRange, short⟩
      have convertedEq := (converts full).mpr ⟨flat isPlain, rfl⟩
      have dumped := (dump_eq_ok_iff (isExact isPlain)).mpr ⟨inRange, short, rfl⟩
      exact ⟨_, bind_eq_ok_iff.mpr ⟨full, convertedEq, dumped⟩⟩
  · intro text written
    obtain ⟨convertedEq, isPlain, dumped⟩ := dumpedOf written
    obtain ⟨_, _, rfl⟩ := (dump_eq_ok_iff (isExact isPlain)).mp dumped
    exact ⟨full, convertedEq, is_text_print_iff _ (isExact isPlain), parse?_print _ (isExact isPlain)⟩

-- A tree, or an outcome, is written if no tree stands inside the tree and if neither the indent nor a
-- number is too long; and then its text reads back as the dictionary that it is written from.
theorem serialize_reads_back (indent : Option Int) :
    (∀ compiled : Compiled, ReadsBack compiled.toDict (compiled.serialize indent)
      (compiled.tree.holdsTree = false ∧ indent.all isIndex = true ∧ compiled.toJson.IsShort)) ∧
    (∀ tree : Tree, ReadsBack tree.toDict (tree.serialize indent)
      (tree.holdsTree = false ∧ indent.all isIndex = true ∧ tree.toJson.IsShort)) := by
  constructor
  · intro compiled
    exact dump_reads_back (fun _ => Compiled.to_dict_eq_ok_iff) Visual.is_tree_of_plain
      Compiled.is_exact_to_json Compiled.plain_of_fault? indent
  · intro tree
    exact dump_reads_back (fun _ => Tree.to_dict_eq_ok_iff) Visual.is_tree_of_plain
      Tree.is_exact_to_json Tree.plain_of_fault? indent

-- A document inside a document compiles to a tree inside a tree, which is not written at all.
theorem serialize_fails_inner_tree :
    ((compile Walk.bare (some (.document [.document [] []] []))).after []).outcome =
        .ok ⟨⟨[.tree []]⟩, [], []⟩ ∧
      Compiled.serialize ⟨⟨[.tree []]⟩, [], []⟩ none =
        .error (.noAttribute "VisualTree" "kind") := by
  constructor
  · rfl
  · rfl

end MarkdownView
