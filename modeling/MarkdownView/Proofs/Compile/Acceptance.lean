import MarkdownView.Proofs.Compile.Content
import MarkdownView.Proofs.Compile.Failures
import MarkdownView.Proofs.Highlight.Drafts
set_option autoImplicit false

namespace MarkdownView

def Leaf.suits : Leaf → Bool
  | .text _ => true
  | .embedded node => node.isEmbedded

namespace Node

mutual

theorem leaves_suit (node : Node) : (leaves node).all Leaf.suits = suitsText node := by
  cases node with
  | emphasis content metadata => exact leaves_of_suit content
  | strong content metadata => exact leaves_of_suit content
  | strike content metadata => exact leaves_of_suit content
  | link url content title metadata =>
    cases content with
    | nil => rfl
    | cons node nodes => exact leaves_of_suit (node :: nodes)
  | _ => rfl
termination_by structural node

theorem leaves_of_suit (nodes : List Node) : (leavesOf nodes).all Leaf.suits = suitTexts nodes := by
  cases nodes with
  | nil => rfl
  | cons node nodes =>
    rw [leavesOf, List.all_append, leaves_suit node, leaves_of_suit nodes, suitTexts]
termination_by structural nodes

end

end Node

theorem Reads.suit {embed : Embed} {leaves : List Leaf} {pieces : List Piece} {events : List Event}
    (reads : Reads embed leaves pieces events) : leaves.all Leaf.suits = true := by
  induction reads with
  | nil => rfl
  | text _ ih => exact ih
  | embedded embedded _ _ ih => rw [List.all_cons, Leaf.suits, embedded, ih, Bool.and_self]

def Setting.suits : Setting → List Node → Bool
  | .block => Node.suitBlocks
  | .item => Node.suitItems

theorem Setting.suits_cons (setting : Setting) (node : Node) (nodes : List Node) :
    setting.suits (node :: nodes) = (setting.suits [node] && setting.suits nodes) := by
  cases setting with
  | block => simp [Setting.suits, Node.suitBlocks]
  | item => simp [Setting.suits, Node.suitItems]

namespace Walk

theorem inline_suits {walk : Walk} {content : List Node} {children : List Inline}
    {past events : List Event} (yields : (walk.inline content).Yields past children events) :
    Node.suitTexts content = true := by
  obtain ⟨pieces, reads, _⟩ := inline_reads yields
  rw [← Node.leaves_of_suit]
  exact reads.suit

theorem CompilesRow.suit {walk : Walk} {row : List (Option TableCell)} {cells : List Cell}
    {events : List Event} (compiles : CompilesRow walk row cells events) :
    ∀ cell, some cell ∈ row → Node.suitTexts cell.content = true := by
  induction compiles with
  | nil => simp
  | padding _ ih =>
    intro cell member
    exact ih cell (by simpa using member)
  | cell first _ ih =>
    intro cell member
    rcases List.mem_cons.mp member with same | later
    · obtain rfl := Option.some.inj same
      exact inline_suits first
    · exact ih cell later

theorem CompilesRows.suit {walk : Walk} {rows : List (List (Option TableCell))}
    {result : List (List Cell)} {events : List Event}
    (compiles : CompilesRows walk rows result events) :
    ∀ row ∈ rows, ∀ cell, some cell ∈ row → Node.suitTexts cell.content = true := by
  induction compiles with
  | nil => simp
  | cons first _ ih => exact List.forall_mem_cons.mpr ⟨first.suit, ih⟩

theorem mem_fitted_of_kept {width : Nat} {cells : List TableCell} {cell : TableCell}
    (kept : cell ∈ cells.take width) : some cell ∈ fitted width cells :=
  List.mem_append_left _ (List.mem_map_of_mem kept)

theorem table_suits {walk : Walk} {header : Option Node} {body : List Node}
    {alignments : List (Option String)} {headerRow : Option (List TableCell)}
    {bodyRows : List (List TableCell)} {headerCells : Option (List Cell)} {rows : List (List Cell)}
    {headerEvents rowEvents : List Event} (headerRead : headerOf header = .ok headerRow)
    (bodyRead : body.mapM (cellsOf "table") = .ok bodyRows)
    (compiles : CompilesTable walk headerRow bodyRows (width headerRow alignments bodyRows)
      headerCells rows headerEvents rowEvents) : Node.suitsTable header body alignments = true := by
  refine suits_table_iff.mpr ⟨headerRow, bodyRows, headerRead, bodyRead, ?_, ?_⟩
  · intro cells cellsMember cell member
    refine compiles.headerCompiles.suit (cells.map some) ?_ cell (List.mem_map_of_mem member)
    exact List.mem_map_of_mem (Option.mem_toList.mpr cellsMember)
  · intro row rowMember cell kept
    refine compiles.rowsCompile.suit (fitted _ row) ?_ cell (mem_fitted_of_kept kept)
    exact List.mem_map_of_mem rowMember

theorem Compiles.suits {walk : Walk} {setting : Setting} {quotes lists : Int} {nodes : List Node}
    {visuals : List Visual} {events : List Event}
    (compiles : Compiles walk setting quotes lists nodes visuals events) :
    setting.suits nodes = true := by
  induction compiles with
  | @nil setting => cases setting <;> rfl
  | cons _ _ firstIh restIh => rw [Setting.suits_cons, firstIh, restIh, Bool.and_self]
  | heading _ contentYields =>
    have suits := inline_suits contentYields
    simp [Setting.suits, Node.suitBlocks, Node.suitsBlock, suits]
  | paragraph contentYields =>
    have suits := inline_suits contentYields
    simp [Setting.suits, Node.suitBlocks, Node.suitsBlock, suits]
  | code => rfl
  | quote _ _ _ ih => simpa [Setting.suits, Node.suitBlocks, Node.suitsBlock] using ih
  | list _ _ ih => simpa [Setting.suits, Node.suitBlocks, Node.suitsBlock] using ih
  | item _ ih => simpa [Setting.suits, Node.suitItems, Node.suitsItem] using ih
  | table headerRead bodyRead table =>
    have suits := table_suits headerRead bodyRead table
    simp [Setting.suits, Node.suitBlocks, Node.suitsBlock, suits]
  | document _ ih => simpa [Setting.suits, Node.suitBlocks, Node.suitsBlock] using ih
  | thematicBreak => rfl
  | image => rfl
  | @unmodelled _ _ node embedded unmodelled =>
    have suits : Node.suitsBlock node = true := by
      cases node <;> simp_all [Node.suitsBlock, Node.isEmbedded, Node.isModelled]
    simp [Setting.suits, Node.suitBlocks, suits]

-- A walk that finds fault with nothing but the document: images are passed over, uneven rows are made
-- even, nothing is too deep, and the highlighter does its part.
structure IsIndulgent (walk : Walk) : Prop where
  ignores : walk.options.imageMode = .ignore
  evens : walk.options.isStrict = false
  anyQuotes : walk.options.maxQuoteDepth = none
  anyLists : walk.options.maxListDepth = none
  rebuilds : walk.highlighter.Rebuilds

theorem IsIndulgent.grants {walk : Walk} (indulgent : walk.IsIndulgent) {allowed : Failure → Prop}
    (inSequence : ∀ failure, allowed failure → allowed failure.inSequence) : walk.Grants allowed where
  inSequence := inSequence
  uneven strict := by simp [indulgent.evens] at strict
  quoteDepth depth := by
    rw [indulgent.anyQuotes]
    exact raises_only_ok _
  listDepth depth := by
    rw [indulgent.anyLists]
    exact raises_only_ok _
  pictures := picture_raises_only_of_ignored indulgent.ignores
  codes content language := by
    have highlightRaises :
        (highlight walk.highlighter true content (walk.language language)).RaisesOnly allowed :=
      highlight_of_rebuilds indulgent.rebuilds true content (walk.language language)
    exact Traced.raises_only_bind highlightRaises fun _ => Traced.raises_only_pure _

end Walk

def Failure.IsBreach (failure : Failure) : Prop := ∃ kind context, failure = .contract kind context

theorem in_sequence_is_breach (failure : Failure) (breach : failure.IsBreach) :
    failure.inSequence.IsBreach := by
  obtain ⟨kind, context, rfl⟩ := breach
  exact ⟨kind, context, rfl⟩

theorem in_compilation_is_breach (failure : Failure) (breach : failure.IsBreach) :
    failure.inCompilation.IsBreach := by
  obtain ⟨kind, context, rfl⟩ := breach
  exact ⟨kind, context, rfl⟩

-- Exactly the documents whose nodes all suit their places come to a result; the others break the
-- contract.
theorem compile_accepts {walk : Walk} (indulgent : walk.IsIndulgent) {children : List Node}
    (leveled : Node.everyOf Node.hasLevel children = true) (metadata : Metadata)
    (past : List Event) :
    (Node.suitBlocks children = true →
      ∃ compiled, ((compile walk (some (.document children metadata))).after past).outcome =
        .ok compiled) ∧
    (Node.suitBlocks children = false →
      ∃ kind context, ((compile walk (some (.document children metadata))).after past).outcome =
        .error (.contract kind context)) := by
  constructor
  · intro suit
    have failsWithNothing : walk.Grants fun _ => False := indulgent.grants fun _ => id
    have neverFails :
        (compile walk (some (.document children metadata))).RaisesOnly fun _ => False :=
      compile_raises_only failsWithNothing (fun _ => id) (.inl leveled) (.inl suit) metadata
    cases ended : ((compile walk (some (.document children metadata))).after past).outcome with
    | ok compiled => exact ⟨compiled, rfl⟩
    | error failure => exact absurd ended (neverFails past failure)
  · intro unsuited
    have breachesAllowed : AllowsBreaches Failure.IsBreach := fun kind context => ⟨kind, context, rfl⟩
    have onlyBreaches := compile_raises_only (indulgent.grants in_sequence_is_breach)
      in_compilation_is_breach (.inl leveled) (.inr breachesAllowed) metadata past
    cases ended : ((compile walk (some (.document children metadata))).after past).outcome with
    | ok compiled =>
      -- A walk that came through has met no node out of place.
      rcases compile_eq_ok ended with ⟨⟨⟩, _⟩ | ⟨_, _, visuals, events, ⟨⟩, compiles, _⟩
      have suit : Node.suitBlocks children = true := compiles.suits
      simp [suit] at unsuited
    | error failure =>
      obtain ⟨kind, context, rfl⟩ := onlyBreaches failure ended
      exact ⟨kind, context, rfl⟩

-- A walk that finds fault with documents only, with a highlighter that tells no two tokens apart.
def Walk.indulgent : Walk :=
  ⟨{ RenderOptions.default with isStrict := false, imageMode := .ignore }, ⟨"/", []⟩, ⟨[], []⟩,
    fun source _ => pure [.tuple [.text source, .text "text"]]⟩

theorem indulgent_is_indulgent : Walk.indulgent.IsIndulgent where
  ignores := rfl
  evens := rfl
  anyQuotes := rfl
  anyLists := rfl
  rebuilds source _ _ :=
    .inl ⟨_, [Span.tagged source "text"], rfl, rfl, String.empty_append⟩

def codeAndTable (firstRow : List Node) : List Node :=
  [.codeBlock "c" (some "py") [],
    .table none [.row firstRow false [],
      .row [.cell [] none [], .cell [.foreign "int"] none []] false []] [] []]

theorem compile_accepts_code_and_table :
    Walk.indulgent.IsIndulgent ∧
      (∃ compiled, ((compile Walk.indulgent (some (.document
        (codeAndTable [.cell [] none []]) []))).after []).outcome = .ok compiled) ∧
      ∃ kind context, ((compile Walk.indulgent (some (.document
        (codeAndTable [.cell [] none [], .cell [] none []]) []))).after []).outcome =
          .error (.contract kind context) :=
  ⟨indulgent_is_indulgent, (compile_accepts indulgent_is_indulgent (by decide) [] []).1 (by decide),
    (compile_accepts indulgent_is_indulgent (by decide) [] []).2 (by decide)⟩

end MarkdownView
