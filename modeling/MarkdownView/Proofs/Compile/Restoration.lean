import MarkdownView.Compile
import MarkdownView.Proofs.Trace
set_option autoImplicit false

namespace MarkdownView.Walk

mutual

def block (walk : Walk) (quotes lists : Int) : Node → Traced (Option Visual)
  | .document children _ => do
    let children ← walk.blocks quotes lists children
    pure (some (.tree children))
  | .quote children _ => do
    Traced.ofExcept (checkDepth "quote" (quotes + 1) walk.options.maxQuoteDepth)
    let children ← walk.blocks (quotes + 1) lists children
    let quote ← Traced.ofExcept (Visual.quote? (quotes + 1) children)
    pure (some quote)
  | .list ordered items start _ _ => do
    Traced.ofExcept (checkDepth "list" (lists + 1) walk.options.maxListDepth)
    let items ← walk.items quotes (lists + 1) items
    pure (some (.list ordered items (if ordered then start else none) (lists + 1)))
  | node => walk.leaf node
termination_by structural node => node

def blocks (walk : Walk) (quotes lists : Int) : List Node → Traced (List Visual)
  | [] => pure []
  | node :: nodes => do
    let first ← (walk.block quotes lists node).mapFailure Failure.inSequence
    let rest ← walk.blocks quotes lists nodes
    pure (first.toList ++ rest)
termination_by structural nodes => nodes

def item (walk : Walk) (quotes lists : Int) : Node → Traced Visual
  | .item children status _ => do
    let children ← walk.blocks quotes lists children
    pure (.item children (status.map (· == .checked)))
  | node => Node.misplaced node "list"
termination_by structural node => node

def items (walk : Walk) (quotes lists : Int) : List Node → Traced (List Visual)
  | [] => pure []
  | node :: nodes => do
    let first ← walk.item quotes lists node
    let rest ← walk.items quotes lists nodes
    pure (first :: rest)
termination_by structural nodes => nodes

end

def Visit.still {α : Type} (depths : Depths) (traced : Traced α) : Traced (Visit α) :=
  traced.resume fun outcome => pure ⟨outcome, depths⟩

mutual

theorem visit_restores (walk : Walk) (depths : Depths) (node : Node) :
    walk.visit depths node = Visit.still depths (walk.block depths.quotes depths.lists node) := by
  cases node with
  | document children metadata =>
    rw [visit, visit_all_restores walk depths children, Visit.still, Traced.resume_bind, block,
      Visit.still, Traced.bind_resume]
    exact Traced.resume_congr (fun _ => rfl) fun _ => rfl
  | quote children metadata =>
    rw [visit, block]
    cases checked : checkDepth "quote" (depths.quotes + 1) walk.options.maxQuoteDepth with
    | error failure => rfl
    | ok passed =>
      rw [visit_all_restores walk _ children, Visit.still, Traced.resume_bind, Visit.still,
        Traced.of_except_ok_bind, Traced.bind_resume]
      refine Traced.resume_congr (fun _ => rfl) fun visuals => ?_
      change pure (Visit.mk ((Visual.quote? (depths.quotes + 1) visuals).map some) depths) = _
      simp only [Traced.bind_resume, Traced.of_except_resume]
      cases Visual.quote? (depths.quotes + 1) visuals <;> rfl
  | list ordered items start tight metadata =>
    rw [visit, block]
    cases checked : checkDepth "list" (depths.lists + 1) walk.options.maxListDepth with
    | error failure => rfl
    | ok passed =>
      rw [visit_items_restores walk _ items, Visit.still, Traced.resume_bind, Visit.still,
        Traced.of_except_ok_bind, Traced.bind_resume]
      exact Traced.resume_congr (fun _ => rfl) fun _ => rfl
  | _ => rfl
termination_by structural node

theorem visit_all_restores (walk : Walk) (depths : Depths) (nodes : List Node) :
    walk.visitAll depths nodes = Visit.still depths (walk.blocks depths.quotes depths.lists nodes) := by
  cases nodes with
  | nil => rfl
  | cons node nodes =>
    rw [visitAll, visit_restores walk depths node, Visit.still, Traced.resume_bind, blocks, Visit.still,
      Traced.bind_resume, Traced.map_failure_resume]
    refine Traced.resume_congr (fun _ => rfl) fun visual => ?_
    have asItIs : (Except.ok visual).mapError Failure.inSequence = .ok visual := rfl
    simp only [Traced.pure_bind_value, asItIs]
    rw [visit_all_restores walk depths nodes, Visit.still, Traced.resume_bind, Traced.bind_resume]
    exact Traced.resume_congr (fun _ => rfl) fun _ => rfl
termination_by structural nodes

theorem visit_item_restores (walk : Walk) (depths : Depths) (node : Node) :
    walk.visitItem depths node = Visit.still depths (walk.item depths.quotes depths.lists node) := by
  cases node with
  | item children status metadata =>
    rw [visitItem, visit_all_restores walk depths children, Visit.still, Traced.resume_bind, item,
      Visit.still, Traced.bind_resume]
    exact Traced.resume_congr (fun _ => rfl) fun _ => rfl
  | _ => rfl
termination_by structural node

theorem visit_items_restores (walk : Walk) (depths : Depths) (nodes : List Node) :
    walk.visitItems depths nodes = Visit.still depths (walk.items depths.quotes depths.lists nodes) := by
  cases nodes with
  | nil => rfl
  | cons node nodes =>
    rw [visitItems, visit_item_restores walk depths node, Visit.still, Traced.resume_bind, items,
      Visit.still, Traced.bind_resume]
    refine Traced.resume_congr (fun _ => rfl) fun visual => ?_
    simp only [Traced.pure_bind_value]
    rw [visit_items_restores walk depths nodes, Visit.still, Traced.resume_bind, Traced.bind_resume]
    exact Traced.resume_congr (fun _ => rfl) fun _ => rfl
termination_by structural nodes

end

-- Whatever a visit comes to, it leaves the depths behind that it found.
theorem after_visit (walk : Walk) (depths : Depths) (node : Node) (past : List Event) :
    (walk.visit depths node).after past =
      ⟨.ok ⟨((walk.block depths.quotes depths.lists node).after past).outcome, depths⟩,
        ((walk.block depths.quotes depths.lists node).after past).events⟩ := by
  rw [visit_restores, Visit.still]
  simp only [Traced.after_resume, Traced.after_pure, List.append_nil]

theorem tree_eq (walk : Walk) (children : List Node) :
    walk.tree children = walk.blocks 0 0 children >>= fun visuals => pure (Tree.mk visuals) := by
  rw [tree, visit_all_restores, Visit.still, Traced.resume_bind]
  change _ = (walk.blocks 0 0 children).andThen fun visuals => pure (Tree.mk visuals)
  exact Traced.resume_congr (fun _ => rfl) fun _ => rfl

-- A walk under the options that hold by default, where there are no files and nothing is installed,
-- with a highlighter that answers no spans.
def bare : Walk :=
  ⟨RenderOptions.default, ⟨"/", []⟩, ⟨[], []⟩, fun _ _ => pure []⟩

end MarkdownView.Walk
