import MarkdownView.Proofs.Suitable
import MarkdownView.Token.Document
set_option autoImplicit false

namespace MarkdownView

namespace Position

end Position

namespace Token

theorem nodes_element (position : Position) (head : TokenHead) (children : List Token) :
    nodes position (.element head children) =
      build position head children
        ((position.inside head).elim [] fun inner => nodesOf inner children) := by
  cases inside : position.inside head <;> simp only [nodes, inside, Option.elim]

theorem inside_block {head : TokenHead} {type : BlockType} (typed : BlockType.ofWord head.type = type)
    (known : type ≠ .other) : Position.block.inside head = Position.underBlock type := by
  have wordPresent : head.type ≠ "" := by
    intro untyped
    rw [untyped] at typed
    exact known typed.symm
  simp [Position.inside, Position.passes, Position.below, typed, known, wordPresent]

theorem inside_inline {head : TokenHead} {type : InlineType}
    (typed : InlineType.ofWord head.type = type) (known : type ≠ .other) :
    Position.inline.inside head = Position.underInline type := by
  have wordPresent : head.type ≠ "" := by
    intro untyped
    rw [untyped] at typed
    exact known typed.symm
  simp [Position.inside, Position.passes, Position.below, typed, known, wordPresent]

theorem nodes_inline {head : TokenHead} {type : InlineType}
    (typed : InlineType.ofWord head.type = type) (known : type ≠ .other) (children : List Token) :
    nodes .inline (.element head children) =
      inlineOf head children
        ((Position.underInline type).elim [] fun inner => nodesOf inner children) := by
  rw [nodes_element, inside_inline typed known, build]

def IsBuilt (holds : Position → Node → Prop) : Prop :=
  ∀ position head children nodes,
    (∀ node ∈ nodes, ∃ inner, position.inside head = some inner ∧ holds inner node) →
    ∀ node ∈ build position head children nodes, holds position node

mutual

theorem nodes_hold {holds : Position → Node → Prop} (built : IsBuilt holds) (position : Position)
    (token : Token) : ∀ node ∈ nodes position token, holds position node := by
  cases token with
  | foreign typeName => simp [nodes]
  | element head children =>
    cases inside : position.inside head with
    | none =>
      have placed := built position head children [] (by simp)
      simpa only [nodes, inside] using placed
    | some inner =>
      have childrenHold := nodes_of_hold built inner children
      have placed := built position head children _ fun node member =>
        ⟨inner, inside, childrenHold node member⟩
      simpa only [nodes, inside] using placed
termination_by structural token

theorem nodes_of_hold {holds : Position → Node → Prop} (built : IsBuilt holds) (position : Position)
    (tokens : List Token) : ∀ node ∈ nodesOf position tokens, holds position node := by
  cases tokens with
  | nil => simp [nodesOf]
  | cons token tokens =>
    intro node member
    rcases List.mem_append.mp member with member | member
    · exact nodes_hold built position token node member
    · exact nodes_of_hold built position tokens node member
termination_by structural tokens

end

end Token
end MarkdownView
