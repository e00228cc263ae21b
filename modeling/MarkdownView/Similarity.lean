set_option autoImplicit false

/-! How alike two texts are: the share of their characters that stand in common blocks, found by
taking the longest block first and then looking to its left and right. -/
namespace MarkdownView.Similarity

structure Block where
  left : Nat
  right : Nat
  size : Nat
deriving DecidableEq

-- In a text of 200 characters or more, one that makes up over a hundredth of it starts no block.
def isPopular (right : List Char) (c : Char) : Bool :=
  200 ≤ right.length && right.length / 100 + 1 < right.count c

def extendRow (skips : Char → Bool) (c : Char) : Nat → List Nat → List Char → List Nat
  | _, _, [] => []
  | diagonal, [], d :: ds =>
    (if c = d && !skips d then diagonal + 1 else 0) :: extendRow skips c 0 [] ds
  | diagonal, above :: row, d :: ds =>
    (if c = d && !skips d then diagonal + 1 else 0) :: extendRow skips c above row ds

def bestInRow (left : Nat) : Nat → Block → List Nat → Block
  | _, best, [] => best
  | right, best, size :: row =>
    bestInRow left (right + 1)
      (if best.size < size then ⟨left + 1 - size, right + 1 - size, size⟩ else best) row

def scan (skips : Char → Bool) (right : List Char) :
    Nat → Block → List Nat → List Char → Block
  | _, best, _, [] => best
  | index, best, row, c :: cs =>
    let row := extendRow skips c 0 row right
    scan skips right (index + 1) (bestInRow index 0 best row) row cs

def commonLength : List Char → List Char → Nat
  | a :: as, b :: bs => if a = b then commonLength as bs + 1 else 0
  | _, _ => 0

def longestBlock (skips : Char → Bool) (left right : List Char) : Block :=
  let best := scan skips right 0 ⟨0, 0, 0⟩ [] left
  let before := commonLength (left.take best.left).reverse (right.take best.right).reverse
  let after := commonLength (left.drop (best.left + best.size)) (right.drop (best.right + best.size))
  ⟨best.left - before, best.right - before, best.size + before + after⟩

def matched (skips : Char → Bool) : Nat → List Char → List Char → Nat
  | 0, _, _ => 0
  | depth + 1, left, right =>
    let block := longestBlock skips left right
    if block.size = 0 then 0
    else
      matched skips depth (left.take block.left) (right.take block.right) + block.size +
        matched skips depth (left.drop (block.left + block.size))
          (right.drop (block.right + block.size))

structure Score where
  matched : Nat
  total : Nat

def score (candidate name : String) : Score :=
  let left := candidate.toList
  let right := name.toList
  let total := left.length + right.length
  if total = 0 then ⟨1, 2⟩ else ⟨matched (isPopular right) (left.length + 1) left right, total⟩

def Score.isClose (score : Score) : Bool := 3 * score.total ≤ 10 * score.matched

def isBefore (a b : Score × String) : Bool :=
  let x := a.1.matched * b.1.total
  let y := b.1.matched * a.1.total
  y < x || (x == y && b.2 ≤ a.2)

def suggestions (name : String) (candidates : List String) : List String :=
  let scored := candidates.map fun candidate => (score candidate name, candidate)
  let close := scored.filter fun entry => entry.1.isClose
  let best := (close.mergeSort isBefore).take 3
  (best.map Prod.snd).mergeSort fun a b => a ≤ b

end MarkdownView.Similarity
