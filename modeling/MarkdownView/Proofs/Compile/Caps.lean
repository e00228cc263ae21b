import MarkdownView.Proofs.Compile.Guards
set_option autoImplicit false

namespace MarkdownView

open Traced (guards_refl guards_of_fail)

def ContainerKind.word : ContainerKind → String
  | .quote => "quote"
  | .list => "list"

namespace RenderOptions

def maxDepth (options : RenderOptions) : ContainerKind → Option Int
  | .quote => options.maxQuoteDepth
  | .list => options.maxListDepth

def HasPositiveCaps (options : RenderOptions) : Prop :=
  ∀ kind, ∀ limit ∈ options.maxDepth kind, 1 ≤ limit

theorem default_has_positive_caps : default.HasPositiveCaps := by
  rintro (_ | _) <;> nofun

theorem check_cap_eq_ok_iff {name : String} {cap : Option Int} {checked : Unit} :
    checkCap name cap = .ok checked ↔ ∀ limit ∈ cap, 1 ≤ limit := by
  cases cap with
  | none => simp [checkCap]
  | some limit =>
    by_cases low : limit < 1
    · simp [checkCap, low]
    · simp [checkCap, low, Int.not_lt.mp low]

theorem revise_has_positive_caps {themes : List String} {options revised : RenderOptions}
    {changes : Options.Changes} (accepted : revise themes options changes = .ok revised) :
    revised.HasPositiveCaps := by
  simp only [revise, bind_eq_ok_iff, check_cap_eq_ok_iff] at accepted
  obtain ⟨_, _, _, quotePositive, _, listPositive, mode, _, accepted⟩ := accepted
  have caps : revised.maxQuoteDepth =
        Options.revised changes "max_quote_depth" Json.int? options.maxQuoteDepth ∧
      revised.maxListDepth =
        Options.revised changes "max_list_depth" Json.int? options.maxListDepth := by
    split at accepted
    · cases accepted
      exact ⟨rfl, rfl⟩
    · obtain ⟨_, _, accepted⟩ := bind_eq_ok_iff.mp accepted
      cases accepted
      exact ⟨rfl, rfl⟩
  intro kind
  cases kind with
  | quote =>
    rw [maxDepth, caps.1]
    exact quotePositive
  | list =>
    rw [maxDepth, caps.2]
    exact listPositive

end RenderOptions

def Checkpoint.container? : Checkpoint → Option Container
  | .container entered => some entered
  | .row .. => none

namespace Container

def IsWithin (options : RenderOptions) (container : Container) : Prop :=
  ∀ limit ∈ options.maxDepth container.kind, container.depth ≤ limit

instance (options : RenderOptions) (container : Container) : Decidable (container.IsWithin options) :=
  inferInstanceAs (Decidable (∀ limit ∈ options.maxDepth container.kind, container.depth ≤ limit))

def excess? (options : RenderOptions) (container : Container) : Option Failure :=
  (options.maxDepth container.kind).bind fun limit =>
    if limit < container.depth then
      some (.depthExceeded container.kind.word container.depth limit)
    else none

theorem excess?_eq_some_iff {options : RenderOptions} {container : Container} {failure : Failure} :
    container.excess? options = some failure ↔
      ∃ limit ∈ options.maxDepth container.kind, limit < container.depth ∧
        .depthExceeded container.kind.word container.depth limit = failure := by
  simp [excess?, Option.bind_eq_some_iff]

theorem excess?_eq_none_iff {options : RenderOptions} {container : Container} :
    container.excess? options = none ↔ container.IsWithin options := by
  cases cap : options.maxDepth container.kind <;> simp [excess?, IsWithin, cap]

def firstDeep? (options : RenderOptions) (containers : List Container) : Option Container :=
  containers.find? fun container => ¬ container.IsWithin options

theorem first_deep?_cons_of_within {options : RenderOptions} {container : Container}
    (within : container.IsWithin options) (rest : List Container) :
    firstDeep? options (container :: rest) = firstDeep? options rest :=
  List.find?_cons_of_neg (by simpa using within)

theorem first_deep?_cons_of_deep {options : RenderOptions} {container : Container}
    (deep : ¬ container.IsWithin options) (rest : List Container) :
    firstDeep? options (container :: rest) = some container :=
  List.find?_cons_of_pos (by simpa using deep)

theorem first_deep?_append (options : RenderOptions) (containers rest : List Container) :
    firstDeep? options (containers ++ rest) =
      (firstDeep? options containers).or (firstDeep? options rest) :=
  List.find?_append

theorem first_deep?_eq_none_iff {options : RenderOptions} {containers : List Container} :
    firstDeep? options containers = none ↔ ∀ container ∈ containers, container.IsWithin options := by
  simp [firstDeep?]

def IsStepBeyond (options : RenderOptions) (container : Container) : Prop :=
  ∃ limit ∈ options.maxDepth container.kind, container.depth = limit + 1

theorem is_step_beyond_of_deep {options : RenderOptions} {kind : ContainerKind} {outer : Int}
    (outside : (⟨kind, outer⟩ : Container).IsWithin options)
    (deep : ¬ (⟨kind, outer + 1⟩ : Container).IsWithin options) :
    (⟨kind, outer + 1⟩ : Container).IsStepBeyond options := by
  simp only [IsWithin, not_forall] at deep
  obtain ⟨limit, capped, beyond⟩ := deep
  have reached : outer ≤ limit := outside limit capped
  exact ⟨limit, capped, Int.le_antisymm (Int.add_le_add_right reached 1) (Int.not_le.mp beyond)⟩

end Container

def Checkpoint.excess? (options : RenderOptions) : Checkpoint → Option Failure
  | .container entered => entered.excess? options
  | .row .. => none

theorem Checkpoint.excess_is_depth_exceeded {options : RenderOptions} {checkpoint : Checkpoint}
    {failure : Failure} (refused : failure ∈ checkpoint.excess? options) :
    ∃ word depth limit, failure = .depthExceeded word depth limit := by
  cases checkpoint with
  | container entered =>
    obtain ⟨limit, _, _, rfl⟩ := Container.excess?_eq_some_iff.mp refused
    exact ⟨_, _, limit, rfl⟩
  | row index expected actual => cases refused

theorem verdict_excess (options : RenderOptions) (checkpoints : List Checkpoint) :
    verdict (Checkpoint.excess? options) checkpoints =
      (Container.firstDeep? options (checkpoints.filterMap Checkpoint.container?)).bind
        (Container.excess? options) := by
  induction checkpoints with
  | nil => rfl
  | cons checkpoint rest ih =>
    rw [verdict_cons, ih]
    cases checkpoint with
    | row index expected actual => rfl
    | container entered =>
      have enteredFirst : (Checkpoint.container entered :: rest).filterMap Checkpoint.container? =
          entered :: rest.filterMap Checkpoint.container? := rfl
      rw [enteredFirst, Checkpoint.excess?]
      by_cases within : entered.IsWithin options
      · rw [Container.first_deep?_cons_of_within within, Container.excess?_eq_none_iff.mpr within,
          Option.none_or]
      · rw [Container.first_deep?_cons_of_deep within, Option.bind_some]
        have refused := mt Container.excess?_eq_none_iff.mp within
        obtain ⟨failure, exceeds⟩ := Option.ne_none_iff_exists'.mp refused
        rw [exceeds, Option.some_or]

namespace Node

-- The quotes and lists inside a node, which stands in as many as given.
def containers (quotes lists : Int) (node : Node) : List Container :=
  (node.checkpoints quotes lists).filterMap Checkpoint.container?

def containersOf (quotes lists : Int) (nodes : List Node) : List Container :=
  (checkpointsOf quotes lists nodes).filterMap Checkpoint.container?

theorem containers_of_cons (quotes lists : Int) (node : Node) (nodes : List Node) :
    containersOf quotes lists (node :: nodes) =
      node.containers quotes lists ++ containersOf quotes lists nodes :=
  List.filterMap_append

theorem containers_of_singleton (quotes lists : Int) (node : Node) :
    containersOf quotes lists [node] = node.containers quotes lists := by
  rw [containersOf, checkpoints_of_singleton, containers]

theorem containers_quote (quotes lists : Int) (children : List Node) (metadata : Metadata) :
    (quote children metadata).containers quotes lists =
      ⟨.quote, quotes + 1⟩ :: containersOf (quotes + 1) lists children := rfl

theorem containers_list (quotes lists : Int) (ordered : Bool) (items : List Node) (start : Option Int)
    (tight : Bool) (metadata : Metadata) :
    (list ordered items start tight metadata).containers quotes lists =
      ⟨.list, lists + 1⟩ :: containersOf quotes (lists + 1) items := rfl

theorem containers_table (quotes lists : Int) (header : Option Node) (rows : List Node)
    (alignments : List (Option String)) (metadata : Metadata) :
    (table header rows alignments metadata).containers quotes lists = [] := by
  refine List.filterMap_eq_nil_iff.mpr fun checkpoint member => ?_
  obtain ⟨entry, _, rfl⟩ := List.mem_map.mp member
  rfl

mutual

theorem containers_step_beyond {options : RenderOptions} (node : Node) {quotes lists : Int}
    (quotesWithin : (⟨.quote, quotes⟩ : Container).IsWithin options)
    (listsWithin : (⟨.list, lists⟩ : Container).IsWithin options) :
    ∀ container ∈ Container.firstDeep? options (node.containers quotes lists),
      container.IsStepBeyond options := by
  cases node with
  | document children metadata => exact containers_of_step_beyond children quotesWithin listsWithin
  | quote children metadata =>
    rw [containers_quote]
    by_cases within : (⟨.quote, quotes + 1⟩ : Container).IsWithin options
    · rw [Container.first_deep?_cons_of_within within]
      exact containers_of_step_beyond children within listsWithin
    · rw [Container.first_deep?_cons_of_deep within]
      rintro _ ⟨⟩
      exact Container.is_step_beyond_of_deep quotesWithin within
  | list ordered items start tight metadata =>
    rw [containers_list]
    by_cases within : (⟨.list, lists + 1⟩ : Container).IsWithin options
    · rw [Container.first_deep?_cons_of_within within]
      exact containers_of_step_beyond items quotesWithin within
    · rw [Container.first_deep?_cons_of_deep within]
      rintro _ ⟨⟩
      exact Container.is_step_beyond_of_deep listsWithin within
  | item children status metadata => exact containers_of_step_beyond children quotesWithin listsWithin
  | table header rows alignments metadata =>
    rw [containers_table]
    nofun
  | _ => nofun
termination_by structural node

theorem containers_of_step_beyond {options : RenderOptions} (nodes : List Node) {quotes lists : Int}
    (quotesWithin : (⟨.quote, quotes⟩ : Container).IsWithin options)
    (listsWithin : (⟨.list, lists⟩ : Container).IsWithin options) :
    ∀ container ∈ Container.firstDeep? options (containersOf quotes lists nodes),
      container.IsStepBeyond options := by
  cases nodes with
  | nil => nofun
  | cons node nodes =>
    rw [containers_of_cons, Container.first_deep?_append]
    intro container found
    rcases Option.or_eq_some_iff.mp found with first | ⟨_, later⟩
    · exact containers_step_beyond node quotesWithin listsWithin container first
    · exact containers_of_step_beyond nodes quotesWithin listsWithin container later
termination_by structural nodes

end

end Node

namespace Visual

mutual

-- The quotes and lists in a visual, itself included, in document order.
def containers : Visual → List Container
  | .quote depth children => ⟨.quote, depth⟩ :: containersOf children
  | .list _ items _ depth => ⟨.list, depth⟩ :: containersOf items
  | .item children _ => containersOf children
  | .tree children => containersOf children
  | _ => []
termination_by structural visual => visual

def containersOf : List Visual → List Container
  | [] => []
  | visual :: visuals => containers visual ++ containersOf visuals
termination_by structural visuals => visuals

end

theorem containers_of_append (visuals others : List Visual) :
    containersOf (visuals ++ others) = containersOf visuals ++ containersOf others := by
  induction visuals with
  | nil => rfl
  | cons visual visuals ih =>
    rw [List.cons_append, containersOf, containersOf, ih, List.append_assoc]

theorem containers_of_singleton (visual : Visual) : containersOf [visual] = visual.containers :=
  List.append_nil _

end Visual

def Tree.containers (tree : Tree) : List Container := Visual.containersOf tree.children

theorem Walk.Compiles.containers {walk : Walk} {setting : Setting} {quotes lists : Int}
    {nodes : List Node} {visuals : List Visual} {events : List Event}
    (compiles : Compiles walk setting quotes lists nodes visuals events) :
    Visual.containersOf visuals = Node.containersOf quotes lists nodes := by
  induction compiles with
  | nil => rfl
  | cons _ _ firstIh restIh =>
    rw [Node.containers_of_singleton] at firstIh
    rw [Visual.containers_of_append, firstIh, restIh, Node.containers_of_cons]
  | heading => rfl
  | paragraph => rfl
  | code => rfl
  | quote _ _ _ ih =>
    rw [Visual.containers_of_singleton, Visual.containers, ih, Node.containers_of_singleton,
      Node.containers_quote]
  | list _ _ ih =>
    rw [Visual.containers_of_singleton, Visual.containers, ih, Node.containers_of_singleton,
      Node.containers_list]
  | item _ ih =>
    rw [Visual.containers_of_singleton, Visual.containers, ih, Node.containers_of_singleton]
    rfl
  | table =>
    rw [Node.containers_of_singleton, Node.containers_table]
    rfl
  | document _ ih =>
    rw [Visual.containers_of_singleton, Visual.containers, ih, Node.containers_of_singleton]
    rfl
  | thematicBreak => rfl
  | @image _ _ _ _ _ _ _ _ inserted => cases inserted <;> rfl
  | unmodelled _ unmodelled =>
    rw [Node.containers_of_singleton, Node.containers, Node.checkpoints_of_unmodelled unmodelled]
    rfl

theorem compile_containers {walk : Walk} {document : Option Node} {past : List Event}
    {compiled : Compiled} (returned : ((compile walk document).after past).outcome = .ok compiled) :
    compiled.tree.containers = Node.containersOf 0 0 document.toList := by
  rcases compile_eq_ok returned with ⟨rfl, rfl⟩ | ⟨children, metadata, visuals, events, rfl, compiles, rfl⟩
  · rfl
  · rw [Option.toList_some, Node.containers_of_singleton]
    exact compiles.containers

namespace Walk

def uncapped (walk : Walk) : Walk :=
  { walk with options := { walk.options with maxQuoteDepth := none, maxListDepth := none } }

theorem check_depth_guarded (options : RenderOptions) (kind : ContainerKind) (depth : Int) :
    Traced.Guards ((⟨kind, depth⟩ : Container).excess? options)
      (Traced.ofExcept (checkDepth kind.word depth (options.maxDepth kind)))
      (Traced.ofExcept (checkDepth kind.word depth none)) := by
  rw [Container.excess?]
  cases options.maxDepth kind with
  | none => exact guards_refl _
  | some limit =>
    by_cases exceeds : limit < depth
    · simp only [Option.bind_some, if_pos exceeds, checkDepth]
      exact guards_of_fail _ _
    · simp only [Option.bind_some, if_neg exceeds, checkDepth]
      exact guards_refl _

theorem capped_guards (walk : Walk) :
    walk.Guards (Checkpoint.excess? walk.options) walk.uncapped where
  inline _ := rfl
  code _ _ := rfl
  picture _ _ _ _ _ := rfl
  quote depth := check_depth_guarded walk.options .quote depth
  list depth := check_depth_guarded walk.options .list depth
  row _ _ _ := guards_refl _
  inSequence checkpoint failure refused := by
    obtain ⟨_, _, _, rfl⟩ := Checkpoint.excess_is_depth_exceeded refused
    rfl
  inCompilation checkpoint failure refused := by
    obtain ⟨_, _, _, rfl⟩ := Checkpoint.excess_is_depth_exceeded refused
    rfl

end Walk

-- Caps cut and change nothing: what is compiled without them is compiled under them, or the first
-- quote or list that goes beyond its cap ends the compilation.
theorem compile_capped {walk : Walk} (positive : walk.options.HasPositiveCaps)
    {document : Option Node} {past : List Event} {compiled : Compiled}
    (returned : ((compile walk.uncapped document).after past).outcome = .ok compiled) :
    ((∀ container ∈ compiled.tree.containers, container.IsWithin walk.options) →
      ((compile walk document).after past).outcome = .ok compiled) ∧
    (¬ (∀ container ∈ compiled.tree.containers, container.IsWithin walk.options) →
      ∃ container limit,
        Container.firstDeep? walk.options compiled.tree.containers = some container ∧
        walk.options.maxDepth container.kind = some limit ∧
        ((compile walk document).after past).outcome =
          .error (.depthExceeded container.kind.word (limit + 1) limit)) := by
  have capped := compile_guarded walk.capped_guards returned
  have entered := compile_containers returned
  have decided : verdict (Checkpoint.excess? walk.options) (checkpointsIn document) =
      (Container.firstDeep? walk.options compiled.tree.containers).bind
        (Container.excess? walk.options) := by
    rw [verdict_excess, entered]
    rfl
  rw [decided] at capped
  constructor
  · intro within
    rw [capped, Container.first_deep?_eq_none_iff.mpr within]
    rfl
  · intro beyond
    rw [← Container.first_deep?_eq_none_iff] at beyond
    obtain ⟨container, found⟩ := Option.ne_none_iff_exists'.mp beyond
    have rootWithin (kind : ContainerKind) : (⟨kind, 0⟩ : Container).IsWithin walk.options :=
      fun limit limited => Int.le_trans Int.one_nonneg (positive kind limit limited)
    rw [entered] at found
    obtain ⟨limit, limited, deep⟩ := Node.containers_of_step_beyond document.toList
      (rootWithin .quote) (rootWithin .list) container found
    rw [← entered] at found
    refine ⟨container, limit, found, limited, ?_⟩
    have exceeds : container.excess? walk.options =
        some (.depthExceeded container.kind.word (limit + 1) limit) :=
      Container.excess?_eq_some_iff.mpr ⟨limit, limited, by omega, by rw [deep]⟩
    rw [capped, found, Option.bind_some, exceeds]
    rfl

def listedQuote (children : List Node) : Node :=
  .document [.list false [.item [.quote [.document children []] []] none []] none true []] []

theorem compile_capped_listed_quote :
    Walk.shallow.options.HasPositiveCaps ∧
      (∃ compiled, ((compile Walk.shallow.uncapped (some (listedQuote
          [.list true [] (some 3) true []]))).after []).outcome = .ok compiled ∧
        compiled.tree.containers = [⟨.list, 1⟩, ⟨.quote, 1⟩, ⟨.list, 2⟩] ∧
        ((compile Walk.shallow (some (listedQuote [.list true [] (some 3) true []]))).after
          []).outcome = .ok compiled) ∧
      ∃ compiled, ((compile Walk.shallow.uncapped (some (listedQuote
          [.thematicBreak [], .quote [.quote [] []] []]))).after []).outcome = .ok compiled ∧
        compiled.tree.containers = [⟨.list, 1⟩, ⟨.quote, 1⟩, ⟨.quote, 2⟩, ⟨.quote, 3⟩] ∧
        ((compile Walk.shallow (some (listedQuote
          [.thematicBreak [], .quote [.quote [] []] []]))).after []).outcome =
            .error (.depthExceeded "quote" 2 1) := by
  have positive : Walk.shallow.options.HasPositiveCaps := by
    rintro (_ | _) limit ⟨⟩
    decide
  refine ⟨positive, ⟨⟨⟨[.list false [.item [.quote 1 [.tree [.list true [] (some 3) 2]]] none] none 1]⟩, [],
    []⟩, ?within_returns, rfl, ?within⟩, ⟨⟨[.list false [.item [.quote 1 [.tree
      [.thematicBreak, .quote 2 [.quote 3 []]]]] none] none 1]⟩, [], []⟩, ?beyond_returns, rfl, ?beyond⟩
  · rfl
  · exact (compile_capped positive ?within_returns).1 (by decide)
  · rfl
  · obtain ⟨container, limit, found, limited, raised⟩ :=
      (compile_capped positive ?beyond_returns).2 (by decide)
    obtain rfl : (⟨.quote, 2⟩ : Container) = container := Option.some.inj found
    obtain rfl : 1 = limit := Option.some.inj limited
    exact raised

end MarkdownView
