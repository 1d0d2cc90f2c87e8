import ClosedShape.Proofs.YamlFault
import Mathlib.Tactic.Common

/-!
# Faults of assembling YAML

Nodes are read from the tokens of a text and assembled to values.  Both are operations on a state,
and both end in no other faults than the readers of scalars and tokens do.  Reading nodes can also
fail for the reason that cut the tokens short, which is part of its state.
-/

namespace ClosedShape.Yaml

variable {σ α β : Type} {invariant : σ → Prop} {operation : StateT σ (Except Reason) α}
  {next : α → StateT σ (Except Reason) β}

/-- An operation on a state that keeps what holds of the state, and fails only for sound reasons. -/
def Keeps (invariant : σ → Prop) (operation : StateT σ (Except Reason) α) : Prop :=
  ∀ state, invariant state →
    FailsOnly Reason.Sound (operation state) ∧
      ∀ result after, operation state = .ok (result, after) → invariant after

namespace Keeps

theorem pure (result : α) : Keeps invariant (Pure.pure result) := by
  intro state holds
  refine ⟨.pure _, ?_⟩
  rintro _ _ ⟨⟩
  exact holds

theorem throw {reason : Reason} (sound : reason.Sound) :
    Keeps invariant (throw reason : StateT σ (Except Reason) α) := by
  intro state _
  refine ⟨.throw sound, ?_⟩
  rintro _ _ ⟨⟩

theorem modify {change : σ → σ} (keeps : ∀ state, invariant state → invariant (change state)) :
    Keeps invariant (modify change : StateT σ (Except Reason) PUnit) := by
  intro state holds
  refine ⟨.pure _, ?_⟩
  rintro _ _ ⟨⟩
  exact keeps state holds

theorem set {state : σ} (holds : invariant state) :
    Keeps invariant (set state : StateT σ (Except Reason) PUnit) := by
  intro _ _
  refine ⟨.pure _, ?_⟩
  rintro _ _ ⟨⟩
  exact holds

theorem lift {outcome : Except Reason α} (sound : FailsOnly Reason.Sound outcome) :
    Keeps invariant (liftM outcome : StateT σ (Except Reason) α) := by
  intro state holds
  have run : (liftM outcome : StateT σ (Except Reason) α) state =
      outcome >>= fun result => Pure.pure (result, state) := rfl
  rw [run]
  refine ⟨sound.bind fun _ => .pure _, ?_⟩
  cases outcome with
  | error => rintro _ _ ⟨⟩
  | ok result =>
      rintro _ _ ⟨⟩
      exact holds

theorem bind (first : Keeps invariant operation)
    (goesOn : ∀ result, Keeps invariant (next result)) : Keeps invariant (operation >>= next) := by
  intro state holds
  obtain ⟨sound, keeps⟩ := first state holds
  have run : (operation >>= next) state =
      operation state >>= fun result => next result.1 result.2 := rfl
  rw [run]
  cases ended : operation state with
  | error reason => exact ⟨.error (sound reason ended), nofun⟩
  | ok result => exact goesOn result.1 result.2 (keeps result.1 result.2 ended)

theorem get_bind {next : σ → StateT σ (Except Reason) β}
    (goesOn : ∀ state, invariant state → Keeps invariant (next state)) :
    Keeps invariant (get >>= next) := by
  intro state holds
  exact goesOn state holds state holds

theorem ite {condition : Prop} [Decidable condition] {other : StateT σ (Except Reason) α}
    (first : Keeps invariant operation) (second : Keeps invariant other) :
    Keeps invariant (if condition then operation else other) := by
  split
  · exact first
  · exact second

/-- An operation that goes on only if a condition holds. -/
theorem guarded {condition : Prop} [Decidable condition] {rest : PUnit → StateT σ (Except Reason) α}
    {reason : Reason} (sound : reason.Sound) (goesOn : Keeps invariant (rest ⟨⟩)) :
    Keeps invariant (if condition then rest ⟨⟩ else MonadExcept.throw reason >>= rest) :=
  .ite goesOn ((throw sound).bind fun _ => goesOn)

/-- An operation that comes before others if a condition holds. -/
theorem onlyIf {condition : Prop} [Decidable condition]
    {first : StateT σ (Except Reason) PUnit} {rest : PUnit → StateT σ (Except Reason) α}
    (keeps : Keeps invariant first) (goesOn : Keeps invariant (rest ⟨⟩)) :
    Keeps invariant (if condition then first >>= rest else rest ⟨⟩) :=
  .ite (keeps.bind fun _ => goesOn) goesOn

theorem mapM {each : α → StateT σ (Except Reason) β} {items : List α}
    (keeps : ∀ item, Keeps invariant (each item)) : Keeps invariant (items.mapM each) := by
  induction items with
  | nil => exact pure []
  | cons item items ih =>
      rw [List.mapM_cons]
      exact (keeps item).bind fun _ => ih.bind fun _ => pure _

theorem foldlM {each : β → α → StateT σ (Except Reason) β} {items : List α} {start : β}
    (keeps : ∀ result item, Keeps invariant (each result item)) :
    Keeps invariant (items.foldlM each start) := by
  induction items generalizing start with
  | nil => exact pure start
  | cons item items ih =>
      rw [List.foldlM_cons]
      exact (keeps start item).bind fun _ => ih

theorem forIn {each : α → β → StateT σ (Except Reason) (ForInStep β)} {items : List α} {start : β}
    (keeps : ∀ item result, Keeps invariant (each item result)) :
    Keeps invariant (ForIn.forIn items start each) := by
  induction items generalizing start with
  | nil => exact pure start
  | cons item items ih =>
      rw [List.forIn_cons]
      refine (keeps item start).bind fun step => ?_
      split
      · exact pure _
      · exact ih

end Keeps

namespace NodeReader

/-- The tokens have been cut short for a sound reason, if at all. -/
def CutSoundly (stream : TokenStream) : Prop := stream.ending.Sound

theorem keeps_peek : Keeps CutSoundly peek := by
  refine .get_bind fun stream holds => ?_
  split
  · exact .pure _
  · exact .throw holds

theorem keeps_advance : Keeps CutSoundly advance :=
  .modify fun _ => id

theorem keeps_nextIs (choices : List Token) : Keeps CutSoundly (nextIs choices) :=
  keeps_peek.bind fun _ => .pure _

theorem keeps_add (anchor : Option String) (node : Node) : Keeps CutSoundly (add anchor node) := by
  refine .get_bind fun stream holds => ?_
  refine (Keeps.set ?_).bind fun _ => .pure _
  exact holds

theorem keeps_complete (place : Nat) (node : Node) : Keeps CutSoundly (complete place node) :=
  .modify fun _ => id

theorem keeps_expandTag (handle : Option String) (suffix : String) :
    Keeps CutSoundly (expandTag handle suffix) := by
  unfold expandTag
  dsimp only
  split
  · exact .pure _
  · refine .get_bind fun stream _ => ?_
    split
    · exact .pure _
    · exact .throw trivial

theorem keeps_properties : Keeps CutSoundly properties := by
  refine keeps_peek.bind fun token => ?_
  split
  · refine keeps_advance.bind fun _ => keeps_peek.bind fun token => ?_
    split
    · exact keeps_advance.bind fun _ => (keeps_expandTag _ _).bind fun _ => .pure _
    · exact .pure _
  · refine keeps_advance.bind fun _ => keeps_peek.bind fun token => ?_
    split
    · exact keeps_advance.bind fun _ => (keeps_expandTag _ _).bind fun _ => .pure _
    · exact (keeps_expandTag _ _).bind fun _ => .pure _
  · exact .pure _

theorem keeps_plainTag (content : Text) : Keeps CutSoundly (plainTag content) := by
  refine .get_bind fun stream _ => ?_
  exact .lift (failsOnly_ofFault (failsOnly_ofPlain _ _))

theorem keeps_scalarTag (plain : Bool) (content : Text) (tag : Option String) :
    Keeps CutSoundly (scalarTag plain content tag) := by
  unfold scalarTag
  split
  · split
    · exact keeps_plainTag _
    · exact .pure _
  · exact keeps_plainTag _
  · exact .pure _

theorem keeps_empty : Keeps CutSoundly empty :=
  (keeps_plainTag _).bind fun _ => keeps_add _ _

theorem keeps_scalarOf (properties : Properties) (plain : Bool) (content : Text) :
    Keeps CutSoundly (scalarOf properties plain content) :=
  (keeps_scalarTag _ _ _).bind fun _ => keeps_add _ _

theorem keeps_sequenceOf {items : NodeReader (List Nat)} (keeps : Keeps CutSoundly items)
    (properties : Properties) : Keeps CutSoundly (sequenceOf properties items) :=
  (keeps_add _ _).bind fun _ => keeps.bind fun _ => (keeps_complete _ _).bind fun _ => .pure _

theorem keeps_mappingOf {entries : NodeReader (List (Nat × Nat))}
    (keeps : Keeps CutSoundly entries) (properties : Properties) :
    Keeps CutSoundly (mappingOf properties entries) :=
  (keeps_add _ _).bind fun _ => keeps.bind fun _ => (keeps_complete _ _).bind fun _ => .pure _

/-- What reading nodes, up to some depth, keeps. -/
structure NodesKeep (fuel : Nat) : Prop where
  node (block indentless : Bool) : Keeps CutSoundly (node fuel block indentless)
  content (block indentless : Bool) (properties : Properties) :
    Keeps CutSoundly (content fuel block indentless properties)
  nodeUnless (ends : List Token) (block indentless : Bool) :
    Keeps CutSoundly (nodeUnless fuel ends block indentless)
  blockItems : Keeps CutSoundly (blockItems fuel)
  indentlessItems : Keeps CutSoundly (indentlessItems fuel)
  entryValue (ends : List Token) (block : Bool) : Keeps CutSoundly (entryValue fuel ends block)
  blockEntries : Keeps CutSoundly (blockEntries fuel)
  markedEntry (ends : List Token) : Keeps CutSoundly (markedEntry fuel ends)
  flowItems (first : Bool) : Keeps CutSoundly (flowItems fuel first)
  flowEntries (first : Bool) : Keeps CutSoundly (flowEntries fuel first)

theorem nodesKeep_zero : NodesKeep 0 where
  node _ _ := .throw trivial
  content _ _ _ := .throw trivial
  nodeUnless _ _ _ := .throw trivial
  blockItems := .throw trivial
  indentlessItems := .throw trivial
  entryValue _ _ := .throw trivial
  blockEntries := .throw trivial
  markedEntry _ := .throw trivial
  flowItems _ := .throw trivial
  flowEntries _ := .throw trivial

namespace NodesKeep

variable {fuel : Nat}

theorem node_succ (keeps : NodesKeep fuel) (block indentless : Bool) :
    Keeps CutSoundly (NodeReader.node (fuel + 1) block indentless) := by
  unfold NodeReader.node
  refine keeps_peek.bind fun token => ?_
  split
  · refine keeps_advance.bind fun _ => .get_bind fun stream _ => ?_
    split
    · exact .pure _
    · exact .throw trivial
  · exact keeps_properties.bind fun _ => keeps.content _ _ _

theorem content_succ (keeps : NodesKeep fuel) (block indentless : Bool) (properties : Properties) :
    Keeps CutSoundly (NodeReader.content (fuel + 1) block indentless properties) := by
  unfold NodeReader.content
  refine keeps_peek.bind fun token => ?_
  split
  · exact keeps_sequenceOf keeps.indentlessItems _
  · exact keeps_advance.bind fun _ => keeps_scalarOf _ _ _
  · exact keeps_advance.bind fun _ => keeps_sequenceOf (keeps.flowItems _) _
  · exact keeps_advance.bind fun _ => keeps_mappingOf (keeps.flowEntries _) _
  · exact keeps_advance.bind fun _ => keeps_sequenceOf keeps.blockItems _
  · exact keeps_advance.bind fun _ => keeps_mappingOf keeps.blockEntries _
  · split
    · exact keeps_scalarOf _ _ _
    · exact .throw trivial

theorem nodeUnless_succ (keeps : NodesKeep fuel) (ends : List Token) (block indentless : Bool) :
    Keeps CutSoundly (NodeReader.nodeUnless (fuel + 1) ends block indentless) := by
  unfold NodeReader.nodeUnless
  exact (keeps_nextIs _).bind fun _ => .ite keeps_empty (keeps.node _ _)

theorem blockItems_succ (keeps : NodesKeep fuel) :
    Keeps CutSoundly (NodeReader.blockItems (fuel + 1)) := by
  unfold NodeReader.blockItems
  refine keeps_peek.bind fun token => ?_
  split
  · exact keeps_advance.bind fun _ => (keeps.nodeUnless _ _ _).bind fun _ =>
      keeps.blockItems.bind fun _ => .pure _
  · exact keeps_advance.bind fun _ => .pure _
  · exact .throw trivial

theorem indentlessItems_succ (keeps : NodesKeep fuel) :
    Keeps CutSoundly (NodeReader.indentlessItems (fuel + 1)) := by
  unfold NodeReader.indentlessItems
  refine keeps_peek.bind fun token => ?_
  split
  · exact keeps_advance.bind fun _ => (keeps.nodeUnless _ _ _).bind fun _ =>
      keeps.indentlessItems.bind fun _ => .pure _
  · exact .pure _

theorem entryValue_succ (keeps : NodesKeep fuel) (ends : List Token) (block : Bool) :
    Keeps CutSoundly (NodeReader.entryValue (fuel + 1) ends block) := by
  unfold NodeReader.entryValue
  refine keeps_peek.bind fun token => ?_
  split
  · exact keeps_advance.bind fun _ => keeps.nodeUnless _ _ _
  · exact keeps_empty

theorem blockEntries_succ (keeps : NodesKeep fuel) :
    Keeps CutSoundly (NodeReader.blockEntries (fuel + 1)) := by
  unfold NodeReader.blockEntries
  dsimp only
  refine keeps_peek.bind fun token => .get_bind fun stream _ => ?_
  split
  · exact keeps_advance.bind fun _ => .pure _
  · exact keeps_advance.bind fun _ => (keeps.nodeUnless _ _ _).bind fun _ =>
      (keeps.entryValue _ _).bind fun _ => keeps.blockEntries.bind fun _ => .pure _
  · exact keeps_empty.bind fun _ => (keeps.entryValue _ _).bind fun _ =>
      keeps.blockEntries.bind fun _ => .pure _
  · exact .throw trivial

theorem markedEntry_succ (keeps : NodesKeep fuel) (ends : List Token) :
    Keeps CutSoundly (NodeReader.markedEntry (fuel + 1) ends) := by
  unfold NodeReader.markedEntry
  exact keeps_advance.bind fun _ => (keeps.nodeUnless _ _ _).bind fun _ =>
    (keeps.entryValue _ _).bind fun _ => .pure _

theorem flowItems_succ (keeps : NodesKeep fuel) (first : Bool) :
    Keeps CutSoundly (NodeReader.flowItems (fuel + 1) first) := by
  unfold NodeReader.flowItems
  dsimp only
  refine (keeps_nextIs _).bind fun _ => .guarded trivial ?_
  refine (keeps_nextIs _).bind fun _ => .onlyIf keeps_advance ?_
  refine (keeps_nextIs _).bind fun _ => .ite (keeps_advance.bind fun _ => .pure _) ?_
  have entry := keeps_mappingOf
    ((keeps.markedEntry [.flowEntry, .flowSequenceEnd]).bind fun entry => .pure [entry])
  refine (keeps_nextIs _).bind fun _ => .ite ?_ ?_
  · exact (entry _).bind fun _ => (keeps.flowItems _).bind fun _ => .pure _
  · exact (keeps.node _ _).bind fun _ => (keeps.flowItems _).bind fun _ => .pure _

theorem flowEntries_succ (keeps : NodesKeep fuel) (first : Bool) :
    Keeps CutSoundly (NodeReader.flowEntries (fuel + 1) first) := by
  unfold NodeReader.flowEntries
  dsimp only
  refine (keeps_nextIs _).bind fun _ => .guarded trivial ?_
  refine (keeps_nextIs _).bind fun _ => .onlyIf keeps_advance ?_
  refine (keeps_nextIs _).bind fun _ => .ite (keeps_advance.bind fun _ => .pure _) ?_
  refine keeps_peek.bind fun token => .get_bind fun stream _ => ?_
  split
  · exact (keeps.markedEntry _).bind fun _ => (keeps.flowEntries _).bind fun _ => .pure _
  · exact keeps_empty.bind fun _ => (keeps.entryValue _ _).bind fun _ =>
      (Keeps.pure _).bind fun _ => (keeps.flowEntries _).bind fun _ => .pure _
  · exact (keeps.node _ _).bind fun _ => keeps_empty.bind fun _ => (Keeps.pure _).bind fun _ =>
      (keeps.flowEntries _).bind fun _ => .pure _

end NodesKeep

theorem nodesKeep (fuel : Nat) : NodesKeep fuel := by
  induction fuel with
  | zero => exact nodesKeep_zero
  | succ fuel ih =>
      exact ⟨ih.node_succ, ih.content_succ, ih.nodeUnless_succ, ih.blockItems_succ,
        ih.indentlessItems_succ, ih.entryValue_succ, ih.blockEntries_succ, ih.markedEntry_succ,
        ih.flowItems_succ, ih.flowEntries_succ⟩

/-! ## Documents -/

theorem keeps_directives (fuel : Nat) (versioned : Bool) (handles : List (String × String)) :
    Keeps CutSoundly (directives fuel versioned handles) := by
  induction fuel generalizing versioned handles with
  | zero => exact .throw trivial
  | succ fuel ih =>
      unfold directives
      refine keeps_peek.bind fun token => ?_
      split
      · refine keeps_advance.bind fun _ => ?_
        split
        · exact .throw trivial
        · refine (Keeps.modify ?_).bind fun _ => ih _ _
          exact fun _ holds => holds
      · refine keeps_advance.bind fun _ => ?_
        split
        · exact .throw trivial
        · exact ih _ _
      · exact keeps_advance.bind fun _ => ih _ _
      · exact .modify fun _ => id

theorem keeps_atDocumentEdge : Keeps CutSoundly atDocumentEdge := by
  refine keeps_peek.bind fun token => ?_
  split <;> exact .pure _

theorem keeps_document (fuel : Nat) : Keeps CutSoundly (document fuel) := by
  have root : Keeps CutSoundly (node fuel true false) := (nodesKeep fuel).node _ _
  refine keeps_peek.bind fun token => ?_
  split
  on_goal 5 =>
    refine (Keeps.modify ?_).bind fun _ => root
    exact fun _ holds => holds
  -- All other documents start with a mark, after directives or without.
  all_goals
    refine (keeps_directives _ _ _).bind fun _ => keeps_peek.bind fun token => ?_
    split
    · exact keeps_advance.bind fun _ => keeps_atDocumentEdge.bind fun _ => .ite keeps_empty root
    · exact .throw trivial

theorem keeps_leaveDocument (fuel : Nat) : Keeps CutSoundly (leaveDocument fuel) := by
  induction fuel with
  | zero => exact .pure _
  | succ fuel ih =>
      unfold leaveDocument
      refine (keeps_nextIs _).bind fun _ => .ite ?_ (.pure _)
      exact keeps_advance.bind fun _ => .get_bind fun stream _ => .ite ih (.pure _)

theorem keeps_root (fuel : Nat) : Keeps CutSoundly (root fuel) := by
  unfold root
  refine (keeps_nextIs _).bind fun _ => .ite (.pure _) ?_
  refine (keeps_document _).bind fun _ => (keeps_leaveDocument _).bind fun _ => ?_
  exact (keeps_nextIs _).bind fun _ => .ite (.pure _) (.throw trivial)

end NodeReader

theorem failsOnly_readNodes {tokens : List Token} {ending : Option Reason}
    (sound : ∀ reason, ending = some reason → reason.Sound) :
    FailsOnly Reason.Sound (readNodes tokens ending) := by
  have start : NodeReader.CutSoundly { tokens, ending := ending.getD .nodeExpected } := by
    cases ending with
    | none => trivial
    | some reason => exact sound reason rfl
  exact ((NodeReader.keeps_root _) _ start).1.bind fun _ => .pure _

/-! ## Assembling values -/

namespace Assembler

/-- An operation of the assembly that fails only for sound reasons. -/
abbrev Sound (operation : Assembler α) : Prop := Keeps (fun _ => True) operation

theorem sound_modify (change : Assembly → Assembly) :
    Sound (modify change : Assembler PUnit) :=
  .modify fun _ => id

theorem sound_nodeAt (place : Nat) : Sound (nodeAt place) :=
  .get_bind fun _ _ => .pure _

theorem sound_changeNode (place : Nat) (change : Node → Node) : Sound (changeNode place change) :=
  sound_modify _

theorem sound_scalarText (fuel place : Nat) : Sound (scalarText fuel place) := by
  induction fuel generalizing place with
  | zero => exact .throw trivial
  | succ fuel ih =>
      unfold scalarText
      refine (sound_nodeAt _).bind fun node => ?_
      split
      · exact .pure _
      · exact .throw trivial
      · refine .get_bind fun assembly _ => ?_
        dsimp only
        split
        · exact ih _
        · exact .throw trivial

theorem sound_flatten (fuel place : Nat) (merged : List (Nat × Nat)) :
    Sound (flatten fuel place merged) := by
  induction fuel generalizing place merged with
  | zero => exact .throw trivial
  | succ fuel ih =>
      unfold flatten
      refine (sound_nodeAt _).bind fun node => .get_bind fun assembly _ => ?_
      dsimp only
      split
      · refine (Keeps.forIn fun entry _ => ?_).bind fun _ => .ite (.pure _) ?_
        · exact .ite ((sound_changeNode _ _).bind fun _ => .pure _) (.pure _)
        · exact (sound_changeNode _ _).bind fun _ => sound_modify _
      · refine .guarded trivial ?_
        refine (sound_changeNode _ _).bind fun _ => (sound_nodeAt _).bind fun source => ?_
        split
        on_goal 1 => refine (Keeps.mapM fun source => ?_).bind fun _ => ih _ _
        on_goal 2 => refine Keeps.bind ?_ fun _ => ih _ _
        -- Each merged mapping is flattened before its entries are taken over.
        all_goals
          refine (sound_nodeAt _).bind fun node => ?_
          split
          · exact (ih _ _).bind fun _ => (sound_nodeAt _).bind fun _ => .pure _
          · exact .throw trivial

theorem sound_keyPart (item : Item) : Sound (keyPart item) := by
  unfold keyPart
  split
  · exact .pure _
  · exact .get_bind fun _ _ => .pure _

theorem sound_keyOf (item : Item) : Sound (keyOf item) := by
  unfold keyOf
  split
  · exact .pure _
  · refine .get_bind fun assembly _ => ?_
    split
    · exact (Keeps.mapM sound_keyPart).bind fun _ => .pure _
    · refine (Keeps.mapM fun entry => ?_).bind fun _ => .pure _
      exact (sound_keyPart _).bind fun _ => (sound_keyPart _).bind fun _ => .pure _
    · exact .throw trivial

theorem failsOnly_checkShown (assembly : Assembly) (item : Item) :
    FailsOnly Unforeseen (assembly.checkShown item) := by
  unfold Assembly.checkShown
  split
  · exact (failsOnly_display _).bind fun _ => .pure _
  · exact .pure _

theorem sound_refuseRepeated (entries : List (Value × Item)) (key : Value) (item : Item) :
    Sound (refuseRepeated entries key item) := by
  unfold refuseRepeated
  split
  · exact .pure _
  · refine .get_bind fun assembly _ => (Keeps.lift (failsOnly_ofFault ?_)).bind fun _ =>
      .throw trivial
    refine FailsOnly.bind ?_ fun _ => (failsOnly_checkShown _ _).bind fun _ =>
      failsOnly_checkShown _ _
    exact (failsOnly_display _).bind fun _ => .pure _

theorem sound_pairAt (place : Nat) : Sound (pairAt place) := by
  refine (sound_nodeAt _).bind fun node => ?_
  split
  · exact .pure _
  · exact .throw trivial

section Collections

variable {build : Bool → Nat → Assembler Item} (builds : ∀ deep place, Sound (build deep place))
include builds

theorem sound_entriesAt (deep distinct : Bool) (entries : List (Nat × Nat)) :
    Sound (entriesAt build deep distinct entries) := by
  refine .foldlM fun built entry => ?_
  refine (builds _ _).bind fun item => (sound_keyOf _).bind fun key =>
    (builds _ _).bind fun item => ?_
  split
  · exact .throw .notHashable
  · exact .onlyIf (sound_refuseRepeated _ _ _) (.pure _)

theorem sound_mappingAt (deep : Bool) (place : Nat) : Sound (mappingAt build deep place) := by
  unfold mappingAt
  refine .get_bind fun assembly _ => (sound_flatten _ _ _).bind fun _ => .get_bind fun _ _ => ?_
  refine (sound_nodeAt _).bind fun node => .ite (sound_entriesAt builds _ _ _) ?_
  exact (sound_entriesAt builds _ _ _).bind fun _ => (sound_entriesAt builds _ _ _).bind fun _ =>
    .pure _

theorem sound_orderedEntriesAt (deep : Bool) (items : List Nat) :
    Sound (orderedEntriesAt build deep items) := by
  refine .foldlM fun built item => ?_
  refine (sound_pairAt _).bind fun entry => (builds _ _).bind fun key => ?_
  refine (sound_keyPart _).bind fun key => ?_
  split
  · exact .throw .notHashable
  · split
    · exact .throw .keyRepeated
    · exact (builds _ _).bind fun _ => .pure _

theorem sound_collectionAt (deep : Bool) (place : Nat) : Sound (collectionAt build deep place) := by
  unfold collectionAt
  refine (sound_nodeAt _).bind fun node => ?_
  split
  · exact (Keeps.mapM (builds deep)).bind fun _ => .pure _
  · refine (Keeps.mapM fun item => ?_).bind fun _ => .pure _
    exact (sound_pairAt _).bind fun _ => (builds _ _).bind fun _ =>
      (builds _ _).bind fun _ => .pure _
  · exact (sound_orderedEntriesAt builds _ _).bind fun _ => .pure _
  · exact (sound_mappingAt builds _ _).bind fun _ => .pure _
  · exact (sound_mappingAt builds _ _).bind fun _ => .pure _
  · exact .throw trivial

theorem sound_fill (deep : Bool) (place : Nat) : Sound (fill build deep place) :=
  (sound_collectionAt builds _ _).bind fun _ => sound_modify _

end Collections

theorem sound_scalarAt (place : Nat) : Sound (scalarAt place) := by
  refine .get_bind fun assembly _ => (sound_nodeAt _).bind fun node => ?_
  split
  · exact .throw trivial
  · exact .throw trivial
  · exact .throw trivial
  · exact .throw trivial
  · exact .throw trivial
  · exact (sound_scalarText _ _).bind fun _ =>
      (Keeps.lift (failsOnly_scalarValue _ _ _)).bind fun _ => .pure _

theorem sound_build (fuel : Nat) (deep : Bool) (place : Nat) : Sound (build fuel deep place) := by
  induction fuel generalizing deep place with
  | zero => exact .throw trivial
  | succ fuel ih =>
      unfold build
      refine .get_bind fun assembly _ => ?_
      split
      · exact .pure _
      · refine .ite (.pure _) <| (Keeps.set trivial).bind fun _ =>
          (sound_nodeAt _).bind fun node => ?_
        have finished (item : Item) : Sound (do
            modify fun assembly =>
              { assembly with
                items := assembly.items.setIfInBounds place (some item)
                entered := assembly.entered.erase place }
            return item) :=
          (sound_modify _).bind fun _ => .pure _
        dsimp only
        split
        · exact (sound_scalarAt _).bind finished
        · refine (sound_modify _).bind fun _ => .onlyIf (sound_fill ih _ _) ?_
          exact (Keeps.pure _).bind finished

theorem sound_fillWaiting (depth fuel : Nat) : Sound (fillWaiting depth fuel) := by
  induction fuel with
  | zero => exact .pure _
  | succ fuel ih =>
      unfold fillWaiting
      refine .get_bind fun assembly _ => ?_
      split
      · exact .pure _
      · exact (sound_modify _).bind fun _ => (sound_fill (sound_build depth) _ _).bind fun _ => ih

theorem sound_root (place : Nat) : Sound (root place) := by
  refine .get_bind fun assembly _ => (sound_build _ _ _).bind fun item => ?_
  refine (sound_fillWaiting _ _).bind fun _ => .get_bind fun assembly _ => ?_
  split
  · exact .pure _
  · exact .throw trivial

end Assembler

theorem failsOnly_value (graph : Graph) (version : Version) (place : Nat) :
    FailsOnly Reason.Sound (graph.value version place) := by
  have assembled := (Assembler.sound_root place (.ofGraph graph version) trivial).1
  exact assembled.bind fun _ => .pure _

/-- Reading YAML ends in no other faults than those that a text can lead to. -/
theorem unforeseen_of_read_eq_faulty {text : List Char} {fault : Fault}
    (failed : read text = .error (.faulty fault)) : Unforeseen fault := by
  have reads : FailsOnly Reason.Sound (read text) := by
    unfold read
    split
    rename_i lexed ending lexing
    have cut : ∀ reason, ending = some reason → reason.Sound := by
      rintro reason rfl
      exact sound_of_tokens lexing
    refine (failsOnly_readNodes cut).bind fun nodes => ?_
    dsimp only
    split
    · exact (failsOnly_value _ _ _)
    · exact .pure _
  exact reads _ failed

end ClosedShape.Yaml
