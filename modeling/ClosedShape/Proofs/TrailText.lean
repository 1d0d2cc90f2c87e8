import ClosedShape.Proofs.JsonText
import ClosedShape.Trail
import Mathlib

/-!
# Reading a rendered trail

Every segment of a trail is rendered as one piece of the text, and a dot or an opening bracket marks
where a piece begins.  As long as the names in a trail are not empty and hold neither of these
marks, the text can be cut at the marks and read back, so that no other trail of this kind is
rendered as the same text.
-/

namespace ClosedShape

namespace Segment

/-- What a segment adds to a trail of which something has been rendered already. -/
def piece : Segment → Text
  | .index position => .char '[' :: (Text.ofString (toString position) ++ [.char ']'])
  | .flag truth => .char '[' :: (Text.ofString (if truth then "True" else "False") ++ [.char ']'])
  | .name field => .char '.' :: field

/-- What a segment adds at the start of a trail, where names have no dot. -/
def firstPiece : Segment → Text
  | .name field => field
  | segment => segment.piece

/-- The marks that a piece can begin with. -/
def isMark (point : CodePoint) : Bool := point == .char '.' || point == .char '['

/-- Indices, and the names that are not empty and without marks. -/
def IsPlain : Segment → Prop
  | .index _ => True
  | .flag _ => False
  | .name field => field ≠ [] ∧ .char '.' ∉ field ∧ .char '[' ∉ field

/-- The segment that a piece stands for.  A piece without a mark is a name at the start. -/
def ofPiece : Text → Segment
  | .char '[' :: rest => .index (((Text.string? rest.dropLast).bind String.toInt?).getD 0)
  | .char '.' :: rest => .name rest
  | letters => .name letters

theorem ofPiece_piece {segment : Segment} (plain : segment.IsPlain) :
    ofPiece segment.piece = segment := by
  cases segment with
  | index position =>
      simp [piece, ofPiece, Int.toString_eq_repr, Int.toInt?_repr]
  | flag => exact plain.elim
  | name field => simp [piece, ofPiece]

theorem ofPiece_firstPiece {segment : Segment} (plain : segment.IsPlain) :
    ofPiece segment.firstPiece = segment := by
  cases segment with
  | index | flag => exact ofPiece_piece plain
  | name field =>
      obtain ⟨_, noDot, noBracket⟩ := plain
      change ofPiece field = .name field
      unfold ofPiece
      split
      case h_1 rest => simp at noBracket
      case h_2 rest => simp at noDot
      case h_3 => rfl

theorem isMark_eq_false_of_isDigit {c : Char} (digit : c.isDigit) : isMark (.char c) = false := by
  have noDot : c ≠ '.' := by
    rintro rfl
    exact absurd digit (by decide)
  have noBracket : c ≠ '[' := by
    rintro rfl
    exact absurd digit (by decide)
  simp [isMark, noDot, noBracket]

theorem isMark_eq_false_of_mem_toString {position : Int} {c : Char}
    (member : c ∈ (toString position).toList) : isMark (.char c) = false := by
  have digits {c : Char} (member : c ∈ Nat.toDigits 10 position.natAbs) :
      isMark (.char c) = false :=
    isMark_eq_false_of_isDigit (Nat.isDigit_of_mem_toDigits (by decide) (by decide) member)
  rw [Json.toList_toString] at member
  split at member
  · rcases List.mem_cons.mp member with rfl | member
    · rfl
    · exact digits member
  · exact digits member

theorem isMark_eq_false_of_mem_name {field : Text} (plain : (name field).IsPlain)
    {point : CodePoint} (member : point ∈ field) : isMark point = false := by
  obtain ⟨_, noDot, noBracket⟩ := plain
  have differsFromDot : point ≠ .char '.' := ne_of_mem_of_not_mem member noDot
  have differsFromBracket : point ≠ .char '[' := ne_of_mem_of_not_mem member noBracket
  simp [isMark, differsFromDot, differsFromBracket]

/-- A piece has one mark, and begins with it. -/
theorem exists_piece_eq_cons {segment : Segment} (plain : segment.IsPlain) :
    ∃ mark letters, segment.piece = mark :: letters ∧ isMark mark = true ∧
      ∀ point ∈ letters, isMark point = false := by
  cases segment with
  | index position =>
      refine ⟨.char '[', _, rfl, rfl, fun point member => ?_⟩
      rcases List.mem_append.mp member with inNumber | isClosing
      · obtain ⟨c, inDigits, rfl⟩ := List.mem_map.mp inNumber
        exact isMark_eq_false_of_mem_toString inDigits
      · obtain rfl := List.mem_singleton.mp isClosing
        rfl
  | flag => exact plain.elim
  | name field => exact ⟨.char '.', _, rfl, rfl, fun _ => isMark_eq_false_of_mem_name plain⟩

theorem exists_firstPiece_eq_cons {segment : Segment} (plain : segment.IsPlain) :
    ∃ letter letters, segment.firstPiece = letter :: letters ∧
      ∀ point ∈ letters, isMark point = false := by
  cases segment with
  | index | flag =>
      obtain ⟨mark, letters, equal, _, unmarked⟩ := exists_piece_eq_cons plain
      exact ⟨mark, letters, equal, unmarked⟩
  | name field =>
      obtain ⟨letter, letters, equal⟩ := List.exists_cons_of_ne_nil plain.1
      refine ⟨letter, letters, equal, fun point member => ?_⟩
      change field = letter :: letters at equal
      exact isMark_eq_false_of_mem_name plain (equal ▸ List.mem_cons_of_mem _ member)

end Segment

namespace Trail

theorem extend_of_ne_nil {rendered : Text} (written : rendered ≠ []) (segment : Segment) :
    extend rendered segment = rendered ++ segment.piece := by
  cases segment <;> simp [extend, Segment.piece, written, Text.ofString]

theorem extend_nil (segment : Segment) : extend [] segment = segment.firstPiece := by
  cases segment <;> rfl

theorem extend_eq_nil_iff {rendered : Text} {segment : Segment} :
    extend rendered segment = [] ↔ rendered = [] ∧ segment = .name [] := by
  cases segment with
  | index | flag => simp [extend, Text.ofString]
  | name field => by_cases written : rendered = [] <;> simp [extend, written]

theorem foldl_extend_eq_nil_iff {trail : Trail} {rendered : Text} :
    trail.foldl extend rendered = [] ↔
      rendered = [] ∧ ∀ segment ∈ trail, segment = .name [] := by
  induction trail generalizing rendered with
  | nil => simp
  | cons segment trail ih =>
      rw [List.foldl_cons, ih, extend_eq_nil_iff, List.forall_mem_cons, and_assoc]

/-- Only the trails of empty names leave no text. -/
theorem render_eq_nil_iff {trail : Trail} :
    trail.render = [] ↔ ∀ segment ∈ trail, segment = .name [] := by
  simp [render, foldl_extend_eq_nil_iff]

/-- The pieces of a rendered trail, in order. -/
def pieces : Trail → List Text
  | [] => []
  | first :: rest => first.firstPiece :: rest.map Segment.piece

theorem foldl_extend_of_ne_nil {trail : Trail} {rendered : Text} (written : rendered ≠ []) :
    trail.foldl extend rendered = rendered ++ (trail.map Segment.piece).flatten := by
  induction trail generalizing rendered with
  | nil => simp
  | cons segment trail ih =>
      have stillWritten : extend rendered segment ≠ [] :=
        fun empty => written (extend_eq_nil_iff.mp empty).1
      rw [List.foldl_cons, ih stillWritten, extend_of_ne_nil written, List.map_cons,
        List.flatten_cons, List.append_assoc]

section Plain

variable {trail : Trail}

/-- Trails whose segments are all plain. -/
def IsPlain (trail : Trail) : Prop := ∀ segment ∈ trail, segment.IsPlain

theorem render_eq_flatten_pieces (plain : trail.IsPlain) :
    trail.render = trail.pieces.flatten := by
  cases trail with
  | nil => rfl
  | cons first rest =>
      have written : extend [] first ≠ [] := fun empty => by
        have plainFirst := plain first (by simp)
        rw [(extend_eq_nil_iff.mp empty).2] at plainFirst
        exact plainFirst.1 rfl
      change rest.foldl extend (extend [] first) = _
      rw [foldl_extend_of_ne_nil written, extend_nil]
      rfl

/-- Whether a code point belongs to the same piece as the one before it. -/
def continues (_ next : CodePoint) : Bool := !Segment.isMark next

/-- The trail that a text is cut into, with a new segment at each mark. -/
def ofText (text : Text) : Trail := (text.splitBy continues).map Segment.ofPiece

theorem isChain_continues {letter : CodePoint} {letters : Text}
    (unmarked : ∀ point ∈ letters, Segment.isMark point = false) :
    (letter :: letters).IsChain fun previous next => continues previous next = true := by
  have each : ∀ next ∈ letters, continues letter next = true := fun next member => by
    simp [continues, unmarked next member]
  exact (List.pairwise_cons.mpr
    ⟨each, List.pairwise_of_forall_mem_list fun _ _ next member => each next member⟩).isChain

/-- Every piece after the first has one mark, and begins with it. -/
theorem exists_eq_cons_of_mem_map_piece (plain : trail.IsPlain) {piece : Text}
    (member : piece ∈ trail.map Segment.piece) :
    ∃ mark letters, piece = mark :: letters ∧ Segment.isMark mark = true ∧
      ∀ point ∈ letters, Segment.isMark point = false := by
  obtain ⟨segment, segmentMember, rfl⟩ := List.mem_map.mp member
  exact Segment.exists_piece_eq_cons (plain segment segmentMember)

/-- A piece after the first does not continue whatever is written before it. -/
theorem cut_before_piece (plain : trail.IsPlain) {previous piece : Text}
    (written : previous ≠ []) (member : piece ∈ trail.map Segment.piece) :
    ∃ (left : previous ≠ []) (right : piece ≠ []),
      continues (previous.getLast left) (piece.head right) = false := by
  obtain ⟨mark, letters, rfl, isMark, _⟩ := exists_eq_cons_of_mem_map_piece plain member
  exact ⟨written, List.cons_ne_nil _ _, by simp [continues, isMark]⟩

/-- Cutting at the marks gives the pieces back. -/
theorem splitBy_flatten_pieces (plain : trail.IsPlain) :
    trail.pieces.flatten.splitBy continues = trail.pieces := by
  cases trail with
  | nil => rfl
  | cons first rest =>
      obtain ⟨letter, letters, isFirst, unmarked⟩ :=
        Segment.exists_firstPiece_eq_cons (plain first (by simp))
      have plainRest : IsPlain rest := fun segment member =>
        plain segment (List.mem_cons_of_mem _ member)
      rw [pieces, isFirst]
      apply List.splitBy_flatten
      · intro isEmpty
        rcases List.mem_cons.mp isEmpty with equal | member
        · cases equal
        · obtain ⟨_, _, equal, _⟩ := exists_eq_cons_of_mem_map_piece plainRest member
          cases equal
      · intro piece member
        rcases List.mem_cons.mp member with rfl | member
        · exact isChain_continues unmarked
        · obtain ⟨_, _, rfl, _, unmarked⟩ := exists_eq_cons_of_mem_map_piece plainRest member
          exact isChain_continues unmarked
      · refine (List.pairwise_cons.mpr ⟨fun piece member => ?_,
          List.pairwise_of_forall_mem_list fun previous earlier piece member => ?_⟩).isChain
        · exact cut_before_piece plainRest (List.cons_ne_nil _ _) member
        · obtain ⟨_, _, rfl, _⟩ := exists_eq_cons_of_mem_map_piece plainRest earlier
          exact cut_before_piece plainRest (List.cons_ne_nil _ _) member

theorem ofText_render (plain : trail.IsPlain) : ofText trail.render = trail := by
  rw [ofText, render_eq_flatten_pieces plain, splitBy_flatten_pieces plain]
  cases trail with
  | nil => rfl
  | cons first rest =>
      have others : (rest.map Segment.piece).map Segment.ofPiece = rest := by
        have each : ∀ segment ∈ rest, Segment.ofPiece segment.piece = segment :=
          fun segment member =>
            Segment.ofPiece_piece (plain segment (List.mem_cons_of_mem _ member))
        rw [List.map_map]
        exact (List.map_congr_left each).trans (List.map_id rest)
      rw [pieces, List.map_cons, Segment.ofPiece_firstPiece (plain first (by simp)), others]

/-- A plain trail can be read back from its text, so no two of them are rendered alike. -/
theorem render_unambiguous {first second : Trail} (plain : first.IsPlain)
    (otherPlain : second.IsPlain) :
    ofText first.render = first ∧ (first.render = second.render → first = second) := by
  refine ⟨ofText_render plain, fun same => ?_⟩
  calc
    first = ofText first.render := (ofText_render plain).symm
    _ = ofText second.render := by rw [same]
    _ = second := ofText_render otherPlain

/-- A closing bracket in a name does not make an index of it. -/
theorem render_unambiguous_beside_bracket :
    let first : Trail := [.index (-1), .name "apps", .index 0]
    let second : Trail := [.index (-1), .name "apps", .name "0]"]
    first.IsPlain ∧ second.IsPlain ∧ ofText first.render = first ∧
      first.render ≠ second.render := by
  intro first second
  have plain : first.IsPlain := by
    simp [first, IsPlain, Segment.IsPlain]
  have otherPlain : second.IsPlain := by
    simp [second, IsPlain, Segment.IsPlain]
  obtain ⟨readBack, unambiguous⟩ := render_unambiguous plain otherPlain
  have differ : first ≠ second := by decide
  exact ⟨plain, otherPlain, readBack, fun same => differ (unambiguous same)⟩

end Plain

end Trail

end ClosedShape
