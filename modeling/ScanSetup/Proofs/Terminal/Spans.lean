import ScanSetup.Proofs.Terminal.Pairs

set_option autoImplicit false

namespace ScanSetup.Terminal

/-! ### Tilings -/

/-- Spans that are not empty and in order, and together cover the offsets from `first` up to, and
without, `last`. -/
structure Tiling (first last : Nat) (spans : List Styled.Span) : Prop where
  filled : ∀ span ∈ spans, span.first < span.last
  ordered : spans.Pairwise (·.last ≤ ·.first)
  covers : ∀ offset, first ≤ offset ∧ offset < last ↔
    ∃ span ∈ spans, span.first ≤ offset ∧ offset < span.last

theorem Tiling.cons {last : Nat} {spans : List Styled.Span} (span : Styled.Span)
    (some : span.first < span.last) (tiling : Tiling span.last last spans)
    (bound : span.last ≤ last) : Tiling span.first last (span :: spans) where
  filled := List.forall_mem_cons.mpr ⟨some, tiling.filled⟩
  ordered := by
    refine List.pairwise_cons.mpr ⟨fun other member => ?_, tiling.ordered⟩
    have inside : ∃ span ∈ spans, span.first ≤ other.first ∧ other.first < span.last :=
      ⟨other, member, le_refl _, tiling.filled other member⟩
    exact ((tiling.covers other.first).mpr inside).1
  covers offset := by
    have later := tiling.covers offset
    simp only [List.mem_cons, exists_eq_or_imp, ← later]
    omega

/-- The spans of pieces, none of which is empty, tile the pieces. -/
theorem spansFrom_tiling (offset : Nat) (pieces : List Piece)
    (filled : ∀ piece ∈ pieces, piece.text ≠ "") :
    Tiling offset (offset + (String.join (pieces.map (·.text))).length)
      (Styled.spansFrom offset pieces) := by
  induction pieces generalizing offset with
  | nil => exact ⟨by simp [Styled.spansFrom], .nil, by simp [Styled.spansFrom]⟩
  | cons piece rest ih =>
    obtain ⟨here, others⟩ := List.forall_mem_cons.mp filled
    have positive : 0 < piece.text.length := by
      rw [Nat.pos_iff_ne_zero]
      simpa using here
    have tiling := ih (offset + piece.text.length) others
    rw [Nat.add_assoc] at tiling
    rw [List.map_cons, String.join_cons, String.length_append]
    refine .cons ⟨offset, offset + piece.text.length, piece.style⟩ ?_ tiling ?_
    · exact Nat.lt_add_of_pos_right positive
    · exact Nat.add_le_add_left (Nat.le_add_right _ _) offset

/-! ### Messages without hidden characters -/

def Visible (cs : List Char) : Prop := ∀ c ∈ cs, isHidden c = false

instance (cs : List Char) : Decidable (Visible cs) :=
  decidable_of_iff (cs.all fun c => !isHidden c) (by simp [Visible])

variable {cs : List Char} {part : Stretch} {parts : List Stretch}

theorem shown_of_visible (visible : Visible cs) : shown cs = String.ofList cs := by
  have kept : cs.filter (!isHidden ·) = cs :=
    List.filter_eq_self.mpr fun c member => by simp [visible c member]
  rw [shown, kept]

theorem length_shown (visible : Visible cs) : (shown cs).length = cs.length := by
  rw [shown_of_visible visible, String.length_ofList]

theorem visible_plain {text : List Char} (visible : Visible (Stretch.text (.plain text))) :
    Visible text :=
  visible

theorem visible_pair {key value : List Char} (visible : Visible (Stretch.text (.pair key value))) :
    Visible key ∧ Visible value :=
  ⟨fun c member => visible c (List.mem_append_left _ member),
    fun c member => visible c (List.mem_append_right _ (List.mem_cons_of_mem _ member))⟩

theorem Stretch.join_pieces (visible : Visible part.text) :
    (String.join (part.pieces.map (·.text))).toList = part.text := by
  cases part with
  | plain text => simp [Stretch.pieces, Stretch.text, shown_of_visible (visible_plain visible)]
  | pair key value =>
    obtain ⟨key_visible, value_visible⟩ := visible_pair visible
    simp [Stretch.pieces, Stretch.text, shown_of_visible key_visible,
      shown_of_visible value_visible]

theorem Stretch.pieces_filled (visible : Visible part.text) (filled : part.Filled) :
    ∀ piece ∈ part.pieces, piece.text ≠ "" := by
  cases part with
  | plain text =>
    have some : text ≠ [] := filled
    simpa [Stretch.pieces, shown_of_visible (visible_plain visible)] using some
  | pair key value =>
    obtain ⟨key_visible, value_visible⟩ := visible_pair visible
    have some : key ≠ [] ∧ value ≠ [] := filled
    simpa [Stretch.pieces, shown_of_visible key_visible, shown_of_visible value_visible] using some

/-! ### Emphasis -/

def emphasised (span : Styled.Span) : Bool := span.style != .dimmed

def Found.spans (pair : Found) : List Styled.Span :=
  let valueFirst := pair.first + (pair.key.length + 1)
  [⟨pair.first, pair.first + pair.key.length, .boldIn .magenta⟩,
    ⟨valueFirst, valueFirst + pair.value.length, valueStyle pair.key⟩]

theorem valueStyle_ne_dimmed (key : List Char) : valueStyle key ≠ .dimmed := by
  unfold valueStyle
  split <;> decide

/-- Of the spans of stretches those of the keys and values of their pairs are not dim. -/
theorem spansFrom_emphasised (offset : Nat) (visible : ∀ part ∈ parts, Visible part.text) :
    (Styled.spansFrom offset (parts.flatMap Stretch.pieces)).filter emphasised =
      (foundFrom offset parts).flatMap Found.spans := by
  induction parts generalizing offset with
  | nil => rfl
  | cons part parts ih =>
    obtain ⟨here, others⟩ := List.forall_mem_cons.mp visible
    cases part with
    | plain text =>
      have dim (first last : Nat) : emphasised ⟨first, last, .dimmed⟩ = false := rfl
      simp [Stretch.pieces, Styled.spansFrom, foundFrom, dim, length_shown (visible_plain here),
        ih _ others]
    | pair key value =>
      obtain ⟨key_visible, value_visible⟩ := visible_pair here
      have dim (first last : Nat) : emphasised ⟨first, last, .dimmed⟩ = false := rfl
      have marked (first last : Nat) : emphasised ⟨first, last, .boldIn .magenta⟩ = true := rfl
      have valued (first last : Nat) : emphasised ⟨first, last, valueStyle key⟩ = true := by
        simp [emphasised, valueStyle_ne_dimmed]
      have equals : "=".length = 1 := rfl
      simp [Stretch.pieces, Styled.spansFrom, foundFrom, Found.spans, dim, marked, valued, equals,
        length_shown key_visible, length_shown value_visible, Nat.add_assoc, ih _ others]

theorem join_pieces (visible : ∀ part ∈ parts, Visible part.text) :
    (String.join ((parts.flatMap Stretch.pieces).map (·.text))).toList =
      parts.flatMap Stretch.text := by
  induction parts with
  | nil => rfl
  | cons part parts ih =>
    obtain ⟨here, others⟩ := List.forall_mem_cons.mp visible
    have first := Stretch.join_pieces here
    have rest := ih others
    rw [String.toList_join] at first rest ⊢
    rw [List.flatMap_cons, List.map_append, List.flatMap_append, first, rest, List.flatMap_cons]

theorem visible_stretches {message : String} (visible : Visible message.toList) :
    ∀ part ∈ stretches message, Visible part.text := by
  intro part member c inside
  have whole := (stretches_divided message).text
  exact visible c (whole ▸ List.mem_flatMap.mpr ⟨part, member, inside⟩)

theorem join_highlight {message : String} (visible : Visible message.toList) :
    String.join ((highlight message).pieces.map (·.text)) = message := by
  rw [← String.toList_inj, ← (stretches_divided message).text]
  exact join_pieces (visible_stretches visible)

theorem plain_highlight {message : String} (visible : Visible message.toList) :
    (highlight message).plain = "[debug] " ++ message := by
  rw [Styled.plain, join_highlight visible]
  rfl

theorem spans_highlight (message : String) :
    (highlight message).spans = Styled.spansFrom 8 (highlight message).pieces := by
  have head : "[debug] ".length = 8 := by decide
  exact congrArg (Styled.spansFrom · (highlight message).pieces) head

/-- The search finds these pairs in a message, and what is not dim are their keys and values. -/
structure Emphasises (message : String) (found : List Found) : Prop where
  search : ∀ other, Search 8 message.toList other ↔ other = found
  spans : (highlight message).spans.filter emphasised = found.flatMap Found.spans

theorem emphasises_of_search {message : String} {found : List Found}
    (visible : Visible message.toList) (search : Search 8 message.toList found) :
    Emphasises message found where
  search other := by
    constructor
    · exact fun again => again.unique search
    · rintro rfl
      exact search
  spans := by
    rw [search.unique ((stretches_divided message).search 8), spans_highlight]
    exact spansFrom_emphasised 8 (visible_stretches visible)

theorem tiling_highlight {message : String} (visible : Visible message.toList) :
    Tiling 8 (8 + message.length) (highlight message).spans := by
  have filled : ∀ piece ∈ (highlight message).pieces, piece.text ≠ "" := by
    intro piece member
    obtain ⟨part, part_member, inside⟩ := List.mem_flatMap.mp member
    exact part.pieces_filled (visible_stretches visible part part_member)
      ((stretches_divided message).filled part part_member) piece inside
  have tiling := spansFrom_tiling 8 (highlight message).pieces filled
  rwa [join_highlight visible, ← spans_highlight] at tiling

/-- A message without characters that are hidden stands behind the head as it is. The spans tile it
from its first character to its last one, and those that are not dim are the keys and the values of
the pairs that the search from the left finds, in order. -/
theorem highlight_spans (message : String) (visible : Visible message.toList) :
    (highlight message).plain = "[debug] " ++ message ∧
      Tiling 8 (8 + message.length) (highlight message).spans ∧
      ∃ found, Emphasises message found :=
  ⟨plain_highlight visible, tiling_highlight visible, foundFrom 8 (stretches message),
    emphasises_of_search visible ((stretches_divided message).search 8)⟩

/-- A pair right behind another one, a quotation that does not end, and an equals sign without a
value. -/
theorem highlight_spans_adjacentPairs :
    Visible "a='x y'b=\"c d= e".toList ∧
      Tiling 8 24 (highlight "a='x y'b=\"c d= e").spans ∧
      (highlight "a='x y'b=\"c d= e").spans.filter emphasised =
        [⟨8, 9, .boldIn .magenta⟩, ⟨10, 15, .boldIn .green⟩, ⟨15, 16, .boldIn .magenta⟩,
          ⟨17, 19, .boldIn .green⟩] := by
  have visible : Visible "a='x y'b=\"c d= e".toList := by decide +kernel
  obtain ⟨-, tiling, -⟩ := highlight_spans _ visible
  exact ⟨visible, tiling, by decide +kernel⟩

end ScanSetup.Terminal
