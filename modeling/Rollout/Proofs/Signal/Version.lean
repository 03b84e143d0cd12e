import Rollout.Proofs.Number.Digits
import Rollout.Proofs.Signal.Faults

/-!
# The numbers of a version

A text spells a version when it is made of one to five segments of digits with points between them.
Its five numbers are those of the segments, and zeros for the segments that are missing. They are
what the reader gives. Zeros in front of a segment and segments of zeros at the end leave them as
they are.

## Implementation notes

The grammar is stated on segments that are joined, while the reader cuts a text into pieces. The
two agree because a point is no digit.
-/

namespace Rollout.Signal

open Text

namespace Version

/-- The text of segments with points between them. -/
def join (segments : List (List Char)) : List Char := ['.'].intercalate segments

/-- A segment has digits and nothing else, and not too many of them. -/
structure IsSegment (segment : List Char) : Prop where
  ne_nil : segment ≠ []
  digits : ∀ c ∈ segment, isAsciiDigit c = true
  short : segment.length ≤ Numeral.maxDigits

instance decidableIsSegment (segment : List Char) : Decidable (IsSegment segment) :=
  decidable_of_iff
    (segment ≠ [] ∧ segment.all isAsciiDigit = true ∧ segment.length ≤ Numeral.maxDigits)
    ⟨fun ⟨h, h', h''⟩ => ⟨h, List.all_eq_true.mp h', h''⟩,
      fun ⟨h, h', h''⟩ => ⟨h, List.all_eq_true.mpr h', h''⟩⟩

/-- The segments of a version. -/
structure AreSegments (segments : List (List Char)) : Prop where
  ne_nil : segments ≠ []
  length_le : segments.length ≤ size
  each : ∀ segment ∈ segments, IsSegment segment

instance decidableAreSegments (segments : List (List Char)) : Decidable (AreSegments segments) :=
  decidable_of_iff
    (segments ≠ [] ∧ segments.length ≤ size ∧ ∀ segment ∈ segments, IsSegment segment)
    ⟨fun ⟨h, h', h''⟩ => ⟨h, h', h''⟩, fun ⟨h, h', h''⟩ => ⟨h, h', h''⟩⟩

/-- The numbers of segments, filled up with zeros. -/
def numbers (segments : List (List Char)) : List Nat :=
  segments.map digitsToNat ++ List.replicate (size - segments.length) 0

/-- A text spells a version with the given numbers. -/
def Spells (text : List Char) (ns : List Nat) : Prop :=
  ∃ segments, AreSegments segments ∧ text = join segments ∧ ns = numbers segments

/-- A text is a version. -/
def IsVersion (text : List Char) : Prop := ∃ ns, Spells text ns

/-! ## Reading -/

theorem isPiece_iff (piece : List Char) :
    isPiece piece = true ↔ piece ≠ [] ∧ ∀ c ∈ piece, isAsciiDigit c = true := by
  simp [isPiece]

theorem point_not_mem {piece : List Char} (h : isPiece piece = true) : '.' ∉ piece := by
  intro hpoint
  exact absurd (((isPiece_iff piece).mp h).2 '.' hpoint) (by decide)

/-- The pieces of a text are the segments that it joins. -/
theorem pieces?_eq_some_iff (text : List Char) (pieces : List (List Char)) :
    pieces? text = some pieces ↔
      text = join pieces ∧ pieces ≠ [] ∧ pieces.length ≤ size ∧
        ∀ piece ∈ pieces, isPiece piece = true := by
  simp only [pieces?, splitAt_eq_splitOn, Bool.and_eq_true, decide_eq_true_eq, List.all_eq_true]
  constructor
  · intro h
    split at h
    · rename_i hform
      cases h
      exact ⟨(List.intercalate_splitOn '.').symm, List.splitOn_ne_nil '.' text, hform⟩
    · cases h
  · rintro ⟨rfl, hne, hform⟩
    have hsplit : (join pieces).splitOn '.' = pieces :=
      List.splitOn_intercalate '.' (fun piece hpiece => point_not_mem (hform.2 piece hpiece)) hne
    rw [hsplit, if_pos hform]

theorem readPieces_eq {pieces : List (List Char)}
    (h : ∀ piece ∈ pieces, piece.length ≤ Numeral.maxDigits) :
    readPieces pieces = .ok (pieces.map digitsToNat) := by
  induction pieces with
  | nil => rfl
  | cons piece pieces ih =>
      rw [List.forall_mem_cons] at h
      have hpiece : readPiece piece = .ok (digitsToNat piece) := if_neg (Nat.not_lt.mpr h.1)
      rw [readPieces, hpiece, ih h.2, List.map_cons]

theorem ofParts_map (segments : List (List Char)) :
    ofParts (segments.map digitsToNat) = ⟨numbers segments⟩ := by
  rw [ofParts, numbers, List.length_map]

theorem read_of_spells {text : List Char} {ns : List Nat} (h : Spells text ns) :
    read text = .ok (some ⟨ns⟩) := by
  obtain ⟨segments, hsegments, htext, rfl⟩ := h
  have hpieces : pieces? text = some segments := by
    rw [pieces?_eq_some_iff]
    refine ⟨htext, hsegments.ne_nil, hsegments.length_le, fun segment hmem => ?_⟩
    exact (isPiece_iff segment).mpr ⟨(hsegments.each segment hmem).ne_nil,
      (hsegments.each segment hmem).digits⟩
  have hread := readPieces_eq fun segment hmem => (hsegments.each segment hmem).short
  simp only [read, hpieces, hread, ofParts_map]

theorem spells_of_pieces? {text : List Char} {pieces : List (List Char)}
    (hpieces : pieces? text = some pieces) (hshort : ¬ TooLong text) :
    Spells text (numbers pieces) := by
  obtain ⟨htext, hne, hlength, hform⟩ := (pieces?_eq_some_iff text pieces).mp hpieces
  refine ⟨pieces, ⟨hne, hlength, fun piece hmem => ?_⟩, htext, rfl⟩
  obtain ⟨hpiece, hdigits⟩ := (isPiece_iff piece).mp (hform piece hmem)
  have hlong : ¬ Numeral.maxDigits < piece.length := fun hlong =>
    hshort ⟨pieces, hpieces, piece, hmem, hlong⟩
  exact ⟨hpiece, hdigits, Nat.not_lt.mp hlong⟩

theorem read_of_not_isVersion {text : List Char} (h : ¬ IsVersion text)
    (hshort : ¬ TooLong text) : read text = .ok none := by
  cases hpieces : pieces? text with
  | none => simp only [read, hpieces]
  | some pieces => exact absurd ⟨_, spells_of_pieces? hpieces hshort⟩ h

theorem read_ok_of_not_tooLong {text : List Char} (h : ¬ TooLong text) :
    ∃ v, read text = .ok v := by
  cases hread : read text with
  | error e => exact absurd ((read_error_iff _).mp ⟨e, hread⟩) h
  | ok v => exact ⟨v, rfl⟩

/-- The reader accepts the versions, and gives their numbers. -/
theorem read_eq_some_iff (text : List Char) (ns : List Nat) :
    read text = .ok (some ⟨ns⟩) ↔ Spells text ns := by
  refine ⟨fun h => ?_, read_of_spells⟩
  have hshort : ¬ TooLong text := by
    rw [← read_error_iff, h]
    rintro ⟨e, he⟩
    cases he
  by_cases hversion : IsVersion text
  · obtain ⟨ms, hms⟩ := hversion
    rw [read_of_spells hms] at h
    cases h
    exact hms
  · rw [read_of_not_isVersion hversion hshort] at h
    cases h

/-- A text spells one version at most. -/
theorem Spells.unique {text : List Char} {ns ms : List Nat} (hn : Spells text ns)
    (hm : Spells text ms) : ns = ms := by
  have hread := (read_of_spells hn).symm.trans (read_of_spells hm)
  simpa using hread

theorem Spells.not_tooLong {text : List Char} {ns : List Nat} (h : Spells text ns) :
    ¬ TooLong text := by
  rw [← read_error_iff, read_of_spells h]
  rintro ⟨e, he⟩
  cases he

theorem Spells.length_eq {text : List Char} {ns : List Nat} (h : Spells text ns) :
    ns.length = size := by
  obtain ⟨segments, hsegments, _, rfl⟩ := h
  have hlength := hsegments.length_le
  rw [numbers, List.length_append, List.length_map, List.length_replicate]
  omega

/-! ## Zeros -/

/-- Segments are written with more zeros: zeros in front of their digits, and segments of a single
zero after the last one. -/
inductive Padded : List (List Char) → List (List Char) → Prop
  | after (count : Nat) : Padded [] (List.replicate count ['0'])
  | cons {segment : List Char} {segments padded : List (List Char)} (count : Nat)
      (rest : Padded segments padded) :
      Padded (segment :: segments) ((List.replicate count '0' ++ segment) :: padded)

/-- A version is written with more zeros, and still is a version. -/
def Pads (text padded : List Char) : Prop :=
  ∃ segments others, AreSegments segments ∧ AreSegments others ∧ Padded segments others ∧
    text = join segments ∧ padded = join others

theorem digitsToNat_zeros_append (count : Nat) (segment : List Char) :
    digitsToNat (List.replicate count '0' ++ segment) = digitsToNat segment := by
  have hzeros : digitsToNat (List.replicate count '0') = 0 :=
    digitsToNat_of_zeros fun c hc => List.eq_of_mem_replicate hc
  rw [digitsToNat_append, hzeros, Nat.mul_zero, Nat.zero_add]

/-- More zeros do not change the numbers, as long as they are not more than there is room for. -/
theorem Padded.map_digitsToNat {segments padded : List (List Char)} (h : Padded segments padded)
    {room : Nat} (hroom : padded.length ≤ room) :
    padded.map digitsToNat ++ List.replicate (room - padded.length) 0 =
      segments.map digitsToNat ++ List.replicate (room - segments.length) 0 := by
  induction h generalizing room with
  | after count =>
      have hzero : digitsToNat ['0'] = 0 := rfl
      rw [List.length_replicate] at hroom
      rw [List.map_replicate, hzero, List.length_replicate, List.replicate_append_replicate]
      simp [hroom]
  | @cons segment segments padded count rest ih =>
      cases room with
      | zero => cases hroom
      | succ room =>
          have htail := ih (Nat.le_of_succ_le_succ hroom)
          rw [List.map_cons, List.map_cons, digitsToNat_zeros_append, List.length_cons,
            List.length_cons, Nat.succ_sub_succ, Nat.succ_sub_succ, List.cons_append, htail,
            List.cons_append]

theorem Pads.spells {text padded : List Char} (h : Pads text padded) :
    ∃ ns, Spells text ns ∧ Spells padded ns := by
  obtain ⟨segments, others, hsegments, hothers, hpadded, htext, hothersText⟩ := h
  refine ⟨numbers segments, ⟨segments, hsegments, htext, rfl⟩, others, hothers, hothersText, ?_⟩
  exact (hpadded.map_digitsToNat hothers.length_le).symm

end Version

end Rollout.Signal
