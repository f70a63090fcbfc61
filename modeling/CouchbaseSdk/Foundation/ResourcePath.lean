import CouchbaseSdk.Foundation.PercentEncoding

/-!
# Paths of resources

The resource that a path addresses is the list of its segments, each percent-decoded.  A path
that is put together from pieces addresses the resource of these pieces as long as no name in
it that is not encoded ends its segment or has an escape.
-/

namespace CouchbaseSdk
namespace Foundation
namespace ResourcePath

/-- A query or a fragment starts here. -/
def endsPath (c : Char) : Bool :=
  c == '?' || c == '#'

def isDelimiter (c : Char) : Bool :=
  c == '/' || endsPath c

/-- The pieces between the slashes, up to the end of the path. -/
def segments : List Char -> List (List Char)
  | [] => [[]]
  | c :: rest =>
      if endsPath c then [[]]
      else if c = '/' then [] :: segments rest
      else (segments rest).modifyHead fun segment => c :: segment

def decodeSegment (segment : List Char) : List UInt8 :=
  percentDecode (utf8Bytes segment)

def address (path : String) : List (List UInt8) :=
  (segments path.toList).map decodeSegment

/-!
# Segments
-/

/-- Nothing in the text ends a segment. -/
def Free (text : List Char) : Prop :=
  forall c, c ∈ text -> isDelimiter c = false

theorem free_nil : Free [] := fun _ h => absurd h List.not_mem_nil

theorem free_cons {c : Char} {text : List Char} :
    Free (c :: text) <-> isDelimiter c = false ∧ Free text :=
  List.forall_mem_cons

theorem segments_cons {c : Char} (h : isDelimiter c = false) (rest : List Char) :
    segments (c :: rest) = (segments rest).modifyHead fun segment => c :: segment := by
  rw [isDelimiter, Bool.or_eq_false_iff, beq_eq_false_iff_ne] at h
  rw [segments, if_neg (Bool.eq_false_iff.mp h.2), if_neg h.1]

/-- What is in front of a delimiter is the first segment. -/
theorem segments_append {front : List Char} (h : Free front) (rest : List Char) :
    segments (front ++ rest) = (segments rest).modifyHead fun segment => front ++ segment := by
  induction front with
  | nil =>
      cases hsegments : segments rest with
      | nil => exact hsegments
      | cons first others => exact hsegments
  | cons c front ih =>
      rw [free_cons] at h
      rw [List.cons_append, segments_cons h.1, ih h.2, List.modifyHead_modifyHead]
      rfl

theorem segments_slash {front : List Char} (h : Free front) (rest : List Char) :
    segments (front ++ '/' :: rest) = front :: segments rest := by
  rw [segments_append h]
  simp [segments, endsPath]

theorem segments_end {front query : List Char} (h : Free front)
    (hquery : forall c, query.head? = some c -> endsPath c = true) :
    segments (front ++ query) = [front] := by
  rw [segments_append h]
  cases query with
  | nil => simp [segments]
  | cons c rest => simp [segments, hquery c rfl]

theorem segments_head (text : List Char) :
    exists more, segments text = (text.takeWhile fun c => !isDelimiter c) :: more := by
  induction text with
  | nil => exact ⟨[], rfl⟩
  | cons c rest ih =>
      cases hc : isDelimiter c with
      | false =>
          rcases ih with ⟨more, hmore⟩
          refine ⟨more, ?_⟩
          rw [segments_cons hc, hmore, List.modifyHead_cons, List.takeWhile_cons_of_pos]
          rw [hc]
          rfl
      | true =>
          have htake : (c :: rest).takeWhile (fun c => !isDelimiter c) = [] := by
            rw [List.takeWhile_cons_of_neg]
            rw [hc]
            exact Bool.false_ne_true
          rw [htake, segments]
          split
          · exact ⟨[], rfl⟩
          · rename_i hend
            rw [isDelimiter, Bool.or_eq_true, or_iff_left hend, beq_iff_eq] at hc
            rw [if_pos hc]
            exact ⟨segments rest, rfl⟩

/-!
# Pieces
-/

/-- A fixed segment, or a name that is written as it is or percent-encoded. -/
inductive Piece where
  | fixed (text : String)
  | raw (name : String)
  | encoded (name : String)
deriving DecidableEq

namespace Piece

def text : Piece -> List Char
  | fixed text => text.toList
  | raw name => name.toList
  | encoded name => percentEncode name.toList

def name : Piece -> String
  | fixed text => text
  | raw name | encoded name => name

def givenName : Piece -> Option String
  | fixed _ => none
  | raw name | encoded name => some name

/-- What the segment is for. -/
def meaning (p : Piece) : List UInt8 :=
  utf8Bytes p.name.toList

/-- The name is the same after the path is taken apart and decoded. -/
def PlainName (name : String) : Prop :=
  Free name.toList ∧ hasEscape (utf8Bytes name.toList) = false

/-- A name that is not encoded has to be plain, and so has a fixed text. -/
def Safe : Piece -> Prop
  | fixed name | raw name => PlainName name
  | encoded _ => True

theorem free_percentEncode (text : List Char) : Free (percentEncode text) := by
  intro c hmem
  cases hc : isDelimiter c with
  | false => rfl
  | true =>
      rw [isDelimiter, endsPath, Bool.or_eq_true, Bool.or_eq_true, beq_iff_eq, beq_iff_eq,
        beq_iff_eq] at hc
      rcases mem_percentEncode hmem with rfl | ⟨_, hunreserved⟩
      · rcases hc with h | h | h
        · cases h
        · cases h
        · cases h
      · rcases hc with rfl | rfl | rfl
        · cases hunreserved
        · cases hunreserved
        · cases hunreserved

theorem decode_text_of_safe {p : Piece} (h : p.Safe) :
    Free p.text ∧ decodeSegment p.text = p.meaning := by
  cases p with
  | fixed text => exact ⟨h.1, percentDecode_of_not_hasEscape h.2⟩
  | raw name => exact ⟨h.1, percentDecode_of_not_hasEscape h.2⟩
  | encoded name => exact ⟨free_percentEncode _, percentDecode_percentEncode _⟩

theorem safe_of_decode_text {p : Piece} (hfree : Free p.text)
    (hdecode : decodeSegment p.text = p.meaning) : p.Safe := by
  cases p with
  | fixed text => exact ⟨hfree, (percentDecode_eq_self_iff _).mp hdecode⟩
  | raw name => exact ⟨hfree, (percentDecode_eq_self_iff _).mp hdecode⟩
  | encoded name => exact trivial

theorem length_meaning_of_not_free {p : Piece} (h : ¬ Free p.text) :
    p.meaning = utf8Bytes p.text := by
  cases p with
  | fixed text => rfl
  | raw name => rfl
  | encoded name => exact absurd (free_percentEncode _) h

end Piece

/-- The pieces with slashes between them. -/
def pathText (pieces : List Piece) : List Char :=
  ['/'].intercalate (pieces.map Piece.text)

def meanings (pieces : List Piece) : List (List UInt8) :=
  pieces.map Piece.meaning

theorem pathText_singleton (p : Piece) : pathText [p] = p.text := by
  simp [pathText]

theorem pathText_cons_cons (p q : Piece) (pieces : List Piece) :
    pathText (p :: q :: pieces) = p.text ++ '/' :: pathText (q :: pieces) := by
  unfold pathText
  rw [List.map_cons, List.map_cons, List.intercalate_cons_cons]
  simp

theorem exists_delimiter {text : List Char} (h : ¬ Free text) :
    exists front c more, text = front ++ c :: more ∧ Free front ∧ isDelimiter c = true := by
  induction text with
  | nil => exact absurd free_nil h
  | cons c rest ih =>
      cases hc : isDelimiter c with
      | true => exact ⟨[], c, rest, rfl, free_nil, hc⟩
      | false =>
          have hrest : ¬ Free rest := fun hfree => h (free_cons.mpr ⟨hc, hfree⟩)
          rcases ih hrest with ⟨front, d, more, rfl, hfront, hd⟩
          exact ⟨c :: front, d, more, rfl, free_cons.mpr ⟨hc, hfront⟩, hd⟩

theorem takeWhile_free {front : List Char} (h : Free front) {c : Char} (hc : isDelimiter c = true)
    (rest : List Char) :
    (front ++ c :: rest).takeWhile (fun c => !isDelimiter c) = front := by
  rw [List.takeWhile_append_of_pos (fun d hd => by rw [h d hd]; rfl),
    List.takeWhile_cons_of_neg (by rw [hc]; exact Bool.false_ne_true), List.append_nil]

/-- A segment that is cut off at a delimiter is too short for what it is for. -/
theorem head_ne_of_not_free {p : Piece} (h : ¬ Free p.text) (rest : List Char) :
    decodeSegment ((p.text ++ rest).takeWhile fun c => !isDelimiter c) ≠ p.meaning := by
  intro heq
  rw [Piece.length_meaning_of_not_free h] at heq
  rcases exists_delimiter h with ⟨front, c, more, htext, hfront, hc⟩
  rw [htext, List.append_assoc, List.cons_append, takeWhile_free hfront hc, utf8Bytes_append,
    utf8Bytes_cons] at heq
  have hle := length_percentDecode_le (utf8Bytes front)
  have hlength := congrArg List.length heq
  have hsize := String.length_utf8EncodeChar c
  have hpos := c.utf8Size_pos
  unfold decodeSegment at hlength
  simp only [List.length_append] at hlength
  omega

/-- The path of pieces addresses what they are for exactly if each piece is safe. -/
theorem address_iff {pieces : List Piece} (hne : pieces ≠ []) {query : List Char}
    (hquery : forall c, query.head? = some c -> endsPath c = true) :
    (segments (pathText pieces ++ query)).map decodeSegment = meanings pieces <->
      forall p, p ∈ pieces -> p.Safe := by
  induction pieces with
  | nil => exact absurd rfl hne
  | cons p pieces ih =>
      have hcut : forall rest, ¬ Free p.text ->
          (segments (p.text ++ rest)).map decodeSegment ≠ meanings (p :: pieces) := by
        intro rest hnot heq
        rcases segments_head (p.text ++ rest) with ⟨more, hmore⟩
        rw [hmore] at heq
        exact head_ne_of_not_free hnot rest (List.cons.inj heq).1
      have hsafe : p.Safe <-> Free p.text ∧ decodeSegment p.text = p.meaning :=
        ⟨Piece.decode_text_of_safe, fun h => Piece.safe_of_decode_text h.1 h.2⟩
      cases pieces with
      | nil =>
          rw [pathText_singleton, List.forall_mem_singleton, hsafe]
          constructor
          · intro heq
            have hfree : Free p.text := not_not.mp fun hnot => hcut query hnot heq
            rw [segments_end hfree hquery] at heq
            exact ⟨hfree, (List.cons.inj heq).1⟩
          · intro ⟨hfree, hdecode⟩
            rw [segments_end hfree hquery]
            exact congrArg (fun b => [b]) hdecode
      | cons q rest =>
          have hrest := ih (List.cons_ne_nil q rest)
          rw [pathText_cons_cons, List.append_assoc, List.cons_append, List.forall_mem_cons,
            hsafe, ← hrest]
          constructor
          · intro heq
            have hfree : Free p.text := not_not.mp fun hnot => hcut _ hnot heq
            rw [segments_slash hfree] at heq
            exact ⟨⟨hfree, (List.cons.inj heq).1⟩, (List.cons.inj heq).2⟩
          · intro ⟨⟨hfree, hdecode⟩, htail⟩
            rw [segments_slash hfree, List.map_cons, hdecode, htail]
            rfl

end ResourcePath
end Foundation
end CouchbaseSdk
