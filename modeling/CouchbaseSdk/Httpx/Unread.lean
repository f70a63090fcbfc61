import CouchbaseSdk.Httpx.Alike

/-!
# The bytes that are not read yet

What the decoder does depends on the bytes it has not read yet and on the error its stream
ends with, if there is one; where the bytes are, in the buffer or still in the stream, makes
no difference.
-/

namespace CouchbaseSdk
namespace Httpx

open Foundation

/-- The bytes to come, the transport error behind them, and the error that is kept. -/
structure Unread where
  rest : Buffer
  fault : Option ErrorKind
  err : Option ErrorKind
deriving DecidableEq

namespace Unread

def new (rest : Buffer) (fault : Option ErrorKind) : Unread :=
  { rest := rest, fault := fault, err := none }

def peek : Method Unread ErrorKind (Option (Except ErrorKind UInt8)) :=
  fun u =>
    match u.rest.dropWhile isAsciiWhitespace with
    | c :: rest => some (.ok (some (.ok c)), { u with rest := c :: rest })
    | [] =>
        match u.fault with
        | some e => some (.ok (some (.error e)), { u with fault := none })
        | none => some (.ok none, u)

/-- The value at the end of the response, `s` being the scanner behind its last byte. -/
def valueAtEnd (s : Scanner) : Method Unread ErrorKind Nat :=
  fun u =>
    match u.fault with
    | some e => some (.error e, { u with fault := none, err := some e })
    | none =>
        if (s.step 0x20).1 = .ends then some (.ok u.rest.length, u)
        else if u.rest.any fun b => !isAsciiWhitespace b then
          some (.error (.message "unexpected EOF"),
            { u with err := some (.message "unexpected EOF") })
        else
          match u.err with
          | some e => some (.error e, u)
          | none => some (.ok u.rest.length, u)

def readValue : Method Unread ErrorKind Nat :=
  fun u =>
    match Scanner.new.scanBytes u.rest 0 with
    | .value n _ => some (.ok n, u)
    | .failed s =>
        match s.err with
        | some e => some (.error e, { u with err := some e })
        | none => none
    | .more s => valueAtEnd s u

def advance (n : Nat) (u : Unread) : Unread :=
  { u with rest := u.rest.drop n }

def takeValue : Method Unread ErrorKind Buffer := do
  let n <- readValue
  let val <- Method.gets fun u : Unread => u.rest.take n
  Method.update (advance n)
  pure val

end Unread

instance : ByteSource Unread where
  peek := Unread.peek
  advance := Unread.advance
  takeValue := Unread.takeValue
  err := Unread.err
  size := fun u => u.rest.length

/-!
# What a window holds
-/

namespace Window

/-- The unread bytes are in the buffer first, and then in the chunks of the stream. -/
structure Holds (w : Window) (u : Unread) : Prop where
  scanp : w.scanp ≤ w.buf.length
  err : w.err = u.err
  stream : exists chunks : List Buffer, w.r = chunks.map .ok ++ u.fault.toList.map .error ∧
    u.rest = w.buf.drop w.scanp ++ chunks.flatten

/-- A byte is in the buffer. -/
structure Ready (w : Window) (u : Unread) : Prop where
  holds : w.Holds u
  byte : w.scanp < w.buf.length

/-- The next chunk has come in, and what is read is dropped. -/
structure Refilled (w : Window) (chunk : Buffer) (w' : Window) : Prop where
  scanp : w'.scanp = 0
  buf : w'.buf = w.buf.drop w.scanp ++ chunk
  scan : w'.scan = w.scan
  err : w'.err = w.err

theorem drop_read (w : Window) :
    (if w.scanp > 0 then { w with buf := w.buf.drop w.scanp, scanp := 0 } else w) =
      { w with buf := w.buf.drop w.scanp, scanp := 0 } := by
  split
  · rfl
  · have hzero : w.scanp = 0 := by omega
    rcases w with ⟨r, buf, scanp, scan, err⟩
    cases hzero
    rfl

inductive RefillResult (w : Window) (u : Unread) :
    Option (Except ErrorKind Unit) × Window -> Prop where
  | ended {w' : Window} (h : Refilled w [] w') (hholds : w'.Holds u) (hfault : u.fault = none)
      (hrest : u.rest = w'.buf) : RefillResult w u (none, w')
  | chunk {w' : Window} (chunk : Buffer) (h : Refilled w chunk w') (hholds : w'.Holds u) :
      RefillResult w u (some (.ok ()), w')
  | fault {w' : Window} {e : ErrorKind} (h : Refilled w [] w') (hfault : u.fault = some e)
      (hrest : u.rest = w'.buf) (hholds : w'.Holds { u with fault := none }) :
      RefillResult w u (some (.error e), w')

/-- What a refill comes to: the end of the stream, a chunk, or the error the stream ends
with. -/
theorem refill_cases {w : Window} {u : Unread} (h : w.Holds u) : RefillResult w u w.refill := by
  rcases h.stream with ⟨chunks, hr, hrest⟩
  unfold refill
  rw [drop_read]
  dsimp only
  rw [hr]
  cases chunks with
  | cons chunk chunks =>
      refine .chunk chunk ⟨rfl, rfl, rfl, rfl⟩ ⟨Nat.zero_le _, h.err, chunks, rfl, ?_⟩
      rw [hrest]
      simp
  | nil =>
      rw [List.flatten_nil, List.append_nil] at hrest
      cases hfault : u.fault with
      | none =>
          refine .ended ⟨rfl, (List.append_nil _).symm, rfl, rfl⟩ ⟨Nat.zero_le _, h.err, [], ?_, ?_⟩
            hfault hrest
          · rw [hfault]
          · rw [hrest]
            simp
      | some e =>
          refine .fault ⟨rfl, (List.append_nil _).symm, rfl, rfl⟩ hfault hrest
            ⟨Nat.zero_le _, h.err, [], rfl, ?_⟩
          rw [hrest]
          simp

/-!
# Looking for the next byte
-/

theorem drop_length_takeWhile (p : UInt8 -> Bool) (xs : Buffer) :
    xs.drop (xs.takeWhile p).length = xs.dropWhile p := by
  have hsplit := List.takeWhile_append_dropWhile (p := p) (l := xs)
  calc xs.drop (xs.takeWhile p).length
      = (xs.takeWhile p ++ xs.dropWhile p).drop (xs.takeWhile p).length := by rw [hsplit]
    _ = xs.dropWhile p := List.drop_left

theorem buf_getElem? (w : Window) :
    w.buf[w.scanp + ((w.buf.drop w.scanp).takeWhile isAsciiWhitespace).length]? =
      ((w.buf.drop w.scanp).dropWhile isAsciiWhitespace).head? := by
  rw [← List.getElem?_drop, ← List.head?_drop, drop_length_takeWhile]

theorem peekAfter_byte {w : Window} {c : UInt8} {tail : Buffer}
    (res : Option (Except ErrorKind Unit))
    (h : (w.buf.drop w.scanp).dropWhile isAsciiWhitespace = c :: tail) :
    w.peekAfter res =
      (some (.ok c), { w with
        scanp := w.scanp + ((w.buf.drop w.scanp).takeWhile isAsciiWhitespace).length }) := by
  have hbyte := buf_getElem? w
  rw [h, List.head?_cons] at hbyte
  rw [peekAfter.eq_def]
  dsimp only
  rw [hbyte]

theorem peekAfter_error {w : Window} (e : ErrorKind)
    (h : (w.buf.drop w.scanp).dropWhile isAsciiWhitespace = []) :
    w.peekAfter (some (.error e)) = (some (.error e), w) := by
  have hbyte := buf_getElem? w
  rw [h, List.head?_nil] at hbyte
  rw [peekAfter.eq_def]
  dsimp only
  rw [hbyte]

theorem peekAfter_blank {w : Window} {res : Option (Except ErrorKind Unit)}
    (h : (w.buf.drop w.scanp).dropWhile isAsciiWhitespace = [])
    (hres : forall e, res ≠ some (.error e)) :
    w.peekAfter res =
      match w.refill with
      | (none, w') => (none, w')
      | (some res', w') => peekAfter (some res') w' := by
  have hbyte := buf_getElem? w
  rw [h, List.head?_nil] at hbyte
  rw [peekAfter.eq_def]
  dsimp only
  rw [hbyte]
  match res, hres with
  | none, _ =>
      dsimp only
      split
      · next heq => rw [heq]
      · next heq => rw [heq]
  | some (.ok ()), _ =>
      dsimp only
      split
      · next heq => rw [heq]
      · next heq => rw [heq]
  | some (.error e), hres => exact absurd rfl (hres e)

/-- The two sources have the same byte next. -/
def SamePeek (u : Unread) (end_ : Option (Except ErrorKind UInt8) × Window) : Prop :=
  exists u', u.peek = some (.ok end_.1, u') ∧ end_.2.Holds u' ∧
    forall c, end_.1 = some (.ok c) -> end_.2.Ready u'

theorem peekAfter_holds {w : Window} {u : Unread} {res : Option (Except ErrorKind Unit)}
    (h : w.Holds u) (hres : forall e, res ≠ some (.error e)) :
    SamePeek u (w.peekAfter res) := by
  induction hlen : w.r.length using Nat.strong_induction_on generalizing w res with
  | _ n ih =>
      rcases h.stream with ⟨chunks, hr, hrest⟩
      cases hdrop : (w.buf.drop w.scanp).dropWhile isAsciiWhitespace with
      | cons c tail =>
          have hu : u.rest.dropWhile isAsciiWhitespace = c :: (tail ++ chunks.flatten) := by
            rw [hrest, List.dropWhile_append, hdrop]
            rfl
          have hskip : w.buf.drop
              (w.scanp + ((w.buf.drop w.scanp).takeWhile isAsciiWhitespace).length) =
                c :: tail := by
            rw [← List.drop_drop, ← hdrop]
            exact drop_length_takeWhile _ _
          have hlt : w.scanp + ((w.buf.drop w.scanp).takeWhile isAsciiWhitespace).length <
              w.buf.length := by
            have hlen := congrArg List.length hskip
            rw [List.length_drop, List.length_cons] at hlen
            omega
          have hholds : Window.Holds { w with
              scanp := w.scanp + ((w.buf.drop w.scanp).takeWhile isAsciiWhitespace).length }
              { u with rest := c :: (tail ++ chunks.flatten) } := by
            refine ⟨Nat.le_of_lt hlt, h.err, chunks, hr, ?_⟩
            dsimp only
            rw [hskip]
            rfl
          rw [peekAfter_byte res hdrop]
          refine ⟨_, ?_, hholds, fun _ _ => ⟨hholds, hlt⟩⟩
          unfold Unread.peek
          rw [hu]
      | nil =>
          rw [peekAfter_blank hdrop hres]
          have hcases := refill_cases h
          cases hrefill : w.refill with
          | mk res' w' =>
              rw [hrefill] at hcases
              cases hcases with
              | ended hw hholds hfault hall =>
                  refine ⟨u, ?_, hholds, fun _ hc => by cases hc⟩
                  unfold Unread.peek
                  rw [hall, hw.buf, List.append_nil, hdrop, hfault]
              | chunk bytes hw hholds =>
                  refine ih _ ?_ hholds (fun _ he => by cases he) rfl
                  rw [← hlen]
                  exact refill_length hrefill
              | fault hw hfault hall hholds =>
                  have hblank : (w'.buf.drop w'.scanp).dropWhile isAsciiWhitespace = [] := by
                    rw [hw.buf, hw.scanp, List.append_nil]
                    exact hdrop
                  dsimp only
                  rw [peekAfter_error _ hblank]
                  refine ⟨_, ?_, hholds, fun _ hc => by cases hc⟩
                  unfold Unread.peek
                  rw [hall, hw.buf, List.append_nil, hdrop, hfault]

/-!
# Reading a value
-/

/-- The end of `readValue` where `s` is the outcome of the scan of the bytes in the buffer. -/
def afterScan (res : Option (Except ErrorKind Unit)) (w : Window) :
    Scanner.Scanned -> Option (Except ErrorKind Nat × Window)
  | .value n s => some (.ok n, { w with scan := s })
  | .failed s =>
      match s.err with
      | some e => some (.error e, { w with scan := s, err := some e })
      | none => none
  | .more s => readMore res (w.buf.length - w.scanp) { w with scan := s }

theorem readMore_error (e : ErrorKind) (n : Nat) (w : Window) :
    readMore (some (.error e)) n w = some (.error e, { w with err := some e }) := by
  rw [readMore]

theorem readMore_refill {res : Option (Except ErrorKind Unit)} (n : Nat) (w : Window)
    (hres : forall e, res ≠ some (.error e)) :
    readMore res n w =
      match w.refill with
      | (none, w') => valueAtEnd n w'
      | (some res', w') =>
          afterScan (some res') w' (w'.scan.scanBytes (w'.buf.drop (w'.scanp + n)) n) := by
  rw [readMore.eq_def]
  match res, hres with
  | none, _ =>
      dsimp only
      split
      · next heq => rw [heq]
      · next heq =>
          rw [heq]
          rfl
  | some (.ok ()), _ =>
      dsimp only
      split
      · next heq => rw [heq]
      · next heq =>
          rw [heq]
          rfl
  | some (.error e), hres => exact absurd rfl (hres e)

/-- The two sources come to the same number of bytes, and these are in the buffer. -/
abbrev SameRead (u : Unread) (res : Option (Except ErrorKind Nat × Window)) : Prop :=
  Method.SameEnd Holds (fun n w u => w.Holds u ∧ n ≤ w.buf.length - w.scanp) res u.readValue

theorem Holds.setScan {w : Window} {u : Unread} (h : w.Holds u) (s : Scanner) :
    Holds { w with scan := s } u :=
  ⟨h.scanp, h.err, h.stream⟩

theorem Holds.setErr {w : Window} {u : Unread} (h : w.Holds u) (e : ErrorKind) :
    Holds { w with err := some e } { u with err := some e } :=
  ⟨h.scanp, rfl, h.stream⟩

theorem Holds.scan_rest {w : Window} {u : Unread} (h : w.Holds u) :
    exists more, u.rest = w.buf.drop w.scanp ++ more := by
  rcases h.stream with ⟨chunks, _, hrest⟩
  exact ⟨chunks.flatten, hrest⟩

/-- The response ends in a value. -/
theorem valueAtEnd_same {w : Window} {u : Unread} (h : w.Holds u) (hscanp : w.scanp = 0)
    (hfault : u.fault = none) (hrest : u.rest = w.buf)
    (hu : u.readValue = u.valueAtEnd w.scan) :
    SameRead u (w.valueAtEnd w.buf.length) := by
  rw [SameRead, hu]
  rcases w with ⟨r, buf, scanp, scan, err⟩
  rcases u with ⟨rest, fault, uerr⟩
  have herr : err = uerr := h.err
  dsimp only at hscanp hfault hrest
  subst hscanp hfault hrest herr
  unfold Unread.valueAtEnd valueAtEnd
  dsimp only
  rcases scan.step 0x20 with ⟨state, s⟩
  by_cases hstate : state = .ends
  · subst hstate
    exact ⟨rfl, h.setScan s, Nat.le_refl _⟩
  · rw [if_neg hstate]
    split
    · next heq => exact absurd (congrArg Prod.fst heq) hstate
    · next heq =>
        cases heq
        split
        · exact ⟨rfl, (h.setScan s).setErr _⟩
        · cases err with
          | some e => exact ⟨rfl, h.setScan s⟩
          | none => exact ⟨rfl, h.setScan s, Nat.le_refl _⟩

theorem afterScan_same {w : Window} {u : Unread} {res : Option (Except ErrorKind Unit)}
    (h : w.Holds u) (hres : forall e, res ≠ some (.error e)) :
    SameRead u (afterScan res w (Scanner.new.scanBytes (w.buf.drop w.scanp) 0)) := by
  induction hlen : w.r.length using Nat.strong_induction_on generalizing w res with
  | _ n ih =>
      rcases h.scan_rest with ⟨more, hrest⟩
      have happend := Scanner.scanBytes_append Scanner.new (w.buf.drop w.scanp) more 0
      rw [← hrest] at happend
      cases hscan : Scanner.new.scanBytes (w.buf.drop w.scanp) 0 with
      | value m s =>
          rw [hscan] at happend
          have hle := Scanner.scanBytes_le hscan
          rw [Nat.zero_add, List.length_drop] at hle
          have hu : u.readValue = some (.ok m, u) := by
            unfold Unread.readValue
            rw [happend]
          rw [SameRead, hu]
          exact ⟨rfl, h.setScan s, hle⟩
      | failed s =>
          rw [hscan] at happend
          unfold SameRead Unread.readValue
          rw [happend]
          unfold afterScan
          dsimp only
          cases s.err with
          | none => trivial
          | some e => exact ⟨rfl, (h.setScan s).setErr e⟩
      | more s =>
          have hn : w.buf.length - w.scanp = (w.buf.drop w.scanp).length :=
            List.length_drop.symm
          have hcases := refill_cases (h.setScan s)
          rw [afterScan, readMore_refill _ _ hres]
          cases hrefill : refill { w with scan := s } with
          | mk res' w' =>
              rw [hrefill] at hcases
              cases hcases with
              | ended hw hholds hfault hall =>
                  have hbuf : w'.buf = w.buf.drop w.scanp := by
                    rw [hw.buf, List.append_nil]
                  have hu : u.readValue = u.valueAtEnd w'.scan := by
                    unfold Unread.readValue
                    rw [hall, hbuf, hscan, hw.scan]
                  dsimp only
                  rw [hn, ← hbuf]
                  exact valueAtEnd_same hholds hw.scanp hfault hall hu
              | chunk bytes hw hholds =>
                  have hbytes : w'.buf.drop (w'.scanp + (w.buf.length - w.scanp)) = bytes := by
                    rw [hw.buf, hw.scanp, Nat.zero_add, hn]
                    exact List.drop_left
                  have hnext : Scanner.new.scanBytes (w'.buf.drop w'.scanp) 0 =
                      w'.scan.scanBytes bytes (w.buf.length - w.scanp) := by
                    rw [hw.scanp, hw.buf, hw.scan, List.drop_zero, Scanner.scanBytes_append]
                    dsimp only
                    rw [hscan, Nat.zero_add, hn]
                  dsimp only
                  rw [hbytes, ← hnext]
                  have hlt := refill_length hrefill
                  exact ih _ (hlen ▸ hlt) hholds (fun _ he => by cases he) rfl
              | fault hw hfault hall hholds =>
                  have hbuf : w'.buf = w.buf.drop w.scanp := by
                    rw [hw.buf, List.append_nil]
                  have hu : u.readValue = u.valueAtEnd s := by
                    unfold Unread.readValue
                    rw [hall, hbuf, hscan]
                  have hbytes : w'.buf.drop (w'.scanp + (w.buf.length - w.scanp)) = [] := by
                    rw [hbuf, hw.scanp, Nat.zero_add, hn]
                    exact List.drop_length
                  dsimp only
                  rw [SameRead, hu, hbytes, Scanner.scanBytes, afterScan, readMore_error]
                  unfold Unread.valueAtEnd
                  rw [hfault]
                  exact ⟨rfl, (hholds.setScan _).setErr _⟩

theorem takeValue_same :
    Method.Related Holds Holds (fun _ => Holds) takeValue Unread.takeValue := by
  have hread : Method.Related Holds Holds
      (fun n w u => w.Holds u ∧ n ≤ w.buf.length - w.scanp) readValue Unread.readValue :=
    fun w u h => afterScan_same h fun _ he => by cases he
  apply Method.Related.bind hread
  intro n w u hwu
  rcases hwu with ⟨h, hn⟩
  rcases h.stream with ⟨chunks, hr, hrest⟩
  have hlen : n ≤ (w.buf.drop w.scanp).length := by
    rw [List.length_drop]
    exact hn
  have htake : (w.buf.drop w.scanp).take n = u.rest.take n := by
    rw [hrest, List.take_append_of_le_length hlen]
  refine ⟨htake, ?_, h.err, chunks, hr, ?_⟩
  · have hscanp := h.scanp
    change w.scanp + n ≤ w.buf.length
    omega
  · change u.rest.drop n = w.buf.drop (w.scanp + n) ++ chunks.flatten
    rw [hrest, List.drop_append_of_le_length hlen, List.drop_drop]

theorem peek_same :
    Method.Related Holds Holds
      (fun res w u => w.Holds u ∧ forall c, res = some (.ok c) -> w.Ready u) peek Unread.peek := by
  intro w u h
  rcases @peekAfter_holds w u none h (fun _ he => by cases he) with ⟨u', hu, hholds, hready⟩
  unfold peek
  rw [hu]
  exact ⟨rfl, hholds, hready⟩

theorem size_eq {w : Window} {u : Unread} (h : w.Holds u) : w.size = u.rest.length := by
  rcases h.stream with ⟨chunks, hr, hrest⟩
  unfold size
  rw [hr, hrest, List.length_append, List.length_drop, List.length_flatten, List.map_append,
    List.sum_append, List.map_map]
  have hfault : ((u.fault.toList.map .error).map chunkLength).sum = 0 := by
    cases u.fault <;> rfl
  rw [hfault, Nat.add_zero]
  rfl

/-- The decoder's buffer answers like the bytes it has not read yet. -/
theorem alike : Alike Holds Ready where
  ready := fun _ _ h => h.holds
  peek := peek_same
  advance := by
    intro w u h
    rcases h.holds.stream with ⟨chunks, hr, hrest⟩
    refine ⟨h.byte, h.holds.err, chunks, hr, ?_⟩
    change u.rest.drop 1 = w.buf.drop (w.scanp + 1) ++ chunks.flatten
    have hlen : 1 ≤ (w.buf.drop w.scanp).length := by
      have hbyte := h.byte
      rw [List.length_drop]
      omega
    rw [hrest, List.drop_append_of_le_length hlen, List.drop_drop]
  takeValue := takeValue_same
  err := fun _ _ h => h.err
  size := fun _ _ h => size_eq h

end Window

/-!
# Chunks

The answers of a row streamer depend on the bytes of the response only, and not on the chunks
that they come in.
-/

/-!
# Plain texts
-/

/-- The bytes of a text of plain characters. -/
def plainBytes (s : String) : Buffer :=
  s.toList.map fun c => UInt8.ofNat c.toNat

/-- What `serde_json` makes of the texts of plain strings and of other values, where a value is
kept as it is written. -/
def plainJson : SerdeJson Buffer where
  stringFromSlice text :=
    match text with
    | 0x22 :: chars => .ok (String.ofList (chars.dropLast.map fun c => Char.ofNat c.toNat))
    | _ => .error "expected value at line 1 column 1"
  valueFromSlice text :=
    match text with
    | [] => .error "EOF while parsing a value at line 1 column 0"
    | _ => .ok text
  toVec attribs :=
    let members := attribs.entries.map fun entry =>
      plainBytes "\"" ++ plainBytes entry.1 ++ plainBytes "\":" ++ entry.2
    .ok (plainBytes "\x7b" ++ (members.intersperse (plainBytes ",")).flatten ++ plainBytes "\x7d")

/-!
# Runs over chunks
-/

namespace RawJsonRowStreamer

variable {value : Type}

/-- A streamer over a stream of chunks. -/
def ofStream (r : List (Except ErrorKind Buffer)) (rowsAttrib : String) :
    RawJsonRowStreamer Window value :=
  new (Decoder.new (Window.new r)) rowsAttrib

/-- A streamer over the bytes of a response and the error behind them. -/
def ofBytes (body : Buffer) (fault : Option ErrorKind) (rowsAttrib : String) :
    RawJsonRowStreamer Unread value :=
  new (Decoder.new (Unread.new body fault)) rowsAttrib

theorem ofStream_over (chunks : List Buffer) (fault : Option ErrorKind) (rowsAttrib : String) :
    Over Window.Holds
      (ofStream (chunks.map .ok ++ fault.toList.map .error) rowsAttrib :
        RawJsonRowStreamer Window value)
      (ofBytes chunks.flatten fault rowsAttrib) :=
  ⟨⟨⟨Nat.le_refl _, rfl, chunks, rfl, rfl⟩, rfl, rfl⟩, rfl, rfl, rfl⟩

/-- A run over chunks is the run over their bytes. -/
theorem run_ofStream (json : SerdeJson value) (chunks : List Buffer) (fault : Option ErrorKind)
    (rowsAttrib : String) (calls : List Call) :
    run json (ofStream (chunks.map .ok ++ fault.toList.map .error) rowsAttrib) calls =
      run json (ofBytes chunks.flatten fault rowsAttrib) calls :=
  run_same Window.alike json calls (ofStream_over chunks fault rowsAttrib)

theorem run_chunking (json : SerdeJson value) (rowsAttrib : String)
    (chunks chunks' : List Buffer) (hbody : chunks.flatten = chunks'.flatten)
    (calls : List Call) :
    run json (ofStream (chunks.map .ok) rowsAttrib) calls =
      run json (ofStream (chunks'.map .ok) rowsAttrib) calls := by
  have hleft := run_ofStream json chunks none rowsAttrib calls
  have hright := run_ofStream json chunks' none rowsAttrib calls
  rw [Option.toList_none, List.map_nil, List.append_nil] at hleft hright
  rw [hleft, hright, hbody]

theorem run_chunking_split_key :
    run plainJson
        (ofStream ([plainBytes "\x7b\"ro", [], plainBytes "ws\":[1", plainBytes "]\x7d"].map .ok)
          "rows") [.readPrelude, .hasMoreRows, .next, .next] =
      run plainJson
        (ofStream ([plainBytes "\x7b\"rows\":[1]\x7d"].map .ok) "rows")
        [.readPrelude, .hasMoreRows, .next, .next] :=
  run_chunking plainJson "rows" _ _ (by decide) _

end RawJsonRowStreamer
end Httpx
end CouchbaseSdk
