import CouchbaseSdk.Httpx.Reading

/-!
# Members of the response

The loop of `begin` and the loop of `next` behind the rows go over the members of the response
in the same way.
-/

namespace CouchbaseSdk
namespace Httpx

open Foundation Foundation.Json

/-!
# Where a text goes on
-/

/-- The loop is before the members `ms`, with the text `close` behind them. -/
inductive AtMembers (close : Buffer) (ms : List Member) : TokenState -> Buffer -> Prop where
  | first {inside : Buffer} (h : Inside Member.whole ms inside) :
      AtMembers close ms .objectStart (inside ++ close)
  | next {w : Buffer} (hw : Blank w) :
      AtMembers close ms .objectComma (w ++ (following Member.whole ms ++ close))

/-- The text behind the key of a member. -/
def behindKey (m : Member) (ms : List Member) (close : Buffer) : Buffer :=
  m.beforeColon ++
    nameSeparator :: (m.afterColon ++ (m.text ++ (m.trail ++ (following Member.whole ms ++ close))))

theorem Member.whole_append (m : Member) (ms : List Member) (close : Buffer) :
    (m.whole ++ following Member.whole ms) ++ close =
      m.lead ++ (m.key ++ behindKey m ms close) := by
  simp [Member.whole, behindKey]

theorem ends_of_blank {fault : Option ErrorKind} {t w : Buffer} (hw : Blank w) {c : UInt8}
    (hc : Scanner.isDelimiter c = true) (rest : Buffer) : Ends fault t (w ++ c :: rest) := by
  cases w with
  | nil => exact .delimiter hc
  | cons b w =>
      apply Ends.delimiter
      simp [Scanner.isDelimiter, whitespace_of_blank hw.head]

/-- A list of items is followed by a comma or by the bracket that closes it. -/
theorem following_head {item : Type} (whole : item -> Buffer) (items : List item)
    (c : UInt8) (rest : Buffer) :
    exists b tail, following whole items ++ c :: rest = b :: tail ∧
      (b = valueSeparator ∨ b = c) := by
  cases items with
  | nil => exact ⟨c, rest, rfl, Or.inr rfl⟩
  | cons i items => exact ⟨_, _, rfl, Or.inl rfl⟩

theorem ends_of_following {item : Type} (whole : item -> Buffer) (items : List item)
    {fault : Option ErrorKind} {t w : Buffer} (hw : Blank w) {c : UInt8}
    (hc : Scanner.isDelimiter c = true) (rest : Buffer) :
    Ends fault t (w ++ (following whole items ++ c :: rest)) := by
  rcases following_head whole items c rest with ⟨b, tail, heq, hb⟩
  rw [heq]
  apply ends_of_blank hw
  rcases hb with rfl | rfl
  · rfl
  · exact hc

theorem AtMembers.length_le {close : Buffer} {ms : List Member} {state : TokenState}
    {rest : Buffer} (h : AtMembers close ms state rest) : ms.length ≤ rest.length := by
  have hfollowing : forall ms : List Member,
      ms.length ≤ (following Member.whole ms).length := by
    intro ms
    induction ms with
    | nil => exact Nat.le_refl _
    | cons m ms ih =>
        rw [following, List.length_cons, List.length_cons, List.length_append]
        omega
  cases h with
  | first h =>
      cases h with
      | blank => exact Nat.zero_le _
      | items m ms =>
          have hle := hfollowing ms
          rw [Member.whole_append, behindKey]
          simp only [List.length_append, List.length_cons]
          omega
  | next =>
      have hle := hfollowing ms
      simp only [List.length_append]
      omega

namespace Decoder

variable {value : Type} {json : SerdeJson value} {close w rest : Buffer} {c : UInt8}
  {fault : Option ErrorKind} {state : TokenState} {stack : List TokenState} {m : Member}
  {ms : List Member}

/-- The blanks before a token make no difference. -/
theorem token_blank (hw : Blank w) (hc : isAsciiWhitespace c = false) :
    token json (machine (w ++ c :: rest) fault state stack) =
      token json (machine (c :: rest) fault state stack) := by
  unfold token
  rw [tokenRound_byte _ hw hc]
  exact (tokenRound_byte _ Blank.nil hc).symm

theorem StringText.head {t : Buffer} (h : StringText t) :
    exists rest, t = quotationMark :: rest := by
  cases h with
  | quoted h => exact ⟨_, rfl⟩

/-- The token before a member is its key. -/
theorem token_member {key : String} (hat : AtMembers close (m :: ms) state rest)
    (hspaced : m.Spaced) (hkey : StringText m.key)
    (hname : json.stringFromSlice m.key = .ok key) :
    token json (machine rest fault state stack) =
      some (.ok (.string key), machine (behindKey m ms close) fault .objectColon stack) := by
  have hends : Ends fault m.key (behindKey m ms close) := ends_of_blank hspaced.2.1 rfl _
  cases hat with
  | first h =>
      cases h with
      | items =>
          rw [Member.whole_append]
          exact token_firstKey hspaced.1 hkey hends hname
  | next hw =>
      rw [following, List.cons_append, Member.whole_append]
      exact token_nextKey hw hspaced.1 hkey hends hname

/-- There is more before a member, and its key is still to come. -/
theorem more_member (hat : AtMembers close (m :: ms) state rest) (hspaced : m.Spaced)
    (hkey : StringText m.key) :
    exists rest', more (machine rest fault state stack) =
        some (.ok true, machine rest' fault state stack) ∧
      token json (machine rest' fault state stack) =
        token json (machine rest fault state stack) := by
  cases hat with
  | first h =>
      cases h with
      | items =>
          rcases StringText.head hkey with ⟨chars, hchars⟩
          rw [Member.whole_append, hchars]
          refine ⟨_, more_byte hspaced.1 (by decide), ?_⟩
          exact (token_blank hspaced.1 (by decide)).symm
  | next hw => exact ⟨_, more_byte hw (by decide), (token_blank hw (by decide)).symm⟩

/-- Behind the last member there is no more. -/
theorem more_endObject {tail : Buffer} (hat : AtMembers (endObject :: tail) [] state rest) :
    more (machine rest fault state stack) =
      some (.ok false, machine (endObject :: tail) fault state stack) := by
  cases hat with
  | first h =>
      cases h with
      | blank hw => exact more_byte hw (by decide)
  | next hw => exact more_byte hw (by decide)

theorem token_endMembers {tail : Buffer} (hat : AtMembers (endObject :: tail) [] state rest) :
    token json (machine rest fault state (.topValue :: stack)) =
      some (.ok (.delim '\x7d'), machine tail fault .topValue stack) := by
  cases hat with
  | first h =>
      cases h with
      | blank hw => exact token_endObject hw (Or.inl rfl)
  | next hw => exact token_endObject hw (Or.inr rfl)

/-- The value of a member. -/
theorem decode_member (hspaced : m.Spaced) (hvalue : Value m.text)
    (hends : Ends fault m.text (m.trail ++ (following Member.whole ms ++ close))) :
    decode (machine (behindKey m ms close) fault .objectColon stack) =
      some (.ok m.text,
        machine (m.trail ++ (following Member.whole ms ++ close)) fault .objectComma stack) :=
  decode_colon hspaced.2.1 hspaced.2.2.1 hvalue hends

end Decoder

/-!
# Attributes
-/

/-- A member that is no rows attribute, with what its key and its value are read as. -/
structure Attribute (value : Type) where
  member : Member
  name : String
  content : value

/-- The member is well formed, and its key and its value can be read. -/
structure Attribute.Read {value : Type} (json : SerdeJson value) (rowsAttrib : String)
    (a : Attribute value) : Prop where
  spaced : a.member.Spaced
  key : StringText a.member.key
  text : Value a.member.text
  name : json.stringFromSlice a.member.key = .ok a.name
  content : json.valueFromSlice a.member.text = .ok a.content
  other : a.name ≠ rowsAttrib

/-- The attributes that are kept. -/
def collect {value : Type} (attribs : FiniteMap String value) (as : List (Attribute value)) :
    FiniteMap String value :=
  as.foldl (fun m a => m.insert a.name a.content) attribs

namespace RawJsonRowStreamer

variable {value result : Type} {json : SerdeJson value} {rowsAttrib : String}
  {attribs : FiniteMap String value} {rowState : RowStreamState}
  {fault : Option ErrorKind} {stack : List TokenState}

/-- The streamer over a decoder. -/
def streamer (d : Decoder Unread) (rowsAttrib : String) (attribs : FiniteMap String value)
    (rowState : RowStreamState) : RawJsonRowStreamer Unread value :=
  { stream := d, rowsAttrib := rowsAttrib, attribs := attribs, state := rowState }

theorem onStream_some {m : Method (Decoder Unread) ErrorKind result} {d d' : Decoder Unread}
    {res : Except ErrorKind result} (h : m d = some (res, d')) :
    onStream m (streamer d rowsAttrib attribs rowState) =
      some (res, streamer d' rowsAttrib attribs rowState) :=
  Method.within_some _ h

theorem setState_streamer (d : Decoder Unread) (state : RowStreamState) :
    (Method.update (setState state) : Method _ ErrorKind Unit)
        (streamer d rowsAttrib attribs rowState) =
      some (.ok (), streamer d rowsAttrib attribs state) := rfl

theorem readAttrib_ok {d d' : Decoder Unread} {t : Buffer} {v : value} (key : String)
    (hdecode : Decoder.decode d = some (.ok t, d')) (hvalue : json.valueFromSlice t = .ok v) :
    readAttrib json key (streamer d rowsAttrib attribs rowState) =
      some (.ok (), streamer d' rowsAttrib (attribs.insert key v) rowState) := by
  unfold readAttrib
  rw [Method.bind_ok _ (onStream_some hdecode), hvalue]
  rfl

/-- A round of the loop of `begin` reads a key. -/
theorem beginLoop_key {d d' d'' : Decoder Unread} {key : String} (rounds : Nat)
    (hmore : Decoder.more d = some (.ok true, d'))
    (htoken : Decoder.token json d' = some (.ok (.string key), d'')) :
    beginLoop json (rounds + 1) (streamer d rowsAttrib attribs rowState) =
      if key = rowsAttrib then
        beginRows json (beginLoop json rounds) (streamer d'' rowsAttrib attribs rowState)
      else
        (do
          readAttrib json key
          beginLoop json rounds) (streamer d'' rowsAttrib attribs rowState) := by
  have hrows : (Method.gets RawJsonRowStreamer.rowsAttrib :
      Method (RawJsonRowStreamer Unread value) ErrorKind String)
        (streamer d'' rowsAttrib attribs rowState) =
      some (.ok rowsAttrib, streamer d'' rowsAttrib attribs rowState) := rfl
  rw [beginLoop, Method.bind_ok _ (onStream_some hmore), if_pos rfl,
    Method.bind_ok _ (onStream_some htoken), Method.bind_ok _ hrows]
  dsimp only
  by_cases hkey : key = rowsAttrib
  · rw [if_pos hkey, if_pos hkey]
  · rw [if_neg hkey, if_neg hkey]

/-- A round over an attribute. -/
theorem beginLoop_attribute {close rest : Buffer} {state : TokenState} {a : Attribute value}
    {ms : List Member} (rounds : Nat) (ha : a.Read json rowsAttrib)
    (hat : AtMembers close (a.member :: ms) state rest)
    (hends : Ends fault a.member.text
      (a.member.trail ++ (following Member.whole ms ++ close))) :
    beginLoop json (rounds + 1)
        (streamer (.machine rest fault state stack) rowsAttrib attribs rowState) =
      beginLoop json rounds
        (streamer (.machine (a.member.trail ++ (following Member.whole ms ++ close)) fault
          .objectComma stack) rowsAttrib (attribs.insert a.name a.content) rowState) := by
  rcases @Decoder.more_member _ json close rest fault state stack a.member ms hat ha.spaced ha.key
    with ⟨rest', hmore, htoken⟩
  rw [Decoder.token_member hat ha.spaced ha.key ha.name] at htoken
  have hattrib := @readAttrib_ok _ json rowsAttrib attribs rowState _ _ _ _ a.name
    (@Decoder.decode_member close fault stack a.member ms ha.spaced ha.text hends) ha.content
  rw [beginLoop_key rounds hmore htoken, if_neg ha.other, Method.bind_ok _ hattrib]

/-!
# The rows attribute
-/

theorem closeRows_ok {d d' : Decoder Unread}
    (htoken : Decoder.token json d = some (.ok (.delim ']'), d')) :
    closeRows json (streamer d rowsAttrib attribs rowState) =
      some (.ok (), streamer d' rowsAttrib attribs .postRows) := by
  unfold closeRows
  rw [Method.bind_ok _ (onStream_some htoken), if_pos rfl]
  rfl

/-- The value of the rows attribute begins with its opening bracket. -/
theorem beginRows_open {d d' : Decoder Unread}
    (again : Method (RawJsonRowStreamer Unread value) ErrorKind Unit)
    (htoken : Decoder.token json d = some (.ok (.delim '['), d')) :
    beginRows json again (streamer d rowsAttrib attribs rowState) =
      (do
        let more <- onStream Decoder.more
        if more then pure ()
        else do
          closeRows json
          again) (streamer d' rowsAttrib attribs .rows) := by
  unfold beginRows
  rw [Method.bind_ok _ (onStream_some htoken), if_pos rfl, Method.bind_ok _ (setState_streamer _ _)]

theorem beginRows_nullToken {d d' : Decoder Unread}
    (again : Method (RawJsonRowStreamer Unread value) ErrorKind Unit)
    (htoken : Decoder.token json d = some (.ok (.value nullText), d')) :
    beginRows json again (streamer d rowsAttrib attribs rowState) =
      again (streamer d' rowsAttrib attribs rowState) := by
  unfold beginRows
  rw [Method.bind_ok _ (onStream_some htoken), if_neg nofun, if_pos rfl]

/-- There are no rows between the brackets. -/
theorem beginRows_brackets {d : Decoder Unread} {inside rest : Buffer}
    (again : Method (RawJsonRowStreamer Unread value) ErrorKind Unit)
    (htoken : Decoder.token json d = some (.ok (.delim '['),
      .machine (inside ++ endArray :: rest) fault .arrayStart (.objectValue :: stack)))
    (hinside : Blank inside) :
    beginRows json again (streamer d rowsAttrib attribs rowState) =
      again (streamer (.machine rest fault .objectComma stack) rowsAttrib attribs .postRows) := by
  have hmore := @Decoder.more_byte inside rest endArray fault .arrayStart (.objectValue :: stack)
    hinside rfl
  have hclose := @Decoder.token_endArray _ json [] rest fault .arrayStart stack Blank.nil
    (Or.inl rfl)
  rw [beginRows_open again htoken, Method.bind_ok _ (onStream_some hmore)]
  exact Method.bind_ok _ (closeRows_ok hclose)

/-- There is a row behind the opening bracket. -/
theorem beginRows_row {d : Decoder Unread} {w rest : Buffer} {c : UInt8}
    (again : Method (RawJsonRowStreamer Unread value) ErrorKind Unit)
    (htoken : Decoder.token json d =
      some (.ok (.delim '['), .machine (w ++ c :: rest) fault .arrayStart stack))
    (hw : Blank w) (hc : Opens c) :
    beginRows json again (streamer d rowsAttrib attribs rowState) =
      some (.ok (), streamer (.machine (c :: rest) fault .arrayStart stack) rowsAttrib attribs
        .rows) := by
  have hmore := @Decoder.more_byte w rest c fault .arrayStart stack hw
    (Scanner.opens_no_whitespace hc)
  have hbyte : (c != endArray && c != endObject) = true := by
    have hdelimiter := Scanner.opens_no_delimiter hc
    simp only [Scanner.isDelimiter, Bool.or_eq_false_iff] at hdelimiter
    simp [bne, hdelimiter]
  rw [hbyte] at hmore
  rw [beginRows_open again htoken, Method.bind_ok _ (onStream_some hmore)]
  rfl

theorem beginRows_null {close : Buffer} {m : Member} {ms : List Member}
    (again : Method (RawJsonRowStreamer Unread value) ErrorKind Unit) (hspaced : m.Spaced)
    (htext : m.text = nullText)
    (hends : Ends fault nullText (m.trail ++ (following Member.whole ms ++ close))) :
    beginRows json again
        (streamer (.machine (behindKey m ms close) fault .objectColon stack) rowsAttrib attribs
          rowState) =
      again (streamer (.machine (m.trail ++ (following Member.whole ms ++ close)) fault
        .objectComma stack) rowsAttrib attribs rowState) := by
  have htoken := @Decoder.token_null _ json m.beforeColon _ fault stack m.afterColon hspaced.2.1
    hspaced.2.2.1 hends
  rw [behindKey, htext]
  exact beginRows_nullToken again htoken

/-- Before the element `e` of the rows and the others, with the text `close` behind them. -/
inductive AtRows (close : Buffer) (e : Element) (es : List Element) :
    TokenState -> Buffer -> Prop where
  | first : AtRows close e es .arrayStart
      (e.text ++ (e.trail ++ (following Element.whole es ++ close)))
  | next {w : Buffer} (hw : Blank w) : AtRows close e es .arrayComma
      (w ++ valueSeparator ::
        (e.lead ++ (e.text ++ (e.trail ++ (following Element.whole es ++ close)))))

/-- The opening bracket of the rows. -/
theorem token_rows {m : Member} {inside rest : Buffer} (hspaced : m.Spaced)
    (htext : m.text = beginArray :: (inside ++ [endArray])) :
    Decoder.token json (.machine (m.beforeColon ++
        nameSeparator :: (m.afterColon ++ (m.text ++ rest))) fault .objectColon stack) =
      some (.ok (.delim '['),
        .machine (inside ++ endArray :: rest) fault .arrayStart (.objectValue :: stack)) := by
  have heq : m.text ++ rest = beginArray :: (inside ++ endArray :: rest) := by
    rw [htext]
    simp
  rw [heq]
  exact Decoder.token_beginArray hspaced.2.1 hspaced.2.2.1

theorem beginRows_empty {close inside : Buffer} {m : Member} {ms : List Member}
    (again : Method (RawJsonRowStreamer Unread value) ErrorKind Unit) (hspaced : m.Spaced)
    (htext : m.text = beginArray :: (inside ++ [endArray])) (hinside : Blank inside) :
    beginRows json again
        (streamer (.machine (behindKey m ms close) fault .objectColon stack) rowsAttrib attribs
          rowState) =
      again (streamer (.machine (m.trail ++ (following Member.whole ms ++ close)) fault
        .objectComma stack) rowsAttrib attribs .postRows) := by
  rw [behindKey]
  exact beginRows_brackets again (token_rows hspaced htext) hinside

/-- Where there are rows, the loop of `begin` is left before the first of them. -/
theorem beginRows_rows {close : Buffer} {m : Member} {ms : List Member} {e : Element}
    {es : List Element} (again : Method (RawJsonRowStreamer Unread value) ErrorKind Unit)
    (hspaced : m.Spaced)
    (htext : m.text =
      beginArray :: ((e.whole ++ following Element.whole es) ++ [endArray]))
    (hlead : Blank e.lead) (hvalue : Value e.text) :
    exists rest, AtRows (endArray :: (m.trail ++ (following Member.whole ms ++ close))) e es
        .arrayStart rest ∧
      beginRows json again
          (streamer (.machine (behindKey m ms close) fault .objectColon stack) rowsAttrib attribs
            rowState) =
        some (.ok (), streamer (.machine rest fault .arrayStart (.objectValue :: stack)) rowsAttrib
          attribs .rows) := by
  rcases hvalue.head with ⟨c, t, heq, hc⟩
  have hwhole : (e.whole ++ following Element.whole es) ++
      endArray :: (m.trail ++ (following Member.whole ms ++ close)) =
      e.lead ++ c :: (t ++ (e.trail ++ (following Element.whole es ++
        endArray :: (m.trail ++ (following Member.whole ms ++ close))))) := by
    simp [Element.whole, heq]
  refine ⟨_, .first, ?_⟩
  have htoken := @token_rows _ json fault stack m _
    (m.trail ++ (following Member.whole ms ++ close)) hspaced htext
  rw [hwhole] at htoken
  rw [behindKey, heq]
  exact beginRows_row again htoken hlead hc

/-!
# The rows
-/

variable {close rest : Buffer} {state : TokenState} {e : Element} {es : List Element}

theorem decode_row (hat : AtRows (endArray :: close) e es state rest) (hspaced : e.Spaced)
    (hvalue : Value e.text) :
    Decoder.decode (.machine rest fault state stack) =
      some (.ok e.text, .machine (e.trail ++ (following Element.whole es ++ endArray :: close))
        fault .arrayComma stack) := by
  have hends : Ends fault e.text
      (e.trail ++ (following Element.whole es ++ endArray :: close)) :=
    ends_of_following Element.whole es hspaced.2 rfl close
  cases hat with
  | first => exact Decoder.decode_here Blank.nil hvalue hends rfl
  | next hw => exact Decoder.decode_comma hw hspaced.1 hvalue hends

/-- A row, behind which the rows end. -/
theorem next_lastRow {d : Decoder Unread} {t w : Buffer} (hw : Blank w)
    (hdecode : Decoder.decode d =
      some (.ok t, .machine (w ++ endArray :: rest) fault .arrayComma (.objectValue :: stack))) :
    next json (streamer d rowsAttrib attribs .rows) =
      some (.ok (some (.row t)),
        streamer (.machine rest fault .objectComma stack) rowsAttrib attribs .postRows) := by
  have hmore := @Decoder.more_byte w rest endArray fault .arrayComma (.objectValue :: stack) hw rfl
  have hclose := @Decoder.token_endArray _ json [] rest fault .arrayComma stack Blank.nil
    (Or.inr rfl)
  have hrow : nextRow json (streamer d rowsAttrib attribs .rows) =
      some (.ok (.row t),
        streamer (.machine rest fault .objectComma stack) rowsAttrib attribs .postRows) := by
    unfold nextRow
    rw [Method.bind_ok _ (onStream_some hdecode), Method.bind_ok _ (onStream_some hmore)]
    exact Method.bind_ok _ (closeRows_ok hclose)
  unfold next
  rw [Method.bind_ok _ (Method.gets_apply _ _)]
  exact Method.bind_ok _ hrow

/-- A row, behind which there is a comma. -/
theorem next_row {d : Decoder Unread} {t w : Buffer} (hw : Blank w)
    (hdecode : Decoder.decode d =
      some (.ok t, .machine (w ++ valueSeparator :: rest) fault .arrayComma stack)) :
    next json (streamer d rowsAttrib attribs .rows) =
      some (.ok (some (.row t)), streamer (.machine (valueSeparator :: rest) fault .arrayComma
        stack) rowsAttrib attribs .rows) := by
  have hmore := @Decoder.more_byte w rest valueSeparator fault .arrayComma stack hw rfl
  have hrow : nextRow json (streamer d rowsAttrib attribs .rows) =
      some (.ok (.row t), streamer (.machine (valueSeparator :: rest) fault .arrayComma stack)
        rowsAttrib attribs .rows) := by
    unfold nextRow
    rw [Method.bind_ok _ (onStream_some hdecode), Method.bind_ok _ (onStream_some hmore)]
    rfl
  unfold next
  rw [Method.bind_ok _ (Method.gets_apply _ _)]
  exact Method.bind_ok _ hrow

theorem nextRow_last (hat : AtRows (endArray :: close) e [] state rest) (hspaced : e.Spaced)
    (hvalue : Value e.text) :
    next json (streamer (.machine rest fault state (.objectValue :: stack)) rowsAttrib attribs
        .rows) =
      some (.ok (some (.row e.text)),
        streamer (.machine close fault .objectComma stack) rowsAttrib attribs .postRows) :=
  next_lastRow hspaced.2 (decode_row hat hspaced hvalue)

theorem nextRow_more {e' : Element} (hat : AtRows (endArray :: close) e (e' :: es) state rest)
    (hspaced : e.Spaced) (hvalue : Value e.text) :
    exists rest', AtRows (endArray :: close) e' es .arrayComma rest' ∧
      next json (streamer (.machine rest fault state stack) rowsAttrib attribs .rows) =
        some (.ok (some (.row e.text)),
          streamer (.machine rest' fault .arrayComma stack) rowsAttrib attribs .rows) := by
  have hcomma : following Element.whole (e' :: es) ++ endArray :: close =
      valueSeparator :: (e'.lead ++ (e'.text ++ (e'.trail ++
        (following Element.whole es ++ endArray :: close)))) := by
    simp [following, Element.whole]
  have hdecode := @decode_row fault stack close rest state e (e' :: es) hat hspaced hvalue
  rw [hcomma] at hdecode
  exact ⟨_, .next Blank.nil, next_row hspaced.2 hdecode⟩

/-!
# Behind the rows
-/

theorem metadataLoop_attribute {a : Attribute value} {ms : List Member} (rounds : Nat)
    (ha : a.Read json rowsAttrib) (hat : AtMembers close (a.member :: ms) state rest)
    (hends : Ends fault a.member.text
      (a.member.trail ++ (following Member.whole ms ++ close))) :
    metadataLoop json (rounds + 1)
        (streamer (.machine rest fault state stack) rowsAttrib attribs rowState) =
      metadataLoop json rounds
        (streamer (.machine (a.member.trail ++ (following Member.whole ms ++ close)) fault
          .objectComma stack) rowsAttrib (attribs.insert a.name a.content) rowState) := by
  have htoken := @Decoder.token_member _ json close rest fault state stack a.member ms a.name hat
    ha.spaced ha.key ha.name
  have hattrib := @readAttrib_ok _ json rowsAttrib attribs rowState _ _ _ _ a.name
    (@Decoder.decode_member close fault stack a.member ms ha.spaced ha.text hends) ha.content
  rw [metadataLoop, Method.bind_ok _ (onStream_some htoken), if_neg nofun]
  exact Method.bind_ok _ hattrib

theorem metadataLoop_end {tail metadata : Buffer} (rounds : Nat)
    (hat : AtMembers (endObject :: tail) [] state rest)
    (hmetadata : json.toVec attribs = .ok metadata) :
    metadataLoop json (rounds + 1)
        (streamer (.machine rest fault state (.topValue :: stack)) rowsAttrib attribs rowState) =
      some (.ok (.metadata metadata),
        streamer (.machine tail fault .topValue stack) rowsAttrib attribs .ended) := by
  have htoken := @Decoder.token_endMembers _ json rest fault state stack tail hat
  have hencode : encodeAttribs json "failed to encode metadata: "
      (streamer (.machine tail fault .topValue stack) rowsAttrib attribs .ended) =
      some (.ok metadata, streamer (.machine tail fault .topValue stack) rowsAttrib attribs
        .ended) := by
    change Method.ofExcept ((json.toVec attribs).mapError _) _ = _
    rw [hmetadata]
    rfl
  rw [metadataLoop, Method.bind_ok _ (onStream_some htoken), if_pos rfl,
    Method.bind_ok _ (setState_streamer _ _), Method.bind_ok _ hencode]
  rfl

/-!
# Calls
-/

/-- The opening brace of the response. -/
theorem begin_object {lead : Buffer} (hlead : Blank lead) :
    begin json (streamer (.machine (lead ++ beginObject :: rest) fault .topValue stack) rowsAttrib
        attribs .start) =
      beginLoop json (rest.length + 1)
        (streamer (.machine rest fault .objectStart (.topValue :: stack)) rowsAttrib attribs
          .start) := by
  have htoken := @Decoder.token_beginObject _ json lead rest fault stack hlead
  unfold begin
  rw [Method.bind_ok _ (Method.gets_apply _ _)]
  change (onStream (Decoder.token json) >>= _) _ = _
  rw [Method.bind_ok _ (onStream_some htoken), if_pos rfl, Method.bind_ok _ (Method.gets_apply _ _)]
  rfl

theorem readPrelude_ok {s s' : RawJsonRowStreamer Unread value} {bytes : Buffer}
    (hbegin : begin json s = some (.ok (), s')) (hencode : json.toVec s'.attribs = .ok bytes) :
    call json .readPrelude s = some (.ok (.prelude bytes), s') := by
  have hprelude : readPrelude json s = some (.ok bytes, s') := by
    unfold readPrelude
    rw [Method.bind_ok _ hbegin]
    change Method.ofExcept ((json.toVec s'.attribs).mapError _) s' = _
    rw [hencode]
    rfl
  exact Method.bind_ok _ hprelude

theorem next_postRows {s s' : RawJsonRowStreamer Unread value} {item : RawJsonRowItem}
    (hstate : s.state = .postRows)
    (hloop : metadataLoop json (s.size + 1) s = some (.ok item, s')) :
    next json s = some (.ok (some item), s') := by
  unfold next
  rw [Method.bind_ok _ (Method.gets_apply _ _), hstate]
  change ((Method.gets size : Method _ ErrorKind Nat) >>= _) s = _
  rw [Method.bind_ok _ (Method.gets_apply _ _)]
  exact Method.bind_ok _ hloop

theorem next_ended {input : Type} [ByteSource input] {s : RawJsonRowStreamer input value}
    (hstate : s.state = .ended) :
    next json s = some (.ok none, s) := by
  unfold next
  rw [Method.bind_ok _ (Method.gets_apply _ _), hstate]
  rfl

theorem run_call {s s' : RawJsonRowStreamer Unread value} {c : Call}
    {answer : Except ErrorKind Answer} (h : call json c s = some (answer, s'))
    (calls : List Call) : run json s (c :: calls) = some answer :: run json s' calls := by
  rw [run, h]

theorem run_next {s s' : RawJsonRowStreamer Unread value} {item : Option RawJsonRowItem}
    (h : next json s = some (.ok item, s')) (calls : List Call) :
    run json s (.next :: calls) = some (.ok (.item item)) :: run json s' calls :=
  run_call (Method.bind_ok _ h) calls

end RawJsonRowStreamer
end Httpx
end CouchbaseSdk
