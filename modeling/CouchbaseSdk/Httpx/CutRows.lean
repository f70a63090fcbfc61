import CouchbaseSdk.Httpx.CutTokens

/-!
# Members that are cut off

A response that is cut off between two members looks as if it had no more of them.  A cut
anywhere else is seen, but for a number that is cut off and for a value that is not looked at.
-/

namespace CouchbaseSdk
namespace Httpx

open Foundation Foundation.Json

/-!
# Where a member is cut
-/

theorem AtMembers.blank {state : TokenState} {rest : Buffer} (h : AtMembers [] [] state rest) :
    Blank rest := by
  cases h with
  | first h =>
      cases h with
      | blank hw =>
          rw [List.append_nil]
          exact hw
  | next hw =>
      rw [following, List.nil_append, List.append_nil]
      exact hw

theorem Blank.atStart {x : Buffer} (h : Blank x) : AtMembers [] [] .objectStart x := by
  have hat : AtMembers [] [] .objectStart (x ++ []) := .first (.blank h)
  rw [List.append_nil] at hat
  exact hat

theorem Blank.atComma {x : Buffer} (h : Blank x) : AtMembers [] [] .objectComma x := by
  have hat : AtMembers [] [] .objectComma (x ++ []) := .next h
  rw [List.append_nil] at hat
  exact hat

theorem AtMembers.of_prefix {state : TokenState} {full x : Buffer}
    (h : AtMembers [] [] state full) (hx : x <+: full) : AtMembers [] [] state x := by
  have hblank := Blank.of_prefix h.blank hx
  cases h with
  | first _ => exact Blank.atStart hblank
  | next _ => exact Blank.atComma hblank

/-- The text goes on, and what is next is no closing bracket. -/
inductive Continues : Buffer -> Prop where
  | byte {w : Buffer} {c : UInt8} (rest : Buffer) (hw : Blank w)
      (hc : isAsciiWhitespace c = false) (hopen : (c != endArray && c != endObject) = true) :
      Continues (w ++ c :: rest)

theorem behindKey_delimited {m : Member} (ms : List Member) (close : Buffer)
    (hspaced : m.Spaced) : Delimited (behindKey m ms close) :=
  .blank hspaced.2.1 (.cons rfl _)

/-- The text behind the value of a member, where the members are cut off. -/
def behindText (m : Member) (ms : List Member) : Buffer :=
  m.trail ++ (following Member.whole ms ++ [])

theorem behindText_delimited {m : Member} (ms : List Member) (hspaced : m.Spaced) :
    Delimited (behindText m ms) :=
  .blank hspaced.2.2.2 (.following Member.whole ms .nil)

theorem behindKey_eq (m : Member) (ms : List Member) :
    behindKey m ms [] =
      m.beforeColon ++ nameSeparator :: (m.afterColon ++ (m.text ++ behindText m ms)) := rfl

/-- The member with what is left of its value. -/
def cutTo (m : Member) (text trail : Buffer) : Member :=
  { m with text := text, trail := trail }

namespace Decoder

variable {value : Type} {json : SerdeJson value} {fault : Option ErrorKind} {state : TokenState}
  {stack : List TokenState} {m : Member} {ms : List Member} {full x : Buffer}

theorem more_continues (h : Continues x) :
    exists x', more (machine x fault state stack) = some (.ok true, machine x' fault state stack) ∧
      token json (machine x' fault state stack) = token json (machine x fault state stack) := by
  cases h with
  | byte rest hw hc hopen =>
      have hmore := @more_byte _ rest _ fault state stack hw hc
      rw [hopen] at hmore
      exact ⟨_, hmore, (token_blank hw hc).symm⟩

/-- There is no byte behind the comma. -/
theorem token_comma_blank {w v : Buffer} (hw : Blank w) (hv : Blank v) :
    Method.Fails (token json) (machine (w ++ valueSeparator :: v) fault .objectComma stack) := by
  have hround : token json (machine (w ++ valueSeparator :: v) fault .objectComma stack) =
      tokenRound json Method.abort (machine v fault .objectKey stack) := by
    unfold token
    rw [tokenRound_byte _ hw (by decide)]
    rfl
  exact .of_eq hround (tokenRound_blank _ hv)

/-- There is no byte behind the colon. -/
theorem token_colon_blank {w v : Buffer} (hw : Blank w) (hv : Blank v) :
    Method.Fails (token json) (machine (w ++ nameSeparator :: v) fault .objectColon stack) := by
  have hround : token json (machine (w ++ nameSeparator :: v) fault .objectColon stack) =
      tokenRound json Method.abort (machine v fault .objectValue stack) := by
    unfold token
    rw [tokenRound_byte _ hw (by decide)]
    rfl
  exact .of_eq hround (tokenRound_blank _ hv)

/-- What is left of the members `m :: ms`: nothing; or it is an error to read the key of `m`; or
the key is whole. -/
inductive CutMember (json : SerdeJson value) (m : Member) (ms : List Member)
    (fault : Option ErrorKind) (state : TokenState) (stack : List TokenState) : Buffer -> Prop where
  | nothing {x : Buffer} (hat : AtMembers [] [] state x) : CutMember json m ms fault state stack x
  | fails {x : Buffer} (hcontinues : Continues x)
      (h : Method.Fails (token json) (machine x fault state stack)) :
      CutMember json m ms fault state stack x
  | key {x rest : Buffer} {name : String} (hcontinues : Continues x)
      (hrest : rest <+: behindKey m ms []) (hname : json.stringFromSlice m.key = .ok name)
      (h : token json (machine x fault state stack) =
        some (.ok (.string name), machine rest fault .objectColon stack))
      (hlength : rest.length < x.length)
      (hat : forall text trail ms', rest = behindKey (cutTo m text trail) ms' [] ->
        AtMembers [] (cutTo m text trail :: ms') state x) :
      CutMember json m ms fault state stack x

theorem quotationMark_head {key follow v : Buffer} (hkey : StringText key)
    (hv : v <+: key ++ follow) (hne : v ≠ []) : exists tail, v = quotationMark :: tail := by
  rcases StringText.head hkey with ⟨chars, rfl⟩
  cases v with
  | nil => exact absurd rfl hne
  | cons c v =>
      rw [(List.cons_prefix_cons.mp hv).1]
      exact ⟨v, rfl⟩

/-- The key of the member is what comes next. -/
theorem CutMember.of_cutKey {v : Buffer} {state' : TokenState} (hcontinues : Continues x)
    (hkey : StringText m.key)
    (htoken : token json (machine x fault state stack) =
      keyToken json (machine v fault state' stack))
    (hlength : v.length ≤ x.length)
    (hat : forall text trail ms', v = m.key ++ behindKey (cutTo m text trail) ms' [] ->
      AtMembers [] (cutTo m text trail :: ms') state x)
    (hcut : CutKey json m.key (behindKey m ms []) fault state' stack v) :
    CutMember json m ms fault state stack x := by
  cases hcut with
  | fails h => exact .fails hcontinues (.of_eq htoken h)
  | @key rest name hrest hname h =>
      refine .key hcontinues hrest hname (htoken.trans h) ?_ ?_
      · rcases StringText.head hkey with ⟨chars, hchars⟩
        rw [List.length_append, hchars, List.length_cons] at hlength
        omega
      · rintro text trail ms' rfl
        exact hat text trail ms' rfl

/-- The first member. -/
theorem cutMember_first (hspaced : m.Spaced) (hkey : StringText m.key)
    (hx : x <+: m.lead ++ (m.key ++ behindKey m ms [])) :
    CutMember json m ms fault .objectStart stack x := by
  rcases prefix_blank_cases hspaced.1 hx with hblank | ⟨v, hne, rfl, hv⟩
  · exact .nothing (Blank.atStart hblank)
  rcases quotationMark_head hkey hv hne with ⟨tail, hquote⟩
  have hcontinues : Continues (m.lead ++ v) := by
    rw [hquote]
    exact .byte tail hspaced.1 (by decide) (by decide)
  have htoken : token json (machine (m.lead ++ v) fault .objectStart stack) =
      keyToken json (machine v fault .objectStart stack) := by
    unfold token
    rw [hquote, tokenRound_byte _ hspaced.1 (by decide)]
    rfl
  have hlength : v.length ≤ (m.lead ++ v).length := by
    rw [List.length_append]
    exact Nat.le_add_left _ _
  refine .of_cutKey hcontinues hkey htoken hlength ?_
    (cutKey hkey (behindKey_delimited ms [] hspaced) hv hne)
  rintro text trail ms' rfl
  have hat : AtMembers [] (cutTo m text trail :: ms') .objectStart _ := .first (.items _ ms')
  rw [Member.whole_append] at hat
  exact hat

/-- A member behind another one. -/
theorem cutMember_next {w : Buffer} (hw : Blank w) (hspaced : m.Spaced) (hkey : StringText m.key)
    (hx : x <+: w ++ valueSeparator :: (m.lead ++ (m.key ++ behindKey m ms []))) :
    CutMember json m ms fault .objectComma stack x := by
  rcases prefix_blank_byte hw hx with hblank | ⟨u, rfl, hu⟩
  · exact .nothing (Blank.atComma hblank)
  have hcontinues : Continues (w ++ valueSeparator :: u) := .byte u hw (by decide) (by decide)
  rcases prefix_blank_cases hspaced.1 hu with hblank | ⟨v, hne, rfl, hv⟩
  · exact .fails hcontinues (token_comma_blank hw hblank)
  rcases quotationMark_head hkey hv hne with ⟨tail, hquote⟩
  have htoken : token json
      (machine (w ++ valueSeparator :: (m.lead ++ v)) fault .objectComma stack) =
      keyToken json (machine v fault .objectKey stack) := by
    rw [hquote, token_comma hw hspaced.1 (by decide)]
    rfl
  have hlength : v.length ≤ (w ++ valueSeparator :: (m.lead ++ v)).length := by
    rw [List.length_append, List.length_cons, List.length_append]
    omega
  refine .of_cutKey hcontinues hkey htoken hlength ?_
    (cutKey hkey (behindKey_delimited ms [] hspaced) hv hne)
  rintro text trail ms' rfl
  have hat : AtMembers [] (cutTo m text trail :: ms') .objectComma _ := .next hw
  rw [following, List.cons_append, Member.whole_append] at hat
  exact hat

theorem cutMember (hat : AtMembers [] (m :: ms) state full) (hspaced : m.Spaced)
    (hkey : StringText m.key) (hx : x <+: full) : CutMember json m ms fault state stack x := by
  cases hat with
  | first h =>
      cases h with
      | items =>
          rw [Member.whole_append] at hx
          exact cutMember_first hspaced hkey hx
  | next hw =>
      rw [following, List.cons_append, Member.whole_append] at hx
      exact cutMember_next hw hspaced hkey hx

/-!
# Where its value is cut
-/

/-- What is left behind the key of `m`: reading the value fails, or it is taken to be empty, or
there is a value. -/
inductive CutContent (m : Member) (ms : List Member) (fault : Option ErrorKind)
    (stack : List TokenState) : Buffer -> Prop where
  | fails {x : Buffer} (h : Method.Fails decode (machine x fault .objectColon stack)) :
      CutContent m ms fault stack x
  | nothing {x : Buffer} (h : decode (machine x fault .objectColon stack) =
      some (.ok [], machine [] fault .objectComma stack)) : CutContent m ms fault stack x
  | value {t rest : Buffer} (ht : Value t) (hends : Ends fault t rest)
      (hrest : rest <+: behindText m ms)
      (h : decode (machine (m.beforeColon ++ nameSeparator :: (m.afterColon ++ (t ++ rest))) fault
          .objectColon stack) =
        some (.ok t, machine rest fault .objectComma stack)) :
      CutContent m ms fault stack
        (m.beforeColon ++ nameSeparator :: (m.afterColon ++ (t ++ rest)))

theorem prepare_blank (hx : Blank x)
    (hstate : state = .objectColon ∨ state = .arrayComma) :
    Method.Fails tokenPrepareForDecode (machine x fault state stack) := by
  unfold tokenPrepareForDecode
  apply Method.fails_bind (Method.gets_apply _ _)
  rcases hstate with rfl | rfl
  · exact (nextByte_blank hx).bind _
  · exact (nextByte_blank hx).bind _

theorem cutContent (hspaced : m.Spaced) (hvalue : Value m.text)
    (hx : x <+: behindKey m ms []) : CutContent m ms fault stack x := by
  rw [behindKey_eq] at hx
  rcases prefix_blank_byte hspaced.2.1 hx with hblank | ⟨u, rfl, hinner⟩
  · exact .fails (decode_prepare_fails rfl (prepare_blank hblank (Or.inl rfl)))
  have hprepare := @prepare_colon m.beforeColon u fault stack hspaced.2.1
  have hcut := cutValue fault hspaced.2.2.1 hvalue (behindText_delimited ms hspaced) hinner
  cases hcut with
  | fails h => exact .fails (decode_fails rfl hprepare rfl h)
  | nothing hblank hfault h => exact .nothing (decode_nothing rfl hprepare rfl hblank h)
  | value ht hends hrest =>
      exact .value ht hends hrest (decode_colon hspaced.2.1 hspaced.2.2.1 ht hends)

/-- The members behind a value that is left. -/
theorem behindKey_cut {t rest : Buffer} {ms' : List Member}
    (hat : AtMembers [] ms' .objectComma rest) :
    exists trail, Blank trail ∧ rest = behindText (cutTo m t trail) ms' ∧
      m.beforeColon ++ nameSeparator :: (m.afterColon ++ (t ++ rest)) =
        behindKey (cutTo m t trail) ms' [] := by
  cases hat with
  | @next w hw => exact ⟨w, hw, rfl, rfl⟩

end Decoder

/-!
# Rows that are cut off

Once the rows have begun, a cut is seen: the closing bracket of the rows is missing, or the
closing brace behind the other attributes is.
-/

/-- The member is spaced, and its key and its value are texts. -/
structure WellFormed (m : Member) : Prop where
  spaced : m.Spaced
  key : StringText m.key
  text : Value m.text

namespace RawJsonRowStreamer

variable {value result : Type} {json : SerdeJson value} {rowsAttrib : String}
  {attribs : FiniteMap String value} {rowState : RowStreamState}
  {fault : Option ErrorKind} {state : TokenState} {stack : List TokenState} {full x : Buffer}

theorem Fails.onStream {m : Method (Decoder Unread) ErrorKind result} {d : Decoder Unread}
    (h : Method.Fails m d) :
    Method.Fails (onStream m) (streamer d rowsAttrib attribs rowState) :=
  h.within _

/-!
# Calls that come to an error
-/

/-- Calling `next` again and again comes to an error. -/
def NextErrs {input : Type} [ByteSource input] (json : SerdeJson value)
    (s : RawJsonRowStreamer input value) : Prop :=
  exists k e, some (.error e) ∈ run json s (List.replicate k .next)

theorem NextErrs.now {s : RawJsonRowStreamer Unread value} (h : Method.Fails (next json) s) :
    NextErrs json s := by
  have hcall : Method.Fails (call json .next) s := h.bind _
  rcases hcall with ⟨e, s', hcall⟩
  refine ⟨1, e, ?_⟩
  rw [List.replicate_one, run_call hcall]
  exact List.mem_cons_self

theorem NextErrs.later {s s' : RawJsonRowStreamer Unread value} {item : Option RawJsonRowItem}
    (h : next json s = some (.ok item, s')) (herrs : NextErrs json s') : NextErrs json s := by
  rcases herrs with ⟨k, e, hmem⟩
  refine ⟨k + 1, e, ?_⟩
  rw [List.replicate_succ, run_next h]
  exact List.mem_cons_of_mem _ hmem

/-!
# Attributes
-/

/-- What is left of an attribute behind its key: it cannot be read, or it is kept. -/
inductive CutAttrib (json : SerdeJson value) (name : String) (m : Member) (ms : List Member)
    (fault : Option ErrorKind) (stack : List TokenState) (rowsAttrib : String)
    (attribs : FiniteMap String value) (rowState : RowStreamState) : Buffer -> Prop where
  | fails {x : Buffer}
      (h : Method.Fails (readAttrib json name)
        (streamer (.machine x fault .objectColon stack) rowsAttrib attribs rowState)) :
      CutAttrib json name m ms fault stack rowsAttrib attribs rowState x
  | kept {t rest : Buffer} {content : value} (ht : Value t) (hends : Ends fault t rest)
      (hrest : rest <+: behindText m ms) (hcontent : json.valueFromSlice t = .ok content)
      (h : readAttrib json name
          (streamer (.machine (m.beforeColon ++ nameSeparator :: (m.afterColon ++ (t ++ rest)))
            fault .objectColon stack) rowsAttrib attribs rowState) =
        some (.ok (), streamer (.machine rest fault .objectComma stack) rowsAttrib
          (attribs.insert name content) rowState)) :
      CutAttrib json name m ms fault stack rowsAttrib attribs rowState
        (m.beforeColon ++ nameSeparator :: (m.afterColon ++ (t ++ rest)))

theorem readAttrib_unreadable {d d' : Decoder Unread} {t : Buffer} {e : String} (name : String)
    (hdecode : Decoder.decode d = some (.ok t, d')) (hvalue : json.valueFromSlice t = .error e) :
    Method.Fails (readAttrib json name) (streamer d rowsAttrib attribs rowState) := by
  unfold readAttrib
  apply Method.fails_bind (onStream_some hdecode)
  rw [hvalue]
  exact ⟨_, _, rfl⟩

theorem cutAttrib {m : Member} {ms : List Member} {e : String}
    (hempty : json.valueFromSlice [] = .error e) (hm : WellFormed m)
    (hx : x <+: behindKey m ms []) (name : String) :
    CutAttrib json name m ms fault stack rowsAttrib attribs rowState x := by
  have hcut := @Decoder.cutContent fault stack m ms x hm.spaced hm.text hx
  cases hcut with
  | fails h => exact .fails ((Fails.onStream h).bind _)
  | nothing h => exact .fails (readAttrib_unreadable name h hempty)
  | @value t rest ht hends hrest h =>
      cases hcontent : json.valueFromSlice t with
      | ok content => exact .kept ht hends hrest hcontent (readAttrib_ok name h hcontent)
      | error e => exact .fails (readAttrib_unreadable name h hcontent)

/-!
# Behind the rows
-/

/-- The loop of `next` behind the rows comes to an error where the response is cut off. -/
theorem metadataLoop_cut {ms : List Member} {rounds : Nat} {e : String}
    (hempty : json.valueFromSlice [] = .error e) (hms : forall m, m ∈ ms -> WellFormed m)
    (hat : AtMembers [] ms state full) (hx : x <+: full) (hrounds : x.length < rounds) :
    Method.Fails (metadataLoop json rounds)
      (streamer (.machine x fault state stack) rowsAttrib attribs rowState) := by
  induction ms generalizing attribs rounds state full x with
  | nil =>
      cases rounds with
      | zero => cases hrounds
      | succ rounds =>
          have hblank := Blank.of_prefix hat.blank hx
          exact (Fails.onStream (Decoder.token_blank_fails hblank)).bind _
  | cons m ms ih =>
      have hm := hms m List.mem_cons_self
      cases rounds with
      | zero => cases hrounds
      | succ rounds =>
          have hcut := @Decoder.cutMember _ json fault state stack m ms full x hat hm.spaced hm.key
            hx
          cases hcut with
          | nothing hat =>
              exact (Fails.onStream (Decoder.token_blank_fails hat.blank)).bind _
          | fails hcontinues h => exact (Fails.onStream h).bind _
          | @key rest name hcontinues hrest hname htoken hlength hat =>
              have hattrib := @cutAttrib _ json rowsAttrib attribs rowState fault stack rest m ms e
                hempty hm hrest name
              have hloop : Method.Fails
                  (do
                    readAttrib json name
                    metadataLoop json rounds)
                  (streamer (.machine rest fault .objectColon stack) rowsAttrib attribs
                    rowState) := by
                cases hattrib with
                | fails h => exact h.bind _
                | @kept t rest content ht hends hbehind hcontent hread =>
                    apply Method.fails_bind hread
                    apply ih (fun m hm => hms m (List.mem_cons_of_mem _ hm))
                      (.next hm.spaced.2.2.2) hbehind
                    simp only [List.length_append, List.length_cons] at hlength
                    omega
              have hstring : Token.string name ≠ .delim '\x7d' := by
                intro heq
                cases heq
              rw [metadataLoop]
              apply Method.fails_bind (onStream_some htoken)
              rw [if_neg hstring]
              exact hloop

theorem next_cut {m : Member} {ms : List Member} {e : String}
    (hempty : json.valueFromSlice [] = .error e) (hm : m.Spaced)
    (hms : forall m, m ∈ ms -> WellFormed m) (hx : x <+: behindText m ms) :
    NextErrs json
      (streamer (.machine x fault .objectComma stack) rowsAttrib attribs .postRows) := by
  have hat : AtMembers [] ms .objectComma (behindText m ms) := .next hm.2.2.2
  have hloop := @metadataLoop_cut _ json rowsAttrib attribs .postRows fault _ stack _ x ms _ e
    hempty hms hat hx (Nat.lt_succ_self _)
  have hstream : Method.Fails (next json)
      (streamer (.machine x fault .objectComma stack) rowsAttrib attribs .postRows) := by
    unfold next
    apply Method.fails_bind (Method.gets_apply _ _)
    change Method.Fails ((Method.gets size : Method _ ErrorKind Nat) >>= _) _
    apply Method.fails_bind (Method.gets_apply _ _)
    exact hloop.bind _
  exact .now hstream

/-!
# The rows
-/

/-- What is left of the row `e`: it cannot be read, or something is taken for it. -/
inductive CutRow (e : Element) (es : List Element) (close : Buffer) (fault : Option ErrorKind)
    (stack : List TokenState) (d : Decoder Unread) : Prop where
  | fails (h : Method.Fails Decoder.decode d)
  | read {t rest : Buffer}
      (hrest : rest <+: e.trail ++ (following Element.whole es ++ endArray :: close))
      (h : Decoder.decode d = some (.ok t, .machine rest fault .arrayComma stack))

/-- A value of the rows is read from `v`, wherever it begins. -/
theorem CutRow.of_prepared {e : Element} {es : List Element} {close w v : Buffer}
    {d : Decoder Unread} (hd : d.input.err = none) (hw : Blank w) (hspaced : e.Spaced)
    (hvalue : Value e.text)
    (hv : v <+: w ++ (e.text ++ (e.trail ++ (following Element.whole es ++ endArray :: close))))
    (hstate : state = .arrayStart ∨ state = .arrayValue)
    (hprepare : Decoder.tokenPrepareForDecode d = some (.ok (), .machine v fault state stack)) :
    CutRow e es close fault stack d := by
  have hdelimited : Delimited (e.trail ++ (following Element.whole es ++ endArray :: close)) :=
    .blank hspaced.2 (.following Element.whole es (.cons rfl close))
  have hallowed : Decoder.tokenValueAllowed state = true := by
    rcases hstate with rfl | rfl <;> rfl
  have hend : forall rest : Buffer,
      (Decoder.machine rest fault state stack).tokenValueEnd =
        .machine rest fault .arrayComma stack := by
    intro rest
    rcases hstate with rfl | rfl <;> rfl
  have hcut := cutValue fault hw hvalue hdelimited hv
  cases hcut with
  | fails h => exact .fails (Decoder.decode_fails hd hprepare hallowed h)
  | nothing hblank hfault h =>
      have hdecode := Decoder.decode_nothing hd hprepare hallowed hblank h
      rw [hend] at hdecode
      exact .read List.nil_prefix hdecode
  | value ht hends hrest =>
      have hdecode := Decoder.decode_prepared hd hprepare hw ht hends hallowed
      rw [hend] at hdecode
      exact .read hrest hdecode

theorem cutRow {e : Element} {es : List Element} {close : Buffer}
    (hat : AtRows (endArray :: close) e es state full) (hspaced : e.Spaced) (hvalue : Value e.text)
    (hx : x <+: full) : CutRow e es close fault stack (.machine x fault state stack) := by
  cases hat with
  | first =>
      exact .of_prepared rfl Blank.nil hspaced hvalue hx (Or.inl rfl) (Decoder.prepare_here rfl)
  | @next w hw =>
      rcases prefix_blank_byte hw hx with hblank | ⟨u, rfl, hinner⟩
      · exact .fails (Decoder.decode_prepare_fails rfl (Decoder.prepare_blank hblank (Or.inr rfl)))
      · exact .of_prepared rfl hspaced.1 hspaced hvalue hinner (Or.inr rfl)
          (Decoder.prepare_comma hw)

theorem closeRows_blank (hx : Blank x) :
    Method.Fails (closeRows json)
      (streamer (.machine x fault state stack) rowsAttrib attribs rowState) :=
  (Fails.onStream (Decoder.token_blank_fails hx)).bind _

/-- A row behind which the response ends is an error. -/
theorem next_blank {d : Decoder Unread} {t : Buffer} (hx : Blank x)
    (hdecode : Decoder.decode d = some (.ok t, .machine x fault state stack)) :
    Method.Fails (next json) (streamer d rowsAttrib attribs .rows) := by
  have hrow : Method.Fails (nextRow json) (streamer d rowsAttrib attribs .rows) := by
    unfold nextRow
    apply Method.fails_bind (onStream_some hdecode)
    apply Method.fails_bind (onStream_some (Decoder.more_blank hx))
    exact (closeRows_blank hx).bind _
  unfold next
  apply Method.fails_bind (Method.gets_apply _ _)
  exact hrow.bind _

/-- The calls of `next` come to an error at a row, if they do where the text goes on behind
the row and its blanks. -/
theorem CutRow.nextErrs {e : Element} {es : List Element} {close : Buffer} {d : Decoder Unread}
    (hcut : CutRow e es close fault stack d) (hblank : Blank e.trail)
    (hbehind : forall t u, u ≠ [] -> u <+: following Element.whole es ++ endArray :: close ->
      Decoder.decode d = some (.ok t, .machine (e.trail ++ u) fault .arrayComma stack) ->
      NextErrs json (streamer d rowsAttrib attribs .rows)) :
    NextErrs json (streamer d rowsAttrib attribs .rows) := by
  cases hcut with
  | fails h =>
      apply NextErrs.now
      unfold next
      apply Method.fails_bind (Method.gets_apply _ _)
      exact ((Fails.onStream h).bind _).bind _
  | @read t rest hrest h =>
      rcases prefix_blank_cases hblank hrest with hx | ⟨u, hne, rfl, hu⟩
      · exact .now (next_blank hx h)
      · exact hbehind t u hne hu h

/-- The calls of `next` come to an error where the response is cut off in the rows, if they do
where it is cut off behind them. -/
theorem rows_cut {e : Element} {es : List Element} {close : Buffer}
    (hat : AtRows (endArray :: close) e es state full)
    (hspaced : forall e', e' ∈ e :: es -> e'.Spaced)
    (hvalue : forall e', e' ∈ e :: es -> Value e'.text) (hx : x <+: full)
    (hclose : forall rest, rest <+: close ->
      NextErrs json
        (streamer (.machine rest fault .objectComma stack) rowsAttrib attribs .postRows)) :
    NextErrs json
      (streamer (.machine x fault state (.objectValue :: stack)) rowsAttrib attribs .rows) := by
  have hblank := (hspaced e List.mem_cons_self).2
  have hcut := @cutRow fault state (.objectValue :: stack) full x e es close hat
    (hspaced e List.mem_cons_self) (hvalue e List.mem_cons_self) hx
  induction es generalizing e state full x with
  | nil =>
      apply hcut.nextErrs hblank
      intro t u hne hu h
      cases u with
      | nil => exact absurd rfl hne
      | cons c u =>
          rcases List.cons_prefix_cons.mp hu with ⟨rfl, hinner⟩
          exact .later (next_lastRow hblank h) (hclose u hinner)
  | cons e' es ih =>
      apply hcut.nextErrs hblank
      intro t u hne hu h
      have hcomma : following Element.whole (e' :: es) ++ endArray :: close =
          valueSeparator :: (e'.lead ++ (e'.text ++ (e'.trail ++
            (following Element.whole es ++ endArray :: close)))) := by
        simp [following, Element.whole]
      rw [hcomma] at hu
      have hat' : AtRows (endArray :: close) e' es .arrayComma _ := .next Blank.nil
      have hspaced' : forall x, x ∈ e' :: es -> x.Spaced :=
        fun x hx => hspaced x (List.mem_cons_of_mem _ hx)
      have hvalue' : forall x, x ∈ e' :: es -> Value x.text :=
        fun x hx => hvalue x (List.mem_cons_of_mem _ hx)
      have hfirst := hspaced' e' List.mem_cons_self
      have hrows := ih hat' hspaced' hvalue' hu hfirst.2
        (cutRow hat' hfirst (hvalue' e' List.mem_cons_self) hu)
      cases u with
      | nil => exact absurd rfl hne
      | cons c u =>
          have hc := (List.cons_prefix_cons.mp hu).1
          subst hc
          exact .later (next_row hblank h) hrows

end RawJsonRowStreamer
end Httpx
end CouchbaseSdk
