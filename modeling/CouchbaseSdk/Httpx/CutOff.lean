import CouchbaseSdk.Httpx.CutRows
import CouchbaseSdk.Httpx.Faithful

/-!
# Responses that are cut off

The loop of `begin` takes the end of the stream, and a transport error too, for the end of the
response where it looks for another attribute.  Everywhere else a response that is cut off is
reported as an error.
-/

namespace CouchbaseSdk
namespace Httpx

open Foundation Foundation.Json

variable {value : Type}

/-!
# Attributes that are passed over
-/

/-- The loop of `begin` goes over all of these members: a rows attribute has no rows, and the
values can be told to end. -/
inductive Passed (json : SerdeJson value) (rowsAttrib : String) (fault : Option ErrorKind) :
    List Member -> Prop where
  | nil : Passed json rowsAttrib fault []
  | kept {a : Attribute value} {ms : List Member} (ha : a.Read json rowsAttrib)
      (hends : Ends fault a.member.text (a.member.trail ++ following Member.whole ms))
      (h : Passed json rowsAttrib fault ms) : Passed json rowsAttrib fault (a.member :: ms)
  | rows {m : Member} {ms : List Member} (hm : RowsMember json rowsAttrib [m] [])
      (hends : Ends fault m.text (m.trail ++ following Member.whole ms))
      (h : Passed json rowsAttrib fault ms) : Passed json rowsAttrib fault (m :: ms)

/-- The text lacks nothing but the closing brace, and no attribute in it has rows. -/
inductive LacksBrace (json : SerdeJson value) (rowsAttrib : String) (fault : Option ErrorKind) :
    Buffer -> Prop where
  | object {lead inside : Buffer} {ms : List Member} (hlead : Blank lead)
      (hinside : Inside Member.whole ms inside) (h : Passed json rowsAttrib fault ms) :
      LacksBrace json rowsAttrib fault (lead ++ beginObject :: inside)

namespace RawJsonRowStreamer

variable {json : SerdeJson value} {rowsAttrib : String} {attribs : FiniteMap String value}
  {rowState : RowStreamState} {fault : Option ErrorKind} {state : TokenState}
  {stack : List TokenState} {full x : Buffer}

theorem beginLoop_blank (rounds : Nat) (hx : Blank x) :
    exists d, beginLoop json (rounds + 1)
        (streamer (.machine x fault state stack) rowsAttrib attribs rowState) =
      some (.ok (), streamer d rowsAttrib attribs .ended) := by
  rw [beginLoop, Method.bind_ok _ (onStream_some (Decoder.more_blank hx)),
    if_neg Bool.false_ne_true]
  exact ⟨_, rfl⟩

/-- Where only the closing brace is missing, the loop of `begin` comes to an end. -/
theorem beginLoop_passed {ms : List Member} {rounds : Nat} (h : Passed json rowsAttrib fault ms)
    (hat : AtMembers [] ms state x) (hrounds : ms.length < rounds) :
    exists d attribs', beginLoop json rounds
        (streamer (.machine x fault state stack) rowsAttrib attribs rowState) =
      some (.ok (), streamer d rowsAttrib attribs' .ended) := by
  induction h generalizing attribs rowState rounds state x with
  | nil =>
      cases rounds with
      | zero => cases hrounds
      | succ rounds =>
          rcases @beginLoop_blank _ json rowsAttrib attribs rowState fault state stack x rounds
            hat.blank with ⟨d, heq⟩
          exact ⟨d, attribs, heq⟩
  | @kept a ms ha hends _ ih =>
      cases rounds with
      | zero => cases hrounds
      | succ rounds =>
          rw [List.length_cons] at hrounds
          rw [← List.append_nil (following Member.whole ms)] at hends
          rw [beginLoop_attribute rounds ha hat hends]
          exact ih (.next ha.spaced.2.2.2) (by omega)
  | @rows m ms hm hends _ ih =>
      cases rounds with
      | zero => cases hrounds
      | succ rounds =>
          rw [List.length_cons] at hrounds
          rw [← List.append_nil (following Member.whole ms)] at hends
          cases hm with
          | null hspaced hkey hname htext =>
              rw [htext] at hends
              rw [beginLoop_rowsMember rounds hspaced hkey hname hat,
                beginRows_null _ hspaced htext hends]
              exact ih (.next hspaced.2.2.2) (by omega)
          | array hspaced hkey hname htext hinside helements hvalue =>
              cases hinside with
              | blank hblank =>
                  rw [beginLoop_rowsMember rounds hspaced hkey hname hat,
                    beginRows_empty _ hspaced htext hblank]
                  exact ih (.next hspaced.2.2.2) (by omega)

/-!
# The rows attribute
-/

/-- What is left of the rows attribute behind its key: it is an error to read it, or to read
the rows, or it has no rows. -/
inductive CutRowsAttrib (json : SerdeJson value)
    (again : Method (RawJsonRowStreamer Unread value) ErrorKind Unit) (m : Member)
    (ms : List Member) (fault : Option ErrorKind) (stack : List TokenState) (rowsAttrib : String)
    (attribs : FiniteMap String value) (rowState : RowStreamState) : Buffer -> Prop where
  | fails {x : Buffer}
      (h : Method.Fails (beginRows json again)
        (streamer (.machine x fault .objectColon stack) rowsAttrib attribs rowState)) :
      CutRowsAttrib json again m ms fault stack rowsAttrib attribs rowState x
  | rows {x : Buffer} {s : RawJsonRowStreamer Unread value}
      (h : beginRows json again
          (streamer (.machine x fault .objectColon stack) rowsAttrib attribs rowState) =
        some (.ok (), s)) (herrs : NextErrs json s) :
      CutRowsAttrib json again m ms fault stack rowsAttrib attribs rowState x
  | passed {t rest : Buffer} {rowState' : RowStreamState}
      (ht : t = nullText ∨
        exists inside, Blank inside ∧ t = beginArray :: (inside ++ [endArray]))
      (hends : Ends fault t rest) (hrest : rest <+: behindText m ms)
      (h : beginRows json again
          (streamer (.machine (m.beforeColon ++ nameSeparator :: (m.afterColon ++ (t ++ rest)))
            fault .objectColon stack) rowsAttrib attribs rowState) =
        again (streamer (.machine rest fault .objectComma stack) rowsAttrib attribs rowState')) :
      CutRowsAttrib json again m ms fault stack rowsAttrib attribs rowState
        (m.beforeColon ++ nameSeparator :: (m.afterColon ++ (t ++ rest)))

theorem beginRows_other {d d' : Decoder Unread} {token : Token}
    (again : Method (RawJsonRowStreamer Unread value) ErrorKind Unit)
    (htoken : Decoder.token json d = some (.ok token, d')) (hdelim : token ≠ .delim '[')
    (hnull : token ≠ .value nullText) :
    Method.Fails (beginRows json again) (streamer d rowsAttrib attribs rowState) := by
  unfold beginRows
  apply Method.fails_bind (onStream_some htoken)
  rw [if_neg hdelim, if_neg hnull]
  exact Method.fails_fail _ _

/-- A scalar is read as a token. -/
theorem tokenAt_scalar {c : UInt8} {t : Buffer} (h : Scalar (c :: t))
    (again : Method (Decoder Unread) ErrorKind Token) :
    Decoder.tokenAt json again c .objectValue = Decoder.valueToken := by
  rcases scalar_first h with ⟨b, tail, heq, hb⟩
  rcases List.cons_eq_cons.mp heq with ⟨rfl, _⟩
  rcases hb with hdigit | hsign
  · rcases digit_cases hdigit with rfl | rfl | rfl | rfl | rfl | rfl | rfl | rfl | rfl | rfl <;> rfl
  · rcases scalarSign_cases hsign with rfl | rfl | rfl | rfl | rfl <;> rfl

/-- The rows attribute is a scalar. -/
theorem cutRowsAttrib_scalar {m : Member} {ms : List Member} {v : Buffer}
    (again : Method (RawJsonRowStreamer Unread value) ErrorKind Unit) (hm : WellFormed m)
    (hscalar : Scalar m.text) (hne : v ≠ []) (hv : v <+: m.text ++ behindText m ms) :
    CutRowsAttrib json again m ms fault stack rowsAttrib attribs rowState
      (m.beforeColon ++ nameSeparator :: (m.afterColon ++ v)) := by
  rcases hscalar.head with ⟨c, t, htext, hc⟩
  have hbyte : exists u, v = c :: u := by
    cases v with
    | nil => exact absurd rfl hne
    | cons b u =>
        rw [htext] at hv
        rw [(List.cons_prefix_cons.mp hv).1]
        exact ⟨u, rfl⟩
  rcases hbyte with ⟨u, hu⟩
  have htoken : Decoder.token json (.machine
      (m.beforeColon ++ nameSeparator :: (m.afterColon ++ v)) fault .objectColon stack) =
      Decoder.valueToken (.machine v fault .objectValue stack) := by
    rw [htext] at hscalar
    rw [hu, Decoder.token_colon hm.spaced.2.1 hm.spaced.2.2.1 (Scanner.opens_no_whitespace hc),
      tokenAt_scalar hscalar]
  have hcut := cutValue fault Blank.nil hm.text (behindText_delimited ms hm.spaced) hv
  cases hcut with
  | fails h =>
      apply CutRowsAttrib.fails
      have hdecode : Method.Fails Decoder.decode (.machine v fault .objectValue stack) :=
        Decoder.decode_fails rfl (Decoder.prepare_here rfl) rfl h
      have hfails : Method.Fails (Decoder.token json) (.machine
          (m.beforeColon ++ nameSeparator :: (m.afterColon ++ v)) fault .objectColon stack) :=
        .of_eq htoken (hdecode.bind _)
      exact (Fails.onStream hfails).bind _
  | nothing hblank _ _ =>
      rw [hu] at hblank
      have hspace := Scanner.opens_no_whitespace hc
      rw [whitespace_of_blank hblank.head] at hspace
      cases hspace
  | @value t rest ht hends hrest =>
      have hdecode : Decoder.decode (.machine ([] ++ (t ++ rest)) fault .objectValue stack) =
          some (.ok t, .machine rest fault .objectComma stack) :=
        Decoder.decode_here Blank.nil ht hends rfl
      have hvalue : Decoder.token json (.machine
          (m.beforeColon ++ nameSeparator :: (m.afterColon ++ ([] ++ (t ++ rest)))) fault
          .objectColon stack) =
          some (.ok (.value t), .machine rest fault .objectComma stack) := by
        rw [htoken]
        exact Method.bind_ok _ hdecode
      rw [List.nil_append] at hvalue ⊢
      by_cases hnull : t = nullText
      · rw [hnull] at hvalue hends ⊢
        exact .passed (Or.inl rfl) hends hrest (beginRows_nullToken again hvalue)
      · apply CutRowsAttrib.fails
        exact beginRows_other again hvalue nofun fun heq => hnull (Token.value.inj heq)

/-- The rows attribute is an array. -/
theorem cutRowsAttrib_array {m : Member} {ms : List Member} {es : List Element}
    {inside v : Buffer} {e : String}
    (again : Method (RawJsonRowStreamer Unread value) ErrorKind Unit)
    (hempty : json.valueFromSlice [] = .error e) (hm : m.Spaced)
    (hms : forall m, m ∈ ms -> WellFormed m) (hinside : Inside Element.whole es inside)
    (hspaced : forall e, e ∈ es -> e.Spaced) (hvalue : forall e, e ∈ es -> Value e.text)
    (hv : v <+: inside ++ endArray :: behindText m ms) :
    CutRowsAttrib json again m ms fault stack rowsAttrib attribs rowState
      (m.beforeColon ++ nameSeparator :: (m.afterColon ++ beginArray :: v)) := by
  have htoken := @Decoder.token_beginArray _ json m.beforeColon v fault stack m.afterColon hm.2.1
    hm.2.2.1
  have hblank : Blank v ->
      CutRowsAttrib json again m ms fault stack rowsAttrib attribs rowState
        (m.beforeColon ++ nameSeparator :: (m.afterColon ++ beginArray :: v)) := by
    intro hv
    apply CutRowsAttrib.fails
    apply Method.Fails.of_eq (beginRows_open again htoken)
    apply Method.fails_bind (onStream_some (Decoder.more_blank hv))
    exact (closeRows_blank hv).bind _
  cases hinside with
  | blank hw =>
      rcases prefix_blank_byte hw hv with h | ⟨rest, rfl, hrest⟩
      · exact hblank h
      have hwhole : beginArray :: (inside ++ endArray :: rest) =
          (beginArray :: (inside ++ [endArray])) ++ rest := by
        simp
      have hend := @beginRows_brackets _ json rowsAttrib attribs rowState fault stack _ _ _
        again htoken hw
      rw [hwhole] at hend ⊢
      exact .passed (Or.inr ⟨inside, hw, rfl⟩)
        (.container (.array (.blank hw) hspaced hvalue)) hrest hend
  | items e' es =>
      have hfirst := hspaced e' List.mem_cons_self
      have hwhole : (e'.whole ++ following Element.whole es) ++ endArray :: behindText m ms =
          e'.lead ++ (e'.text ++ (e'.trail ++
            (following Element.whole es ++ endArray :: behindText m ms))) := by
        simp [Element.whole]
      rw [hwhole] at hv
      rcases prefix_blank_cases hfirst.1 hv with h | ⟨u, hne, rfl, hu⟩
      · exact hblank h
      rcases (hvalue e' List.mem_cons_self).head with ⟨c, t, htext, hc⟩
      cases u with
      | nil => exact absurd rfl hne
      | cons b u =>
          have hbyte : b = c := by
            rw [htext] at hu
            exact (List.cons_prefix_cons.mp hu).1
          rw [← hbyte] at hc
          have hbegin := @beginRows_row _ json rowsAttrib attribs rowState fault _ _ _ _ _ again
            htoken hfirst.1 hc
          have hat : AtRows (endArray :: behindText m ms) e' es .arrayStart _ := .first
          exact .rows hbegin (rows_cut hat hspaced hvalue hu
            fun rest hrest => next_cut hempty hm hms hrest)

theorem cutRowsAttrib {m : Member} {ms : List Member} {e : String}
    (again : Method (RawJsonRowStreamer Unread value) ErrorKind Unit)
    (hempty : json.valueFromSlice [] = .error e) (hm : WellFormed m)
    (hms : forall m, m ∈ ms -> WellFormed m) (hx : x <+: behindKey m ms []) :
    CutRowsAttrib json again m ms fault stack rowsAttrib attribs rowState x := by
  have hfails : forall x, Method.Fails (Decoder.token json) (.machine x fault .objectColon stack) ->
      CutRowsAttrib json again m ms fault stack rowsAttrib attribs rowState x :=
    fun x h => .fails ((Fails.onStream h).bind _)
  rw [behindKey_eq] at hx
  rcases prefix_blank_byte hm.spaced.2.1 hx with hblank | ⟨u, rfl, hu⟩
  · exact hfails x (Decoder.token_blank_fails hblank)
  rcases prefix_blank_cases hm.spaced.2.2.1 hu with hblank | ⟨v, hne, rfl, hv⟩
  · exact hfails _ (Decoder.token_colon_blank hm.spaced.2.1 hblank)
  have hvalue := hm.text
  generalize htext : m.text = text at hvalue
  cases hvalue with
  | scalar hscalar =>
      rw [← htext] at hscalar
      exact cutRowsAttrib_scalar again hm hscalar hne hv
  | @array es inside hinside hspaced hvalue =>
      have hwhole : m.text ++ behindText m ms =
          beginArray :: (inside ++ endArray :: behindText m ms) := by
        simp [htext]
      rw [hwhole] at hv
      cases v with
      | nil => exact absurd rfl hne
      | cons b v =>
          rcases List.cons_prefix_cons.mp hv with ⟨rfl, hv'⟩
          exact cutRowsAttrib_array again hempty hm.spaced hms hinside hspaced hvalue hv'
  | object _ _ _ _ =>
      rw [htext] at hv
      cases v with
      | nil => exact absurd rfl hne
      | cons b v =>
          rcases List.cons_prefix_cons.mp hv with ⟨rfl, _⟩
          have htoken : Decoder.token json (.machine
              (m.beforeColon ++ nameSeparator :: (m.afterColon ++ beginObject :: v)) fault
              .objectColon stack) =
              some (.ok (.delim '\x7b'),
                .machine v fault .objectStart (.objectValue :: stack)) := by
            rw [Decoder.token_colon hm.spaced.2.1 hm.spaced.2.2.1 (by decide)]
            rfl
          exact .fails (beginRows_other again htoken (by decide) nofun)

/-!
# The loop of `begin`
-/

/-- What the loop of `begin` comes to over a text that is cut off, where it is before the
members that are left. -/
inductive CutBegin (json : SerdeJson value) (rowsAttrib : String) (fault : Option ErrorKind)
    (state : TokenState) (x : Buffer)
    (res : Option (Except ErrorKind Unit × RawJsonRowStreamer Unread value)) : Prop where
  | lacksBrace {ms : List Member} (hat : AtMembers [] ms state x)
      (h : Passed json rowsAttrib fault ms) : CutBegin json rowsAttrib fault state x res
  | fails {e : ErrorKind} {s : RawJsonRowStreamer Unread value} (h : res = some (.error e, s)) :
      CutBegin json rowsAttrib fault state x res
  | rows {s : RawJsonRowStreamer Unread value} (h : res = some (.ok (), s))
      (herrs : NextErrs json s) : CutBegin json rowsAttrib fault state x res

theorem CutBegin.of_fails {m : Method (RawJsonRowStreamer Unread value) ErrorKind Unit}
    {s : RawJsonRowStreamer Unread value} (h : Method.Fails m s) :
    CutBegin json rowsAttrib fault state x (m s) := by
  rcases h with ⟨e, s', h⟩
  exact .fails h

theorem cutTo_spaced {m : Member} {trail : Buffer} (hm : m.Spaced) (text : Buffer)
    (htrail : Blank trail) : (cutTo m text trail).Spaced :=
  ⟨hm.1, hm.2.1, hm.2.2.1, htrail⟩

/-- A member that is left stands before the members that are left behind it. -/
theorem CutBegin.cons {m : Member} {t rest : Buffer}
    {res : Option (Except ErrorKind Unit × RawJsonRowStreamer Unread value)}
    (hat : forall text trail ms',
      m.beforeColon ++ nameSeparator :: (m.afterColon ++ (t ++ rest)) =
          behindKey (cutTo m text trail) ms' [] ->
        AtMembers [] (cutTo m text trail :: ms') state x)
    (hpassed : forall trail ms', Blank trail ->
      rest = trail ++ following Member.whole ms' -> Passed json rowsAttrib fault ms' ->
      Passed json rowsAttrib fault (cutTo m t trail :: ms'))
    (h : CutBegin json rowsAttrib fault .objectComma rest res) :
    CutBegin json rowsAttrib fault state x res := by
  cases h with
  | lacksBrace hrest hms =>
      rcases @Decoder.behindKey_cut m t rest _ hrest with ⟨trail, htrail, heq, hbehind⟩
      rw [behindText, List.append_nil] at heq
      exact .lacksBrace (hat t trail _ hbehind) (hpassed trail _ htrail heq hms)
  | fails h => exact .fails h
  | rows h herrs => exact .rows h herrs

/-- A round that cannot read the next key. -/
theorem beginLoop_fails (rounds : Nat) (hcontinues : Continues x)
    (h : Method.Fails (Decoder.token json) (.machine x fault state stack)) :
    Method.Fails (beginLoop json (rounds + 1))
      (streamer (.machine x fault state stack) rowsAttrib attribs rowState) := by
  rcases @Decoder.more_continues _ json fault state stack x hcontinues with ⟨x', hmore, hsame⟩
  have hfails : Method.Fails (Decoder.token json) (.machine x' fault state stack) :=
    .of_eq hsame h
  rw [beginLoop]
  apply Method.fails_bind (onStream_some hmore)
  rw [if_pos rfl]
  exact (Fails.onStream hfails).bind _

theorem beginLoop_cut {ms : List Member} {rounds : Nat} {e : String}
    (hempty : json.valueFromSlice [] = .error e) (hms : forall m, m ∈ ms -> WellFormed m)
    (hat : AtMembers [] ms state full) (hx : x <+: full) (hrounds : x.length < rounds) :
    CutBegin json rowsAttrib fault state x
      (beginLoop json rounds
        (streamer (.machine x fault state stack) rowsAttrib attribs rowState)) := by
  induction ms generalizing attribs rowState rounds state full x with
  | nil => exact .lacksBrace (hat.of_prefix hx) .nil
  | cons m ms ih =>
      have hm := hms m List.mem_cons_self
      have hms' : forall m, m ∈ ms -> WellFormed m := fun m hm => hms m (List.mem_cons_of_mem _ hm)
      cases rounds with
      | zero => cases hrounds
      | succ rounds =>
          have hcut := @Decoder.cutMember _ json fault state stack m ms full x hat hm.spaced hm.key
            hx
          cases hcut with
          | nothing hat => exact .lacksBrace hat .nil
          | fails hcontinues h => exact .of_fails (beginLoop_fails rounds hcontinues h)
          | @key rest name hcontinues hrest hname htoken hlength hat =>
              rcases @Decoder.more_continues _ json fault state stack x hcontinues with
                ⟨x', hmore, hsame⟩
              rw [htoken] at hsame
              rw [beginLoop_key rounds hmore hsame]
              by_cases hrows : name = rowsAttrib
              · rw [if_pos hrows]
                have hattrib := @cutRowsAttrib _ json rowsAttrib attribs rowState fault stack rest
                  m ms e (beginLoop json rounds) hempty hm hms' hrest
                cases hattrib with
                | fails h => exact .of_fails h
                | rows h herrs => exact .rows h herrs
                | @passed t rest rowState' ht hends hbehind h =>
                    rw [h]
                    simp only [List.length_append, List.length_cons] at hlength
                    refine CutBegin.cons hat ?_
                      (ih hms' (.next hm.spaced.2.2.2) hbehind (by omega))
                    rintro trail ms' htrail rfl hpassed
                    have hspaced := cutTo_spaced hm.spaced t htrail
                    rw [hrows] at hname
                    refine .rows ?_ hends hpassed
                    rcases ht with ht | ⟨inside, hinside, ht⟩
                    · exact .null hspaced hm.key hname ht
                    · exact .array hspaced hm.key hname ht (.blank hinside)
                        (fun e he => absurd he List.not_mem_nil)
                        (fun e he => absurd he List.not_mem_nil)
              · rw [if_neg hrows]
                have hattrib := @cutAttrib _ json rowsAttrib attribs rowState fault stack rest m ms
                  e hempty hm hrest name
                cases hattrib with
                | fails h => exact .of_fails (h.bind _)
                | @kept t rest content ht hends hbehind hcontent hread =>
                    rw [Method.bind_ok _ hread]
                    simp only [List.length_append, List.length_cons] at hlength
                    refine CutBegin.cons hat ?_
                      (ih hms' (.next hm.spaced.2.2.2) hbehind (by omega))
                    rintro trail ms' htrail rfl hpassed
                    have hread : Attribute.Read json rowsAttrib
                        { member := cutTo m t trail, name := name, content := content } :=
                      { spaced := cutTo_spaced hm.spaced t htrail
                        key := hm.key
                        text := ht
                        name := hname
                        content := hcontent
                        other := hrows }
                    exact .kept hread hends hpassed

/-!
# The run
-/

/-- `read_prelude` and then `next`, called again and again, come to an error. -/
def ReportsError {input : Type} [ByteSource input] (json : SerdeJson value)
    (s : RawJsonRowStreamer input value) : Prop :=
  exists k e, some (.error e) ∈ run json s (.readPrelude :: List.replicate k .next)

theorem ReportsError.of_fails {s : RawJsonRowStreamer Unread value}
    (h : Method.Fails (begin json) s) : ReportsError json s := by
  have hcall : Method.Fails (call json .readPrelude) s := (h.bind _).bind _
  rcases hcall with ⟨e, s', hcall⟩
  refine ⟨0, e, ?_⟩
  rw [run_call hcall]
  exact List.mem_cons_self

theorem ReportsError.of_next {s s' : RawJsonRowStreamer Unread value}
    (h : begin json s = some (.ok (), s')) (herrs : NextErrs json s') : ReportsError json s := by
  cases hencode : json.toVec s'.attribs with
  | ok bytes =>
      rcases herrs with ⟨k, e, hmem⟩
      refine ⟨k, e, ?_⟩
      rw [run_call (readPrelude_ok h hencode)]
      exact List.mem_cons_of_mem _ hmem
  | error e =>
      have hprelude : Method.Fails (readPrelude json) s := by
        unfold readPrelude
        apply Method.fails_bind h
        change Method.Fails (Method.ofExcept ((json.toVec s'.attribs).mapError _)) s'
        rw [hencode]
        exact ⟨_, _, rfl⟩
      have hcall : Method.Fails (call json .readPrelude) s := hprelude.bind _
      rcases hcall with ⟨e', s'', hcall⟩
      refine ⟨0, e', ?_⟩
      rw [run_call hcall]
      exact List.mem_cons_self

/-- Behind the end of the response there is nothing. -/
theorem run_ended {s : RawJsonRowStreamer Unread value} (hstate : s.state = .ended) (k : Nat) :
    run json s (List.replicate k .next) = List.replicate k (some (.ok (.item none))) := by
  induction k with
  | zero => rfl
  | succ k ih => rw [List.replicate_succ, run_next (next_ended hstate), ih, List.replicate_succ]

/-- The parts of an object. -/
theorem object_inside {inside : Buffer} (h : Value (beginObject :: (inside ++ [endObject]))) :
    exists ms, Inside Member.whole ms inside ∧ forall m, m ∈ ms -> WellFormed m := by
  generalize htext : beginObject :: (inside ++ [endObject]) = text at h
  cases h with
  | scalar hscalar =>
      rw [← htext] at hscalar
      exact absurd hscalar (not_scalar_object _)
  | array _ _ _ => cases htext
  | @object ms inside' hinside hspaced hkey hvalue =>
      have hsame := List.append_cancel_right (List.cons_eq_cons.mp htext).2
      rw [hsame]
      exact ⟨ms, hinside, fun m hm => ⟨hspaced m hm, hkey m hm, hvalue m hm⟩⟩

/-- What a response that is cut off comes to. -/
theorem begin_cut {lead inside : Buffer} {ms : List Member} {e : String}
    (hempty : json.valueFromSlice [] = .error e) (hlead : Blank lead)
    (hinside : Inside Member.whole ms inside) (hms : forall m, m ∈ ms -> WellFormed m)
    (hx : x <+: lead ++ beginObject :: inside) :
    LacksBrace json rowsAttrib fault x ∨
      ReportsError json (ofBytes x fault rowsAttrib) := by
  rcases prefix_blank_byte hlead hx with hblank | ⟨rest, rfl, hrest⟩
  · right
    apply ReportsError.of_fails
    unfold begin
    apply Method.fails_bind (Method.gets_apply _ _)
    exact (Fails.onStream (d := .machine x fault .topValue [])
      (Decoder.token_blank_fails hblank)).bind _
  have hat : AtMembers [] ms .objectStart (inside ++ []) := .first hinside
  rw [List.append_nil] at hat
  have hbegin := @begin_object _ json rowsAttrib ∅ fault [] rest lead hlead
  have hcut := @beginLoop_cut _ json rowsAttrib ∅ .start fault .objectStart [.topValue] inside
    rest ms (rest.length + 1) e hempty hms hat hrest (Nat.lt_succ_self _)
  rw [← hbegin] at hcut
  cases hcut with
  | lacksBrace hat h =>
      cases hat with
      | first hinside =>
          rw [List.append_nil]
          exact Or.inl (.object hlead hinside h)
  | fails h => exact Or.inr (.of_fails ⟨_, _, h⟩)
  | rows h herrs => exact Or.inr (.of_next h herrs)

/-- Where only the closing brace is missing, no error is reported. -/
theorem no_error (hencode : forall attribs, exists bytes, json.toVec attribs = .ok bytes)
    (h : LacksBrace json rowsAttrib fault x) :
    ¬ ReportsError json (ofBytes x fault rowsAttrib) := by
  cases h with
  | @object lead inside ms hlead hinside h =>
      have hat : AtMembers [] ms .objectStart (inside ++ []) := .first hinside
      rw [List.append_nil] at hat
      have hbegin := @begin_object _ json rowsAttrib ∅ fault [] inside lead hlead
      rcases @beginLoop_passed _ json rowsAttrib ∅ .start fault .objectStart [.topValue] inside ms
        (inside.length + 1) h hat (Nat.lt_succ_of_le hat.length_le) with ⟨d, attribs', hloop⟩
      rw [hloop] at hbegin
      rcases hencode attribs' with ⟨bytes, hbytes⟩
      rintro ⟨k, e, hmem⟩
      change some (.error e) ∈
        run json (streamer (.machine (lead ++ beginObject :: inside) fault .topValue []) rowsAttrib
          ∅ .start) _ at hmem
      rw [run_call (readPrelude_ok hbegin hbytes), run_ended rfl] at hmem
      rcases List.mem_cons.mp hmem with heq | hnext
      · cases heq
      · cases List.eq_of_mem_replicate hnext

theorem reportsError_ofStream (chunks : List Buffer) :
    ReportsError json (ofStream (chunks.map .ok ++ fault.toList.map .error) rowsAttrib) <->
      ReportsError json (ofBytes chunks.flatten fault rowsAttrib) := by
  unfold ReportsError
  simp only [run_ofStream]

/-- A response that is cut off is reported as an error, unless it lacks nothing but its closing
brace and has no rows, with the values in it told to end: then it is taken for a complete one. -/
theorem reportsError_iff {lead inside : Buffer} {e : String}
    (hempty : json.valueFromSlice [] = .error e)
    (hencode : forall attribs, exists bytes, json.toVec attribs = .ok bytes)
    (hlead : Blank lead) (hobject : Value (beginObject :: (inside ++ [endObject])))
    (chunks : List Buffer) (hcut : chunks.flatten <+: lead ++ beginObject :: inside)
    (fault : Option ErrorKind) (rowsAttrib : String) :
    ReportsError json (ofStream (chunks.map .ok ++ fault.toList.map .error) rowsAttrib) <->
      ¬ LacksBrace json rowsAttrib fault chunks.flatten := by
  rw [reportsError_ofStream]
  constructor
  · intro herror hlacks
    exact no_error hencode hlacks herror
  · intro hlacks
    rcases object_inside hobject with ⟨ms, hinside, hms⟩
    rcases @begin_cut _ json rowsAttrib fault _ lead inside ms e hempty hlead hinside hms hcut with
      h | h
    · exact absurd h hlacks
    · exact h

/-!
# A number that is cut off, and a missing attribute
-/

/-- The member `"a":12`. -/
def member12 : Member :=
  cutTo attributeA.member (plainBytes "12") []

theorem object_12 : Value (beginObject :: (plainBytes "\"a\":12" ++ [endObject])) := by
  have hinteger : IntegerText [0x31, 0x32] :=
    .digits (by decide) (by decide) (fun d hd => by rw [List.mem_singleton.mp hd]; decide)
  have hnumber : NumberText ([] ++ ([0x31, 0x32] ++ ([] ++ []))) :=
    .parts (Or.inl rfl) hinteger .absent .absent
  have hvalue : Value (plainBytes "12") := .scalar (.number hnumber)
  exact .object (.items member12 [])
    (fun m hm => by rw [List.mem_singleton.mp hm]; exact attributeA_read.spaced)
    (fun m hm => by rw [List.mem_singleton.mp hm]; exact attributeA_read.key)
    (fun m hm => by rw [List.mem_singleton.mp hm]; exact hvalue)

/-- The stream ends within the number 12, and the attribute is taken to be 1. -/
theorem cut_number_not_reported :
    ¬ (forall (lead inside : Buffer) (chunks : List Buffer) (fault : Option ErrorKind),
      Blank lead -> Value (beginObject :: (inside ++ [endObject])) ->
      chunks.flatten <+: lead ++ beginObject :: inside ->
      ReportsError plainJson (ofStream (chunks.map .ok ++ fault.toList.map .error) "rows")) := by
  intro hclaim
  have herror := hclaim [] (plainBytes "\"a\":12") [plainBytes "\x7b\"a\":1"] none Blank.nil
    object_12 ⟨plainBytes "2", by decide⟩
  rw [reportsError_ofStream] at herror
  have hpassed : Passed plainJson "rows" none [attributeA.member] :=
    .kept attributeA_read (.finish rfl) .nil
  have hlacks : LacksBrace plainJson "rows" none ([] ++ beginObject :: plainBytes "\"a\":1") :=
    .object Blank.nil (.items attributeA.member []) hpassed
  exact no_error (fun _ => ⟨_, rfl⟩) hlacks herror

theorem object_rows_a :
    Value (beginObject :: (plainBytes "\"rows\":[],\"a\":1" ++ [endObject])) := by
  have hrows : Value (plainBytes "[]") :=
    .array (.blank Blank.nil) (fun e he => absurd he List.not_mem_nil)
      (fun e he => absurd he List.not_mem_nil)
  have hmembers : forall m, m ∈ [rowsMember (plainBytes "[]"), attributeA.member] ->
      WellFormed m := by
    intro m hm
    rcases List.mem_cons.mp hm with rfl | hm
    · exact ⟨rowsMember_spaced _, rowsMember_key _, hrows⟩
    · rw [List.mem_singleton.mp hm]
      exact ⟨attributeA_read.spaced, attributeA_read.key, attributeA_read.text⟩
  exact .object (.items (rowsMember (plainBytes "[]")) [attributeA.member])
    (fun m hm => (hmembers m hm).spaced) (fun m hm => (hmembers m hm).key)
    (fun m hm => (hmembers m hm).text)

/-- A transport error behind the empty rows hides the attribute behind them. -/
theorem reportsError_iff_fault :
    ¬ ReportsError plainJson
      (ofStream ([plainBytes "\x7b\"ro", plainBytes "ws\":[]"].map .ok ++
        (some (.message "connection reset")).toList.map .error) "rows") := by
  intro herror
  have hrows : RowsMember plainJson "rows" [rowsMember (plainBytes "[]")] [] :=
    .array (rowsMember_spaced _) (rowsMember_key _) (rowsMember_name _) rfl (.blank Blank.nil)
      (fun e he => absurd he List.not_mem_nil) (fun e he => absurd he List.not_mem_nil)
  have hcontainer : Container (plainBytes "[]") :=
    .array (.blank Blank.nil) (fun e he => absurd he List.not_mem_nil)
      (fun e he => absurd he List.not_mem_nil)
  have hpassed : Passed plainJson "rows" (some (.message "connection reset"))
      [rowsMember (plainBytes "[]")] := .rows hrows (.container hcontainer) .nil
  have hlacks : LacksBrace plainJson "rows" (some (.message "connection reset"))
      ([] ++ beginObject :: plainBytes "\"rows\":[]") :=
    .object Blank.nil (.items (rowsMember (plainBytes "[]")) []) hpassed
  exact (reportsError_iff rfl (fun _ => ⟨_, rfl⟩) Blank.nil object_rows_a _
    ⟨plainBytes ",\"a\":1", by decide⟩ (some (.message "connection reset")) "rows").mp herror hlacks

end RawJsonRowStreamer
end Httpx
end CouchbaseSdk
