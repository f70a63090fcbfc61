import CouchbaseSdk.Httpx.Members

/-!
# The rows of a response

Every element of the rows attribute is handed out as it is written, and the other attributes
are kept.
-/

namespace CouchbaseSdk
namespace Httpx

open Foundation Foundation.Json

variable {value : Type}

/-!
# Responses
-/

/-- The members that are rows attributes, of which there is one at most, and the rows. -/
inductive RowsMember (json : SerdeJson value) (rowsAttrib : String) :
    List Member -> List Element -> Prop where
  | absent : RowsMember json rowsAttrib [] []
  | null {m : Member} (hspaced : m.Spaced) (hkey : StringText m.key)
      (hname : json.stringFromSlice m.key = .ok rowsAttrib) (htext : m.text = nullText) :
      RowsMember json rowsAttrib [m] []
  | array {m : Member} {es : List Element} {inside : Buffer} (hspaced : m.Spaced)
      (hkey : StringText m.key) (hname : json.stringFromSlice m.key = .ok rowsAttrib)
      (htext : m.text = beginArray :: (inside ++ [endArray]))
      (hinside : Inside Element.whole es inside) (helements : forall e, e ∈ es -> e.Spaced)
      (hvalue : forall e, e ∈ es -> Value e.text) : RowsMember json rowsAttrib [m] es

/-- The text of an object with the attributes `before`, the rows attribute, if there is one, and
the attributes `after`; what follows the closing brace is never looked at. -/
inductive ResponseText (json : SerdeJson value) (rowsAttrib : String)
    (before : List (Attribute value)) (elements : List Element)
    (after : List (Attribute value)) : Buffer -> Prop where
  | object {lead inside tail : Buffer} {rows : List Member} (hlead : Blank lead)
      (hinside : Inside Member.whole
        (before.map Attribute.member ++ (rows ++ after.map Attribute.member)) inside)
      (hbefore : forall a, a ∈ before -> a.Read json rowsAttrib)
      (hrows : RowsMember json rowsAttrib rows elements)
      (hafter : forall a, a ∈ after -> a.Read json rowsAttrib) :
      ResponseText json rowsAttrib before elements after
        (lead ++ beginObject :: (inside ++ endObject :: tail))

/-- The content of the last attribute of a name. -/
def lastContent (as : List (Attribute value)) (name : String) : Option value :=
  (as.reverse.find? fun a => a.name = name).map Attribute.content

theorem lookup_collect (as : List (Attribute value)) (name : String) :
    (collect ∅ as).lookup name = lastContent as name := by
  have hgeneral : forall attribs : FiniteMap String value,
      (collect attribs as).lookup name = (lastContent as name).or (attribs.lookup name) := by
    induction as with
    | nil => exact fun _ => rfl
    | cons a as ih =>
        intro attribs
        have hstep : collect attribs (a :: as) = collect (attribs.insert a.name a.content) as := rfl
        have hlast : lastContent (a :: as) name =
            (lastContent as name).or (if a.name = name then some a.content else none) := by
          unfold lastContent
          rw [List.reverse_cons, List.find?_append]
          cases as.reverse.find? fun a => a.name = name with
          | some b => rfl
          | none =>
              by_cases hname : a.name = name
              · simp [hname]
              · simp [hname]
        rw [hstep, ih, hlast, Option.or_assoc]
        by_cases hname : a.name = name
        · subst hname
          rw [AList.lookup_insert, if_pos rfl]
          rfl
        · rw [AList.lookup_insert_ne (Ne.symm hname), if_neg hname]
          rfl
  rw [hgeneral, AList.lookup_empty, Option.or_none]

namespace RawJsonRowStreamer

variable {json : SerdeJson value} {rowsAttrib : String} {attribs : FiniteMap String value}
  {rowState : RowStreamState} {fault : Option ErrorKind} {stack : List TokenState}
  {tail rest : Buffer} {state : TokenState}

/-!
# Before the rows
-/

/-- The loop of `begin` goes over attributes and keeps them. -/
theorem beginLoop_attributes {as : List (Attribute value)} {ms : List Member} {rounds : Nat}
    (has : forall a, a ∈ as -> a.Read json rowsAttrib)
    (hat : AtMembers (endObject :: tail) (as.map Attribute.member ++ ms) state rest)
    (hrounds : as.length + ms.length < rounds) :
    exists rounds' state' rest', ms.length < rounds' ∧
      AtMembers (endObject :: tail) ms state' rest' ∧
      beginLoop json rounds
          (streamer (.machine rest fault state stack) rowsAttrib attribs rowState) =
        beginLoop json rounds'
          (streamer (.machine rest' fault state' stack) rowsAttrib (collect attribs as)
            rowState) := by
  induction as generalizing attribs rounds state rest with
  | nil =>
      rw [List.length_nil, Nat.zero_add] at hrounds
      exact ⟨rounds, state, rest, hrounds, hat, rfl⟩
  | cons a as ih =>
      have ha := has a List.mem_cons_self
      cases rounds with
      | zero => cases hrounds
      | succ rounds =>
          rw [List.length_cons] at hrounds
          have hends : Ends fault a.member.text (a.member.trail ++
              (following Member.whole (as.map Attribute.member ++ ms) ++ endObject :: tail)) :=
            ends_of_following Member.whole _ ha.spaced.2.2.2 rfl tail
          rw [beginLoop_attribute rounds ha hat hends]
          exact ih (fun b hb => has b (List.mem_cons_of_mem _ hb)) (.next ha.spaced.2.2.2)
            (by omega)

theorem beginLoop_end (rounds : Nat) (hat : AtMembers (endObject :: tail) [] state rest) :
    beginLoop json (rounds + 1)
        (streamer (.machine rest fault state stack) rowsAttrib attribs rowState) =
      some (.ok (), streamer (.machine (endObject :: tail) fault state stack) rowsAttrib attribs
        .ended) := by
  have hmore := @Decoder.more_endObject rest fault state stack tail hat
  rw [beginLoop, Method.bind_ok _ (onStream_some hmore)]
  rfl

/-- The loop of `begin` up to the end of the response. -/
theorem beginLoop_to_end {as : List (Attribute value)} {rounds : Nat}
    (has : forall a, a ∈ as -> a.Read json rowsAttrib)
    (hat : AtMembers (endObject :: tail) (as.map Attribute.member) state rest)
    (hrounds : as.length < rounds) :
    exists d, beginLoop json rounds
        (streamer (.machine rest fault state stack) rowsAttrib attribs rowState) =
      some (.ok (), streamer d rowsAttrib (collect attribs as) .ended) := by
  have hat' : AtMembers (endObject :: tail) (as.map Attribute.member ++ []) state rest := by
    rw [List.append_nil]
    exact hat
  rcases beginLoop_attributes has hat' hrounds with
    ⟨rounds', state', rest', hrounds', hat'', heq⟩
  cases rounds' with
  | zero => cases hrounds'
  | succ rounds' =>
      rw [heq, beginLoop_end rounds' hat'']
      exact ⟨_, rfl⟩

/-- A round of the loop of `begin` reads the name of the rows attribute. -/
theorem beginLoop_rowsMember {close : Buffer} {m : Member} {ms : List Member} (rounds : Nat)
    (hspaced : m.Spaced) (hkey : StringText m.key)
    (hname : json.stringFromSlice m.key = .ok rowsAttrib)
    (hat : AtMembers close (m :: ms) state rest) :
    beginLoop json (rounds + 1)
        (streamer (.machine rest fault state stack) rowsAttrib attribs rowState) =
      beginRows json (beginLoop json rounds)
        (streamer (.machine (behindKey m ms close) fault .objectColon stack) rowsAttrib attribs
          rowState) := by
  rcases @Decoder.more_member _ json close rest fault state stack m ms hat hspaced hkey
    with ⟨rest', hmore, htoken⟩
  rw [Decoder.token_member hat hspaced hkey hname] at htoken
  rw [beginLoop_key rounds hmore htoken, if_pos rfl]

theorem collect_append (before after : List (Attribute value)) :
    collect (collect attribs before) after = collect attribs (before ++ after) :=
  List.foldl_append.symm

/-- A response without rows is read to its end by `begin`. -/
theorem begin_no_rows {before after : List (Attribute value)} {body : Buffer}
    (h : ResponseText json rowsAttrib before [] after body) :
    exists d, begin json (streamer (.machine body fault .topValue stack) rowsAttrib attribs
        .start) =
      some (.ok (), streamer d rowsAttrib (collect attribs (before ++ after)) .ended) := by
  cases h with
  | @object lead inside tail rows hlead hinside hbefore hrows hafter =>
      have hat : AtMembers (endObject :: tail)
          (before.map Attribute.member ++ (rows ++ after.map Attribute.member)) .objectStart
          (inside ++ endObject :: tail) := .first hinside
      have hlength := hat.length_le
      rw [List.length_append, List.length_append, List.length_map, List.length_map] at hlength
      rcases @beginLoop_attributes _ json rowsAttrib attribs .start fault (.topValue :: stack)
        tail _ _ before _ ((inside ++ endObject :: tail).length + 1) hbefore hat
        (by rw [List.length_append, List.length_map]; omega) with
        ⟨rounds, state, rest, hrounds, hat', heq⟩
      rw [begin_object hlead, heq]
      rw [List.length_append, List.length_map] at hrounds
      rw [← collect_append]
      cases hrows with
      | absent => exact beginLoop_to_end hafter hat' (by omega)
      | @null m hspaced hkey hname htext =>
          have hat' : AtMembers (endObject :: tail) (m :: after.map Attribute.member) state rest :=
            hat'
          have hends : Ends fault nullText (m.trail ++
              (following Member.whole (after.map Attribute.member) ++ endObject :: tail)) :=
            ends_of_following Member.whole _ hspaced.2.2.2 rfl tail
          rw [List.length_singleton] at hrounds
          rcases Nat.exists_eq_add_of_lt hrounds with ⟨k, rfl⟩
          rw [beginLoop_rowsMember _ hspaced hkey hname hat', beginRows_null _ hspaced htext hends]
          exact beginLoop_to_end hafter (.next hspaced.2.2.2) (by omega)
      | @array m es inside hspaced hkey hname htext hinside helements hvalue =>
          have hat' : AtMembers (endObject :: tail) (m :: after.map Attribute.member) state rest :=
            hat'
          rw [List.length_singleton] at hrounds
          rcases Nat.exists_eq_add_of_lt hrounds with ⟨k, rfl⟩
          cases hinside with
          | blank hblank =>
              rw [beginLoop_rowsMember _ hspaced hkey hname hat',
                beginRows_empty _ hspaced htext hblank]
              exact beginLoop_to_end hafter (.next hspaced.2.2.2) (by omega)

/-- A response with rows is read up to the first of them by `begin`. -/
theorem begin_rows {before after : List (Attribute value)} {e : Element} {es : List Element}
    {body : Buffer} (h : ResponseText json rowsAttrib before (e :: es) after body) :
    exists w tail rest, Blank w ∧
      AtRows (endArray :: (w ++ (following Member.whole (after.map Attribute.member) ++
        endObject :: tail))) e es .arrayStart rest ∧
      begin json (streamer (.machine body fault .topValue []) rowsAttrib attribs .start) =
        some (.ok (), streamer (.machine rest fault .arrayStart [.objectValue, .topValue])
          rowsAttrib (collect attribs before) .rows) := by
  cases h with
  | @object lead inside tail rows hlead hinside hbefore hrows hafter =>
      have hat : AtMembers (endObject :: tail)
          (before.map Attribute.member ++ (rows ++ after.map Attribute.member)) .objectStart
          (inside ++ endObject :: tail) := .first hinside
      have hlength := hat.length_le
      rw [List.length_append, List.length_append, List.length_map, List.length_map] at hlength
      rcases @beginLoop_attributes _ json rowsAttrib attribs .start fault [.topValue]
        tail _ _ before _ ((inside ++ endObject :: tail).length + 1) hbefore hat
        (by rw [List.length_append, List.length_map]; omega) with
        ⟨rounds, state, rest, hrounds, hat', heq⟩
      rw [begin_object hlead, heq]
      cases hrows with
      | @array m _ rowsInside hspaced hkey hname htext hrowsInside helements hvalue =>
          have hat' : AtMembers (endObject :: tail) (m :: after.map Attribute.member) state rest :=
            hat'
          rcases Nat.exists_eq_add_of_lt hrounds with ⟨k, rfl⟩
          rw [beginLoop_rowsMember _ hspaced hkey hname hat']
          cases hrowsInside with
          | items =>
              rcases @beginRows_rows _ json rowsAttrib (collect attribs before) .start fault
                [.topValue] (endObject :: tail) m (after.map Attribute.member) e es
                _ hspaced htext (helements e List.mem_cons_self).1
                (hvalue e List.mem_cons_self) with ⟨rest', hrows, hbegin⟩
              exact ⟨m.trail, tail, rest', hspaced.2.2.2, hrows, hbegin⟩

/-!
# The rows and what is behind them
-/

/-- The calls of `next` that hand out the rows. -/
theorem run_rows {close : Buffer} {e : Element} {es : List Element}
    (hat : AtRows (endArray :: close) e es state rest)
    (helements : forall x, x ∈ e :: es -> x.Spaced)
    (hvalue : forall x, x ∈ e :: es -> Value x.text) (calls : List Call) :
    run json (streamer (.machine rest fault state (.objectValue :: stack)) rowsAttrib attribs .rows)
        (List.replicate (es.length + 1) .next ++ calls) =
      ((e :: es).map fun x => some (.ok (.item (some (.row x.text))))) ++
        run json (streamer (.machine close fault .objectComma stack) rowsAttrib attribs .postRows)
          calls := by
  have hspaced := helements e List.mem_cons_self
  have htext := hvalue e List.mem_cons_self
  induction es generalizing e state rest with
  | nil =>
      have hnext := @nextRow_last _ json rowsAttrib attribs fault stack close rest state e hat
        hspaced htext
      exact run_next hnext calls
  | cons e' es ih =>
      rcases @nextRow_more _ json rowsAttrib attribs fault (.objectValue :: stack) close rest state
        e es e' hat hspaced htext with ⟨rest', hat', hnext⟩
      have hspaced' : forall x, x ∈ e' :: es -> x.Spaced :=
        fun x hx => helements x (List.mem_cons_of_mem _ hx)
      have hvalue' : forall x, x ∈ e' :: es -> Value x.text :=
        fun x hx => hvalue x (List.mem_cons_of_mem _ hx)
      rw [List.length_cons, List.replicate_succ, List.cons_append, run_next hnext,
        ih hat' hspaced' hvalue' (hspaced' e' List.mem_cons_self) (hvalue' e' List.mem_cons_self)]
      rfl

/-- The loop of `next` behind the rows goes over attributes and keeps them. -/
theorem metadataLoop_attributes {as : List (Attribute value)} {rounds : Nat} {metadata : Buffer}
    (has : forall a, a ∈ as -> a.Read json rowsAttrib)
    (hat : AtMembers (endObject :: tail) (as.map Attribute.member) state rest)
    (hrounds : as.length < rounds) (hmetadata : json.toVec (collect attribs as) = .ok metadata) :
    metadataLoop json rounds
        (streamer (.machine rest fault state (.topValue :: stack)) rowsAttrib attribs rowState) =
      some (.ok (.metadata metadata),
        streamer (.machine tail fault .topValue stack) rowsAttrib (collect attribs as) .ended) := by
  induction as generalizing attribs rounds state rest with
  | nil =>
      cases rounds with
      | zero => cases hrounds
      | succ rounds => exact metadataLoop_end rounds hat hmetadata
  | cons a as ih =>
      have ha := has a List.mem_cons_self
      cases rounds with
      | zero => cases hrounds
      | succ rounds =>
          rw [List.length_cons] at hrounds
          have hends : Ends fault a.member.text (a.member.trail ++
              (following Member.whole (as.map Attribute.member) ++ endObject :: tail)) :=
            ends_of_following Member.whole _ ha.spaced.2.2.2 rfl tail
          rw [metadataLoop_attribute rounds ha hat hends]
          exact ih (fun b hb => has b (List.mem_cons_of_mem _ hb)) (.next ha.spaced.2.2.2)
            (by omega) hmetadata

/-- The call of `next` that hands out the metadata. -/
theorem next_metadata {as : List (Attribute value)} {w metadata : Buffer}
    (has : forall a, a ∈ as -> a.Read json rowsAttrib) (hw : Blank w)
    (hmetadata : json.toVec (collect attribs as) = .ok metadata) :
    next json (streamer (.machine (w ++ (following Member.whole (as.map Attribute.member) ++
        endObject :: tail)) fault .objectComma (.topValue :: stack)) rowsAttrib attribs .postRows) =
      some (.ok (some (.metadata metadata)),
        streamer (.machine tail fault .topValue stack) rowsAttrib (collect attribs as) .ended) := by
  have hat : AtMembers (endObject :: tail) (as.map Attribute.member) .objectComma
      (w ++ (following Member.whole (as.map Attribute.member) ++ endObject :: tail)) := .next hw
  have hlength := hat.length_le
  rw [List.length_map] at hlength
  exact next_postRows rfl (metadataLoop_attributes has hat (Nat.lt_succ_of_le hlength) hmetadata)

theorem epilog_ok {d : Decoder Unread} {metadata : Buffer}
    (hmetadata : json.toVec attribs = .ok metadata) :
    call json .epilog (streamer d rowsAttrib attribs rowState) =
      some (.ok (.epilog metadata), streamer d rowsAttrib attribs rowState) := by
  have hepilog : epilog json (streamer d rowsAttrib attribs rowState) =
      some (.ok metadata, streamer d rowsAttrib attribs rowState) := by
    change Method.ofExcept ((json.toVec attribs).mapError _) _ = _
    rw [hmetadata]
    rfl
  exact Method.bind_ok _ hepilog

/-- The calls behind the last item. -/
theorem run_end {d : Decoder Unread} {metadata : Buffer}
    (hmetadata : json.toVec attribs = .ok metadata) :
    run json (streamer d rowsAttrib attribs .ended) [.next, .epilog] =
      [some (.ok (.item none)), some (.ok (.epilog metadata))] := by
  rw [run_next (next_ended rfl), run_call (epilog_ok hmetadata)]
  rfl

/-!
# The run over a response
-/

/-- The items that a response is handed out as. -/
def items (elements : List Element) (metadata : Buffer) : List RawJsonRowItem :=
  match elements with
  | [] => []
  | _ => elements.map (fun e => .row e.text) ++ [.metadata metadata]

/-- The attributes that `begin` reads. -/
def preludeAttributes (before after : List (Attribute value)) (elements : List Element) :
    List (Attribute value) :=
  match elements with
  | [] => before ++ after
  | _ => before

/-- The calls of `next` up to the end and `epilog`. -/
def callsFor (items : List RawJsonRowItem) : List Call :=
  .readPrelude :: (List.replicate (items.length + 1) .next ++ [.epilog])

def answersFor (prelude metadata : Buffer) (items : List RawJsonRowItem) :
    List (Option (Except ErrorKind Answer)) :=
  some (.ok (.prelude prelude)) ::
    ((items.map fun item => some (.ok (.item (some item)))) ++
      [some (.ok (.item none)), some (.ok (.epilog metadata))])

theorem run_response {before after : List (Attribute value)} {elements : List Element}
    {body prelude metadata : Buffer} (fault : Option ErrorKind)
    (h : ResponseText json rowsAttrib before elements after body)
    (hprelude : json.toVec (collect ∅ (preludeAttributes before after elements)) = .ok prelude)
    (hmetadata : json.toVec (collect ∅ (before ++ after)) = .ok metadata) :
    run json (ofBytes body fault rowsAttrib) (callsFor (items elements metadata)) =
      answersFor prelude metadata (items elements metadata) := by
  cases elements with
  | nil =>
      rcases @begin_no_rows _ json rowsAttrib ∅ fault [] before after body h with ⟨d, hbegin⟩
      have hcall := readPrelude_ok hbegin hprelude
      change run json (streamer (.machine body fault .topValue []) rowsAttrib ∅ .start)
        [.readPrelude, .next, .epilog] = _
      rw [run_call hcall, run_end hmetadata]
      rfl
  | cons e es =>
      rcases @begin_rows _ json rowsAttrib ∅ fault before after e es body h with
        ⟨w, tail, rest, hw, hat, hbegin⟩
      have hcall := readPrelude_ok hbegin hprelude
      have hafter : forall a, a ∈ after -> a.Read json rowsAttrib := by
        cases h with
        | object _ _ _ _ hafter => exact hafter
      have helements : forall x, x ∈ e :: es -> x.Spaced := by
        cases h with
        | object _ _ _ hrows _ =>
            cases hrows with
            | array _ _ _ _ _ helements _ => exact helements
      have hvalue : forall x, x ∈ e :: es -> Value x.text := by
        cases h with
        | object _ _ _ hrows _ =>
            cases hrows with
            | array _ _ _ _ _ _ hvalue => exact hvalue
      have hmetadata' : json.toVec (collect (collect ∅ before) after) = .ok metadata := by
        rw [collect_append]
        exact hmetadata
      have hnext := @next_metadata _ json rowsAttrib (collect ∅ before) fault [] tail after w
        metadata hafter hw hmetadata'
      have hcalls : callsFor (items (e :: es) metadata) =
          .readPrelude :: (List.replicate (es.length + 1) .next ++ [.next, .next, .epilog]) := by
        have hlength : (items (e :: es) metadata).length + 1 = (es.length + 1) + 2 := by
          simp [items]
        rw [callsFor, hlength, List.replicate_add, List.append_assoc]
        rfl
      rw [hcalls]
      change run json (streamer (.machine body fault .topValue []) rowsAttrib ∅ .start) _ = _
      rw [run_call hcall, run_rows hat helements hvalue, run_next hnext, run_end hmetadata']
      simp [answersFor, items]

/-- Every row is handed out as it is written, in order, and the other attributes are kept, the
last one of a name winning; `begin` reads the attributes before the rows if there are rows, and
all of them otherwise. -/
theorem run_faithful {before after : List (Attribute value)} {elements : List Element}
    {body : Buffer} (hencode : forall attribs, exists bytes, json.toVec attribs = .ok bytes)
    (h : ResponseText json rowsAttrib before elements after body) (chunks : List Buffer)
    (hchunks : chunks.flatten = body) :
    exists early all prelude metadata,
      (forall name, AList.lookup name early =
        lastContent (preludeAttributes before after elements) name) ∧
      (forall name, AList.lookup name all = lastContent (before ++ after) name) ∧
      json.toVec early = .ok prelude ∧ json.toVec all = .ok metadata ∧
      run json (ofStream (chunks.map .ok) rowsAttrib) (callsFor (items elements metadata)) =
        answersFor prelude metadata (items elements metadata) := by
  rcases hencode (collect ∅ (preludeAttributes before after elements)) with ⟨prelude, hprelude⟩
  rcases hencode (collect ∅ (before ++ after)) with ⟨metadata, hmetadata⟩
  refine ⟨_, _, prelude, metadata, lookup_collect _, lookup_collect _, hprelude, hmetadata, ?_⟩
  have hstream := run_ofStream json chunks none rowsAttrib (callsFor (items elements metadata))
  rw [Option.toList_none, List.map_nil, List.append_nil] at hstream
  rw [hstream, hchunks]
  exact run_response none h hprelude hmetadata

end RawJsonRowStreamer

/-!
# A response with rows, and one without
-/

/-- The attribute `"a":1`. -/
def attributeA : Attribute Buffer :=
  { member :=
      { lead := [], key := plainBytes "\"a\"", beforeColon := [], afterColon := [],
        text := plainBytes "1", trail := [] }
    name := "a"
    content := plainBytes "1" }

def rowsMember (text : Buffer) : Member :=
  { lead := [], key := plainBytes "\"rows\"", beforeColon := [], afterColon := [],
    text := text, trail := [] }

/-- The element ` 2 `. -/
def element2 : Element :=
  { lead := plainBytes " ", text := plainBytes "2", trail := plainBytes " " }

theorem digit_value {d : UInt8} (hd : isDigit d = true) (hzero : d ≠ zero) : Value [d] :=
  .scalar (.number (.parts (Or.inl rfl) (.digits hd hzero Digits.nil) .absent .absent))

theorem attributeA_read : attributeA.Read plainJson "rows" where
  spaced := ⟨Blank.nil, Blank.nil, Blank.nil, Blank.nil⟩
  key := .quoted (.plain (by decide) (by decide) (by decide) .nil)
  text := digit_value (by decide) (by decide)
  name := by decide
  content := by decide
  other := by decide

theorem rowsMember_spaced (text : Buffer) : (rowsMember text).Spaced :=
  ⟨Blank.nil, Blank.nil, Blank.nil, Blank.nil⟩

theorem rowsMember_key (text : Buffer) : StringText (rowsMember text).key :=
  .quoted (.plain (by decide) (by decide) (by decide) (.plain (by decide) (by decide) (by decide)
    (.plain (by decide) (by decide) (by decide) (.plain (by decide) (by decide) (by decide) .nil))))

theorem rowsMember_name (text : Buffer) :
    plainJson.stringFromSlice (rowsMember text).key = .ok "rows" := by
  change plainJson.stringFromSlice (plainBytes "\"rows\"") = .ok "rows"
  decide

theorem element2_spaced : element2.Spaced :=
  ⟨fun c hc => by rw [List.mem_singleton.mp hc]; decide,
    fun c hc => by rw [List.mem_singleton.mp hc]; decide⟩

theorem response_rows :
    ResponseText plainJson "rows" [attributeA] [element2] []
      (plainBytes "\x7b\"a\":1,\"rows\":[ 2 ]\x7d") := by
  have hrows : RowsMember plainJson "rows" [rowsMember (plainBytes "[ 2 ]")] [element2] :=
    .array (rowsMember_spaced _) (rowsMember_key _) (rowsMember_name _) rfl (.items element2 [])
      (fun e he => by rw [List.mem_singleton.mp he]; exact element2_spaced)
      (fun e he => by
        rw [List.mem_singleton.mp he]
        exact digit_value (by decide) (by decide))
  exact .object Blank.nil
    (.items attributeA.member [rowsMember (plainBytes "[ 2 ]")])
    (fun a ha => by rw [List.mem_singleton.mp ha]; exact attributeA_read) hrows
    (fun a ha => absurd ha List.not_mem_nil)

theorem response_empty_rows :
    ResponseText plainJson "rows" [] [] [attributeA]
      (plainBytes "\x7b\"rows\":[],\"a\":1\x7d") := by
  have hrows : RowsMember plainJson "rows" [rowsMember (plainBytes "[]")] [] :=
    .array (rowsMember_spaced _) (rowsMember_key _) (rowsMember_name _) rfl (.blank Blank.nil)
      (fun e he => absurd he List.not_mem_nil) (fun e he => absurd he List.not_mem_nil)
  exact .object Blank.nil (.items (rowsMember (plainBytes "[]")) [attributeA.member])
    (fun a ha => absurd ha List.not_mem_nil) hrows
    (fun a ha => by rw [List.mem_singleton.mp ha]; exact attributeA_read)

namespace RawJsonRowStreamer

theorem run_faithful_rows :
    exists early all prelude metadata,
      (forall name, AList.lookup name early = lastContent [attributeA] name) ∧
      (forall name, AList.lookup name all = lastContent [attributeA] name) ∧
      plainJson.toVec early = .ok prelude ∧ plainJson.toVec all = .ok metadata ∧
      run plainJson (ofStream ([plainBytes "\x7b\"a\":1,\"ro", plainBytes "ws\":[ 2 ]\x7d"].map .ok)
          "rows") (callsFor (items [element2] metadata)) =
        answersFor prelude metadata (items [element2] metadata) :=
  run_faithful (fun _ => ⟨_, rfl⟩) response_rows _ (by decide)

theorem eq_empty_of_lookup {m : FiniteMap String value}
    (h : forall name, m.lookup name = none) : m = ∅ := by
  apply AList.ext
  cases hentries : m.entries with
  | nil => rfl
  | cons entry entries =>
      have hmem : entry.1 ∈ m := by
        change entry.1 ∈ m.entries.keys
        rw [hentries]
        exact List.mem_cons_self
      exact absurd hmem (AList.lookup_eq_none.mp (h entry.1))

/-- Where the array of rows is empty, the prelude has the attributes behind it too. -/
theorem prelude_not_before_rows :
    ¬ (forall (before after : List (Attribute Buffer)) (elements : List Element) (body : Buffer),
      ResponseText plainJson "rows" before elements after body ->
      exists kept prelude,
        (forall name, AList.lookup name kept = lastContent before name) ∧
        plainJson.toVec kept = .ok prelude ∧
        run plainJson (ofStream ([body].map .ok) "rows") [.readPrelude] =
          [some (.ok (.prelude prelude))]) := by
  intro hclaim
  rcases hclaim _ _ _ _ response_empty_rows with ⟨kept, prelude, hkept, hencode, hrun⟩
  rw [eq_empty_of_lookup hkept] at hencode
  rcases @begin_no_rows _ plainJson "rows" ∅ none [] [] [attributeA] _ response_empty_rows
    with ⟨d, hbegin⟩
  have hstream := run_ofStream plainJson [plainBytes "\x7b\"rows\":[],\"a\":1\x7d"] none "rows"
    [.readPrelude]
  have hread : run plainJson (ofBytes (plainBytes "\x7b\"rows\":[],\"a\":1\x7d") none "rows")
      [.readPrelude] = [some (.ok (.prelude (plainBytes "\x7b\"a\":1\x7d")))] :=
    run_call (readPrelude_ok hbegin rfl) []
  have hsame : [plainBytes "\x7b\"rows\":[],\"a\":1\x7d"].flatten =
      plainBytes "\x7b\"rows\":[],\"a\":1\x7d" := List.append_nil _
  rw [Option.toList_none, List.map_nil, List.append_nil, hsame, hread, hrun] at hstream
  have hprelude : prelude = plainBytes "\x7b\"a\":1\x7d" := by
    simpa using hstream
  rw [hprelude] at hencode
  exact absurd hencode (by decide)

end RawJsonRowStreamer
end Httpx
end CouchbaseSdk
