import CouchbaseSdk.Httpx.StreamEnds

/-!
# The rows of a query

The reader of a query response hands out the rows of a row stream, and keeps the metadata that
come behind them.  It comes to its end exactly if the row stream does.
-/

namespace CouchbaseSdk
namespace Queryx
namespace RowStream

open Foundation Httpx

/-!
# The reader
-/

/-- What is made of the metadata: `serde_json` reads them, and they are taken over, or their
errors are. -/
structure MetaDataParser (parsed metaData : Type) where
  fromSlice : Buffer -> Except String parsed
  parseMetadata : String -> String -> String -> UInt16 -> parsed -> Except ErrorKind metaData

structure QueryRespReader (input value metaData : Type) where
  endpoint : String
  statement : String
  clientContextId : String
  statusCode : UInt16
  streamer : RawJsonRowStreamer input value
  metaData : Option metaData
  metaDataError : Option ErrorKind

namespace QueryRespReader

variable {input value parsed metaData : Type} (parser : MetaDataParser parsed metaData)

def readFinalMetadata (this : QueryRespReader input value metaData) (epilog : Buffer) :
    Except ErrorKind metaData :=
  match parser.fromSlice epilog with
  | .ok metadata =>
      parser.parseMetadata this.endpoint this.statement this.clientContextId this.statusCode
        metadata
  | .error e =>
      .error (.message ("failed to parse query metadata from epilog: " ++ e) this.endpoint
        this.statement this.clientContextId)

/-- What the reader makes of what the streamer hands out. -/
def onItem (this : QueryRespReader input value metaData) :
    Except Httpx.ErrorKind (Option RawJsonRowItem) ->
      Except ErrorKind (Option Buffer) × QueryRespReader input value metaData
  | .ok (some (.row rowData)) => (.ok (some rowData), this)
  | .ok (some (.metadata metadata)) =>
      match this.readFinalMetadata parser metadata with
      | .ok contents => (.ok none, { this with metaData := some contents })
      | .error e => (.error e, { this with metaDataError := some e })
  | .error e =>
      (.error (.http e this.endpoint (some this.statement) (some this.clientContextId)), this)
  | .ok none => (.ok none, this)

/-- A poll that does not wait. -/
def pollNext [ByteSource input] (json : SerdeJson value) :
    Method (QueryRespReader input value metaData) ErrorKind (Option Buffer) :=
  fun this =>
    match RawJsonRowStreamer.next json this.streamer with
    | some (item, streamer) => some (onItem parser { this with streamer := streamer } item)
    | none => none

/-!
# The end of the reader
-/

section Ends

variable {parser}

theorem onItem_streamer (this : QueryRespReader input value metaData)
    (item : Except Httpx.ErrorKind (Option RawJsonRowItem)) :
    (onItem parser this item).2.streamer = this.streamer := by
  unfold onItem
  repeat' split
  all_goals rfl

variable [ByteSource input] {json : SerdeJson value}

theorem pollNext_some {this : QueryRespReader input value metaData}
    {streamer : RawJsonRowStreamer input value}
    {item : Except Httpx.ErrorKind (Option RawJsonRowItem)}
    (h : RawJsonRowStreamer.next json this.streamer = some (item, streamer)) :
    pollNext parser json this = some (onItem parser { this with streamer := streamer } item) := by
  unfold pollNext
  rw [h]

/-- Behind a poll the streamer is behind a call of `next`. -/
theorem after_streamer (parser : MetaDataParser parsed metaData) (json : SerdeJson value)
    (this : QueryRespReader input value metaData) :
    ((pollNext parser json).after this).streamer =
      (RawJsonRowStreamer.next json).after this.streamer := by
  unfold Method.after
  cases hnext : RawJsonRowStreamer.next json this.streamer with
  | none =>
      unfold pollNext
      rw [hnext]
  | some end_ =>
      rcases end_ with ⟨item, streamer⟩
      rw [pollNext_some hnext]
      exact onItem_streamer _ _

theorem iterate_streamer (parser : MetaDataParser parsed metaData) (json : SerdeJson value)
    (this : QueryRespReader input value metaData) (n : Nat) :
    ((pollNext parser json).after^[n] this).streamer =
      (RawJsonRowStreamer.next json).after^[n] this.streamer := by
  induction n generalizing this with
  | zero => rfl
  | succ n ih =>
      rw [Function.iterate_succ_apply, Function.iterate_succ_apply, ih, after_streamer]

theorem ends_of_pollNext {this : QueryRespReader input value metaData}
    (h : Method.Ends (pollNext parser json) this) :
    Method.Ends (RawJsonRowStreamer.next json) this.streamer := by
  rcases h with ⟨n, h⟩
  rcases Option.map_eq_some_iff.mp h with ⟨⟨res, reader⟩, hpoll, hres⟩
  have hsame := iterate_streamer parser json this n
  generalize (pollNext parser json).after^[n] this = later at hpoll hsame
  cases hnext : RawJsonRowStreamer.next json later.streamer with
  | none =>
      unfold pollNext at hpoll
      rw [hnext] at hpoll
      cases hpoll
  | some end_ =>
      rcases end_ with ⟨item, streamer⟩
      rw [pollNext_some hnext] at hpoll
      rw [hsame] at hnext
      change res = .ok none at hres
      subst hres
      match item with
      | .ok none =>
          refine ⟨n, ?_⟩
          unfold Method.answer
          rw [hnext]
          rfl
      | .ok (some (.metadata metadata)) =>
          -- The metadata end the reader one call before the streamer.
          refine ⟨n + 1, ?_⟩
          unfold Method.answer
          rw [Function.iterate_succ_apply', Method.after_eq hnext,
            RawJsonRowStreamer.next_ended (RawJsonRowStreamer.next_metadata_ended hnext)]
          rfl
      | .ok (some (.row rowData)) => cases hpoll
      | .error e => cases hpoll

theorem pollNext_ends {this : QueryRespReader input value metaData}
    (h : Method.Ends (RawJsonRowStreamer.next json) this.streamer) :
    Method.Ends (pollNext parser json) this := by
  rcases h with ⟨n, h⟩
  rcases Option.map_eq_some_iff.mp h with ⟨⟨res, streamer⟩, hnext, hres⟩
  change res = .ok none at hres
  subst hres
  rw [← iterate_streamer parser json this n] at hnext
  refine ⟨n, ?_⟩
  unfold Method.answer
  rw [pollNext_some hnext]
  rfl

theorem pollNext_ends_iff (this : QueryRespReader input value metaData) :
    Method.Ends (pollNext parser json) this ↔
      Method.Ends (RawJsonRowStreamer.next json) this.streamer :=
  ⟨ends_of_pollNext, pollNext_ends⟩

end Ends
end QueryRespReader

/-!
# Row streams and their ends
-/

open RawJsonRowStreamer QueryRespReader

variable {value parsed metaData : Type}

/-- The row stream of a response comes to its end exactly if it is never blocked, and so does
the reader over it. -/
theorem row_streams_end_iff (json : SerdeJson value) (parser : MetaDataParser parsed metaData)
    (reader : QueryRespReader Window value metaData) (chunks : List Buffer)
    (fault : Option Httpx.ErrorKind) (rowsAttrib : String) (calls : List Call) :
    let streamer :=
      behind json (ofStream (chunks.map .ok ++ fault.toList.map .error) rowsAttrib) calls
    (Method.Ends (next json) streamer ↔ NeverBlocked json streamer) ∧
      (Method.Ends (pollNext parser json) { reader with streamer := streamer } ↔
        NeverBlocked json streamer) := by
  have hstream := @ends_ofStream value json chunks fault rowsAttrib calls
  exact ⟨hstream, (pollNext_ends_iff _).trans hstream⟩

/-- A whole response: the row, the metadata, and the end. -/
example :
    Method.Ends (next plainJson)
      (behind plainJson (ofBytes (plainBytes "\x7b\"results\":[1]\x7d") none "results")
        [.readPrelude, .hasMoreRows]) :=
  ⟨2, by decide +kernel⟩

/-- Nothing comes behind an element, where a comma or a bracket has to. -/
theorem blocked_at_end {s : RawJsonRowStreamer Unread value} (hstate : s.state = .rows)
    (htoken : s.stream.tokenState = .arrayComma) (hinput : s.stream.input = Unread.new [] none) :
    Blocked s := by
  unfold Blocked
  rw [hstate]
  apply Decoder.rowsBlocked_comma htoken
  rw [hinput]
  exact ⟨by decide, fun _ => rfl⟩

/-- A stream that breaks off behind an element does not come to its end. -/
theorem never_ends {json : SerdeJson value} (parser : MetaDataParser parsed metaData)
    (reader : QueryRespReader Window value metaData) {chunks : List Buffer}
    {fault : Option Httpx.ErrorKind} {rowsAttrib : String} {calls : List Call} {n : Nat}
    (hstate : ((next json).after^[n]
      (behind json (ofBytes chunks.flatten fault rowsAttrib) calls)).state = .rows)
    (htoken : ((next json).after^[n]
      (behind json (ofBytes chunks.flatten fault rowsAttrib) calls)).stream.tokenState =
        .arrayComma)
    (hinput : ((next json).after^[n]
      (behind json (ofBytes chunks.flatten fault rowsAttrib) calls)).stream.input =
        Unread.new [] none) :
    ¬ Method.Ends (next json)
        (behind json (ofStream (chunks.map .ok ++ fault.toList.map .error) rowsAttrib) calls) ∧
      ¬ Method.Ends (pollNext parser json)
        { reader with
          streamer :=
            behind json (ofStream (chunks.map .ok ++ fault.toList.map .error) rowsAttrib)
              calls } := by
  have hnext : ¬ Method.Ends (next json)
      (behind json (ofStream (chunks.map .ok ++ fault.toList.map .error) rowsAttrib) calls) := by
    rw [ends_ofStream, neverBlocked_ofStream]
    exact fun hnever => hnever n (blocked_at_end hstate htoken hinput)
  exact ⟨hnext, fun hpoll => hnext (ends_of_pollNext hpoll)⟩

/-- The response is cut off behind a row: the row is read, and the bracket behind it is missing. -/
theorem cut_row_state :
    ((next plainJson).after^[1]
      (behind plainJson (ofBytes [plainBytes "\x7b\"results\":[1"].flatten none "results")
        [.readPrelude, .hasMoreRows])).state = .rows ∧
    ((next plainJson).after^[1]
      (behind plainJson (ofBytes [plainBytes "\x7b\"results\":[1"].flatten none "results")
        [.readPrelude, .hasMoreRows])).stream.tokenState = .arrayComma ∧
    ((next plainJson).after^[1]
      (behind plainJson (ofBytes [plainBytes "\x7b\"results\":[1"].flatten none "results")
        [.readPrelude, .hasMoreRows])).stream.input = Unread.new [] none := by
  decide +kernel

/-- Every call fails. -/
theorem not_row_streams_end :
    ¬ (forall (parser : MetaDataParser Buffer Unit) (reader : QueryRespReader Window Buffer Unit)
      (chunks : List Buffer) (fault : Option Httpx.ErrorKind),
      Method.Ends (next plainJson)
        (behind plainJson (ofStream (chunks.map .ok ++ fault.toList.map .error) "results")
          [.readPrelude, .hasMoreRows]) ∨
      Method.Ends (pollNext parser plainJson)
        { reader with
          streamer :=
            behind plainJson (ofStream (chunks.map .ok ++ fault.toList.map .error) "results")
              [.readPrelude, .hasMoreRows] }) := by
  intro hclaim
  have hnot := never_ends ⟨.ok, fun _ _ _ _ _ => .ok ()⟩
    ⟨"http://127.0.0.1:8093", "SELECT 1", "id", 200, ofStream [] "results", none, none⟩
    cut_row_state.1 cut_row_state.2.1 cut_row_state.2.2
  exact (hclaim _ _ _ none).elim hnot.1 hnot.2

end RowStream
end Queryx
end CouchbaseSdk
