import CouchbaseSdk.Httpx.Members
import CouchbaseSdk.Httpx.ScannerCut

/-!
# Tokens of a text that is cut off

What the token machine makes of the beginning of a JSON text, behind which the response ends or
breaks off with a transport error.
-/

namespace CouchbaseSdk
namespace Httpx

open Foundation Foundation.Json

theorem Blank.of_prefix {w t : Buffer} (hw : Blank w) (ht : t <+: w) : Blank t :=
  fun c hc => hw c (ht.subset hc)

/-- A cut is in the blanks, or behind the first byte after them. -/
theorem prefix_blank_cases {w t x : Buffer} (hw : Blank w) (h : x <+: w ++ t) :
    Blank x ∨ exists v, v ≠ [] ∧ x = w ++ v ∧ v <+: t := by
  rcases prefix_append_cases h with ⟨r, _, heq⟩ | ⟨v, rfl, hv⟩
  · exact Or.inl (Blank.of_prefix hw ⟨r, heq.symm⟩)
  · by_cases hne : v = []
    · rw [hne, List.append_nil]
      exact Or.inl hw
    · exact Or.inr ⟨v, hne, rfl, hv⟩

theorem prefix_blank_byte {w rest x : Buffer} {c : UInt8} (hw : Blank w)
    (h : x <+: w ++ c :: rest) : Blank x ∨ exists u, x = w ++ c :: u ∧ u <+: rest := by
  rcases prefix_blank_cases hw h with hblank | ⟨v, hne, rfl, hv⟩
  · exact Or.inl hblank
  · cases v with
    | nil => exact absurd rfl hne
    | cons b u =>
        rcases List.cons_prefix_cons.mp hv with ⟨rfl, hu⟩
        exact Or.inr ⟨u, rfl, hu⟩

namespace Unread

variable {w t rest : Buffer} {fault : Option ErrorKind}

/-- A value that is cut off is an error. -/
theorem takeValue_unfinished (hw : Blank w) (ht : Scanner.Unfinished t)
    (hbyte : exists c u, t = c :: u ∧ isAsciiWhitespace c = false) :
    Method.Fails takeValue (clean (w ++ t) fault) := by
  rcases ht with ⟨s, hgoes, hstep⟩
  rcases hbyte with ⟨c, u, rfl, hc⟩
  have hscan := Scanner.blank_scan (Blank.ascii hw) (c :: u) 0
  rw [hgoes] at hscan
  have hany : ((w ++ c :: u).any fun b => !isAsciiWhitespace b) = true := by
    simp [hc]
  have hread : Method.Fails readValue (clean (w ++ c :: u) fault) := by
    unfold Method.Fails readValue clean
    dsimp only
    rw [hscan]
    unfold valueAtEnd
    cases fault with
    | some e => exact ⟨_, _, rfl⟩
    | none =>
        dsimp only
        rw [if_neg hstep, if_pos hany]
        exact ⟨_, _, rfl⟩
  exact hread.bind _

/-- Where nothing is left of a value, its text is taken to be empty. -/
theorem takeValue_blank (hw : Blank w) :
    Method.Fails takeValue (clean w fault) ∨
      takeValue (clean w fault) = some (.ok w, clean [] fault) ∧ fault = none := by
  have hscan := Scanner.blank_scan (Blank.ascii hw) [] 0
  rw [List.append_nil] at hscan
  have hany : (w.any fun b => !isAsciiWhitespace b) = false := by
    rw [List.any_eq_false]
    intro c hc
    rw [whitespace_of_blank (hw c hc)]
    decide
  have hspace : ¬ ((Scanner.new.step 0x20).1 = .ends) := nofun
  cases fault with
  | some e =>
      left
      have hread : Method.Fails readValue (clean w (some e)) := by
        unfold Method.Fails readValue clean
        dsimp only
        rw [hscan]
        exact ⟨_, _, rfl⟩
      exact hread.bind _
  | none =>
      right
      have hread : readValue (clean w none) = some (.ok w.length, clean w none) := by
        unfold readValue clean
        dsimp only
        rw [hscan]
        change valueAtEnd Scanner.new _ = _
        unfold valueAtEnd
        dsimp only
        rw [if_neg hspace, hany]
        rfl
      refine ⟨?_, rfl⟩
      unfold takeValue
      rw [Method.bind_ok _ hread, Method.bind_ok _ (Method.gets_apply _ _),
        Method.bind_ok _ (Method.update_apply _ _), Method.pure_apply]
      simp only [clean, advance, List.take_length, List.drop_length]

/-- A value that is whole can be told to end, or the transport error behind it comes first. -/
theorem ends_or_fails (hw : Blank w) (ht : Value t) :
    Ends fault t [] ∨ Method.Fails takeValue (clean (w ++ t) fault) := by
  cases fault with
  | none => exact Or.inl (.finish rfl)
  | some e =>
      rcases ht.scalar_or_container with hscalar | hcontainer
      · right
        rcases Scanner.scalar_scan_end hscalar w.length with ⟨s, hs, _⟩
        have hscan := Scanner.blank_scan (Blank.ascii hw) t 0
        rw [Nat.zero_add, hs] at hscan
        have hread : Method.Fails readValue (clean (w ++ t) (some e)) := by
          unfold Method.Fails readValue clean
          dsimp only
          rw [hscan]
          exact ⟨_, _, rfl⟩
        exact hread.bind _
      · exact Or.inl (.container hcontainer)

end Unread

/-!
# Values
-/

/-- The text is empty or begins with a byte that ends a value. -/
def Delimited (t : Buffer) : Prop :=
  forall c rest, t = c :: rest -> Scanner.isDelimiter c = true

namespace Delimited

variable {w t rest : Buffer} {fault : Option ErrorKind}

theorem nil : Delimited [] := fun _ _ h => by cases h

theorem cons {c : UInt8} (hc : Scanner.isDelimiter c = true) (rest : Buffer) :
    Delimited (c :: rest) := by
  intro b tail heq
  cases heq
  exact hc

theorem blank (hw : Blank w) (h : Delimited t) : Delimited (w ++ t) := by
  cases w with
  | nil => exact h
  | cons c w =>
      apply cons
      simp [Scanner.isDelimiter, whitespace_of_blank hw.head]

theorem following {item : Type} (whole : item -> Buffer) (items : List item)
    (h : Delimited t) : Delimited (following whole items ++ t) := by
  cases items with
  | nil => exact h
  | cons i items => exact cons rfl _

theorem of_prefix (h : Delimited t) (hrest : rest <+: t) : Delimited rest := by
  rintro c tail rfl
  rcases hrest with ⟨q, rfl⟩
  exact h c _ rfl

theorem ends {text : Buffer} (h : Delimited rest) (hrest : rest ≠ []) : Ends fault text rest := by
  cases rest with
  | nil => exact absurd rfl hrest
  | cons c rest => exact .delimiter (h c rest rfl)

end Delimited

/-- What is left of the value `text` behind the blanks `w` and before `follow`: reading it
fails, or nothing is left of it, or a value is, which may be another one. -/
inductive CutValue (w text follow : Buffer) (fault : Option ErrorKind) : Buffer -> Prop where
  | fails {v : Buffer} (h : Method.Fails Unread.takeValue (Unread.clean v fault)) :
      CutValue w text follow fault v
  | nothing {v : Buffer} (hblank : Blank v) (hfault : fault = none)
      (h : Unread.takeValue (Unread.clean v fault) = some (.ok v, Unread.clean [] fault)) :
      CutValue w text follow fault v
  | value {t rest : Buffer} (ht : Value t) (hends : Ends fault t rest) (hrest : rest <+: follow) :
      CutValue w text follow fault (w ++ (t ++ rest))

theorem cutValue {w text follow v : Buffer} (fault : Option ErrorKind) (hw : Blank w)
    (htext : Value text) (hfollow : Delimited follow) (hv : v <+: w ++ (text ++ follow)) :
    CutValue w text follow fault v := by
  have hblank : forall v, Blank v -> CutValue w text follow fault v := by
    intro v hblank
    rcases @Unread.takeValue_blank v fault hblank with h | ⟨h, hfault⟩
    · exact .fails h
    · exact .nothing hblank hfault h
  have hnumber : forall t, Value t -> CutValue w text follow fault (w ++ t) := by
    intro t ht
    rcases @Unread.ends_or_fails w t fault hw ht with hends | h
    · have hvalue : CutValue w text follow fault (w ++ (t ++ [])) :=
        .value ht hends List.nil_prefix
      rw [List.append_nil] at hvalue
      exact hvalue
    · exact .fails h
  rcases prefix_blank_cases hw hv with h | ⟨u, hne, rfl, hu⟩
  · exact hblank v h
  rcases prefix_append_cases hu with ⟨r, hr, rfl⟩ | ⟨rest, rfl, hrest⟩
  · -- within the value
    cases u with
    | nil => exact absurd rfl hne
    | cons c u =>
        rcases htext.head with ⟨b, tail, heq, hb⟩
        rcases List.cons_eq_cons.mp heq with ⟨rfl, _⟩
        rcases Scanner.value_cut htext rfl (List.cons_ne_nil c u) hr with hunfinished | ht
        · exact .fails (Unread.takeValue_unfinished hw hunfinished
            ⟨c, u, rfl, Scanner.opens_no_whitespace hb⟩)
        · exact hnumber _ (.scalar (.number ht))
  · cases rest with
    | nil =>
        rw [List.append_nil]
        exact hnumber text htext
    | cons c rest =>
        exact .value htext ((hfollow.of_prefix hrest).ends (List.cons_ne_nil c rest)) hrest

namespace Decoder

variable {value : Type} {json : SerdeJson value} {w t v rest : Buffer} {c : UInt8}
  {fault : Option ErrorKind} {state : TokenState} {stack : List TokenState}

theorem Fails.onInput {m : Method Unread ErrorKind value} {d : Decoder Unread}
    (h : Method.Fails m d.input) : Method.Fails (onInput m) d :=
  h.within _

/-- Nothing is left but blanks. -/
theorem nextByte_blank (hw : Blank w) :
    Method.Fails nextByte (machine w fault state stack) := by
  unfold nextByte
  cases fault with
  | none => exact Method.fails_bind (peek_end hw) (Method.fails_fail _ _)
  | some e => exact Method.fails_bind (peek_fault e hw) (Method.fails_fail _ _)

theorem tokenRound_blank (again : Method (Decoder Unread) ErrorKind Token) (hw : Blank w) :
    Method.Fails (tokenRound json again) (machine w fault state stack) :=
  (nextByte_blank hw).bind _

theorem token_blank_fails (hw : Blank w) :
    Method.Fails (token json) (machine w fault state stack) :=
  tokenRound_blank _ hw

/-- At the end of the response there is no more, and a transport error is taken for the end. -/
theorem more_blank (hw : Blank w) :
    more (machine w fault state stack) = some (.ok false, machine w none state stack) := by
  unfold more
  cases fault with
  | none =>
      rw [Method.bind_ok _ (peek_end hw)]
      rfl
  | some e =>
      rw [Method.bind_ok _ (peek_fault e hw)]
      rfl

theorem decode_prepare_fails {d : Decoder Unread} (hd : d.input.err = none)
    (h : Method.Fails tokenPrepareForDecode d) : Method.Fails decode d := by
  have hvalue : Method.Fails decodeValue d := h.bind _
  exact .of_eq (decode_clean d hd) hvalue

/-- Where the value cannot be read. -/
theorem decode_fails {d : Decoder Unread} (hd : d.input.err = none)
    (hprepare : tokenPrepareForDecode d = some (.ok (), machine v fault state stack))
    (hstate : tokenValueAllowed state = true)
    (h : Method.Fails Unread.takeValue (Unread.clean v fault)) : Method.Fails decode d := by
  have hallowed : tokenValueAllowed (machine v fault state stack).tokenState = true := hstate
  have htake : Method.Fails (Decoder.onInput ByteSource.takeValue)
      (machine v fault state stack) := Fails.onInput h
  have hvalue : Method.Fails decodeValue d := by
    unfold decodeValue
    apply Method.fails_bind hprepare
    apply Method.fails_bind (Method.gets_apply _ _)
    rw [if_pos hallowed]
    exact htake.bind _
  exact .of_eq (decode_clean d hd) hvalue

/-- Where nothing is left of the value. -/
theorem decode_nothing {d : Decoder Unread} (hd : d.input.err = none)
    (hprepare : tokenPrepareForDecode d = some (.ok (), machine v fault state stack))
    (hstate : tokenValueAllowed state = true) (hblank : Blank v)
    (h : Unread.takeValue (Unread.clean v fault) = some (.ok v, Unread.clean [] fault)) :
    decode d = some (.ok [], (machine [] fault state stack).tokenValueEnd) := by
  have hallowed : tokenValueAllowed (machine v fault state stack).tokenState = true := hstate
  have htake : Decoder.onInput ByteSource.takeValue (machine v fault state stack) =
      some (.ok v, machine [] fault state stack) := onInput_some h
  have htrim : trimAscii v = [] := by
    rw [trimAscii, Blank.dropWhile_self hblank]
    rfl
  rw [decode_clean d hd]
  unfold decodeValue
  rw [Method.bind_ok _ hprepare, Method.bind_ok _ (Method.gets_apply _ _), if_pos hallowed,
    Method.bind_ok _ htake, Method.bind_ok _ (Method.update_apply _ _), Method.pure_apply, htrim]

/-!
# Keys
-/

theorem keyToken_fails
    (h : Method.Fails Unread.takeValue (Unread.clean v fault)) :
    Method.Fails (keyToken json) (machine v fault state stack) := by
  have hdecode : Method.Fails decode (machine v fault .topValue stack) :=
    decode_fails rfl (prepare_here rfl) rfl h
  unfold keyToken
  apply Method.fails_bind (Method.update_apply _ _)
  exact hdecode.bind _

/-- A key that is no text. -/
theorem keyToken_unreadable {e : String} (ht : StringText t) (hends : Ends fault t rest)
    (hkey : json.stringFromSlice t = .error e) :
    Method.Fails (keyToken json) (machine (t ++ rest) fault state stack) := by
  have hdecode : decode (machine (t ++ rest) fault .topValue stack) =
      some (.ok t, machine rest fault .topValue stack) :=
    decode_here Blank.nil (.scalar (.string ht)) hends rfl
  unfold keyToken
  apply Method.fails_bind (Method.update_apply _ _)
  apply Method.fails_bind hdecode
  rw [hkey]
  exact ⟨_, _, rfl⟩

/-- What is left of a key: reading it fails, or it is whole and a text. -/
inductive CutKey (json : SerdeJson value) (key follow : Buffer) (fault : Option ErrorKind)
    (state : TokenState) (stack : List TokenState) : Buffer -> Prop where
  | fails {v : Buffer} (h : Method.Fails (keyToken json) (machine v fault state stack)) :
      CutKey json key follow fault state stack v
  | key {rest : Buffer} {name : String} (hrest : rest <+: follow)
      (hname : json.stringFromSlice key = .ok name)
      (h : keyToken json (machine (key ++ rest) fault state stack) =
        some (.ok (.string name), machine rest fault .objectColon stack)) :
      CutKey json key follow fault state stack (key ++ rest)

theorem cutKey {key follow : Buffer} (hkey : StringText key) (hfollow : Delimited follow)
    (hv : v <+: key ++ follow) (hne : v ≠ []) : CutKey json key follow fault state stack v := by
  rcases prefix_append_cases hv with ⟨r, hr, heq⟩ | ⟨rest, rfl, hrest⟩
  · apply CutKey.fails
    have hunfinished := Scanner.string_cut hkey heq hne hr
    rcases StringText.head hkey with ⟨chars, hchars⟩
    cases v with
    | nil => exact absurd rfl hne
    | cons c v =>
        rw [heq] at hchars
        rcases List.cons_eq_cons.mp hchars with ⟨rfl, _⟩
        exact keyToken_fails
          (Unread.takeValue_unfinished Blank.nil hunfinished ⟨_, v, rfl, by decide⟩)
  · have hends : Ends fault key rest ∨
        Method.Fails Unread.takeValue (Unread.clean (key ++ rest) fault) := by
      cases rest with
      | nil =>
          rw [List.append_nil]
          exact Unread.ends_or_fails Blank.nil (.scalar (.string hkey))
      | cons c rest =>
          exact Or.inl ((hfollow.of_prefix hrest).ends (List.cons_ne_nil c rest))
    rcases hends with hends | hfails
    · cases hname : json.stringFromSlice key with
      | ok name => exact .key hrest hname (keyToken_text hkey hends hname)
      | error e => exact .fails (keyToken_unreadable hkey hends hname)
    · exact .fails (keyToken_fails hfails)

end Decoder
end Httpx
end CouchbaseSdk
