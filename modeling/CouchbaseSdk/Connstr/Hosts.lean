import CouchbaseSdk.Connstr.ConnSpec

/-!
# The hosts of a connection string

The hosts are taken one after the other, each with its port, and what stands between them is
skipped.  A bracket that is closed somewhere goes up to there; any other host goes up to a
separator.
-/

namespace CouchbaseSdk
namespace Connstr

open Foundation
open Foundation.Pattern (findAll first many one)

/-!
# One host
-/

def separators : List Char := [';', ',', ':']

/-- No host in brackets starts here. -/
def NoBracket (text : Text) : Prop :=
  forall c rest, text = '[' :: c :: rest -> c = ']' ∨ ']' ∉ rest

/-- A host, and what is behind it. -/
inductive HostAt : Text -> Text -> Prop where
  | bracketed {c : Char} {inner close rest : Text} : c ≠ ']' -> ']' ∉ inner ->
      (forall d, d ∈ close -> d = ']') -> (forall d, rest.head? = some d -> d ≠ ']') ->
      HostAt ('[' :: c :: (inner ++ ']' :: close)) rest
  | named {host rest : Text} : host ≠ [] -> (forall c, c ∈ separators -> c ∉ host) ->
      (forall d, rest.head? = some d -> d ∈ separators) -> NoBracket (host ++ rest) ->
      HostAt host rest

theorem noneOf_iff {chars : List Char} {c : Char} : noneOf chars c = true <-> c ∉ chars := by
  rw [noneOf, Bool.not_eq_true', List.contains_eq_mem, decide_eq_false_iff_not]

theorem takeWhile_stops {p : Char -> Bool} {front rest : Text}
    (hfront : forall c, c ∈ front -> p c = true)
    (hrest : forall d, rest.head? = some d -> p d = false) :
    (front ++ rest).takeWhile p = front ∧ (front ++ rest).dropWhile p = rest := by
  rw [List.takeWhile_append_of_pos hfront, List.dropWhile_append_of_pos hfront]
  cases rest with
  | nil => exact ⟨List.append_nil front, rfl⟩
  | cons d rest =>
      have hd := hrest d rfl
      rw [List.takeWhile_cons_of_neg (by rw [hd]; exact Bool.false_ne_true),
        List.dropWhile_cons_of_neg (by rw [hd]; exact Bool.false_ne_true)]
      exact ⟨List.append_nil front, rfl⟩

theorem dropWhile_head {p : Char -> Bool} {text : Text} {d : Char}
    (h : (text.dropWhile p).head? = some d) : p d = false := by
  have hnot := List.head?_dropWhile_not p text
  rw [h] at hnot
  exact hnot

/-- The bracket is closed by the first `]` behind another character, and all that follow it. -/
theorem first_bracketed (c : Char) (rest : Text) (hc : c ≠ ']') :
    first bracketed ('[' :: c :: rest) =
      first (.seq (one fun d => d == ']') (many fun d => d == ']'))
        (rest.dropWhile (noneOf [']'])) := by
  have hopen : Pattern.ways (.literal ['[']) ('[' :: c :: rest) =
      [{ groups := [], rest := c :: rest }] := rfl
  have hone : Pattern.ways (one (noneOf [']'])) (c :: rest) =
      [{ groups := [], rest := rest }] :=
    if_pos (noneOf_iff.mpr fun hmem => hc (List.mem_singleton.mp hmem))
  rw [bracketed, Pattern.first_seq_of_ways hopen, Pattern.first_seq_of_ways hone]
  refine Pattern.first_many_seq ?_
  intro d t hd
  refine Pattern.first_seq_of_no_ways (if_neg ?_)
  intro heq
  exact absurd (List.mem_singleton.mpr (beq_iff_eq.mp heq)) (noneOf_iff.mp hd)

theorem first_bracketed_eq_none {text : Text} (h : NoBracket text) :
    first bracketed text = none := by
  cases text with
  | nil => rfl
  | cons d text =>
      by_cases hd : d = '['
      · cases text with
        | nil =>
            rw [hd]
            rfl
        | cons c rest =>
            rw [hd]
            by_cases hc : c = ']'
            · rw [hc]
              rfl
            · rcases h c rest (by rw [hd]) with heq | hnone
              · exact absurd heq hc
              · have hall : forall e, e ∈ rest -> noneOf [']'] e = true := by
                  intro e he
                  rw [noneOf_iff, List.mem_singleton]
                  exact fun heq => hnone (heq ▸ he)
                have hdrop : rest.dropWhile (noneOf [']']) = [] := by
                  rw [List.dropWhile_eq_nil_iff]
                  exact hall
                rw [first_bracketed c rest hc, hdrop]
                rfl
      · refine Pattern.first_seq_of_no_ways (if_neg ?_)
        intro hprefix
        exact hd (List.cons_prefix_cons.mp hprefix).1.symm

/-- The pattern takes the host. -/
theorem first_host {host rest : Text} (h : HostAt host rest) :
    exists n, n ∈ [2, 3] ∧ first (.alt (.group 2 bracketed) (.group 3 named)) (host ++ rest) =
      some { groups := [(n, host)], rest := rest } := by
  rw [Pattern.first_alt, Pattern.first_group, Pattern.first_group]
  cases h with
  | @bracketed c inner close rest hc hinner hclose hrest =>
      have hin : forall d, d ∈ inner -> noneOf [']'] d = true := by
        intro d hd
        rw [noneOf_iff, List.mem_singleton]
        exact fun heq => hinner (heq ▸ hd)
      have hopened : (inner ++ ']' :: (close ++ rest)).dropWhile (noneOf [']']) =
          ']' :: (close ++ rest) :=
        (takeWhile_stops hin (fun d hd => by cases hd; rfl)).2
      have hclosed := (takeWhile_stops (p := fun d => d == ']')
        (fun d hd => beq_iff_eq.mpr (hclose d hd))
        (fun d hd => beq_eq_false_iff_ne.mpr (hrest d hd))).2
      have hone : Pattern.ways (one fun d => d == ']') (']' :: (close ++ rest)) =
          [{ groups := [], rest := close ++ rest }] := rfl
      have hway : first bracketed ('[' :: c :: (inner ++ ']' :: close) ++ rest) =
          some { groups := [], rest := rest } := by
        rw [List.cons_append, List.cons_append, List.append_assoc, List.cons_append,
          first_bracketed c _ hc, hopened, Pattern.first_seq_of_ways hone, Pattern.first_many,
          hclosed]
      refine ⟨2, by decide, ?_⟩
      rw [hway, Option.map_some, Option.some_or, Pattern.taken]
  | named hne hseps hrest hbracket =>
      have hin : forall d, d ∈ host -> noneOf separators d = true := fun d hd =>
        noneOf_iff.mpr fun hmem => hseps d hmem hd
      have hway : first named (host ++ rest) = some { groups := [], rest := rest } := by
        cases host with
        | nil => exact absurd rfl hne
        | cons c host =>
            have hone : Pattern.ways (one (noneOf separators)) (c :: (host ++ rest)) =
                [{ groups := [], rest := host ++ rest }] :=
              if_pos (hin c List.mem_cons_self)
            have hstops : (host ++ rest).dropWhile (noneOf [';', ',', ':']) = rest :=
              (takeWhile_stops (fun d hd => hin d (List.mem_cons_of_mem c hd))
                (fun d hd => Bool.eq_false_iff.mpr fun hnone =>
                  noneOf_iff.mp hnone (hrest d hd))).2
            rw [List.cons_append]
            exact (Pattern.first_seq_of_ways hone).trans (by rw [Pattern.first_many, hstops])
      refine ⟨3, by decide, ?_⟩
      rw [first_bracketed_eq_none hbracket, hway, Option.map_none, Option.none_or,
        Option.map_some, Pattern.taken]

/-- There is a host wherever no separator stands. -/
theorem exists_host {c : Char} (hc : c ∉ separators) (text : Text) :
    exists host rest, c :: text = host ++ rest ∧ HostAt host rest := by
  by_cases hbracket : NoBracket (c :: text)
  · refine ⟨c :: text.takeWhile (noneOf separators), text.dropWhile (noneOf separators), ?_, ?_⟩
    · rw [List.cons_append, List.takeWhile_append_dropWhile]
    · refine HostAt.named (List.cons_ne_nil _ _) ?_ ?_ ?_
      · intro d hd hmem
        rcases List.mem_cons.mp hmem with rfl | hmem
        · exact hc hd
        · exact noneOf_iff.mp (List.mem_takeWhile_imp hmem) hd
      · intro d hd
        have hstop := dropWhile_head hd
        by_contra hnot
        rw [noneOf_iff.mpr hnot] at hstop
        cases hstop
      · rw [List.cons_append, List.takeWhile_append_dropWhile]
        exact hbracket
  · simp only [NoBracket, not_forall, not_or, not_not] at hbracket
    rcases hbracket with ⟨d, rest, htext, hd, hmem⟩
    rcases List.eq_append_cons_of_mem hmem with ⟨inner, back, hrest, hinner⟩
    refine ⟨'[' :: d :: (inner ++ ']' :: back.takeWhile fun e => e == ']'),
      back.dropWhile fun e => e == ']', ?_, ?_⟩
    · rw [htext, hrest, List.cons_append, List.cons_append, List.append_assoc, List.cons_append,
        List.takeWhile_append_dropWhile]
    · refine HostAt.bracketed hd hinner ?_ ?_
      · intro e he
        have htaken := List.mem_takeWhile_imp he
        exact beq_iff_eq.mp htaken
      · intro e he
        have hstop := dropWhile_head he
        exact beq_eq_false_iff_ne.mp hstop

/-!
# The port
-/

/-- The digits behind a `:`, and what is behind them. -/
inductive PortAt : Option Text -> Text -> Text -> Prop where
  | none {rest : Text} : rest.head? ≠ some ':' -> PortAt none rest rest
  | some {digits rest : Text} : (forall d, d ∈ digits -> d.isDigit = true) ->
      (forall d, rest.head? = some d -> d.isDigit = false) ->
      PortAt (some digits) (':' :: (digits ++ rest)) rest

theorem exists_port (text : Text) : exists port rest, PortAt port text rest := by
  by_cases h : text.head? = some ':'
  · cases text with
    | nil => cases h
    | cons c text =>
        cases h
        refine ⟨some (text.takeWhile Char.isDigit), text.dropWhile Char.isDigit, ?_⟩
        have hdigits : forall d, d ∈ text.takeWhile Char.isDigit -> d.isDigit = true :=
          fun d hd => List.mem_takeWhile_imp hd
        have hstop : forall d, (text.dropWhile Char.isDigit).head? = some d ->
            d.isDigit = false := fun d hd => dropWhile_head hd
        have hport := PortAt.some hdigits hstop
        rwa [List.takeWhile_append_dropWhile] at hport
  · exact ⟨none, text, PortAt.none h⟩

theorem first_port {port : Option Text} {text rest : Text} (h : PortAt port text rest) :
    exists m, first portPart text = some m ∧ m.group 1 = none ∧ m.group 5 = port ∧
      m.rest = rest := by
  rw [portPart, Pattern.first_opt, Pattern.first_group]
  cases h with
  | none hhead =>
      refine ⟨{ groups := [], rest := text }, ?_, rfl, rfl, rfl⟩
      have hno : Pattern.ways (.literal [':']) text = [] := by
        refine if_neg ?_
        intro ⟨back, hback⟩
        exact hhead (by rw [← hback]; rfl)
      rw [Pattern.first_seq_of_no_ways hno]
      rfl
  | @some digits rest hdigits hrest =>
      have hcolon : Pattern.ways (.literal [':']) (':' :: (digits ++ rest)) =
          [{ groups := [], rest := digits ++ rest }] := rfl
      have hstops := takeWhile_stops hdigits hrest
      rw [Pattern.first_seq_of_ways hcolon, Pattern.first_group_many, hstops.1, hstops.2]
      exact ⟨_, rfl, rfl, rfl, rfl⟩

/-- Nothing, or a `;,`. -/
theorem first_separator (text : Text) :
    exists m, first separatorPart text = some m ∧ m.group 1 = none ∧ m.group 5 = none ∧
      (m.rest = text ∨ text = ';' :: ',' :: m.rest) := by
  rw [separatorPart, Pattern.first_opt, Pattern.first_group, Pattern.first_literal]
  split
  · next h =>
      rcases h with ⟨back, rfl⟩
      exact ⟨_, rfl, rfl, rfl, Or.inr rfl⟩
  · exact ⟨_, rfl, rfl, rfl, Or.inl rfl⟩

/-- A host with its port, as the pattern takes them. -/
theorem first_hostMatcher {host rest rest' : Text} {port : Option Text} (hhost : HostAt host rest)
    (hport : PortAt port rest rest') :
    exists m, first hostMatcher (host ++ rest) = some m ∧ m.group 1 = some host ∧
      m.group 5 = port ∧ (m.rest = rest' ∨ rest' = ';' :: ',' :: m.rest) := by
  have hseparator : forall t, (first separatorPart t).isSome = true := Pattern.total_opt _
  have hport' : forall t, (first portPart t).isSome = true := Pattern.total_opt _
  have hbehind := Pattern.total_seq hport' hseparator
  rcases first_host hhost with ⟨n, hn, hfirst⟩
  rcases first_port hport with ⟨mp, hmp, hmp1, hmp5, hmpr⟩
  rcases first_separator mp.rest with ⟨ms, hms, _, hms5, hmsr⟩
  have hgroup : first (.group 1 (.alt (.group 2 bracketed) (.group 3 named))) (host ++ rest) =
      some { groups := [(1, host), (n, host)], rest := rest } := by
    rw [Pattern.first_group, hfirst, Option.map_some, Pattern.taken]
  refine ⟨({ groups := [(1, host), (n, host)], rest := rest } : Match).append (mp.append ms),
    ?_, rfl, ?_, ?_⟩
  · rw [hostMatcher, Pattern.first_seq_of_total hbehind, hgroup, Option.bind_some,
      Pattern.first_seq_of_total hseparator, hmp, Option.bind_some, hms]
    rfl
  · have hhere : ({ groups := [(1, host), (n, host)], rest := rest } : Match).group 5 = none := by
      rcases List.mem_cons.mp hn with rfl | hn
      · rfl
      · rw [List.mem_singleton.mp hn]
        rfl
    rw [Match.group_append, Match.group_append, hhere, hmp5, hms5, Option.none_or,
      Option.or_none]
  · rw [hmpr] at hmsr
    exact hmsr

/-- No host starts at a separator. -/
theorem first_hostMatcher_separator {c : Char} (hc : c ∈ separators) (text : Text) :
    first hostMatcher (c :: text) = none := by
  have hbracket : NoBracket (c :: text) := by
    intro d rest htext
    rw [(List.cons.inj htext).1] at hc
    exact absurd hc (by decide)
  have hnamed : first named (c :: text) = none :=
    Pattern.first_seq_of_no_ways (if_neg fun h => noneOf_iff.mp h hc)
  have hgroup : first (.group 1 (.alt (.group 2 bracketed) (.group 3 named))) (c :: text) =
      none := by
    rw [Pattern.first_group, Pattern.first_alt, Pattern.first_group, Pattern.first_group,
      first_bracketed_eq_none hbracket, hnamed]
    rfl
  exact Pattern.first_seq_of_no_ways (List.head?_eq_none_iff.mp hgroup)

theorem length_port {port : Option Text} {text rest : Text} (h : PortAt port text rest) :
    rest.length ≤ text.length := by
  cases h with
  | none _ => exact Nat.le_refl _
  | some _ _ =>
      rw [List.length_cons, List.length_append]
      exact Nat.le_succ_of_le (Nat.le_add_left _ _)

theorem host_ne_nil {host rest : Text} (h : HostAt host rest) : host ≠ [] := by
  cases h with
  | bracketed _ _ _ _ => exact List.cons_ne_nil _ _
  | named hne _ _ _ => exact hne

/-- The pattern takes a character at least. -/
theorem hostMatcher_takes (text : Text) (m : Match) (h : first hostMatcher text = some m) :
    m.rest.length < text.length := by
  cases text with
  | nil => cases h
  | cons c text =>
      by_cases hc : c ∈ separators
      · rw [first_hostMatcher_separator hc] at h
        cases h
      · rcases exists_host hc text with ⟨host, rest, htext, hhost⟩
        rcases exists_port rest with ⟨port, rest', hport⟩
        rcases first_hostMatcher hhost hport with ⟨m', hm', _, _, hrest⟩
        rw [htext, hm'] at h
        cases h
        have hle : m.rest.length ≤ rest'.length := by
          rcases hrest with heq | heq
          · rw [heq]
          · rw [heq]
            exact Nat.le_succ_of_le (Nat.le_succ _)
        have hpos := List.length_pos_of_ne_nil (host_ne_nil hhost)
        have hrest := length_port hport
        rw [htext, List.length_append]
        omega

/-!
# All hosts
-/

/-- The hosts of a text, each with the digits of its port. -/
inductive Scanned : Text -> List (Text × Option Text) -> Prop where
  | nil : Scanned [] []
  | skip {c : Char} {text : Text} {found : List (Text × Option Text)} : c ∈ separators ->
      Scanned text found -> Scanned (c :: text) found
  | host {host rest rest' : Text} {port : Option Text} {found : List (Text × Option Text)} :
      HostAt host rest -> PortAt port rest rest' -> Scanned rest' found ->
      Scanned (host ++ rest) ((host, port) :: found)

theorem exists_scanned (text : Text) : exists found, Scanned text found := by
  induction hn : text.length using Nat.strongRecOn generalizing text with
  | ind n ih =>
      cases text with
      | nil => exact ⟨[], Scanned.nil⟩
      | cons c text =>
          by_cases hc : c ∈ separators
          · rcases ih text.length (by rw [← hn]; exact Nat.lt_succ_self _) text rfl with
              ⟨found, hfound⟩
            exact ⟨found, Scanned.skip hc hfound⟩
          · rcases exists_host hc text with ⟨host, rest, htext, hhost⟩
            rcases exists_port rest with ⟨port, rest', hport⟩
            have hlt : rest'.length < n := by
              have hpos := List.length_pos_of_ne_nil (host_ne_nil hhost)
              have hle := length_port hport
              rw [← hn, htext, List.length_append]
              omega
            rcases ih rest'.length hlt rest' rfl with ⟨found, hfound⟩
            rw [htext]
            exact ⟨(host, port) :: found, Scanned.host hhost hport hfound⟩

def readAddress (e : Text × Option Text) : Except ErrorKind ConnSpecAddress :=
  match e.2 with
  | some port => (parsePort port).map fun port => { host := e.1, port := some port }
  | none => .ok { host := e.1, port := none }

/-- The hosts that are found are read. -/
theorem parseHosts_of_scanned {text : Text} {found : List (Text × Option Text)}
    (h : Scanned text found) : parseHosts text = found.mapM readAddress := by
  unfold parseHosts
  induction h with
  | nil => rfl
  | skip hc _ ih => rwa [Pattern.findAll_cons hostMatcher_takes (first_hostMatcher_separator hc _)]
  | @host host rest rest' port found hhost hport _ ih =>
      rcases first_hostMatcher hhost hport with ⟨m, hm, hgroup, hdigits, hrest⟩
      have hall : findAll hostMatcher m.rest = findAll hostMatcher rest' := by
        rcases hrest with heq | heq
        · rw [heq]
        · rw [heq, Pattern.findAll_cons hostMatcher_takes
              (first_hostMatcher_separator (by decide) _),
            Pattern.findAll_cons hostMatcher_takes (first_hostMatcher_separator (by decide) _)]
      have haddress : hostAddress m = readAddress (host, port) := by
        rw [hostAddress, readAddress, hdigits, hgroup]
        rfl
      rw [Pattern.findAll_of_first hostMatcher_takes hm, List.mapM_cons, List.mapM_cons, hall, ih,
        haddress]

theorem mem_of_port {port : Option Text} {text rest : Text} (h : PortAt port text rest) {c : Char}
    (hc : c ∈ rest) : c ∈ text := by
  cases h with
  | none _ => exact hc
  | some _ _ => exact List.mem_cons_of_mem _ (List.mem_append_right _ hc)

theorem mem_of_scanned {text : Text} {found : List (Text × Option Text)} (h : Scanned text found)
    {e : Text × Option Text} (he : e ∈ found) {c : Char} (hc : c ∈ e.1) : c ∈ text := by
  induction h with
  | nil => cases he
  | skip _ _ ih => exact List.mem_cons_of_mem _ (ih he)
  | @host host rest rest' port found hhost hport _ ih =>
      rcases List.mem_cons.mp he with rfl | he
      · exact List.mem_append_left _ hc
      · exact List.mem_append_right _ (mem_of_port hport (ih he))

/-- A character that is neither a digit nor a separator is in one of the hosts. -/
theorem count_of_scanned {text : Text} {found : List (Text × Option Text)}
    (h : Scanned text found) :
    text.count '@' = (found.map fun e => e.1.count '@').sum := by
  induction h with
  | nil => rfl
  | @skip c text found hc _ ih =>
      have hne : c ≠ '@' := fun heq => absurd (heq ▸ hc) (by decide)
      rw [List.count_cons_of_ne hne, ih]
  | @host host rest rest' port found hhost hport _ ih =>
      have hrest : rest.count '@' = rest'.count '@' := by
        cases hport with
        | none _ => rfl
        | @some digits _ hdigits _ =>
            have hnone : digits.count '@' = 0 :=
              List.count_eq_zero.mpr fun hmem => absurd (hdigits _ hmem) (by decide)
            rw [List.count_cons_of_ne (by decide), List.count_append, hnone, Nat.zero_add]
      rw [List.count_append, hrest, ih, List.map_cons, List.sum_cons]

/-!
# Hosts that are read as they were
-/

/-- A bracket that is not closed behind the host does not make it longer. -/
inductive Readable : List ConnSpecAddress -> Prop where
  | nil : Readable []
  | bracketed {c : Char} {inner close : Text} {port : Option UInt16}
      {hosts : List ConnSpecAddress} : c ≠ ']' -> ']' ∉ inner ->
      (forall d, d ∈ close -> d = ']') -> Readable hosts ->
      Readable ({ host := '[' :: c :: (inner ++ ']' :: close), port := port } :: hosts)
  | named {address : ConnSpecAddress} {hosts : List ConnSpecAddress} : address.host ≠ [] ->
      (forall c, c ∈ separators -> c ∉ address.host) ->
      (forall more, address.host = '[' :: more -> more.head? = some ']' ∨
        (']' ∉ more ∧ forall later, later ∈ hosts -> ']' ∉ later.host)) ->
      Readable hosts -> Readable (address :: hosts)

theorem readAddress_ok {e : Text × Option Text} {address : ConnSpecAddress}
    (h : readAddress e = .ok address) : address.host = e.1 := by
  unfold readAddress at h
  split at h
  · next port hport =>
      cases hparse : parsePort port with
      | error _ =>
          rw [hparse] at h
          cases h
      | ok n =>
          rw [hparse] at h
          cases h
          rfl
  · cases h
    rfl

theorem hosts_of_mapM {found : List (Text × Option Text)} {hosts : List ConnSpecAddress}
    (h : found.mapM readAddress = .ok hosts) :
    hosts.map ConnSpecAddress.host = found.map Prod.fst := by
  induction found generalizing hosts with
  | nil =>
      cases h
      rfl
  | cons e found ih =>
      rw [List.mapM_cons] at h
      cases haddress : readAddress e with
      | error _ =>
          rw [haddress] at h
          cases h
      | ok address =>
          cases hrest : found.mapM readAddress with
          | error _ =>
              rw [haddress, hrest] at h
              cases h
          | ok rest =>
              rw [haddress, hrest] at h
              cases h
              rw [List.map_cons, List.map_cons, readAddress_ok haddress, ih hrest]

/-- A bracket that is a host by itself, or starts one, is not closed. -/
theorem not_closed {more rest : Text} (hstop : forall d, rest.head? = some d -> d ∈ separators)
    (h : NoBracket ('[' :: more ++ rest)) :
    more.head? = some ']' ∨ (']' ∉ more ∧ ']' ∉ rest) := by
  cases hall : more ++ rest with
  | nil =>
      rcases List.append_eq_nil_iff.mp hall with ⟨rfl, rfl⟩
      exact Or.inr ⟨List.not_mem_nil, List.not_mem_nil⟩
  | cons c behind =>
      have hc := h c behind (by rw [List.cons_append, hall])
      by_cases heq : c = ']'
      · left
        cases more with
        | nil =>
            have hhead : rest.head? = some c := by
              rw [← show c :: behind = rest from hall.symm]
              rfl
            exact absurd (heq ▸ hstop c hhead) (by decide)
        | cons d more =>
            rw [← heq, List.head?_cons, (List.cons.inj hall).1]
      · right
        have hnone : ']' ∉ more ++ rest := by
          rw [hall, List.mem_cons, not_or]
          exact ⟨fun h => heq h.symm, hc.resolve_left heq⟩
        rw [List.mem_append, not_or] at hnone
        exact hnone

theorem readable_of_scanned {text : Text} {found : List (Text × Option Text)}
    (h : Scanned text found) {hosts : List ConnSpecAddress}
    (hread : found.mapM readAddress = .ok hosts) : Readable hosts := by
  induction h generalizing hosts with
  | nil =>
      cases hread
      exact Readable.nil
  | skip _ _ ih => exact ih hread
  | @host host rest rest' port found hhost hport hscanned ih =>
      rw [List.mapM_cons] at hread
      cases haddress : readAddress (host, port) with
      | error _ =>
          rw [haddress] at hread
          cases hread
      | ok address =>
          cases hrest : found.mapM readAddress with
          | error _ =>
              rw [haddress, hrest] at hread
              cases hread
          | ok later =>
              rw [haddress, hrest] at hread
              cases hread
              have hfst : address.host = host := readAddress_ok haddress
              have hlater := ih hrest
              cases hhost with
              | bracketed hc hinner hclose _ =>
                  rcases address with ⟨_, n⟩
                  cases hfst
                  exact Readable.bracketed hc hinner hclose hlater
              | named hne hseps hstop hbracket =>
                  refine Readable.named (by rwa [hfst]) (by rwa [hfst]) ?_ hlater
                  intro more hmore
                  rw [hfst] at hmore
                  rw [hmore] at hbracket
                  rcases not_closed hstop hbracket with hhead | ⟨hmem, hnone⟩
                  · exact Or.inl hhead
                  · refine Or.inr ⟨hmem, ?_⟩
                    intro address' haddress' hclosed
                    have hin : address'.host ∈ found.map Prod.fst := by
                      rw [← hosts_of_mapM hrest]
                      exact List.mem_map.mpr ⟨address', haddress', rfl⟩
                    rcases List.mem_map.mp hin with ⟨e, he, heq⟩
                    rw [← heq] at hclosed
                    exact hnone (mem_of_port hport (mem_of_scanned hscanned he hclosed))

/-!
# The hosts as they are written
-/

def displayPort : Option UInt16 -> Text
  | some port => ':' :: Nat.toDigits 10 port.toNat
  | none => []

/-- What is written behind an address. -/
def displayLater : List ConnSpecAddress -> Text
  | [] => []
  | hosts => ',' :: displayHosts hosts

theorem displayHosts_cons (address : ConnSpecAddress) (hosts : List ConnSpecAddress) :
    displayHosts (address :: hosts) =
      address.host ++ (displayPort address.port ++ displayLater hosts) := by
  have haddress : displayAddress address = address.host ++ displayPort address.port := by
    rcases address with ⟨host, _ | port⟩
    · exact (List.append_nil host).symm
    · rfl
  cases hosts with
  | nil =>
      rw [displayHosts, List.map_singleton, List.intercalate_singleton, haddress]
      simp [displayLater]
  | cons later hosts =>
      rw [displayHosts, List.map_cons, List.map_cons, List.intercalate_cons_cons, haddress,
        List.append_assoc, List.append_assoc]
      rfl

/-- Besides the hosts, there are only digits and separators. -/
theorem mem_displayHosts {hosts : List ConnSpecAddress} {c : Char} (h : c ∈ displayHosts hosts) :
    (exists address, address ∈ hosts ∧ c ∈ address.host) ∨ c.isDigit = true ∨ c = ':' ∨
      c = ',' := by
  induction hosts with
  | nil => cases h
  | cons address hosts ih =>
      rw [displayHosts_cons] at h
      rcases List.mem_append.mp h with h | h
      · exact Or.inl ⟨address, List.mem_cons_self, h⟩
      · rcases List.mem_append.mp h with h | h
        · cases hport : address.port with
          | none =>
              rw [hport] at h
              cases h
          | some port =>
              rw [hport] at h
              rcases List.mem_cons.mp h with rfl | h
              · exact Or.inr (Or.inr (Or.inl rfl))
              · exact Or.inr (Or.inl (Nat.isDigit_of_mem_toDigits (by decide) (by decide) h))
        · cases hosts with
          | nil => cases h
          | cons later hosts =>
              rcases List.mem_cons.mp h with rfl | h
              · exact Or.inr (Or.inr (Or.inr rfl))
              · rcases ih h with ⟨address', haddress', hc⟩ | hother
                · exact Or.inl ⟨address', List.mem_cons_of_mem _ haddress', hc⟩
                · exact Or.inr hother

/-- A separator is behind a host. -/
theorem head_behind {port : Option UInt16} {hosts : List ConnSpecAddress} {d : Char}
    (h : (displayPort port ++ displayLater hosts).head? = some d) : d = ':' ∨ d = ',' := by
  cases port with
  | none =>
      cases hosts with
      | nil => cases h
      | cons _ _ =>
          cases h
          exact Or.inr rfl
  | some _ =>
      cases h
      exact Or.inl rfl

def writtenPort (port : UInt16) : Text :=
  Nat.toDigits 10 port.toNat

theorem readAddress_written (address : ConnSpecAddress) :
    readAddress (address.host, address.port.map writtenPort) = .ok address := by
  rcases address with ⟨host, _ | port⟩
  · rfl
  · have hrepr : String.ofList (writtenPort port) = port.toNat.repr := by
      rw [← String.toList_inj, String.toList_ofList, Nat.toList_repr]
      rfl
    have hparse : parsePort (writtenPort port) = .ok port := by
      rw [parsePort, hrepr, parseUnsigned_repr port.toNat_lt]
      exact congrArg Except.ok UInt16.ofNat_toNat
    rw [readAddress, Option.map_some]
    dsimp only
    rw [hparse]
    rfl

/-- Hosts are found as they were written. -/
theorem scanned_displayHosts {hosts : List ConnSpecAddress} (h : Readable hosts) :
    Scanned (displayHosts hosts)
      (hosts.map fun address => (address.host, address.port.map writtenPort)) := by
  have hport : forall (port : Option UInt16) (later : List ConnSpecAddress),
      PortAt (port.map writtenPort) (displayPort port ++ displayLater later)
        (displayLater later) := by
    intro port later
    cases port with
    | none =>
        refine PortAt.none fun hhead => ?_
        cases later with
        | nil => cases hhead
        | cons _ _ => cases hhead
    | some port =>
        refine PortAt.some ?_ ?_
        · intro d hd
          exact Nat.isDigit_of_mem_toDigits (by decide) (by decide) hd
        · intro d hd
          cases later with
          | nil => cases hd
          | cons _ _ =>
              cases hd
              rfl
  have hlater : forall {later : List ConnSpecAddress} {found : List (Text × Option Text)},
      (later = [] -> found = []) -> Scanned (displayHosts later) found ->
        Scanned (displayLater later) found := by
    intro later found hnil hscanned
    cases later with
    | nil =>
        rw [hnil rfl]
        exact Scanned.nil
    | cons _ _ => exact Scanned.skip (by decide) hscanned
  induction h with
  | nil => exact Scanned.nil
  | @bracketed c inner close port hosts hc hinner hclose _ ih =>
      rw [displayHosts_cons, List.map_cons]
      refine Scanned.host (HostAt.bracketed hc hinner hclose ?_) (hport port hosts)
        (hlater (fun hnil => by rw [hnil]; rfl) ih)
      intro d hd heq
      rcases head_behind hd with rfl | rfl <;> cases heq
  | @named address hosts hne hseps hbracket _ ih =>
      rw [displayHosts_cons, List.map_cons]
      refine Scanned.host (HostAt.named hne hseps ?_ ?_) (hport address.port hosts)
        (hlater (fun hnil => by rw [hnil]; rfl) ih)
      · intro d hd
        rcases head_behind hd with rfl | rfl <;> decide
      · intro c rest htext
        cases hhost : address.host with
        | nil => exact absurd hhost hne
        | cons first more =>
            rw [hhost, List.cons_append] at htext
            rcases List.cons.inj htext with ⟨rfl, hbehind⟩
            rcases hbracket more hhost with hhead | ⟨hmore, hlater'⟩
            · left
              cases more with
              | nil => cases hhead
              | cons d more =>
                  cases hhead
                  exact (List.cons.inj hbehind).1.symm
            · right
              intro hclosed
              have hall : ']' ∈ more ++ (displayPort address.port ++ displayLater hosts) := by
                rw [hbehind]
                exact List.mem_cons_of_mem _ hclosed
              rcases List.mem_append.mp hall with hmem | hmem
              · exact hmore hmem
              · have hwritten : ']' ∈ displayHosts
                    ({ host := [], port := address.port } :: hosts) := by
                  rw [displayHosts_cons]
                  exact hmem
                rcases mem_displayHosts hwritten with ⟨address', haddress', hmem'⟩ | hother
                · rcases List.mem_cons.mp haddress' with rfl | hin
                  · cases hmem'
                  · exact hlater' address' hin hmem'
                · rcases hother with hdigit | heq | heq
                  · cases hdigit
                  · cases heq
                  · cases heq

/-- Hosts are read as they were written. -/
theorem parseHosts_displayHosts {hosts : List ConnSpecAddress} (h : Readable hosts) :
    parseHosts (displayHosts hosts) = .ok hosts := by
  rw [parseHosts_of_scanned (scanned_displayHosts h)]
  clear h
  induction hosts with
  | nil => rfl
  | cons address hosts ih =>
      rw [List.map_cons, List.mapM_cons, readAddress_written, ih]
      rfl

end Connstr
end CouchbaseSdk
