import CouchbaseSdk.Connstr.Hosts

/-!
# Connection strings are read as they were written

What was read from a connection string is written, and that is read.  The same comes out exactly
if nothing in the hosts is taken for a user, and nothing in the options for an end of a pair, a
line or a scheme.
-/

namespace CouchbaseSdk
namespace Connstr

open Foundation
open Foundation.Pattern (first many)

/-!
# The parts of a connection string
-/

/-- On its first line, there is no end of a scheme. -/
def NoScheme (text : Text) : Prop :=
  forall scheme rest, text = scheme ++ (schemeEnd ++ rest) -> '\n' ∈ scheme

/-- The scheme goes up to the last end of one on the first line. -/
inductive SchemeAt : Text -> Option Text -> Text -> Prop where
  | none {text : Text} : NoScheme text -> SchemeAt text none text
  | some {scheme rest : Text} : '\n' ∉ scheme ->
      (forall scheme' rest', scheme ++ (schemeEnd ++ rest) = scheme' ++ (schemeEnd ++ rest') ->
        scheme.length < scheme'.length -> '\n' ∈ scheme') ->
      SchemeAt (scheme ++ (schemeEnd ++ rest)) (some scheme) rest

theorem all_dot {text : Text} : text.all dot = true <-> '\n' ∉ text := by
  rw [List.all_eq_true]
  constructor
  · intro h hmem
    exact absurd (h _ hmem) (by decide)
  · intro h c hc
    rw [dot, bne_iff_ne]
    exact fun heq => h (heq ▸ hc)

theorem first_schemePart (text : Text) :
    exists scheme rest m, SchemeAt text scheme rest ∧ first schemePart text = some m ∧
      m.group 2 = scheme ∧ m.rest = rest := by
  rw [schemePart, Pattern.first_opt, Pattern.first_group]
  cases hway : first (.seq (.group 2 (many dot)) (.literal schemeEnd)) text with
  | none =>
      refine ⟨none, text, { groups := [], rest := text }, SchemeAt.none ?_, rfl, rfl, rfl⟩
      intro scheme rest htext
      by_contra hline
      have hnone := Pattern.first_group_many_seq_eq_none.mp hway scheme (schemeEnd ++ rest) htext
        (all_dot.mpr hline)
      rw [Pattern.first_literal, if_pos (List.prefix_append schemeEnd rest)] at hnone
      cases hnone
  | some m =>
      rcases Pattern.first_group_many_seq.mp hway with
        ⟨scheme, rest, m', htext, hline, hm', rfl, hlonger⟩
      rw [Pattern.first_literal] at hm'
      split at hm'
      · next hend =>
          rcases hend with ⟨back, rfl⟩
          cases hm'
          refine ⟨scheme, back, _, ?_, rfl, rfl, rfl⟩
          rw [htext]
          refine SchemeAt.some (all_dot.mp hline) ?_
          intro scheme' rest' heq hlength
          by_contra hline'
          have hnone := hlonger scheme' (schemeEnd ++ rest') (htext.trans heq)
            (all_dot.mpr hline') hlength
          rw [Pattern.first_literal, if_pos (List.prefix_append schemeEnd rest')] at hnone
          cases hnone
      · cases hm'

/-- No user ends anywhere. -/
def NoUser (text : Text) : Prop :=
  forall front back, text = front ++ '@' :: back ->
    '/' ∈ front ∨ '?' ∈ front ∨ 2 ≤ front.count ':'

inductive UserAt : Text -> Text -> Prop where
  | none {text : Text} : NoUser text -> UserAt text text
  | some {user rest : Text} : '/' ∉ user -> '?' ∉ user -> user.count ':' < 2 ->
      UserAt (user ++ '@' :: rest) rest

theorem all_noneOf {chars text : Text} :
    text.all (noneOf chars) = true <-> forall c, c ∈ chars -> c ∉ text := by
  rw [List.all_eq_true]
  constructor
  · intro h c hc hmem
    exact noneOf_iff.mp (h c hmem) hc
  · intro h c hc
    exact noneOf_iff.mpr fun hmem => h c hmem hc

/-- A user has one `:` at most. -/
theorem accepts_user {run : Text} (h : user.Accepts run) :
    exists front, run = front ++ ['@'] ∧ '/' ∉ front ∧ '?' ∉ front ∧ front.count ':' < 2 := by
  rcases h with ⟨name, behind, rfl, hname, password, mark, rfl, hpassword, hmark⟩
  have hnamed := all_noneOf.mp hname
  have hmarks : mark = ['@'] := hmark
  have hcount : name.count ':' = 0 := List.count_eq_zero.mpr (hnamed ':' (by decide))
  rcases hpassword with ⟨colon, word, rfl, hcolon, hword⟩ | rfl
  · have hcolons : colon = [':'] := hcolon
    have hsecret := all_noneOf.mp hword
    have hwordCount : word.count ':' = 0 := List.count_eq_zero.mpr (hsecret ':' (by decide))
    refine ⟨name ++ ':' :: word, ?_, ?_, ?_, ?_⟩
    · rw [hcolons, hmarks, List.append_assoc, List.append_assoc]
      rfl
    · intro hmem
      rcases List.mem_append.mp hmem with hmem | hmem
      · exact hnamed '/' (by decide) hmem
      · rcases List.mem_cons.mp hmem with heq | hmem
        · cases heq
        · exact hsecret '/' (by decide) hmem
    · intro hmem
      rcases List.mem_append.mp hmem with hmem | hmem
      · exact hnamed '?' (by decide) hmem
      · rcases List.mem_cons.mp hmem with heq | hmem
        · cases heq
        · exact hsecret '?' (by decide) hmem
    · rw [List.count_append, hcount, List.count_cons_self, hwordCount]
      decide
  · refine ⟨name, ?_, hnamed '/' (by decide), hnamed '?' (by decide), ?_⟩
    · rw [hmarks, List.nil_append]
    · rw [hcount]
      decide

theorem user_accepts {front : Text} (hslash : '/' ∉ front) (hquery : '?' ∉ front)
    (hcount : front.count ':' < 2) (rest : Text) :
    exists run back, front ++ '@' :: rest = run ++ back ∧ user.Accepts run := by
  by_cases hcolon : ':' ∈ front
  · rcases List.eq_append_cons_of_mem hcolon with ⟨name, word, rfl, hname⟩
    rw [List.count_append, List.count_cons_self] at hcount
    have hword : ':' ∉ word := List.count_eq_zero.mp (by omega)
    rw [List.mem_append, List.mem_cons, not_or, not_or] at hslash hquery
    have hname' : name.all (noneOf ['/', '?', ':']) = true := by
      refine all_noneOf.mpr ?_
      intro c hc
      simp only [List.mem_cons, List.not_mem_nil, or_false] at hc
      rcases hc with rfl | rfl | rfl
      · exact hslash.1
      · exact hquery.1
      · exact hname
    have haccepts : forall password, '@' ∉ password -> (forall c, c ∈ password -> c ∈ word) ->
        user.Accepts (name ++ ((':' :: password) ++ ['@'])) := by
      intro password hmark hsub
      refine ⟨name, _, rfl, hname', _, _, rfl, Or.inl ⟨[':'], password, rfl, rfl, ?_⟩, rfl⟩
      refine all_noneOf.mpr ?_
      intro c hc
      simp only [List.mem_cons, List.not_mem_nil, or_false] at hc
      rcases hc with rfl | rfl | rfl | rfl
      · exact fun hmem => hslash.2.2 (hsub _ hmem)
      · exact fun hmem => hquery.2.2 (hsub _ hmem)
      · exact fun hmem => hword (hsub _ hmem)
      · exact hmark
    by_cases hmark : '@' ∈ word
    · rcases List.eq_append_cons_of_mem hmark with ⟨password, more, rfl, hnone⟩
      refine ⟨_, more ++ '@' :: rest, ?_,
        haccepts password hnone fun c hc => List.mem_append_left _ hc⟩
      simp only [List.append_assoc, List.cons_append, List.nil_append]
    · refine ⟨_, rest, ?_, haccepts word hmark fun c hc => hc⟩
      simp only [List.append_assoc, List.cons_append, List.nil_append]
  · refine ⟨front ++ ([] ++ ['@']), rest, ?_, front, _, rfl, ?_, [], ['@'], rfl, Or.inr rfl, rfl⟩
    · rw [List.append_assoc]
      rfl
    · refine all_noneOf.mpr ?_
      intro c hc
      simp only [List.mem_cons, List.not_mem_nil, or_false] at hc
      rcases hc with rfl | rfl | rfl
      · exact hslash
      · exact hquery
      · exact hcolon

theorem first_userPart (text : Text) :
    exists rest m, UserAt text rest ∧ first userPart text = some m ∧ m.rest = rest := by
  rw [userPart, Pattern.first_opt]
  cases hway : first (.group 3 user) text with
  | none =>
      refine ⟨text, { groups := [], rest := text }, UserAt.none ?_, rfl, rfl⟩
      intro front back htext
      by_contra hnot
      rw [not_or, not_or] at hnot
      rcases user_accepts hnot.1 hnot.2.1 (Nat.lt_of_not_le hnot.2.2) back with
        ⟨run, rest, hrun, haccepts⟩
      have hsome : (first (.group 3 user) text).isSome = true := by
        rw [Pattern.first_isSome_iff, htext]
        exact ⟨run, rest, hrun, haccepts⟩
      rw [hway] at hsome
      cases hsome
  | some m =>
      rcases Pattern.accepts_of_first hway with ⟨run, htext, haccepts⟩
      rcases accepts_user haccepts with ⟨front, rfl, hslash, hquery, hcount⟩
      refine ⟨m.rest, m, ?_, rfl, rfl⟩
      rw [htext, List.append_assoc]
      exact UserAt.some hslash hquery hcount

/-- What is left behind the path. -/
def behindPath : Text -> Text
  | '/' :: text => text.dropWhile (noneOf ['?'])
  | text => text

def optionsText : Text -> Option Text
  | '?' :: text => some (text.takeWhile dot)
  | _ => none

theorem first_pathPart (text : Text) :
    exists m, first pathPart text = some m ∧ m.rest = behindPath text := by
  rw [pathPart, Pattern.first_opt, Pattern.first_group]
  by_cases h : exists rest, text = '/' :: rest
  · rcases h with ⟨rest, rfl⟩
    have hslash : Pattern.ways (.literal ['/']) ('/' :: rest) = [{ groups := [], rest := rest }] :=
      rfl
    rw [Pattern.first_seq_of_ways hslash, Pattern.first_group_many]
    exact ⟨_, rfl, rfl⟩
  · have hno : Pattern.ways (.literal ['/']) text = [] := by
      refine if_neg ?_
      intro ⟨back, hback⟩
      exact h ⟨back, hback.symm⟩
    rw [Pattern.first_seq_of_no_ways hno]
    refine ⟨_, rfl, ?_⟩
    unfold behindPath
    split
    · next rest => exact absurd ⟨rest, rfl⟩ h
    · rfl

theorem first_optionsPart (text : Text) :
    exists m, first optionsPart text = some m ∧ m.group 11 = optionsText text := by
  rw [optionsPart, Pattern.first_opt, Pattern.first_group]
  by_cases h : exists rest, text = '?' :: rest
  · rcases h with ⟨rest, rfl⟩
    have hmark : Pattern.ways (.literal ['?']) ('?' :: rest) = [{ groups := [], rest := rest }] :=
      rfl
    rw [Pattern.first_seq_of_ways hmark, Pattern.first_group_many]
    exact ⟨_, rfl, rfl⟩
  · have hno : Pattern.ways (.literal ['?']) text = [] := by
      refine if_neg ?_
      intro ⟨back, hback⟩
      exact h ⟨back, hback.symm⟩
    rw [Pattern.first_seq_of_no_ways hno]
    refine ⟨_, rfl, ?_⟩
    unfold optionsText
    split
    · next rest => exact absurd ⟨rest, rfl⟩ h
    · rfl

/-- The texts of the parts. -/
theorem find_parts (connStr : Text) :
    exists scheme afterScheme afterUser parts, SchemeAt connStr scheme afterScheme ∧
      UserAt afterScheme afterUser ∧ partsMatcher.find connStr = some parts ∧
      parts.group 2 = scheme ∧
      parts.group 7 = some (afterUser.takeWhile (noneOf ['/', '?'])) ∧
      parts.group 11 = optionsText (behindPath (afterUser.dropWhile (noneOf ['/', '?']))) := by
  rcases first_schemePart connStr with ⟨scheme, afterScheme, ms, hscheme, hms, hms2, rfl⟩
  rcases first_userPart ms.rest with ⟨afterUser, mu, huser, hmu, rfl⟩
  have hmh : first hostsPart mu.rest = some
      { groups := [(7, mu.rest.takeWhile (noneOf ['/', '?']))]
        rest := mu.rest.dropWhile (noneOf ['/', '?']) } :=
    Pattern.first_group_many 7 _ _
  rcases first_pathPart (mu.rest.dropWhile (noneOf ['/', '?'])) with ⟨mp, hmp, hmpr⟩
  rcases first_optionsPart mp.rest with ⟨mo, hmo, hmo11⟩
  have hschemePart : forall t, (first schemePart t).isSome = true := Pattern.total_opt _
  have huserPart : forall t, (first userPart t).isSome = true := Pattern.total_opt _
  have hpathPart : forall t, (first pathPart t).isSome = true := Pattern.total_opt _
  have hoptions : forall t, (first optionsPart t).isSome = true := Pattern.total_opt _
  have hpath := Pattern.total_seq hpathPart hoptions
  have hhostsPart : forall t, (first hostsPart t).isSome = true := by
    intro t
    rw [hostsPart, Pattern.first_group_many]
    rfl
  have hhosts := Pattern.total_seq hhostsPart hpath
  have huser' := Pattern.total_seq huserPart hhosts
  have hfind : partsMatcher.find connStr = first partsMatcher connStr :=
    Pattern.find_of_total (Pattern.total_seq hschemePart huser')
  have hfirst : first partsMatcher connStr = some (ms.append (mu.append
      ({ groups := [(7, mu.rest.takeWhile (noneOf ['/', '?']))]
         rest := mu.rest.dropWhile (noneOf ['/', '?']) : Match }.append (mp.append mo)))) := by
    rw [partsMatcher, Pattern.first_seq_of_total huser', hms, Option.bind_some,
      Pattern.first_seq_of_total hhosts, hmu, Option.bind_some, Pattern.first_seq_of_total hpath,
      hmh, Option.bind_some, Pattern.first_seq_of_total hoptions, hmp, Option.bind_some, hmo]
    rfl
  have hnone : forall {a : Pattern} {text : Text} {m : Match} (n : Nat), n ∉ a.numbers ->
      first a text = some m -> m.group n = none := fun _ hn hm =>
    Pattern.group_of_notMem hn (Pattern.mem_of_first hm)
  refine ⟨scheme, ms.rest, mu.rest, _, hscheme, huser, hfind.trans hfirst, ?_, ?_, ?_⟩
  · rw [Match.group_append, Match.group_append, Match.group_append, Match.group_append,
      hnone 2 (by decide) hmu, hnone 2 (by decide) hmp, hnone 2 (by decide) hmo, hms2]
    exact Option.or_none
  · rw [Match.group_append, Match.group_append, Match.group_append,
      hnone 7 (by decide) hms, hnone 7 (by decide) hmu]
    rfl
  · rw [Match.group_append, Match.group_append, Match.group_append, Match.group_append,
      hnone 11 (by decide) hms, hnone 11 (by decide) hmu, hnone 11 (by decide) hmp, hmo11, hmpr]
    rfl

theorem exists_parse (connStr : Text) :
    exists scheme afterScheme afterUser, SchemeAt connStr scheme afterScheme ∧
      UserAt afterScheme afterUser ∧
      parse connStr = (parseHosts (afterUser.takeWhile (noneOf ['/', '?']))).map fun hosts =>
        { scheme := scheme
          hosts := hosts
          options := (optionsText (behindPath (afterUser.dropWhile (noneOf ['/', '?'])))).elim ∅
            parseOptions } := by
  rcases find_parts connStr with
    ⟨scheme, afterScheme, afterUser, parts, hscheme, huser, hfind, h2, h7, h11⟩
  refine ⟨scheme, afterScheme, afterUser, hscheme, huser, ?_⟩
  rw [parse, hfind]
  dsimp only
  rw [h2, h7, h11]
  rfl

/-!
# The scheme and the user of what is written
-/

def withScheme (scheme : Option Text) (text : Text) : Text :=
  scheme.elim [] (fun scheme => scheme ++ schemeEnd) ++ text

theorem schemeEnd_append_inj {scheme scheme' rest rest' : Text}
    (h : scheme ++ (schemeEnd ++ rest) = scheme' ++ (schemeEnd ++ rest'))
    (hlength : scheme.length < scheme'.length) :
    exists front, scheme' = scheme ++ (schemeEnd ++ front) ∧ rest = front ++ (schemeEnd ++ rest') := by
  rcases List.append_eq_append_iff.mp h with ⟨more, hscheme, hrest⟩ | ⟨more, hscheme, hrest⟩
  · have hends : ':' :: '/' :: '/' :: rest = more ++ ':' :: '/' :: '/' :: rest' := hrest
    cases more with
    | nil =>
        rw [hscheme, List.append_nil] at hlength
        exact absurd hlength (Nat.lt_irrefl _)
    | cons c1 more =>
        rcases List.cons.inj hends with ⟨hc1, hends1⟩
        cases more with
        | nil => cases (List.cons.inj hends1).1
        | cons c2 more =>
            rcases List.cons.inj hends1 with ⟨hc2, hends2⟩
            cases more with
            | nil => cases (List.cons.inj hends2).1
            | cons c3 more =>
                rcases List.cons.inj hends2 with ⟨hc3, hends3⟩
                refine ⟨more, ?_, hends3⟩
                rw [hscheme, ← hc1, ← hc2, ← hc3]
                rfl
  · rw [hscheme, List.length_append] at hlength
    exact absurd hlength (Nat.not_lt.mpr (Nat.le_add_right _ _))

theorem schemeAt_withScheme {scheme : Option Text}
    (hline : forall x, scheme = some x -> '\n' ∉ x) {text : Text} (h : NoScheme text) :
    SchemeAt (withScheme scheme text) scheme text := by
  cases scheme with
  | none => exact SchemeAt.none h
  | some scheme =>
      have hassoc : withScheme (some scheme) text = scheme ++ (schemeEnd ++ text) :=
        List.append_assoc _ _ _
      rw [hassoc]
      refine SchemeAt.some (hline scheme rfl) ?_
      intro scheme' rest' heq hlength
      rcases schemeEnd_append_inj heq hlength with ⟨front, rfl, hrest⟩
      exact List.mem_append_right _ (List.mem_append_right _ (h front rest' hrest))

/-- The scheme is read as it was written only if there is no other end of one. -/
theorem noScheme_of_schemeAt {scheme : Option Text} {text rest : Text}
    (h : SchemeAt (withScheme scheme text) scheme rest) : rest = text ∧ NoScheme text := by
  cases scheme with
  | none =>
      generalize hall : withScheme none text = all at h
      cases h with
      | none hnone => exact ⟨hall.symm, by rwa [← hall] at hnone⟩
  | some scheme =>
      have hassoc : withScheme (some scheme) text = scheme ++ (schemeEnd ++ text) :=
        List.append_assoc _ _ _
      rw [hassoc] at h
      generalize hall : scheme ++ (schemeEnd ++ text) = all at h
      cases h with
      | some hline hlonger =>
          have hrest : text = rest :=
            List.append_cancel_left (List.append_cancel_left hall)
          refine ⟨hrest.symm, ?_⟩
          intro front back htext
          have hmem := hlonger (scheme ++ (schemeEnd ++ front)) back
            (by rw [← hrest, htext]; simp only [List.append_assoc])
            (by
              rw [List.length_append, List.length_append]
              exact Nat.lt_add_of_pos_right (Nat.lt_of_lt_of_le (by decide : 0 < schemeEnd.length)
                (Nat.le_add_right _ _)))
          rcases List.mem_append.mp hmem with hmem | hmem
          · exact absurd hmem hline
          · rcases List.mem_append.mp hmem with hmem | hmem
            · exact absurd hmem (by decide)
            · exact hmem

theorem schemeAt_unique {text rest rest' : Text} {scheme scheme' : Option Text}
    (h : SchemeAt text scheme rest) (h' : SchemeAt text scheme' rest') :
    scheme = scheme' ∧ rest = rest' := by
  cases h with
  | none hnone =>
      cases h' with
      | none _ => exact ⟨rfl, rfl⟩
      | some hline _ => exact absurd (hnone _ _ rfl) hline
  | @some x _ hline hlonger =>
      generalize hall : x ++ (schemeEnd ++ rest) = all at h'
      cases h' with
      | none hnone => exact absurd (hnone _ _ hall.symm) hline
      | @some x' _ hline' hlonger' =>
          have hlength : x.length = x'.length := by
            by_contra hne
            rcases Nat.lt_or_gt_of_ne hne with hlt | hlt
            · exact hline' (hlonger _ _ hall hlt)
            · exact hline (hlonger' _ _ hall.symm hlt)
          rcases List.append_inj hall hlength with ⟨rfl, hends⟩
          exact ⟨rfl, List.append_cancel_left hends⟩

/-!
# The options as they are written
-/

def pairsOf (options : List (Text × List Text)) : List (Text × Text) :=
  options.flatMap fun e => e.2.map fun value => (e.1, value)

theorem displayOption_eq (k : Text) (values : List Text) :
    displayOption k values = Forms.write (values.map fun value => (k, value)) := by
  rw [displayOption, Forms.write, List.map_map]
  rfl

/-- The options are written like a form. -/
theorem displayOptions_eq {options : List (Text × List Text)}
    (h : forall e, e ∈ options -> e.2 ≠ []) :
    displayOptions options =
      if pairsOf options = [] then [] else '?' :: Forms.write (pairsOf options) := by
  have hpairs : forall e, e ∈ options -> (e.2.map fun value => (e.1, value)) ≠ [] :=
    fun e he hnil => h e he (List.map_eq_nil_iff.mp hnil)
  have hfold : forall (l : List (Text × List Text)) (acc : Text), acc ≠ [] ->
      (forall e, e ∈ l -> (e.2.map fun value => (e.1, value)) ≠ []) ->
      l.foldl (fun acc e => if acc = [] then displayOption e.1 e.2
          else acc ++ '&' :: displayOption e.1 e.2) acc =
        acc ++ if pairsOf l = [] then [] else '&' :: Forms.write (pairsOf l) := by
    intro l
    induction l with
    | nil =>
        intro acc _ _
        exact (List.append_nil acc).symm
    | cons e l ih =>
        intro acc hacc hl
        have he := hl e List.mem_cons_self
        have hcons : pairsOf (e :: l) ≠ [] :=
          List.append_ne_nil_of_left_ne_nil he _
        have hne : acc ++ '&' :: displayOption e.1 e.2 ≠ [] :=
          List.append_ne_nil_of_left_ne_nil hacc _
        rw [List.foldl_cons, if_neg hacc, ih _ hne fun e' he' => hl e' (List.mem_cons_of_mem e he'),
          if_neg hcons, displayOption_eq]
        have hflat : pairsOf (e :: l) = (e.2.map fun value => (e.1, value)) ++ pairsOf l := rfl
        rw [hflat]
        by_cases hnil : pairsOf l = []
        · rw [if_pos hnil, hnil, List.append_nil, List.append_nil]
        · rw [if_neg hnil, Forms.write_append he hnil, List.append_assoc, List.cons_append]
  cases options with
  | nil => rfl
  | cons e options =>
      have he := hpairs e List.mem_cons_self
      have hne : displayOption e.1 e.2 ≠ [] := by
        rw [displayOption_eq]
        exact Forms.write_ne_nil he
      have hcons : pairsOf (e :: options) ≠ [] := List.append_ne_nil_of_left_ne_nil he _
      have hflat : pairsOf (e :: options) =
          (e.2.map fun value => (e.1, value)) ++ pairsOf options := rfl
      have hwritten := hfold options (displayOption e.1 e.2) hne
        fun e' he' => hpairs e' (List.mem_cons_of_mem e he')
      rw [displayOptions, List.foldl_cons, if_pos rfl, hwritten, if_neg hcons, if_neg (List.append_ne_nil_of_left_ne_nil hne _), hflat,
        displayOption_eq]
      by_cases hnil : pairsOf options = []
      · rw [if_pos hnil, hnil, List.append_nil, List.append_nil]
      · rw [if_neg hnil, Forms.write_append he hnil]

theorem mem_pairsOf {order : MapOrder} {options : FiniteMap Text (List Text)} {e : Text × Text} :
    e ∈ pairsOf (order.pairs options) <->
      exists values, options.lookup e.1 = some values ∧ e.2 ∈ values := by
  constructor
  · intro h
    rcases List.mem_flatMap.mp h with ⟨⟨k, values⟩, hin, hmem⟩
    rcases List.mem_map.mp hmem with ⟨value, hvalue, rfl⟩
    exact ⟨values, (order.mem_pairs options).mp hin, hvalue⟩
  · intro ⟨values, hlookup, hvalue⟩
    exact List.mem_flatMap.mpr ⟨(e.1, values), (order.mem_pairs options).mpr hlookup,
      List.mem_map.mpr ⟨e.2, hvalue, rfl⟩⟩

theorem valuesAt_pairsOf (order : MapOrder) (options : FiniteMap Text (List Text)) (k : Text) :
    FiniteMap.valuesAt k (pairsOf (order.pairs options)) = (options.lookup k).getD [] := by
  rw [pairsOf, FiniteMap.valuesAt_flatMap]
  simp only [FiniteMap.valuesAt_map_key]
  rw [FiniteMap.flatMap_of_lookup (order.nodup_keys options) (fun e he => if_neg he),
    order.lookup_pairs]
  cases options.lookup k with
  | none => rfl
  | some values => exact if_pos rfl

theorem valuesAt_of_group {pairs : List (Text × Text)} {options : FiniteMap Text (List Text)}
    (h : (FiniteMap.group pairs).Same options) (k : Text) :
    FiniteMap.valuesAt k pairs = (options.lookup k).getD [] := by
  have hk := h k
  cases hlookup : options.lookup k with
  | none =>
      rw [hlookup] at hk
      by_contra hne
      have hsome := (FiniteMap.lookup_group pairs k _).mpr ⟨hne, rfl⟩
      rw [hk] at hsome
      cases hsome
  | some values =>
      rw [hlookup] at hk
      exact ((FiniteMap.lookup_group pairs k values).mp hk).2.symm

/-- The options are grouped from the pairs that are written for them. -/
theorem group_pairsOf (order : MapOrder) {options : FiniteMap Text (List Text)}
    (h : forall k values, options.lookup k = some values -> values ≠ []) :
    (FiniteMap.group (pairsOf (order.pairs options))).Same options := by
  intro k
  apply Option.ext
  intro values
  rw [FiniteMap.lookup_group, valuesAt_pairsOf]
  cases hlookup : options.lookup k with
  | none =>
      constructor
      · intro ⟨hne, hnil⟩
        exact absurd hnil hne
      · intro hnone
        cases hnone
  | some values' =>
      constructor
      · intro ⟨_, heq⟩
        rw [heq]
        rfl
      · intro heq
        cases heq
        exact ⟨h k values hlookup, rfl⟩

theorem perm_of_group {order : MapOrder} {pairs : List (Text × Text)}
    {options : FiniteMap Text (List Text)} (h : (FiniteMap.group pairs).Same options) :
    pairs.Perm (pairsOf (order.pairs options)) := by
  rw [FiniteMap.perm_iff_valuesAt]
  intro k
  rw [valuesAt_of_group h, valuesAt_pairsOf]

/-!
# When the same is read again
-/

/-- How many `:` are written for an address. -/
def colons (address : ConnSpecAddress) : Nat :=
  address.host.count ':' + if address.port.isSome then 1 else 0

/-- Behind so many `:`, no `@` stands in a host before the second one. -/
def NoUserFrom : Nat -> List ConnSpecAddress -> Prop
  | _, [] => True
  | n, address :: hosts =>
      (forall front back, address.host = front ++ '@' :: back -> 2 ≤ n + front.count ':') ∧
        NoUserFrom (n + colons address) hosts

/-- Nothing that is written is taken for something else. -/
structure Writable (spec : ConnSpec) : Prop where
  hosts : NoUserFrom 0 spec.hosts
  options : forall k values value, spec.options.lookup k = some values -> value ∈ values ->
    Forms.Clean (k, value)
  scheme : (exists address, address ∈ spec.hosts ∧ '\n' ∈ address.host) ∨
    forall k values value, spec.options.lookup k = some values -> value ∈ values ->
      ¬ schemeEnd <:+: k ∧ ¬ schemeEnd <:+: value

structure ConnSpec.Same (spec spec' : ConnSpec) : Prop where
  scheme : spec.scheme = spec'.scheme
  hosts : spec.hosts = spec'.hosts
  options : spec.options.Same spec'.options

theorem append_eq_mark {front back text behind : Text} :
    text ++ behind = front ++ '@' :: back <->
      (exists rest, text = front ++ '@' :: rest ∧ back = rest ++ behind) ∨
        exists rest, front = text ++ rest ∧ behind = rest ++ '@' :: back := by
  constructor
  · intro h
    rcases List.append_eq_append_iff.mp h with ⟨rest, hfront, hbehind⟩ | ⟨rest, htext, hback⟩
    · exact Or.inr ⟨rest, hfront, hbehind⟩
    · cases rest with
      | nil =>
          refine Or.inr ⟨[], ?_, hback.symm⟩
          rw [htext, List.append_nil, List.append_nil]
      | cons c rest =>
          rcases List.cons.inj hback with ⟨rfl, hrest⟩
          exact Or.inl ⟨rest, htext, hrest⟩
  · intro h
    rcases h with ⟨rest, rfl, rfl⟩ | ⟨rest, rfl, rfl⟩
    · rw [List.append_assoc, List.cons_append]
    · rw [List.append_assoc]

theorem count_displayPort (port : Option UInt16) :
    '@' ∉ displayPort port ∧
      (displayPort port).count ':' = if port.isSome then 1 else 0 := by
  cases port with
  | none => exact ⟨List.not_mem_nil, rfl⟩
  | some port =>
      have hdigit : forall c, c ∈ Nat.toDigits 10 port.toNat -> c.isDigit = true := fun c hc =>
        Nat.isDigit_of_mem_toDigits (by decide) (by decide) hc
      have hnone : (Nat.toDigits 10 port.toNat).count ':' = 0 :=
        List.count_eq_zero.mpr fun hmem => absurd (hdigit _ hmem) (by decide)
      constructor
      · intro hmem
        rcases List.mem_cons.mp hmem with heq | hmem
        · cases heq
        · exact absurd (hdigit _ hmem) (by decide)
      · rw [displayPort, List.count_cons_self, hnone]
        rfl

theorem noUserFrom_iff {hosts : List ConnSpecAddress} {n : Nat} :
    NoUserFrom n hosts <->
      forall front back, displayHosts hosts = front ++ '@' :: back -> 2 ≤ n + front.count ':' := by
  induction hosts generalizing n with
  | nil =>
      constructor
      · intro _ front back htext
        exact absurd htext.symm (List.append_ne_nil_of_right_ne_nil _ (List.cons_ne_nil _ _))
      · intro _
        trivial
  | cons address hosts ih =>
      have hport := count_displayPort address.port
      rw [NoUserFrom, ih, displayHosts_cons, colons]
      constructor
      · intro ⟨hhost, hlater⟩ front back htext
        rcases append_eq_mark.mp htext with ⟨rest, hfront, _⟩ | ⟨rest, rfl, hbehind⟩
        · exact hhost front rest hfront
        · rcases append_eq_mark.mp hbehind with ⟨rest', hmark, _⟩ | ⟨rest', rfl, hmark⟩
          · exact absurd (hmark ▸ List.mem_append_right _ List.mem_cons_self) hport.1
          · cases hosts with
            | nil =>
                exact absurd hmark.symm
                  (List.append_ne_nil_of_right_ne_nil _ (List.cons_ne_nil _ _))
            | cons later hosts =>
                cases rest' with
                | nil => cases (List.cons.inj hmark).1
                | cons c rest' =>
                    rcases List.cons.inj hmark with ⟨rfl, htail⟩
                    have hle := hlater rest' back htail
                    rw [List.count_append, List.count_append, hport.2,
                      List.count_cons_of_ne (by decide)]
                    omega
      · intro h
        constructor
        · intro front back hhost
          exact h front _ (append_eq_mark.mpr (Or.inl ⟨back, hhost, rfl⟩))
        · intro front back hlater
          cases hosts with
          | nil =>
              exact absurd hlater.symm
                (List.append_ne_nil_of_right_ne_nil _ (List.cons_ne_nil _ _))
          | cons later hosts =>
              have hle := h (address.host ++ (displayPort address.port ++ ',' :: front)) back (by
                rw [displayLater, hlater]
                · simp only [List.append_assoc, List.cons_append]
                · exact List.cons_ne_nil _ _)
              rw [List.count_append, List.count_append, hport.2,
                List.count_cons_of_ne (by decide)] at hle
              omega

/-!
# What was read
-/

/-- What holds of everything that is read. -/
structure Parsed (spec : ConnSpec) : Prop where
  scheme : forall x, spec.scheme = some x -> '\n' ∉ x
  hosts : Readable spec.hosts
  plain : forall c, c ∈ ['/', '?'] -> c ∉ displayHosts spec.hosts
  options : forall k values, spec.options.lookup k = some values -> values ≠ []

theorem plain_of_parseHosts {text : Text} {hosts : List ConnSpecAddress}
    (h : parseHosts text = .ok hosts) {c : Char} (hc : c ∈ ['/', '?']) (htext : c ∉ text) :
    c ∉ displayHosts hosts := by
  rcases exists_scanned text with ⟨found, hfound⟩
  rw [parseHosts_of_scanned hfound] at h
  intro hmem
  rcases mem_displayHosts hmem with ⟨address, haddress, hin⟩ | hother
  · have hfst : address.host ∈ found.map Prod.fst := by
      rw [← hosts_of_mapM h]
      exact List.mem_map.mpr ⟨address, haddress, rfl⟩
    rcases List.mem_map.mp hfst with ⟨e, he, heq⟩
    rw [← heq] at hin
    exact htext (mem_of_scanned hfound he hin)
  · simp only [List.mem_cons, List.not_mem_nil, or_false] at hc
    rcases hc with rfl | rfl
    · exact absurd hother (by decide)
    · exact absurd hother (by decide)

theorem parsed_of_parse {connStr : Text} {spec : ConnSpec} (h : parse connStr = .ok spec) :
    Parsed spec := by
  rcases exists_parse connStr with ⟨scheme, afterScheme, afterUser, hscheme, _, hparse⟩
  rw [hparse] at h
  cases hhosts : parseHosts (afterUser.takeWhile (noneOf ['/', '?'])) with
  | error _ =>
      rw [hhosts] at h
      cases h
  | ok hosts =>
      rw [hhosts] at h
      cases h
      refine { scheme := ?_, hosts := ?_, plain := ?_, options := ?_ }
      · intro x hx
        cases hx
        cases hscheme with
        | some hline _ => exact hline
      · rcases exists_scanned (afterUser.takeWhile (noneOf ['/', '?'])) with ⟨found, hfound⟩
        rw [parseHosts_of_scanned hfound] at hhosts
        exact readable_of_scanned hfound hhosts
      · intro c hc
        refine plain_of_parseHosts hhosts hc fun hmem => ?_
        have htaken := List.mem_takeWhile_imp hmem
        exact noneOf_iff.mp htaken hc
      · intro k values hlookup
        dsimp only at hlookup
        cases hoptions : optionsText (behindPath (afterUser.dropWhile (noneOf ['/', '?']))) with
        | none =>
            rw [hoptions] at hlookup
            cases hlookup
        | some text =>
            rw [hoptions] at hlookup
            exact ((FiniteMap.lookup_group _ k values).mp hlookup).1

/-!
# Reading what was written
-/

section Again

variable {order : MapOrder} {spec : ConnSpec}

/-- What is written behind the scheme. -/
def written (order : MapOrder) (spec : ConnSpec) : Text :=
  displayHosts spec.hosts ++ displayOptions (order.pairs spec.options)

def pairs (order : MapOrder) (spec : ConnSpec) : List (Text × Text) :=
  pairsOf (order.pairs spec.options)

theorem display_eq (order : MapOrder) (spec : ConnSpec) :
    display order spec = withScheme spec.scheme (written order spec) := rfl

theorem Parsed.displayOptions (h : Parsed spec) :
    displayOptions (order.pairs spec.options) =
      if pairs order spec = [] then [] else '?' :: Forms.write (pairs order spec) :=
  displayOptions_eq fun e he => h.options e.1 e.2 ((order.mem_pairs spec.options).mp he)

/-- The hosts go up to the `?` of the options. -/
theorem Parsed.hosts_of_written (h : Parsed spec) :
    (written order spec).takeWhile (noneOf ['/', '?']) = displayHosts spec.hosts ∧
      (written order spec).dropWhile (noneOf ['/', '?']) =
        Connstr.displayOptions (order.pairs spec.options) := by
  refine takeWhile_stops ?_ ?_
  · intro c hc
    exact noneOf_iff.mpr fun hmem => h.plain c hmem hc
  · intro d hd
    rw [h.displayOptions] at hd
    split at hd
    · cases hd
    · cases hd
      rfl

/-- The options are read from the first line of what is written for them. -/
theorem Parsed.options_of_written (h : Parsed spec) :
    (optionsText (behindPath (Connstr.displayOptions (order.pairs spec.options)))).elim ∅
        parseOptions =
      FiniteMap.group (Forms.parse ((Forms.write (pairs order spec)).takeWhile (· != '\n'))) := by
  rw [h.displayOptions]
  split
  · next hnil =>
      rw [hnil]
      rfl
  · rfl

/-- No user is read exactly if no `@` is written before the second `:`. -/
theorem Parsed.noUser_iff (h : Parsed spec) :
    NoUser (written order spec) <-> NoUserFrom 0 spec.hosts := by
  rw [noUserFrom_iff]
  constructor
  · intro hnone front back htext
    have hplain : forall c, c ∈ ['/', '?'] -> c ∉ front := by
      intro c hc hmem
      exact h.plain c hc (htext ▸ List.mem_append_left _ hmem)
    rcases hnone front _ (append_eq_mark.mpr (Or.inl ⟨back, htext, rfl⟩)) with hmem | hmem | hle
    · exact absurd hmem (hplain '/' (by decide))
    · exact absurd hmem (hplain '?' (by decide))
    · rwa [Nat.zero_add]
  · intro hmarks front back htext
    rcases append_eq_mark.mp htext with ⟨rest, hfront, _⟩ | ⟨rest, rfl, hoptions⟩
    · have hle := hmarks front rest hfront
      rw [Nat.zero_add] at hle
      exact Or.inr (Or.inr hle)
    · right
      left
      rw [h.displayOptions] at hoptions
      split at hoptions
      · exact absurd hoptions.symm
          (List.append_ne_nil_of_right_ne_nil _ (List.cons_ne_nil _ _))
      · cases rest with
        | nil => cases (List.cons.inj hoptions).1
        | cons c rest =>
            rw [← (List.cons.inj hoptions).1]
            exact List.mem_append_right _ List.mem_cons_self

/-- An end of a scheme is in a key or in a value. -/
theorem infix_displayOptions (h : Parsed spec) :
    schemeEnd <:+: Connstr.displayOptions (order.pairs spec.options) <->
      exists e, e ∈ pairs order spec ∧ (schemeEnd <:+: e.1 ∨ schemeEnd <:+: e.2) := by
  have hquery : '?' ∉ schemeEnd := by decide
  have hwrite : schemeEnd <:+: Forms.write (pairs order spec) <->
      exists e, e ∈ pairs order spec ∧ (schemeEnd <:+: e.1 ∨ schemeEnd <:+: e.2) :=
    Forms.infix_write (by decide) (by decide) (by decide)
  rw [h.displayOptions]
  split
  · next hnil =>
      rw [hnil]
      constructor
      · intro hoccurs
        exact absurd (List.infix_nil.mp hoccurs) (by decide)
      · intro ⟨_, he, _⟩
        cases he
  · rw [← hwrite]
    have hbehind : schemeEnd <:+: [] ++ '?' :: Forms.write (pairs order spec) <->
        schemeEnd <:+: [] ∨ schemeEnd <:+: Forms.write (pairs order spec) :=
      Forms.infix_append_cons hquery
    rw [List.nil_append] at hbehind
    rw [hbehind]
    constructor
    · intro hoccurs
      rcases hoccurs with hoccurs | hoccurs
      · exact absurd (List.infix_nil.mp hoccurs) (by decide)
      · exact hoccurs
    · exact Or.inr

theorem mem_displayHosts_of_host {hosts : List ConnSpecAddress} {address : ConnSpecAddress}
    (h : address ∈ hosts) {c : Char} (hc : c ∈ address.host) : c ∈ displayHosts hosts := by
  induction hosts with
  | nil => cases h
  | cons first hosts ih =>
      rw [displayHosts_cons]
      rcases List.mem_cons.mp h with rfl | h
      · exact List.mem_append_left _ hc
      · refine List.mem_append_right _ (List.mem_append_right _ ?_)
        cases hosts with
        | nil => cases h
        | cons later hosts => exact List.mem_cons_of_mem _ (ih h)

/-- An end of a scheme does not reach from the hosts into the options. -/
theorem Parsed.append_schemeEnd (h : Parsed spec) {front back : Text}
    (htext : written order spec = front ++ (schemeEnd ++ back)) :
    exists rest, front = displayHosts spec.hosts ++ rest ∧
      Connstr.displayOptions (order.pairs spec.options) = rest ++ (schemeEnd ++ back) := by
  have hstart : forall {c : Char} {text : Text},
      Connstr.displayOptions (order.pairs spec.options) = c :: text -> c = '?' := by
    intro c text heq
    rw [h.displayOptions] at heq
    split at heq
    · cases heq
    · exact (List.cons.inj heq).1.symm
  rcases List.append_eq_append_iff.mp htext with ⟨rest, hfront, hoptions⟩ | ⟨rest, hhosts, hback⟩
  · exact ⟨rest, hfront, hoptions⟩
  · have hends : ':' :: '/' :: '/' :: back =
        rest ++ Connstr.displayOptions (order.pairs spec.options) := hback
    cases rest with
    | nil => cases hstart hends.symm
    | cons c1 rest =>
        cases rest with
        | nil => cases hstart (List.cons.inj hends).2.symm
        | cons c2 rest =>
            have hslash : c2 = '/' := (List.cons.inj (List.cons.inj hends).2).1.symm
            refine absurd ?_ (h.plain '/' (by decide))
            rw [hhosts, hslash]
            exact List.mem_append_right _ (List.mem_cons_of_mem _ List.mem_cons_self)

/-- No other scheme is read exactly if a line ends in the hosts, or the options have no end of
one. -/
theorem noScheme_iff (h : Parsed spec) (hclean : forall e, e ∈ pairs order spec -> Forms.Clean e) :
    NoScheme (written order spec) <->
      (exists address, address ∈ spec.hosts ∧ '\n' ∈ address.host) ∨
        forall e, e ∈ pairs order spec -> ¬ schemeEnd <:+: e.1 ∧ ¬ schemeEnd <:+: e.2 := by
  have hoptions : '\n' ∉ Connstr.displayOptions (order.pairs spec.options) := by
    rw [h.displayOptions]
    split
    · exact List.not_mem_nil
    · intro hmem
      rcases List.mem_cons.mp hmem with heq | hmem
      · cases heq
      · exact Forms.notMem_write (by decide)
          (fun e he => (hclean e he).notMem_writePair (Or.inr rfl)) hmem
  constructor
  · intro hnone
    by_cases hline : exists address, address ∈ spec.hosts ∧ '\n' ∈ address.host
    · exact Or.inl hline
    · right
      intro e he
      rw [← not_or]
      intro hoccurs
      rcases (infix_displayOptions h).mpr ⟨e, he, hoccurs⟩ with ⟨before, behind, htext⟩
      have hmem := hnone (displayHosts spec.hosts ++ before) behind (by
        rw [written, ← htext]
        simp only [List.append_assoc])
      rcases List.mem_append.mp hmem with hmem | hmem
      · rcases mem_displayHosts hmem with hhost | hother
        · exact hline hhost
        · exact absurd hother (by decide)
      · rw [← htext, List.append_assoc] at hoptions
        exact hoptions (List.mem_append_left _ hmem)
  · intro hwritable front back htext
    rcases h.append_schemeEnd htext with ⟨rest, rfl, hoccurs⟩
    rcases hwritable with ⟨address, haddress, hline⟩ | hnone
    · exact List.mem_append_left _ (mem_displayHosts_of_host haddress hline)
    · rcases (infix_displayOptions h).mp
        ⟨rest, back, by rw [hoccurs, List.append_assoc]⟩ with ⟨e, he, hin⟩
      rcases hin with hin | hin
      · exact absurd hin (hnone e he).1
      · exact absurd hin (hnone e he).2

theorem Writable.clean (h : Writable spec) : forall e, e ∈ pairs order spec -> Forms.Clean e := by
  intro e he
  rcases mem_pairsOf.mp he with ⟨values, hlookup, hvalue⟩
  exact h.options e.1 values e.2 hlookup hvalue

/-- What is written is read as it was. -/
theorem same_of_writable (h : Parsed spec) (hwritable : Writable spec) :
    exists spec', parse (display order spec) = .ok spec' ∧ spec'.Same spec := by
  have hclean : forall e, e ∈ pairs order spec -> Forms.Clean e := hwritable.clean
  have hscheme : NoScheme (written order spec) := by
    rw [noScheme_iff h hclean]
    refine hwritable.scheme.imp_right fun hnone e he => ?_
    rcases mem_pairsOf.mp he with ⟨values, hlookup, hvalue⟩
    exact hnone e.1 values e.2 hlookup hvalue
  rcases exists_parse (display order spec) with
    ⟨scheme, afterScheme, afterUser, hat, huser, hparse⟩
  rw [display_eq] at hat
  rcases schemeAt_unique hat (schemeAt_withScheme h.scheme hscheme) with ⟨rfl, rfl⟩
  have hnoUser : NoUser (written order spec) := h.noUser_iff.mpr hwritable.hosts
  have hsame : afterUser = written order spec := by
    generalize hall : written order spec = all at huser hnoUser
    cases huser with
    | none _ => rfl
    | @some user _ hslash hquery hcount =>
        rcases hnoUser user _ rfl with hmem | hmem | hle
        · exact absurd hmem hslash
        · exact absurd hmem hquery
        · exact absurd hle (Nat.not_le.mpr hcount)
  rw [hsame, h.hosts_of_written.1, h.hosts_of_written.2, h.options_of_written,
    parseHosts_displayHosts h.hosts, Forms.parse_line_write hclean] at hparse
  refine ⟨_, hparse, rfl, rfl, ?_⟩
  exact group_pairsOf order h.options

/-- The hosts are the same only if no user is read. -/
theorem noUser_of_hosts (h : Parsed spec) {afterUser : Text}
    (huser : UserAt (written order spec) afterUser)
    (hhosts : parseHosts (afterUser.takeWhile (noneOf ['/', '?'])) = .ok spec.hosts) :
    NoUser (written order spec) ∧ afterUser = written order spec := by
  have hcount : forall text, parseHosts text = .ok spec.hosts ->
      text.count '@' = ((spec.hosts.map ConnSpecAddress.host).map fun host =>
        host.count '@').sum := by
    intro text htext
    rcases exists_scanned text with ⟨found, hfound⟩
    rw [parseHosts_of_scanned hfound] at htext
    rw [count_of_scanned hfound, hosts_of_mapM htext, List.map_map]
    rfl
  have hmarks := (hcount _ hhosts).trans (hcount _ (parseHosts_displayHosts h.hosts)).symm
  generalize hall : written order spec = all at huser
  cases huser with
  | none hnone => exact ⟨hnone, rfl⟩
  | @some user _ hslash hquery _ =>
      exfalso
      rcases append_eq_mark.mp hall with ⟨rest, hfront, hback⟩ | ⟨rest, hfront, hoptions⟩
      · have hplain : forall c, c ∈ rest -> noneOf ['/', '?'] c = true := by
          intro c hc
          refine noneOf_iff.mpr fun hmem => h.plain c hmem ?_
          rw [hfront]
          exact List.mem_append_right _ (List.mem_cons_of_mem _ hc)
        have htaken : afterUser.takeWhile (noneOf ['/', '?']) = rest := by
          rw [hback]
          refine (takeWhile_stops hplain ?_).1
          intro d hd
          rw [h.displayOptions] at hd
          split at hd
          · cases hd
          · cases hd
            rfl
        rw [htaken, hfront, List.count_append, List.count_cons_self] at hmarks
        omega
      · rw [h.displayOptions] at hoptions
        split at hoptions
        · exact absurd hoptions.symm
            (List.append_ne_nil_of_right_ne_nil _ (List.cons_ne_nil _ _))
        · cases rest with
          | nil => cases (List.cons.inj hoptions).1
          | cons c rest =>
              rw [hfront, ← (List.cons.inj hoptions).1] at hquery
              exact hquery (List.mem_append_right _ List.mem_cons_self)

theorem writable_of_same (h : Parsed spec) {spec' : ConnSpec}
    (hparse : parse (display order spec) = .ok spec') (hsame : spec'.Same spec) :
    Writable spec := by
  rcases exists_parse (display order spec) with
    ⟨scheme, afterScheme, afterUser, hat, huser, hparse'⟩
  rw [hparse'] at hparse
  cases hhosts : parseHosts (afterUser.takeWhile (noneOf ['/', '?'])) with
  | error _ =>
      rw [hhosts] at hparse
      cases hparse
  | ok hosts =>
      rw [hhosts] at hparse
      cases hparse
      rcases hsame with ⟨hscheme, hhosts', hoptions⟩
      dsimp only at hscheme hhosts' hoptions
      rw [display_eq, hscheme] at hat
      rcases noScheme_of_schemeAt hat with ⟨rfl, hnoScheme⟩
      rw [hhosts'] at hhosts
      rcases noUser_of_hosts h huser hhosts with ⟨hnoUser, rfl⟩
      rw [h.hosts_of_written.2, h.options_of_written] at hoptions
      have hclean : forall e, e ∈ pairs order spec -> Forms.Clean e :=
        Forms.clean_of_perm (perm_of_group hoptions)
      have hpair : forall {k value : Text} {values : List Text},
          spec.options.lookup k = some values -> value ∈ values ->
            (k, value) ∈ pairs order spec := fun hlookup hvalue =>
        mem_pairsOf.mpr ⟨_, hlookup, hvalue⟩
      refine { hosts := h.noUser_iff.mp hnoUser, options := ?_, scheme := ?_ }
      · intro k values value hlookup hvalue
        exact hclean _ (hpair hlookup hvalue)
      · refine ((noScheme_iff h hclean).mp hnoScheme).imp_right fun hnone => ?_
        intro k values value hlookup hvalue
        exact hnone _ (hpair hlookup hvalue)

/-- What was read is written and read again as it was exactly if nothing that is written is taken
for something else. -/
theorem roundTrip_iff (order : MapOrder) {connStr : Text} (h : parse connStr = .ok spec) :
    (exists spec', parse (display order spec) = .ok spec' ∧ spec'.Same spec) <->
      Writable spec := by
  have hparsed := parsed_of_parse h
  constructor
  · intro ⟨spec', hparse, hsame⟩
    exact writable_of_same hparsed hparse hsame
  · exact same_of_writable hparsed

/-- An address in brackets with a port, and one without. -/
theorem roundTrip_addresses :
    exists spec, parse "couchbase://[::1]:11210,h".toList = .ok spec ∧
      ((exists spec', parse (display MapOrder.kept spec) = .ok spec' ∧ spec'.Same spec) <->
        Writable spec) := by
  have hparse : parse "couchbase://[::1]:11210,h".toList =
      .ok { scheme := some "couchbase".toList
            hosts := [{ host := "[::1]".toList, port := some 11210 },
              { host := "h".toList, port := none }]
            options := ∅ } := rfl
  exact ⟨_, hparse, roundTrip_iff MapOrder.kept hparse⟩

/-- An escaped `&` in a value is written as it is, and ends the value when it is read. -/
theorem not_roundTrip :
    ¬ forall (order : MapOrder) (connStr : Text) (spec : ConnSpec), parse connStr = .ok spec ->
      exists spec', parse (display order spec) = .ok spec' ∧ spec'.Same spec := by
  intro h
  have hparse : parse "couchbase://h?a=b%26c".toList =
      .ok { scheme := some "couchbase".toList
            hosts := [{ host := ['h'], port := none }]
            options := parseOptions "a=b%26c".toList } := rfl
  have hname : percentDecode (utf8Bytes (Forms.replacePlus ['a'])) = utf8Bytes ['a'] := by decide
  have hvalue : percentDecode (utf8Bytes (Forms.replacePlus "b%26c".toList)) =
      utf8Bytes ['b', '&', 'c'] := by decide
  have hpairs : Forms.parse "a=b%26c".toList = [(['a'], ['b', '&', 'c'])] := by
    have hpair : Forms.parse "a=b%26c".toList =
        [(Forms.decode ['a'], Forms.decode "b%26c".toList)] := rfl
    rw [hpair, Forms.decode, Forms.decode, hname, hvalue, fromUtf8Lossy_utf8Bytes,
      fromUtf8Lossy_utf8Bytes]
  rcases h MapOrder.kept _ _ hparse with ⟨spec', hagain, hsame⟩
  have hwritable := writable_of_same (parsed_of_parse hparse) hagain hsame
  have hlookup : (parseOptions "a=b%26c".toList).lookup ['a'] = some [['b', '&', 'c']] := by
    rw [parseOptions, hpairs]
    rfl
  exact (hwritable.options ['a'] _ _ hlookup List.mem_cons_self).value '&' (by decide)
    (by decide)

end Again

end Connstr
end CouchbaseSdk
