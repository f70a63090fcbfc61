import CouchbaseSdk.Queryx.Indexes

/-!
# Names in the statements for indexes

Every statement is read as its keywords, its punctuation and one identifier for each name, whatever
the names are, and every deferred index is named once.
-/

namespace CouchbaseSdk
namespace Queryx

open Foundation
open Foundation.Lexing (Token Fragment)
open Foundation.Lexing.Token (word mark)

/-!
# The tokens of the statements
-/

def identifier (name : String) : Token :=
  .quoted '\x60' name

def keywords (words : List String) : List Token :=
  words.map word

def keyspaceTokens (bucketName : String) (scopeName collectionName : Option String) :
    List Token :=
  match scopeName, collectionName with
  | some scope, some collection =>
      [identifier bucketName, mark '.', identifier scope, mark '.', identifier collection]
  | some scope, none =>
      [identifier bucketName, mark '.', identifier scope, mark '.', word "_default"]
  | none, some collection =>
      [identifier bucketName, mark '.', word "_default", mark '.', identifier collection]
  | none, none => [identifier bucketName]

def separated (items : List (List Token)) : List Token :=
  [mark ','].intercalate items

def namesTokens (names : List String) : List Token :=
  separated (names.map fun name => [identifier name])

def valueTokens : JsonValue -> List Token
  | .bool true => [word "true"]
  | .bool false => [word "false"]
  | .number n => [word (String.ofList n.text)]
  | _ => []

def memberTokens (member : String × JsonValue) : List Token :=
  [Token.quoted '"' member.1, mark ':'] ++ valueTokens member.2

def withTokens (order : MapOrder) (value : FiniteMap String JsonValue) : List Token :=
  if value.keys.isEmpty then []
  else
    [word "WITH", mark '\x7b'] ++ separated ((order.pairs value).map memberTokens) ++
      [mark '\x7d']

def dropTokens (bucketName : String) (scopeName collectionName : Option String)
    (indexName : String) : List Token :=
  if scopeName.isSome || collectionName.isSome then
    keywords ["DROP", "INDEX"] ++ [identifier indexName, word "ON"] ++
      keyspaceTokens bucketName scopeName collectionName
  else
    keywords ["DROP", "INDEX"] ++ keyspaceTokens bucketName scopeName collectionName ++
      [mark '.', identifier indexName]

/-- A statement that one of the functions sends. -/
inductive Statement where
  | createPrimaryIndex (opts : CreatePrimaryIndexOptions)
  | createIndex (opts : CreateIndexOptions)
  | dropPrimaryIndex (opts : DropPrimaryIndexOptions)
  | dropIndex (opts : DropIndexOptions)

namespace Statement

def text (order : MapOrder) : Statement -> String
  | createPrimaryIndex opts => opts.statement order
  | createIndex opts => opts.statement order
  | dropPrimaryIndex opts => opts.statement
  | dropIndex opts => opts.statement

/-- The keywords and the punctuation, with an identifier for each name. -/
def tokens (order : MapOrder) : Statement -> List Token
  | createPrimaryIndex opts =>
      keywords ["CREATE", "PRIMARY", "INDEX"] ++ opts.indexName.toList.map identifier ++
        [word "ON"] ++ keyspaceTokens opts.bucketName opts.scopeName opts.collectionName ++
        withTokens order (withOf opts.deferred opts.numReplicas)
  | createIndex opts =>
      keywords ["CREATE", "INDEX"] ++ [identifier opts.indexName, word "ON"] ++
        keyspaceTokens opts.bucketName opts.scopeName opts.collectionName ++
        [mark '('] ++ namesTokens opts.fields ++ [mark ')'] ++
        withTokens order (withOf opts.deferred opts.numReplicas)
  | dropPrimaryIndex opts =>
      match opts.indexName with
      | some indexName =>
          dropTokens opts.bucketName opts.scopeName opts.collectionName indexName
      | none =>
          keywords ["DROP", "PRIMARY", "INDEX", "ON"] ++
            keyspaceTokens opts.bucketName opts.scopeName opts.collectionName
  | dropIndex opts =>
      dropTokens opts.bucketName opts.scopeName opts.collectionName opts.indexName

end Statement

/-!
# Fragments of the statements
-/

theorem isQuote_backtick : Lexing.isQuote '\x60' = true := by decide

theorem isQuote_doubleQuote : Lexing.isQuote '"' = true := by decide

def nameFragment (name : String) : Fragment :=
  Fragment.quoted '\x60' isQuote_backtick name.toList

theorem text_nameFragment (name : String) :
    (nameFragment name).text = (encodeIdentifier name).toList := by
  show '\x60' :: Lexing.escape '\x60' name.toList ++ ['\x60'] =
    (String.ofList ('\x60' :: Lexing.replace '\x60' ['\\', '\x60']
      (Lexing.replace '\\' ['\\', '\\'] name.toList) ++ ['\x60'])).toList
  rw [String.toList_ofList, Lexing.replace_replace (by decide)]

theorem tokens_nameFragment (name : String) : (nameFragment name).tokens = [identifier name] := by
  show [Token.quoted '\x60' (String.ofList name.toList)] = [identifier name]
  rw [String.ofList_toList]
  rfl

theorem breaksAndReads_dot : Fragment.breaksAndReads ['.'] [mark '.'] = true := by decide
theorem breaksAndReads_comma : Fragment.breaksAndReads [','] [mark ','] = true := by decide
theorem breaksAndReads_blank : Fragment.breaksAndReads [' '] [] = true := by decide

theorem breaksAndReads_texts :
    Fragment.breaksAndReads "._default".toList [mark '.', word "_default"] = true ∧
      Fragment.breaksAndReads " ON ".toList [word "ON"] = true ∧
      Fragment.breaksAndReads ":true".toList [mark ':', word "true"] = true ∧
      Fragment.breaksAndReads ":false".toList [mark ':', word "false"] = true ∧
      Fragment.breaksAndReads " WITH \x7b".toList [word "WITH", mark '\x7b'] = true ∧
      Fragment.breaksAndReads " ( ".toList [mark '('] = true := by
  decide +kernel

theorem breaksAndReads_default :
    Fragment.breaksAndReads "._default".toList [mark '.', word "_default"] = true :=
  breaksAndReads_texts.1

theorem breaksAndReads_on : Fragment.breaksAndReads " ON ".toList [word "ON"] = true :=
  breaksAndReads_texts.2.1

def dot : Fragment := .fixed ['.'] [mark '.'] breaksAndReads_dot
def comma : Fragment := .fixed [','] [mark ','] breaksAndReads_comma
def blank : Fragment := .fixed [' '] [] breaksAndReads_blank
def dotDefault : Fragment :=
  .fixed "._default".toList [mark '.', word "_default"] breaksAndReads_default
def on : Fragment := .fixed " ON ".toList [word "ON"] breaksAndReads_on

def keyspaceFragments (bucketName : String) (scopeName collectionName : Option String) :
    List Fragment :=
  match scopeName, collectionName with
  | some scope, some collection =>
      [nameFragment bucketName, dot, nameFragment scope, dot, nameFragment collection]
  | some scope, none => [nameFragment bucketName, dot, nameFragment scope, dotDefault]
  | none, some collection =>
      [nameFragment bucketName, dotDefault, dot, nameFragment collection]
  | none, none => [nameFragment bucketName]

theorem text_keyspaceFragments (b : String) (s c : Option String) :
    (keyspaceFragments b s c).flatMap Fragment.text = (buildKeyspace b s c).toList := by
  cases s with
  | none =>
      cases c with
      | none =>
          show (nameFragment b).text ++ [] = (encodeIdentifier b).toList
          rw [text_nameFragment, List.append_nil]
      | some collection =>
          show (nameFragment b).text ++ ("._default".toList ++
              (['.'] ++ ((nameFragment collection).text ++ []))) =
            (encodeIdentifier b ++ "._default." ++ encodeIdentifier collection).toList
          rw [text_nameFragment, text_nameFragment]
          simp
  | some scope =>
      cases c with
      | none =>
          show (nameFragment b).text ++ (['.'] ++ ((nameFragment scope).text ++
              ("._default".toList ++ []))) =
            (encodeIdentifier b ++ "." ++ encodeIdentifier scope ++ "._default").toList
          rw [text_nameFragment, text_nameFragment]
          simp
      | some collection =>
          show (nameFragment b).text ++ (['.'] ++ ((nameFragment scope).text ++
              (['.'] ++ ((nameFragment collection).text ++ [])))) =
            (encodeIdentifier b ++ "." ++ encodeIdentifier scope ++ "." ++
              encodeIdentifier collection).toList
          rw [text_nameFragment, text_nameFragment, text_nameFragment]
          simp

theorem tokens_keyspaceFragments (b : String) (s c : Option String) :
    (keyspaceFragments b s c).flatMap Fragment.tokens = keyspaceTokens b s c := by
  cases s with
  | none =>
      cases c with
      | none => simp [keyspaceFragments, keyspaceTokens, tokens_nameFragment]
      | some collection =>
          simp [keyspaceFragments, keyspaceTokens, tokens_nameFragment, dot, dotDefault,
            Fragment.fixed]
  | some scope =>
      cases c with
      | none =>
          simp [keyspaceFragments, keyspaceTokens, tokens_nameFragment, dot, dotDefault,
            Fragment.fixed]
      | some collection =>
          simp [keyspaceFragments, keyspaceTokens, tokens_nameFragment, dot, Fragment.fixed]

theorem tokens_buildKeyspace (b : String) (s c : Option String) :
    Lexing.tokens (buildKeyspace b s c).toList = some (keyspaceTokens b s c) := by
  rw [← text_keyspaceFragments, (Fragment.tokens_flatMap _).2, tokens_keyspaceFragments]

/-- Names with commas between them. -/
def namesFragments (names : List String) : List Fragment :=
  [comma].intercalate (names.map fun name => [nameFragment name])

theorem text_namesFragments (names : List String) :
    (namesFragments names).flatMap Fragment.text =
      (",".intercalate (names.map encodeIdentifier)).toList := by
  induction names with
  | nil => rfl
  | cons name names ih =>
      cases names with
      | nil =>
          show (nameFragment name).text ++ [] = (encodeIdentifier name).toList
          rw [text_nameFragment, List.append_nil]
      | cons next names =>
          rw [List.map_cons, List.map_cons, String.intercalate_cons_cons, ← List.map_cons,
            String.toList_append, String.toList_append, ← ih, ← text_nameFragment]
          unfold namesFragments
          rw [List.map_cons, List.map_cons, List.intercalate_cons_cons, List.flatMap_append,
            List.flatMap_append]
          simp [comma, Fragment.fixed]

theorem tokens_namesFragments (names : List String) :
    (namesFragments names).flatMap Fragment.tokens = namesTokens names := by
  unfold namesFragments namesTokens separated
  induction names with
  | nil => rfl
  | cons name names ih =>
      cases names with
      | nil => simp [tokens_nameFragment]
      | cons next names =>
          rw [List.map_cons] at ih ⊢
          rw [List.map_cons, List.map_cons, List.map_cons, List.intercalate_cons_cons,
            List.intercalate_cons_cons, List.flatMap_append, List.flatMap_append]
          rw [List.map_cons] at ih
          rw [ih]
          simp [tokens_nameFragment, comma, Fragment.fixed]

/-!
# The options of an index
-/

/-- A member as it can be in such an object. -/
def IsOption (member : String × JsonValue) : Prop :=
  (member.1 = "defer_build" ∨ member.1 = "num_replica") ∧
    ((exists b, member.2 = .bool b) ∨ exists n, member.2 = .ofNat n)

theorem tokens_ofNat (n : Nat) :
    Lexing.tokens (Nat.toDigits 10 n) = some [word (String.ofList (Nat.toDigits 10 n))] := by
  have hword : (Nat.toDigits 10 n).all Lexing.isWordChar = true := by
    rw [List.all_eq_true]
    intro c hc
    simp [Lexing.isWordChar, Char.isAlphanum, JsonValue.isDigit_of_mem_toDigits hc]
  cases hdigits : Nat.toDigits 10 n with
  | nil => exact absurd hdigits Nat.toDigits_ne_nil
  | cons c digits =>
      rw [hdigits] at hword
      exact Lexing.tokens_word hword

theorem exists_valueFragment {value : JsonValue}
    (h : (exists b, value = .bool b) ∨ exists n, value = .ofNat n) :
    exists p : Fragment, (forall tail, ':' :: value.write tail = p.text ++ tail) ∧
      p.tokens = mark ':' :: valueTokens value := by
  rcases h with ⟨b, rfl⟩ | ⟨n, rfl⟩
  · cases b with
    | true =>
        exact ⟨.fixed _ _ breaksAndReads_texts.2.2.1, fun tail => rfl, rfl⟩
    | false =>
        exact ⟨.fixed _ _ breaksAndReads_texts.2.2.2.1, fun tail => rfl, rfl⟩
  · have hreads : Lexing.tokens (':' :: Nat.toDigits 10 n) =
        some (mark ':' :: valueTokens (.ofNat n)) := by
      rw [Lexing.tokens_mark (by decide), tokens_ofNat]
      rfl
    refine ⟨⟨':' :: Nat.toDigits 10 n, _, Lexing.Breaks.cons (by decide) _, hreads⟩, ?_, rfl⟩
    intro tail
    show ':' :: (JsonValue.ofNat n).write tail = ':' :: (Nat.toDigits 10 n ++ tail)
    rw [JsonValue.ofNat, JsonValue.write]
    rfl

/-- The character is the same between double quotes for the writer and the lexer. -/
def isPlain (c : Char) : Bool :=
  (JsonValue.escapes.lookup c).isNone && decide (¬ c.toNat < 0x20) &&
    decide (¬ (c = '"' ∨ c = '\\'))

theorem writeChar_plain {c : Char} (h : isPlain c = true) (tail : List Char) :
    JsonValue.writeChar c tail = c :: tail := by
  rw [isPlain, Bool.and_eq_true, Bool.and_eq_true, decide_eq_true_eq, Option.isNone_iff_eq_none]
    at h
  rw [JsonValue.writeChar, h.1.1]
  exact if_neg h.1.2

theorem foldr_writeChar_plain {text : List Char} (h : text.all isPlain = true)
    (tail : List Char) : text.foldr JsonValue.writeChar tail = text ++ tail := by
  induction text with
  | nil => rfl
  | cons c text ih =>
      rw [List.all_cons, Bool.and_eq_true] at h
      rw [List.foldr_cons, ih h.2, writeChar_plain h.1]
      rfl

theorem escape_plain {text : List Char} (h : text.all isPlain = true) :
    Lexing.escape '"' text = text := by
  induction text with
  | nil => rfl
  | cons c text ih =>
      rw [List.all_cons, Bool.and_eq_true, isPlain, Bool.and_eq_true, decide_eq_true_eq] at h
      unfold Lexing.escape at ih ⊢
      rw [List.flatMap_cons, ih h.2, if_neg h.1.2]
      rfl

theorem exists_keyFragment {key : String} (h : key = "defer_build" ∨ key = "num_replica") :
    exists p : Fragment, (forall tail, JsonValue.writeString key tail = p.text ++ tail) ∧
      p.tokens = [.quoted '"' key] := by
  have hboth : "defer_build".toList.all isPlain = true ∧
      "num_replica".toList.all isPlain = true := by
    decide +kernel
  have hplain : key.toList.all isPlain = true := by
    rcases h with rfl | rfl
    · exact hboth.1
    · exact hboth.2
  have htokens : (Fragment.quoted '"' isQuote_doubleQuote key.toList).tokens =
      [.quoted '"' key] := by
    show [Token.quoted '"' (String.ofList key.toList)] = [Token.quoted '"' key]
    rw [String.ofList_toList]
  refine ⟨Fragment.quoted '"' isQuote_doubleQuote key.toList, ?_, htokens⟩
  intro tail
  show '"' :: key.toList.foldr JsonValue.writeChar ('"' :: tail) =
    '"' :: Lexing.escape '"' key.toList ++ ['"'] ++ tail
  rw [foldr_writeChar_plain hplain, escape_plain hplain]
  simp

theorem breaksAndReads_close :
    Fragment.breaksAndReads ['\x7d'] [mark '\x7d'] = true := by decide

def close : Fragment := .fixed ['\x7d'] [mark '\x7d'] breaksAndReads_close

/-- The members behind the first one have a comma before them. -/
def moreTokens (members : List (String × JsonValue)) : List Token :=
  members.flatMap fun member => mark ',' :: memberTokens member

theorem exists_memberFragments {member : String × JsonValue} (h : IsOption member) :
    exists pieces : List Fragment,
      (forall tail, JsonValue.writeString member.1 (':' :: member.2.write tail) =
        pieces.flatMap Fragment.text ++ tail) ∧
      pieces.flatMap Fragment.tokens = memberTokens member := by
  rcases exists_keyFragment h.1 with ⟨key, hkey, hkeyTokens⟩
  rcases exists_valueFragment h.2 with ⟨value, hvalue, hvalueTokens⟩
  refine ⟨[key, value], ?_, ?_⟩
  · intro tail
    rw [hvalue, hkey]
    simp
  · simp [hkeyTokens, hvalueTokens, memberTokens]

theorem exists_moreFragments {members : List (String × JsonValue)}
    (h : forall m, m ∈ members -> IsOption m) :
    exists pieces : List Fragment,
      JsonValue.writeMembers false members [] = pieces.flatMap Fragment.text ∧
        pieces.flatMap Fragment.tokens = moreTokens members ++ [mark '\x7d'] := by
  induction members with
  | nil => exact ⟨[close], rfl, rfl⟩
  | cons member members ih =>
      rcases ih fun m hm => h m (List.mem_cons_of_mem member hm) with ⟨rest, hrest, hmore⟩
      rcases exists_memberFragments (h member List.mem_cons_self) with ⟨front, hfront, htokens⟩
      refine ⟨comma :: front ++ rest, ?_, ?_⟩
      · rw [JsonValue.writeMembers, hfront, hrest]
        simp [comma, Fragment.fixed]
      · rw [List.flatMap_append, List.flatMap_cons, hmore, htokens]
        simp [comma, Fragment.fixed, moreTokens]

theorem separated_cons (first : List Token) (members : List (String × JsonValue)) :
    separated (first :: members.map memberTokens) = first ++ moreTokens members := by
  unfold separated moreTokens
  induction members generalizing first with
  | nil => simp
  | cons member members ih =>
      rw [List.map_cons, List.intercalate_cons_cons, ih, List.flatMap_cons]
      simp

theorem exists_objectFragments {members : List (String × JsonValue)}
    (h : forall m, m ∈ members -> IsOption m) :
    exists pieces : List Fragment,
      JsonValue.writeMembers true members [] = pieces.flatMap Fragment.text ∧
        pieces.flatMap Fragment.tokens =
          separated (members.map memberTokens) ++ [mark '\x7d'] := by
  cases members with
  | nil => exact ⟨[close], rfl, rfl⟩
  | cons member members =>
      rcases exists_moreFragments fun m hm => h m (List.mem_cons_of_mem member hm) with
        ⟨rest, hrest, hmore⟩
      rcases exists_memberFragments (h member List.mem_cons_self) with ⟨front, hfront, htokens⟩
      refine ⟨front ++ rest, ?_, ?_⟩
      · rw [JsonValue.writeMembers, hfront, hrest, List.flatMap_append]
      · rw [List.flatMap_append, hmore, htokens, List.map_cons, separated_cons]
        simp

theorem isOption_withOf {deferred : Option Bool} {numReplicas : Option UInt32}
    {member : String × JsonValue} (order : MapOrder)
    (h : member ∈ order.pairs (withOf deferred numReplicas)) : IsOption member := by
  rcases member with ⟨key, value⟩
  rw [order.mem_pairs] at h
  unfold withOf insertSome at h
  have hdeferred : ((deferred.map JsonValue.bool).elim (∅ : FiniteMap String JsonValue)
      fun v => AList.insert "defer_build" v ∅).lookup key = some value -> IsOption (key, value) := by
    intro h
    cases deferred with
    | none => cases h
    | some b =>
        rcases FiniteMap.lookup_insert_some h with ⟨hkey, hvalue⟩ | ⟨_, hempty⟩
        · exact ⟨Or.inl hkey, Or.inl ⟨b, hvalue⟩⟩
        · cases hempty
  cases numReplicas with
  | none => exact hdeferred h
  | some n =>
      rcases FiniteMap.lookup_insert_some h with ⟨hkey, hvalue⟩ | ⟨_, hrest⟩
      · exact ⟨Or.inr hkey, Or.inr ⟨n.toNat, hvalue⟩⟩
      · exact hdeferred hrest

theorem breaksAndReads_with :
    Fragment.breaksAndReads " WITH \x7b".toList [word "WITH", mark '\x7b'] = true :=
  breaksAndReads_texts.2.2.2.2.1

theorem exists_withFragments (order : MapOrder) (deferred : Option Bool)
    (numReplicas : Option UInt32) :
    exists pieces : List Fragment,
      (withClause order (withOf deferred numReplicas)).toList = pieces.flatMap Fragment.text ∧
        pieces.flatMap Fragment.tokens = withTokens order (withOf deferred numReplicas) := by
  unfold withTokens
  cases hempty : (withOf deferred numReplicas).keys.isEmpty with
  | true =>
      refine ⟨[], ?_, rfl⟩
      show (if (withOf deferred numReplicas).keys.isEmpty then ""
        else " WITH " ++ encodeValue order (withOf deferred numReplicas)).toList = []
      rw [hempty]
      rfl
  | false =>
      have hmembers : forall m, m ∈ order.pairs (withOf deferred numReplicas) -> IsOption m :=
        fun m hm => isOption_withOf order hm
      rcases exists_objectFragments hmembers with ⟨pieces, htext, htokens⟩
      refine ⟨.fixed _ _ breaksAndReads_with :: pieces, ?_, ?_⟩
      · show (if (withOf deferred numReplicas).keys.isEmpty then ""
          else " WITH " ++ encodeValue order (withOf deferred numReplicas)).toList =
            " WITH \x7b".toList ++ pieces.flatMap Fragment.text
        rw [hempty, ← htext, encodeValue, JsonValue.write]
        simp
      · rw [List.flatMap_cons, htokens]
        rfl

/-!
# Whole statements
-/

theorem keywords_read :
    Lexing.tokens "CREATE INDEX".toList = some (keywords ["CREATE", "INDEX"]) ∧
      Lexing.tokens "CREATE PRIMARY INDEX".toList =
        some (keywords ["CREATE", "PRIMARY", "INDEX"]) ∧
      Lexing.tokens "DROP INDEX ".toList = some (keywords ["DROP", "INDEX"]) ∧
      Lexing.tokens "DROP PRIMARY INDEX ON ".toList =
        some (keywords ["DROP", "PRIMARY", "INDEX", "ON"]) ∧
      Lexing.tokens "BUILD INDEX ON ".toList = some (keywords ["BUILD", "INDEX", "ON"]) := by
  decide +kernel

theorem keywords_create :
    Lexing.tokens "CREATE INDEX".toList = some (keywords ["CREATE", "INDEX"]) :=
  keywords_read.1

theorem keywords_createPrimary :
    Lexing.tokens "CREATE PRIMARY INDEX".toList =
      some (keywords ["CREATE", "PRIMARY", "INDEX"]) :=
  keywords_read.2.1

theorem keywords_drop : Lexing.tokens "DROP INDEX ".toList = some (keywords ["DROP", "INDEX"]) :=
  keywords_read.2.2.1

theorem keywords_dropPrimary :
    Lexing.tokens "DROP PRIMARY INDEX ON ".toList =
      some (keywords ["DROP", "PRIMARY", "INDEX", "ON"]) :=
  keywords_read.2.2.2.1

theorem keywords_build :
    Lexing.tokens "BUILD INDEX ON ".toList = some (keywords ["BUILD", "INDEX", "ON"]) :=
  keywords_read.2.2.2.2

theorem tokens_createPrimaryIndex (order : MapOrder) (opts : CreatePrimaryIndexOptions) :
    Lexing.tokens (opts.statement order).toList =
      some ((Statement.createPrimaryIndex opts).tokens order) := by
  rcases exists_withFragments order opts.deferred opts.numReplicas with ⟨rest, htext, htokens⟩
  have hstatement : (opts.statement order).toList = "CREATE PRIMARY INDEX".toList ++
      ((opts.indexName.toList.flatMap fun name => [blank, nameFragment name]) ++ [on] ++
        keyspaceFragments opts.bucketName opts.scopeName opts.collectionName ++
          rest).flatMap Fragment.text := by
    show ("CREATE PRIMARY INDEX" ++
      (opts.indexName.elim "" fun indexName => " " ++ encodeIdentifier indexName) ++
      (" ON " ++ buildKeyspace opts.bucketName opts.scopeName opts.collectionName) ++
      withClause order (withOf opts.deferred opts.numReplicas)).toList = _
    rw [String.toList_append, String.toList_append, String.toList_append, htext,
      List.flatMap_append, List.flatMap_append, List.flatMap_append, text_keyspaceFragments]
    cases opts.indexName with
    | none => simp [on, Fragment.fixed]
    | some name => simp [on, blank, Fragment.fixed, text_nameFragment]
  rw [hstatement, Fragment.tokens_append_flatMap keywords_createPrimary, List.flatMap_append,
    List.flatMap_append, List.flatMap_append, tokens_keyspaceFragments, htokens]
  unfold Statement.tokens
  cases hname : opts.indexName with
  | none => simp [hname, on, Fragment.fixed]
  | some name => simp [hname, on, blank, Fragment.fixed, tokens_nameFragment]

theorem breaksAndReads_openFields :
    Fragment.breaksAndReads " ( ".toList [mark '('] = true :=
  breaksAndReads_texts.2.2.2.2.2

theorem breaksAndReads_open : Fragment.breaksAndReads ['('] [mark '('] = true := by decide

theorem breaksAndReads_shut : Fragment.breaksAndReads [')'] [mark ')'] = true := by decide

def openFields : Fragment := .fixed " ( ".toList [mark '('] breaksAndReads_openFields
def openNames : Fragment := .fixed ['('] [mark '('] breaksAndReads_open
def shutNames : Fragment := .fixed [')'] [mark ')'] breaksAndReads_shut

theorem tokens_createIndex (order : MapOrder) (opts : CreateIndexOptions) :
    Lexing.tokens (opts.statement order).toList =
      some ((Statement.createIndex opts).tokens order) := by
  rcases exists_withFragments order opts.deferred opts.numReplicas with ⟨rest, htext, htokens⟩
  have hstatement : (opts.statement order).toList = "CREATE INDEX".toList ++
      ([blank, nameFragment opts.indexName, on] ++
        keyspaceFragments opts.bucketName opts.scopeName opts.collectionName ++ [openFields] ++
          namesFragments opts.fields ++ [shutNames] ++ rest).flatMap Fragment.text := by
    show ("CREATE INDEX" ++ (" " ++ encodeIdentifier opts.indexName) ++
      (" ON " ++ buildKeyspace opts.bucketName opts.scopeName opts.collectionName) ++
      (" ( " ++ ",".intercalate (opts.fields.map encodeIdentifier) ++ ")") ++
      withClause order (withOf opts.deferred opts.numReplicas)).toList = _
    rw [String.toList_append, String.toList_append, String.toList_append, String.toList_append,
      String.toList_append, String.toList_append, String.toList_append, String.toList_append,
      htext]
    simp only [List.flatMap_append, text_keyspaceFragments, text_namesFragments]
    simp [blank, on, openFields, shutNames, Fragment.fixed, text_nameFragment]
  rw [hstatement, Fragment.tokens_append_flatMap keywords_create]
  simp only [List.flatMap_append, tokens_keyspaceFragments, tokens_namesFragments, htokens]
  unfold Statement.tokens
  simp [blank, on, openFields, shutNames, Fragment.fixed, tokens_nameFragment]

theorem tokens_dropStatement (b : String) (s c : Option String) (name : String) :
    Lexing.tokens (dropStatement b s c name).toList = some (dropTokens b s c name) := by
  unfold dropTokens
  cases hplaced : s.isSome || c.isSome with
  | true =>
      have hstatement : (dropStatement b s c name).toList = "DROP INDEX ".toList ++
          ([nameFragment name, on] ++ keyspaceFragments b s c).flatMap Fragment.text := by
        show (if s.isSome || c.isSome then
          "DROP INDEX " ++ encodeIdentifier name ++ (" ON " ++ buildKeyspace b s c)
          else "DROP INDEX " ++ buildKeyspace b s c ++ "." ++ encodeIdentifier name).toList = _
        rw [hplaced, List.flatMap_append, text_keyspaceFragments]
        simp [on, Fragment.fixed, text_nameFragment]
      rw [hstatement, Fragment.tokens_append_flatMap keywords_drop, List.flatMap_append,
        tokens_keyspaceFragments]
      simp [on, Fragment.fixed, tokens_nameFragment]
  | false =>
      have hstatement : (dropStatement b s c name).toList = "DROP INDEX ".toList ++
          (keyspaceFragments b s c ++ [dot, nameFragment name]).flatMap Fragment.text := by
        show (if s.isSome || c.isSome then
          "DROP INDEX " ++ encodeIdentifier name ++ (" ON " ++ buildKeyspace b s c)
          else "DROP INDEX " ++ buildKeyspace b s c ++ "." ++ encodeIdentifier name).toList = _
        rw [hplaced, List.flatMap_append, text_keyspaceFragments]
        simp [dot, Fragment.fixed, text_nameFragment]
      rw [hstatement, Fragment.tokens_append_flatMap keywords_drop, List.flatMap_append,
        tokens_keyspaceFragments]
      simp [dot, Fragment.fixed, tokens_nameFragment]

theorem tokens_dropPrimaryIndex (order : MapOrder) (opts : DropPrimaryIndexOptions) :
    Lexing.tokens opts.statement.toList =
      some ((Statement.dropPrimaryIndex opts).tokens order) := by
  unfold Statement.tokens
  rcases opts with ⟨b, s, c, indexName, ignore⟩
  cases indexName with
  | some name => exact tokens_dropStatement b s c name
  | none =>
      show Lexing.tokens ("DROP PRIMARY INDEX ON " ++ buildKeyspace b s c).toList =
        some (keywords ["DROP", "PRIMARY", "INDEX", "ON"] ++ keyspaceTokens b s c)
      rw [String.toList_append, ← text_keyspaceFragments,
        Fragment.tokens_append_flatMap keywords_dropPrimary, tokens_keyspaceFragments]

theorem Statement.tokens_text (order : MapOrder) (s : Statement) :
    Lexing.tokens (s.text order).toList = some (s.tokens order) := by
  cases s with
  | createPrimaryIndex opts => exact tokens_createPrimaryIndex order opts
  | createIndex opts => exact tokens_createIndex order opts
  | dropPrimaryIndex opts => exact tokens_dropPrimaryIndex order opts
  | dropIndex opts =>
      exact tokens_dropStatement opts.bucketName opts.scopeName opts.collectionName opts.indexName

/-!
# Building deferred indexes
-/

/-- The bucket, the scope and the collection that an index is on. -/
abbrev Place := String × String × String

/-- The deferred indexes on the collection, in the order in which they are returned. -/
def deferredAt (place : Place) (indexes : List Index) : List String :=
  ((indexes.filter fun index => index.state == "deferred").filter fun index =>
    indexToNamespaceParts index = place).map Index.name

/-- Each collection with deferred indexes is there once, with all of them. -/
structure Groups (indexes : List Index) (groups : List (Place × List String)) : Prop where
  nodup : (groups.map Prod.fst).Nodup
  exact : forall place names,
    (place, names) ∈ groups <-> names ≠ [] ∧ names = deferredAt place indexes

def buildTokens (g : Place × List String) : List Token :=
  keywords ["BUILD", "INDEX", "ON"] ++ keyspaceTokens g.1.1 (some g.1.2.1) (some g.1.2.2) ++
    [mark '('] ++ namesTokens g.2 ++ [mark ')']

theorem tokens_buildStatement (place : Place) (indexes : List DeferredIndexName) :
    Lexing.tokens
        (buildStatement (buildKeyspace place.1 (some place.2.1) (some place.2.2)) indexes).toList =
      some (buildTokens (place, indexes.map DeferredIndexName.indexName)) := by
  have hstatement :
      (buildStatement (buildKeyspace place.1 (some place.2.1) (some place.2.2)) indexes).toList =
        "BUILD INDEX ON ".toList ++
          (keyspaceFragments place.1 (some place.2.1) (some place.2.2) ++ [openNames] ++
            namesFragments (indexes.map DeferredIndexName.indexName) ++
              [shutNames]).flatMap Fragment.text := by
    simp only [List.flatMap_append, text_keyspaceFragments, text_namesFragments, List.map_map]
    show ("BUILD INDEX ON " ++ buildKeyspace place.1 (some place.2.1) (some place.2.2) ++ "(" ++
      ",".intercalate (indexes.map fun index => encodeIdentifier index.indexName) ++
        ")").toList = _
    rw [String.toList_append, String.toList_append, String.toList_append, String.toList_append]
    simp [openNames, shutNames, Fragment.fixed, Function.comp_def]
  rw [hstatement, Fragment.tokens_append_flatMap keywords_build]
  simp only [List.flatMap_append, tokens_keyspaceFragments, tokens_namesFragments]
  simp [buildTokens, openNames, shutNames, Fragment.fixed]

theorem buildKeyspace_inj {place place' : Place}
    (h : buildKeyspace place.1 (some place.2.1) (some place.2.2) =
      buildKeyspace place'.1 (some place'.2.1) (some place'.2.2)) : place = place' := by
  have htokens := tokens_buildKeyspace place.1 (some place.2.1) (some place.2.2)
  rw [h, tokens_buildKeyspace] at htokens
  rcases place with ⟨b, s, c⟩
  rcases place' with ⟨b', s', c'⟩
  simp only [keyspaceTokens, identifier, Option.some.injEq, List.cons.injEq,
    Token.quoted.injEq] at htokens
  simp [htokens.1.2, htokens.2.2.1.2, htokens.2.2.2.2.1.2]

def Place.keyspace (place : Place) : String :=
  buildKeyspace place.1 (some place.2.1) (some place.2.2)

def DeferredIndexName.place (d : DeferredIndexName) : Place :=
  (d.bucketName, d.scopeName, d.collectionName)

theorem map_valuesAt (place : Place) (indexes : List Index) :
    (FiniteMap.valuesAt place.keyspace (deferredItems indexes)).map DeferredIndexName.indexName =
      deferredAt place indexes := by
  unfold FiniteMap.valuesAt deferredItems deferredAt
  rw [List.filter_map, List.map_map, List.map_map]
  have hplace : forall index : Index,
      (deferredName index).keyspace = place.keyspace <-> indexToNamespaceParts index = place :=
    fun index => ⟨fun h => buildKeyspace_inj h, fun h => h ▸ rfl⟩
  simp only [Function.comp_def, hplace]
  rfl

/-- The collection of the first name, which is that of all of them. -/
def groupOf (p : String × List DeferredIndexName) : Place × List String :=
  ((p.2.head?.map DeferredIndexName.place).getD ("", "", ""),
    p.2.map DeferredIndexName.indexName)

theorem keyspace_of_mem_group {indexes : List Index} {p : String × List DeferredIndexName}
    (order : MapOrder) (h : p ∈ order.pairs (FiniteMap.group (deferredItems indexes))) :
    p.2 ≠ [] ∧ p.2 = FiniteMap.valuesAt p.1 (deferredItems indexes) ∧
      p.1 = (groupOf p).1.keyspace := by
  have hvalues := (FiniteMap.lookup_group _ _ _).mp ((order.mem_pairs _).mp h)
  refine ⟨hvalues.1, hvalues.2, ?_⟩
  cases hnames : p.2 with
  | nil => exact absurd hnames hvalues.1
  | cons d rest =>
      have hmem : d ∈ FiniteMap.valuesAt p.1 (deferredItems indexes) := by
        rw [← hvalues.2, hnames]
        exact List.mem_cons_self
      rcases List.mem_map.mp hmem with ⟨⟨k, v⟩, hfilter, rfl⟩
      rcases List.mem_filter.mp hfilter with ⟨hitem, hk⟩
      rcases List.mem_map.mp hitem with ⟨index, _, heq⟩
      rcases Prod.mk.inj heq with ⟨hkeyspace, hname⟩
      rw [← of_decide_eq_true hk, ← hkeyspace, hname, groupOf, hnames]
      rfl

theorem groups_of_pairs (order : MapOrder) (indexes : List Index) :
    Groups indexes ((order.pairs (FiniteMap.group (deferredItems indexes))).map groupOf) := by
  constructor
  · have hkeys : ((order.pairs (FiniteMap.group (deferredItems indexes))).map groupOf).map
        (fun g => g.1.keyspace) =
          (order.pairs (FiniteMap.group (deferredItems indexes))).map Prod.fst := by
      rw [List.map_map]
      apply List.map_congr_left
      intro p hp
      exact (keyspace_of_mem_group order hp).2.2.symm
    apply List.Nodup.of_map Place.keyspace
    rw [List.map_map]
    exact hkeys ▸ order.nodup_keys _
  · intro place names
    constructor
    · intro h
      rcases List.mem_map.mp h with ⟨p, hp, hgroup⟩
      rcases keyspace_of_mem_group order hp with ⟨hne, hvalues, hkeyspace⟩
      rw [hgroup] at hkeyspace
      have hnames : names = p.2.map DeferredIndexName.indexName :=
        (congrArg Prod.snd hgroup).symm
      rw [hkeyspace] at hvalues
      rw [← map_valuesAt, ← hvalues, hnames]
      exact ⟨fun hnil => hne (List.map_eq_nil_iff.mp hnil), rfl⟩
    · intro ⟨hne, hnames⟩
      rw [← map_valuesAt] at hnames
      have hvalues : FiniteMap.valuesAt place.keyspace (deferredItems indexes) ≠ [] := by
        intro hnil
        rw [hnil] at hnames
        exact hne hnames
      have hp : (place.keyspace, FiniteMap.valuesAt place.keyspace (deferredItems indexes)) ∈
          order.pairs (FiniteMap.group (deferredItems indexes)) :=
        (order.mem_pairs _).mpr ((FiniteMap.lookup_group _ _ _).mpr ⟨hvalues, rfl⟩)
      have hplace := buildKeyspace_inj (keyspace_of_mem_group order hp).2.2
      apply List.mem_map.mpr
      refine ⟨_, hp, ?_⟩
      rw [hnames]
      exact Prod.ext hplace.symm rfl

/-- Statements are sent one after the other up to the first error that counts. -/
theorem buildAll_sent (query : List String -> Query) (sent : List String)
    (pairs : List (String × List DeferredIndexName)) :
    exists front, front <+: pairs ∧
      (buildAll query sent pairs).1 =
        sent ++ front.map (fun p => buildStatement p.1 p.2) ∧
      ((buildAll query sent pairs).2 = .ok () -> front = pairs) ∧
      forall e, (buildAll query sent pairs).2 = .error e ->
        e.isBuildAlreadyInProgress = false ∧
          exists before s, (buildAll query sent pairs).1 = before ++ [s] ∧
            query before s = .error e := by
  induction pairs generalizing sent with
  | nil =>
      refine ⟨[], List.prefix_rfl, (List.append_nil sent).symm, fun _ => rfl, ?_⟩
      intro e he
      cases he
  | cons p pairs ih =>
      rcases p with ⟨keyspace, indexes⟩
      have hnext : (buildAll query sent ((keyspace, indexes) :: pairs) =
            buildAll query (sent ++ [buildStatement keyspace indexes]) pairs) ∨
          exists e, buildAll query sent ((keyspace, indexes) :: pairs) =
              (sent ++ [buildStatement keyspace indexes], .error e) ∧
            e.isBuildAlreadyInProgress = false ∧
              query sent (buildStatement keyspace indexes) = .error e := by
        rw [buildAll]
        cases hquery : query sent (buildStatement keyspace indexes) with
        | ok u => exact Or.inl rfl
        | error e =>
            cases hbuild : e.isBuildAlreadyInProgress with
            | true => exact Or.inl (if_pos hbuild)
            | false => exact Or.inr ⟨e, if_neg (Bool.eq_false_iff.mp hbuild), hbuild, rfl⟩
      rcases hnext with hnext | ⟨e, hnext, hbuild, hquery⟩
      · rcases ih (sent ++ [buildStatement keyspace indexes]) with
          ⟨front, hfront, hsent, hok, herror⟩
        rw [hnext]
        refine ⟨(keyspace, indexes) :: front, List.cons_prefix_cons.mpr ⟨rfl, hfront⟩, ?_, ?_,
          herror⟩
        · rw [hsent]
          simp
        · intro h
          rw [hok h]
      · rw [hnext]
        refine ⟨[(keyspace, indexes)], List.cons_prefix_cons.mpr ⟨rfl, List.nil_prefix⟩, rfl,
          ?_, ?_⟩
        · intro h
          cases h
        · intro e' h
          cases h
          exact ⟨hbuild, sent, _, rfl, hquery⟩

/-- Every statement is read as its keywords, its punctuation and its names, and the statements
that are sent for deferred indexes name all of them, each once, unless one of the statements
fails. -/
theorem names_quoted (order : MapOrder) :
    (forall s : Statement, Lexing.tokens (s.text order).toList = some (s.tokens order)) ∧
      forall (query : List String -> Query) (indexes : List Index),
        exists groups sent, Groups indexes groups ∧ sent <+: groups ∧
          (buildDeferredIndexes order query (.ok indexes)).1.map
              (fun s => Lexing.tokens s.toList) =
            sent.map (fun g => some (buildTokens g)) ∧
          ((buildDeferredIndexes order query (.ok indexes)).2 = .ok () -> sent = groups) ∧
          forall e, (buildDeferredIndexes order query (.ok indexes)).2 = .error e ->
            e.isBuildAlreadyInProgress = false ∧
              exists before s,
                (buildDeferredIndexes order query (.ok indexes)).1 = before ++ [s] ∧
                  query before s = .error e := by
  refine ⟨Statement.tokens_text order, ?_⟩
  intro query indexes
  rcases buildAll_sent query [] (order.pairs (FiniteMap.group (deferredItems indexes))) with
    ⟨front, hfront, hsent, hok, herror⟩
  refine ⟨_, front.map groupOf, groups_of_pairs order indexes, hfront.map groupOf, ?_, ?_,
    herror⟩
  · show (buildAll query [] _).1.map _ = _
    rw [hsent, List.nil_append, List.map_map, List.map_map]
    apply List.map_congr_left
    intro p hp
    have hkeyspace := (keyspace_of_mem_group order (hfront.subset hp)).2.2
    have hread : Lexing.tokens (buildStatement p.1 p.2).toList =
        some (buildTokens (groupOf p)) := by
      rw [hkeyspace]
      exact tokens_buildStatement (groupOf p).1 p.2
    simp only [Function.comp_apply]
    exact hread
  · intro h
    rw [hok h]

def deferredIn (bucketName name : String) : Index :=
  { name := name
    state := "deferred"
    keyspaceId := some bucketName
    scopeId := none
    bucketId := none }

def planningFailure : ErrorKind :=
  .server { kind := .planningFailure, code := 4000, msg := "planning failure" }

/-- After the error of the first statement the other one is not sent. -/
theorem not_all_built :
    ¬ forall (order : MapOrder) (query : List String -> Query) (indexes : List Index),
        exists groups, Groups indexes groups ∧
          (buildDeferredIndexes order query (.ok indexes)).1.map
              (fun s => Lexing.tokens s.toList) =
            groups.map fun g => some (buildTokens g) := by
  intro h
  rcases h .kept (fun _ _ => .error planningFailure) [deferredIn "a" "x", deferredIn "b" "y"] with
    ⟨groups, hgroups, hsent⟩
  have hlength := congrArg List.length hsent
  rw [List.length_map, List.length_map] at hlength
  have hone : (buildDeferredIndexes .kept (fun _ _ => .error planningFailure)
      (.ok [deferredIn "a" "x", deferredIn "b" "y"])).1.length = 1 := by
    decide +kernel
  rw [hone] at hlength
  rcases List.length_eq_one_iff.mp hlength.symm with ⟨g, rfl⟩
  have hfirst := (hgroups.exact ("a", "_default", "_default") ["x"]).mpr (by decide +kernel)
  have hsecond := (hgroups.exact ("b", "_default", "_default") ["y"]).mpr (by decide +kernel)
  have hsame := (List.mem_singleton.mp hfirst).trans (List.mem_singleton.mp hsecond).symm
  revert hsame
  decide

end Queryx
end CouchbaseSdk
