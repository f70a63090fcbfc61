import CouchbaseSdk.Foundation.JsonRoundTrip

/-!
# Paths into a document

A path names a part of a document: keys with a dot between them and indices in brackets.  A key
between backticks may have any characters, and two backticks in it stand for one.  The empty path
is the whole document.
-/

namespace CouchbaseSdk
namespace CollectionDs

inductive Component where
  | key (k : String)
  | index (i : Nat)
  | last
deriving DecidableEq

/-- What may stand in a key without backticks. -/
def isPlain (c : Char) : Bool :=
  c != '.' && c != '[' && c != ']' && c != '\x60'

def quoted : List Char -> Option (List Char × List Char)
  | [] => none
  | c :: cs =>
      if c = '\x60' then
        match cs with
        | [] => some ([], [])
        | d :: rest =>
            if d = '\x60' then (quoted rest).map fun p => ('\x60' :: p.1, p.2)
            else some ([], d :: rest)
      else (quoted cs).map fun p => (c :: p.1, p.2)

def name : List Char -> Option (List Char × List Char)
  | [] => none
  | c :: cs =>
      if c = '\x60' then quoted cs
      else if isPlain c then
        some ((c :: cs).takeWhile isPlain, (c :: cs).dropWhile isPlain)
      else none

def subscript (cs : List Char) : Option Component :=
  if cs = ['-', '1'] then some .last
  else if ! cs.isEmpty && cs.all Char.isDigit then some (.index (Nat.ofDigitChars 10 cs 0))
  else none

/-- The components after the first. -/
def components : Nat -> List Char -> Option (List Component)
  | _, [] => some []
  | 0, _ => none
  | n + 1, c :: cs =>
      if c = '.' then
        (name cs).bind fun p =>
          (components n p.2).map fun rest => .key (String.ofList p.1) :: rest
      else if c = '[' then
        match cs.dropWhile fun d => d != ']' with
        | [] => none
        | _ :: after =>
            (subscript (cs.takeWhile fun d => d != ']')).bind fun i =>
              (components n after).map fun rest => i :: rest
      else none

def parsePath (path : String) : Option (List Component) :=
  match path.toList with
  | [] => some []
  | c :: cs =>
      if c = '[' then components (cs.length + 1) (c :: cs)
      else
        (name (c :: cs)).bind fun p =>
          (components cs.length p.2).map fun rest => .key (String.ofList p.1) :: rest

/-!
# Paths with one component
-/

@[simp] theorem parsePath_empty : parsePath "" = some [] := rfl

@[simp] theorem parsePath_last : parsePath "[-1]" = some [.last] := by
  decide

theorem parsePath_index (i : Nat) :
    parsePath ("[" ++ i.repr ++ "]") = some [.index i] := by
  have hdigits : forall c, c ∈ Nat.toDigits 10 i -> c.isDigit = true :=
    fun c hc => Foundation.JsonValue.isDigit_of_mem_toDigits hc
  have hopen : forall c, c ∈ Nat.toDigits 10 i -> (c != ']') = true := by
    intro c hc
    have hdigit := hdigits c hc
    rw [bne_iff_ne]
    intro heq
    rw [heq] at hdigit
    revert hdigit
    decide
  have hlist : ("[" ++ i.repr ++ "]").toList = '[' :: (Nat.toDigits 10 i ++ [']']) := by
    simp [String.toList_append, Nat.toList_repr]
  have htake : (Nat.toDigits 10 i ++ [']']).takeWhile (fun d => d != ']') = Nat.toDigits 10 i := by
    rw [List.takeWhile_append_of_pos hopen]
    simp
  have hdrop : (Nat.toDigits 10 i ++ [']']).dropWhile (fun d => d != ']') = [']'] := by
    rw [List.dropWhile_append_of_pos hopen]
    simp
  have hminus : Nat.toDigits 10 i ≠ ['-', '1'] := by
    intro heq
    have hdigit := hdigits '-' (by rw [heq]; exact List.mem_cons_self)
    revert hdigit
    decide
  have hne : Nat.toDigits 10 i ≠ [] := Nat.toDigits_ne_nil
  have hall : (Nat.toDigits 10 i).all Char.isDigit = true := List.all_eq_true.mpr hdigits
  have hsubscript : subscript (Nat.toDigits 10 i) = some (.index i) := by
    simp only [subscript, if_neg hminus, hall, Nat.ofDigitChars_ten_toDigits]
    simp [hne]
  unfold parsePath
  rw [hlist]
  simp only [if_true, components, if_neg (show ('[' : Char) ≠ '.' by decide), htake, hdrop,
    hsubscript]
  rfl

theorem parsePath_plain {k : String} (hne : k ≠ "") (hplain : k.toList.all isPlain = true) :
    parsePath k = some [.key k] := by
  have hall := List.all_eq_true.mp hplain
  unfold parsePath
  cases hlist : k.toList with
  | nil => exact absurd (String.toList_eq_nil_iff.mp hlist) hne
  | cons c cs =>
      rw [hlist] at hall
      have hc : isPlain c = true := hall c List.mem_cons_self
      have hbracket : c ≠ '[' := by
        intro heq
        rw [heq] at hc
        revert hc
        decide
      have hquote : c ≠ '\x60' := by
        intro heq
        rw [heq] at hc
        revert hc
        decide
      have htake : (c :: cs).takeWhile isPlain = c :: cs := List.takeWhile_eq_self_iff.mpr hall
      have hdrop : (c :: cs).dropWhile isPlain = [] := List.dropWhile_eq_nil_iff.mpr hall
      have hkey : String.ofList (c :: cs) = k := by
        rw [← hlist, String.ofList_toList]
      simp only [if_neg hbracket, name, if_neg hquote, if_pos hc, htake, hdrop, Option.bind_some,
        components, hkey]
      rfl

theorem length_quoted {cs key rest : List Char} (h : quoted cs = some (key, rest)) :
    key.length < cs.length := by
  fun_induction quoted cs generalizing key with
  | case1 => cases h
  | case2 =>
      cases h
      simp
  | case3 rest' ih =>
      rcases Option.map_eq_some_iff.mp h with ⟨⟨key', rest''⟩, hquoted, heq⟩
      cases heq
      have hlt := ih hquoted
      simp only [List.length_cons]
      omega
  | case4 d rest' hd =>
      cases h
      simp
  | case5 c cs hc ih =>
      rcases Option.map_eq_some_iff.mp h with ⟨⟨key', rest''⟩, hquoted, heq⟩
      cases heq
      have hlt := ih hquoted
      simp only [List.length_cons]
      omega

/-- A key is the path with that one component exactly if it has characters, and none that mean
something in a path. -/
theorem parsePath_key_iff (k : String) :
    parsePath k = some [.key k] <-> k ≠ "" ∧ k.toList.all isPlain = true := by
  constructor
  · intro h
    have hne : k ≠ "" := by
      intro hempty
      rw [hempty] at h
      cases h
    refine ⟨hne, ?_⟩
    unfold parsePath at h
    cases hlist : k.toList with
    | nil => rfl
    | cons c cs =>
        simp only [hlist] at h
        split at h
        · next hbracket =>
            exfalso
            rw [hbracket] at h
            simp only [components, if_neg (show ('[' : Char) ≠ '.' by decide), if_true] at h
            split at h
            · cases h
            · rcases Option.bind_eq_some_iff.mp h with ⟨i, hsubscript, hrest⟩
              rcases Option.map_eq_some_iff.mp hrest with ⟨rest, _, heq⟩
              cases heq
              unfold subscript at hsubscript
              split at hsubscript
              · cases hsubscript
              · split at hsubscript <;> cases hsubscript
        · rcases Option.bind_eq_some_iff.mp h with ⟨⟨key, rest⟩, hname, hrest⟩
          rcases Option.map_eq_some_iff.mp hrest with ⟨rest', _, heq⟩
          have hkey : String.ofList key = k := by
            injection heq with hhead _
            injection hhead
          have hchars : key = c :: cs := by
            rw [← hlist, ← hkey, String.toList_ofList]
          simp only [name] at hname
          split at hname
          · have hlt := length_quoted hname
            rw [hchars] at hlt
            simp only [List.length_cons] at hlt
            omega
          · split at hname
            · cases hname
              exact List.all_eq_true.mpr (List.takeWhile_eq_self_iff.mp hchars)
            · cases hname
  · intro h
    exact parsePath_plain h.1 h.2

end CollectionDs
end CouchbaseSdk
