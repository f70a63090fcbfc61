import CouchbaseSdk.CollectionDs.Paths
import CouchbaseSdk.Kv.Projection

/-!
# Names and keys

A path that the server reads as keys is split at its dots.  The names are the keys up to the first
key that is between backticks, and there they are not.
-/

namespace CouchbaseSdk
namespace Kv

open Foundation
open CollectionDs (Component components isPlain parsePath quoted)

def plainParts (keys : List String) : List SubdocPath :=
  keys.map fun key => { path := key, isArray := false }

/-- The name that is read where a key between backticks begins. -/
structure QuotedName (name key : String) : Prop where
  backtick : name.toList.head? = some '\x60'
  chars : name.toList.all SubdocPath.isNameChar = true
  longer : key.toList.all SubdocPath.isNameChar = true -> key.toList.length < name.toList.length

theorem QuotedName.ne {name key : String} (h : QuotedName name key) : name ≠ key := by
  intro heq
  have hlonger := h.longer (by rw [← heq]; exact h.chars)
  rw [heq] at hlonger
  exact lt_irrefl _ hlonger

/-- The names of a path that are read as its keys, and the first that is not. -/
inductive Departs : List SubdocPath -> List String -> Prop where
  | here {part : SubdocPath} {key : String} (parts : List SubdocPath) (keys : List String)
      (quoted : QuotedName part.path key) : Departs (part :: parts) (key :: keys)
  | later {key : String} {parts : List SubdocPath} {keys : List String}
      (plain : '\x60' ∉ key.toList) (rest : Departs parts keys) :
      Departs ({ path := key, isArray := false } :: parts) (key :: keys)

/-- A path is read as its keys if and only if none of them is between backticks. -/
structure ReadsKeys (path : List Char) (parts : List SubdocPath) (keys : List String) : Prop where
  plain : '\x60' ∉ path -> parts = plainParts keys ∧ forall key, key ∈ keys -> '\x60' ∉ key.toList
  quoted : '\x60' ∈ path -> Departs parts keys

/-!
# One key
-/

theorem isNameChar_of_isPlain {c : Char} (h : isPlain c = true) :
    SubdocPath.isNameChar c = true := by
  simp only [isPlain, Bool.and_eq_true, bne_iff_ne] at h
  exact (SubdocPath.isNameChar_iff c).mpr ⟨h.1.1.1, h.1.1.2⟩

theorem not_isPlain_backtick : isPlain '\x60' = false := by
  decide

theorem backtick_not_mem {cs : List Char} (h : cs.all isPlain = true) : '\x60' ∉ cs := by
  intro hmem
  have hplain := List.all_eq_true.mp h _ hmem
  rw [not_isPlain_backtick] at hplain
  cases hplain

/-- Up to the backtick at its end a key takes more characters than it has. -/
theorem quoted_taken {cs key rest : List Char} (h : quoted cs = some (key, rest)) :
    exists taken, cs = taken ++ rest ∧ key.length < taken.length ∧
      (key.all SubdocPath.isNameChar = true -> taken.all SubdocPath.isNameChar = true) := by
  fun_induction quoted cs generalizing key with
  | case1 => cases h
  | case2 =>
      cases h
      exact ⟨['\x60'], rfl, Nat.zero_lt_one, fun _ => by decide⟩
  | case3 after ih =>
      rcases Option.map_eq_some_iff.mp h with ⟨⟨key', rest'⟩, hquoted, heq⟩
      cases heq
      rcases ih hquoted with ⟨taken, hcs, hlength, hchars⟩
      refine ⟨'\x60' :: '\x60' :: taken, by rw [hcs]; rfl, ?_, ?_⟩
      · simp only [List.length_cons]
        omega
      · intro hkey
        rw [List.all_cons, Bool.and_eq_true] at hkey
        rw [List.all_cons, List.all_cons, hkey.1, hchars hkey.2]
        rfl
  | case4 d after hd =>
      cases h
      exact ⟨['\x60'], rfl, Nat.zero_lt_one, fun _ => by decide⟩
  | case5 c after hc ih =>
      rcases Option.map_eq_some_iff.mp h with ⟨⟨key', rest'⟩, hquoted, heq⟩
      cases heq
      rcases ih hquoted with ⟨taken, hcs, hlength, hchars⟩
      refine ⟨c :: taken, by rw [hcs]; rfl, ?_, ?_⟩
      · simp only [List.length_cons]
        omega
      · intro hkey
        rw [List.all_cons, Bool.and_eq_true] at hkey
        rw [List.all_cons, hkey.1, hchars hkey.2]
        rfl

theorem quotedName_first {cs key rest : List Char} (h : quoted cs = some (key, rest)) :
    exists part parts, SubdocPath.partsFrom [] false ('\x60' :: cs) = part :: parts ∧
      QuotedName part.path (String.ofList key) := by
  have hsplit := List.takeWhile_append_dropWhile (p := SubdocPath.isNameChar) (l := cs)
  have hall : ('\x60' :: cs.takeWhile SubdocPath.isNameChar).all SubdocPath.isNameChar = true := by
    rw [List.all_cons, List.all_takeWhile]
    rfl
  have hend : (cs.dropWhile SubdocPath.isNameChar).head?.all
      (fun c => ! SubdocPath.isNameChar c) = true := by
    have hhead := List.head?_dropWhile_not SubdocPath.isNameChar cs
    cases hfirst : (cs.dropWhile SubdocPath.isNameChar).head? with
    | none => rfl
    | some c =>
        rw [hfirst] at hhead
        rw [Option.all_some, hhead]
        rfl
  rcases SubdocPath.partsFrom_first (List.cons_ne_nil '\x60' (cs.takeWhile SubdocPath.isNameChar))
    hall hend with ⟨flag, parts, hparts⟩
  rw [List.cons_append, hsplit] at hparts
  refine ⟨_, parts, hparts, ?_, ?_, ?_⟩
  · rw [String.toList_ofList, List.head?_cons]
  · rw [String.toList_ofList]
    exact hall
  · rw [String.toList_ofList, String.toList_ofList]
    intro hkey
    rcases quoted_taken h with ⟨taken, hcs, hlength, hchars⟩
    have htaken : taken.length ≤ (cs.takeWhile SubdocPath.isNameChar).length := by
      rw [hcs, List.takeWhile_append_of_pos (List.all_eq_true.mp (hchars hkey)),
        List.length_append]
      exact Nat.le_add_right _ _
    rw [List.length_cons]
    omega

/-!
# All keys
-/

/-- Where keys are read up to the end there is a dot or nothing. -/
theorem components_keys {n : Nat} {cs : List Char} {keys : List String}
    (h : components n cs = some (keys.map .key)) :
    (cs = [] ∧ keys = []) ∨
      exists n' cs' key rest keys', cs = '.' :: cs' ∧ CollectionDs.name cs' = some (key, rest) ∧
        components n' rest = some (keys'.map .key) ∧ keys = String.ofList key :: keys' := by
  cases cs with
  | nil =>
      have hnil : components n [] = some [] := by
        cases n with
        | zero => rfl
        | succ n => rfl
      rw [hnil, Option.some.injEq] at h
      exact Or.inl ⟨rfl, List.map_eq_nil_iff.mp h.symm⟩
  | cons c cs =>
      cases n with
      | zero => cases h
      | succ n =>
          rw [components] at h
          split at h
          · rename_i hdot
            rcases Option.bind_eq_some_iff.mp h with ⟨⟨key, rest⟩, hname, hrest⟩
            rcases Option.map_eq_some_iff.mp hrest with ⟨others, hothers, heq⟩
            rcases List.map_eq_cons_iff.mp heq.symm with ⟨first, keys', hkeys, hfirst, htail⟩
            cases hfirst
            rw [← htail] at hothers
            exact Or.inr ⟨n, cs, key, rest, keys', by rw [hdot], hname, hothers, hkeys⟩
          · split at h
            · split at h
              · cases h
              · rcases Option.bind_eq_some_iff.mp h with ⟨i, hsubscript, hrest⟩
                rcases Option.map_eq_some_iff.mp hrest with ⟨others, _, heq⟩
                rcases List.map_eq_cons_iff.mp heq.symm with ⟨first, keys', _, hfirst, _⟩
                rw [← hfirst] at hsubscript
                unfold CollectionDs.subscript at hsubscript
                split at hsubscript
                · cases hsubscript
                · split at hsubscript
                  · cases hsubscript
                  · cases hsubscript
            · cases h

/-- Reading goes on behind a key. -/
theorem readsKeys_name {n : Nat} {cs key rest : List Char} {keys : List String}
    (hname : CollectionDs.name cs = some (key, rest))
    (hcomponents : components n rest = some (keys.map .key))
    (hrest : ReadsKeys rest (SubdocPath.partsFrom [] false rest) keys) :
    ReadsKeys cs (SubdocPath.partsFrom [] false cs) (String.ofList key :: keys) := by
  unfold CollectionDs.name at hname
  cases cs with
  | nil => cases hname
  | cons c cs =>
      simp only at hname
      split at hname
      · rename_i hbacktick
        rw [hbacktick]
        rcases quotedName_first hname with ⟨part, parts, hparts, hquoted⟩
        refine ⟨fun hnot => absurd List.mem_cons_self hnot, ?_⟩
        intro _
        rw [hparts]
        exact .here parts keys hquoted
      · split at hname
        · rename_i hplain
          rw [Option.some.injEq, Prod.mk.injEq] at hname
          rcases hname with ⟨hkey, hafter⟩
          have hsplit : key ++ rest = c :: cs := by
            rw [← hkey, ← hafter]
            exact List.takeWhile_append_dropWhile
          have hall : key.all isPlain = true := by
            rw [← hkey]
            exact List.all_takeWhile
          have hne : key ≠ [] := by
            rw [← hkey, List.takeWhile_cons_of_pos hplain]
            exact List.cons_ne_nil _ _
          have hchars : key.all SubdocPath.isNameChar = true :=
            List.all_eq_true.mpr fun d hd =>
              isNameChar_of_isPlain (List.all_eq_true.mp hall d hd)
          have hparts : SubdocPath.partsFrom [] false (c :: cs) =
              { path := String.ofList key, isArray := false } ::
                SubdocPath.partsFrom [] false rest := by
            rw [← hsplit]
            rcases components_keys hcomponents with ⟨hnil, _⟩ | ⟨_, cs', _, _, _, hcons, _, _, _⟩
            · rw [hnil, List.append_nil]
              exact SubdocPath.partsFrom_last hne hchars
            · rw [hcons]
              exact SubdocPath.partsFrom_key hne hchars cs'
          have hkeyPlain : '\x60' ∉ (String.ofList key).toList := by
            rw [String.toList_ofList]
            exact backtick_not_mem hall
          rw [hparts, ← hsplit]
          constructor
          · intro hnot
            rw [List.mem_append, not_or] at hnot
            rcases hrest.plain hnot.2 with ⟨hrestParts, hkeys⟩
            rw [hrestParts]
            exact ⟨rfl, List.forall_mem_cons.mpr ⟨hkeyPlain, hkeys⟩⟩
          · intro hmem
            rw [String.toList_ofList] at hkeyPlain
            exact .later (by rw [String.toList_ofList]; exact hkeyPlain)
              (hrest.quoted ((List.mem_append.mp hmem).resolve_left hkeyPlain))
        · cases hname

theorem partsFrom_dot (cs : List Char) :
    SubdocPath.partsFrom [] false ('.' :: cs) = SubdocPath.partsFrom [] false cs := by
  rw [SubdocPath.partsFrom, if_neg Bool.false_ne_true, if_pos rfl, List.isEmpty_nil, if_pos rfl]

theorem readsKeys_dot {cs : List Char} {parts : List SubdocPath} {keys : List String}
    (h : ReadsKeys cs parts keys) : ReadsKeys ('.' :: cs) parts keys := by
  have hmem : '\x60' ∈ '.' :: cs <-> '\x60' ∈ cs := by
    rw [List.mem_cons]
    exact or_iff_right (by decide)
  constructor
  · intro hnot
    exact h.plain fun hcs => hnot (hmem.mpr hcs)
  · intro hcs
    exact h.quoted (hmem.mp hcs)

theorem readsKeys_components {keys : List String} : forall {n : Nat} {cs : List Char},
    components n cs = some (keys.map .key) ->
      ReadsKeys cs (SubdocPath.partsFrom [] false cs) keys := by
  induction keys with
  | nil =>
      intro n cs h
      rcases components_keys h with ⟨hcs, _⟩ | ⟨_, _, _, _, _, _, _, _, hkeys⟩
      · rw [hcs]
        refine ⟨fun _ => ⟨rfl, ?_⟩, fun hmem => absurd hmem List.not_mem_nil⟩
        intro key hkey
        cases hkey
      · cases hkeys
  | cons first keys ih =>
      intro n cs h
      rcases components_keys h with
        ⟨_, hkeys⟩ | ⟨n', cs', key, rest, keys', hcs, hname, hrest, hkeys⟩
      · cases hkeys
      · cases hkeys
        rw [hcs, partsFrom_dot]
        exact readsKeys_dot (readsKeys_name hname hrest (ih hrest))

/-- The names of a path that the server reads as keys. -/
theorem readsKeys_parsePath {path : String} {keys : List String} (hne : keys ≠ [])
    (h : parsePath path = some (keys.map .key)) :
    ReadsKeys path.toList (SubdocPath.pathParts path) keys := by
  unfold parsePath at h
  unfold SubdocPath.pathParts
  cases hlist : path.toList with
  | nil =>
      rw [hlist] at h
      rw [Option.some.injEq] at h
      exact absurd (List.map_eq_nil_iff.mp h.symm) hne
  | cons c cs =>
      rw [hlist] at h
      simp only at h
      split at h
      · rename_i hbracket
        rcases components_keys h with ⟨hnil, _⟩ | ⟨_, _, _, _, _, hcs, _, _, _⟩
        · cases hnil
        · rw [hbracket] at hcs
          cases hcs
      · rcases Option.bind_eq_some_iff.mp h with ⟨⟨key, rest⟩, hname, hrest⟩
        rcases Option.map_eq_some_iff.mp hrest with ⟨others, hothers, heq⟩
        rcases List.map_eq_cons_iff.mp heq.symm with ⟨first, keys', hkeys, hfirst, htail⟩
        cases hfirst
        rw [← htail] at hothers
        rw [hkeys]
        exact readsKeys_name hname hothers (readsKeys_components hothers)

end Kv
end CouchbaseSdk
