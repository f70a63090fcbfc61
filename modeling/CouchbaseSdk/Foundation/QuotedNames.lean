import Mathlib.Logic.Basic

/-!
# Names between quotes

A name between quotes ends at the first quote that is not escaped, and a backslash escapes the
character after it.  A name that is written as it is reads back exactly if nothing in it is a quote
or a backslash.
-/

namespace CouchbaseSdk
namespace Foundation

section QuotedNames

variable (quote separator : Char)

/-- What is behind the first quote. -/
def readName : List Char -> Option (List Char × List Char)
  | [] => none
  | c :: cs =>
      if c = quote then some ([], cs)
      else if c = '\\' then
        match cs with
        | [] => none
        | d :: rest => (readName rest).map fun p => (d :: p.1, p.2)
      else (readName cs).map fun p => (c :: p.1, p.2)

/-- Names one after the other, as many as there is fuel for. -/
def readNames : Nat -> List Char -> Option (List (List Char))
  | 0, _ => none
  | _, [] => none
  | n + 1, c :: cs =>
      if c = quote then
        match readName quote cs with
        | none => none
        | some (name, []) => some [name]
        | some (name, d :: rest) =>
            if d = separator then (readNames n rest).map fun names => name :: names else none
      else none

def Unquoted (name : List Char) : Prop :=
  forall c, c ∈ name -> c ≠ quote ∧ c ≠ '\\'

instance decidableUnquoted (name : List Char) : Decidable (Unquoted quote name) :=
  List.decidableBAll (fun c => c ≠ quote ∧ c ≠ '\\') name

variable {quote separator}

theorem readName_unquoted {name : List Char} (h : Unquoted quote name) (rest : List Char) :
    readName quote (name ++ quote :: rest) = some (name, rest) := by
  induction name with
  | nil =>
      rw [List.nil_append, readName.eq_def]
      exact if_pos rfl
  | cons c name ih =>
      have hc := h c List.mem_cons_self
      have htail := ih fun d hd => h d (List.mem_cons_of_mem c hd)
      rw [List.cons_append, readName.eq_def]
      simp only [if_neg hc.1, if_neg hc.2, htail, Option.map_some]

theorem cons_of_map {c d : Char} {name rest : List Char} {read : Option (List Char × List Char)}
    (h : (read.map fun p => (c :: p.1, p.2)) = some (d :: name, rest)) :
    c = d ∧ read = some (name, rest) := by
  rcases Option.map_eq_some_iff.mp h with ⟨⟨name', rest'⟩, hread, heq⟩
  cases heq
  exact ⟨rfl, hread⟩

/-- How the first character of a name was read. -/
theorem readName_cons {c d : Char} {cs name rest : List Char}
    (h : readName quote (c :: cs) = some (d :: name, rest)) :
    (c ≠ quote ∧ c ≠ '\\' ∧ c = d ∧ readName quote cs = some (name, rest)) ∨
      exists cs', c = '\\' ∧ cs = d :: cs' ∧ readName quote cs' = some (name, rest) := by
  rw [readName.eq_def] at h
  by_cases hc : c = quote
  · simp [hc] at h
  · by_cases hbackslash : c = '\\'
    · cases cs with
      | nil => simp [hbackslash] at h
      | cons e cs =>
          simp only [if_neg hc, if_pos hbackslash] at h
          rcases cons_of_map h with ⟨rfl, hread⟩
          exact Or.inr ⟨cs, hbackslash, rfl, hread⟩
    · simp only [if_neg hc, if_neg hbackslash] at h
      rcases cons_of_map h with ⟨hhead, hread⟩
      exact Or.inl ⟨hc, hbackslash, hhead, hread⟩

/-- Nothing is read with more backslashes in front of it. -/
theorem not_longer (hquote : quote ≠ '\\') (rest rest' : List Char) :
    forall (name : List Char) (n : Nat),
      readName quote (name ++ quote :: rest) ≠ some (List.replicate (n + 1) '\\' ++ name, rest')
  | [], n, h => by
      rw [List.nil_append, readName.eq_def] at h
      simp [List.replicate_succ] at h
  | [c], n, h => by
      rcases readName_cons h with ⟨_, hne, hc, _⟩ | ⟨cs, _, hcs, _⟩
      · exact hne hc
      · injection hcs with hhead _
        exact hquote hhead
  | c :: d :: name, n, h => by
      rcases readName_cons h with ⟨_, hne, hc, _⟩ | ⟨cs, rfl, hcs, hread⟩
      · exact hne hc
      · injection hcs with hhead htail
        cases hhead
        have hlist : List.replicate n '\\' ++ '\\' :: '\\' :: name =
            List.replicate (n + 1 + 1) '\\' ++ name := by
          rw [List.replicate_succ', List.replicate_succ']
          simp
        apply not_longer hquote rest rest' name (n + 1)
        rw [← hlist]
        cases htail
        exact hread

theorem unquoted_of_readName (hquote : quote ≠ '\\') {name rest rest' : List Char}
    (h : readName quote (name ++ quote :: rest) = some (name, rest')) : Unquoted quote name := by
  induction name with
  | nil =>
      intro c hc
      cases hc
  | cons c name ih =>
      rcases readName_cons h with ⟨hne, hbackslash, _, hread⟩ | ⟨cs, rfl, hcs, hread⟩
      · intro d hd
        rcases List.mem_cons.mp hd with rfl | htail
        · exact ⟨hne, hbackslash⟩
        · exact ih hread d htail
      · exfalso
        cases name with
        | nil =>
            injection hcs with hhead _
            exact hquote hhead
        | cons d name =>
            injection hcs with hhead htail
            cases hhead
            rw [← htail] at hread
            exact not_longer hquote rest rest' name 0 hread

/-- Two names that are written as they are. -/
theorem readNames_pair_iff (hquote : quote ≠ '\\') (first second : List Char) (n : Nat) :
    readNames quote separator (n + 2)
        (quote :: (first ++ quote :: separator :: quote :: (second ++ [quote]))) =
      some [first, second] <-> Unquoted quote first ∧ Unquoted quote second := by
  constructor
  · intro h
    rw [readNames.eq_def] at h
    simp only [if_true] at h
    split at h
    · cases h
    · next name heq => cases h
    · next name d rest heq =>
        split at h
        · next hd =>
            rcases Option.map_eq_some_iff.mp h with ⟨names, hnames, hlist⟩
            injection hlist with hhead htail
            rw [hhead] at heq
            have hfirst := unquoted_of_readName hquote heq
            refine ⟨hfirst, ?_⟩
            rw [readName_unquoted hfirst] at heq
            cases heq
            rw [htail, readNames.eq_def] at hnames
            simp only [if_true] at hnames
            split at hnames
            · cases hnames
            · next name heq =>
                cases hnames
                exact unquoted_of_readName hquote heq
            · next name e rest heq =>
                split at hnames
                · rcases Option.map_eq_some_iff.mp hnames with ⟨names, _, hlist⟩
                  injection hlist with hhead _
                  rw [hhead] at heq
                  rw [readName_unquoted (unquoted_of_readName hquote heq)] at heq
                  cases heq
                · cases hnames
        · cases h
  · intro h
    rw [readNames.eq_def]
    simp only [if_true, readName_unquoted h.1]
    rw [readNames.eq_def]
    simp only [if_true, readName_unquoted h.2, Option.map_some]

end QuotedNames

end Foundation
end CouchbaseSdk
