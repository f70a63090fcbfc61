import Mathlib.Data.List.Basic

/-!
# Splitting a text into tokens

A lexer that goes through a text once.  Blanks are left out, a run of word characters is a word,
what is between two quotes is one token in which a backslash escapes the character after it, and
every other character is a token of its own.
-/

namespace CouchbaseSdk
namespace Foundation
namespace Lexing

inductive Token where
  | word (text : String)
  | quoted (quote : Char) (text : String)
  | mark (c : Char)
deriving DecidableEq

/-- Where the lexer is, with what it has read of the token it is in. -/
inductive Mode where
  | between
  | word (front : List Char)
  | quoted (quote : Char) (front : List Char)
  | escaped (quote : Char) (front : List Char)
deriving DecidableEq

def isWordChar (c : Char) : Bool :=
  c.isAlphanum || c == '_'

/-- A double quote, a single quote or a backtick. -/
def isQuote (c : Char) : Bool :=
  c == '"' || c == '\x27' || c == '\x60'

/-- The character starts a token or stands between tokens. -/
def opening (c : Char) : List Token × Mode :=
  if isWordChar c then ([], .word [c])
  else if isQuote c then ([], .quoted c [])
  else if c.isWhitespace then ([], .between)
  else ([.mark c], .between)

/-- The tokens that end with the character, and where the lexer is after it. -/
def read : Mode -> Char -> List Token × Mode
  | .between, c => opening c
  | .word front, c =>
      if isWordChar c then ([], .word (front ++ [c]))
      else (.word (String.ofList front) :: (opening c).1, (opening c).2)
  | .quoted quote front, c =>
      if c = quote then ([.quoted quote (String.ofList front)], .between)
      else if c = '\\' then ([], .escaped quote front)
      else ([], .quoted quote (front ++ [c]))
  | .escaped quote front, c => ([], .quoted quote (front ++ [c]))

def run : Mode -> List Char -> List Token × Mode
  | mode, [] => ([], mode)
  | mode, c :: rest =>
      ((read mode c).1 ++ (run (read mode c).2 rest).1, (run (read mode c).2 rest).2)

/-- A quote has to be closed. -/
def finish : List Token × Mode -> Option (List Token)
  | (tokens, .between) => some tokens
  | (tokens, .word front) => some (tokens ++ [.word (String.ofList front)])
  | (_, .quoted _ _) | (_, .escaped _ _) => none

def tokens (text : List Char) : Option (List Token) :=
  finish (run .between text)

/-!
# Texts one after the other
-/

theorem run_append (mode : Mode) (text rest : List Char) :
    run mode (text ++ rest) =
      ((run mode text).1 ++ (run (run mode text).2 rest).1, (run (run mode text).2 rest).2) := by
  induction text generalizing mode with
  | nil => rfl
  | cons c text ih =>
      rw [List.cons_append, run, run, ih]
      simp only [List.append_assoc]

/-- No word goes on with the text. -/
def Breaks (text : List Char) : Prop :=
  forall c, text.head? = some c -> isWordChar c = false

theorem Breaks.cons {c : Char} (h : isWordChar c = false) (text : List Char) :
    Breaks (c :: text) := by
  intro d hd
  cases hd
  exact h

theorem Breaks.append {text rest : List Char} (h : Breaks text) (hrest : Breaks rest) :
    Breaks (text ++ rest) := by
  cases text with
  | nil => exact hrest
  | cons c text => exact h

theorem finish_append (front : List Token) (p : List Token × Mode) :
    finish (front ++ p.1, p.2) = (finish p).map fun ts => front ++ ts := by
  rcases p with ⟨ts, mode⟩
  cases mode with
  | between => rfl
  | word r => simp [finish]
  | quoted q r => rfl
  | escaped q r => rfl

/-- A word ends where the text after it breaks. -/
theorem finish_run_word (front : List Char) {rest : List Char} (h : Breaks rest) :
    finish (run (.word front) rest) =
      (tokens rest).map fun ts => .word (String.ofList front) :: ts := by
  cases rest with
  | nil => rfl
  | cons c rest =>
      have hread : read (.word front) c =
          (.word (String.ofList front) :: (opening c).1, (opening c).2) := by
        rw [read, h c rfl]
        rfl
      rw [run, hread]
      exact finish_append [.word (String.ofList front)] (run .between (c :: rest))

/-- What is read of a text does not depend on what comes behind it. -/
theorem tokens_append {text rest : List Char} {ts : List Token} (h : tokens text = some ts)
    (hrest : Breaks rest) : tokens (text ++ rest) = (tokens rest).map fun more => ts ++ more := by
  unfold tokens at h ⊢
  rw [run_append]
  rcases hrun : run .between text with ⟨seen, mode⟩
  rw [hrun] at h
  cases mode with
  | between =>
      cases h
      exact finish_append ts (run .between rest)
  | word front =>
      cases h
      have hword := finish_append seen (run (.word front) rest)
      rw [finish_run_word front hrest, Option.map_map] at hword
      rw [hword]
      exact congrArg (fun f => (tokens rest).map f) (funext fun more => by simp)
  | quoted q front => cases h
  | escaped q front => cases h

theorem tokens_mark {c : Char} (h : opening c = ([.mark c], .between)) (rest : List Char) :
    tokens (c :: rest) = (tokens rest).map fun ts => .mark c :: ts := by
  have hread : read .between c = ([.mark c], .between) := h
  unfold tokens
  rw [run, hread]
  exact finish_append [.mark c] (run .between rest)

/-!
# Words
-/

theorem run_word (front : List Char) {text : List Char} (h : text.all isWordChar = true) :
    run (.word front) text = ([], .word (front ++ text)) := by
  induction text generalizing front with
  | nil => rw [run, List.append_nil]
  | cons c text ih =>
      rw [List.all_cons, Bool.and_eq_true] at h
      rw [run, read, if_pos h.1, ih _ h.2]
      simp

theorem tokens_word {c : Char} {text : List Char} (h : (c :: text).all isWordChar = true) :
    tokens (c :: text) = some [.word (String.ofList (c :: text))] := by
  rw [List.all_cons, Bool.and_eq_true] at h
  unfold tokens
  rw [run, read, opening, if_pos h.1, run_word _ h.2]
  rfl

/-!
# Quotes
-/

/-- The text as it stands between quotes. -/
def escape (quote : Char) (text : List Char) : List Char :=
  text.flatMap fun c => if c = quote ∨ c = '\\' then ['\\', c] else [c]

/-- Every occurrence of a character is replaced. -/
def replace (c : Char) (by' : List Char) (text : List Char) : List Char :=
  text.flatMap fun d => if d = c then by' else [d]

/-- The backslashes have to be replaced first. -/
theorem replace_replace {quote : Char} (hquote : quote ≠ '\\') (text : List Char) :
    replace quote ['\\', quote] (replace '\\' ['\\', '\\'] text) = escape quote text := by
  unfold replace escape
  rw [List.flatMap_assoc]
  apply List.flatMap_congr
  intro c _
  by_cases hbackslash : c = '\\'
  · simp [hbackslash, hquote.symm]
  · by_cases hc : c = quote
    · simp [hc, hquote]
    · simp [hc, hbackslash]

theorem run_escape {quote : Char} (hquote : quote ≠ '\\') (front text : List Char) :
    run (.quoted quote front) (escape quote text) = ([], .quoted quote (front ++ text)) := by
  induction text generalizing front with
  | nil => simp [escape, run]
  | cons c text ih =>
      have hcons : run (.quoted quote front) (if c = quote ∨ c = '\\' then ['\\', c] else [c]) =
          ([], .quoted quote (front ++ [c])) := by
        split
        · next hescaped => simp [run, read, hquote.symm]
        · next hplain =>
            rw [not_or] at hplain
            simp [run, read, hplain.1, hplain.2]
      unfold escape at ih ⊢
      rw [List.flatMap_cons, run_append, hcons, ih]
      simp

/-- What is between the quotes is read as it was before it was escaped. -/
theorem tokens_quoted {quote : Char} (hquote : isQuote quote = true) (text : List Char) :
    tokens (quote :: escape quote text ++ [quote]) =
      some [.quoted quote (String.ofList text)] := by
  have hcases : quote = '"' ∨ quote = '\x27' ∨ quote = '\x60' := by
    simpa [isQuote, or_assoc] using hquote
  have hword : isWordChar quote = false ∧ quote ≠ '\\' := by
    rcases hcases with rfl | rfl | rfl
    · decide
    · decide
    · decide
  have hopen : opening quote = ([], .quoted quote []) := by
    simp [opening, hword.1, hquote]
  unfold tokens
  rw [List.cons_append, run, read, hopen, run_append, run_escape hword.2]
  simp [run, read, finish]

/-!
# Fragments
-/

/-- A text that can stand behind any other one, with what is read of it. -/
structure Fragment where
  text : List Char
  tokens : List Token
  breaks : Breaks text
  reads : Lexing.tokens text = some tokens

namespace Fragment

def breaksAndReads (text : List Char) (ts : List Token) : Bool :=
  text.head?.all (fun c => !isWordChar c) && decide (Lexing.tokens text = some ts)

theorem breaks_of_head {text : List Char}
    (h : text.head?.all (fun c => !isWordChar c) = true) : Breaks text := by
  intro c hc
  rw [hc] at h
  simpa using h

theorem of_breaksAndReads {text : List Char} {ts : List Token}
    (h : breaksAndReads text ts = true) : Breaks text ∧ Lexing.tokens text = some ts := by
  rw [breaksAndReads, Bool.and_eq_true, decide_eq_true_eq] at h
  exact ⟨breaks_of_head h.1, h.2⟩

def fixed (text : List Char) (ts : List Token) (h : breaksAndReads text ts = true) : Fragment :=
  { text := text, tokens := ts, breaks := (of_breaksAndReads h).1
    reads := (of_breaksAndReads h).2 }

theorem breaks_quote {quote : Char} (h : isQuote quote = true) (text : List Char) :
    Breaks (quote :: text) := by
  have hcases : quote = '"' ∨ quote = '\x27' ∨ quote = '\x60' := by
    simpa [isQuote, or_assoc] using h
  apply Breaks.cons
  rcases hcases with rfl | rfl | rfl
  · decide
  · decide
  · decide

def quoted (quote : Char) (h : isQuote quote = true) (text : List Char) : Fragment :=
  { text := quote :: escape quote text ++ [quote]
    tokens := [.quoted quote (String.ofList text)]
    breaks := breaks_quote h (escape quote text ++ [quote])
    reads := tokens_quoted h text }

/-- A text that is put together from fragments is read fragment by fragment. -/
theorem tokens_flatMap (pieces : List Fragment) :
    Breaks (pieces.flatMap text) ∧
      Lexing.tokens (pieces.flatMap text) = some (pieces.flatMap Fragment.tokens) := by
  induction pieces with
  | nil =>
      refine ⟨?_, rfl⟩
      intro c hc
      cases hc
  | cons p pieces ih =>
      rw [List.flatMap_cons, List.flatMap_cons]
      refine ⟨p.breaks.append ih.1, ?_⟩
      rw [tokens_append p.reads ih.1, ih.2]
      rfl

theorem tokens_append_flatMap {front : List Char} {ts : List Token}
    (h : Lexing.tokens front = some ts) (pieces : List Fragment) :
    Lexing.tokens (front ++ pieces.flatMap text) =
      some (ts ++ pieces.flatMap Fragment.tokens) := by
  rw [tokens_append h (tokens_flatMap pieces).1, (tokens_flatMap pieces).2]
  rfl

end Fragment
end Lexing
end Foundation
end CouchbaseSdk
