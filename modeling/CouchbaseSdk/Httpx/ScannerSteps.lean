import CouchbaseSdk.Httpx.Scanner

/-!
# Steps of the scanner

What a step of the scanner can do, said once for all step functions.
-/

namespace CouchbaseSdk
namespace Httpx

open Foundation Foundation.Json

namespace Scanner

/-- A scanner that has failed has an error. -/
def Blamed (s : Scanner) : Prop :=
  s.stepFn = .error -> s.err ≠ none

/-- What a step from `s` comes to: the scan goes on, with the open values still open; or the
innermost open value is closed; or the value ends; or there is an error, unless there has been
one before. -/
inductive Stepped (s : Scanner) : ScanState × Scanner -> Prop where
  | goesOn {state : ScanState} {s' : Scanner} (hends : state ≠ .ends) (herror : state ≠ .error)
      (hobject : state ≠ .endObject) (harray : state ≠ .endArray)
      (hstack : s.parseState ≠ [] -> s'.parseState ≠ [])
      (hstep : s' = s ∨ s'.stepFn ≠ .endTop ∧ s'.stepFn ≠ .error) : Stepped s (state, s')
  | popped {state : ScanState} {s' : Scanner} (hstate : state = .endObject ∨ state = .endArray)
      (hs : s'.parseState ≠ []) : Stepped s (state, s'.popParseState)
  | ended {s' : Scanner} (htop : s.parseState = [] ∨ s.stepFn = .endTop)
      (hblamed : Blamed s -> Blamed s') : Stepped s (.ends, s')
  | failed {s' : Scanner} (herr : s'.err ≠ none) : Stepped s (.error, s')
  | stuck (h : s.stepFn = .error) : Stepped s (.error, s)

variable {s : Scanner}

theorem setTop_stack (hs : s.parseState ≠ []) (state : ParseState) :
    (s.setTop state).parseState ≠ [] := by
  unfold setTop
  cases hstack : s.parseState with
  | nil => exact absurd hstack hs
  | cons p st =>
      rw [List.modifyHead_cons]
      exact List.cons_ne_nil _ _

theorem error_stepped (s' : Scanner) (c : UInt8) (context : String) :
    Stepped s (s'.error c context) := .failed nofun

theorem same_stepped {state : ScanState} (hends : state ≠ .ends) (herror : state ≠ .error)
    (hobject : state ≠ .endObject) (harray : state ≠ .endArray) : Stepped s (state, s) :=
  .goesOn hends herror hobject harray (fun h => h) (Or.inl rfl)

theorem continueWith_stepped (next : StepFn) (htop : next ≠ .endTop) (herror : next ≠ .error) :
    Stepped s (s.continueWith next) :=
  .goesOn nofun nofun nofun nofun (fun h => h) (Or.inr ⟨htop, herror⟩)

theorem endTop_stepped (htop : s.parseState = [] ∨ s.stepFn = .endTop) {s' : Scanner}
    (hblamed : Blamed s -> Blamed s') (c : UInt8) : Stepped s (s'.stateEndTop c) := by
  unfold stateEndTop
  split
  · exact .ended htop hblamed
  · exact .ended htop fun _ _ => nofun

/-- Behind a value; the innermost open value may have been changed before. -/
theorem endValue_stepped {s' : Scanner} (hnil : s'.parseState = [] -> s.parseState = [])
    (c : UInt8) : Stepped s (s'.stateEndValue c) := by
  unfold stateEndValue
  split
  · next hstack =>
      have hblamed : Blamed { s' with stepFn := .endTop, endTop := true } := nofun
      exact endTop_stepped (Or.inl (hnil hstack)) (fun _ => hblamed) c
  · next hstack =>
      have hs : s'.parseState ≠ [] := by
        rw [hstack]
        exact List.cons_ne_nil _ _
      split
      · exact .goesOn nofun nofun nofun nofun (fun _ => hs) (Or.inr ⟨nofun, nofun⟩)
      · split
        · split
          · exact .goesOn nofun nofun nofun nofun (fun _ => setTop_stack hs _)
              (Or.inr ⟨nofun, nofun⟩)
          · exact error_stepped _ _ _
        · split
          · exact .goesOn nofun nofun nofun nofun (fun _ => setTop_stack hs _)
              (Or.inr ⟨nofun, nofun⟩)
          · split
            · exact .popped (Or.inl rfl) hs
            · exact error_stepped _ _ _
        · split
          · exact .goesOn nofun nofun nofun nofun (fun _ => hs) (Or.inr ⟨nofun, nofun⟩)
          · split
            · exact .popped (Or.inr rfl) hs
            · exact error_stepped _ _ _

theorem beginValue_stepped (c : UInt8) : Stepped s (s.stateBeginValue c) := by
  unfold stateBeginValue pushParseState beginLiteral
  repeat' split
  all_goals first
    | exact error_stepped _ _ _
    | exact same_stepped nofun nofun nofun nofun
    | exact .goesOn nofun nofun nofun nofun (fun h => h) (Or.inr ⟨nofun, nofun⟩)
    | exact .goesOn nofun nofun nofun nofun (fun _ => List.cons_ne_nil _ _)
        (Or.inr ⟨nofun, nofun⟩)

theorem beginString_stepped (c : UInt8) : Stepped s (s.stateBeginString c) := by
  unfold stateBeginString
  split
  · exact same_stepped nofun nofun nofun nofun
  · split
    · exact .goesOn nofun nofun nofun nofun (fun h => h) (Or.inr ⟨nofun, nofun⟩)
    · exact error_stepped _ _ _

theorem literal_stepped (next : StepFn) (htop : next ≠ .endTop) (herror : next ≠ .error)
    (expected : UInt8) (context : String) (c : UInt8) :
    Stepped s (stateLiteral expected next context s c) := by
  unfold stateLiteral
  split
  · exact continueWith_stepped next htop herror
  · exact error_stepped _ _ _

theorem hexDigit_stepped (next : StepFn) (htop : next ≠ .endTop) (herror : next ≠ .error)
    (c : UInt8) : Stepped s (stateHexDigit next s c) := by
  unfold stateHexDigit
  split
  · exact continueWith_stepped next htop herror
  · exact error_stepped _ _ _

theorem state0_stepped (c : UInt8) : Stepped s (s.state0 c) := by
  unfold state0
  split
  · exact continueWith_stepped .dot nofun nofun
  · split
    · exact continueWith_stepped .e nofun nofun
    · exact endValue_stepped (fun h => h) c

theorem eSign_stepped (c : UInt8) : Stepped s (s.stateESign c) := by
  unfold stateESign
  split
  · exact continueWith_stepped .e0 nofun nofun
  · exact error_stepped _ _ _

/-- What a step can do. -/
theorem step_stepped (s : Scanner) (c : UInt8) : Stepped s (s.step c) := by
  have hskip : Stepped s (.skipSpace, s) := same_stepped nofun nofun nofun nofun
  have hcontinue : Stepped s (.continues, s) := same_stepped nofun nofun nofun nofun
  rcases s with ⟨stepFn, endTop, stack, err⟩
  cases stepFn with
  | beginValue => exact beginValue_stepped c
  | beginValueOrEmpty =>
      change Stepped _ (stateBeginValueOrEmpty _ c)
      unfold stateBeginValueOrEmpty
      split
      · exact hskip
      · split
        · exact endValue_stepped (fun h => h) c
        · exact beginValue_stepped c
  | beginStringOrEmpty =>
      change Stepped _ (stateBeginStringOrEmpty _ c)
      unfold stateBeginStringOrEmpty
      split
      · exact hskip
      · split
        · refine endValue_stepped (fun h => ?_) c
          by_contra hs
          exact setTop_stack hs _ h
        · exact beginString_stepped c
  | beginString => exact beginString_stepped c
  | endValue => exact endValue_stepped (fun h => h) c
  | endTop => exact endTop_stepped (Or.inr rfl) (fun h => h) c
  | inString =>
      change Stepped _ (stateInString _ c)
      unfold stateInString
      split
      · exact continueWith_stepped .endValue nofun nofun
      · split
        · exact continueWith_stepped .inStringEsc nofun nofun
        · split
          · exact error_stepped _ _ _
          · exact hcontinue
  | inStringEsc =>
      change Stepped _ (stateInStringEsc _ c)
      unfold stateInStringEsc
      split
      · exact continueWith_stepped .inString nofun nofun
      · split
        · exact continueWith_stepped .inStringEscU nofun nofun
        · exact error_stepped _ _ _
  | inStringEscU => exact hexDigit_stepped .inStringEscU1 nofun nofun c
  | inStringEscU1 => exact hexDigit_stepped .inStringEscU12 nofun nofun c
  | inStringEscU12 => exact hexDigit_stepped .inStringEscU123 nofun nofun c
  | inStringEscU123 => exact hexDigit_stepped .inString nofun nofun c
  | neg =>
      change Stepped _ (stateNeg _ c)
      unfold stateNeg
      split
      · exact continueWith_stepped .zero nofun nofun
      · split
        · exact continueWith_stepped .one nofun nofun
        · exact error_stepped _ _ _
  | one =>
      change Stepped _ (state1 _ c)
      unfold state1
      split
      · exact continueWith_stepped .one nofun nofun
      · exact state0_stepped c
  | zero => exact state0_stepped c
  | dot =>
      change Stepped _ (stateDot _ c)
      unfold stateDot
      split
      · exact continueWith_stepped .dot0 nofun nofun
      · exact error_stepped _ _ _
  | dot0 =>
      change Stepped _ (stateDot0 _ c)
      unfold stateDot0
      split
      · exact hcontinue
      · split
        · exact continueWith_stepped .e nofun nofun
        · exact endValue_stepped (fun h => h) c
  | e =>
      change Stepped _ (stateE _ c)
      unfold stateE
      split
      · exact continueWith_stepped .eSign nofun nofun
      · exact eSign_stepped c
  | eSign => exact eSign_stepped c
  | e0 =>
      change Stepped _ (stateE0 _ c)
      unfold stateE0
      split
      · exact hcontinue
      · exact endValue_stepped (fun h => h) c
  | t => exact literal_stepped .tr nofun nofun _ _ c
  | tr => exact literal_stepped .tru nofun nofun _ _ c
  | tru => exact literal_stepped .endValue nofun nofun _ _ c
  | f => exact literal_stepped .fa nofun nofun _ _ c
  | fa => exact literal_stepped .fal nofun nofun _ _ c
  | fal => exact literal_stepped .fals nofun nofun _ _ c
  | fals => exact literal_stepped .endValue nofun nofun _ _ c
  | n => exact literal_stepped .nu nofun nofun _ _ c
  | nu => exact literal_stepped .nul nofun nofun _ _ c
  | nul => exact literal_stepped .endValue nofun nofun _ _ c
  | error => exact .stuck rfl

end Scanner
end Httpx
end CouchbaseSdk
