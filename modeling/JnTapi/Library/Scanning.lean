/-
This file develops scanners that read a text character by character, with a look
at what follows, and that get the text in pieces.

What a scanner makes of a character may depend on the characters behind it. When
these are not there yet, it waits: the character is kept and read again when the
next piece has come. If more text never changes what the scanner has made of a
character, then it does not matter where the text is cut.
-/

import Mathlib.Data.List.Basic

namespace JnTapi.Library

/-- What a scanner makes of a character -/
inductive Verdict (State : Type*)
  /-- The scanner goes on, behind some more characters. -/
  | next (state : State) (skipped : Nat)
  /-- The text is refused. -/
  | fail (state : State)
  /-- The characters behind it have to come first. -/
  | wait (state : State)

/-- How many characters the scanner passes, unless it waits -/
def Verdict.skipped {State : Type*} : Verdict State → Option Nat
  | .next _ skipped => some skipped
  | .fail _ => some 0
  | .wait _ => none

/-- The scanner after the character -/
def Verdict.state {State : Type*} : Verdict State → State
  | .next state _ => state
  | .fail state => state
  | .wait state => state

/-- What a scanner leaves behind -/
structure Scanned (State : Type*) (α : Type*) where
  state : State
  /-- The characters that have not been read -/
  left : List α
  failed : Bool

variable {State : Type*} {α : Type*}

/-- The scanner reads the text, of which it passes some characters first. -/
def scan (look : State → α → List α → Verdict State) (state : State) :
    Nat → List α → Scanned State α
  | _, [] => ⟨state, [], false⟩
  | skipped + 1, _ :: rest => scan look state skipped rest
  | 0, char :: rest =>
    match look state char rest with
    | .next after skipped => scan look after skipped rest
    | .fail after => ⟨after, char :: rest, true⟩
    | .wait after => ⟨after, char :: rest, false⟩

/-- The scanner gets the text in pieces; it reads nothing behind a failure. -/
def scanPieces (look : State → α → List α → Verdict State) (state : State) (left : List α) :
    List (List α) → Scanned State α
  | [] => ⟨state, left, false⟩
  | piece :: pieces =>
    let scanned := scan look state 0 (left ++ piece)
    if scanned.failed then ⟨scanned.state, scanned.left ++ pieces.flatten, true⟩
    else scanPieces look scanned.state scanned.left pieces

/-- More text does not change what the scanner has made of a character. -/
structure Stable (look : State → α → List α → Verdict State) : Prop where
  next : ∀ {state after char rest skipped}, look state char rest = .next after skipped →
    skipped ≤ rest.length ∧ ∀ more, look state char (rest ++ more) = .next after skipped
  fail : ∀ {state after char rest}, look state char rest = .fail after →
    ∀ more, look state char (rest ++ more) = .fail after
  wait : ∀ {state after char rest}, look state char rest = .wait after →
    ∀ others, look after char others = look state char others

variable {look : State → α → List α → Verdict State}

theorem scan_append (stable : Stable look) (state : State) {skipped : Nat} {first : List α}
    (inside : skipped ≤ first.length) (second : List α) :
    scan look state skipped (first ++ second) =
      if (scan look state skipped first).failed then
        ⟨(scan look state skipped first).state, (scan look state skipped first).left ++ second,
          true⟩
      else
        scan look (scan look state skipped first).state 0
          ((scan look state skipped first).left ++ second) := by
  induction first generalizing state skipped with
  | nil =>
    obtain rfl := Nat.le_zero.mp inside
    simp [scan]
  | cons char rest inductionHypothesis =>
    cases skipped with
    | succ skipped => exact inductionHypothesis state (Nat.le_of_succ_le_succ inside)
    | zero =>
      cases verdict : look state char rest with
      | next after skipped =>
        obtain ⟨within, same⟩ := stable.next verdict
        simp only [List.cons_append, scan, verdict, same second]
        exact inductionHypothesis after within
      | fail after => simp [scan, verdict, stable.fail verdict second]
      | wait after => simp [scan, verdict, stable.wait verdict]

/-- What is left of a text that was not refused waits: the scanner reads nothing of it again. -/
theorem scan_left (stable : Stable look) {state : State} {skipped : Nat} {text : List α}
    (accepted : (scan look state skipped text).failed = false) :
    scan look (scan look state skipped text).state 0 (scan look state skipped text).left =
      scan look state skipped text := by
  induction text generalizing state skipped with
  | nil =>
    rw [scan]
    rfl
  | cons char rest inductionHypothesis =>
    cases skipped with
    | succ skipped => exact inductionHypothesis accepted
    | zero =>
      cases verdict : look state char rest with
      | next after skipped =>
        simp only [scan, verdict] at accepted ⊢
        exact inductionHypothesis accepted
      | fail after =>
        simp only [scan, verdict] at accepted
        cases accepted
      | wait after => simp only [scan, verdict, stable.wait verdict]

/-- A scanner leaves no more than there was. -/
theorem length_left_scan (look : State → α → List α → Verdict State) (state : State)
    (skipped : Nat) (text : List α) :
    (scan look state skipped text).left.length ≤ text.length := by
  induction text generalizing state skipped with
  | nil => exact Nat.le_refl 0
  | cons char rest inductionHypothesis =>
    cases skipped with
    | succ skipped => exact Nat.le_succ_of_le (inductionHypothesis state skipped)
    | zero =>
      rw [scan]
      cases look state char rest with
      | next after skipped => exact Nat.le_succ_of_le (inductionHypothesis after skipped)
      | fail after => exact Nat.le_refl _
      | wait after => exact Nat.le_refl _

theorem scanPieces_eq_of_left (stable : Stable look) {state : State} {left : List α}
    (waits : scan look state 0 left = ⟨state, left, false⟩) (pieces : List (List α)) :
    scanPieces look state left pieces = scan look state 0 (left ++ pieces.flatten) := by
  induction pieces generalizing state left with
  | nil => rw [scanPieces, List.flatten_nil, List.append_nil, waits]
  | cons piece pieces inductionHypothesis =>
    have whole := scan_append stable state (Nat.zero_le (left ++ piece).length) pieces.flatten
    rw [scanPieces, List.flatten_cons, ← List.append_assoc, whole]
    split
    · rfl
    · next accepted =>
      have kept := Bool.eq_false_iff.mpr accepted
      refine inductionHypothesis ((scan_left stable kept).trans ?_)
      rw [← kept]

/-- It does not matter where the text is cut. -/
theorem scanPieces_eq (stable : Stable look) (state : State) (pieces : List (List α)) :
    scanPieces look state [] pieces = scan look state 0 pieces.flatten :=
  scanPieces_eq_of_left stable rfl pieces

/-- What every character keeps, a text keeps. -/
theorem scan_invariant (invariant : State → Prop)
    (keeps : ∀ state char rest, invariant state → invariant (look state char rest).state)
    {state : State} (holds : invariant state) (skipped : Nat) (text : List α) :
    invariant (scan look state skipped text).state := by
  induction text generalizing state skipped with
  | nil =>
    rw [scan]
    exact holds
  | cons char rest inductionHypothesis =>
    cases skipped with
    | succ skipped => exact inductionHypothesis holds skipped
    | zero =>
      have kept := keeps state char rest holds
      cases verdict : look state char rest with
      | next after skipped =>
        rw [verdict] at kept
        simp only [scan, verdict]
        exact inductionHypothesis kept skipped
      | fail after | wait after =>
        rw [verdict] at kept
        simp only [scan, verdict]
        exact kept

/-! ### What a scanner reads whatever follows -/

/-- The scanner reads the text, and is in the state then. -/
def Reads (look : State → α → List α → Verdict State) (state : State) (text : List α)
    (after : State) : Prop :=
  ∀ more, scan look state 0 (text ++ more) = scan look after 0 more

theorem scan_skipped (state : State) (passed more : List α) :
    scan look state passed.length (passed ++ more) = scan look state 0 more := by
  induction passed with
  | nil => rfl
  | cons char passed inductionHypothesis => exact inductionHypothesis

namespace Reads

variable {state middle after : State}

theorem nil (state : State) : Reads look state [] state := fun _ => rfl

theorem append {first second : List α} (reads : Reads look state first middle)
    (goesOn : Reads look middle second after) : Reads look state (first ++ second) after := by
  intro more
  rw [List.append_assoc, reads, goesOn]

/-- The scanner reads a character and passes those behind it. -/
theorem passing {char : α} {passed : List α}
    (looks : ∀ more, look state char (passed ++ more) = .next after passed.length) :
    Reads look state (char :: passed) after := by
  intro more
  rw [List.cons_append, scan, looks]
  exact scan_skipped after passed more

theorem char {char : α} (looks : ∀ more, look state char more = .next after 0) :
    Reads look state [char] after :=
  @passing _ _ look _ _ char [] looks

theorem cons {char : α} {text : List α} (looks : ∀ more, look state char more = .next middle 0)
    (goesOn : Reads look middle text after) : Reads look state (char :: text) after :=
  append (.char looks) goesOn

/-- The scanner collects a word whose characters are written in a code. -/
theorem collect {place : List α → State} {code : α → List α} {text : List α}
    (each : ∀ word, ∀ char ∈ text, Reads look (place word) (code char) (place (word ++ [char])))
    (word : List α) : Reads look (place word) (text.flatMap code) (place (word ++ text)) := by
  induction text generalizing word with
  | nil =>
    rw [List.flatMap_nil, List.append_nil]
    exact nil _
  | cons char text inductionHypothesis =>
    have first := each word char List.mem_cons_self
    have others := inductionHypothesis
      (fun word char member => each word char (List.mem_cons_of_mem _ member)) (word ++ [char])
    rw [List.append_assoc, List.singleton_append] at others
    exact append first others

/-- The scanner collects a word as it is written. -/
theorem word {place : List α → State} {text : List α}
    (each : ∀ word, ∀ char ∈ text, ∀ more,
      look (place word) char more = .next (place (word ++ [char])) 0) (word : List α) :
    Reads look (place word) text (place (word ++ text)) := by
  have written : text.flatMap (fun char => [char]) = text := by simp
  have collected := collect (fun word char member => Reads.char (each word char member)) word
  rwa [written] at collected

/-- The scanner finds a word and collects it. -/
theorem wordFrom {start : State} {place : List α → State} {text : List α} (some : text ≠ [])
    (first : ∀ char ∈ text, ∀ more, look start char more = .next (place [char]) 0)
    (each : ∀ word, ∀ char ∈ text, ∀ more,
      look (place word) char more = .next (place (word ++ [char])) 0) :
    Reads look start text (place text) := by
  cases text with
  | nil => exact absurd rfl some
  | cons char text =>
    have others := Reads.word
      (fun word other member => each word other (List.mem_cons_of_mem char member)) [char]
    exact Reads.cons (first char List.mem_cons_self) others

end Reads

end JnTapi.Library
