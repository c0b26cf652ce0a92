/-
This file proves that the parser of gloox does not mind where the text of the stream is
cut into pieces, be it in a tag, in a reference or in the marks of a CDATA section.
-/

import JnTapi.Gloox.Parser

namespace JnTapi.Gloox

open Library

/-! ### What is looked at as a whole -/

theorem decode_append {rest : TString} (enough : decode rest ≠ .insufficient) (more : TString) :
    decode (rest ++ more) = decode rest := by
  unfold decode at enough ⊢
  by_cases all : (rest.takeWhile (· ≠ ';')).length = rest.length
  · exact absurd (if_pos all) enough
  · have shorter : (rest.takeWhile (· ≠ ';')).length ≤ rest.length :=
      (List.takeWhile_sublist _).length_le
    have whole : ¬ (rest.takeWhile (· ≠ ';')).length = (rest ++ more).length := by
      rw [List.length_append]
      omega
    rw [List.takeWhile_append, if_neg all, if_neg all, if_neg whole]

theorem length_of_decode {rest rep : TString} {length : Nat}
    (decoded : decode rest = .valid rep length) : length ≤ rest.length := by
  have shorter : (rest.takeWhile (· ≠ ';')).length ≤ rest.length :=
    (List.takeWhile_sublist _).length_le
  unfold decode at decoded
  dsimp only at decoded
  split_ifs at decoded with all
  split at decoded
  · cases decoded
    omega
  · cases decoded

theorem forwardScan_append {data needle : TString}
    (enough : forwardScan data needle ≠ .insufficientSize) (more : TString) :
    forwardScan (data ++ more) needle = forwardScan data needle := by
  unfold forwardScan at enough ⊢
  by_cases fits : needle.length ≤ data.length
  · have still : needle.length ≤ (data ++ more).length := by
      rw [List.length_append]
      omega
    rw [if_pos fits, if_pos still, List.take_append_of_le_length fits]
  · exact absurd (if_neg fits) enough

theorem length_of_forwardScan {data needle : TString} (found : forwardScan data needle = .found) :
    needle.length ≤ data.length := by
  unfold forwardScan at found
  split_ifs at found with fits
  exact fits

namespace Parser

/-! ### One character -/

/-- The parser when it waits -/
def kept (parser : Parser) : Parser :=
  match parser.state with
  | .tagInside => { parser with tag := [] }
  | _ => parser

/-- What the parser makes of a character is that it waits as the given one, or it stays the same
with more text. -/
def Settled (kept : Parser) (verdict : TString → Verdict Parser) (rest : TString) : Prop :=
  verdict rest = .wait kept ∨
    ∃ skipped ≤ rest.length, (verdict rest).skipped = some skipped ∧
      ∀ more, verdict (rest ++ more) = verdict rest

/-- What does not look at the text behind the character is settled. -/
theorem settled_of_same {kept : Parser} {verdict : Verdict Parser} (rest : TString)
    (goesOn : verdict.skipped = some 0) : Settled kept (fun _ => verdict) rest :=
  Or.inr ⟨0, Nat.zero_le _, goesOn, fun _ => rfl⟩

theorem settled_reference (append : TString → Parser) (parser : Parser) (rest : TString) :
    Settled parser (parser.reference append) rest := by
  unfold Settled reference
  cases decoded : decode rest with
  | valid rep length =>
    refine Or.inr ⟨length, length_of_decode decoded, rfl, fun more => ?_⟩
    rw [decode_append (by rw [decoded]; simp), decoded]
  | invalid =>
    refine Or.inr ⟨0, Nat.zero_le _, rfl, fun more => ?_⟩
    rw [decode_append (by rw [decoded]; simp), decoded]
  | insufficient => exact Or.inl rfl

theorem settled_mark {parser found : Parser} {needle : TString} {notFound : Verdict Parser}
    (rest : TString) (goesOn : notFound.skipped = some 0) :
    Settled parser (parser.mark needle found notFound) rest := by
  unfold Settled mark
  cases scanned : forwardScan rest needle with
  | found =>
    refine Or.inr ⟨needle.length, length_of_forwardScan scanned, rfl, fun more => ?_⟩
    rw [forwardScan_append (by rw [scanned]; simp), scanned]
  | notFound =>
    refine Or.inr ⟨0, Nat.zero_le _, goesOn, fun more => ?_⟩
    rw [forwardScan_append (by rw [scanned]; simp), scanned]
  | insufficientSize => exact Or.inl rfl

theorem skipped_finish (parser : Parser) : parser.finish.skipped = some 0 := by
  unfold finish
  split <;> rfl

theorem skipped_splitTagPrefix (parser : Parser) : parser.splitTagPrefix.skipped = some 0 := by
  unfold splitTagPrefix
  split <;> rfl

theorem settled_look (parser : Parser) (char : Char) (rest : TString) :
    Settled parser.kept (look parser char) rest := by
  unfold look kept
  cases parser.state with
  | tagOpening =>
    dsimp only
    split_ifs
    iterate 4 exact settled_of_same rest rfl
    · exact settled_mark rest rfl
    · exact settled_of_same rest rfl
  | tagCDATASection =>
    dsimp only
    split_ifs
    · exact settled_mark rest rfl
    · exact settled_of_same rest rfl
  | tagInside =>
    dsimp only
    split_ifs
    · exact settled_of_same rest rfl
    · exact settled_reference _ _ rest
    · exact settled_of_same rest rfl
  | tagAttributeValue =>
    dsimp only
    split_ifs
    iterate 3 exact settled_of_same rest rfl
    · exact settled_reference _ _ rest
    · exact settled_of_same rest rfl
  | tagOpeningSlash =>
    dsimp only
    split_ifs
    · exact settled_of_same rest rfl
    · exact settled_of_same rest (skipped_finish _)
    · exact settled_of_same rest rfl
  | tagClosing =>
    dsimp only
    split_ifs
    · exact settled_of_same rest rfl
    · exact settled_of_same rest (skipped_splitTagPrefix _)
    · exact settled_of_same rest (skipped_finish _)
    · exact settled_of_same rest rfl
  | tagNameCollect =>
    dsimp only
    split_ifs
    iterate 4 exact settled_of_same rest rfl
    · exact settled_of_same rest (skipped_splitTagPrefix _)
    · exact settled_of_same rest rfl
  | tagNameComplete | tagNameAlmostComplete =>
    simp only [endOfTag]
    split_ifs <;> exact settled_of_same rest rfl
  | _ =>
    dsimp only
    split_ifs <;> exact settled_of_same rest rfl

/-- A parser that waits goes on as before. -/
theorem look_kept (parser : Parser) (char : Char) (rest : TString) :
    look parser.kept char rest = look parser char rest := by
  unfold kept
  split
  · next inside => simp only [look, inside]
  · rfl

theorem stable_look : Stable look where
  next := by
    intro parser after char rest skipped looked
    rcases settled_look parser char rest with waits | ⟨passed, within, passes, same⟩
    · cases looked.symm.trans waits
    · rw [looked] at passes
      cases passes
      exact ⟨within, fun more => (same more).trans looked⟩
  fail := by
    intro parser after char rest looked more
    rcases settled_look parser char rest with waits | ⟨-, -, -, same⟩
    · cases looked.symm.trans waits
    · exact (same more).trans looked
  wait := by
    intro parser after char rest looked others
    rcases settled_look parser char rest with waits | ⟨passed, -, passes, -⟩
    · cases looked.symm.trans waits
      exact look_kept parser char others
    · rw [looked] at passes
      cases passes

/-! ### The back buffer -/

@[simp] theorem backBuffer_addTag (parser : Parser) :
    parser.addTag.backBuffer = parser.backBuffer := by
  unfold addTag
  dsimp only
  split_ifs <;> rfl

@[simp] theorem backBuffer_addAttribute (parser : Parser) :
    parser.addAttribute.backBuffer = parser.backBuffer := by
  unfold addAttribute
  dsimp only
  split_ifs <;> rfl

@[simp] theorem backBuffer_addCData (parser : Parser) :
    parser.addCData.backBuffer = parser.backBuffer := by
  unfold addCData
  split
  · rfl
  · split_ifs <;> rfl

theorem backBuffer_finish (parser : Parser) :
    parser.finish.state.backBuffer = parser.backBuffer := by
  unfold finish closeTag
  split
  · next closed found =>
    split_ifs at found
    · cases found
      rfl
    · split at found
      · cases found
      · split_ifs at found
        split at found <;> (cases found; rfl)
  · rfl

theorem backBuffer_reference {append : TString → Parser} {parser : Parser} (rest : TString)
    (keeps : ∀ rep, (append rep).backBuffer = parser.backBuffer) :
    (parser.reference append rest).state.backBuffer = parser.backBuffer := by
  unfold reference
  split
  · exact keeps _
  · rfl
  · rfl

theorem backBuffer_mark {parser found : Parser} {needle : TString} {notFound : Verdict Parser}
    (rest : TString) (keeps : found.backBuffer = parser.backBuffer)
    (keeps' : notFound.state.backBuffer = parser.backBuffer) :
    (parser.mark needle found notFound rest).state.backBuffer = parser.backBuffer := by
  unfold mark
  split
  · exact keeps
  · exact keeps'
  · rfl

/-- Only `feed` itself uses the back buffer. -/
theorem backBuffer_look (parser : Parser) (char : Char) (rest : TString) :
    (look parser char rest).state.backBuffer = parser.backBuffer := by
  unfold look
  cases parser.state with
  | tagOpening =>
    dsimp only
    split_ifs
    iterate 4 rfl
    · exact backBuffer_mark rest rfl rfl
    · rfl
  | tagCDATASection =>
    dsimp only
    split_ifs
    · exact backBuffer_mark rest rfl rfl
    · rfl
  | tagInside =>
    dsimp only
    split_ifs
    · exact backBuffer_addCData _
    · exact backBuffer_reference rest fun _ => rfl
    · rfl
  | tagAttributeValue =>
    dsimp only
    split_ifs
    · rfl
    · rfl
    · exact backBuffer_addAttribute _
    · exact backBuffer_reference rest fun _ => rfl
    · rfl
  | tagOpeningSlash =>
    dsimp only
    split_ifs
    · rfl
    · exact (backBuffer_finish _).trans (backBuffer_addTag _)
    · rfl
  | tagClosing =>
    simp only [splitTagPrefix]
    split_ifs
    iterate 3 rfl
    · exact backBuffer_finish _
    · rfl
  | tagNameCollect =>
    simp only [splitTagPrefix]
    split_ifs
    iterate 3 rfl
    · exact backBuffer_addTag _
    iterate 3 rfl
  | tagNameComplete | tagNameAlmostComplete =>
    simp only [endOfTag]
    split_ifs
    all_goals first | rfl | exact backBuffer_addTag _
  | _ =>
    dsimp only
    split_ifs <;> rfl

theorem backBuffer_scan {parser : Parser} (empty : parser.backBuffer = []) (text : TString) :
    (scan look parser 0 text).state.backBuffer = [] :=
  scan_invariant (fun parser => parser.backBuffer = [])
    (fun parser char rest empty => (backBuffer_look parser char rest).trans empty) empty 0 text

/-! ### Pieces of the stream -/

/-- The parser after `feed`, and whether the data was refused -/
def fed (scanned : Scanned Parser Char) : Parser × Bool :=
  (if scanned.failed then scanned.state else { scanned.state with backBuffer := scanned.left },
    scanned.failed)

/-- A position below half of the range is seen as a refusal. -/
theorem refuses_ofNat {position : Nat} (small : position < 2 ^ 31) :
    refuses (BitVec.ofNat 32 position) = true := by
  have value : (BitVec.ofNat 32 position).toInt = position := by
    rw [BitVec.toInt_eq_toNat_cond, BitVec.toNat_ofNat, Nat.mod_eq_of_lt (by omega),
      if_pos (by omega)]
  rw [refuses, value]
  exact decide_eq_true (Int.natCast_nonneg position)

/-- A refusal is seen unless the data is too long for its position. -/
theorem feed_eq (parser : Parser) (data : TString)
    (short : (scan look { parser with backBuffer := [] } 0 (parser.backBuffer ++ data)).failed =
      true → (parser.backBuffer ++ data).length < 2 ^ 31) :
    ((parser.feed data).1, refuses (parser.feed data).2) =
      fed (scan look { parser with backBuffer := [] } 0 (parser.backBuffer ++ data)) := by
  unfold feed fed
  dsimp only
  split_ifs with failed
  · have small := short failed
    rw [refuses_ofNat (by omega), failed]
  · rw [Bool.eq_false_iff.mpr failed]
    rfl

theorem feedAll_eq_scanPieces (parser : Parser) (left : TString) (pieces : List TString)
    (empty : parser.backBuffer = [])
    (short : (scanPieces look parser left pieces).failed = true →
      left.length + pieces.flatten.length < 2 ^ 31) :
    feedAll pieces { parser with backBuffer := left } =
      fed (scanPieces look parser left pieces) := by
  induction pieces generalizing parser left with
  | nil => rfl
  | cons piece pieces inductionHypothesis =>
    have same : { parser with backBuffer := [] } = parser := by rw [← empty]
    have kept := length_left_scan look parser 0 (left ++ piece)
    rw [List.flatten_cons, List.length_append] at short
    rw [List.length_append] at kept
    rw [feedAll, feed]
    dsimp only
    rw [same]
    rw [scanPieces] at short ⊢
    by_cases failed : (scan look parser 0 (left ++ piece)).failed = true
    · rw [if_pos failed] at short
      have small := short rfl
      simp only [if_pos failed]
      rw [List.length_append, if_pos (refuses_ofNat (by omega))]
      rfl
    · rw [if_neg failed] at short
      have accepts : refuses (-1) = false := rfl
      simp only [if_neg failed]
      rw [accepts]
      refine inductionHypothesis _ _ (backBuffer_scan empty _) fun later => ?_
      have small := short later
      omega

/-- A text that is not refused, or whose positions an `int` holds, is read from its pieces as a
whole. -/
theorem feedAll_eq_fed (parser : Parser) (piece : TString) (pieces : List TString)
    (short : (scan look { parser with backBuffer := [] } 0
      (parser.backBuffer ++ (piece ++ pieces.flatten))).failed = true →
        (parser.backBuffer ++ (piece ++ pieces.flatten)).length < 2 ^ 31) :
    feedAll (piece :: pieces) parser =
      fed (scan look { parser with backBuffer := [] } 0
        (parser.backBuffer ++ (piece ++ pieces.flatten))) := by
  have whole := scanPieces_eq stable_look { parser with backBuffer := [] }
    ((parser.backBuffer ++ piece) :: pieces)
  rw [List.flatten_cons, List.append_assoc] at whole
  rw [← whole] at short ⊢
  refine feedAll_eq_scanPieces { parser with backBuffer := [] } parser.backBuffer
    (piece :: pieces) rfl fun failed => ?_
  have small := short failed
  rwa [List.length_append] at small

/-- The pieces of a text leave the parser as the text itself does, wherever it is cut, as long as an
`int` holds the positions in it. -/
theorem feedAll_eq_feed (parser : Parser) (piece : TString) (pieces : List TString)
    (short : (parser.backBuffer ++ (piece ++ pieces.flatten)).length < 2 ^ 31) :
    feedAll (piece :: pieces) parser =
      ((parser.feed (piece ++ pieces.flatten)).1,
        refuses (parser.feed (piece ++ pieces.flatten)).2) := by
  rw [feed_eq parser _ fun _ => short]
  exact feedAll_eq_fed parser piece pieces fun _ => short

/-- The opener of a section is cut, and the end tag behind it is refused. -/
theorem feedAll_eq_feed_cutOpener :
    feedAll ["<a><![CD".toList, "ATA[x]]></b>".toList] new =
      ((new.feed "<a><![CDATA[x]]></b>".toList).1, true) :=
  feedAll_eq_feed new "<a><![CD".toList ["ATA[x]]></b>".toList] (by decide)

end Parser

end JnTapi.Gloox
