/-
This file models `Utils::ParseSIP` and shows which addresses it takes apart as it
should, and what the To field of `OnSipXmpp::CallNumber` is for every dial string.

`ParseSIP` cuts the address at every run of at signs, and it has written the two
parts before it looks for the dot. The To field loses the scheme of a `sips`
address that the Windows dialer has put a `T` in front of.
-/

import JnTapi.Xmpp

namespace JnTapi

open Library

/-! ### Taking an address apart -/

namespace Utils

/-- The address that `Utils::ParseSIP` breaks up, without blanks around it and without prefix -/
def address (sipAddress : TString) : TString :=
  let sipaddr := Strings.trim sipAddress Strings.spaces
  if Strings.startsWith (Strings.tolower sipaddr) "sip:".toList then sipaddr.drop 4 else sipaddr

/-- `Utils::ParseSIP`, with what `userName` and `domain` hold afterwards -/
def parseSip (sipAddress userName domain : TString) : Bool × TString × TString :=
  if Strings.trim sipAddress Strings.spaces = [] then (false, userName, domain)
  else if !Strings.contains (address sipAddress) "@".toList then (false, userName, domain)
  else
    match Strings.split (address sipAddress) "@".toList with
    | [first, second] => (Strings.contains second ".".toList, first, second)
    | _ => (false, userName, domain)

/-- The text without an optional prefix `sip:`, in any case -/
def DropsPrefix (text rest : TString) : Prop :=
  (∃ scheme, Strings.tolower scheme = "sip:".toList ∧ text = scheme ++ rest) ∨
    (rest = text ∧ ¬ "sip:".toList <+: Strings.tolower text)

/-- What an address says about its user and its domain -/
structure SipAddress (text userName domain : TString) : Prop where
  parts : ∃ inner, Trimmed Strings.spaces.contains text inner ∧
    DropsPrefix inner (userName ++ '@' :: domain)
  nonempty : userName ≠ [] ∧ domain ≠ []
  single : '@' ∉ userName ++ domain
  dotted : '.' ∈ domain

theorem dropsPrefix_iff {text rest : TString} :
    DropsPrefix text rest ↔
      rest =
        if Strings.startsWith (Strings.tolower text) "sip:".toList then text.drop 4 else text := by
  have length : ∀ scheme, Strings.tolower scheme = "sip:".toList → scheme.length = 4 :=
    fun scheme same =>
      (List.length_map Char.toLower).symm.trans (congrArg List.length same)
  split_ifs with starts
  · have starts := Strings.startsWith_iff.mp starts
    constructor
    · rintro (⟨scheme, same, rfl⟩ | ⟨-, other⟩)
      · rw [← length scheme same, List.drop_left]
      · exact absurd starts other
    · rintro rfl
      obtain ⟨others, split⟩ := starts
      refine Or.inl ⟨text.take 4, ?_, (List.take_append_drop 4 text).symm⟩
      rw [Strings.tolower, List.map_take, show text.map Char.toLower = _ from split.symm]
      rfl
  · constructor
    · rintro (⟨scheme, same, rfl⟩ | ⟨same, -⟩)
      · refine absurd (Strings.startsWith_iff.mpr ?_) starts
        rw [Strings.tolower_append, same]
        exact List.prefix_append _ _
      · exact same
    · exact fun same => Or.inr ⟨same, fun other => starts (Strings.startsWith_iff.mpr other)⟩

theorem address_iff {text rest : TString} :
    (∃ inner, Trimmed Strings.spaces.contains text inner ∧ DropsPrefix inner rest) ↔
      rest = address text := by
  simp only [trimmed_iff, exists_eq_left]
  exact dropsPrefix_iff

/-! ### What it takes apart -/

/-- Two parts without an at sign, with at signs between and perhaps around them -/
abbrev TwoParts (text first second : TString) : Prop :=
  TwoTokens "@".toList.contains text first second

theorem isAt_iff (char : Char) : "@".toList.contains char = true ↔ char = '@' := by
  rw [List.contains_iff_mem]
  exact List.mem_singleton

theorem split_eq_pair_iff {text first second : TString} :
    Strings.split text "@".toList = [first, second] ↔ TwoParts text first second :=
  tokens_eq_pair_iff

theorem TwoParts.unique {text first second other another : TString}
    (parts : TwoParts text first second) (others : TwoParts text other another) :
    first = other ∧ second = another := by
  have same := (split_eq_pair_iff.mpr parts).symm.trans (split_eq_pair_iff.mpr others)
  obtain ⟨left, right⟩ := List.cons.inj same
  exact ⟨left, (List.cons.inj right).1⟩

theorem TwoParts.at_mem {text first second : TString} (parts : TwoParts text first second) :
    '@' ∈ text := by
  obtain ⟨lead, mid, trail, rfl, between, separators⟩ := parts.split
  obtain ⟨char, others, rfl⟩ := List.exists_cons_of_ne_nil between
  have isAt : char = '@' := (isAt_iff char).mp (separators char (by simp))
  simp [isAt]

theorem parseSip_of_twoParts {text first second : TString}
    (parts : TwoParts (address text) first second) (userName domain : TString) :
    parseSip text userName domain = (Strings.contains second ".".toList, first, second) := by
  have some : Strings.trim text Strings.spaces ≠ [] := by
    intro none
    have noAddress : address text = [] := by
      rw [address, none]
      rfl
    exact List.not_mem_nil (noAddress ▸ parts.at_mem)
  have hasAt : Strings.contains (address text) "@".toList = true :=
    Strings.contains_char_iff.mpr parts.at_mem
  rw [parseSip, if_neg some, hasAt, Bool.not_true, if_neg Bool.false_ne_true,
    split_eq_pair_iff.mpr parts]

theorem parseSip_of_not_twoParts {text : TString}
    (none : ∀ first second, ¬ TwoParts (address text) first second) (userName domain : TString) :
    parseSip text userName domain = (false, userName, domain) := by
  unfold parseSip
  split_ifs with blank bare
  · rfl
  · rfl
  · split
    · next first second cut => exact absurd (split_eq_pair_iff.mp cut) (none first second)
    · rfl

theorem sipAddress_iff {text userName domain : TString} :
    SipAddress text userName domain ↔
      TwoParts (address text) userName domain ∧
        address text = userName ++ '@' :: domain ∧ '.' ∈ domain := by
  constructor
  · intro named
    have same : userName ++ '@' :: domain = address text := address_iff.mp named.parts
    refine ⟨⟨⟨[], ['@'], [], ?_, List.cons_ne_nil _ _, fun char member => ?_⟩, named.nonempty,
      fun char member => Bool.eq_false_iff.mpr fun isAt => ?_⟩, same.symm, named.dotted⟩
    · rw [← same, List.append_nil]
      rfl
    · exact (isAt_iff char).mpr (List.mem_singleton.mp member)
    · exact named.single ((isAt_iff char).mp isAt ▸ member)
  · rintro ⟨parts, same, dotted⟩
    refine ⟨address_iff.mpr same.symm, parts.nonempty, fun member => ?_, dotted⟩
    exact Bool.false_ne_true ((parts.free '@' member).symm.trans ((isAt_iff '@').mpr rfl))

/-- What is promised of `Utils::ParseSIP`: it accepts the addresses that have a user and a domain
with a dot and returns both, and it leaves the values alone when it refuses. -/
structure ParsesExactly (text userName domain : TString) : Prop where
  accepts : ∀ user host,
    parseSip text userName domain = (true, user, host) ↔ SipAddress text user host
  refuses : (¬ ∃ user host, SipAddress text user host) →
    parseSip text userName domain = (false, userName, domain)

theorem SipAddress.parsesExactly {text first second : TString}
    (named : SipAddress text first second) (userName domain : TString) :
    ParsesExactly text userName domain := by
  obtain ⟨parts, -, dotted⟩ := sipAddress_iff.mp named
  have hasDot : Strings.contains second ".".toList = true := Strings.contains_char_iff.mpr dotted
  have parsed := parseSip_of_twoParts parts userName domain
  rw [hasDot] at parsed
  refine ⟨fun user host => ⟨fun accepted => ?_, fun other => ?_⟩,
    fun none => absurd ⟨first, second, named⟩ none⟩
  · cases parsed.symm.trans accepted
    exact named
  · obtain ⟨rfl, rfl⟩ := parts.unique (sipAddress_iff.mp other).1
    exact parsed

theorem parsesExactly_of_not_twoParts {text : TString}
    (none : ∀ first second, ¬ TwoParts (address text) first second) (userName domain : TString) :
    ParsesExactly text userName domain := by
  have refused := parseSip_of_not_twoParts none userName domain
  refine ⟨fun user host => ⟨fun accepted => ?_, fun named => ?_⟩, fun _ => refused⟩
  · cases refused.symm.trans accepted
  · exact absurd (sipAddress_iff.mp named).1 (none user host)

/-- Without a dot the two parts are written and refused, which goes unseen where they were there
before. -/
theorem parsesExactly_undotted_iff {text first second : TString}
    (parts : TwoParts (address text) first second) (plain : '.' ∉ second)
    (userName domain : TString) :
    ParsesExactly text userName domain ↔ userName = first ∧ domain = second := by
  have noDot : Strings.contains second ".".toList = false :=
    Bool.eq_false_iff.mpr fun dotted => plain (Strings.contains_char_iff.mp dotted)
  have parsed := parseSip_of_twoParts parts userName domain
  rw [noDot] at parsed
  have none : ¬ ∃ user host, SipAddress text user host := fun ⟨user, host, named⟩ => by
    obtain ⟨others, -, dotted⟩ := sipAddress_iff.mp named
    exact plain ((parts.unique others).2 ▸ dotted)
  constructor
  · intro promise
    have same := congrArg Prod.snd (parsed.symm.trans (promise.refuses none))
    exact ⟨(congrArg Prod.fst same).symm, (congrArg Prod.snd same).symm⟩
  · rintro ⟨rfl, rfl⟩
    refine ⟨fun user host => ⟨fun accepted => ?_, fun named => ?_⟩, fun _ => parsed⟩
    · cases parsed.symm.trans accepted
    · exact absurd ⟨user, host, named⟩ none

/-- `Utils::ParseSIP` keeps its promise just when an address of two parts has one at sign and a
dot in its domain, or has no dot there and the values were the two parts before. -/
theorem parsesExactly_iff (text userName domain : TString) :
    ParsesExactly text userName domain ↔
      ∀ first second, TwoParts (address text) first second →
        (address text = first ++ '@' :: second ∧ '.' ∈ second) ∨
          ('.' ∉ second ∧ userName = first ∧ domain = second) := by
  constructor
  · intro promise first second parts
    by_cases dotted : '.' ∈ second
    · have hasDot : Strings.contains second ".".toList = true :=
        Strings.contains_char_iff.mpr dotted
      have accepted : parseSip text userName domain = (true, first, second) := by
        rw [parseSip_of_twoParts parts, hasDot]
      exact Or.inl (sipAddress_iff.mp ((promise.accepts first second).mp accepted)).2
    · exact Or.inr ⟨dotted, (parsesExactly_undotted_iff parts dotted userName domain).mp promise⟩
  · intro condition
    by_cases some : ∃ first second, TwoParts (address text) first second
    · obtain ⟨first, second, parts⟩ := some
      rcases condition first second parts with ⟨same, dotted⟩ | ⟨plain, kept⟩
      · exact SipAddress.parsesExactly (sipAddress_iff.mpr ⟨parts, same, dotted⟩) userName domain
      · exact (parsesExactly_undotted_iff parts plain userName domain).mpr kept
    · exact parsesExactly_of_not_twoParts (fun first second parts => some ⟨first, second, parts⟩)
        userName domain

/-- Two at signs in a row count as one: this is taken for the user `a` at `b.c`. -/
theorem not_parsesExactly_twoAts : ¬ ParsesExactly "a@@b.c".toList [] [] := by
  intro promise
  have same : address "a@@b.c".toList = "a@@b.c".toList := by decide
  have parts : TwoParts (address "a@@b.c".toList) "a".toList "b.c".toList := by
    refine ⟨⟨[], "@@".toList, [], same, by decide, List.all_eq_true.mp rfl⟩, by decide, ?_⟩
    simp
  have hasDot : Strings.contains "b.c".toList ".".toList = true :=
    Strings.contains_char_iff.mpr (by decide)
  have accepted : parseSip "a@@b.c".toList [] [] = (true, "a".toList, "b.c".toList) := by
    rw [parseSip_of_twoParts parts, hasDot]
  have named := (promise.accepts "a".toList "b.c".toList).mp accepted
  have other := same.symm.trans (sipAddress_iff.mp named).2.1
  revert other
  decide

end Utils

/-! ### The To field of a dial string -/

namespace Strings

/-- A text that starts with one and with the other starts with the shorter one inside the
longer one. -/
theorem prefix_of_startsWith {text short long : TString} (first : startsWith text short = true)
    (second : startsWith text long = true) (shorter : short.length ≤ long.length) :
    short <+: long :=
  List.prefix_of_prefix_length_le (startsWith_iff.mp first) (startsWith_iff.mp second) shorter

/-- The name of a scheme of SIP addresses, in any case -/
def IsScheme (scheme : TString) : Prop :=
  tolower scheme = "sip".toList ∨ tolower scheme = "sips".toList

/-- The text begins with `sip:` or `sips:`, in any case. -/
def hasScheme (text : TString) : Bool :=
  startsWith (tolower text) "sip:".toList || startsWith (tolower text) "sips:".toList

theorem tolower_scheme (scheme rest : TString) :
    tolower (scheme ++ ':' :: rest) = tolower scheme ++ ':' :: tolower rest :=
  List.map_append

theorem IsScheme.hasScheme {scheme : TString} (named : IsScheme scheme) (rest : TString) :
    hasScheme (scheme ++ ':' :: rest) = true := by
  rw [Strings.hasScheme, Bool.or_eq_true, startsWith_iff, startsWith_iff, tolower_scheme]
  rcases named with sip | sips
  · rw [sip]
    exact Or.inl ⟨tolower rest, rfl⟩
  · rw [sips]
    exact Or.inr ⟨tolower rest, rfl⟩

/-- A text with a scheme starts with an `s`. -/
theorem hasScheme_cons {char : Char} {rest : TString} (some : hasScheme (char :: rest) = true) :
    char.toLower = 's' := by
  have starts : ∀ others : TString, startsWith (tolower (char :: rest)) ('s' :: others) = true →
      char.toLower = 's' := fun others first =>
    ((List.cons_prefix_cons.mp (startsWith_iff.mp first)).1).symm
  rcases (Bool.or_eq_true _ _).mp some with sip | sips
  · exact starts _ sip
  · exact starts _ sips

/-- What follows a prefix that does not depend on the case -/
theorem split_of_startsWith_tolower {text lower : TString}
    (starts : startsWith (tolower text) lower = true) :
    ∃ first, text = first ++ text.drop lower.length ∧ tolower first = lower := by
  obtain ⟨others, split⟩ := startsWith_iff.mp starts
  refine ⟨text.take lower.length, (List.take_append_drop _ text).symm, ?_⟩
  rw [tolower, List.map_take, show text.map Char.toLower = _ from split.symm, List.take_left]

/-- A character that is no small letter is the lower case of itself only. -/
theorem eq_of_toLower {char lower : Char} (same : char.toLower = lower)
    (other : ¬ (97 ≤ lower.toNat ∧ lower.toNat ≤ 122)) : char = lower := by
  have code := toNat_toLower char
  rw [same] at code
  rw [← Char.toNat_inj]
  split_ifs at code <;> omega

theorem eq_tone {char : Char} (lower : char.toLower = 't') : char ∈ ['T', 't'] := by
  have code := toNat_toLower char
  rw [lower, show 't'.toNat = 116 from rfl] at code
  have either : char = 'T' ∨ char = 't' := by
    rw [← Char.toNat_inj, ← Char.toNat_inj, show 'T'.toNat = 84 from rfl,
      show 't'.toNat = 116 from rfl]
    split_ifs at code <;> omega
  rcases either with rfl | rfl <;> simp

theorem tolower_tone {tone : Char} (named : tone ∈ ['T', 't']) : tone.toLower = 't' := by
  rcases List.mem_cons.mp named with rfl | small
  · rfl
  · cases List.mem_singleton.mp small
    rfl

/-- A character that is not in the lower case of the first part is in the rest. -/
theorem mem_rest {char : Char} {first rest : TString} (apart : char.toLower ∉ tolower first) :
    char ∈ first ++ rest ↔ char ∈ rest :=
  List.mem_append.trans (or_iff_right fun member => apart (List.mem_map_of_mem member))

/-- A dial string with a tone prefix in front of a scheme -/
theorem tone_split {number lower : TString}
    (starts : startsWith (tolower number) ('t' :: (lower ++ [':'])) = true) :
    ∃ tone ∈ ['T', 't'], ∃ scheme, tolower scheme = lower ∧
      number = tone :: (scheme ++ ':' :: number.drop (lower.length + 2)) := by
  obtain ⟨first, split, same⟩ := split_of_startsWith_tolower starts
  have length : ('t' :: (lower ++ [':'])).length = lower.length + 2 := by simp
  rw [length] at split
  obtain ⟨tone, others, rfl, isTone, rest⟩ := List.map_eq_cons_iff.mp same
  obtain ⟨scheme, colon, rfl, isScheme, isColon⟩ := List.map_eq_append_iff.mp rest
  obtain ⟨char, none, rfl, last, nothing⟩ := List.map_eq_cons_iff.mp isColon
  obtain rfl := List.map_eq_nil_iff.mp nothing
  obtain rfl := eq_of_toLower last (by decide)
  refine ⟨tone, eq_tone isTone, scheme, isScheme, split.trans ?_⟩
  simp

end Strings

namespace Xmpp

open Strings

/-- The digits that `OnSipXmpp::CallNumber` keeps of a number -/
def digits (number : TString) : TString := number.filter fun char => '0' ≤ char ∧ char ≤ '9'

/-- An address with a scheme, `sip:` where it has none -/
def withScheme (address : TString) : TString :=
  if hasScheme address then address else formatSip address

theorem hasScheme_withScheme (address : TString) : hasScheme (withScheme address) = true := by
  rw [withScheme]
  split_ifs with some
  · exact some
  · have sip : IsScheme "sip".toList := Or.inl (by decide)
    exact sip.hasScheme (cStr address)

theorem withScheme_of_hasScheme {address : TString} (some : hasScheme address = true) :
    withScheme address = address :=
  if_pos some

theorem withScheme_of_bare {address : TString} (bare : hasScheme address = false) :
    withScheme address = "sip:".toList ++ cStr address :=
  if_neg (Bool.eq_false_iff.mp bare)

theorem toField_eq (number domain : TString) :
    toField number domain = withScheme (dialledNumber number domain) := by
  rw [toField, withScheme, hasScheme, ← Bool.not_or]
  cases startsWith (tolower (dialledNumber number domain)) "sip:".toList ||
    startsWith (tolower (dialledNumber number domain)) "sips:".toList <;> rfl

theorem digit_not_s {char : Char} (high : char ≤ '9') : char.toLower ≠ 's' := by
  intro same
  have code := toNat_toLower char
  have small : char.toNat ≤ 57 := UInt32.le_iff_toNat_le.mp high
  rw [same, show 's'.toNat = 115 from rfl, if_neg (by omega)] at code
  omega

theorem isDigit_iff {char : Char} : char.isDigit = true ↔ '0' ≤ char ∧ char ≤ '9' := by
  rw [Char.isDigit, Bool.and_eq_true, decide_eq_true_iff, decide_eq_true_iff]
  rfl

theorem digits_eq_filter (number : TString) : digits number = number.filter Char.isDigit :=
  List.filter_congr fun char _ => by
    rw [Bool.eq_iff_iff, isDigit_iff, decide_eq_true_iff]

theorem zero_not_mem_digits (number : TString) : '\x00' ∉ digits number := fun member =>
  absurd (of_decide_eq_true (List.mem_filter.mp member).2) (by decide)

/-- A number without an at sign is dialled at the domain of the login. -/
theorem toField_phone {number : TString} (plain : '@' ∉ number) (domain : TString) :
    toField number domain = "sip:".toList ++ (digits number ++ '@' :: cStr domain) := by
  have noAt : Strings.contains number "@".toList = false :=
    Bool.eq_false_iff.mpr fun member => plain (contains_char_iff.mp member)
  have dialled : dialledNumber number domain = digits number ++ '@' :: cStr domain := by
    rw [dialledNumber, noAt, Bool.not_false, if_pos rfl, formatAddress,
      show number.filter _ = digits number from rfl, cStr_eq_self (zero_not_mem_digits number)]
  have bare : hasScheme (digits number ++ '@' :: cStr domain) = false := by
    refine Bool.eq_false_iff.mpr fun some => ?_
    cases kept : digits number with
    | nil =>
      rw [kept] at some
      exact absurd (hasScheme_cons some) (by decide)
    | cons first others =>
      have inside : first ∈ digits number := kept ▸ List.mem_cons_self
      have digit := of_decide_eq_true (List.mem_filter.mp inside).2
      rw [kept] at some
      exact digit_not_s digit.2 (hasScheme_cons some)
  have printable : '\x00' ∉ digits number ++ '@' :: cStr domain := fun member => by
    rcases List.mem_append.mp member with left | right
    · exact zero_not_mem_digits number left
    · rcases List.mem_cons.mp right with isAt | behind
      · cases isAt
      · exact zero_not_mem_cStr domain behind
  rw [toField_eq, dialled, withScheme_of_bare bare, cStr_eq_self printable]

/-- What an address with an at sign is dialled as -/
theorem toField_address {number : TString} (address : '@' ∈ number) (domain : TString) :
    toField number domain =
      withScheme
        (if startsWith (tolower number) "tsip:".toList then number.drop 5
        else if startsWith (tolower number) "tsips:".toList then number.drop 6
        else number) := by
  have hasAt : Strings.contains number "@".toList = true := contains_char_iff.mpr address
  rw [toField_eq, dialledNumber, hasAt, Bool.not_true, if_neg Bool.false_ne_true]

/-- An address with a scheme is dialled as it is. -/
theorem toField_scheme {number : TString} (address : '@' ∈ number)
    (some : hasScheme number = true) (domain : TString) : toField number domain = number := by
  have apart : ∀ tone ∈ ["tsip:".toList, "tsips:".toList],
      ¬ startsWith (tolower number) tone = true := by
    intro tone member starts
    cases number with
    | nil => cases address
    | cons first rest =>
      have lower := hasScheme_cons some
      simp only [List.mem_cons, List.not_mem_nil, or_false] at member
      rcases member with rfl | rfl
      all_goals
        have head := (List.cons_prefix_cons.mp (startsWith_iff.mp starts)).1
        rw [lower] at head
        revert head
        decide
  rw [toField_address address, if_neg (apart _ List.mem_cons_self),
    if_neg (apart _ (List.mem_cons_of_mem _ List.mem_cons_self)), withScheme_of_hasScheme some]

/-! ### What the To field should be -/

/-- What is promised of the To field of a dial string: an address with a scheme stays as it is and
loses no more than the tone prefix, and every dial string becomes an address with a scheme, which
stays as it is when it is dialled. -/
structure NormalisesWell (domain number : TString) : Prop where
  kept : ∀ scheme rest, IsScheme scheme → '@' ∈ rest → hasScheme rest = false →
    number = scheme ++ ':' :: rest → toField number domain = number
  tone : ∀ tone ∈ ['T', 't'], ∀ scheme rest, IsScheme scheme → '@' ∈ rest →
    hasScheme rest = false → number = tone :: (scheme ++ ':' :: rest) →
    toField number domain = tolower scheme ++ ':' :: rest
  scheme : hasScheme (toField number domain) = true
  address : '@' ∈ toField number domain
  stable : toField (toField number domain) domain = toField number domain

/-- The dial strings for which the To field is what it should be: without an at sign; with a
scheme; with the tone prefix in front of `sip:`, and no zero character or one more scheme; with the
tone prefix in front of `sips:` and one more scheme; or with an at sign before the first zero
character. -/
def DialsWell (number : TString) : Prop :=
  if '@' ∉ number ∨ hasScheme number = true then True
  else if startsWith (tolower number) "tsip:".toList = true then
    hasScheme (number.drop 5) = true ∨ '\x00' ∉ number
  else if startsWith (tolower number) "tsips:".toList = true then
    hasScheme (number.drop 6) = true
  else '@' ∈ cStr number

/-- Two of the promises hold of every dial string, and one follows from another. -/
theorem normalisesWell_iff (domain number : TString) :
    NormalisesWell domain number ↔
      (∀ tone ∈ ['T', 't'], ∀ scheme rest, IsScheme scheme → '@' ∈ rest →
        hasScheme rest = false → number = tone :: (scheme ++ ':' :: rest) →
        toField number domain = tolower scheme ++ ':' :: rest) ∧
      '@' ∈ toField number domain := by
  refine ⟨fun well => ⟨well.tone, well.address⟩, fun ⟨tone, address⟩ => ?_⟩
  have some : hasScheme (toField number domain) = true := by
    rw [toField_eq]
    exact hasScheme_withScheme _
  refine ⟨fun scheme rest named inside _ split => ?_, tone, some, address,
    toField_scheme address some domain⟩
  rw [split]
  exact toField_scheme (by simp [inside]) (named.hasScheme rest) domain

/-- A dial string with the tone prefix, as the tests of `OnSipXmpp::CallNumber` see it -/
theorem tone_starts {tone : Char} (named : tone ∈ ['T', 't']) (scheme rest : TString) :
    tolower (tone :: (scheme ++ ':' :: rest)) = 't' :: (tolower scheme ++ ':' :: tolower rest) := by
  rw [← tolower_scheme, ← tolower_tone named]
  rfl

theorem not_hasScheme_tone {tone : Char} (named : tone ∈ ['T', 't']) (rest : TString) :
    hasScheme (tone :: rest) = false := by
  refine Bool.eq_false_iff.mpr fun some => ?_
  have lower := (tolower_tone named).symm.trans (hasScheme_cons some)
  revert lower
  decide

theorem at_mem_withScheme_of_bare {address : TString} (bare : hasScheme address = false) :
    '@' ∈ withScheme address ↔ '@' ∈ cStr address := by
  rw [withScheme_of_bare bare, List.mem_append]
  exact or_iff_right (by decide)

/-- The tone prefix and the scheme of a dial string are determined by it. -/
theorem tone_unique {number lower scheme rest : TString} {tone : Char}
    (starts : startsWith (tolower number) ('t' :: (lower ++ [':'])) = true)
    (either : lower = "sip".toList ∨ lower = "sips".toList) (named : tone ∈ ['T', 't'])
    (isScheme : IsScheme scheme) (split : number = tone :: (scheme ++ ':' :: rest)) :
    tolower scheme = lower ∧ rest = number.drop (lower.length + 2) := by
  have other : startsWith (tolower number) ('t' :: (tolower scheme ++ [':'])) = true := by
    rw [split, tone_starts named, startsWith_iff]
    exact ⟨tolower rest, by simp⟩
  have same : tolower scheme = lower := by
    rcases isScheme with sip | sips <;> rcases either with rfl | rfl
    · exact sip
    · rw [sip] at other
      exact absurd (prefix_of_startsWith other starts (by decide)) (by decide)
    · rw [sips] at other
      exact absurd (prefix_of_startsWith starts other (by decide)) (by decide)
    · exact sips
  refine ⟨same, ?_⟩
  have length : scheme.length = lower.length := by rw [← same, tolower, List.length_map]
  rw [split, ← length]
  simp

/-- What the tone prefix in front of a scheme makes of an address -/
theorem tone_iff {number lower domain : TString} (address : '@' ∈ number)
    (starts : startsWith (tolower number) ('t' :: (lower ++ [':'])) = true)
    (either : lower = "sip".toList ∨ lower = "sips".toList)
    (dialled : toField number domain = withScheme (number.drop (lower.length + 2))) :
    ((∀ tone ∈ ['T', 't'], ∀ scheme rest, IsScheme scheme → '@' ∈ rest →
        hasScheme rest = false → number = tone :: (scheme ++ ':' :: rest) →
        toField number domain = tolower scheme ++ ':' :: rest) ∧
      '@' ∈ toField number domain) ↔
      hasScheme (number.drop (lower.length + 2)) = true ∨
        (lower = "sip".toList ∧ '\x00' ∉ number) := by
  obtain ⟨tone, named, scheme, isLower, split⟩ := tone_split starts
  set rest := number.drop (lower.length + 2) with restIs
  have isScheme : IsScheme scheme := by rw [IsScheme, isLower]; exact either
  have inRest : ∀ char, char.toLower ∉ 't' :: (lower ++ [':']) → (char ∈ number ↔ char ∈ rest) := by
    intro char apart
    have first : tolower (tone :: (scheme ++ [':'])) = 't' :: (lower ++ [':']) := by
      rw [← isLower, ← tolower_tone named, tolower, List.map_cons, List.map_append]
      rfl
    have cut : number = (tone :: (scheme ++ [':'])) ++ rest := split.trans (by simp)
    rw [cut]
    exact mem_rest (first ▸ apart)
  have inside : '@' ∈ rest := (inRest '@' (by rcases either with rfl | rfl <;> decide)).mp address
  have zero : '\x00' ∈ number ↔ '\x00' ∈ rest :=
    inRest '\x00' (by rcases either with rfl | rfl <;> decide)
  cases some : hasScheme rest with
  | true =>
    refine iff_of_true ⟨fun other tones others more isOther _ bare again => ?_, ?_⟩ (Or.inl rfl)
    · obtain ⟨-, same⟩ := tone_unique starts either tones isOther again
      rw [same, ← restIs, some] at bare
      cases bare
    · rw [dialled, withScheme_of_hasScheme some]
      exact inside
  | false =>
    rw [dialled, withScheme_of_bare some]
    constructor
    · rintro ⟨tones, -⟩
      have same := tones tone named scheme rest isScheme inside some split
      rw [isLower] at same
      refine Or.inr ?_
      rcases either with rfl | rfl
      · have both : "sip:".toList ++ cStr rest = "sip:".toList ++ rest := same
        have uncut : cStr rest = rest := List.append_cancel_left both
        exact ⟨rfl, fun member => cStr_eq_self_iff.mp uncut (zero.mp member)⟩
      · exact absurd (congrArg (fun text => text[3]?) same) (by simp)
    · rintro (other | ⟨rfl, printable⟩)
      · cases other
      · rw [cStr_eq_self fun member => printable (zero.mpr member)]
        refine ⟨fun other tones others more isOther _ _ again => ?_, List.mem_append_right _ inside⟩
        obtain ⟨lowered, same⟩ := tone_unique starts either tones isOther again
        rw [lowered, same]
        rfl

/-- Without a tone prefix only the at sign can be lost, behind a zero character. -/
theorem plain_iff {number domain : TString} (address : '@' ∈ number)
    (bare : hasScheme number = false)
    (noSip : ¬ startsWith (tolower number) "tsip:".toList = true)
    (noSips : ¬ startsWith (tolower number) "tsips:".toList = true) :
    ((∀ tone ∈ ['T', 't'], ∀ scheme rest, IsScheme scheme → '@' ∈ rest →
        hasScheme rest = false → number = tone :: (scheme ++ ':' :: rest) →
        toField number domain = tolower scheme ++ ':' :: rest) ∧
      '@' ∈ toField number domain) ↔ '@' ∈ cStr number := by
  rw [toField_address address, if_neg noSip, if_neg noSips, at_mem_withScheme_of_bare bare]
  refine and_iff_right fun tone named scheme rest isScheme _ _ split => ?_
  have starts : ∀ lower, tolower scheme = lower →
      startsWith (tolower number) ('t' :: (lower ++ [':'])) = true := by
    rintro lower rfl
    rw [split, tone_starts named, startsWith_iff]
    exact ⟨tolower rest, by simp⟩
  rcases isScheme with sip | sips
  · exact absurd (starts _ sip) noSip
  · exact absurd (starts _ sips) noSips

/-- The To field of a dial string is what it should be just when the string is one of those
named. -/
theorem normalisesWell_iff_dialsWell (domain number : TString) :
    NormalisesWell domain number ↔ DialsWell number := by
  rw [normalisesWell_iff, DialsWell]
  split_ifs with simple sip sips
  · refine iff_of_true ⟨fun tone named scheme rest _ inside _ split => ?_, ?_⟩ trivial
    · rcases simple with plain | some
      · exact absurd (by rw [split]; simp [inside]) plain
      · rw [split, not_hasScheme_tone named] at some
        cases some
    · by_cases plain : '@' ∈ number
      · rw [toField_scheme plain (simple.resolve_left (not_not.mpr plain))]
        exact plain
      · rw [toField_phone plain]
        simp
  · rw [not_or, not_not] at simple
    have dialled : toField number domain = withScheme (number.drop ("sip".toList.length + 2)) := by
      rw [toField_address simple.1, if_pos sip]
      rfl
    have starts : startsWith (tolower number) ('t' :: ("sip".toList ++ [':'])) = true := sip
    refine (tone_iff simple.1 starts (Or.inl rfl) dialled).trans (or_congr Iff.rfl ?_)
    exact and_iff_right rfl
  · rw [not_or, not_not] at simple
    have dialled : toField number domain = withScheme (number.drop ("sips".toList.length + 2)) := by
      rw [toField_address simple.1, if_neg sip, if_pos sips]
      rfl
    have starts : startsWith (tolower number) ('t' :: ("sips".toList ++ [':'])) = true := sips
    refine (tone_iff simple.1 starts (Or.inr rfl) dialled).trans (or_iff_left ?_)
    exact fun other => absurd other.1 (by decide)
  · rw [not_or, not_not] at simple
    exact plain_iff simple.1 (Bool.eq_false_iff.mpr simple.2) sip sips

/-- A secure address with the tone prefix loses its scheme: `Tsips:a@b.c` is dialled as
`sip:a@b.c`. -/
theorem not_normalisesWell_sips : ¬ NormalisesWell "b.c".toList "Tsips:a@b.c".toList := by
  intro well
  have promised := well.tone 'T' (by decide) "sips".toList "a@b.c".toList (Or.inr (by decide))
    (by decide) (by decide) rfl
  have dialled : toField "Tsips:a@b.c".toList "b.c".toList = "sip:a@b.c".toList := by
    rw [toField_address (by decide)]
    decide
  rw [dialled] at promised
  revert promised
  decide

end Xmpp

end JnTapi
