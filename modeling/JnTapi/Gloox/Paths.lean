/-
This file proves what gloox finds for the expressions that its filters are: unions of paths
whose steps test names and attributes.

Reading such an expression gives the tokens of a path as a chain, and a union as tokens in
one another, since the parser returns from the second path to the first. Whatever the tree
looks like, its evaluation finds the tags that one of the paths leads to, each once.
-/

import Mathlib.Data.List.Nodup
import JnTapi.Gloox.XPath

namespace JnTapi.Gloox.XPath

/-! ### Paths -/

/-- The test of an attribute, `[@name='value']` -/
structure AttributeTest where
  name : TString
  value : TString
deriving DecidableEq, Repr

/-- A step of a path: a name or `*`, and tests -/
structure Step where
  name : TString
  tests : List AttributeTest
deriving DecidableEq, Repr

/-- The character has no meaning of its own in an expression. -/
def isPlain (char : Char) : Bool := !"/][()'@.*+><=|\\".toList.contains char

/-- The text of a test in an expression -/
def AttributeTest.text (test : AttributeTest) : TString :=
  "[@".toList ++ test.name ++ "='".toList ++ test.value ++ "']".toList

/-- The text of a step in an expression -/
def Step.text (step : Step) : TString := '/' :: step.name ++ step.tests.flatMap AttributeTest.text

/-- The text of a path -/
def pathText (steps : List Step) : TString := steps.flatMap Step.text

/-- The text of a union of paths -/
def unionText : List (List Step) → TString
  | [] => []
  | steps :: rest => pathText steps ++ rest.flatMap fun steps => '|' :: pathText steps

/-- A name in an expression -/
structure IsPlainName (name : TString) : Prop where
  nonempty : name ≠ []
  plain : ∀ char ∈ name, isPlain char = true
  notNumber : isNumber name = false
  valid : checkValidXmlChars name = true

structure AttributeTest.Valid (test : AttributeTest) : Prop where
  name : IsPlainName test.name
  nonempty : test.value ≠ []
  value : ∀ char ∈ test.value, char ≠ '\'' ∧ char ≠ '\\'
  valid : checkValidXmlChars test.value = true

structure Step.Valid (step : Step) : Prop where
  name : step.name = ['*'] ∨ IsPlainName step.name
  tests : ∀ test ∈ step.tests, test.Valid

theorem Step.Valid.first {step : Step} (valid : step.Valid) :
    ∃ char rest, step.name = char :: rest ∧ char ≠ '/' := by
  rcases valid.name with star | plain
  · exact ⟨'*', [], star, by decide⟩
  · obtain ⟨char, rest, same⟩ := List.exists_cons_of_ne_nil plain.nonempty
    have first := plain.plain char (same ▸ List.mem_cons_self)
    refine ⟨char, rest, same, ?_⟩
    rintro rfl
    cases first

theorem isPlainName_iff {name : TString} : IsPlainName name ↔
    name ≠ [] ∧ name.all isPlain = true ∧ isNumber name = false ∧
      checkValidXmlChars name = true :=
  ⟨fun plain => ⟨plain.nonempty, List.all_eq_true.mpr plain.plain, plain.notNumber, plain.valid⟩,
    fun ⟨nonempty, plain, notNumber, valid⟩ =>
      ⟨nonempty, List.all_eq_true.mp plain, notNumber, valid⟩⟩

instance (name : TString) : Decidable (IsPlainName name) := decidable_of_iff _ isPlainName_iff.symm

theorem AttributeTest.valid_iff {test : AttributeTest} : test.Valid ↔ IsPlainName test.name ∧
    test.value ≠ [] ∧ test.value.all (fun char => char ≠ '\'' ∧ char ≠ '\\') = true ∧
      checkValidXmlChars test.value = true := by
  rw [List.all_eq_true]
  simp only [decide_eq_true_eq]
  exact ⟨fun test => ⟨test.name, test.nonempty, test.value, test.valid⟩,
    fun ⟨name, nonempty, value, valid⟩ => ⟨name, nonempty, value, valid⟩⟩

instance (test : AttributeTest) : Decidable test.Valid :=
  decidable_of_iff _ AttributeTest.valid_iff.symm

theorem Step.valid_iff {step : Step} : step.Valid ↔
    (step.name = ['*'] ∨ IsPlainName step.name) ∧ ∀ test ∈ step.tests, test.Valid :=
  ⟨fun valid => ⟨valid.name, valid.tests⟩, fun ⟨name, tests⟩ => ⟨name, tests⟩⟩

instance (step : Step) : Decidable step.Valid := decidable_of_iff _ Step.valid_iff.symm

/-- A path has a step, and all of them are valid. -/
structure ValidPath (steps : List Step) : Prop where
  nonempty : steps ≠ []
  valid : ∀ step ∈ steps, step.Valid

theorem validPath_iff {steps : List Step} :
    ValidPath steps ↔ steps ≠ [] ∧ ∀ step ∈ steps, step.Valid :=
  ⟨fun valid => ⟨valid.nonempty, valid.valid⟩, fun ⟨nonempty, valid⟩ => ⟨nonempty, valid⟩⟩

instance (steps : List Step) : Decidable (ValidPath steps) := decidable_of_iff _ validPath_iff.symm

/-! ### What paths lead to -/

/-- The step finds the tag. -/
def Step.matches (step : Step) (tag : Tag) : Bool :=
  (step.name = tag.head.name || step.name = ['*']) &&
    step.tests.all fun test => tag.head.findAttribute test.name = test.value

/-- The steps lead from a tag on a way to a tag below it. -/
inductive Leads : List Step → Tag → List Nat → Tag → Prop
  | arrives {step : Step} {tag : Tag} (found : step.matches tag = true) : Leads [step] tag [] tag
  | descends {step next : Step} {rest : List Step} {tag child last : Tag} {index : Nat}
      {way : List Nat} (found : step.matches tag = true)
      (stands : tag.children[index]? = some child) (leads : Leads (next :: rest) child way last) :
      Leads (step :: next :: rest) tag (index :: way) last

/-- The tags that the steps lead to, in the order of the text -/
def select : List Step → Tag → Found
  | [], _ => []
  | [step], tag => if step.matches tag then [([], tag)] else []
  | step :: next :: rest, tag =>
    if step.matches tag then
      tag.children.zipIdx.flatMap fun child => onWay [child.2] (select (next :: rest) child.1)
    else []

theorem mem_onWay {way : List Nat} {found : Found} {new : List Nat × Tag} :
    new ∈ onWay way found ↔ ∃ rest, new.1 = way ++ rest ∧ (rest, new.2) ∈ found := by
  rw [onWay, List.mem_map]
  constructor
  · rintro ⟨⟨rest, tag⟩, member, rfl⟩
    exact ⟨rest, rfl, member⟩
  · rintro ⟨rest, same, member⟩
    exact ⟨(rest, new.2), member, Prod.ext same.symm rfl⟩

theorem mem_select {steps : List Step} {tag last : Tag} {way : List Nat} :
    (way, last) ∈ select steps tag ↔ Leads steps tag way last := by
  induction steps generalizing tag way with
  | nil =>
    rw [select]
    exact ⟨fun member => absurd member List.not_mem_nil, fun leads => by cases leads⟩
  | cons step rest inductionHypothesis =>
    cases rest with
    | nil =>
      rw [select]
      split_ifs with found
      · rw [List.mem_singleton]
        constructor
        · rintro ⟨rfl, rfl⟩
          exact .arrives found
        · rintro ⟨⟩
          rfl
      · refine ⟨fun member => absurd member List.not_mem_nil, fun leads => ?_⟩
        cases leads
        contradiction
    | cons next rest =>
      rw [select]
      split_ifs with found
      · rw [List.mem_flatMap]
        constructor
        · rintro ⟨⟨child, index⟩, stands, member⟩
          obtain ⟨way, rfl, member⟩ := mem_onWay.mp member
          exact .descends found (List.mem_zipIdx_iff_getElem?.mp stands)
            (inductionHypothesis.mp member)
        · intro leads
          cases leads with
          | @descends _ _ _ _ child _ index _ _ stands leads =>
            exact ⟨(child, index), List.mem_zipIdx_iff_getElem?.mpr stands,
              mem_onWay.mpr ⟨_, rfl, inductionHypothesis.mpr leads⟩⟩
      · refine ⟨fun member => absurd member List.not_mem_nil, fun leads => ?_⟩
        cases leads
        contradiction

/-- A way leads to one tag. -/
theorem Leads.unique {steps others : List Step} {tag last other : Tag} {way : List Nat}
    (leads : Leads steps tag way last) (again : Leads others tag way other) : last = other := by
  induction leads generalizing others with
  | arrives => cases again; rfl
  | descends _ stands _ inductionHypothesis =>
    cases again with
    | descends _ standsAgain leads =>
      obtain rfl := Option.some.inj (stands.symm.trans standsAgain)
      exact inductionHypothesis leads

/-! ### Adding what is found -/

/-- Every tag is found once. -/
def Distinct (found : Found) : Prop := (found.map Prod.fst).Nodup

theorem add_eq {one two : Found} (distinct : Distinct two) :
    add one two = one ++ two.filter fun new => !one.any (·.1 = new.1) := by
  induction two generalizing one with
  | nil => exact (List.append_nil one).symm
  | cons new two inductionHypothesis =>
    rw [Distinct, List.map_cons, List.nodup_cons] at distinct
    have step : add one (new :: two) =
        add (if one.any (·.1 = new.1) then one else one ++ [new]) two := rfl
    rw [step, inductionHypothesis distinct.2, List.filter_cons]
    cases old : one.any (·.1 = new.1) with
    | true => rfl
    | false =>
      have same : (two.filter fun other => !(one ++ [new]).any (·.1 = other.1)) =
          two.filter fun other => !one.any (·.1 = other.1) := by
        refine List.filter_congr fun other member => ?_
        have different : new.1 ≠ other.1 := fun same =>
          distinct.1 (List.mem_map.mpr ⟨other, member, same.symm⟩)
        rw [List.any_append, List.any_cons, List.any_nil, decide_eq_false different,
          Bool.or_false, Bool.or_false]
      rw [if_neg (by simp), same, Bool.not_false, if_pos rfl, List.append_assoc]
      rfl

theorem Distinct.add {one two : Found} (first : Distinct one) (second : Distinct two) :
    Distinct (add one two) := by
  rw [add_eq second, Distinct, List.map_append]
  refine List.nodup_append.mpr ⟨first, second.sublist (List.filter_sublist.map _), ?_⟩
  rintro way old _ new rfl
  obtain ⟨found, member, rfl⟩ := List.mem_map.mp old
  obtain ⟨other, memberOther, same⟩ := List.mem_map.mp new
  have absent := (List.mem_filter.mp memberOther).2
  rw [Bool.not_eq_true', List.any_eq_false] at absent
  exact absent found member (decide_eq_true same.symm)

/-- What is found is in one of the parts, when the ways in both lead to the same tags. -/
theorem mem_add {one two : Found} (distinct : Distinct two)
    (agree : ∀ old ∈ one, ∀ new ∈ two, old.1 = new.1 → old = new) {new : List Nat × Tag} :
    new ∈ add one two ↔ new ∈ one ∨ new ∈ two := by
  rw [add_eq distinct, List.mem_append, List.mem_filter]
  constructor
  · rintro (old | ⟨member, -⟩)
    · exact Or.inl old
    · exact Or.inr member
  · rintro (old | member)
    · exact Or.inl old
    · cases found : one.any (·.1 = new.1) with
      | false => exact Or.inr ⟨member, rfl⟩
      | true =>
        obtain ⟨old, memberOld, same⟩ := List.any_eq_true.mp found
        rw [← agree old memberOld new member (of_decide_eq_true same)]
        exact Or.inl memberOld

theorem Distinct.onWay {found : Found} (distinct : Distinct found) (way : List Nat) :
    Distinct (onWay way found) := by
  have same : (XPath.onWay way found).map Prod.fst = (found.map Prod.fst).map (way ++ ·) := by
    rw [XPath.onWay, List.map_map, List.map_map]
    rfl
  rw [Distinct, same]
  exact List.Nodup.map (fun _ _ => List.append_cancel_left) distinct

/-- The ways into the children go apart: what is found there is put one after the other. -/
theorem foundBelow_eq {search : Tag → Found} (distinct : ∀ tag, Distinct (search tag))
    (children : List Tag) (start : Nat) (found : Found) (apart : Distinct found)
    (earlier : ∀ old ∈ found, ∃ index rest, old.1 = index :: rest ∧ index < start) :
    (children.zipIdx start).foldl
        (fun found child => add found (onWay [child.2] (search child.1))) found =
      found ++ (children.zipIdx start).flatMap (fun child => onWay [child.2] (search child.1)) ∧
    Distinct (found ++
      (children.zipIdx start).flatMap fun child => onWay [child.2] (search child.1)) := by
  induction children generalizing start found with
  | nil =>
    rw [List.zipIdx_nil, List.flatMap_nil, List.append_nil]
    exact ⟨rfl, apart⟩
  | cons child children inductionHypothesis =>
    have here := (distinct child).onWay [start]
    have added : add found (onWay [start] (search child)) =
        found ++ onWay [start] (search child) := by
      rw [add_eq here, List.filter_eq_self.mpr]
      intro new member
      rw [Bool.not_eq_true', List.any_eq_false]
      intro old memberOld same
      obtain ⟨index, rest, way, before⟩ := earlier old memberOld
      obtain ⟨below, wayNew, -⟩ := mem_onWay.mp member
      have heads := (way.symm.trans (of_decide_eq_true same)).trans wayNew
      rw [List.singleton_append, List.cons.injEq] at heads
      omega
    have apartNext := apart.add here
    rw [added] at apartNext
    have next := inductionHypothesis (start + 1) _ apartNext fun old member => by
      rcases List.mem_append.mp member with member | member
      · obtain ⟨index, rest, way, before⟩ := earlier old member
        exact ⟨index, rest, way, Nat.lt_succ_of_lt before⟩
      · obtain ⟨below, way, -⟩ := mem_onWay.mp member
        exact ⟨start, below, way, Nat.lt_succ_self start⟩
    rw [List.zipIdx_cons, List.foldl_cons, List.flatMap_cons, added, ← List.append_assoc]
    exact next

theorem distinct_select (steps : List Step) (tag : Tag) : Distinct (select steps tag) := by
  induction steps generalizing tag with
  | nil => exact List.nodup_nil
  | cons step rest inductionHypothesis =>
    cases rest with
    | nil =>
      rw [select]
      split_ifs
      · exact List.nodup_singleton _
      · exact List.nodup_nil
    | cons next rest =>
      rw [select]
      split_ifs
      · exact (foundBelow_eq inductionHypothesis tag.children 0 [] List.nodup_nil
          fun old member => absurd member List.not_mem_nil).2
      · exact List.nodup_nil

/-! ### The tokens of a path -/

/-- The token of what stands in a test -/
def AttributeTest.equation (test : AttributeTest) : Token :=
  .mk .operatorEq ['='] false
    [.mk .attribute test.name false [],
      .mk (if isNumber test.value then .integer else .literal) test.value false []]

/-- The token of a test -/
def AttributeTest.token (test : AttributeTest) : Token := test.equation.asPredicate

/-- The token of a step, with what comes after it -/
def Step.token (step : Step) (children : List Token) : Token :=
  .mk .element step.name false (step.tests.map AttributeTest.token ++ children)

/-- The tokens of a path, each a child of the one before -/
def pathToken : List Step → Option Token
  | [] => none
  | step :: rest => some (step.token (pathToken rest).toList)

theorem isPredicate_pathToken {steps : List Step} {token : Token}
    (same : pathToken steps = some token) : token.isPredicate = false := by
  cases steps with
  | nil => cases same
  | cons step rest =>
    cases same
    rfl

theorem equals_test (test : AttributeTest) (tag : Tag) (finds : Bool) :
    evaluateBoolean finds test.token tag =
      decide (tag.head.findAttribute test.name = test.value) := by
  unfold AttributeTest.token AttributeTest.equation
  split <;> rfl

theorem evaluatePredicates_tests (tests : List AttributeTest) {children : List Token}
    (others : ∀ token ∈ children, token.isPredicate = false) (tag : Tag) :
    evaluatePredicates (tests.map AttributeTest.token ++ children) tag =
      tests.all fun test => tag.head.findAttribute test.name = test.value := by
  induction tests with
  | nil =>
    induction children with
    | nil => rfl
    | cons token children inductionHypothesis =>
      rw [List.map_nil, List.nil_append, evaluatePredicates,
        others token List.mem_cons_self, Bool.not_false, Bool.true_or, Bool.true_and]
      exact inductionHypothesis fun token member => others token (List.mem_cons_of_mem _ member)
  | cons test tests inductionHypothesis =>
    rw [List.map_cons, List.cons_append, evaluatePredicates, inductionHypothesis, equals_test,
      List.all_cons]
    rfl

theorem evaluateChildren_tests (tests : List AttributeTest) (children : List Token)
    (found : Found) (tag : Tag) :
    evaluateChildren (tests.map AttributeTest.token ++ children) found tag =
      evaluateChildren children found tag := by
  induction tests with
  | nil => rfl
  | cons test tests inductionHypothesis =>
    rw [List.map_cons, List.cons_append, evaluateChildren]
    exact inductionHypothesis

theorem all_isPredicate (tests : List AttributeTest) (children : List Token) :
    (tests.map AttributeTest.token ++ children).all Token.isPredicate =
      children.all Token.isPredicate := by
  rw [List.all_append, List.all_map]
  have tests : tests.all (Token.isPredicate ∘ AttributeTest.token) = true :=
    List.all_eq_true.mpr fun _ _ => rfl
  rw [tests, Bool.true_and]

theorem evaluateTagList_step (step : Step) {children : List Token}
    (others : ∀ token ∈ children, token.isPredicate = false) (tag : Tag) :
    evaluateTagList (step.token children) tag =
      if step.matches tag then
        if children.isEmpty then [([], tag)] else evaluateChildren children [] tag
      else [] := by
  have noPredicate : children.all Token.isPredicate = children.isEmpty := by
    cases children with
    | nil => rfl
    | cons token children =>
      rw [List.all_cons, others token List.mem_cons_self]
      rfl
  rw [Step.token, evaluateTagList, evaluateElement, evaluatePredicates_tests _ others,
    evaluateChildren_tests, all_isPredicate, noPredicate, Step.matches]
  by_cases named : step.name = tag.head.name ∨ step.name = ['*']
  · have names : (decide (step.name = tag.head.name) || decide (step.name = ['*'])) = true := by
      rwa [Bool.or_eq_true, decide_eq_true_iff, decide_eq_true_iff]
    rw [if_pos named, names, Bool.true_and]
    cases step.tests.all fun test => decide (tag.head.findAttribute test.name = test.value) <;> rfl
  · have names : (decide (step.name = tag.head.name) || decide (step.name = ['*'])) = false := by
      rw [← Bool.not_eq_true, Bool.or_eq_true, decide_eq_true_iff, decide_eq_true_iff]
      exact named
    rw [if_neg named, names, Bool.false_and]
    rfl

/-- The tokens of a path find what the path leads to. -/
theorem evaluateTagList_pathToken {steps : List Step} {token : Token}
    (same : pathToken steps = some token) (tag : Tag) :
    evaluateTagList token tag = select steps tag := by
  induction steps generalizing token tag with
  | nil => cases same
  | cons step rest inductionHypothesis =>
    obtain rfl := Option.some.inj same
    cases rest with
    | nil => exact evaluateTagList_step step (fun _ member => absurd member List.not_mem_nil) tag
    | cons next rest =>
      have search : evaluateTagList (next.token (pathToken rest).toList) =
          select (next :: rest) := funext fun tag => inductionHypothesis rfl tag
      have others : ∀ token ∈ (pathToken (next :: rest)).toList, token.isPredicate = false :=
        fun token member => isPredicate_pathToken (Option.mem_toList.mp member)
      have below := (foundBelow_eq (distinct_select (next :: rest)) tag.children 0 []
        List.nodup_nil fun old member => absurd member List.not_mem_nil).1
      rw [evaluateTagList_step step others, select]
      refine if_congr Iff.rfl ?_ rfl
      show evaluateChildren [next.token (pathToken rest).toList] [] tag = _
      rw [evaluateChildren, evaluateChildren, search]
      exact below

/-! ### Reading a path -/

/-- With enough fuel, the parser returns this. -/
def Parses (border : TokenType) (state : ParseState) (text : TString)
    (result : Option Token × TString) : Prop :=
  ∀ fuel, text.length < fuel → parse border fuel state text = some result

/-- The token that is read can be closed, and then there are these tokens. -/
def Closes (state : ParseState) (spine : List Token) : Prop :=
  state.closePreviousToken = some ⟨spine, .element, []⟩

theorem closes_spine (spine : List Token) : Closes ⟨spine, .element, []⟩ spine := rfl

theorem closes_name {name : TString} (plain : IsPlainName name) (type : TokenType)
    (spine : List Token) : Closes ⟨spine, type, name⟩ (.mk type name false [] :: spine) := by
  rw [Closes, ParseState.closePreviousToken, if_neg plain.nonempty, ParseState.addToken,
    if_pos plain.valid]
  dsimp only
  rw [if_neg (by rw [plain.notNumber]; decide)]
  rfl

theorem closes_value {value : TString} (nonempty : value ≠ [])
    (valid : checkValidXmlChars value = true) (spine : List Token) :
    Closes ⟨spine, .literal, value⟩
      (.mk (if isNumber value then .integer else .literal) value false [] :: spine) := by
  rw [Closes, ParseState.closePreviousToken, if_neg nonempty, ParseState.addToken, if_pos valid]
  cases isNumber value <;> rfl

section reading

variable {border : TokenType} {state : ParseState} {spine : List Token} {char : Char}
  {rest : TString} {result : Option Token × TString}

/-- A step of the parser, from the characters that are left -/
theorem Parses.of_step {text : TString}
    (step : ∀ fuel, text.length ≤ fuel → parse border (fuel + 1) state text = some result) :
    Parses border state text result := by
  intro fuel enough
  obtain ⟨fuel, rfl⟩ := Nat.exists_eq_succ_of_ne_zero (Nat.ne_zero_of_lt enough)
  exact step fuel (Nat.le_of_lt_succ enough)

theorem isPlain.ne {other : Char} (plain : isPlain char = true) (special : isPlain other = false) :
    char ≠ other := by
  rintro rfl
  rw [plain] at special
  cases special

theorem isPlain.getType (plain : isPlain char = true) : getType char = none := by
  unfold XPath.getType
  split
  · cases plain
  · cases plain
  · rfl

theorem isPlain.leftOut (plain : isPlain char = true) : leftOut char = false := by
  have noneOfThese : ("()+<>\\".toList.all fun other => !isPlain other) = true := rfl
  rw [← Bool.not_eq_true, XPath.leftOut, List.contains_iff_mem]
  intro member
  have special := List.all_eq_true.mp noneOfThese char member
  rw [plain] at special
  cases special

theorem Parses.plain (plain : isPlain char = true)
    (next : Parses border { state with token := state.token ++ [char] } rest result) :
    Parses border state (char :: rest) result := by
  refine .of_step fun fuel enough => ?_
  have ne := fun other => @isPlain.ne char other plain
  have same := next fuel enough
  rw [parse]
  by_cases literal : state.type = .literalInside ∧ char ≠ '\'' ∧ char ≠ '\\'
  · rwa [if_pos literal]
  · rw [if_neg literal, isPlain.getType plain, if_neg (by rw [isPlain.leftOut plain]; decide),
      if_neg (ne '/' rfl), if_neg (ne ']' rfl), if_neg (ne '[' rfl), if_neg (ne '\'' rfl),
      if_neg (ne '@' rfl), if_neg (ne '.' rfl), if_neg (ne '*' rfl)]
    exact same

theorem Parses.word {word : TString} (plain : ∀ char ∈ word, isPlain char = true)
    (next : Parses border { state with token := state.token ++ word } rest result) :
    Parses border state (word ++ rest) result := by
  induction word generalizing state with
  | nil => rwa [List.append_nil] at next
  | cons char word inductionHypothesis =>
    refine .plain (plain char List.mem_cons_self) (inductionHypothesis (fun other member =>
      plain other (List.mem_cons_of_mem _ member)) ?_)
    rwa [List.append_assoc, List.singleton_append]

theorem Parses.inLiteral {value token : TString}
    (valid : ∀ char ∈ value, char ≠ '\'' ∧ char ≠ '\\')
    (next : Parses border ⟨spine, .literalInside, token ++ value⟩ rest result) :
    Parses border ⟨spine, .literalInside, token⟩ (value ++ rest) result := by
  induction value generalizing token with
  | nil => rwa [List.append_nil] at next
  | cons char value inductionHypothesis =>
    refine .of_step fun fuel enough => ?_
    obtain ⟨noQuote, noBackslash⟩ := valid char List.mem_cons_self
    rw [List.cons_append, parse, if_pos ⟨rfl, noQuote, noBackslash⟩]
    refine inductionHypothesis (fun other member => valid other (List.mem_cons_of_mem _ member))
      ?_ fuel enough
    rwa [List.append_assoc, List.singleton_append]

/-- A slash closes what is read. -/
theorem Parses.slash (closes : Closes state spine) (first : rest.head? ≠ some '/')
    (inside : state.type ≠ .literalInside) (next : Parses border ⟨spine, .element, []⟩ rest result) :
    Parses border state ('/' :: rest) result := by
  refine .of_step fun fuel enough => ?_
  rw [parse, if_neg (fun literal => inside literal.1), if_neg (by decide), if_pos rfl, closes]
  dsimp only
  rw [if_neg first]
  exact next fuel enough

theorem Parses.star (next : Parses border ⟨.mk .element ['*'] false [] :: spine, .element, []⟩
    rest result) : Parses border ⟨spine, .element, []⟩ ('*' :: rest) result := by
  refine .of_step fun fuel enough => ?_
  exact next fuel enough

/-- A bracket closes the value of a test. -/
theorem Parses.bracket (closes : Closes state spine) (inside : state.type ≠ .literalInside) :
    Parses border state (']' :: rest) (ParseState.root ⟨spine, .element, []⟩, ']' :: rest) := by
  refine .of_step fun fuel enough => ?_
  rw [parse, if_neg (fun literal => inside literal.1), if_neg (by decide), if_neg (by decide),
    if_pos rfl, closes]
  rfl

theorem Parses.value {test : AttributeTest} (valid : test.Valid) :
    Parses border .new ('\'' :: test.value ++ '\'' :: ']' :: rest)
      (some (.mk (if isNumber test.value then .integer else .literal) test.value false []),
        ']' :: rest) := by
  have close : Parses border ⟨[], .literal, test.value⟩ (']' :: rest) _ :=
    .bracket (closes_value valid.nonempty valid.valid []) (by rintro ⟨⟩)
  have quote : Parses border ⟨[], .literalInside, test.value⟩ ('\'' :: ']' :: rest) _ :=
    .of_step fun fuel enough => close fuel enough
  exact .of_step fun fuel enough => Parses.inLiteral valid.value quote fuel enough

/-- The inside of a test -/
theorem Parses.equation {test : AttributeTest} (valid : test.Valid) :
    Parses .rightBracket .new
      ('@' :: (test.name ++ '=' :: ('\'' :: test.value ++ '\'' :: ']' :: rest)))
      (some test.equation, ']' :: rest) := by
  have argument : Parses .operatorEq .new ('\'' :: test.value ++ '\'' :: ']' :: rest) _ :=
    .value valid
  have operator : Parses .rightBracket ⟨[], .attribute, test.name⟩
      ('=' :: ('\'' :: test.value ++ '\'' :: ']' :: rest)) _ := .of_step fun fuel enough => by
    rw [parse, if_neg (by rintro ⟨⟨⟩, _⟩), if_neg (by decide), if_neg (by decide),
      if_neg (by decide), if_neg (by decide), if_neg (by decide), if_neg (by decide),
      if_neg (by decide), if_neg (by decide), closes_name valid.name .attribute [],
      show getType '=' = some .operatorEq from rfl]
    dsimp only
    rw [if_neg (by decide), argument fuel enough]
    dsimp only
    rw [if_pos rfl]
  exact .of_step fun fuel enough => Parses.word valid.name.plain operator fuel enough

theorem Parses.test {test : AttributeTest} {current : Token} (valid : test.Valid)
    (closes : Closes state (current :: spine)) (inside : state.type ≠ .literalInside)
    (next : Parses border ⟨current.addChild test.token :: spine, .element, []⟩ rest result) :
    Parses border state (test.text ++ rest) result := by
  have text : test.text ++ rest =
      '[' :: '@' :: (test.name ++ '=' :: ('\'' :: test.value ++ '\'' :: ']' :: rest)) := by
    simp [AttributeTest.text]
  rw [text]
  refine .of_step fun fuel enough => ?_
  rw [parse, if_neg (fun literal => inside literal.1), if_neg (by decide), if_neg (by decide),
    if_neg (by decide), if_pos rfl, closes]
  dsimp only
  have added : ParseState.addPredicate (some test.equation) ⟨current :: spine, .element, []⟩ =
    some ⟨current.addChild test.token :: spine, .element, []⟩ := rfl
  rw [Parses.equation valid fuel enough]
  dsimp only
  rw [added]
  refine next fuel ?_
  simp only [List.length_cons, List.length_append] at enough
  omega

theorem Parses.tests {tests : List AttributeTest} {name : TString} {children : List Token}
    (valid : ∀ test ∈ tests, test.Valid)
    (closes : Closes state (.mk .element name false children :: spine))
    (inside : state.type ≠ .literalInside)
    (next : ∀ after, Closes after
        (.mk .element name false (children ++ tests.map AttributeTest.token) :: spine) →
      after.type ≠ .literalInside → Parses border after rest result) :
    Parses border state (tests.flatMap AttributeTest.text ++ rest) result := by
  induction tests generalizing state children with
  | nil =>
    rw [List.map_nil, List.append_nil] at next
    exact next state closes inside
  | cons test tests inductionHypothesis =>
    rw [List.flatMap_cons, List.append_assoc]
    refine .test (valid test List.mem_cons_self) closes inside ?_
    refine inductionHypothesis (fun other member => valid other (List.mem_cons_of_mem _ member))
      (closes_spine _) (by rintro ⟨⟩) fun after closesAfter => ?_
    rw [List.append_assoc] at closesAfter
    exact next after closesAfter

theorem Parses.step {step : Step} (valid : step.Valid) (closes : Closes state spine)
    (inside : state.type ≠ .literalInside)
    (next : ∀ after, Closes after (step.token [] :: spine) → after.type ≠ .literalInside →
      Parses border after rest result) :
    Parses border state (step.text ++ rest) result := by
  have tests : ∀ after, Closes after (.mk .element step.name false [] :: spine) →
      after.type ≠ .literalInside →
      Parses border after (step.tests.flatMap AttributeTest.text ++ rest) result := by
    intro after closesAfter insideAfter
    refine .tests valid.tests closesAfter insideAfter fun last closesLast => next last ?_
    rwa [Step.token, List.append_nil]
  have text : step.text ++ rest =
      '/' :: (step.name ++ (step.tests.flatMap AttributeTest.text ++ rest)) := by
    rw [Step.text, List.cons_append, List.cons_append, List.append_assoc]
  rw [text]
  rcases valid.name with star | plain
  · rw [star] at tests ⊢
    exact .slash closes (by rintro ⟨⟩) inside (.star (tests _ (closes_spine _) (by rintro ⟨⟩)))
  · refine .slash closes ?_ inside
      (.word plain.plain (tests _ (closes_name plain .element spine) (by rintro ⟨⟩)))
    obtain ⟨char, name, same, noSlash⟩ := valid.first
    rw [same]
    exact fun slash => noSlash (Option.some.inj slash)

theorem Parses.path {steps : List Step} (valid : ∀ step ∈ steps, step.Valid)
    (closes : Closes state spine) (inside : state.type ≠ .literalInside)
    (next : ∀ after, Closes after ((steps.map (Step.token · [])).reverse ++ spine) →
      after.type ≠ .literalInside → Parses border after rest result) :
    Parses border state (pathText steps ++ rest) result := by
  induction steps generalizing state spine with
  | nil => exact next state closes inside
  | cons step steps inductionHypothesis =>
    rw [pathText, List.flatMap_cons, List.append_assoc]
    refine .step (valid step List.mem_cons_self) closes inside fun after closesAfter insideAfter =>
      inductionHypothesis (fun other member => valid other (List.mem_cons_of_mem _ member))
        closesAfter insideAfter fun last closesLast => next last ?_
    rwa [List.map_cons, List.reverse_cons, List.append_assoc]

theorem Parses.ends (closes : Closes state spine) :
    Parses border state [] (ParseState.root ⟨spine, .element, []⟩, []) := by
  refine .of_step fun fuel enough => ?_
  rw [Closes, ParseState.closePreviousToken] at closes
  rw [parse]
  split_ifs at closes ⊢ with empty
  · rw [Option.some.inj closes]
  · obtain ⟨added, found, same⟩ := Option.map_eq_some_iff.mp closes
    rw [found, Option.map_some]
    have spines : added.spine = spine := congrArg ParseState.spine same
    rw [← spines]
    rfl

theorem Parses.bar (closes : Closes state spine) (inside : state.type ≠ .literalInside) :
    Parses .union state ('|' :: rest)
      (ParseState.root ⟨spine, .element, []⟩, '|' :: rest) := by
  refine .of_step fun fuel enough => ?_
  rw [parse, if_neg (fun literal => inside literal.1), if_neg (by decide), if_neg (by decide),
    if_neg (by decide), if_neg (by decide), if_neg (by decide), if_neg (by decide),
    if_neg (by decide), if_neg (by decide), show getType '|' = some .union from rfl]
  dsimp only
  rw [closes]
  rfl

theorem Parses.union {token other : Token} {tail : TString} (closes : Closes state spine)
    (inside : state.type ≠ .literalInside)
    (root : ParseState.root ⟨spine, .element, []⟩ = some token)
    (argument : Parses .union .new rest (some other, tail)) (shorter : tail.length ≤ rest.length)
    (next : Parses .none ⟨[.mk .union ['|'] false [token, other]], .element, []⟩ tail.tail
      result) :
    Parses .none state ('|' :: rest) result := by
  refine .of_step fun fuel enough => ?_
  rw [parse, if_neg (fun literal => inside literal.1), if_neg (by decide), if_neg (by decide),
    if_neg (by decide), if_neg (by decide), if_neg (by decide), if_neg (by decide),
    if_neg (by decide), if_neg (by decide), show getType '|' = some .union from rfl]
  dsimp only
  rw [closes]
  dsimp only
  rw [if_neg (by decide), argument fuel enough]
  dsimp only
  rw [if_neg (by decide), ParseState.addOperator, root]
  refine next fuel ?_
  have tails : tail.tail.length ≤ tail.length := by rw [List.length_tail]; omega
  exact Nat.lt_of_le_of_lt (tails.trans shorter) enough

end reading

/-! ### Reading a union -/

/-- The tokens of a path hang below the token that was read before. -/
theorem root_path {steps : List Step} {token : Token} (same : pathToken steps = some token)
    (spine : List Token) :
    ParseState.root ⟨(steps.map (Step.token · [])).reverse ++ spine, .element, []⟩ =
      ParseState.root ⟨token :: spine, .element, []⟩ := by
  induction steps generalizing token spine with
  | nil => cases same
  | cons step rest inductionHypothesis =>
    obtain rfl := Option.some.inj same
    cases rest with
    | nil => rfl
    | cons next rest =>
      rw [List.map_cons, List.reverse_cons, List.append_assoc, inductionHypothesis rfl]
      have hang : (step.token []).addChild (next.token (pathToken rest).toList) =
          step.token (pathToken (next :: rest)).toList := by
        rw [Step.token, List.append_nil]
        rfl
      exact congrArg (fun child => some (spine.foldl (fun child token => token.addChild child) child))
        hang

theorem ValidPath.pathToken {steps : List Step} (valid : ValidPath steps) :
    ∃ token, pathToken steps = some token := by
  obtain ⟨step, rest, rfl⟩ := List.exists_cons_of_ne_nil valid.nonempty
  exact ⟨_, rfl⟩

theorem ValidPath.parses {steps : List Step} (valid : ValidPath steps) {spine : List Token}
    {token : Token} (same : XPath.pathToken steps = some token) {border : TokenType}
    {rest : TString} {result : Option Token × TString}
    (next : ∀ after spineAfter, Closes after spineAfter → after.type ≠ .literalInside →
      ParseState.root ⟨spineAfter, .element, []⟩ = ParseState.root ⟨token :: spine, .element, []⟩ →
      Parses border after rest result) :
    Parses border ⟨spine, .element, []⟩ (pathText steps ++ rest) result :=
  .path valid.valid (closes_spine spine) (by rintro ⟨⟩) fun after closes inside =>
    next after _ closes inside (root_path same spine)

/-- The union of what was found before and what the alternatives lead to -/
def selectUnion (alternatives : List (List Step)) (found : Found) (tag : Tag) : Found :=
  alternatives.foldl (fun found steps => add found (select steps tag)) found

theorem distinct_selectUnion (alternatives : List (List Step)) {found : Found}
    (distinct : Distinct found) (tag : Tag) : Distinct (selectUnion alternatives found tag) := by
  induction alternatives generalizing found with
  | nil => exact distinct
  | cons steps rest inductionHypothesis =>
    exact inductionHypothesis (distinct.add (distinct_select steps tag))

theorem add_nil {found : Found} (distinct : Distinct found) : add [] found = found := by
  rw [add_eq distinct]
  exact List.filter_eq_self.mpr fun _ _ => rfl

/-- The parser takes two of the alternatives at a time: the path after a bar is an argument of
the union, and since the parser then goes on behind the next bar, the path that follows hangs
below the union too. -/
theorem parses_alternatives (rest : List (List Step)) (valid : ∀ steps ∈ rest, ValidPath steps)
    (token : Token) (distinct : ∀ tag, Distinct (evaluateTagList token tag)) :
    ∃ last,
      (∀ state spine, Closes state spine → state.type ≠ .literalInside →
        ParseState.root ⟨spine, .element, []⟩ = some token →
        Parses .none state (rest.flatMap fun steps => '|' :: pathText steps) (some last, [])) ∧
      ∀ tag, evaluateTagList last tag = selectUnion rest (evaluateTagList token tag) tag := by
  match rest with
  | [] =>
    refine ⟨token, fun state spine closes inside root => ?_, fun tag => rfl⟩
    rw [← root]
    exact .ends closes
  | [steps] =>
    have validSteps := valid steps List.mem_cons_self
    obtain ⟨other, same⟩ := validSteps.pathToken
    refine ⟨.mk .union ['|'] false [token, other], fun state spine closes inside root => ?_,
      fun tag => ?_⟩
    · have argument : Parses .union .new (pathText steps ++ []) (some other, []) :=
        validSteps.parses same fun after spineAfter closesAfter insideAfter rootAfter => by
          have last : ParseState.root ⟨spineAfter, .element, []⟩ = some other := rootAfter
          rw [← last]
          exact .ends closesAfter
      exact .union closes inside root argument (Nat.zero_le _) (.ends (closes_spine _))
    · rw [evaluateTagList, evaluateUnion, evaluateUnion, evaluateUnion, add_nil (distinct tag),
        evaluateTagList_pathToken same]
      rfl
  | steps :: next :: more =>
    have validSteps := valid steps List.mem_cons_self
    have validNext := valid next (List.mem_cons_of_mem _ List.mem_cons_self)
    obtain ⟨other, same⟩ := validSteps.pathToken
    obtain ⟨third, sameNext⟩ := validNext.pathToken
    have evaluates : ∀ tag, evaluateTagList (.mk .union ['|'] false [token, other, third]) tag =
        selectUnion [steps, next] (evaluateTagList token tag) tag := fun tag => by
      rw [evaluateTagList, evaluateUnion, evaluateUnion, evaluateUnion, evaluateUnion,
        add_nil (distinct tag), evaluateTagList_pathToken same, evaluateTagList_pathToken sameNext]
      rfl
    obtain ⟨last, reads, finds⟩ := parses_alternatives more
      (fun steps member => valid steps (List.mem_cons_of_mem _ (List.mem_cons_of_mem _ member)))
      (.mk .union ['|'] false [token, other, third])
      fun tag => (evaluates tag).symm ▸ distinct_selectUnion _ (distinct tag) tag
    refine ⟨last, fun state spine closes inside root => ?_, fun tag => ?_⟩
    · let text := more.flatMap fun steps => '|' :: pathText steps
      have argument : Parses .union .new (pathText steps ++ '|' :: (pathText next ++ text))
          (some other, '|' :: (pathText next ++ text)) :=
        validSteps.parses same fun after spineAfter closesAfter insideAfter rootAfter => by
          have last : ParseState.root ⟨spineAfter, .element, []⟩ = some other := rootAfter
          rw [← last]
          exact .bar closesAfter insideAfter
      refine .union closes inside root argument (List.suffix_append _ _).length_le ?_
      exact validNext.parses sameNext fun after spineAfter closesAfter insideAfter rootAfter =>
        reads after spineAfter closesAfter insideAfter rootAfter
    · rw [finds, evaluates]
      rfl

/-! ### What an expression finds -/

theorem unionText_ne {steps : List Step} {rest : List (List Step)} (valid : ValidPath steps) :
    ¬ (unionText (steps :: rest) = "/".toList ∨ unionText (steps :: rest) = "//".toList) := by
  obtain ⟨step, path, rfl⟩ := List.exists_cons_of_ne_nil valid.nonempty
  obtain ⟨char, name, same, noSlash⟩ := (valid.valid step List.mem_cons_self).first
  have text : unionText ((step :: path) :: rest) = '/' :: char :: (name ++
      (step.tests.flatMap AttributeTest.text ++ (pathText path ++
        rest.flatMap fun steps => '|' :: pathText steps))) := by
    simp [unionText, pathText, Step.text, same]
  rw [text]
  rintro (slash | slashes)
  · cases (List.cons.inj slash).2
  · exact noSlash (List.cons.inj (List.cons.inj slashes).2).1

/-- The expression of a union finds what its paths lead to, in their order. -/
theorem findTagList_unionText {steps : List Step} {rest : List (List Step)}
    (valid : ∀ alternative ∈ steps :: rest, ValidPath alternative) (tag : Tag) :
    findTagList (unionText (steps :: rest)) tag = some (selectUnion rest (select steps tag) tag) := by
  have validSteps := valid steps List.mem_cons_self
  obtain ⟨token, same⟩ := validSteps.pathToken
  have first : ∀ tag, evaluateTagList token tag = select steps tag :=
    evaluateTagList_pathToken same
  obtain ⟨last, reads, finds⟩ := parses_alternatives rest
    (fun alternative member => valid alternative (List.mem_cons_of_mem _ member)) token
    fun tag => (first tag).symm ▸ distinct_select steps tag
  have parsed : Parses .none .new (unionText (steps :: rest)) (some last, []) :=
    validSteps.parses same fun after spineAfter closes inside root =>
      reads after spineAfter closes inside root
  have proper := @unionText_ne steps rest validSteps
  rw [findTagList, if_neg proper, parsed _ (Nat.lt_succ_self _), Option.map_some]
  dsimp only
  rw [finds, first]

theorem mem_selectUnion {alternatives : List (List Step)} {found : Found} {tag : Tag}
    (earlier : ∀ old ∈ found, ∃ steps, Leads steps tag old.1 old.2) {new : List Nat × Tag} :
    new ∈ selectUnion alternatives found tag ↔
      new ∈ found ∨ ∃ steps ∈ alternatives, Leads steps tag new.1 new.2 := by
  induction alternatives generalizing found with
  | nil => simp [selectUnion]
  | cons steps rest inductionHypothesis =>
    have agree : ∀ old ∈ found, ∀ new ∈ select steps tag, old.1 = new.1 → old = new := by
      intro old member new memberNew same
      obtain ⟨others, leads⟩ := earlier old member
      exact Prod.ext same (leads.unique (same ▸ mem_select.mp memberNew))
    have split : ∀ {new}, new ∈ add found (select steps tag) ↔
        new ∈ found ∨ Leads steps tag new.1 new.2 := fun {new} =>
      (mem_add (distinct_select steps tag) agree).trans (or_congr_right mem_select)
    have next := @inductionHypothesis (add found (select steps tag)) fun old member => by
      rcases split.mp member with member | leads
      · exact earlier old member
      · exact ⟨steps, leads⟩
    rw [List.exists_mem_cons_iff, ← or_assoc, ← split]
    exact next

namespace Example

/-- The paths of the filter for errors -/
def errorPaths : List (List Step) :=
  ["iq", "message", "presence", "subscription"].map fun name =>
    [⟨name.toList, []⟩, ⟨"error".toList, []⟩]

end Example

/-- gloox finds each tag that one of the paths leads to, and no tag twice, though its parser
reads a union of more than two paths as if the third hung below the first two. -/
theorem findTagList_iff {alternatives : List (List Step)} (nonempty : alternatives ≠ [])
    (valid : ∀ steps ∈ alternatives, ValidPath steps) (tag : Tag) :
    ∃ found, findTagList (unionText alternatives) tag = some found ∧
      (found.map Prod.fst).Nodup ∧
      ∀ way last, (way, last) ∈ found ↔ ∃ steps ∈ alternatives, Leads steps tag way last := by
  obtain ⟨steps, rest, rfl⟩ := List.exists_cons_of_ne_nil nonempty
  refine ⟨_, findTagList_unionText valid tag,
    distinct_selectUnion rest (distinct_select steps tag) tag, fun way last => ?_⟩
  rw [mem_selectUnion fun old member => ⟨steps, mem_select.mp member⟩, mem_select,
    List.exists_mem_cons_iff]

open XPath.Example in
theorem findTagList_iff_error :
    unionText errorPaths =
        "/iq/error|/message/error|/presence/error|/subscription/error".toList ∧
      ∃ found, findTagList (unionText errorPaths) ⟨.new "message".toList,
          [.tag (.new "body".toList) [], .tag (.new "error".toList) []]⟩ = some found ∧
        (found.map Prod.fst).Nodup ∧
        ∀ way last, (way, last) ∈ found ↔ ∃ steps ∈ errorPaths, Leads steps ⟨.new "message".toList,
          [.tag (.new "body".toList) [], .tag (.new "error".toList) []]⟩ way last :=
  ⟨rfl, findTagList_iff (by decide) (by decide +kernel) _⟩

end JnTapi.Gloox.XPath
