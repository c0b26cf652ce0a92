/-
This file models `Tag::findTagList`: how gloox reads an XPath expression as a tree of tokens,
and which tags the tree finds.

The tokens of gloox are tags themselves; here they have a type of their own. A tag that is
found is known by the way to it from the tag that the search began at. Parentheses, `..`,
the operators `+`, `<` and `>`, numbers as steps or predicates and backslashes in an
expression are left out: `parse` has no result for them.
-/

import JnTapi.Gloox.Tag

namespace JnTapi.Gloox

/-- `Tag::children` -/
def Tag.children (tag : Tag) : List Tag :=
  tag.nodes.filterMap fun
    | .tag head nodes => some ⟨head, nodes⟩
    | .string _ => none

namespace XPath

/-! ### Expressions -/

/-- `Tag::TokenType` -/
inductive TokenType
  | none
  | integer
  | element
  | rightBracket
  | attribute
  | literalInside
  | literal
  | dot
  | operatorEq
  | union
  | doubleSlash
deriving DecidableEq, Repr

/-- The value in the enumeration -/
def TokenType.value : TokenType → Nat
  | .none => 0
  | .integer => 4
  | .element => 5
  | .rightBracket => 7
  | .attribute => 10
  | .literalInside => 11
  | .literal => 12
  | .dot => 13
  | .operatorEq => 17
  | .union => 28
  | .doubleSlash => 30

/-- A token, with its attribute `predicate` -/
inductive Token
  | mk (type : TokenType) (name : TString) (isPredicate : Bool) (children : List Token)
deriving Repr

namespace Token

def type : Token → TokenType
  | mk type _ _ _ => type

def name : Token → TString
  | mk _ name _ _ => name

def isPredicate : Token → Bool
  | mk _ _ isPredicate _ => isPredicate

def children : Token → List Token
  | mk _ _ _ children => children

/-- `addChild` -/
def addChild : Token → Token → Token
  | mk type name isPredicate children, child => mk type name isPredicate (children ++ [child])

/-- The token as a predicate -/
def asPredicate : Token → Token
  | mk type name _ children => mk type name true children

end Token

/-- `Tag::isNumber` -/
def isNumber (name : TString) : Bool := name ≠ [] && name.all Char.isDigit

/-- The variables of `Tag::parse`. Of the tokens, `current` comes first, and each is a child of
the next; `root` is the last. -/
structure ParseState where
  spine : List Token
  type : TokenType
  token : TString
deriving Repr

namespace ParseState

def new : ParseState := ⟨[], .element, []⟩

/-- The tree with the tokens of the spine -/
def root (state : ParseState) : Option Token :=
  match state.spine with
  | [] => none
  | current :: rest => some (rest.foldl (fun child token => token.addChild child) current)

/-- `Tag::addToken` -/
def addToken (token : TString) (state : ParseState) : Option ParseState :=
  let name := if checkValidXmlChars token then token else []
  if isNumber name then
    if state.type = .literal then
      some { state with spine := .mk .integer name false [] :: state.spine }
    else none
  else some { state with spine := .mk state.type name false [] :: state.spine }

/-- `Tag::closePreviousToken` -/
def closePreviousToken (state : ParseState) : Option ParseState :=
  if state.token = [] then some state
  else (state.addToken state.token).map fun state => { state with type := .element, token := [] }

/-- `Tag::addOperator` -/
def addOperator (type : TokenType) (name : TString) (argument : Option Token)
    (state : ParseState) : ParseState :=
  { state with spine := [.mk type name false (state.root.toList ++ argument.toList)] }

/-- `Tag::addPredicate`; a number is left out, and no token is a null pointer. -/
def addPredicate (predicate : Option Token) (state : ParseState) : Option ParseState :=
  match state.spine with
  | [] => some state
  | current :: rest =>
    match predicate with
    | some token =>
      if isNumber token.name && token.children.isEmpty then none
      else some { state with spine := current.addChild token.asPredicate :: rest }
    | none => none

end ParseState

/-- `Tag::getType`, for the operators of the model -/
def getType : Char → Option TokenType
  | '=' => some .operatorEq
  | '|' => some .union
  | _ => none

/-- The characters of an expression that the model leaves out -/
def leftOut (char : Char) : Bool := "()+<>\\".toList.contains char

/-- `Tag::parse`: the tree and the rest of the expression, from the character that the function
returned at -/
def parse (border : TokenType) : Nat → ParseState → TString → Option (Option Token × TString)
  | 0, _, _ => none
  | _ + 1, state, [] =>
    if state.token = [] then some (state.root, [])
    else (state.addToken state.token).map fun state => (state.root, [])
  | fuel + 1, state, char :: rest =>
    if state.type = .literalInside ∧ char ≠ '\'' ∧ char ≠ '\\' then
      parse border fuel { state with token := state.token ++ [char] } rest
    else if leftOut char then none
    else if char = '/' then
      match state.closePreviousToken with
      | some state =>
        if rest.head? = some '/' then
          parse border fuel { state with type := .doubleSlash } rest.tail
        else parse border fuel state rest
      | none => none
    else if char = ']' then
      state.closePreviousToken.map fun state => (state.root, char :: rest)
    else if char = '[' then
      match state.closePreviousToken with
      | some state =>
        match parse .rightBracket fuel .new rest with
        | some (predicate, rest) =>
          match state.addPredicate predicate with
          | some state => parse border fuel state rest.tail
          | none => none
        | none => none
      | none => none
    else if char = '\'' then
      parse border fuel
        { state with type := if state.type = .literalInside then .literal else .literalInside } rest
    else if char = '@' then parse border fuel { state with type := .attribute } rest
    else if char = '.' then
      if state.token ≠ [] then parse border fuel { state with token := state.token ++ [char] } rest
      else if rest.head? = some '.' then none
      else parse border fuel { state with type := .dot, token := [char] } rest
    else if char = '*' then
      match state.addToken [char] with
      | some state => parse border fuel { state with type := .element } rest
      | none => none
    else
      match getType char with
      | some type =>
        match state.closePreviousToken with
        | some state =>
          if type.value ≤ border.value then some (state.root, char :: rest)
          else
            match parse type fuel .new rest with
            | some (argument, rest) =>
              if border = .rightBracket then
                some ((state.addOperator type [char] argument).root, rest)
              else parse border fuel (state.addOperator type [char] argument) rest.tail
            | none => none
        | none => none
      | none => parse border fuel { state with token := state.token ++ [char] } rest

/-! ### Evaluation -/

/-- A tag that is found, with the way to it -/
abbrev Found := List (List Nat × Tag)

/-- `Tag::add`: what is found again is not added. -/
def add (one two : Found) : Found :=
  two.foldl (fun found new => if found.any (·.1 = new.1) then found else found ++ [new]) one

/-- What is found from a tag on the way there -/
def onWay (way : List Nat) (found : Found) : Found := found.map fun new => (way ++ new.1, new.2)

mutual

/-- `Tag::allDescendants`, for the node that is the child with this index -/
def descendantsOf (index : Nat) : Node → Found
  | .tag head nodes => ([index], ⟨head, nodes⟩) :: onWay [index] (nodesDescendants 0 nodes)
  | .string _ => []

/-- The same for the nodes that follow -/
def nodesDescendants (index : Nat) : List Node → Found
  | [] => []
  | .tag head nodes :: rest =>
    descendantsOf index (.tag head nodes) ++ nodesDescendants (index + 1) rest
  | .string _ :: rest => nodesDescendants index rest

end

/-- `Tag::allDescendants` -/
def allDescendants (tag : Tag) : Found := nodesDescendants 0 tag.nodes

/-- `Tag::evaluateEquals` of two tokens -/
def equals (one two : Token) (tag : Tag) : Bool :=
  match one.type, two.type with
  | .attribute, .integer | .attribute, .literal => tag.head.findAttribute one.name = two.name
  | .attribute, .attribute =>
    tag.head.hasAttribute one.name && tag.head.hasAttribute two.name &&
      tag.head.findAttribute one.name = tag.head.findAttribute two.name
  | .integer, .attribute | .literal, .attribute => one.name = tag.head.findAttribute two.name
  | .integer, .literal | .integer, .integer | .literal, .literal | .literal, .integer =>
    one.name = two.name
  | _, _ => false

/-- `Tag::evaluateBoolean`, given whether the token finds a tag -/
def evaluateBoolean (finds : Bool) (token : Token) (tag : Tag) : Bool :=
  match token.type with
  | .attribute => token.name = ['*'] && !tag.head.attribs.isEmpty || tag.head.hasAttribute token.name
  | .operatorEq =>
    match token.children with
    | [one, two] => equals one two tag
    | _ => false
  | .union | .element => finds
  | _ => false

/-- `XTElement` of `Tag::evaluateTagList`, given what the predicates say and what the children of
the token find -/
def evaluateElement (name : TString) (tokens : List Token) (holds : Tag → Bool)
    (inChildren : Tag → Found) (tag : Tag) : Found :=
  if name = tag.head.name ∨ name = ['*'] then
    if !holds tag then []
    else if tokens.all Token.isPredicate then [([], tag)]
    else inChildren tag
  else []

/-- What a search finds in the children of a tag -/
def foundBelow (found : Found) (search : Tag → Found) (tag : Tag) : Found :=
  (tag.children.zipIdx).foldl (fun found child => add found (onWay [child.2] (search child.1))) found

mutual

/-- `Tag::evaluateTagList` -/
def evaluateTagList : Token → Tag → Found
  | .mk type name _ tokens, tag =>
    match type with
    | .union => evaluateUnion tokens [] tag
    | .element =>
      evaluateElement name tokens (evaluatePredicates tokens) (evaluateChildren tokens []) tag
    | .doubleSlash =>
      (allDescendants tag).foldl
        (fun found below => add found (onWay below.1 (evaluateElement name tokens
          (evaluatePredicates tokens) (evaluateChildren tokens []) below.2)))
        (add [] (evaluateElement name tokens (evaluatePredicates tokens) (evaluateChildren tokens [])
          tag))
    | .dot => if tokens.isEmpty then [([], tag)] else evaluateFirst tokens tag
    | .integer =>
      let position := Nat.ofDigitChars 10 name 0
      if 0 < position then ((evaluateFirst tokens tag)[position - 1]?).toList else []
    | _ => []

/-- The first of the tokens -/
def evaluateFirst : List Token → Tag → Found
  | [], _ => []
  | token :: _, tag => evaluateTagList token tag

/-- `Tag::evaluateUnion` -/
def evaluateUnion : List Token → Found → Tag → Found
  | [], found, _ => found
  | token :: tokens, found, tag =>
    evaluateUnion tokens (add found (evaluateTagList token tag)) tag

/-- The predicates among the tokens all hold. -/
def evaluatePredicates : List Token → Tag → Bool
  | [], _ => true
  | token :: tokens, tag =>
    (!token.isPredicate || evaluateBoolean (!(evaluateTagList token tag).isEmpty) token tag) &&
      evaluatePredicates tokens tag

/-- What the other tokens find in the children of a tag -/
def evaluateChildren : List Token → Found → Tag → Found
  | [], found, _ => found
  | token :: tokens, found, tag =>
    if token.isPredicate then evaluateChildren tokens found tag
    else evaluateChildren tokens (foundBelow found (evaluateTagList token) tag) tag

end

/-- `Tag::findTagList` of a tag without a parent; `none` when the model leaves out a part of the
expression -/
def findTagList (expression : TString) (tag : Tag) : Option Found :=
  if expression = "/".toList ∨ expression = "//".toList then some []
  else (parse .none (expression.length + 1) .new expression).map fun parsed =>
    match parsed.1 with
    | some token => evaluateTagList token tag
    | none => []

end XPath

end JnTapi.Gloox
