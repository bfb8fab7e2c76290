import CityMarkup.Markup.Fault

/-!
# Tokens of marked-up text

A marked-up text is split into tags, the text between them, and everything
that is set apart: instructions, comments, character data and document types.
The splitting looks at one character at a time, and what it remembers of the
earlier ones is its mode.  Names, attributes and the nesting of tags are not
looked at here.
-/

namespace CityMarkup

namespace Markup

/-- A piece of marked-up text.  Tags are given by what stands between their
angle brackets, without the slash that closes them. -/
inductive Token where
  | text (raw : List Char)
  | opening (raw : List Char)
  | closing (raw : List Char)
  | empty (raw : List Char)
  | aside
deriving DecidableEq, Repr

/-- Whether a character is one of the four blanks. -/
def isBlank (c : Char) : Bool :=
  c == ' ' || c == '\t' || c == '\r' || c == '\n'

/-- Whether a character opens a quoted string. -/
def isQuote (c : Char) : Bool :=
  c == '\'' || c == '"'

/-- The quotation in which the text after a character stands. -/
def quoteAfter (quote : Option Char) (c : Char) : Option Char :=
  match quote with
  | some q => if c = q then none else some q
  | none => if isQuote c then some c else none

/-- What the splitting is inside of.  Characters that are remembered are kept
in reverse order. -/
inductive Mode where
  /-- Text between tags. -/
  | text (seen : List Char)
  /-- An entity or character reference. -/
  | reference (seen : List Char)
  /-- After an opening angle bracket. -/
  | markup
  /-- A start tag or an empty tag. -/
  | tag (quote : Option Char) (seen : List Char)
  /-- An end tag. -/
  | closing (quote : Option Char) (seen : List Char)
  /-- A processing instruction or the declaration of a document. -/
  | instruction (seen : List Char)
  /-- After an opening angle bracket and an exclamation mark. -/
  | bang
  /-- The characters that have to come before a comment begins. -/
  | commentStart
  /-- A comment, after so many hyphens. -/
  | comment (hyphens : Nat)
  /-- The characters that have to come before character data begin. -/
  | dataStart (expected : List Char)
  /-- Character data, after so many brackets. -/
  | data (brackets : Nat)
  /-- The characters that have to come before a document type begins. -/
  | doctypeStart (expected : List Char)
  /-- A document type, before any declarations. -/
  | doctype (quote : Option Char) (blank : Bool)
  /-- The declarations of a document type. -/
  | subset
  /-- A declaration whose first characters do not tell its kind yet. -/
  | subsetStart (seen : List Char)
  /-- A processing instruction among the declarations. -/
  | subsetInstruction (question : Bool)
  /-- A comment among the declarations. -/
  | subsetComment (hyphens : Nat)
  /-- A declaration in which quoted strings count. -/
  | subsetQuoting (quote : Option Char)
  /-- Any other declaration. -/
  | subsetOther
  /-- A document type, after its declarations. -/
  | doctypeEnd
deriving DecidableEq, Repr

namespace Mode

/-- The text that was read, as a token if there is any. -/
def textToken (seen : List Char) : Option Token :=
  if seen.isEmpty then none else some (.text seen.reverse)

/-- The token of a start tag or an empty tag. -/
def tagToken : List Char → Token
  | '/' :: seen => .empty seen.reverse
  | seen => .opening seen.reverse

/-- The declarations in which quoted strings hide angle brackets. -/
def quotingDeclarations : List (List Char) :=
  ["!ENTITY".toList, "!ATTLIST".toList, "!NOTATION".toList]

/-- Whether more characters could still tell the kind of a declaration. -/
def isUndecided (start : List Char) : Bool :=
  ("!--".toList :: quotingDeclarations).any start.isPrefixOf

/-- How many of two repeated characters have been read, after one more
character. -/
def run (expected : Char) (count : Nat) (c : Char) : Nat :=
  if c = expected then min 2 (count + 1) else 0

/-- A tag, after one more character. -/
def stepTag (quote : Option Char) (seen : List Char) (c : Char) :
    Mode × Option Token :=
  if c = '>' ∧ quote = none then
    (text [], some (tagToken seen))
  else
    (tag (quoteAfter quote c) (c :: seen), none)

/-- A declaration whose kind is open, after one more character. -/
def stepSubsetStart (seen : List Char) (c : Char) : Mode :=
  let start := seen ++ [c]
  if start = ['?'] then subsetInstruction false
  else if start = "!--".toList then subsetComment 0
  else if start ∈ quotingDeclarations then subsetQuoting none
  else if isUndecided start then subsetStart start
  else if c = '>' then subset
  else subsetOther

/-- The mode after one more character, with the token that the character
completes. -/
def step (m : Mode) (c : Char) : Except Fault (Mode × Option Token) :=
  match m with
  | text seen =>
    if c = '<' then .ok (markup, textToken seen)
    else if c = '&' then .ok (reference (c :: seen), none)
    else .ok (text (c :: seen), none)
  | reference seen =>
    if c = ';' then .ok (text (c :: seen), none)
    else if c = '&' ∨ c = '<' then .error .referenceNotClosed
    else .ok (reference (c :: seen), none)
  | markup =>
    if c = '/' then .ok (closing none [], none)
    else if c = '?' then .ok (instruction [], none)
    else if c = '!' then .ok (bang, none)
    else .ok (stepTag none [] c)
  | tag quote seen => .ok (stepTag quote seen c)
  | closing quote seen =>
    if c = '>' ∧ quote = none then
      .ok (text [], some (.closing seen.reverse))
    else
      .ok (closing (quoteAfter quote c) (c :: seen), none)
  | instruction seen =>
    if c = '>' then
      match seen with
      | [] => .error .instructionNotClosed
      | '?' :: _ => .ok (text [], some .aside)
      | _ => .ok (instruction (c :: seen), none)
    else
      .ok (instruction (c :: seen), none)
  | bang =>
    if c = '-' then .ok (commentStart, none)
    else if c = '[' then .ok (dataStart "CDATA[".toList, none)
    else if c = 'D' ∨ c = 'd' then
      .ok (doctypeStart "OCTYPE".toList, none)
    else .error .unknownMarkup
  | commentStart =>
    if c = '-' then .ok (comment 0, none) else .error .commentNotClosed
  | comment hyphens =>
    if c = '>' ∧ hyphens = 2 then .ok (text [], some .aside)
    else .ok (comment (run '-' hyphens c), none)
  | dataStart expected =>
    match expected with
    | [] => .error .characterDataNotClosed
    | [last] =>
      if c = last then .ok (data 0, none)
      else .error .characterDataNotClosed
    | next :: expected =>
      if c = next then .ok (dataStart expected, none)
      else .error .characterDataNotClosed
  | data brackets =>
    if c = '>' ∧ brackets = 2 then .ok (text [], some .aside)
    else .ok (data (run ']' brackets c), none)
  | doctypeStart expected =>
    match expected with
    | [] => .error .doctypeNotClosed
    | [last] =>
      if c.toUpper = last then .ok (doctype none true, none)
      else .error .doctypeNotClosed
    | next :: expected =>
      if c.toUpper = next then .ok (doctypeStart expected, none)
      else .error .doctypeNotClosed
  | doctype quote blank =>
    if quote = none ∧ c = '>' then
      if blank then .error .doctypeUnnamed else .ok (text [], some .aside)
    else if quote = none ∧ c = '[' then .ok (subset, none)
    else .ok (doctype (quoteAfter quote c) (blank && isBlank c), none)
  | subset =>
    if c = ']' then .ok (doctypeEnd, none)
    else if c = '<' then .ok (subsetStart [], none)
    else .ok (subset, none)
  | subsetStart seen => .ok (stepSubsetStart seen c, none)
  | subsetInstruction question =>
    if c = '>' ∧ question then .ok (subset, none)
    else .ok (subsetInstruction (c == '?'), none)
  | subsetComment hyphens =>
    if c = '>' ∧ hyphens = 2 then .ok (subset, none)
    else .ok (subsetComment (run '-' hyphens c), none)
  | subsetQuoting quote =>
    if c = '>' ∧ quote = none then .ok (subset, none)
    else .ok (subsetQuoting (quoteAfter quote c), none)
  | subsetOther =>
    if c = '>' then .ok (subset, none) else .ok (subsetOther, none)
  | doctypeEnd =>
    if c = '>' then .ok (text [], some .aside) else .ok (doctypeEnd, none)

/-- The fault of an instruction without an end.  An instruction named like
the declaration of a document counts as one. -/
def instructionFault : List Char → Fault
  | 'x' :: 'm' :: 'l' :: rest =>
    match rest with
    | [] => .declarationNotClosed
    | c :: _ =>
      if isBlank c || c == '?' then .declarationNotClosed
      else .instructionNotClosed
  | _ => .instructionNotClosed

/-- The fault of a tag without an end. -/
def tagFault : Option Char → Fault
  | none => .tagNotClosed
  | some quote => .attributeNotClosed quote

/-- What the end of the text means. -/
def finish : Mode → Except Fault (Option Token)
  | text seen => .ok (textToken seen)
  | reference _ => .error .referenceNotClosed
  | markup => .error .tagNotClosed
  | tag quote _ => .error (tagFault quote)
  | closing quote _ => .error (tagFault quote)
  | instruction seen => .error (instructionFault seen.reverse)
  | bang => .error .unknownMarkup
  | commentStart | comment _ => .error .commentNotClosed
  | dataStart _ | data _ => .error .characterDataNotClosed
  | doctypeStart _ | doctype _ _ | subset | subsetStart _
  | subsetInstruction _ | subsetComment _ | subsetQuoting _ | subsetOther
  | doctypeEnd => .error .doctypeNotClosed

end Mode

/-- The tokens of a text up to its first fault, and that fault. -/
structure Tokens where
  tokens : List Token
  fault : Option Fault
deriving DecidableEq, Repr

/-- Puts a token in front of others, if there is one. -/
def Tokens.prepend (token : Option Token) (rest : Tokens) : Tokens :=
  match token with
  | none => rest
  | some token => { rest with tokens := token :: rest.tokens }

/-- Splits a text, starting inside of the given mode. -/
def splitFrom (m : Mode) : List Char → Tokens
  | [] =>
    match m.finish with
    | .ok token => .prepend token ⟨[], none⟩
    | .error fault => ⟨[], some fault⟩
  | c :: rest =>
    match m.step c with
    | .ok (next, token) => .prepend token (splitFrom next rest)
    | .error fault => ⟨[], some fault⟩

/-- Splits a text into tokens. -/
def split (cs : List Char) : Tokens :=
  splitFrom (.text []) cs

end Markup

end CityMarkup
