namespace WebDispatch.Mustache

inductive Node
  | text (cs : List Char)
  | value (path : List String) (escaped : Bool)
  /-- Rendered for a value that counts, or if inverted for one that does not. -/
  | section (path : List String) (inverted : Bool) (children : List Node)
  /-- Another template, by name; no other templates are available, so it prints nothing. -/
  | inclusion (name : String)

inductive Fault
  | malformedClosingTag
  | unclosedTag
  | unclosedSection
  | unbalancedUnescapeTag
  | emptyTag
  | unopenedSection
  | noClosingDelimiter
  | invalidDelimiters
  deriving DecidableEq, Repr

def Fault.all : List Fault :=
  [.malformedClosingTag, .unclosedTag, .unclosedSection, .unbalancedUnescapeTag, .emptyTag,
    .unopenedSection, .noClosingDelimiter, .invalidDelimiters]

def Fault.message : Fault → String
  | .malformedClosingTag => "found a malformed closing tag"
  | .unclosedTag => "found an unclosed tag"
  | .unclosedSection => "found an unclosed section"
  | .unbalancedUnescapeTag => "found an unbalanced unescape tag"
  | .emptyTag => "found an empty tag"
  | .unopenedSection => "found a closing tag for an unopened section"
  | .noClosingDelimiter => "missing the new closing tag in set delimeter tag"
  | .invalidDelimiters => "invalid set delimeter tag syntax"

end WebDispatch.Mustache
