import VuePrecompiler.Template.Reading

/-!
# Plain markup

`Markup` is what the parser of templates makes of a text without directives:
elements with constant attributes, texts, comments and interpolations.  It can
be written out, and `Shows` compares it with the nodes of a template, which
have spans besides.
-/

namespace VuePrecompiler.Template

open Text

/-- The name of an attribute, and its value unless it is bare. -/
abbrev MarkupAttribute := String × Option String

/-- Markup without directives. -/
inductive Markup where
  | element (name : String) (attributes : List MarkupAttribute)
      (children : List Markup)
  | text (content : String)
  | comment (content : String)
  | interpolation (expression : String)

namespace Markup

/-! ## Writing -/

/-- An attribute in a start tag, with a blank in front and the value
in double quotes. -/
def writtenAttribute : MarkupAttribute → List Char
  | (name, none) => ' ' :: name.toList
  | (name, some value) => ' ' :: (name.toList ++ '=' :: '"' :: (value.toList ++ ['"']))

/-- The start tag of an element. -/
def startTag (name : String) (attributes : List MarkupAttribute) : List Char :=
  '<' :: (name.toList ++ (attributes.flatMap writtenAttribute ++ ['>']))

/-- The end tag of an element. -/
def endTag (name : String) : List Char :=
  '<' :: '/' :: (name.toList ++ ['>'])

mutual

/-- The text of some markup. -/
def written : Markup → List Char
  | .element name attributes children =>
    startTag name attributes ++ (writtenEach children ++ endTag name)
  | .text content => content.toList
  | .comment content => "<!--".toList ++ (content.toList ++ "-->".toList)
  | .interpolation expression =>
    ['{', '{', ' '] ++ (expression.toList ++ [' ', '}', '}'])

/-- List counterpart of `written`. -/
def writtenEach : List Markup → List Char
  | [] => []
  | first :: rest => first.written ++ writtenEach rest

end

/-! ## What can be written -/

/-- A name that an element can have: it starts with a letter, and is neither that
of a void element nor that of an outlet. -/
structure IsElementName (name : String) : Prop where
  letter : ∃ first rest, name.toList = first :: rest ∧ first.isAlpha = true
  chars : ∀ c ∈ name.toList, Token.isTagChar c = true
  notVoid : isVoidTag name = false
  notSlot : name ≠ "slot"

/-- An attribute that is no directive, with a value that can stand in double quotes. -/
structure IsStatic (item : MarkupAttribute) : Prop where
  named : item.1.toList ≠ []
  chars : ∀ c ∈ item.1.toList, Token.isAttributeChar c = true
  noDirective : ¬ ['v', '-'] <+: item.1.toList
  noShorthand : ∀ c ∈ item.1.toList.head?, c ∉ [':', '.', '@', '#']
  unquoted : ∀ value ∈ item.2, '"' ∉ value.toList

/-- Whether some markup can stand in front of other markup: two texts
would run together, and a brace at the end of a text would become part of
an interpolation. -/
def CanPrecede : Markup → Option Markup → Prop
  | .text _, some (.text _) => False
  | .text content, some (.interpolation _) => content.toList.getLast? ≠ some '{'
  | _, _ => True

mutual

/-- Markup whose text can be told apart from what stands around it. -/
inductive Printable : Markup → Prop where
  | element {name : String} {attributes : List MarkupAttribute}
      {children : List Markup} :
      IsElementName name → (∀ item ∈ attributes, IsStatic item) →
      PrintableEach children → Printable (.element name attributes children)
  | text {content : String} :
      content.toList ≠ [] → '<' ∉ content.toList → ¬ ['{', '{'] <:+: content.toList →
      Printable (.text content)
  | comment {content : String} :
      ¬ "-->".toList <:+: content.toList → Printable (.comment content)
  | interpolation {expression : String} :
      trimmed expression = expression → ¬ ['}', '}'] <:+: expression.toList →
      Printable (.interpolation expression)

/-- List counterpart of `Printable`. -/
inductive PrintableEach : List Markup → Prop where
  | nil : PrintableEach []
  | cons {first : Markup} {rest : List Markup} :
      Printable first → CanPrecede first rest.head? → PrintableEach rest →
      PrintableEach (first :: rest)

end

/-! ## Comparison with nodes -/

/-- A start tag says the name and the attributes of an element, and nothing else. -/
structure TagShows (name : String) (attributes : List MarkupAttribute)
    (tag : StartTag) : Prop where
  sameName : tag.name = name
  isComponent : tag.isComponent = isComponentTag name
  attributes : (tag.attributes.map fun item =>
    (item.name, item.value.map AttributeValue.text)) = attributes
  directives : tag.directives = []
  props : tag.props = []
  listeners : tag.listeners = []

mutual

/-- A node shows some markup: only spans come in addition. -/
inductive Shows : Markup → Node → Prop where
  | element {name : String} {attributes : List MarkupAttribute}
      {children : List Markup} {tag : StartTag} {nodes : List Node}
      (span : Source.Span) :
      TagShows name attributes tag → ShowsEach children nodes →
      Shows (.element name attributes children) (.element tag nodes [] span)
  | text (content : String) (span : Source.Span) :
      Shows (.text content) (.text content span)
  | comment (content : String) (span : Source.Span) :
      Shows (.comment content) (.comment content span)
  | interpolation (expression : String) (inner span : Source.Span) :
      Shows (.interpolation expression) (.interpolation ⟨expression, inner⟩ span)

/-- List counterpart of `Shows`. -/
inductive ShowsEach : List Markup → List Node → Prop where
  | nil : ShowsEach [] []
  | cons {first : Markup} {rest : List Markup} {node : Node} {nodes : List Node} :
      Shows first node → ShowsEach rest nodes →
        ShowsEach (first :: rest) (node :: nodes)

end

end Markup

end VuePrecompiler.Template
