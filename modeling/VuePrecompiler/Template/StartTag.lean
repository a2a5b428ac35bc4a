import VuePrecompiler.Template.Syntax
import VuePrecompiler.Template.Token

/-!
# Reading start tags

An attribute of a start tag is a binding, a listener, a directive or a plain
attribute; its name decides which.  The short spellings `:name`, `@name` and
`#name` mean what `v-bind:name`, `v-on:name` and `v-slot:name` mean.
-/

namespace VuePrecompiler.Template

open Source Text

/-- The names between the dots of `.first.second`. -/
def modifiersOf (text : List Char) : List String :=
  ((splitOnChar '.' text).filter (· ≠ [])).map String.ofList

/-- Cut a name behind the first closing bracket. -/
def splitBehindBracket? (name : List Char) : Option (List Char × List Char) :=
  (splitOnce? [']'] name).map fun (before, after) => (before ++ [']'], after)

/-- A name in brackets is code. -/
def Name.ofText (text : List Char) : Name :=
  match insideBrackets? '[' ']' text with
  | some code => .computed (String.ofList code)
  | none => .fixed (String.ofList text)

/-- `name.modifiers` or `[code].modifiers`, as bindings spell it. -/
def splitBindingName (name : List Char) : Name × List String :=
  match name with
  | '[' :: inner =>
    match splitOnce? [']'] inner with
    | some (code, after) => (.computed (String.ofList code), modifiersOf after)
    | none => plain
  | _ => plain
where
  /-- A name without brackets ends at the first dot. -/
  plain : Name × List String :=
    match splitOnce? ['.'] name with
    | some (base, after) => (.fixed (String.ofList base), modifiersOf after)
    | none => (.fixed (String.ofList name), [])

/-- `name.modifiers` or `[code].modifiers`, as listeners spell it. -/
def splitListenerName (name : List Char) : Name × List String :=
  let (event, after) :=
    match if name.head? = some '[' then splitBehindBracket? name else none with
    | some parts => parts
    | none => breakOn ['.'] name
  (Name.ofText event, modifiersOf after)

/-- `name:argument.modifiers`; dots before a closing bracket belong to the argument. -/
def splitDirectiveName (name : List Char) : String × Option Name × List String :=
  let (head, after) := (splitBehindBracket? name).getD (breakOn ['.'] name)
  match splitOnce? [':'] head with
  | some (base, argument) =>
    (String.ofList base, some (Name.ofText argument), modifiersOf after)
  | none => (String.ofList head, none, modifiersOf after)

inductive TagItem where
  | plain (item : Attribute)
  | directive (item : Directive)
  | binding (item : Binding)
  | listener (item : Listener)
  /-- A binding without a value says nothing. -/
  | nothing
deriving DecidableEq, Repr, Inhabited

namespace TagItem

/-- The part of a name that a binding is about. -/
def boundName? (name : List Char) : Option (List Char) :=
  (afterPrefix? "v-bind:".toList name).or
    ((afterPrefix? [':'] name).or (if name.head? = some '.' then some name else none))

/-- The part of a name that a listener is about. -/
def eventName? (name : List Char) : Option (List Char) :=
  (afterPrefix? "v-on:".toList name).or (afterPrefix? ['@'] name)

/-- A binding; `.name` stands for `:name.prop`. -/
def ofBinding (bound : List Char) (value : Option Code) (span : Span) : TagItem :=
  let (short, extra) :=
    match bound with
    | '.' :: short => (short, ["prop"])
    | _ => (bound, [])
  let (name, modifiers) := splitBindingName short
  match value with
  | some value => .binding ⟨name, value, extra ++ modifiers, span⟩
  | none => .nothing

/-- A listener; without a value it has an empty handler. -/
def ofListener (event : List Char) (value : Option Code) (span : Span) : TagItem :=
  let (name, modifiers) := splitListenerName event
  .listener ⟨name, value.getD ⟨"", span⟩, modifiers, span⟩

/-- Classify an attribute by its name. -/
def ofSource (source : SourceAttribute) : TagItem :=
  let value := source.value.map fun (text, span) => Code.mk text span
  match boundName? source.name with
  | some bound => ofBinding bound value source.span
  | none =>
    match eventName? source.name with
    | some event => ofListener event value source.span
    | none =>
      match afterPrefix? ['v', '-'] source.name with
      | some rest =>
        let (name, argument, modifiers) := splitDirectiveName rest
        .directive ⟨name, argument, modifiers, value, source.span⟩
      | none =>
        match afterPrefix? ['#'] source.name with
        | some slot =>
          .directive ⟨"slot", some (Name.ofText slot), [], value, source.span⟩
        | none =>
          .plain ⟨String.ofList source.name,
            source.value.map fun (text, span) => ⟨text, span⟩, source.span⟩

end TagItem

/-- The tags that the compiler itself knows besides those of HTML. -/
def builtInTags : List String :=
  ["template", "slot", "component", "keep-alive", "transition", "transition-group"]

/-- Whether a tag names a component of the user: it has a hyphen or starts
with a capital, and it is not built in. -/
def isComponentTag (name : String) : Bool :=
  !builtInTags.contains name
    && (name.toList.contains '-' || name.toList.head?.any Char.isUpper)

/-- The elements that have no content and no end tag. -/
def voidTags : List String :=
  ["area", "base", "br", "col", "embed", "hr", "img", "input", "link", "meta", "param",
    "source", "track", "wbr"]

/-- Whether two tags are the same up to the case of ASCII letters. -/
def sameTag (left right : String) : Bool :=
  left.toList.map Char.toLower == right.toList.map Char.toLower

/-- Whether an element has neither content nor end tag. -/
def isVoidTag (name : String) : Bool :=
  voidTags.any (sameTag name)

namespace StartTag

def ofSource (name : String) (source : List SourceAttribute) : StartTag :=
  let items := source.map TagItem.ofSource
  { name
    isComponent := isComponentTag name
    attributes := items.filterMap fun | .plain a => some a | _ => none
    directives := items.filterMap fun | .directive d => some d | _ => none
    props := items.filterMap fun | .binding b => some b | _ => none
    listeners := items.filterMap fun | .listener l => some l | _ => none }

/-- Take the first directive of a name off a start tag. -/
def takeDirective? (name : String) (tag : StartTag) : Option Directive × StartTag :=
  (tag.directives.find? (·.name == name),
    { tag with directives := tag.directives.eraseP (·.name == name) })

def hasDirective (tag : StartTag) (name : String) : Bool :=
  tag.directives.any (·.name == name)

/-- The first plain attribute of a name. -/
def attribute? (tag : StartTag) (name : String) : Option Attribute :=
  tag.attributes.find? (·.name == name)

/-- The first binding of a name that is written out. -/
def prop? (tag : StartTag) (name : String) : Option Binding :=
  tag.props.find? (·.name == .fixed name)

end StartTag

/-- The outlet of a `<slot>` tag.  A bound name wins over a plain one. -/
def Outlet.ofTag (tag : StartTag) (span : Span) : Outlet where
  name :=
    match tag.prop? "name", tag.attribute? "name" with
    | some bound, _ => .code bound.value
    | none, some plain =>
      .literal plain.text (plain.value.elim plain.span AttributeValue.span)
    | none, none => .literal "default" span
  attributes := tag.attributes.filter (·.name != "name")
  props := tag.props.filter (·.name.text != "name")

end VuePrecompiler.Template
