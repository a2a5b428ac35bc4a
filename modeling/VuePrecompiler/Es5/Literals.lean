import VuePrecompiler.Es5.Build
import VuePrecompiler.Javascript.Validity

/-!
# Literals

Templates become calls of `concat`, and regular expressions with flags that
ECMAScript 5 does not know become calls of `RegExp`.
-/

namespace VuePrecompiler.Es5

open Javascript

/-- A text in which every end of a line is a line feed. -/
def withLineFeeds : List Char → List Char
  | '\r' :: '\n' :: rest => '\n' :: withLineFeeds rest
  | '\r' :: rest => '\n' :: withLineFeeds rest
  | c :: rest => c :: withLineFeeds rest
  | [] => []

def chunkValue (chunk : String) : String :=
  String.ofList (unescape (withPairs 0 (withLineFeeds chunk.toList)))

/-- The value of a chunk of a tagged template, where escapes may have no meaning. -/
def chunkValue? (chunk : String) : Option String :=
  let chars := chunk.toList
  if isCooked chars && !hasOctalEscape chars then some (chunkValue chunk) else none

/-- What a template joins. -/
inductive TextPart where
  /-- A text that is known, and an expression for it. -/
  | known (value : String) (written : Tree)
  | unknown (value : Tree)

namespace TextPart

/-- A chunk of a template. -/
def ofChunk (chunk : String) :
    TextPart := known (chunkValue chunk) (stringNode (chunkValue chunk))

/-- An expression of a template. -/
def ofExpression (expression : Tree) : TextPart :=
  match stringValue? expression with
  | some value => known value expression
  | none => unknown expression

/-- Expressions and the chunks behind them. -/
def ofTemplate : List Tree → List String → List TextPart
  | inner :: inners, chunk :: chunks =>
    ofExpression inner :: ofChunk chunk :: ofTemplate inners chunks
  | _, _ => []

end TextPart

/-- A text that is joined by calls of `concat`. -/
structure Joined where
  /-- What is known of the start. -/
  start : String
  /-- The arguments of the calls, the last call first. -/
  calls : List (List Tree)

namespace Joined

/-- Join one part more.  Each unknown part begins a call, and a known one goes into
the call before it. -/
def add (joined : Joined) : TextPart → Joined
  | .known value written =>
    if value.isEmpty then joined
    else
      match joined.calls with
      | [] => { joined with start := joined.start ++ value }
      | last :: others => { joined with calls := (last ++ [written]) :: others }
  | .unknown value => { joined with calls := [value] :: joined.calls }

def expression (joined : Joined) : Tree :=
  joined.calls.foldr (fun items before => callNode (memberNode before "concat") items)
    (stringNode joined.start)

end Joined

def templateNode (chunks : List String) (inners : List Tree) : Tree :=
  match chunks with
  | [] => stringNode ""
  | first :: rest =>
    ((TextPart.ofTemplate inners rest).foldl Joined.add
      ⟨chunkValue first, []⟩).expression

/-- Whether a regular expression has flags that need a call. -/
def hasNewFlags (flags : String) :
    Bool := flags.any fun flag => flag == 'u' || flag == 'y'

/-- The array of some texts, undefined where there is none. -/
def textsNode (values : List (Option String)) : Tree :=
  node (.array false) (values.map fun value =>
    (value.map stringNode).getD undefinedNode)

/-- `function name() { var data = …; name = function() { return data; };` with
`return data; }` behind it gives the same array of chunks at each call. -/
def chunksFunction (name : Tree) (chunks : List String) : Pass Tree := do
  let data ← newVariable "data"
  let values := chunks.map chunkValue?
  let raws := chunks.map fun chunk => some (String.ofList (withLineFeeds chunk.toList))
  let items := textsNode values :: if values == raws then [] else [textsNode raws]
  let giveData := node .return [data]
  let inner := functionNode [] [giveData]
  return node (.functionDeclaration ⟨false, false⟩)
    [name, node .parameters [],
      node .body
        [variablesNode [declaratorNode data
          (← helperCall "tagged_template_literal" items)],
          statementNode (assignNode name inner), giveData]]

mutual

/-- A tree without templates, and the functions that give the chunks of tagged
ones. -/
def withoutTemplates : Tree → StateT (List Tree) Pass Tree
  | .node .taggedTemplate _ [tag, .node (.template chunks) _ inners] => do
    let tag ← withoutTemplates tag
    let inners ← withoutTemplatesEach inners
    let name ← newVariable "_templateObject"
    let function ← chunksFunction name chunks
    modify (· ++ [function])
    return callNode tag (callNode name [] :: inners)
  | .node (.template chunks) _ inners => do
    return templateNode chunks (← withoutTemplatesEach inners)
  | .node kind span children => do
    let parts ← withoutTemplatesEach children
    match kind with
    | .regexp pattern flags =>
      if hasNewFlags flags then
        return callNode (variableNode "RegExp" 0) [stringNode pattern,
          stringNode flags]
      else return .node kind span parts
    | _ => return .node kind span parts

def withoutTemplatesEach : List Tree → StateT (List Tree) Pass (List Tree)
  | [] => return []
  | first :: rest => do
    let first ← withoutTemplates first
    return first :: (← withoutTemplatesEach rest)

end

/-- A program without templates and without regular expressions with new flags. -/
def lowerLiterals (program : Tree) : Pass Tree := do
  let (program, functions) ← (withoutTemplates program).run []
  match program with
  | .node kind span statements => return .node kind span (prepend functions statements)

end VuePrecompiler.Es5
