import VuePrecompiler.Template.Reading
import VuePrecompiler.Template.Arrangement
import VuePrecompiler.Render.Data
import VuePrecompiler.Render.Children

/-!
# Render code

The body of the render function of a template.  It is written for the helpers
of the runtime: `_c` makes an element, `_v` a text, `_s` a string, `_e` an
empty node, `_l` a list, `_t` a slot, `_u` the scoped slots of a component,
`_b`, `_g` and `_d` add to objects, and `_k`, `_q`, `_i`, `_n` and `_p` serve
handlers.
-/

namespace VuePrecompiler.Render

open Source Template Text Javascript

/-- The code of a slot outlet, given the code of its fallback content. -/
def outletCode (outlet : Outlet) (fallback : Option String) : String :=
  let name :=
    match outlet.name with
    | .literal text _ => literal text
    | .code code => code.trimmed
  let constants := outlet.attributes.map fun attr =>
    "\"" ++ camelize attr.name ++ "\":" ++ literal (decoded attr.text)
  let bound := outlet.props.filterMap fun binding =>
    match binding.name with
    | .fixed name => some ("\"" ++ camelize name ++ "\":" ++ binding.value.trimmed)
    | .computed _ => none
  let props := constants ++ bound
  let content :=
    match fallback with
    | some code => "," ++ code
    | none => if props.isEmpty then "" else ",null"
  "_t(" ++ name ++ content ++
    (if props.isEmpty then "" else "," ++ object props) ++ ")"

/-- The code of a loop, given the code of its body. -/
def loopCode (head : LoopHead) (body : String) : String :=
  let aliases := head.value :: (head.key.toList ++ head.index.toList)
  "_l((" ++ head.source.trimmed ++ "),function("
    ++ ",".intercalate (aliases.map Pattern.text)
    ++ ")\x7breturn " ++ body ++ "\x7d)"

/-- The entry of a slot, given the code of its content. -/
def slotCode (head : SlotHead) (content : Option String) : String :=
  let key :=
    match head.name with
    | .fixed name => literal name
    | .computed code => code
  let body := content.getD "undefined"
  match head.props with
  | some pattern =>
    object ["key:" ++ key, "fn:function(" ++ pattern.text ++ ")\x7breturn " ++
      body ++ "\x7d"]
  | none =>
    object ["key:" ++ key, "fn:function()\x7breturn " ++ body ++ "\x7d", "proxy:true"]

/-- The field of all slots, given their entries. -/
def scopedSlotsCode (slots : List Slot) (entries : List String) : String :=
  "scopedSlots:_u(" ++ array entries
    ++ (if slots.any (·.head.name.isComputed) then ",null,true" else "") ++ ")"

/-- The call that makes an element. -/
def elementCode (tag : StartTag) (data children : Option String) : String :=
  "_c(" ++ ",".intercalate
    ((computedTag? tag).getD ("'" ++ tag.name ++ "'") :: (data.toList ++
      children.toList)) ++ ")"

mutual

/-- The code of a node.  `inLoop` tells whether a loop encloses it. -/
def nodeCode (inLoop : Bool) : Node → Except CompileError String
  | .element tag children slots span =>
    if tag.name == "template" then do
      return (childrenCode? false (← pairedCodes inLoop children)).getD "void 0"
    else if tag.hasDirective "slot" then .error (.invalidSlot .misplaced span)
    else do
      let entries ← slotCodes inLoop slots
      let scopedSlots :=
        if slots.isEmpty then none else some (scopedSlotsCode slots entries)
      let data := dataObject? tag inLoop scopedSlots
      let children ←
        if tag.hasDirective "html" || tag.hasDirective "text" then pure none
        else (childrenCode? true ·) <$> pairedCodes inLoop children
      return elementCode tag data children
  | .text content span => .ok (textCode [.text content span])
  | .interpolation expression span => .ok (textCode [.interpolation expression span])
  | .comment _ _ => .ok "_e()"
  | .conditional branches _ => branchesCode inLoop branches
  | .loop head children _ => do
    return loopCode head (← firstCode true children)
  | .outlet outlet fallback _ => do
    return outletCode outlet (childrenCode? false (← pairedCodes inLoop fallback))
  | .slotTemplate _ children _ => do
    return (childrenCode? false (← pairedCodes inLoop children)).getD "void 0"

/-- The nodes of a list, each with its code. -/
def pairedCodes (inLoop : Bool) :
    List Node → Except CompileError (List (Node × String))
  | [] => .ok []
  | node :: rest => do
    let code ← nodeCode inLoop node
    return (node, code) :: (← pairedCodes inLoop rest)

def firstCode (inLoop : Bool) : List Node → Except CompileError String
  | [] => .ok "_e()"
  | node :: _ => nodeCode inLoop node

/-- The code of a conditional: each condition chooses between its
branch and the rest. -/
def branchesCode (inLoop : Bool) : List Branch → Except CompileError String
  | [] => .ok "_e()"
  | .mk kind condition children _ :: rest => do
    let body ← firstCode inLoop children
    match condition with
    | some condition =>
      if kind = .last then return body
      else return "(" ++ condition.trimmed ++ ")?" ++ body ++ ":" ++
        (← branchesCode inLoop rest)
    | none => return body

/-- The entries of slots. -/
def slotCodes (inLoop : Bool) : List Slot → Except CompileError (List String)
  | [] => .ok []
  | .mk head children :: rest => do
    let content := childrenCode? false (← pairedCodes inLoop children)
    return slotCode head content :: (← slotCodes inLoop rest)

end

mutual

/-- Why a node cannot be the root of a template. -/
def rootFault? : Node → Option CompileError
  | .element tag _ _ span =>
    if tag.name == "template" then some (.invalidRoot .template span) else none
  | .slotTemplate _ _ span => some (.invalidRoot .template span)
  | .outlet _ _ span => some (.invalidRoot .outlet span)
  | .loop _ _ span => some (.invalidRoot .loop span)
  | .text _ span => some (.invalidRoot .bareText span)
  | .interpolation _ span => some (.invalidRoot .bareText span)
  | .conditional branches _ => rootFaultOfBranches? branches
  | .comment _ _ => none

def rootFaultOfEach? : List Node → Option CompileError
  | [] => none
  | node :: rest => (rootFault? node).or (rootFaultOfEach? rest)

def rootFaultOfBranches? : List Branch → Option CompileError
  | [] => none
  | .mk _ _ children _ :: rest =>
    (rootFaultOfEach? children).or (rootFaultOfBranches? rest)

end

/-- The only significant node of a template, if it can be the root. -/
def root (tree : Template.Tree) : Except CompileError Node :=
  match tree.children.filter fun node => !node.isInsignificant with
  | [] => .error (.invalidRoot .missing tree.span)
  | [root] =>
    match rootFault? root with
    | some error => .error error
    | none => .ok root
  | _ :: extra :: _ => .error (.invalidRoot .several extra.span)

/-- The body of the render function of an arranged template. -/
def generate (tree : Template.Tree) : Except CompileError String := do
  let code ← nodeCode false (← root tree)
  return "with(this)\x7breturn " ++ code ++ "\x7d"

/-- The body of the render function of a template. -/
def compile (source : String) : Except CompileError String := do
  let tree ← Template.Tree.ofText source
  generate (← tree.arrange)

end VuePrecompiler.Render
