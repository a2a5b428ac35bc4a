import VuePrecompiler.Template.Syntax
import VuePrecompiler.Render.Entities
import VuePrecompiler.Render.Listeners
import VuePrecompiler.Javascript.StringLiteral

/-!
# Lists of children

Neighbouring texts and interpolations become one text of the runtime, and
blank text at the two ends of a list is dropped.  The runtime must flatten a
list in which a child may be an array itself: `normalization` says how much.
-/

namespace VuePrecompiler.Render

open Template Javascript

/-- Whether a node is part of a run of text. -/
def isTextual : Node → Bool
  | .text _ _ => true
  | .interpolation _ _ => true
  | _ => false

def isComment : Node → Bool
  | .comment _ _ => true
  | _ => false

def isBlankNode : Node → Bool
  | .text content _ => Text.isBlankText content
  | _ => false

/-- The pieces of a run of text; `pending` is the text since the last interpolation. -/
def textPieces (pending : String) : List Node → List String
  | [] => if pending.isEmpty then [] else [literal pending]
  | .text content _ :: rest => textPieces (pending ++ decoded content) rest
  | .interpolation expression _ :: rest =>
    (if pending.isEmpty then [] else [literal pending])
      ++ ("_s(" ++ expression.trimmed ++ ")") :: textPieces "" rest
  | _ :: rest => textPieces pending rest

def textCode (run : List Node) : String :=
  let pieces := textPieces "" run
  "_v(" ++ (if pieces.isEmpty then literal "" else "+".intercalate pieces) ++ ")"

/-- A run of text, or another node with its code. -/
inductive ChildItem where
  | run (nodes : List Node)
  | single (node : Node) (code : String)

namespace ChildItem

def isBlank : ChildItem → Bool
  | .run nodes => nodes.all isBlankNode
  | .single _ _ => false

/-- The code of an item; blank text between two others is one space. -/
def code : ChildItem → String
  | .run nodes => if nodes.all isBlankNode then "_v(\" \")" else textCode nodes
  | .single _ code => code

/-- Group the neighbouring texts and interpolations of a list of
nodes with their code. -/
def group : List (Node × String) → List ChildItem
  | [] => []
  | (node, code) :: rest =>
    if isTextual node then
      match group rest with
      | .run nodes :: others => .run (node :: nodes) :: others
      | others => .run [node] :: others
    else .single node code :: group rest

/-- Drop the blank items at both ends. -/
def trimEnds (items : List ChildItem) : List ChildItem :=
  ((items.dropWhile isBlank).reverse.dropWhile isBlank).reverse

end ChildItem

/-- Whether a loop renders several nodes for each item. -/
def rendersFragment (children : List Node) : Bool :=
  children.any fun
    | .element tag _ _ _ => tag.name == "template"
    | .outlet _ _ _ => true
    | .slotTemplate _ _ _ => true
    | _ => false

mutual

def mayBeArray : Node → Bool
  | .loop _ _ _ => true
  | .outlet _ _ _ => true
  | .slotTemplate _ _ _ => true
  | .element tag _ _ _ => tag.name == "template"
  | .conditional branches _ => branchMayBeArray branches
  | _ => false

def anyMayBeArray : List Node → Bool
  | [] => false
  | node :: rest => mayBeArray node || anyMayBeArray rest

def branchMayBeArray : List Branch → Bool
  | [] => false
  | .mk _ _ children _ :: rest => anyMayBeArray children || branchMayBeArray rest

end

mutual

def mayBeComponent : Node → Bool
  | .element tag _ _ _ => tag.isComponent || tag.name == "component"
  | .conditional branches _ => branchMayBeComponent branches
  | _ => false

def anyMayBeComponent : List Node → Bool
  | [] => false
  | node :: rest => mayBeComponent node || anyMayBeComponent rest

def branchMayBeComponent : List Branch → Bool
  | [] => false
  | .mk _ _ children _ :: rest =>
    anyMayBeComponent children || branchMayBeComponent rest

end

/-- How far the runtime must flatten children: 2 where one may be an array, 1
where one may be a component, and 0 otherwise. -/
def normalization (children : List Node) : Nat :=
  if anyMayBeArray children then 2 else if anyMayBeComponent children then 1 else 0

/-- The code of a list of children, if there is any; for the children of an
element it says how far to flatten them.  The only child that is a loop over
single nodes renders the list itself. -/
def childrenCode? (ofElement : Bool) (children : List (Node × String)) :
    Option String :=
  let items :=
    ChildItem.trimEnds (ChildItem.group (children.filter fun (node, _) =>
      !isComment node))
  let listed : Option String :=
    if items.isEmpty then none
    else
      let flatten := normalization (children.map (·.1))
      some (array (items.map ChildItem.code)
        ++ if ofElement && flatten != 0 then "," ++ toString flatten else "")
  match items with
  | [.single (.loop _ body _) code] =>
    if rendersFragment body then listed
    else if ofElement then some (code ++ if anyMayBeComponent body then ",1" else ",0")
    else some code
  | _ => listed

end VuePrecompiler.Render
