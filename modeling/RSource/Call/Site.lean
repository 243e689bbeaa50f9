import RSource.Tree.Call

/-! # The call around a caret

A caret is inside a call when it stands behind the opening parenthesis of its arguments and before
the closing one; without a closing one, up to the end of the text. -/

namespace RSource.Call

structure Site where
  call : Tree
  callee : Tree
  arguments : Tree

def isInside (caret : Nat) (list : Tree) : Bool :=
  match list.kind with
  | .argumentList true _ => list.span.start < caret && caret < list.span.stop
  | _ => list.span.start < caret && caret ≤ list.span.stop

def siteAt? (caret : Nat) (t : Tree) : Option Site :=
  if t.kind = .call then
    t.callParts?.bind fun (callee, list) =>
      if isInside caret list then some ⟨t, callee, list⟩ else none
  else none

/-- The innermost call around the caret, on the path to the innermost node at the caret. -/
def find? (t : Tree) (caret : Nat) : Option Site :=
  if t.span.stop < caret then none
  else (t.pathTo caret).reverse.findSome? (siteAt? caret)

end RSource.Call
