import RSource.Tree

/-! # The parts of calls

Calls and index expressions consist of a callee and an argument list. A callee is named when it is
a plain or quoted name, or one qualified by a package; a computed callee has no name. -/

namespace RSource

def nameQuotes : List Char := ['\x60', '"', '\'']

def unquote (name : Text) : Text :=
  match name with
  | [] => []
  | q :: inner =>
    if nameQuotes.contains q then
      if inner.getLast? = some q then inner.dropLast else inner
    else name

namespace Tree

def unquotedText (t : Tree) (source : Text) : String :=
  String.ofList (unquote (t.text source))

def Kind.isArgumentList : Kind → Bool
  | .argumentList .. => true
  | _ => false

def callParts? (t : Tree) : Option (Tree × Tree) :=
  match t.kind, t.children with
  | .call, callee :: list :: _ | .index _, callee :: list :: _ =>
    if list.kind.isArgumentList then some (callee, list) else none
  | _, _ => none

def isAtom (t : Tree) : Bool :=
  t.kind == .identifier || t.kind == .literal

/-- The name a callee refers to: `f`, a quoted `f`, or either behind `pkg::` or `pkg:::`. -/
def referredName? (callee : Tree) (source : Text) : Option String :=
  match callee.kind, callee.children with
  | .identifier, _ | .literal, _ => some (callee.unquotedText source)
  | .binary op, [package, function] =>
    match source.slice? op.start op.stop with
    | none => none
    | some o =>
      let o := String.ofList o
      if (o = "::" ∨ o = ":::") ∧ package.kind = .identifier ∧ function.isAtom then
        some (package.unquotedText source ++ o ++ function.unquotedText source)
      else none
  | _, _ => none

def calleeName? (call : Tree) (source : Text) : Option String :=
  call.callParts?.bind fun (callee, _) => callee.referredName? source

def arguments (list : Tree) : List Tree :=
  if list.kind.isArgumentList then list.children else []

def separators (list : Tree) : List Nat :=
  match list.kind with
  | .argumentList _ separators => separators
  | _ => []

def argumentName? (argument : Tree) (source : Text) : Option String :=
  match argument.kind with
  | .argument true => argument.children.head?.map (·.unquotedText source)
  | _ => none

def argumentValue? (argument : Tree) : Option Tree :=
  let value :=
    match argument.kind with
    | .argument true => argument.children[1]?
    | .argument false => argument.children[0]?
    | _ => none
  value.filter fun v => !v.kind.isError

end Tree

end RSource
