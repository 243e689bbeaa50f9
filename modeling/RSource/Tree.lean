import RSource.Span
import RSource.Text.Bytes

/-! # Trees

The tree of a source text. A node has a kind, a span and its children in the order of the text.
What stands below a node of each kind:

* `program`, `block`: statements and errors;
* `expressionStatement`, `parenthesized`: one expression, then errors;
* `call`, `index`: the callee, then an argument list;
* `argumentList`: arguments;
* `argument`: the name if it has one, the value if there is one, then an error if recovery ran;
* `binary`: the left side and perhaps the right side; `unary`: perhaps the operand;
* `functionDefinition`: perhaps the formals, then perhaps the body;
* `ifExpression`: condition, consequence, alternative, as far as they were written;
* `loopExpression`: variable, sequence or condition, and body, as far as they were written;
* `error`: what was read before recovery gave up. -/

namespace RSource

/-- The kind of a node. `closed` is false when the text ended before the closer; `separators` are
the offsets of the commas between the arguments; `unclosed` marks an error that reaches to the end
of the text because an opener was never closed. -/
inductive Tree.Kind where
  | program
  | expressionStatement
  | call
  | argumentList (closed : Bool) (separators : List Nat)
  | argument (named : Bool)
  | identifier
  | literal
  | binary (operator : Span)
  | unary (operator : Span)
  | block
  | functionDefinition
  | index (double : Bool)
  | parenthesized
  | ifExpression
  | loopExpression
  | error (unclosed : Bool)
  deriving DecidableEq, Repr, Inhabited

inductive Tree where
  | node (kind : Tree.Kind) (span : Span) (children : List Tree)
  deriving Repr, Inhabited

namespace Tree

def kind : Tree → Kind
  | node k _ _ => k

def span : Tree → Span
  | node _ s _ => s

def children : Tree → List Tree
  | node _ _ cs => cs

def leaf (kind : Kind) (span : Span) : Tree :=
  node kind span []

/-- The tree with one more child at the end, its span widened to hold the child. -/
def adopt (parent child : Tree) : Tree :=
  node parent.kind ⟨parent.span.start, max parent.span.stop child.span.stop⟩
    (parent.children ++ [child])

def text (t : Tree) (source : Text) : Text :=
  source.sliceD t.span.start t.span.stop

mutual

def outlineFrom (depth : Nat) : Tree → List (Nat × Tree)
  | node k s cs => (depth, node k s cs) :: outlineForest (depth + 1) cs

def outlineForest (depth : Nat) : List Tree → List (Nat × Tree)
  | [] => []
  | t :: ts => outlineFrom depth t ++ outlineForest depth ts

end

def outline (t : Tree) : List (Nat × Tree) :=
  outlineFrom 0 t

def nodes (t : Tree) : List Tree :=
  t.outline.map (·.2)

def size (t : Tree) : Nat :=
  t.outline.length

def Kind.isError : Kind → Bool
  | .error _ => true
  | _ => false

def hasErrors (t : Tree) : Bool :=
  t.nodes.any (·.kind.isError)

mutual

/-- The nodes from the root down to the innermost one that touches `offset`; of several children
that touch it the first is followed. -/
def pathTo (offset : Nat) : Tree → List Tree
  | node k s cs => node k s cs :: pathToForest offset cs

def pathToForest (offset : Nat) : List Tree → List Tree
  | [] => []
  | t :: ts => if t.span.touches offset then pathTo offset t else pathToForest offset ts

end

end Tree

end RSource
