import RSource.Text.Quoted
import RSource.Tree

/-! # The written outline of a tree

Every node is one line: two spaces for each ancestor, the kind with its attributes, the span, and
for a node without children the quoted text under it. -/

namespace RSource.Tree

def Kind.name : Kind → String
  | .program => "Program"
  | .expressionStatement => "ExpressionStatement"
  | .call => "CallExpression"
  | .argumentList .. => "ArgumentList"
  | .argument _ => "Argument"
  | .identifier => "Identifier"
  | .literal => "Literal"
  | .binary _ => "BinaryExpression"
  | .unary _ => "UnaryExpression"
  | .block => "Block"
  | .functionDefinition => "FunctionDefinition"
  | .index _ => "IndexExpression"
  | .parenthesized => "Parenthesized"
  | .ifExpression => "IfExpression"
  | .loopExpression => "LoopExpression"
  | .error _ => "Error"

def flag (b : Bool) : String :=
  if b then "true" else "false"

def Kind.attribute? : Kind → Option String
  | .argumentList closed _ => some s!"closed: {flag closed}"
  | .argument named => some s!"named: {flag named}"
  | .binary op | .unary op =>
    some s!"operator: TextRange \x7b start: {op.start}, end: {op.stop} \x7d"
  | .index double => some s!"double: {flag double}"
  | .error unclosed => some s!"open: {flag unclosed}"
  | _ => none

def Kind.describe (k : Kind) : String :=
  match k.attribute? with
  | some a => s!"{k.name} \x7b {a} \x7d"
  | none => k.name

def outlineLine (source : Text) (depth : Nat) (t : Tree) : String :=
  let quoted :=
    if t.children.isEmpty && !t.span.isEmpty then " " ++ Text.quote (t.text source) else ""
  String.join (List.replicate depth "  ") ++ t.kind.describe ++ " " ++ t.span.render ++ quoted
    ++ "\n"

def describe (t : Tree) (source : Text) : String :=
  String.join (t.outline.map fun (depth, u) => outlineLine source depth u)

end RSource.Tree
