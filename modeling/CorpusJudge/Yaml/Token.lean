/-!
# YAML tokens

The marks and scalars that a YAML text is made of.  Block structure, which the text shows by
indentation alone, has tokens of its own.
-/

namespace CorpusJudge.Yaml

/-- How a scalar is written. -/
inductive Style where
  | plain
  | singleQuoted
  | doubleQuoted
  | literal
  | folded
  deriving DecidableEq, Repr

/-- A mark or a scalar. -/
inductive Token where
  | versionDirective (major minor : Nat)
  | tagDirective (handle stem : String)
  | documentStart
  | documentEnd
  | blockSequenceStart
  | blockMappingStart
  | blockEnd
  | flowSequenceStart
  | flowSequenceEnd
  | flowMappingStart
  | flowMappingEnd
  | blockEntry
  | flowEntry
  | key
  | value
  | alias (name : String)
  | anchor (name : String)
  | tag (handle suffix : String)
  | scalar (style : Style) (text : String)
  deriving DecidableEq, Repr

/-! ## YAML nodes

A document as a tree.  An alias does not hold the node it stands for but the number of that node's
anchor, so a node may also contain itself. -/

/-- A node of a document. -/
inductive Node where
  | scalar (style : Style) (tag : Option String) (text : String)
  | sequence (items : List Node)
  | mapping (entries : List (Node × Node))
  | alias (anchor : Nat)

/-- A node that is not written at all. -/
def Node.absent (tag : Option String) : Node := .scalar .plain tag ""

/-- A document: its content, if there is any, and the anchored nodes in the order in which they
start, each with the number of its anchor. -/
structure Document where
  content : Option Node
  anchored : Array (Nat × Node)

/-- The node that a node stands for: of the nodes with an alias's number the last one. -/
def Document.resolve (document : Document) (node : Node) : Node :=
  match node with
  | .alias anchor =>
    match document.anchored.toList.reverse.find? (·.1 = anchor) with
    | some (_, target) => target
    | none => node
  | _ => node

end CorpusJudge.Yaml
