import TaskBuilders.Builder.Plan
import TaskBuilders.Text.Affix
import TaskBuilders.Text.Quoted

/-!
# Blocks of generated source

What is written for a wrapper type, a container and a builder, with all names already shortened for
the file that holds the block. A block knows its lines of source.
-/

namespace TaskBuilders.Source

open Text

/-- Lines with their line breaks. -/
def unlines (lines : List String) : String := String.join (lines.map (· ++ "\n"))

/-- An attribute of a wrapper: the field of the attribute record and its setter. -/
structure Field where
  name : String
  /-- The name of the attribute. -/
  attr : String
  /-- The type of the setter's argument. -/
  type : String
  /-- Whether the record holds a pointer to the type, so that the attribute can stay unset. -/
  pointer : Bool
deriving Repr, DecidableEq

/-- The method that sets an attribute. -/
def Field.setter (f : Field) : String := "Set" ++ f.name

/-- The type of the field in the attribute record. -/
def Field.recordType (f : Field) : String := if f.pointer then "*" ++ f.type else f.type

/-- A wrapper type. -/
structure WrapperBlock where
  ident : String
  /-- The type identifier that is wrapped. -/
  source : String
  /-- The node type, the task interface and the node constructor of the runtime package. -/
  node : String
  task : String
  newNode : String
  fields : List Field
  /-- The interface of text containers, when the wrapper is one. -/
  textInterface : Option String
  /-- The interface of conditions, when the wrapper is one. -/
  conditionInterface : Option String
  /-- The containers that the wrapper satisfies. -/
  markers : List String
deriving Repr, DecidableEq

namespace WrapperBlock

/-- The receiver of the wrapper's methods. -/
def receiver (w : WrapperBlock) : String := "(o *" ++ w.ident ++ ")"

/-- The constructor of the wrapper. -/
def constructor (w : WrapperBlock) : String := "New" ++ w.ident

/-- The attribute record of the wrapper. -/
def record (w : WrapperBlock) : String := w.ident ++ "Attrs"

/-- The type, its constructor and its node. -/
def headLines (w : WrapperBlock) : List String :=
  ["",
   "// " ++ w.ident ++ " wraps " ++ w.source ++ ".",
   "type " ++ w.ident ++ " struct\x7b n *" ++ w.node ++ " \x7d",
   "",
   "// " ++ w.constructor ++ " creates the wrapper for a " ++ w.source
     ++ " element built under parent.",
   "func " ++ w.constructor ++ "(parent " ++ w.task ++ ", tag string, outermost bool) *" ++ w.ident
     ++ " \x7b",
   "\treturn &" ++ w.ident ++ "\x7bn: " ++ w.newNode ++ "(parent, " ++ quote w.source
     ++ ", tag, outermost)\x7d",
   "\x7d",
   "",
   "// DSLNode implements " ++ w.task ++ ".",
   "func " ++ w.receiver ++ " DSLNode() *" ++ w.node ++ " \x7b return o.n \x7d"]

/-- The setter of an attribute. -/
def setterLines (w : WrapperBlock) (f : Field) : List String :=
  ["",
   "// " ++ f.setter ++ " sets the " ++ f.attr ++ " attribute.",
   "func " ++ w.receiver ++ " " ++ f.setter ++ "(v " ++ f.type ++ ") \x7b o.n.Set("
     ++ quote f.attr ++ ", v) \x7d"]

/-- The assignment of an attribute that is set. -/
def assignLines (f : Field) : List String :=
  ["\tif a." ++ f.name ++ " != nil \x7b",
   "\t\to." ++ f.setter ++ "(" ++ (if f.pointer then "*" else "") ++ "a." ++ f.name ++ ")",
   "\t\x7d"]

/-- The attribute record and the method that assigns it. -/
def recordLines (w : WrapperBlock) : List String :=
  if w.fields.isEmpty then []
  else
    ["",
     "// " ++ w.record ++ " holds the optional attributes of " ++ w.ident ++ " builders.",
     "// Nil fields are left unset.",
     "type " ++ w.record ++ " struct \x7b"]
    ++ w.fields.map (fun f => "\t" ++ f.name ++ " " ++ f.recordType)
    ++ ["\x7d",
        "",
        "// ApplyDSLAttrs assigns every attribute set in a.",
        "func " ++ w.receiver ++ " ApplyDSLAttrs(a " ++ w.record ++ ") \x7b"]
    ++ w.fields.flatMap assignLines
    ++ ["\x7d"]

/-- The methods of a text container. -/
def textLines (w : WrapperBlock) : List String :=
  match w.textInterface with
  | none => []
  | some interface =>
    ["",
     "// IsDSLTextContainer implements " ++ interface ++ ".",
     "func " ++ w.receiver ++ " IsDSLTextContainer() \x7b\x7d",
     "",
     "// AddText appends character data to the element.",
     "func " ++ w.receiver ++ " AddText(s string) \x7b o.n.AddText(s) \x7d"]

/-- The method of a condition. -/
def conditionLines (w : WrapperBlock) : List String :=
  match w.conditionInterface with
  | none => []
  | some interface =>
    ["",
     "// IsDSLCondition implements " ++ interface ++ ".",
     "func " ++ w.receiver ++ " IsDSLCondition() \x7b\x7d"]

/-- The marker method of a container that the wrapper satisfies. -/
def markerLines (w : WrapperBlock) (marker : String) : List String :=
  ["",
   "// Is" ++ marker ++ " implements " ++ marker ++ ".",
   "func " ++ w.receiver ++ " Is" ++ marker ++ "() \x7b\x7d"]

/-- The source of a wrapper type. -/
def lines (w : WrapperBlock) : List String :=
  w.headLines ++ w.fields.flatMap w.setterLines ++ w.recordLines ++ w.textLines
    ++ w.conditionLines ++ w.markers.flatMap w.markerLines

/-- The identifiers that a wrapper adds to its package. -/
def packageIdents (w : WrapperBlock) : List String :=
  [w.ident, w.constructor] ++ (if w.fields.isEmpty then [] else [w.record])

/-- The methods that a wrapper's own block gives it. -/
def methods (w : WrapperBlock) : List String :=
  ["DSLNode"] ++ w.fields.map (·.setter)
    ++ (if w.fields.isEmpty then [] else ["ApplyDSLAttrs"])
    ++ (if w.textInterface.isSome then ["IsDSLTextContainer", "AddText"] else [])
    ++ (if w.conditionInterface.isSome then ["IsDSLCondition"] else [])
    ++ w.markers.map ("Is" ++ ·)

end WrapperBlock

/-- The interface of the wrappers that accept elements of a capability. -/
structure ContainerBlock where
  ident : String
  /-- The capability. -/
  source : String
  /-- The task interface of the runtime package. -/
  task : String
deriving Repr, DecidableEq

/-- The source of a container. -/
def ContainerBlock.lines (c : ContainerBlock) : List String :=
  ["",
   "// " ++ c.ident ++ " is implemented by wrappers that accept " ++ c.source ++ " elements.",
   "type " ++ c.ident ++ " interface \x7b",
   "\t" ++ c.task,
   "\tIs" ++ c.ident ++ "()",
   "\x7d"]

/-- A builder function or method. -/
structure BuilderBlock where
  /-- What is declared. -/
  decl : BuilderDecl
  /-- The receiver of a method. -/
  receiver : Option String
  params : List String
  result : Option String
  body : List String
deriving Repr, DecidableEq

namespace BuilderBlock

/-- The name of the function or method. -/
def name (b : BuilderBlock) : String := b.decl.funcName

/-- What the comment says behind the name. -/
def doc (b : BuilderBlock) : String :=
  let place := if b.decl.parent.kind = .owner then "nested in o" else "under parent"
  "builds a " ++ b.decl.tag ++ " element " ++ place
    ++ (if b.decl.form = .immediate then " and runs body on it" else "")
    ++ (match b.decl.returns with
      | .nothing => ""
      | .bool => ". It returns the evaluated condition"
      | .reference => ". It returns a reference to the element")
    ++ "."

/-- The source of a builder. -/
def lines (b : BuilderBlock) : List String :=
  let receiver := match b.receiver with
    | some r => "(" ++ r ++ ") "
    | none => ""
  let result := match b.result with
    | some r => " " ++ r
    | none => ""
  ["",
   "// " ++ b.name ++ " " ++ b.doc,
   "func " ++ receiver ++ b.name ++ "(" ++ join ", " b.params ++ ")" ++ result ++ " \x7b"]
    ++ b.body.map ("\t" ++ ·) ++ ["\x7d"]

/-- The identifier that a builder adds to its package; a method adds none. -/
def packageIdents (b : BuilderBlock) : List String := if b.receiver.isNone then [b.name] else []

end BuilderBlock

/-- A part of the body of a generated file. -/
inductive Block where
  | wrapper (w : WrapperBlock)
  | container (c : ContainerBlock)
  | builder (b : BuilderBlock)
  /-- Source that stands as it is. -/
  | text (s : String)
deriving Repr, DecidableEq

/-- The source of a block. -/
def Block.render : Block → String
  | .wrapper w => unlines w.lines
  | .container c => unlines c.lines
  | .builder b => unlines b.lines
  | .text s => s

end TaskBuilders.Source
