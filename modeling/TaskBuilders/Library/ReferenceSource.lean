/-!
# The source of reference code

A file of the package that generated builders run on, which is copied next to them as it is.
-/

namespace TaskBuilders.Library

/-- References to nodes, and paths. -/
def referenceSource : List String := [
  "package dsl",
  "",
  "import \"strconv\"",
  "",
  "// Reference points at a task built elsewhere in the script. Builders of",
  "// reference-producing task definitions return one; attributes such as",
  "// \"refid\" accept one.",
  "type Reference[T Task] struct \x7b",
  "\ttarget T",
  "\tid     string",
  "\x7d",
  "",
  "// NewReference creates a reference to t. The reference id is taken from the",
  "// node's \"id\" attribute when set, otherwise one is assigned.",
  "func NewReference[T Task](t T) *Reference[T] \x7b",
  "\tn := t.DSLNode()",
  "\tif id, ok := Attr[string](n, \"id\"); ok && id != \"\" \x7b",
  "\t\treturn &Reference[T]\x7btarget: t, id: id\x7d",
  "\t\x7d",
  "\tseq := 1",
  "\tif n.project != nil \x7b",
  "\t\tn.project.refSeq++",
  "\t\tseq = n.project.refSeq",
  "\t\x7d",
  "\tid := \"ref\" + strconv.Itoa(seq)",
  "\tn.Set(\"id\", id)",
  "\treturn &Reference[T]\x7btarget: t, id: id\x7d",
  "\x7d",
  "",
  "// Get returns the referenced task.",
  "func (r *Reference[T]) Get() T \x7b return r.target \x7d",
  "",
  "// ID returns the reference id.",
  "func (r *Reference[T]) ID() string \x7b return r.id \x7d",
  "",
  "// Path is the designated path type that \"*pathref\" attributes point at.",
  "type Path struct\x7b n *Node \x7d",
  "",
  "// NewPath creates a path task under parent.",
  "func NewPath(parent Task, tag string, outermost bool) *Path \x7b",
  "\treturn &Path\x7bn: NewNode(parent, \"path\", tag, outermost)\x7d",
  "\x7d",
  "",
  "// DSLNode implements Task.",
  "func (p *Path) DSLNode() *Node \x7b return p.n \x7d",
  "",
  "// Ptr returns a pointer to v. It fills optional fields of attribute structs:",
  "//",
  "//\tMkdirWith(t, DSLMkdirAttrs\x7bDir: dsl.Ptr(\"build\")\x7d, nil)",
  "func Ptr[T any](v T) *T \x7b return &v \x7d"]

end TaskBuilders.Library
