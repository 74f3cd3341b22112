/-!
# The source of node code

A file of the package that generated builders run on, which is copied next to them as it is.
-/

namespace TaskBuilders.Library

/-- Nodes: what wrapper types hold, how builders build, configure and execute them. -/
def nodeSource : List String := [
  "// Package dsl is the runtime every generated builder library imports.",
  "//",
  "// Generated wrapper types hold a *Node. Builders construct the node under a",
  "// parent, assign attributes, run the caller's initializer block, configure",
  "// the node (attach it to its parent or target) and, for nodes built directly",
  "// under a project or target, execute it right away through the project's",
  "// Executor.",
  "//",
  "// The package has no dependencies outside the standard library: it is copied",
  "// as is into every generated source tree.",
  "package dsl",
  "",
  "import (",
  "\t\"fmt\"",
  "\t\"sort\"",
  "\t\"strings\"",
  ")",
  "",
  "// Task is implemented by every generated wrapper type.",
  "type Task interface \x7b",
  "\tDSLNode() *Node",
  "\x7d",
  "",
  "// TaskContainer is the root container: builders called on it construct",
  "// outermost tasks.",
  "type TaskContainer interface \x7b",
  "\tTask",
  "\tIsDSLTaskContainer()",
  "\x7d",
  "",
  "// Condition is implemented by wrappers of evaluable task definitions.",
  "type Condition interface \x7b",
  "\tTask",
  "\tIsDSLCondition()",
  "\x7d",
  "",
  "// TextContainer is implemented by wrappers that accept character data.",
  "type TextContainer interface \x7b",
  "\tTask",
  "\tIsDSLTextContainer()",
  "\x7d",
  "",
  "// Node is the runtime state behind a generated wrapper.",
  "type Node struct \x7b",
  "\tproject *Project",
  "\ttarget  *Target",
  "\tparent  *Node",
  "",
  "\ttypeID string",
  "\ttag    string",
  "",
  "\tattrs    map[string]any",
  "\ttext     strings.Builder",
  "\tchildren []*Node",
  "",
  "\toutermost  bool",
  "\tcollecting bool",
  "\tconfigured bool",
  "\texecuted   bool",
  "\x7d",
  "",
  "// NewNode creates the node for a task built under parent. Outermost nodes",
  "// have no parent link; they belong to the parent's target and run as soon as",
  "// they are configured. A node built under a container task is never",
  "// outermost: it becomes a child of the container instead.",
  "func NewNode(parent Task, typeID, tag string, outermost bool) *Node \x7b",
  "\tpn := parent.DSLNode()",
  "\tn := &Node\x7b",
  "\t\tproject:   pn.project,",
  "\t\ttarget:    pn.target,",
  "\t\ttypeID:    typeID,",
  "\t\ttag:       tag,",
  "\t\tattrs:     map[string]any\x7b\x7d,",
  "\t\toutermost: outermost,",
  "\t\x7d",
  "\tif !outermost || pn.collecting \x7b",
  "\t\tn.parent = pn",
  "\t\tn.outermost = false",
  "\t\x7d",
  "\treturn n",
  "\x7d",
  "",
  "// Project returns the project the node belongs to.",
  "func (n *Node) Project() *Project \x7b return n.project \x7d",
  "",
  "// Target returns the target the node was built in.",
  "func (n *Node) Target() *Target \x7b return n.target \x7d",
  "",
  "// Parent returns the enclosing node, or nil for outermost nodes.",
  "func (n *Node) Parent() *Node \x7b return n.parent \x7d",
  "",
  "// TypeID returns the task definition identifier.",
  "func (n *Node) TypeID() string \x7b return n.typeID \x7d",
  "",
  "// Tag returns the element tag the node was built with.",
  "func (n *Node) Tag() string \x7b return n.tag \x7d",
  "",
  "// Outermost reports whether the node runs on its own.",
  "func (n *Node) Outermost() bool \x7b return n.outermost \x7d",
  "",
  "// Set assigns an attribute.",
  "func (n *Node) Set(name string, v any) \x7b n.attrs[strings.ToLower(name)] = v \x7d",
  "",
  "// Get returns an attribute.",
  "func (n *Node) Get(name string) (any, bool) \x7b",
  "\tv, ok := n.attrs[strings.ToLower(name)]",
  "\treturn v, ok",
  "\x7d",
  "",
  "// AttrNames returns the names of the assigned attributes, sorted.",
  "func (n *Node) AttrNames() []string \x7b",
  "\tout := make([]string, 0, len(n.attrs))",
  "\tfor k := range n.attrs \x7b",
  "\t\tout = append(out, k)",
  "\t\x7d",
  "\tsort.Strings(out)",
  "\treturn out",
  "\x7d",
  "",
  "// Attr returns the attribute name of n converted to T.",
  "func Attr[T any](n *Node, name string) (T, bool) \x7b",
  "\tv, ok := n.Get(name)",
  "\tif !ok \x7b",
  "\t\tvar zero T",
  "\t\treturn zero, false",
  "\t\x7d",
  "\tt, ok := v.(T)",
  "\treturn t, ok",
  "\x7d",
  "",
  "// AddText appends character data.",
  "func (n *Node) AddText(s string) \x7b n.text.WriteString(s) \x7d",
  "",
  "// Text returns the accumulated character data.",
  "func (n *Node) Text() string \x7b return n.text.String() \x7d",
  "",
  "// Children returns the configured child nodes in build order.",
  "func (n *Node) Children() []*Node \x7b return n.children \x7d",
  "",
  "// Configure attaches the node to its parent, or to its target when it is",
  "// outermost. Configuring twice is a no-op.",
  "func (n *Node) Configure() \x7b",
  "\tif n.configured \x7b",
  "\t\treturn",
  "\t\x7d",
  "\tn.configured = true",
  "\tswitch \x7b",
  "\tcase n.parent != nil:",
  "\t\tn.parent.children = append(n.parent.children, n)",
  "\tcase n.target != nil:",
  "\t\tn.target.tasks = append(n.target.tasks, n)",
  "\t\x7d",
  "\x7d",
  "",
  "// Execute runs an outermost node through the project's executor. Nested",
  "// nodes are run by whatever executes their outermost ancestor, so Execute",
  "// is a no-op for them. Failures are recorded on the project.",
  "func (n *Node) Execute() \x7b",
  "\tif !n.outermost || n.executed || n.project == nil \x7b",
  "\t\treturn",
  "\t\x7d",
  "\tn.executed = true",
  "\tif err := n.project.executor.Execute(n); err != nil \x7b",
  "\t\tn.project.fail(fmt.Errorf(\"%s: %w\", n.tag, err))",
  "\t\x7d",
  "\x7d",
  "",
  "// Eval evaluates a condition node. Failures are recorded on the project and",
  "// evaluate to false.",
  "func (n *Node) Eval() bool \x7b",
  "\tif n.project == nil \x7b",
  "\t\treturn false",
  "\t\x7d",
  "\tok, err := n.project.executor.Eval(n)",
  "\tif err != nil \x7b",
  "\t\tn.project.fail(fmt.Errorf(\"%s: %w\", n.tag, err))",
  "\t\treturn false",
  "\t\x7d",
  "\treturn ok",
  "\x7d",
  "",
  "// String renders the node and its children as an element tree.",
  "func (n *Node) String() string \x7b",
  "\tvar sb strings.Builder",
  "\tn.write(&sb, 0)",
  "\treturn sb.String()",
  "\x7d",
  "",
  "func (n *Node) write(sb *strings.Builder, depth int) \x7b",
  "\tsb.WriteString(strings.Repeat(\"  \", depth))",
  "\tsb.WriteString(\"<\" + n.tag)",
  "\tfor _, k := range n.AttrNames() \x7b",
  "\t\tfmt.Fprintf(sb, \" %s=%q\", k, fmt.Sprint(display(n.attrs[k])))",
  "\t\x7d",
  "\tif len(n.children) == 0 && n.text.Len() == 0 \x7b",
  "\t\tsb.WriteString(\"/>\\n\")",
  "\t\treturn",
  "\t\x7d",
  "\tsb.WriteString(\">\")",
  "\tif n.text.Len() > 0 \x7b",
  "\t\tsb.WriteString(n.text.String())",
  "\t\x7d",
  "\tif len(n.children) > 0 \x7b",
  "\t\tsb.WriteString(\"\\n\")",
  "\t\tfor _, c := range n.children \x7b",
  "\t\t\tc.write(sb, depth+1)",
  "\t\t\x7d",
  "\t\tsb.WriteString(strings.Repeat(\"  \", depth))",
  "\t\x7d",
  "\tsb.WriteString(\"</\" + n.tag + \">\\n\")",
  "\x7d",
  "",
  "func display(v any) any \x7b",
  "\tif r, ok := v.(interface\x7b ID() string \x7d); ok \x7b",
  "\t\treturn r.ID()",
  "\t\x7d",
  "\treturn v",
  "\x7d",
  "",
  "type containerView struct\x7b n *Node \x7d",
  "",
  "func (c containerView) DSLNode() *Node      \x7b return c.n \x7d",
  "func (c containerView) IsDSLTaskContainer() \x7b\x7d",
  "",
  "// RunContainer runs init against a container view of t. Tasks built inside",
  "// init become children of t instead of running on their own.",
  "func RunContainer(t Task, init func(TaskContainer)) \x7b",
  "\tif init == nil \x7b",
  "\t\treturn",
  "\t\x7d",
  "\tn := t.DSLNode()",
  "\tn.collecting = true",
  "\tinit(containerView\x7bn: n\x7d)",
  "\x7d"]

end TaskBuilders.Library
