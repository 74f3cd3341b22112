/-!
# The source of project code

A file of the package that generated builders run on, which is copied next to them as it is.
-/

namespace TaskBuilders.Library

/-- Projects: targets, the order in which they run, and the executor of nodes. -/
def projectSource : List String := [
  "package dsl",
  "",
  "import (",
  "\t\"errors\"",
  "\t\"fmt\"",
  ")",
  "",
  "// Executor runs and evaluates outermost nodes.",
  "type Executor interface \x7b",
  "\tExecute(n *Node) error",
  "\tEval(n *Node) (bool, error)",
  "\x7d",
  "",
  "// ExecutorFuncs adapts two functions to Executor. A nil function does",
  "// nothing and evaluates to false.",
  "type ExecutorFuncs struct \x7b",
  "\tExecuteFunc func(n *Node) error",
  "\tEvalFunc    func(n *Node) (bool, error)",
  "\x7d",
  "",
  "// Execute implements Executor.",
  "func (e ExecutorFuncs) Execute(n *Node) error \x7b",
  "\tif e.ExecuteFunc == nil \x7b",
  "\t\treturn nil",
  "\t\x7d",
  "\treturn e.ExecuteFunc(n)",
  "\x7d",
  "",
  "// Eval implements Executor.",
  "func (e ExecutorFuncs) Eval(n *Node) (bool, error) \x7b",
  "\tif e.EvalFunc == nil \x7b",
  "\t\treturn false, nil",
  "\t\x7d",
  "\treturn e.EvalFunc(n)",
  "\x7d",
  "",
  "// ErrUnknownTarget is returned by Run for a target that was never declared.",
  "var ErrUnknownTarget = errors.New(\"dsl: unknown target\")",
  "",
  "// Project is the root of a build script. Tasks built directly on a project",
  "// belong to its implicit default target and run immediately.",
  "type Project struct \x7b",
  "\tn        *Node",
  "\tname     string",
  "\texecutor Executor",
  "\tprops    map[string]string",
  "",
  "\timplicit *Target",
  "\ttargets  []*Target",
  "\tbyName   map[string]*Target",
  "\tdef      string",
  "\terrs     []error",
  "\trefSeq   int",
  "\x7d",
  "",
  "// NewProject creates a project. A nil executor runs nothing.",
  "func NewProject(name string, executor Executor) *Project \x7b",
  "\tif executor == nil \x7b",
  "\t\texecutor = ExecutorFuncs\x7b\x7d",
  "\t\x7d",
  "\tp := &Project\x7b",
  "\t\tname:     name,",
  "\t\texecutor: executor,",
  "\t\tprops:    map[string]string\x7b\x7d,",
  "\t\tbyName:   map[string]*Target\x7b\x7d,",
  "\t\x7d",
  "\tp.n = &Node\x7bproject: p, tag: \"project\", typeID: \"project\", attrs: map[string]any\x7b\x7d\x7d",
  "\tp.implicit = &Target\x7bname: \"\", project: p\x7d",
  "\tp.implicit.n = &Node\x7bproject: p, target: p.implicit, tag: \"target\", typeID: \"target\", attrs: map[string]any\x7b\x7d\x7d",
  "\tp.n.target = p.implicit",
  "\treturn p",
  "\x7d",
  "",
  "// DSLNode implements Task.",
  "func (p *Project) DSLNode() *Node \x7b return p.n \x7d",
  "",
  "// IsDSLTaskContainer implements TaskContainer.",
  "func (p *Project) IsDSLTaskContainer() \x7b\x7d",
  "",
  "// Name returns the project name.",
  "func (p *Project) Name() string \x7b return p.name \x7d",
  "",
  "// Target declares a target. Its body runs when the target is run.",
  "func (p *Project) Target(name string, body func(TaskContainer), depends ...string) *Target \x7b",
  "\tt := &Target\x7bname: name, project: p, body: body, depends: depends\x7d",
  "\tt.n = &Node\x7bproject: p, target: t, tag: \"target\", typeID: \"target\", attrs: map[string]any\x7b\x7d\x7d",
  "\tp.targets = append(p.targets, t)",
  "\tp.byName[name] = t",
  "\treturn t",
  "\x7d",
  "",
  "// Default marks the target run when Run is called without names.",
  "func (p *Project) Default(name string) \x7b p.def = name \x7d",
  "",
  "// Targets returns the declared targets in declaration order.",
  "func (p *Project) Targets() []*Target \x7b return p.targets \x7d",
  "",
  "// Run runs the named targets, or the default target, after their",
  "// dependencies. Each target runs at most once per call.",
  "func (p *Project) Run(names ...string) error \x7b",
  "\tif len(names) == 0 && p.def != \"\" \x7b",
  "\t\tnames = []string\x7bp.def\x7d",
  "\t\x7d",
  "\tdone := map[string]bool\x7b\x7d",
  "\tfor _, name := range names \x7b",
  "\t\tif err := p.run(name, done, map[string]bool\x7b\x7d); err != nil \x7b",
  "\t\t\treturn err",
  "\t\t\x7d",
  "\t\x7d",
  "\treturn p.Err()",
  "\x7d",
  "",
  "func (p *Project) run(name string, done, visiting map[string]bool) error \x7b",
  "\tif done[name] \x7b",
  "\t\treturn nil",
  "\t\x7d",
  "\tt, ok := p.byName[name]",
  "\tif !ok \x7b",
  "\t\treturn fmt.Errorf(\"%w: %s\", ErrUnknownTarget, name)",
  "\t\x7d",
  "\tif visiting[name] \x7b",
  "\t\treturn fmt.Errorf(\"dsl: circular dependency on target %s\", name)",
  "\t\x7d",
  "\tvisiting[name] = true",
  "\tfor _, dep := range t.depends \x7b",
  "\t\tif err := p.run(dep, done, visiting); err != nil \x7b",
  "\t\t\treturn err",
  "\t\t\x7d",
  "\t\x7d",
  "\tdone[name] = true",
  "\tif t.body != nil \x7b",
  "\t\tt.body(t)",
  "\t\x7d",
  "\treturn nil",
  "\x7d",
  "",
  "// Err returns every failure recorded while executing tasks.",
  "func (p *Project) Err() error \x7b return errors.Join(p.errs...) \x7d",
  "",
  "func (p *Project) fail(err error) \x7b p.errs = append(p.errs, err) \x7d",
  "",
  "// Tasks returns the outermost tasks built directly on the project.",
  "func (p *Project) Tasks() []*Node \x7b return p.implicit.tasks \x7d",
  "",
  "// Target is a named group of tasks.",
  "type Target struct \x7b",
  "\tn       *Node",
  "\tname    string",
  "\tproject *Project",
  "\tbody    func(TaskContainer)",
  "\tdepends []string",
  "\ttasks   []*Node",
  "\x7d",
  "",
  "// DSLNode implements Task.",
  "func (t *Target) DSLNode() *Node \x7b return t.n \x7d",
  "",
  "// IsDSLTaskContainer implements TaskContainer.",
  "func (t *Target) IsDSLTaskContainer() \x7b\x7d",
  "",
  "// Name returns the target name.",
  "func (t *Target) Name() string \x7b return t.name \x7d",
  "",
  "// Tasks returns the outermost tasks built in the target, in build order.",
  "func (t *Target) Tasks() []*Node \x7b return t.tasks \x7d"]

end TaskBuilders.Library
