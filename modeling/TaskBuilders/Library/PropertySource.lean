/-!
# The source of properties code

A file of the package that generated builders run on, which is copied next to them as it is.
-/

namespace TaskBuilders.Library

/-- Properties of a project, as texts and as typed values. -/
def propertiesSource : List String := [
  "package dsl",
  "",
  "import (",
  "\t\"os\"",
  "\t\"strconv\"",
  ")",
  "",
  "// SetProperty sets a user property on the project.",
  "func (p *Project) SetProperty(name, value string) \x7b p.props[name] = value \x7d",
  "",
  "// LookupProperty returns a user property.",
  "func (p *Project) LookupProperty(name string) (string, bool) \x7b",
  "\tv, ok := p.props[name]",
  "\treturn v, ok",
  "\x7d",
  "",
  "// InitProperties sets the basedir property to the working directory.",
  "func (p *Project) InitProperties() error \x7b",
  "\twd, err := os.Getwd()",
  "\tif err != nil \x7b",
  "\t\treturn err",
  "\t\x7d",
  "\tp.SetProperty(\"basedir\", wd)",
  "\treturn nil",
  "\x7d",
  "",
  "// Property is a typed view of a project property. Unset or unparsable",
  "// values fall back to Default.",
  "type Property[T any] struct \x7b",
  "\tName    string",
  "\tDefault func() T",
  "\tparse   func(string) (T, error)",
  "\tformat  func(T) string",
  "\x7d",
  "",
  "// Get returns the property value on p.",
  "func (pr Property[T]) Get(p *Project) T \x7b",
  "\tif raw, ok := p.LookupProperty(pr.Name); ok \x7b",
  "\t\tif v, err := pr.parse(raw); err == nil \x7b",
  "\t\t\treturn v",
  "\t\t\x7d",
  "\t\x7d",
  "\tif pr.Default != nil \x7b",
  "\t\treturn pr.Default()",
  "\t\x7d",
  "\tvar zero T",
  "\treturn zero",
  "\x7d",
  "",
  "// Set stores v on p.",
  "func (pr Property[T]) Set(p *Project, v T) \x7b p.SetProperty(pr.Name, pr.format(v)) \x7d",
  "",
  "// IsSet reports whether the property has a value on p.",
  "func (pr Property[T]) IsSet(p *Project) bool \x7b",
  "\t_, ok := p.LookupProperty(pr.Name)",
  "\treturn ok",
  "\x7d",
  "",
  "// StringProperty declares a string property.",
  "func StringProperty(name, def string) Property[string] \x7b",
  "\treturn Property[string]\x7b",
  "\t\tName:    name,",
  "\t\tDefault: func() string \x7b return def \x7d,",
  "\t\tparse:   func(s string) (string, error) \x7b return s, nil \x7d,",
  "\t\tformat:  func(s string) string \x7b return s \x7d,",
  "\t\x7d",
  "\x7d",
  "",
  "// BoolProperty declares a boolean property.",
  "func BoolProperty(name string, def bool) Property[bool] \x7b",
  "\treturn Property[bool]\x7b",
  "\t\tName:    name,",
  "\t\tDefault: func() bool \x7b return def \x7d,",
  "\t\tparse:   strconv.ParseBool,",
  "\t\tformat:  strconv.FormatBool,",
  "\t\x7d",
  "\x7d",
  "",
  "// IntProperty declares an integer property.",
  "func IntProperty(name string, def int) Property[int] \x7b",
  "\treturn Property[int]\x7b",
  "\t\tName:    name,",
  "\t\tDefault: func() int \x7b return def \x7d,",
  "\t\tparse:   strconv.Atoi,",
  "\t\tformat:  strconv.Itoa,",
  "\t\x7d",
  "\x7d",
  "",
  "// FloatProperty declares a floating point property.",
  "func FloatProperty(name string, def float64) Property[float64] \x7b",
  "\treturn Property[float64]\x7b",
  "\t\tName:    name,",
  "\t\tDefault: func() float64 \x7b return def \x7d,",
  "\t\tparse:   func(s string) (float64, error) \x7b return strconv.ParseFloat(s, 64) \x7d,",
  "\t\tformat:  func(f float64) string \x7b return strconv.FormatFloat(f, 'g', -1, 64) \x7d,",
  "\t\x7d",
  "\x7d"]

end TaskBuilders.Library
