import TaskBuilders.Cue.Value

/-!
# Values of expressions

All expressions that a field is declared with hold at once. A reference means the field in the struct
that its declaration has become part of, with everything that struct was unified with, so a scope keeps
for each enclosing struct literal all the literals that make up its struct.

A reference that leads back to itself adds nothing to what it is unified with; one that needs its own
value, or stands inside its own value, is a fault.
-/

namespace TaskBuilders.Cue

/-- A struct around an expression: the literal that holds the expression, and all literals of the struct
with their own scopes. -/
inductive Frame where
  | mk (own : List Declaration) (literals : List (List Frame × List Declaration))

/-- The structs around an expression, the innermost first. -/
abbrev Scope := List Frame

/-- A struct literal in its scope. -/
abbrev StructLiteral := Scope × List Declaration

/-- A list literal in its scope. -/
structure ListLiteral where
  scope : Scope
  items : List Expr
  more : Option Expr

/-- What an expression contributes to a value. -/
inductive Part where
  | struct (literal : StructLiteral)
  | list (literal : ListLiteral)
  | scalar (v : Value)

/-- The expressions that a field has in the literals of a struct, each in its scope. -/
def fieldExprs (literals : List StructLiteral) (l : Label) : List (Scope × Expr) :=
  literals.flatMap fun (scope, ds) => ds.filterMap fun
    | .field l' _ e => if l' = l then some (Frame.mk ds literals :: scope, e) else none
    | _ => none

/-- Whether a literal declares a name that can be referred to. -/
def declares (name : String) (ds : List Declaration) : Bool :=
  ds.any fun
    | .field l plain _ => plain && l == .ofName name
    | _ => false

/-- The expressions that a name stands for in a scope; nothing when it is not declared. -/
def lookup? (name : String) : Scope → Option (List (Scope × Expr))
  | [] => none
  | .mk own literals :: outer =>
    if declares name own then some (fieldExprs literals (.ofName name)) else lookup? name outer

/-- The labels of the fields of a struct, at their first occurrence. -/
def labels (literals : List StructLiteral) : List Label :=
  (literals.foldl (fun seen (_, ds) => ds.foldl (fun seen d =>
    match d with
    | .field l _ _ => if seen.contains l then seen else l :: seen
    | _ => seen) seen) []).reverse

/-- The embedded expressions of a struct literal. -/
def embeddings (ds : List Declaration) : List Expr :=
  ds.filterMap fun
    | .embedding e => some e
    | _ => none

/-- Whether a struct literal has nothing but embedded expressions, so that it is no struct by itself. -/
def isWrapper (ds : List Declaration) : Bool :=
  !ds.isEmpty && ds.all fun
    | .embedding _ => true
    | _ => false

/-- The expressions at one place of lists, each in its scope. -/
def itemExprs (ls : List ListLiteral) (i : Nat) : List (Scope × Expr) :=
  ls.filterMap fun l => (l.items[i]?.or l.more).map (l.scope, ·)

/-- The length that lists have in common; lists that allow more items may be shorter. -/
def commonLength? (ls : List ListLiteral) : Option Nat :=
  let n := ls.foldl (fun n l => max n l.items.length) 0
  if ls.all fun l => l.more.isSome || l.items.length = n then some n else none

/-- Parts together with the references that led to them. -/
abbrev Parts := List Part × List Nat

/-- Parts of several expressions. -/
def joinParts (xs : List Parts) : Parts := (xs.flatMap (·.1), xs.flatMap (·.2))

/-- The struct literals among parts. -/
def structLiterals (ps : List Part) : List StructLiteral :=
  ps.filterMap fun
    | .struct l => some l
    | _ => none

/-- The list literals among parts. -/
def listLiterals (ps : List Part) : List ListLiteral :=
  ps.filterMap fun
    | .list l => some l
    | _ => none

/-- The meet of the scalars among parts. -/
def scalarMeet? (ps : List Part) : Option Value :=
  ps.foldlM (fun v p =>
    match p with
    | .scalar w => v.meet? w
    | _ => some v) (.kind .top)

mutual

/-- The value of expressions that hold at once. `active` are the references on the way here. -/
def valueOf? : (fuel : Nat) → (active : List Nat) → List (Scope × Expr) → Option Value
  | 0, _, _ => none
  | fuel + 1, active, es =>
    match es.mapM fun (scope, e) => parts? fuel active [] scope e with
    | none => none
    | some found =>
      let (ps, via) := joinParts found
      match scalarMeet? ps with
      | none => none
      | some scalar =>
        match structLiterals ps, listLiterals ps, scalar with
        | [], [], v => some v
        | literals, [], .kind .top =>
          ((labels literals).mapM fun l =>
            (valueOf? fuel (via ++ active) (fieldExprs literals l)).map (l, ·)).map .struct
        | [], ls, .kind .top =>
          match commonLength? ls with
          | none => none
          | some n =>
            ((List.range n).mapM fun i => valueOf? fuel (via ++ active) (itemExprs ls i)).map .list
        | _ :: _, [], .unknown => some .unknown
        | [], _ :: _, .unknown => some .unknown
        | _, _, _ => none

/-- The parts of one expression. `seen` are the references since the last struct, list or operator. -/
def parts? : (fuel : Nat) → (active seen : List Nat) → Scope → Expr → Option Parts
  | 0, _, _, _, _ => none
  | fuel + 1, active, seen, scope, e =>
    let scalar (v : Option Value) : Option Parts := v.map fun v => ([.scalar v], seen)
    let operand (e : Expr) : Option Value := valueOf? fuel (seen ++ active) [(scope, e)]
    match e with
    | .null => scalar (some .null)
    | .bool b => scalar (some (.bool b))
    | .int n => scalar (some (.int n))
    | .float x => scalar (some (.float x))
    | .text s => scalar (some (.text s))
    | .bytes s => scalar (some (.bytes s))
    | .interpolation binary es =>
      scalar (match es.mapM operand with
        | none => none
        | some vs =>
          if vs.any Value.isOpen then some .unknown
          else (vs.mapM Value.interpolated?).map fun ss =>
            if binary then .bytes (String.join ss) else .text (String.join ss))
    | .signed sign e =>
      scalar ((operand e).bind fun v => if v.isOpen then some .unknown else v.sign? sign)
    | .binary op a b =>
      scalar (match operand a, operand b with
        | some a, some b => if a.isOpen || b.isOpen then some .unknown else a.operate? op b
        | _, _ => none)
    | .list items more => some ([.list ⟨scope, items, more⟩], seen)
    | .struct ds =>
      let inner := Frame.mk ds [(scope, ds)] :: scope
      let own : List Part := if isWrapper ds then [] else [.struct (scope, ds)]
      ((embeddings ds).mapM (parts? fuel active seen inner)).map fun found =>
        joinParts ((own, seen) :: found)
    | .unification a b =>
      match parts? fuel active seen scope a, parts? fuel active seen scope b with
      | some x, some y => some (joinParts [x, y])
      | _, _ => none
    | .reference p name =>
      match lookup? name scope with
      | none => scalar ((Kind.ofName? name).map .kind)
      | some es =>
        if seen.contains p then some ([], seen)
        else if active.contains p then none
        else (es.mapM fun (s, e) => parts? fuel active (p :: seen) s e).map joinParts
    | .selection base l =>
      match parts? fuel active seen scope base with
      | none => none
      | some (ps, via) =>
        match fieldExprs (structLiterals ps) l with
        | [] => none
        | es => (es.mapM fun (s, e) => parts? fuel active via s e).map joinParts

end

mutual

/-- The number of expressions and declarations inside an expression, itself included. -/
def Expr.size : Expr → Nat
  | .interpolation _ es => exprsSize es + 1
  | .selection e _ | .signed _ e => e.size + 1
  | .list es none => exprsSize es + 1
  | .list es (some e) => exprsSize es + e.size + 1
  | .struct ds => declarationsSize ds + 1
  | .unification a b | .binary _ a b => a.size + b.size + 1
  | _ => 1

/-- The size of all expressions of a list. -/
def exprsSize : List Expr → Nat
  | [] => 0
  | e :: es => e.size + exprsSize es

/-- The size of a declaration. -/
def Declaration.size : Declaration → Nat
  | .field _ _ e => e.size + 1
  | .embedding e => e.size + 1
  | .more => 1

/-- The size of all declarations of a list. -/
def declarationsSize : List Declaration → Nat
  | [] => 0
  | d :: ds => d.size + declarationsSize ds

end

/-- The value of a closed expression. No chain of evaluations meets a reference twice, so the square of
the size is enough fuel. -/
def Expr.value? (e : Expr) : Option Value := valueOf? ((2 * e.size + 2) * (2 * e.size + 2)) [] [([], e)]

end TaskBuilders.Cue
