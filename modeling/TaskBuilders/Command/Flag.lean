import TaskBuilders.Command.CommaList
import TaskBuilders.Number.Reading
import TaskBuilders.Text.Quoted

/-!
# Flags

Flags may stand anywhere among the arguments, up to `--`. A flag that takes a value has it behind an
equals sign or in the next argument; a flag with a shorthand may have it right behind the letter.
-/

namespace TaskBuilders.Command

/-- What a flag is set to. -/
inductive FlagKind where
  /-- On or off; on when it has no value. -/
  | switch
  | text
  /-- A list, to which every use but the first adds. -/
  | list
deriving Repr, DecidableEq

/-- A flag. -/
structure Flag where
  name : String
  kind : FlagKind
  shorthand : Option Char := none
deriving Repr, DecidableEq

/-- The value of a flag that was set. -/
inductive FlagValue where
  | switch (on : Bool)
  | text (s : String)
  | list (items : List String)
deriving Repr, DecidableEq

/-- The reasons to refuse arguments. -/
inductive FlagError where
  | badSyntax (argument : String)
  | unknown (name : String)
  | unknownShorthand (letter : Char) (letters : String)
  | noValue (name : String)
  | noShorthandValue (letter : Char) (letters : String)
  | invalidValue (flag : Flag) (value cause : String)
  | helpRequested
deriving Repr, DecidableEq

/-- How a flag is named in messages. -/
def Flag.display (f : Flag) : String :=
  match f.shorthand with
  | some c => "-" ++ String.singleton c ++ ", --" ++ f.name
  | none => "--" ++ f.name

/-- The text of a reason. -/
def FlagError.message : FlagError → String
  | badSyntax s => "bad flag syntax: " ++ s
  | unknown name => "unknown flag: --" ++ name
  | unknownShorthand c letters => "unknown shorthand flag: " ++ Text.quoteChar c ++ " in -" ++ letters
  | noValue name => "flag needs an argument: --" ++ name
  | noShorthandValue c letters => "flag needs an argument: " ++ Text.quoteChar c ++ " in -" ++ letters
  | invalidValue f value cause =>
    "invalid argument " ++ Text.quote value ++ " for " ++ Text.quote f.display ++ " flag: " ++ cause
  | helpRequested => "pflag: help requested"

/-- Flags that were set, and the arguments that are none. -/
structure Arguments where
  set : List (String × FlagValue) := []
  positional : List String := []
deriving Repr, DecidableEq

namespace Arguments

/-- The value of a flag that was set. -/
def value? (a : Arguments) (name : String) : Option FlagValue := (a.set.find? (·.1 = name)).map (·.2)

/-- Sets a flag, in place of an earlier value. -/
def put (a : Arguments) (name : String) (v : FlagValue) : Arguments :=
  { a with set := a.set.filter (·.1 ≠ name) ++ [(name, v)] }

/-- Sets a flag from its text. -/
def assign (a : Arguments) (f : Flag) (value : String) : Except FlagError Arguments :=
  match f.kind with
  | .text => .ok (a.put f.name (.text value))
  | .switch =>
    match Number.readBool? value with
    | some b => .ok (a.put f.name (.switch b))
    | none =>
      .error (.invalidValue f value
        ("strconv.ParseBool: parsing " ++ Text.quote value ++ ": invalid syntax"))
  | .list =>
    match readList value with
    | .error e => .error (.invalidValue f value e.message)
    | .ok items =>
      match a.value? f.name with
      | some (.list before) => .ok (a.put f.name (.list (before ++ items)))
      | _ => .ok (a.put f.name (.list items))

end Arguments

/-- A flag whose value is the next argument, and the failure when there is none. -/
abbrev Pending := Flag × FlagError

/-- The character of the first byte of a letter's UTF-8 form, which stands for the letter in messages. -/
def firstByte (c : Char) : Char := Char.ofNat ((String.utf8EncodeChar c).headD 0).toNat

/-- Reads shorthand letters. -/
def readShorthands (flags : List Flag) (a : Arguments) : List Char →
    Except FlagError (Arguments × Option Pending)
  | [] => .ok (a, none)
  | c :: rest =>
    let letters := String.ofList (c :: rest)
    if Text.hasLeading "test." letters then .ok (a, none)
    else
      match flags.find? (·.shorthand = some c) with
      | none =>
        .error (if c = 'h' then .helpRequested else .unknownShorthand (firstByte c) letters)
      | some f =>
        match rest with
        | '=' :: d :: more => (a.assign f (String.ofList (d :: more))).map (·, none)
        | _ =>
          if f.kind = .switch then
            match a.assign f "true" with
            | .error e => .error e
            | .ok a => readShorthands flags a rest
          else if rest.isEmpty then .ok (a, some (f, .noShorthandValue c letters))
          else (a.assign f (String.ofList rest)).map (·, none)

/-- Reads an argument behind two dashes. -/
def readLong (flags : List Flag) (a : Arguments) (body : String) :
    Except FlagError (Arguments × Option Pending) :=
  match body.toList with
  | [] | '-' :: _ | '=' :: _ => .error (.badSyntax ("--" ++ body))
  | _ =>
    let (name, value) := Text.cutAtChar '=' body
    match flags.find? (·.name = name), value with
    | none, _ => .error (if name = "help" then .helpRequested else .unknown name)
    | some f, some v => (a.assign f v).map (·, none)
    | some f, none =>
      if f.kind = .switch then (a.assign f "true").map (·, none)
      else .ok (a, some (f, .noValue name))

/-- Reads arguments one after the other. `pending` is the flag that waits for its value. -/
def readArguments (flags : List Flag) : (pending : Option Pending) → Arguments → List String →
    Except FlagError Arguments
  | none, a, [] => .ok a
  | some (_, e), _, [] => .error e
  | some (f, _), a, s :: rest =>
    match a.assign f s with
    | .error e => .error e
    | .ok a => readArguments flags none a rest
  | none, a, s :: rest =>
    let read (r : Except FlagError (Arguments × Option Pending)) : Except FlagError Arguments :=
      match r with
      | .error e => .error e
      | .ok (a, pending) => readArguments flags pending a rest
    match s.toList with
    | ['-', '-'] => .ok { a with positional := a.positional ++ rest }
    | '-' :: '-' :: body => read (readLong flags a (String.ofList body))
    | '-' :: c :: more => read (readShorthands flags a (c :: more))
    | _ => readArguments flags none { a with positional := a.positional ++ [s] } rest

/-- Reads the arguments of a command that has the given flags. -/
def parseArguments (flags : List Flag) (arguments : List String) : Except FlagError Arguments :=
  readArguments flags none {} arguments

/-- The flags of the command. -/
def commandFlags : List Flag :=
  [⟨"classpath", .list, some 'c'⟩, ⟨"out", .text, some 'o'⟩, ⟨"seek", .switch, none⟩,
   ⟨"default-aliases", .switch, none⟩, ⟨"compile", .switch, none⟩, ⟨"jar", .switch, none⟩,
   ⟨"schema", .list, none⟩, ⟨"package", .text, none⟩, ⟨"module", .text, none⟩,
   ⟨"source-prefix", .text, none⟩, ⟨"reference-type", .text, none⟩, ⟨"no-container", .list, none⟩,
   ⟨"log-level", .text, none⟩, ⟨"config", .text, none⟩]

/-- The flag that asks for help. -/
def helpFlag : Flag := ⟨"help", .switch, some 'h'⟩

end TaskBuilders.Command
