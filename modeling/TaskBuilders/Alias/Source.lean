import TaskBuilders.Alias.Entry
import TaskBuilders.Log.Record
import TaskBuilders.Text.Path

/-!
# Alias sources

The extension of a source's name tells its format. Entries keep the order of the source; those without
a tag or a type are dropped.
-/

namespace TaskBuilders.Alias

/-- A format of alias sources. -/
inductive Format where
  | properties
  | xml
  | yaml
  | toml
deriving Repr, DecidableEq

/-- The format that a name tells by its extension, in any case of letters. -/
def Format.ofName? (name : String) : Option Format :=
  match Text.lowercase (Text.pathExtension name) with
  | ".properties" => some .properties
  | ".xml" => some .xml
  | ".yaml" | ".yml" => some .yaml
  | ".toml" => some .toml
  | _ => none

/-- Whether a name is that of an alias source. -/
def isSource (name : String) : Bool := (Format.ofName? name).isSome

/-- The aliases of a text as they stand there. -/
def Format.read? : Format → String → Option (List TagAlias)
  | properties => ofProperties?
  | xml => ofXml?
  | yaml => ofYaml?
  | toml => ofToml?

/-- Why a source gives no aliases. -/
inductive SourceError where
  | unsupported (name : String)
  | malformed (name : String)
  | unreadable (name cause : String)
  | unopened (cause : String)
deriving Repr, DecidableEq

/-- The text of an error. -/
def SourceError.message : SourceError → String
  | unsupported name => "alias: unsupported format: " ++ name
  | malformed name => "parse " ++ name
  | unreadable name cause => "read " ++ name ++ ": " ++ cause
  | unopened cause => cause

/-- Trims the entries and drops those without a tag or a type. -/
def clean (as : List TagAlias) : List TagAlias :=
  (as.map fun a => { a with tag := Text.trim a.tag, type := Text.trim a.type }).filter fun a =>
    a.tag != "" && a.type != ""

/-- The aliases of a source. -/
def parse (name text : String) : Except SourceError (List TagAlias) :=
  match Format.ofName? name with
  | none => .error (.unsupported name)
  | some f =>
    match f.read? text with
    | none => .error (.malformed name)
    | some as => .ok (clean as)

/-! ## Loading -/

/-- What opening a source gives. -/
inductive Opening where
  | missing
  | failed (cause : String)
  | unreadable (cause : String)
  | content (text : String)
deriving Repr

/-- The aliases of an opened source; nothing inside when it is missing. -/
def readOpening (name : String) : Opening → Except SourceError (Option (List TagAlias))
  | .missing => .ok none
  | .failed cause => .error (.unopened cause)
  | .unreadable cause => .error (.unreadable name cause)
  | .content text => (parse name text).map some

/-- Reads sources in order. Missing ones are reported and skipped; any other failure ends the
loading. -/
def load (openSource : String → Opening) : List String →
    List LogRecord × Except SourceError (List TagAlias)
  | [] => ([], .ok [])
  | name :: rest =>
    match readOpening name (openSource name) with
    | .error e => ([], .error e)
    | .ok none =>
      let (log, result) := load openSource rest
      (.warn "alias source not found, skipping" [("source", name)] :: log, result)
    | .ok (some as) =>
      let (log, result) := load openSource rest
      let entry : LogRecord := ⟨.debug, "alias source loaded",
        [("source", .text name), ("aliases", .count as.length)]⟩
      (entry :: log, result.map (as ++ ·))

end TaskBuilders.Alias
