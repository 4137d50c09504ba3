import QueryCoercion.Json.Reader
import QueryCoercion.Json.Value

namespace QueryCoercion

structure Config where
  timezone : String := "UTC"
deriving DecidableEq

inductive ConfigError where
  | unfinished
  | malformed
  | rejected (cause : DecodeError)
deriving DecidableEq

def ConfigError.ofFault : Lexeme.Fault → ConfigError
  | .unfinished => .unfinished
  | .malformed => .malformed

namespace Config

open Lexeme

def typeName : String := "DbConfig"

def take (c : Config) (key : String) (value : Json) : Json.Decoded Config :=
  if key = "timezone" then (Json.asString value).map fun timezone => { c with timezone := timezone }
  else .ok c

def ofJson : Json → Json.Decoded Config
  | .object members => Json.fields take {} members
  | .array items => do
    let timezone ← Json.element Json.asString (fun _ => .ok ({} : Config).timezone) items 0
    Json.within 1 items ⟨timezone⟩
  | other => .error (.wrongType other.found (.record typeName))

def toJson (c : Config) : Json := .object [("timezone", .string c.timezone)]

abbrev Read (α : Type) := Except ConfigError α

def lift {α : Type} (r : Except Fault α) : Read α := r.mapError ConfigError.ofFault

/-- What stands at a place where something else was expected. A scalar has to be
well formed up to its end, of an array or object only the bracket is looked at. -/
def found (text : List Char) : Except Fault Found :=
  match text with
  | [] => .error .unfinished
  | 'n' :: rest => (word ['u', 'l', 'l'] rest).map fun _ => .null
  | 't' :: rest => (word ['r', 'u', 'e'] rest).map fun _ => .bool true
  | 'f' :: rest => (word ['a', 'l', 's', 'e'] rest).map fun _ => .bool false
  | '"' :: rest => (Lexeme.string rest).map fun r => .string r.1
  | '[' :: _ => .ok .sequence
  | '\x7b' :: _ => .ok .map
  | c :: _ =>
    if c = '-' ∨ c.isDigit then (Numeral.read text).map fun r => r.1.found else .error .malformed

def mismatch {α : Type} (text : List Char) (expected : Shape) : Read α := do
  let what ← lift (found text)
  .error (.rejected (.wrongType what expected))

def stringValue (text : List Char) : Read (String × List Char) :=
  match skipBlanks text with
  | '"' :: rest => lift (Lexeme.string rest)
  | text => mismatch text .string

def colon (text : List Char) : Read (List Char) :=
  match skipBlanks text with
  | ':' :: rest => .ok rest
  | [] => .error .unfinished
  | _ :: _ => .error .malformed

/-- The members from the opening quote of a name on; a timezone may be given once.
Every member takes a character off the text, so its length is fuel enough. -/
def members : Nat → Option String → List Char → Read (Config × List Char)
  | 0, _, _ => .error .unfinished
  | fuel + 1, timezone, text => do
    let (name, rest) ← lift (Lexeme.string text)
    let (timezone, rest) ←
      if name = "timezone" then
        if timezone.isSome then .error (.rejected (.repeatedField "timezone"))
        else do
          let (value, rest) ← stringValue (← colon rest)
          pure (some value, rest)
      else do
        let rest ← lift (Json.skipValue (← colon rest))
        pure (timezone, rest)
    match skipBlanks rest with
    | '\x7d' :: rest =>
      match timezone with
      | some value => .ok (⟨value⟩, rest)
      | none => .ok ({}, rest)
    | ',' :: rest =>
      match skipBlanks rest with
      | '"' :: rest => members fuel timezone rest
      | [] => .error .unfinished
      | _ :: _ => .error .malformed
    | [] => .error .unfinished
    | _ :: _ => .error .malformed

def items (text : List Char) : Read (Config × List Char) :=
  match skipBlanks text with
  | [] => .error .unfinished
  | ']' :: rest => .ok ({}, rest)
  | text => do
    let (timezone, rest) ← stringValue text
    match skipBlanks rest with
    | ']' :: rest => .ok (⟨timezone⟩, rest)
    | [] => .error .unfinished
    | _ :: _ => .error .malformed

def value (text : List Char) : Read (Config × List Char) :=
  match skipBlanks text with
  | '[' :: rest => items rest
  | '\x7b' :: rest =>
    match skipBlanks rest with
    | '\x7d' :: rest => .ok ({}, rest)
    | '"' :: rest => members (rest.length + 1) none rest
    | [] => .error .unfinished
    | _ :: _ => .error .malformed
  | text => mismatch text (.record typeName)

/-- The text is read from left to right, and the first problem is the one reported, whether the
text is broken there or only holds the wrong thing. -/
def ofText (text : String) : Read Config := do
  let (config, rest) ← value text.toList
  if (skipBlanks rest).isEmpty then .ok config else .error .malformed

end Config

/-- A notice for the author of a query, about a stretch of its text. -/
structure Notice where
  start : Option Nat
  stop : Option Nat
  message : String
deriving DecidableEq

namespace Notice

def typeName : String := "Notice"

/-- A notice of which only some members have been read. -/
structure Draft where
  start : Option Nat := none
  stop : Option Nat := none
  message : Option String := none

def Draft.take (d : Draft) (key : String) (value : Json) : Json.Decoded Draft :=
  match key with
  | "start" => (Json.optional Json.asPosition value).map fun start => { d with start := start }
  | "end" => (Json.optional Json.asPosition value).map fun stop => { d with stop := stop }
  | "message" => (Json.asString value).map fun message => { d with message := some message }
  | _ => .ok d

def ofItems (items : List Json) : Json.Decoded Notice := do
  let start ← Json.element (Json.optional Json.asPosition) (Json.tooShort typeName 3) items 0
  let stop ← Json.element (Json.optional Json.asPosition) (Json.tooShort typeName 3) items 1
  let message ← Json.element Json.asString (Json.tooShort typeName 3) items 2
  Json.within 3 items ⟨start, stop, message⟩

def ofJson : Json → Json.Decoded Notice
  | .object members => do
    let draft ← Json.fields Draft.take {} members
    let message ← Json.require "message" draft.message
    .ok ⟨draft.start, draft.stop, message⟩
  | .array items => ofItems items
  | other => .error (.wrongType other.found (.record typeName))

def toJson (n : Notice) : Json :=
  .object [("end", .ofOption .nat n.stop), ("message", .string n.message),
    ("start", .ofOption .nat n.start)]

end Notice

structure Database where
  config : Config
deriving DecidableEq

/-- What a query is compiled in. -/
structure Context where
  team : Option Int64
  database : Option Database
  notices : List Notice
deriving DecidableEq

namespace Context

def timezone? (c : Context) : Option String := c.database.map (·.config.timezone)

def push (c : Context) (notice : Notice) : Context := { c with notices := c.notices ++ [notice] }

end Context

end QueryCoercion
