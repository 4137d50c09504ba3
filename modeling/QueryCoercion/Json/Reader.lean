import QueryCoercion.Json.Lexeme

namespace QueryCoercion.Json

open Lexeme

mutual

/-- Every step takes a character off the text, so its length is fuel enough. -/
def valueFrom : Nat → List Char → Except Fault (Json × List Char)
  | 0, _ => .error .unfinished
  | fuel + 1, text =>
    match skipBlanks text with
    | [] => .error .unfinished
    | 'n' :: rest => (word ['u', 'l', 'l'] rest).map fun r => (.null, r)
    | 't' :: rest => (word ['r', 'u', 'e'] rest).map fun r => (.bool true, r)
    | 'f' :: rest => (word ['a', 'l', 's', 'e'] rest).map fun r => (.bool false, r)
    | '"' :: rest => (Lexeme.string rest).map fun r => (.string r.1, r.2)
    | '[' :: rest =>
      match skipBlanks rest with
      | ']' :: rest => .ok (.array [], rest)
      | rest => (itemsFrom fuel [] rest).map fun r => (.array r.1, r.2)
    | '\x7b' :: rest =>
      match skipBlanks rest with
      | '\x7d' :: rest => .ok (.object [], rest)
      | rest => (membersFrom fuel [] rest).map fun r => (ofMembers r.1, r.2)
    | c :: rest =>
      if c = '-' ∨ c.isDigit then (Numeral.read (c :: rest)).map fun r => (.number r.1, r.2)
      else .error .malformed

def itemsFrom : Nat → List Json → List Char → Except Fault (List Json × List Char)
  | 0, _, _ => .error .unfinished
  | fuel + 1, done, text =>
    match valueFrom fuel text with
    | .error fault => .error fault
    | .ok (value, rest) =>
      match skipBlanks rest with
      | ',' :: rest => itemsFrom fuel (value :: done) rest
      | ']' :: rest => .ok ((value :: done).reverse, rest)
      | [] => .error .unfinished
      | _ :: _ => .error .malformed

def membersFrom :
    Nat → List (String × Json) → List Char → Except Fault (List (String × Json) × List Char)
  | 0, _, _ => .error .unfinished
  | fuel + 1, done, text =>
    match skipBlanks text with
    | [] => .error .unfinished
    | '"' :: rest =>
      match Lexeme.string rest with
      | .error fault => .error fault
      | .ok (name, rest) =>
        match skipBlanks rest with
        | ':' :: rest =>
          match valueFrom fuel rest with
          | .error fault => .error fault
          | .ok (value, rest) =>
            match skipBlanks rest with
            | ',' :: rest => membersFrom fuel ((name, value) :: done) rest
            | '\x7d' :: rest => .ok (((name, value) :: done).reverse, rest)
            | [] => .error .unfinished
            | _ :: _ => .error .malformed
        | [] => .error .unfinished
        | _ :: _ => .error .malformed
    | _ :: _ => .error .malformed

end

def parse (text : String) : Except Fault Json :=
  match valueFrom (text.length + 1) text.toList with
  | .error fault => .error fault
  | .ok (value, rest) => if (skipBlanks rest).isEmpty then .ok value else .error .malformed

/-- The kinds of bracket that can be open. -/
inductive Bracket where
  | square
  | curly
deriving DecidableEq

/-- Reads the name of a member and the colon after it. -/
def skipName (text : List Char) : Except Fault (List Char) :=
  match skipBlanks text with
  | '"' :: rest =>
    match skipString rest with
    | .error fault => .error fault
    | .ok rest =>
      match skipBlanks rest with
      | ':' :: rest => .ok rest
      | [] => .error .unfinished
      | _ :: _ => .error .malformed
  | [] => .error .unfinished
  | _ :: _ => .error .malformed

/-- Goes to where the next item of the innermost bracket starts. -/
def nextItem (bracket : Bracket) (text : List Char) : Except Fault (List Char) :=
  match bracket with
  | .square => .ok text
  | .curly => skipName text

/-- Closes brackets after a value until another item follows or none is open. The
flag tells whether to go on with an item. -/
def skipClosings : List Bracket → List Char → Except Fault (List Bracket × List Char × Bool)
  | [], text => .ok ([], text, false)
  | bracket :: enclosing, text =>
    match bracket, skipBlanks text with
    | _, ',' :: rest => (nextItem bracket rest).map fun r => (bracket :: enclosing, r, true)
    | .square, ']' :: rest => skipClosings enclosing rest
    | .curly, '\x7d' :: rest => skipClosings enclosing rest
    | _, [] => .error .unfinished
    | _, _ :: _ => .error .malformed

def skipScalar : List Char → Except Fault (List Char)
  | [] => .error .unfinished
  | 'n' :: rest => word ['u', 'l', 'l'] rest
  | 't' :: rest => word ['r', 'u', 'e'] rest
  | 'f' :: rest => word ['a', 'l', 's', 'e'] rest
  | '"' :: rest => skipString rest
  | c :: rest =>
    if c = '-' ∨ c.isDigit then Numeral.skip (c :: rest) else .error .malformed

/-- After an opening bracket: the bracket may close at once, else its first item follows. -/
def skipOpening (bracket : Bracket) (text : List Char) : Except Fault (List Char × Bool) :=
  match bracket, skipBlanks text with
  | .square, ']' :: rest => .ok (rest, true)
  | .curly, '\x7d' :: rest => .ok (rest, true)
  | _, [] => .error .unfinished
  | _, rest => (nextItem bracket rest).map fun r => (r, false)

def skipFrom : Nat → List Bracket → List Char → Except Fault (List Char)
  | 0, _, _ => .error .unfinished
  | fuel + 1, enclosing, text =>
    let opened (bracket : Bracket) (rest : List Char) : Except Fault (List Char) :=
      match skipOpening bracket rest with
      | .error fault => .error fault
      | .ok (rest, false) => skipFrom fuel (bracket :: enclosing) rest
      | .ok (rest, true) =>
        match skipClosings enclosing rest with
        | .error fault => .error fault
        | .ok (enclosing, rest, true) => skipFrom fuel enclosing rest
        | .ok (_, rest, false) => .ok rest
    match skipBlanks text with
    | '[' :: rest => opened .square rest
    | '\x7b' :: rest => opened .curly rest
    | text =>
      match skipScalar text with
      | .error fault => .error fault
      | .ok rest =>
        match skipClosings enclosing rest with
        | .error fault => .error fault
        | .ok (enclosing, rest, true) => skipFrom fuel enclosing rest
        | .ok (_, rest, false) => .ok rest

/-- Passes over one value and only checks that it is well formed. -/
def skipValue (text : List Char) : Except Fault (List Char) :=
  skipFrom (text.length + 1) [] text

end QueryCoercion.Json
