import LorawanGateway.Json.Token

/-!
Reading JSON. The tokens of a text are folded over a stack of open arrays and objects; nesting is
not limited here, since only values that are kept whole have a limit (`Json.settle?`).
-/

namespace LorawanGateway.Json

/-- An open array with the items read so far, latest first, or an open object with its members
and the name of the value to come. A member whose name is no text makes the object unreadable. -/
inductive Frame where
  | array (items : List Json)
  | object (members : Option (List (String × Json))) (name : Option String)

/-- What the text read so far allows next, inside the open frames. -/
inductive Position where
  | atValue (frames : List Frame)
  | atValueOrEnd (frames : List Frame)
  | atNameOrEnd (frames : List Frame)
  | atName (members : Option (List (String × Json))) (frames : List Frame)
  | atColon (members : Option (List (String × Json))) (name : Option String) (frames : List Frame)
  | after (value : Json) (frames : List Frame)

namespace Position

/-- The object that a row of members makes, latest first. -/
def objectOf : Option (List (String × Json)) → Json
  | none => .unreadable
  | some members => .object members.reverse

/-- One more member, unless a name is no text. -/
def addMember (members : Option (List (String × Json))) (name : Option String) (value : Json) :
    Option (List (String × Json)) :=
  match members, name with
  | some members, some name => some ((name, value) :: members)
  | _, _ => none

/-- A token where a value starts. -/
def startValue (frames : List Frame) : Token → Option Position
  | .openArray => some (.atValueOrEnd (.array [] :: frames))
  | .openObject => some (.atNameOrEnd frames)
  | .null => some (.after .null frames)
  | .bool value => some (.after (.bool value) frames)
  | .number numeral => some (.after (numeral.number?.elim .unreadable .number) frames)
  | .text units => some (.after ((TextUnit.text? units).elim .unreadable .text) frames)
  | _ => none

/-- A token where the name of a member stands. -/
def startMember (members : Option (List (String × Json))) (frames : List Frame) :
    Token → Option Position
  | .text units => some (.atColon members (TextUnit.text? units) frames)
  | _ => none

def finishValue (value : Json) : List Frame → Token → Option Position
  | .array items :: frames, .comma => some (.atValue (.array (value :: items) :: frames))
  | .array items :: frames, .closeArray => some (.after (.array (value :: items).reverse) frames)
  | .object members name :: frames, .comma => some (.atName (addMember members name value) frames)
  | .object members name :: frames, .closeObject =>
    some (.after (objectOf (addMember members name value)) frames)
  | _, _ => none

def step : Position → Token → Option Position
  | .atValue frames, token => startValue frames token
  | .atValueOrEnd (_ :: frames), .closeArray => some (.after (.array []) frames)
  | .atValueOrEnd frames, token => startValue frames token
  | .atNameOrEnd frames, .closeObject => some (.after (.object []) frames)
  | .atNameOrEnd frames, token => startMember (some []) frames token
  | .atName members frames, token => startMember members frames token
  | .atColon members name frames, .colon => some (.atValue (.object members name :: frames))
  | .atColon .., _ => none
  | .after value frames, token => finishValue value frames token

end Position

def ofTokens? (tokens : List Token) : Option Json :=
  match tokens.foldlM Position.step (.atValue []) with
  | some (.after value []) => some value
  | _ => none

def ofOctets? (octets : Octets) : Option Json :=
  (Token.list? octets).bind ofTokens?

def ofText? (text : String) : Option Json :=
  ofOctets? (Octets.ofText text)

/-- Members in the order of their names; of members with one name the last one given counts. -/
def insertMember (name : String) (value : Json) : List (String × Json) → List (String × Json)
  | [] => [(name, value)]
  | (other, kept) :: rest =>
    if name < other then (name, value) :: (other, kept) :: rest
    else if name = other then (name, value) :: rest
    else (other, kept) :: insertMember name value rest

mutual

/-- The value kept whole: every part readable, objects in the order of their names, nested in at
most `depth` arrays and objects. -/
def settle? (depth : Nat) : Json → Option Json
  | .array items =>
    if depth = 0 then none else .array <$> settleItems? (depth - 1) items
  | .object members =>
    if depth = 0 then none else .object <$> settleMembers? (depth - 1) members []
  | .unreadable => none
  | value => some value

def settleItems? (depth : Nat) : List Json → Option (List Json)
  | [] => some []
  | item :: rest => do
    let item ← settle? depth item
    let rest ← settleItems? depth rest
    return item :: rest

/-- Each member kept whole and put in its place among those before it. -/
def settleMembers? (depth : Nat) :
    List (String × Json) → List (String × Json) → Option (List (String × Json))
  | [], sorted => some sorted
  | (name, value) :: rest, sorted => do
    let value ← settle? depth value
    settleMembers? depth rest (insertMember name value sorted)

end

def depthLimit : Nat := 127

end LorawanGateway.Json
