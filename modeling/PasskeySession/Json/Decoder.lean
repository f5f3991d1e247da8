import PasskeySession.Json.Refusal
import PasskeySession.Json.Tree

/-! # Reading values from JSON

A decoder reads a value from the tree of a text, from left to right, and stops at the first fault. A record
is an object, whose unknown members are skipped, or an array of its fields in order. Brackets nest at most
127 deep, save inside what is skipped. -/

namespace PasskeySession.Json

/-- Reads a value from a tree in which so many more brackets may nest. -/
abbrev Decoder (α : Type) := (room : Nat) → Tree → Except DecodeError α

def deepest : Nat := 127

namespace Tree

mutual

def sound : Tree → Bool
  | .array items closed => closed && itemsSound items
  | .object members closed => closed && membersSound members
  | .broken => false
  | _ => true

def itemsSound : List Tree → Bool
  | [] => true
  | item :: items => sound item && itemsSound items

def membersSound : List (Option String × Tree) → Bool
  | [] => true
  | (_, item) :: members => sound item && membersSound members

end

/-- Puts a member in its place by name, over one of the same name. -/
def insertMember (name : String) (v : Json) : List (String × Json) → List (String × Json)
  | [] => [(name, v)]
  | (other, w) :: members =>
    if name < other then (name, v) :: (other, w) :: members
    else if name = other then (name, v) :: members
    else (other, w) :: insertMember name v members

/-- The name of the first member of an object that stands for a number, whose text is that member. -/
def numberName : String := "$serde_json::private::Number"

/-- The number that a lone member gives the text of. -/
def namedNumber? (members : List (Option String × Tree)) : Option Json :=
  match members with
  | [(_, .string (some s))] => (wholeNumeral? s.toList).map .number
  | _ => none

mutual

/-- A tree as a value, whose members stand in the order of their names, the last of each name. -/
def value? : (room : Nat) → Tree → Option Json
  | _, .null => some .null
  | _, .bool b => some (.bool b)
  | _, .number n => some (.number n)
  | _, .string s => s.map .string
  | room, .array items closed =>
    match room, closed with
    | room + 1, true => (values? room items).map .array
    | _, _ => none
  | room, .object members closed =>
    match room, closed with
    | room + 1, true =>
      if (members.head?.bind (·.1)) = some numberName then namedNumber? members
      else (memberValues? room [] members).map .object
    | _, _ => none
  | _, .broken => none

def values? : (room : Nat) → List Tree → Option (List Json)
  | _, [] => some []
  | room, item :: items =>
    match value? room item, values? room items with
    | some v, some vs => some (v :: vs)
    | _, _ => none

def memberValues? : (room : Nat) → List (String × Json) → List (Option String × Tree) → Option (List (String × Json))
  | _, before, [] => some before
  | room, before, (name, item) :: members =>
    match name, value? room item with
    | some name, some v => memberValues? room (insertMember name v before) members
    | _, _ => none

end
mutual

def ofJson : Json → Tree
  | .null => .null
  | .bool b => .bool b
  | .number n => .number n
  | .string s => .string (some s)
  | .array items => .array (ofItems items) true
  | .object members => .object (ofMembers members) true

def ofItems : List Json → List Tree
  | [] => []
  | v :: vs => ofJson v :: ofItems vs

def ofMembers : List (String × Json) → List (Option String × Tree)
  | [] => []
  | (name, v) :: members => (some name, ofJson v) :: ofMembers members

end
end Tree

namespace Decoder
variable {α β : Type}

def value : Decoder Json := fun room t =>
  match t.value? room with
  | some v => .ok v
  | none => .error .mismatch

def string : Decoder String
  | _, .string (some s) => .ok s
  | _, _ => .error .mismatch

def bool : Decoder Bool
  | _, .bool b => .ok b
  | _, _ => .error .mismatch

/-- A natural number of 64 bits, without fraction or exponent. -/
def word64 : Decoder Nat
  | _, .number n =>
    match n.toNat? with
    | some i => if i < Text.wordLimit then .ok i else .error .mismatch
    | none => .error .mismatch
  | _, _ => .error .mismatch

/-- A string that is read further; what refuses it is the fault. -/
def text (read : String → Except Fault α) : Decoder α := fun room t =>
  match string room t with
  | .error e => .error e
  | .ok s =>
    match read s with
    | .ok a => .ok a
    | .error f => .error (.refused (.fault f))

def optional (d : Decoder α) : Decoder (Option α) := fun room t =>
  match t with
  | .null => .ok none
  | t => (d room t).map some

/-- The items of a list, the first fault among them being the fault of the list. -/
def items (d : Decoder α) (room : Nat) : List Tree → Except DecodeError (List α)
  | [] => .ok []
  | t :: ts =>
    match d room t with
    | .error e => .error e
    | .ok a => (items d room ts).map (a :: ·)

def list (d : Decoder α) : Decoder (List α)
  | room + 1, .array ts closed =>
    match items d room ts with
    | .error e => .error e
    | .ok as => if closed then .ok as else .error .mismatch
  | _, _ => .error .mismatch

/-- What is made of a value once it has been read to its end. -/
def andThen (d : Decoder α) (f : α → Except DecodeError β) : Decoder β := fun room t =>
  match d room t with
  | .error e => .error e
  | .ok a => f a

end Decoder

/-! ### Records -/

/-- A field of a record: its name, how it is read, and its value when it is missing, if it may be. -/
structure Field (α : Type) where
  name : String
  decode : Decoder α
  absent : Option α := none

/-- The fields of a record in order, with the type of their values together. -/
inductive Fields : Type → Type 1
  | nil : Fields Unit
  | cons {α β : Type} (field : Field α) (rest : Fields β) : Fields (α × β)

namespace Fields

def Slots : {τ : Type} → Fields τ → Type
  | _, .nil => Unit
  | _, @cons α _ _ rest => Option α × rest.Slots

def empty : {τ : Type} → (fs : Fields τ) → fs.Slots
  | _, .nil => ()
  | _, .cons _ rest => (none, rest.empty)

/-- Stores a member; none if no field has its name. A field that is met again is a fault. -/
def put (room : Nat) (name : String) (t : Tree) :
    {τ : Type} → (fs : Fields τ) → fs.Slots → Except DecodeError (Option fs.Slots)
  | _, .nil, _ => .ok none
  | _, .cons field rest, slots =>
    if field.name = name then
      match slots.1 with
      | some _ => .error .mismatch
      | none =>
        match field.decode room t with
        | .ok a => .ok (some (some a, slots.2))
        | .error e => .error e
    else (rest.put room name t slots.2).map (·.map (slots.1, ·))

/-- Stores the members one after the other; a member of no field is skipped. -/
def putAll (room : Nat) {τ : Type} (fs : Fields τ) :
    fs.Slots → List (Option String × Tree) → Except DecodeError fs.Slots
  | slots, [] => .ok slots
  | _, (none, _) :: _ => .error .mismatch
  | slots, (some name, t) :: members =>
    match fs.put room name t slots with
    | .error e => .error e
    | .ok (some slots) => fs.putAll room slots members
    | .ok none => if t.sound then fs.putAll room slots members else .error .mismatch

/-- The values of all fields, a missing one being what its absence means. -/
def finish : {τ : Type} → (fs : Fields τ) → fs.Slots → Option τ
  | _, .nil, _ => some ()
  | _, .cons field rest, slots =>
    match slots.1.or field.absent, rest.finish slots.2 with
    | some a, some as => some (a, as)
    | _, _ => none

def ofItems (room : Nat) : {τ : Type} → (fs : Fields τ) → List Tree → Except DecodeError τ
  | _, .nil, [] => .ok ()
  | _, .nil, _ :: _ => .error .mismatch
  | _, .cons field rest, [] =>
    match field.absent, rest.ofItems room [] with
    | some a, .ok as => .ok (a, as)
    | _, _ => .error .mismatch
  | _, .cons field rest, t :: ts =>
    match field.decode room t with
    | .error e => .error e
    | .ok a => (rest.ofItems room ts).map (a, ·)

end Fields

namespace Decoder
variable {τ α : Type}

/-- A record; what is made of its fields is decided at its closing bracket. -/
def record (fs : Fields τ) (make : τ → Except DecodeError α) : Decoder α
  | room + 1, .object members closed =>
    match fs.putAll room fs.empty members with
    | .error e => .error e
    | .ok slots =>
      match closed, fs.finish slots with
      | true, some v => make v
      | _, _ => .error .mismatch
  | room + 1, .array ts closed =>
    match fs.ofItems room ts with
    | .error e => .error e
    | .ok v => if closed then make v else .error .mismatch
  | _, _ => .error .mismatch

def run (d : Decoder α) (cs : List Char) : Except DecodeError α :=
  let doc := Tree.read cs
  match d deepest doc.root with
  | .error e => .error e
  | .ok a => if doc.ended then .ok a else .error .mismatch

def runJson (d : Decoder α) (v : Json) : Except DecodeError α := d deepest (Tree.ofJson v)

def runText (d : Decoder α) (text : String) : Except DecodeError α := d.run text.toList

end Decoder
end PasskeySession.Json
