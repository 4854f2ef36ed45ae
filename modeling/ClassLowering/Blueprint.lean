import ClassLowering.Depth

/-!
# Blueprints of classes

A blueprint is a class as its author wrote it: the members in the order of the
text, each with a key, perhaps a body, and a position that settles the order in
which members take effect. The types are parametrised by what a literal key is
and by what a body is.

A blueprint can also be written as a sequence of entries. Positions then
count the entries, constructors among them, and of several constructors the
last one stays. Positions have 32 bits, so the count starts again behind the
greatest of them.
-/

namespace ClassLowering

/-- Bounds on the bodies that a class owns. -/
structure Limits where
  /-- The greatest depth at which a body may run. -/
  callDepth : Depth
  /-- The greatest number of values that one generator call may yield. -/
  generatorYields : Nat
  deriving DecidableEq, Repr

namespace Limits

/-- The bounds of a function outside all classes, and of a class that names
none. -/
def standard : Limits := ⟨256, 100000⟩

instance : Inhabited Limits := ⟨standard⟩

end Limits

/-- The place of a member in the order of evaluation. -/
abbrev Position := UInt32

/-- A number that is given as a position counts from the least one on again. -/
instance : Coe Nat Position := ⟨UInt32.ofNat⟩

/-- What a member is. -/
inductive MemberKind
  | method
  | getter
  | setter
  | field
  deriving DecidableEq, Repr

/-- How a member is addressed: by a key as written, or by the value of a
body. -/
inductive MemberKey (κ β : Type)
  | literal (key : κ)
  | computed (body : β)

/-- A member of a class. -/
structure Member (κ β : Type) where
  kind : MemberKind
  key : MemberKey κ β
  isGenerator : Bool
  /-- The procedure, or the initializer of a field. -/
  body : Option β
  params : List String
  /-- The place of the member in the order of evaluation. -/
  position : Position

/-- The designated constructor of a class. -/
structure ConstructorPart (β : Type) where
  params : List String
  body : Option β
  position : Position

/-- The members and the constructor of a class. -/
structure ClassBody (κ β : Type) where
  members : List (Member κ β)
  constructor : Option (ConstructorPart β)

/-- A class as written, and what stands for the scope around it. -/
structure Blueprint (σ κ β : Type) where
  name : Option String
  body : ClassBody κ β
  scope : σ

namespace MemberKey

variable {κ β : Type}

/-- Whether a key is the value of a body. -/
def isComputed : MemberKey κ β -> Bool
  | .literal _ => false
  | .computed _ => true

end MemberKey

/-- One entry of a class that is written from top to bottom. -/
inductive BlueprintEntry (κ β : Type)
  | constructor (params : List String) (body : β)
  | method (key : MemberKey κ β) (body : β)
  | generator (key : MemberKey κ β) (body : β)
  | getter (key : MemberKey κ β) (body : β)
  | setter (key : MemberKey κ β) (body : β)
  | field (key : MemberKey κ β) (body : Option β)
  /-- A member that is made elsewhere. Its own position does not count. -/
  | member (member : Member κ β)

namespace ClassBody

variable {κ β : Type}

/-- The class without members. -/
def empty : ClassBody κ β := ⟨[], none⟩

/-- Add an entry at a position. -/
def add (body : ClassBody κ β) (position : Position) :
    BlueprintEntry κ β -> ClassBody κ β
  | .constructor params procedure =>
      { body with constructor := some ⟨params, some procedure, position⟩ }
  | .method key procedure =>
      addMember ⟨.method, key, false, some procedure, [], position⟩
  | .generator key procedure =>
      addMember ⟨.method, key, true, some procedure, [], position⟩
  | .getter key procedure =>
      addMember ⟨.getter, key, false, some procedure, [], position⟩
  | .setter key procedure =>
      addMember ⟨.setter, key, false, some procedure, ["value"], position⟩
  | .field key initial => addMember ⟨.field, key, false, initial, [], position⟩
  | .member member => addMember { member with position := position }
where
  addMember (member : Member κ β) : ClassBody κ β :=
    { body with members := body.members ++ [member] }

/-- Add entries whose positions count up from a first one, and wrap around. -/
def addAll (body : ClassBody κ β) :
    Position -> List (BlueprintEntry κ β) -> ClassBody κ β
  | _, [] => body
  | position, entry :: rest =>
      (body.add position entry).addAll (position + 1) rest

/-- The class that a sequence of entries writes. -/
def ofEntries (entries : List (BlueprintEntry κ β)) : ClassBody κ β :=
  empty.addAll 0 entries

/-- Insert a member behind all members of a smaller position and before all
others. -/
def insertByPosition (member : Member κ β) :
    List (Member κ β) -> List (Member κ β)
  | [] => [member]
  | first :: rest =>
      if member.position ≤ first.position then member :: first :: rest
      else first :: insertByPosition member rest

/-- Members by position; members of one position keep their order. -/
def inOrder : List (Member κ β) -> List (Member κ β)
  | [] => []
  | member :: rest => insertByPosition member (inOrder rest)

end ClassBody
end ClassLowering
