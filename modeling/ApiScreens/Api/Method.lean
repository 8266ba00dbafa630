/-!
# Methods of operations

The methods that a document may declare for a path, in the order in which they are looked at, and
the kinds of screens' operations that they stand for.
-/

namespace ApiScreens

/-- A method of a path. -/
inductive Method where
  | get
  | post
  | put
  | patch
  | delete
deriving DecidableEq

namespace Method

/-- All methods, in their order. -/
def all : List Method := [get, post, put, patch, delete]

/-- The key of a method in a document. -/
def key : Method → String
  | get => "get"
  | post => "post"
  | put => "put"
  | patch => "patch"
  | delete => "delete"

/-- The name of a method in messages. -/
def name : Method → String
  | get => "GET"
  | post => "POST"
  | put => "PUT"
  | patch => "PATCH"
  | delete => "DELETE"

/-- The method with a key. -/
def ofKey? (key : String) : Option Method := all.find? (·.key == key)

/-- The place of a method in their order. -/
def rank : Method → Nat
  | get => 0
  | post => 1
  | put => 2
  | patch => 3
  | delete => 4

/-- Whether an operation of the method must have a request body. -/
def needsBody : Method → Bool
  | post | put | patch => true
  | get | delete => false

end Method

/-- What an operation does with a resource. -/
inductive OperationKind where
  | list
  | detail
  | create
  | update
  | delete
deriving DecidableEq

namespace OperationKind

/-- All kinds, in their order. -/
def all : List OperationKind := [list, detail, create, update, delete]

/-- The name of a kind. -/
def name : OperationKind → String
  | list => "list"
  | detail => "detail"
  | create => "create"
  | update => "update"
  | delete => "delete"

/-- The place of a kind in their order. -/
def rank : OperationKind → Nat
  | list => 0
  | detail => 1
  | create => 2
  | update => 3
  | delete => 4

/-- What a method does on a path with so many parameters, if it fits a kind. -/
def infer? : Method → Nat → Option OperationKind
  | .get, 0 => some list
  | .get, 1 => some detail
  | .post, 0 => some create
  | .put, 1 => some update
  | .patch, 1 => some update
  | .delete, 1 => some delete
  | _, _ => none

/-- Whether operations of the kind name the item that they work on. -/
def hasIdentifier : OperationKind → Bool
  | detail | update | delete => true
  | list | create => false

/-- Whether operations of the kind need a schema of what is sent. -/
def needsRequest : OperationKind → Bool
  | create | update => true
  | list | detail | delete => false

end OperationKind

end ApiScreens
