import BoundQuery.Text.Letters

/-!
Which keys depend on which names. Names are taken without letter case; the keys of a name are kept
sorted and each once, and a name without keys is dropped.
-/

set_option autoImplicit false

namespace BoundQuery

def insertKey (key : String) : List String → List String
  | [] => [key]
  | other :: rest =>
      if key < other then key :: other :: rest
      else if key == other then other :: rest
      else other :: insertKey key rest

def insertKeys (keys found : List String) : List String :=
  found.foldl (fun sorted key => insertKey key sorted) keys

structure KeyIndex where
  entries : List (String × List String) := []

namespace KeyIndex

def insertUnder (name key : String) :
    List (String × List String) → List (String × List String)
  | [] => [(name, [key])]
  | (other, keys) :: rest =>
      if name == other then (other, insertKey key keys) :: rest
      else (other, keys) :: insertUnder name key rest

def insert (index : KeyIndex) (name key : String) : KeyIndex :=
  ⟨insertUnder (Text.lower name) key index.entries⟩

def keysFor (index : KeyIndex) (name : String) : List String :=
  (index.entries.lookup (Text.lower name)).getD []

/-- The keys of a name, and the index without the name. -/
def take (index : KeyIndex) (name : String) : List String × KeyIndex :=
  (index.keysFor name, ⟨index.entries.filter (fun entry => entry.1 != Text.lower name)⟩)

def forgetKey (index : KeyIndex) (key : String) : KeyIndex :=
  ⟨(index.entries.map (fun entry => (entry.1, entry.2.filter (· != key)))).filter
    (fun entry => !entry.2.isEmpty)⟩

/-- The number of names. -/
def size (index : KeyIndex) : Nat :=
  index.entries.length

def isEmpty (index : KeyIndex) : Bool :=
  index.entries.isEmpty

end KeyIndex

end BoundQuery
