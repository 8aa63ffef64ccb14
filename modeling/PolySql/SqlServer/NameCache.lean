import PolySql.SqlServer.Name
import Std.Data.HashMap

namespace PolySql.SqlServer

structure NameCache where
  entries : Std.HashMap String String

namespace NameCache

def limit : Nat := 4096

def empty : NameCache := ⟨∅⟩

def get? (c : NameCache) (name : String) : Option String :=
  c.entries[name]?

def remember (c : NameCache) (name quoted : String) : NameCache :=
  let room := if c.entries.size ≥ limit then ∅ else c.entries
  ⟨room.insert name quoted⟩

def quote (c : NameCache) (name : String) : String × NameCache :=
  match c.get? name with
  | some quoted => (quoted, c)
  | none =>
    let quoted := quoteName name
    (quoted, c.remember name quoted)

def quoteColumn (c : NameCache) (name : String) : String × NameCache :=
  if name == "*" then ("*", c) else c.quote name

def quoteAll (quote : NameCache → String → String × NameCache) (c : NameCache) :
    List String → List String × NameCache
  | [] => ([], c)
  | name :: names =>
    let (quoted, c) := quote c name
    let (rest, c) := quoteAll quote c names
    (quoted :: rest, c)

end NameCache

end PolySql.SqlServer
