import StochasticGrammar.Token

/-! The registry of named productions as it is kept, a map of bodies beside the order of first
registration, and the association list it stands for. -/
namespace StochasticGrammar

/-- Productions by name, in order of first registration. -/
structure Grammar where
  entries : List (String × List Node)
  deriving Inhabited

namespace Grammar

def empty : Grammar := ⟨[]⟩

def names (g : Grammar) : List String := g.entries.map Prod.fst

def size (g : Grammar) : Nat := g.entries.length

def isEmpty (g : Grammar) : Bool := g.entries.isEmpty

def lookup (g : Grammar) (name : String) : Option (List Node) := g.entries.lookup name

def contains (g : Grammar) (name : String) : Bool := (g.lookup name).isSome

/-- The productions in order: each name with the body it looks up to, a name without one left
out. -/
def iter (g : Grammar) : List (String × List Node) :=
  g.names.filterMap fun n => (g.lookup n).map (n, ·)

/-- Entries with the body of `name` replaced, or the entry added at the end. -/
def insertEntry (name : String) (body : List Node) :
    List (String × List Node) → List (String × List Node)
  | [] => [(name, body)]
  | (n, b) :: rest => if n = name then (name, body) :: rest else (n, b) :: insertEntry name body rest

/-- Registers a production: an existing name keeps its place and takes the new body. -/
def register (g : Grammar) (name : String) (body : List Node) : Grammar :=
  ⟨insertEntry name body g.entries⟩

/-- Registers every production of `other` in its order. -/
def merge (g other : Grammar) : Grammar :=
  other.entries.foldl (fun acc e => acc.register e.1 e.2) g

/-- A grammar of the given productions, each registered in turn. -/
def ofList (productions : List (String × List Node)) : Grammar :=
  productions.foldl (fun acc e => acc.register e.1 e.2) empty

@[simp] theorem names_empty : empty.names = [] := rfl

@[simp] theorem lookup_empty (name : String) : empty.lookup name = none := rfl

theorem insertEntry_names (name : String) (body : List Node) (es : List (String × List Node)) :
    (insertEntry name body es).map Prod.fst =
      if name ∈ es.map Prod.fst then es.map Prod.fst else es.map Prod.fst ++ [name] := by
  induction es with
  | nil => simp [insertEntry]
  | cons e rest ih =>
    obtain ⟨n, b⟩ := e
    by_cases h : n = name
    · subst h; simp [insertEntry]
    · simp only [insertEntry, h, if_false, List.map_cons, ih]
      by_cases hm : name ∈ rest.map Prod.fst
      · simp [hm]
      · simp [hm, Ne.symm h]

theorem names_register (g : Grammar) (name : String) (body : List Node) :
    (g.register name body).names = if name ∈ g.names then g.names else g.names ++ [name] :=
  insertEntry_names name body g.entries

end Grammar

/-- The registry as it is kept: bodies by name, and the names in the order in which they were
first registered. Only registering adds to either, and it keeps the two in step. -/
structure Registry where
  bodies : String → Option (List Node)
  order : List String

namespace Registry

/-- Stores `body` under `name`, returning the body stored there before. -/
def insertBody (m : String → Option (List Node)) (name : String) (body : List Node) :
    Option (List Node) × (String → Option (List Node)) :=
  (m name, fun n => if n = name then some body else m n)

/-- Takes the body stored under `name` out of the map, returning it. -/
def removeBody (m : String → Option (List Node)) (name : String) :
    Option (List Node) × (String → Option (List Node)) :=
  (m name, fun n => if n = name then none else m n)

def empty : Registry := ⟨fun _ => none, []⟩

instance : Inhabited Registry := ⟨empty⟩

/-- Registers a production, overwriting an earlier body; the name is added to the order only
when the map held no body for it. -/
def register (r : Registry) (name : String) (body : List Node) : Registry :=
  let (previous, bodies) := insertBody r.bodies name body
  { bodies, order := if previous.isNone then r.order ++ [name] else r.order }

def lookup (r : Registry) (name : String) : Option (List Node) := r.bodies name

def contains (r : Registry) (name : String) : Bool := (r.bodies name).isSome

def names (r : Registry) : List String := r.order

def size (r : Registry) : Nat := r.order.length

def isEmpty (r : Registry) : Bool := r.order.isEmpty

/-- The productions in order, a name that looks up to no body left out. -/
def iter (r : Registry) : List (String × List Node) :=
  r.order.filterMap fun n => (r.lookup n).map (n, ·)

/-- One step of a merge: the body of `name` is taken out of what is left of the other map and,
if there was one, registered. -/
def drain (acc : Registry × (String → Option (List Node))) (name : String) :
    Registry × (String → Option (List Node)) :=
  let (taken, rest) := removeBody acc.2 name
  match taken with
  | some body => (acc.1.register name body, rest)
  | none => (acc.1, rest)

/-- Merges `other` in, draining its map in its order, so its productions override. -/
def merge (r other : Registry) : Registry :=
  (other.order.foldl drain (r, other.bodies)).1

/-- The association list a registry stands for. -/
def toGrammar (r : Registry) : Grammar := ⟨r.iter⟩

end Registry

end StochasticGrammar
