/-! Elements, the trees that documents are. An element keeps the text before its first child; text
between children is not kept. -/
namespace NumberingPlan.Xml

/-- An element: its name, which begins with its namespace in braces if it has one, its attributes
in order, the text before its first child, and its children. -/
inductive Element where
  | node (name : String) (attributes : List (String × String)) (text : String)
      (children : List Element)

namespace Element

def name : Element → String
  | node name _ _ _ => name

def attributes : Element → List (String × String)
  | node _ attributes _ _ => attributes

/-- The text of an element before its first child. -/
def text : Element → String
  | node _ _ text _ => text

def children : Element → List Element
  | node _ _ _ children => children

def attribute? (e : Element) (name : String) : Option String := e.attributes.lookup name

def childrenNamed (e : Element) (name : String) : List Element :=
  e.children.filter (·.name == name)

/-- The first child of a name. -/
def child? (e : Element) (name : String) : Option Element := e.children.find? (·.name == name)

/-- The text of the first child of a name. -/
def childText? (e : Element) (name : String) : Option String := (e.child? name).map text

end Element

end NumberingPlan.Xml
