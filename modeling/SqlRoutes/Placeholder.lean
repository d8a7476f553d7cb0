import SqlRoutes.Text.Quoted

namespace SqlRoutes

inductive Style where
  /-- Every parameter is the bare marker. -/
  | simple
  /-- The marker and the number of the occurrence, counted from one. -/
  | numbered
  /-- The marker and the name of the parameter. -/
  | named
  deriving DecidableEq, Repr

namespace Style

def name : Style → String
  | .simple => "simple"
  | .numbered => "numbered"
  | .named => "named"

def ofName? (name : String) : Option Style := [simple, numbered, named].find? (·.name = name)

end Style

def bindMarker : Char := ':'

structure Placeholder where
  style : Style
  marker : Char
  deriving DecidableEq, Repr

namespace Placeholder

inductive Invalid where
  | style (name : String)
  | marker (text : String)
  deriving DecidableEq, Repr

def Invalid.message : Invalid → String
  | .style name => s!"{name.quoted} is not a valid PlaceholderStyle"
  | .marker text => s!"Placeholder marker must be a single character, got {text.quoted}"

/-- A marker is a single character. -/
def make (style : Style) (marker : String) : Except Invalid Placeholder :=
  match marker.toList with
  | [c] => .ok ⟨style, c⟩
  | _ => .error (.marker marker)

/-- A placeholder from the names of its parts; the style is checked first. -/
def ofNames (style marker : String) : Except Invalid Placeholder :=
  match Style.ofName? style with
  | some style => make style marker
  | none => .error (.style style)

def defaultMarker : Style → String
  | .simple => "?"
  | .numbered => "$"
  | .named => ":"

/-- Bind variables are written back unchanged. -/
def passthrough (p : Placeholder) : Bool := p.style ≠ .simple && p.marker = bindMarker

/-- The prepared SQL still refers to parameters by name. -/
def keepsNames (p : Placeholder) : Bool := p.style = .named || p.passthrough

/-- What stands for a bind variable `text`, the occurrence `index` counted from zero. -/
def render (p : Placeholder) (text : List Char) (index : Int) : List Char :=
  if p.passthrough then text
  else
    match p.style with
    | .simple => [p.marker]
    | .numbered => p.marker :: (toString (index + 1)).toList
    | .named => p.marker :: text.drop 1

def text (p : Placeholder) : String := s!"{p.style.name}({p.marker})"

end Placeholder

end SqlRoutes
