import FirmwareSymbols.Text.Split

/-!
# Paths

A path is a text whose parts are separated by slashes. Its components leave out empty parts, and parts that are one
dot except at the start of a relative path. Paths are ordered component by component, so `a/b` comes before `a-b`.
-/

namespace FirmwareSymbols

structure Path where
  text : String
deriving DecidableEq, Repr, Inhabited

inductive Component
  | root
  | current
  | parent
  | normal (name : String)
deriving DecidableEq, Repr

namespace Component

def rank : Component → Nat
  | .root => 0
  | .current => 1
  | .parent => 2
  | .normal _ => 3

/-- The root comes first, then `.`, then `..`, then names in their byte order. -/
def before : Component → Component → Bool
  | .normal a, .normal b => a < b
  | a, b => a.rank < b.rank

end Component

namespace Path

/-- No file can have such a path. -/
def hasNul (p : Path) : Bool := p.text.toList.contains '\x00'

/-- The texts between the slashes. -/
def parts (p : Path) : List String := Text.splitText '/' p.text

def isAbsolute (p : Path) : Bool := p.text.toList.head? = some '/'

def component? (part : String) : Option Component :=
  if part = "" || part = "." then none
  else if part = ".." then some .parent
  else some (.normal part)

def components (p : Path) : List Component :=
  if p.isAbsolute then .root :: p.parts.filterMap component?
  else
    match p.parts with
    | "." :: rest => .current :: rest.filterMap component?
    | all => all.filterMap component?

/-- The last component if it is a name. -/
def fileName? (p : Path) : Option String :=
  match p.components.getLast? with
  | some (.normal name) => some name
  | _ => none

/-- Splits a file name at its last dot, unless there is none or it comes first. -/
def splitName (name : String) : String × Option String :=
  match (Text.splitText '.' name).reverse with
  | ext :: stem :: more =>
    if more.isEmpty && stem = "" then (name, none)
    else (String.intercalate "." (stem :: more).reverse, some ext)
  | _ => (name, none)

/-- What follows the last dot of the file name. -/
def extension? (p : Path) : Option String := p.fileName?.bind fun name => (splitName name).2

/-- The file name without its extension. -/
def stem? (p : Path) : Option String := p.fileName?.map fun name => (splitName name).1

/-- The path of an entry of this directory. An absolute `name` replaces the directory. -/
def join (dir : Path) (name : String) : Path :=
  if name.toList.head? = some '/' then ⟨name⟩
  else if dir.text = "" || dir.text.toList.getLast? = some '/' then ⟨dir.text ++ name⟩
  else ⟨dir.text ++ "/" ++ name⟩

/-- Drops the parts that stand for no component from the end of a list of parts in reverse order. -/
private def dropIdle (absolute : Bool) : List String → List String
  | [] => []
  | [part] => if part = "" || (absolute && part = ".") then [] else [part]
  | part :: rest => if part = "" || part = "." then dropIdle absolute rest else part :: rest

/-- The path without its last component; `none` if it has no component or only the root. -/
def parent? (p : Path) : Option Path :=
  match dropIdle p.isAbsolute p.parts.reverse with
  | [] => none
  | _ :: rest =>
    match dropIdle p.isAbsolute rest with
    | [] => some ⟨if p.isAbsolute then "/" else ""⟩
    | kept => some ⟨String.intercalate "/" kept.reverse⟩

/-- The component-wise order. -/
def componentsLe : List Component → List Component → Bool
  | [], _ => true
  | _ :: _, [] => false
  | a :: as, b :: bs => a.before b || (a = b && componentsLe as bs)

def le (p q : Path) : Bool := componentsLe p.components q.components

def sort (paths : List Path) : List Path := paths.mergeSort le

end Path

end FirmwareSymbols
